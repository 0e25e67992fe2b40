import PalmyProtocol.Library.Compounding
import PalmyProtocol.Library.Runs
import Mathlib.Algebra.Order.Field.Basic
import Mathlib.Tactic.GCongr
import Mathlib.Tactic.Positivity

set_option autoImplicit false

namespace Growth

open Checked Runs

variable {K : Type} [Field K] [LinearOrder K] [IsStrictOrderedRing K] {rate : K}

theorem cubic_le_pow (nonneg : 0 ≤ rate) (n : Nat) :
    1 + n * rate + n.choose 2 * rate ^ 2 + n.choose 3 * rate ^ 3 ≤ (1 + rate) ^ n := by
  induction n with
  | zero => simp
  | succ n ih =>
      -- One more turn brings each term into the next one, and the last one out of the series.
      have pascal : 1 + (n + 1 : Nat) * rate + (n + 1).choose 2 * rate ^ 2 +
          (n + 1).choose 3 * rate ^ 3 + n.choose 3 * rate ^ 4 =
          (1 + n * rate + n.choose 2 * rate ^ 2 + n.choose 3 * rate ^ 3) * (1 + rate) := by
        rw [Nat.choose_succ_succ' n 1, Nat.choose_succ_succ' n 2, Nat.choose_one_right]
        push_cast
        ring
      have dropped : 0 ≤ (n.choose 3 : K) * rate ^ 4 := by positivity
      have turn := mul_le_mul_of_nonneg_right ih (show 0 ≤ 1 + rate by linarith)
      rw [pow_succ (1 + rate)]
      linarith

variable {unit perTurn square cube : Nat}

theorem cut_le_pow (nonneg : 0 ≤ rate) (first : (perTurn : K) ≤ unit * rate)
    (second : (square : K) ≤ unit * rate ^ 2) (third : (cube : K) ≤ unit * rate ^ 3) (n : Nat) :
    (Compounding.cut unit perTurn square cube n : K) ≤ unit * (1 + rate) ^ n := by
  calc (Compounding.cut unit perTurn square cube n : K)
      = unit + n * perTurn + n.choose 2 * square + n.choose 3 * cube := by
        rw [Compounding.cut]
        push_cast
        ring
    _ ≤ unit + n * (unit * rate) + n.choose 2 * (unit * rate ^ 2) +
          n.choose 3 * (unit * rate ^ 3) := by
        gcongr
    _ = unit * (1 + n * rate + n.choose 2 * rate ^ 2 + n.choose 3 * rate ^ 3) := by ring
    _ ≤ unit * (1 + rate) ^ n := by
        gcongr
        exact cubic_le_pow nonneg n

section Runs

variable {σ η ε : Type} {step : σ → η → Except ε σ} {clock : σ → Nat} {level : σ → K}
  {growth slack : K}

structure Bounded (step : σ → η → Except ε σ) (Invariant : σ → Prop) (Allowed : η → Prop)
    (clock : σ → Nat) (level : σ → K) (growth slack : K) : Prop where
  grows : 1 ≤ growth
  nonneg : 0 ≤ slack
  preserved : ∀ s e s', Invariant s → Allowed e → step s e = .ok s' → Invariant s'
  clocks : ∀ s e s', Invariant s → Allowed e → step s e = .ok s' → clock s ≤ clock s'
  levels : ∀ s e s', Invariant s → Allowed e → step s e = .ok s' →
    level s' ≤ level s * growth ^ (clock s' - clock s) + slack

theorem Bounded.run {Invariant : σ → Prop} {Allowed : η → Prop}
    (bounded : Bounded step Invariant Allowed clock level growth slack) {s t : σ} {events : List η}
    (initial : Invariant s) (allowed : ∀ e ∈ events, Allowed e)
    (ran : Runs.run step s events = .ok t) : Invariant t ∧ clock s ≤ clock t ∧
      level t ≤ (level s + events.length * slack) * growth ^ (clock t - clock s) := by
  have grows := bounded.grows
  induction events generalizing s with
  | nil =>
      cases ran
      exact ⟨initial, le_refl _, by simp⟩
  | cons e rest ih =>
      obtain ⟨s', taken, later⟩ := run_cons_ok.1 ran
      have here := allowed e List.mem_cons_self
      have earlier := bounded.clocks s e s' initial here taken
      have raised := bounded.levels s e s' initial here taken
      obtain ⟨final, later, grown⟩ := ih (bounded.preserved s e s' initial here taken)
        (fun e' member => allowed e' (List.mem_cons_of_mem e member)) later
      refine ⟨final, earlier.trans later, ?_⟩
      have whole : clock t - clock s = clock s' - clock s + (clock t - clock s') := by omega
      have slack_le : (rest.length + 1) * slack ≤
          (rest.length + 1) * slack * growth ^ (clock s' - clock s) := by
        have some : 0 ≤ (rest.length + 1) * slack := by
          have nonneg := bounded.nonneg
          positivity
        exact le_mul_of_one_le_right some (one_le_pow₀ grows)
      have positive : 0 ≤ growth ^ (clock t - clock s') := pow_nonneg (by linarith) _
      calc level t ≤ (level s' + rest.length * slack) * growth ^ (clock t - clock s') := grown
        _ ≤ (level s * growth ^ (clock s' - clock s) +
              (rest.length + 1) * slack * growth ^ (clock s' - clock s)) *
            growth ^ (clock t - clock s') := by
          apply mul_le_mul_of_nonneg_right _ positive
          linarith
        _ = (level s + (e :: rest).length * slack) * growth ^ (clock t - clock s) := by
          rw [whole, pow_add, List.length_cons]
          push_cast
          ring

end Runs

end Growth
