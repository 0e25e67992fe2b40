import PalmyProtocol.Library.Traces
import Mathlib.Data.List.Nodup
import Mathlib.Logic.Function.Basic

set_option autoImplicit false

-- Counters that make an authorisation good for one use: whoever signs names the next value of its
-- counter, and the use moves the counter on.
namespace Nonces

open Checked Runs

variable {σ η ε κ μ : Type} [DecidableEq κ] {step : σ → η → Except ε σ} {counter : σ → κ → Nat}

structure Consumes (step : σ → η → Except ε σ) (counter : σ → κ → Nat)
    (emit : σ → η → σ → List μ) (key : μ → κ) (nonce : μ → Nat) : Prop where
  each : ∀ s e s', step s e = .ok s' →
    (emit s e s' = [] ∧ counter s' = counter s) ∨
      ∃ used, emit s e s' = [used] ∧ nonce used = counter s (key used) ∧
        counter s' = Function.update (counter s) (key used) (counter s (key used) + 1)

namespace Consumes

variable {emit : σ → η → σ → List μ} {key : μ → κ} {nonce : μ → Nat} {s t : σ} {events : List η}

theorem range (consumes : Consumes step counter emit key nonce)
    (ran : run step s events = .ok t) (k : κ) :
    counter t k = counter s k +
        ((trace step emit s events).filter fun used => key used = k).length ∧
      ((trace step emit s events).filter fun used => key used = k).map nonce =
        List.range' (counter s k)
          ((trace step emit s events).filter fun used => key used = k).length := by
  induction events generalizing s with
  | nil =>
      cases ran
      simp [trace]
  | cons e rest ih =>
      obtain ⟨s', first, later⟩ := run_cons_ok.1 ran
      obtain ⟨total, values⟩ := ih later
      rw [trace_cons first]
      rcases consumes.each s e s' first with ⟨quiet, same⟩ | ⟨used, emitted, current, moved⟩
      · rw [quiet, List.nil_append, ← same]
        exact ⟨total, values⟩
      · rw [emitted, List.singleton_append]
        by_cases named : key used = k
        · subst named
          rw [moved, Function.update_self] at total values
          rw [List.filter_cons_of_pos (by simp), List.length_cons, List.map_cons, values, current,
            List.range'_succ]
          exact ⟨by omega, rfl⟩
        · rw [moved, Function.update_of_ne (Ne.symm named)] at total values
          rw [List.filter_cons_of_neg (by simpa using named)]
          exact ⟨total, values⟩

theorem nodup (consumes : Consumes step counter emit key nonce)
    (ran : run step s events = .ok t) :
    ((trace step emit s events).map fun used => (key used, nonce used)).Nodup := by
  rw [List.nodup_iff_sublist]
  intro value twice
  obtain ⟨pair, inside, same⟩ := List.sublist_map_iff.1 twice
  obtain ⟨used, others, rfl, rfl, rest⟩ := List.map_eq_cons_iff.1 same.symm
  obtain ⟨again, last, rfl, second, none⟩ := List.map_eq_cons_iff.1 rest
  obtain rfl := List.map_eq_nil_iff.1 none
  rw [Prod.mk.injEq] at second
  obtain ⟨named, equal⟩ := second
  obtain ⟨_, values⟩ := consumes.range ran (key used)
  have both := (inside.filter fun other => key other = key used).map nonce
  rw [values, List.filter_cons_of_pos (by simp), List.filter_cons_of_pos (by simp [named]),
    List.filter_nil, List.map_cons, List.map_cons, List.map_nil, equal] at both
  simpa using both.nodup List.nodup_range'

theorem nodup_map {δ : Type} (consumes : Consumes step counter emit key nonce)
    (ran : run step s events = .ok t) (image : μ → δ)
    (apart : ∀ used ∈ trace step emit s events, ∀ other ∈ trace step emit s events,
      image used = image other → key used = key other ∧ nonce used = nonce other) :
    ((trace step emit s events).map image).Nodup := by
  refine List.pairwise_map.2 ((List.pairwise_map.1 (consumes.nodup ran)).imp_of_mem ?_)
  intro used other here there different same
  obtain ⟨named, equal⟩ := apart used here other there same
  exact different (Prod.ext named equal)

end Consumes

end Nonces
