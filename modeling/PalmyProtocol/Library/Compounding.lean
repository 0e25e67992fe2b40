import Mathlib.Data.Nat.Choose.Sum
import Mathlib.Tactic.Linarith
import Mathlib.Tactic.Ring

set_option autoImplicit false

namespace Compounding

open Finset

def cut (unit rate square cube n : Nat) : Nat :=
  unit + n * rate + n.choose 2 * square + n.choose 3 * cube

def leftOut (unit rate n : Nat) : Nat :=
  ∑ k ∈ Ico 4 (n + 1), rate ^ k * unit ^ (n - k) * n.choose k

def excess (unit rate square cube n : Nat) : Int :=
  n.choose 2 * (unit * square - rate ^ 2) * unit ^ (n - 2) +
    n.choose 3 * (unit ^ 2 * cube - rate ^ 3) * unit ^ (n - 3)

variable {unit rate square cube n : Nat}

-- Past the exponent the binomials are zero, wherever the series is cut.
theorem add_pow_cut (unit rate m n : Nat) :
    (rate + unit) ^ n = ∑ k ∈ range m, rate ^ k * unit ^ (n - k) * n.choose k +
      ∑ k ∈ Ico m (n + 1), rate ^ k * unit ^ (n - k) * n.choose k := by
  rw [add_pow]
  simp only [Nat.cast_id]
  rcases le_total m (n + 1) with within | beyond
  · exact (sum_range_add_sum_Ico _ within).symm
  · rw [Ico_eq_empty_of_le beyond, sum_empty, add_zero]
    apply sum_subset (range_subset_range.2 beyond)
    intro k _ outside
    have late : n < k := by simpa using outside
    rw [Nat.choose_eq_zero_of_lt late, Nat.mul_zero]

theorem excess_add_pow (unit rate square cube : Nat) (positive : 0 < n) :
    ((cut unit rate square cube n * unit ^ (n - 1) : Nat) : Int) + leftOut unit rate n =
      ((unit + rate) ^ n : Nat) + excess unit rate square cube n := by
  have whole := add_pow_cut unit rate 4 n
  rw [Nat.add_comm rate unit] at whole
  rw [whole, cut, leftOut, excess]
  simp only [sum_range_succ, sum_range_zero]
  obtain ⟨m, rfl⟩ : ∃ m, n = m + 1 := ⟨n - 1, by omega⟩
  match m with
  | 0 =>
      simp [Nat.choose]
  | 1 =>
      simp [Nat.choose]
      ring
  | m + 2 =>
      simp only [Nat.add_sub_cancel, Nat.choose_zero_right, Nat.choose_one_right]
      have one : m + 2 + 1 - 1 = m + 2 := rfl
      have two : m + 2 + 1 - 2 = m + 1 := rfl
      have three : m + 2 + 1 - 3 = m := rfl
      rw [two, three]
      push_cast
      ring

theorem cut_le_iff (unit rate square cube : Nat) (positive : 0 < n) :
    cut unit rate square cube n * unit ^ (n - 1) ≤ (unit + rate) ^ n ↔
      excess unit rate square cube n ≤ leftOut unit rate n := by
  have balance := excess_add_pow unit rate square cube positive
  zify
  push_cast at balance
  constructor
  · intro below
    linarith
  · intro less
    linarith

theorem excess_nonpos (down : unit * square ≤ rate ^ 2) (down' : unit ^ 2 * cube ≤ rate ^ 3) :
    excess unit rate square cube n ≤ 0 := by
  have second : (unit * square - rate ^ 2 : Int) ≤ 0 := by
    rw [sub_nonpos]
    exact_mod_cast down
  have third : (unit ^ 2 * cube - rate ^ 3 : Int) ≤ 0 := by
    rw [sub_nonpos]
    exact_mod_cast down'
  have pairs := mul_nonpos_of_nonneg_of_nonpos (Nat.cast_nonneg (n.choose 2)) second
  have triples := mul_nonpos_of_nonneg_of_nonpos (Nat.cast_nonneg (n.choose 3)) third
  exact add_nonpos (mul_nonpos_of_nonpos_of_nonneg pairs (by positivity))
    (mul_nonpos_of_nonpos_of_nonneg triples (by positivity))

-- In one turn no power is used, in two turns no cube.
theorem excess_nonpos_early (early : n < 3) (down : n = 2 → unit * square ≤ rate ^ 2) :
    excess unit rate square cube n ≤ 0 := by
  obtain rfl | rfl | rfl : n = 0 ∨ n = 1 ∨ n = 2 := by omega
  · simp [excess]
  · simp [excess, Nat.choose]
  · have second : (unit * square : Int) ≤ rate ^ 2 := by exact_mod_cast down rfl
    simpa [excess, Nat.choose] using second

-- Halves of a unit, weighted with the second and third binomial, against the fourth term.
theorem excess_le_leftOut (halved : 2 * (unit * square) ≤ 2 * rate ^ 2 + unit)
    (halved' : 2 * (unit * cube) ≤ 2 * (square * rate) + unit)
    (outgrown : n.choose 2 * unit ^ 3 + n.choose 3 * unit ^ 2 * (unit + rate) ≤
      2 * n.choose 4 * rate ^ 4) (late : 4 ≤ n) :
    excess unit rate square cube n ≤ leftOut unit rate n := by
  have fourth : rate ^ 4 * unit ^ (n - 4) * n.choose 4 ≤ leftOut unit rate n := by
    refine single_le_sum (f := fun k => rate ^ k * unit ^ (n - k) * n.choose k)
      (fun _ _ => Nat.zero_le _) ?_
    simp only [mem_Ico]
    omega
  have fourth : (rate ^ 4 * unit ^ (n - 4) * n.choose 4 : Int) ≤ leftOut unit rate n := by
    exact_mod_cast fourth
  refine le_trans ?_ fourth
  obtain ⟨m, rfl⟩ : ∃ m, n = m + 4 := ⟨n - 4, by omega⟩
  rw [excess, show m + 4 - 2 = m + 2 from rfl, show m + 4 - 3 = m + 1 from rfl,
    show m + 4 - 4 = m from rfl]
  generalize (m + 4).choose 2 = pairs at *
  generalize (m + 4).choose 3 = triples at *
  generalize (m + 4).choose 4 = fours at *
  have second : 2 * (unit * square - rate ^ 2 : Int) ≤ unit := by
    have bound : (2 * (unit * square) : Int) ≤ 2 * rate ^ 2 + unit := by exact_mod_cast halved
    linarith
  -- the cube is taken of the rounded square, so its own half comes on top of the square's
  have third : 2 * (unit ^ 2 * cube - rate ^ 3 : Int) ≤ unit * (unit + rate) := by
    have bound : (2 * (unit * cube) : Int) ≤ 2 * (square * rate) + unit := by exact_mod_cast halved'
    have grown := mul_le_mul_of_nonneg_left bound (Int.natCast_nonneg unit)
    have carried := mul_le_mul_of_nonneg_left second (Int.natCast_nonneg rate)
    linarith
  have outgrown : (pairs * unit ^ 3 + triples * unit ^ 2 * (unit + rate) : Int) ≤
      2 * fours * rate ^ 4 := by exact_mod_cast outgrown
  have paired : (pairs * unit ^ (m + 2) : Int) * (2 * (unit * square - rate ^ 2)) ≤
      pairs * unit ^ (m + 2) * unit := mul_le_mul_of_nonneg_left second (by positivity)
  have tripled : (triples * unit ^ (m + 1) : Int) * (2 * (unit ^ 2 * cube - rate ^ 3)) ≤
      triples * unit ^ (m + 1) * (unit * (unit + rate)) :=
    mul_le_mul_of_nonneg_left third (by positivity)
  have raised := mul_le_mul_of_nonneg_left outgrown (show (0 : Int) ≤ unit ^ m by positivity)
  have left : (unit ^ m * (pairs * unit ^ 3 + triples * unit ^ 2 * (unit + rate)) : Int) =
      pairs * unit ^ (m + 2) * unit + triples * unit ^ (m + 1) * (unit * (unit + rate)) := by ring
  linarith

-- Each term past the fourth is a fifth of the one before it at most, while the rate has not yet
-- doubled the unit.
theorem leftOut_le (slow : n * rate ≤ unit) :
    4 * leftOut unit rate n ≤ 5 * (rate ^ 4 * unit ^ (n - 4) * n.choose 4) := by
  rw [leftOut]
  generalize same : (fun k => rate ^ k * unit ^ (n - k) * n.choose k) = term
  have value : ∀ k, term k = rate ^ k * unit ^ (n - k) * n.choose k := fun k => by rw [← same]
  have falls : ∀ k, 4 ≤ k → 5 * term (k + 1) ≤ term k := by
    intro k fourth
    rw [value, value]
    rcases Nat.lt_or_ge k n with within | beyond
    · have next : n.choose (k + 1) * (k + 1) = n.choose k * (n - k) := Nat.choose_succ_right_eq n k
      have power : unit ^ (n - k) = unit ^ (n - (k + 1)) * unit := by
        rw [← pow_succ]
        congr 1
        omega
      have small : rate * (n - k) ≤ unit := by
        rw [Nat.mul_comm]
        exact le_trans (Nat.mul_le_mul_right rate (Nat.sub_le n k)) slow
      calc 5 * (rate ^ (k + 1) * unit ^ (n - (k + 1)) * n.choose (k + 1))
          ≤ (k + 1) * (rate ^ (k + 1) * unit ^ (n - (k + 1)) * n.choose (k + 1)) :=
            Nat.mul_le_mul_right _ (by omega)
        _ = rate ^ k * unit ^ (n - (k + 1)) * rate * (n.choose (k + 1) * (k + 1)) := by ring
        _ = rate ^ k * unit ^ (n - (k + 1)) * n.choose k * (rate * (n - k)) := by
          rw [next]
          ring
        _ ≤ rate ^ k * unit ^ (n - (k + 1)) * n.choose k * unit := Nat.mul_le_mul_left _ small
        _ = rate ^ k * unit ^ (n - k) * n.choose k := by
          rw [power]
          ring
    · rw [Nat.choose_eq_zero_of_lt (Nat.lt_succ_of_le beyond), Nat.mul_zero]
      exact Nat.zero_le _
  -- what is still to come is charged to the last term summed
  have summed : ∀ m, 4 * ∑ k ∈ Ico 4 (4 + m + 1), term k + term (4 + m) ≤ 5 * term 4 := by
    intro m
    induction m with
    | zero =>
        simp
        omega
    | succ m ih =>
        have fall := falls (4 + m) (by omega)
        rw [sum_Ico_succ_top (by omega : 4 ≤ 4 + (m + 1))]
        have place : 4 + (m + 1) = 4 + m + 1 := rfl
        rw [place]
        omega
  rw [← value 4]
  rcases Nat.lt_or_ge n 4 with early | late
  · rw [Ico_eq_empty_of_le (by omega), sum_empty]
    exact Nat.zero_le _
  · obtain ⟨m, rfl⟩ : ∃ m, n = 4 + m := ⟨n - 4, by omega⟩
    exact le_trans (Nat.le_add_right _ _) (summed m)

-- The square is rounded up, the cube is not short, and the dropped terms are not there yet.
theorem leftOut_lt_excess (positive : 0 < unit) (slow : n * rate ≤ unit)
    (up : rate ^ 2 < unit * square) (reached : rate ^ 3 ≤ unit ^ 2 * cube) (late : 2 ≤ n)
    (ahead : 5 * n.choose 4 * rate ^ 4 <
      4 * n.choose 2 * unit ^ 2 * (unit * square - rate ^ 2)) :
    (leftOut unit rate n : Int) < excess unit rate square cube n := by
  have dropped := leftOut_le slow
  obtain ⟨more, grown⟩ : ∃ more, unit * square = rate ^ 2 + more :=
    ⟨unit * square - rate ^ 2, by omega⟩
  have some : 0 < more := by omega
  have second : (unit * square - rate ^ 2 : Int) = more := by
    have cast : (unit * square : Int) = rate ^ 2 + more := by exact_mod_cast grown
    linarith
  have third : (0 : Int) ≤ unit ^ 2 * cube - rate ^ 3 := by
    have cast : (rate ^ 3 : Int) ≤ unit ^ 2 * cube := by exact_mod_cast reached
    linarith
  have pairs : (leftOut unit rate n : Int) < n.choose 2 * more * unit ^ (n - 2) := by
    rw [grown, Nat.add_sub_cancel_left] at ahead
    have counted : leftOut unit rate n < n.choose 2 * more * unit ^ (n - 2) := by
      rcases Nat.lt_or_ge n 4 with early | fourth
      · rw [Nat.choose_eq_zero_of_lt early, Nat.mul_zero] at dropped
        have product : 0 < n.choose 2 * more * unit ^ (n - 2) :=
          Nat.mul_pos (Nat.mul_pos (Nat.choose_pos late) some) (Nat.pow_pos positive)
        omega
      · have power : unit ^ (n - 2) = unit ^ (n - 4) * unit ^ 2 := by
          rw [← pow_add]
          congr 1
          omega
        have scaled := Nat.mul_lt_mul_of_pos_left ahead (Nat.pow_pos positive : 0 < unit ^ (n - 4))
        have left : unit ^ (n - 4) * (5 * n.choose 4 * rate ^ 4) =
            5 * (rate ^ 4 * unit ^ (n - 4) * n.choose 4) := by ring
        have right : unit ^ (n - 4) * (4 * n.choose 2 * unit ^ 2 * more) =
            4 * (n.choose 2 * more * (unit ^ (n - 4) * unit ^ 2)) := by ring
        rw [power]
        omega
    exact_mod_cast counted
  rw [excess, second]
  have triples : (0 : Int) ≤ n.choose 3 * (unit ^ 2 * cube - rate ^ 3) * unit ^ (n - 3) :=
    mul_nonneg (mul_nonneg (Int.natCast_nonneg _) third) (by positivity)
  linarith

theorem leftOut_lt_excess_two (up : rate ^ 2 < unit * square) :
    (leftOut unit rate 2 : Int) < excess unit rate square cube 2 := by
  have more : (rate : Int) ^ 2 < unit * square := by exact_mod_cast up
  simp [leftOut, excess, Nat.choose]
  linarith

end Compounding
