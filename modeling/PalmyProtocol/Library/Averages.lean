import Mathlib.Algebra.BigOperators.Group.Finset.Basic
import Mathlib.Algebra.BigOperators.Ring.Finset
import Mathlib.Algebra.Order.BigOperators.Group.Finset

set_option autoImplicit false

namespace Averages

open Finset

variable {ι : Type*} {holders : Finset ι} {weight value other : ι → Nat}

structure Floored (holders : Finset ι) (weight value : ι → Nat) (average : Nat) : Prop where
  lower : (∑ i ∈ holders, weight i) * average ≤ ∑ i ∈ holders, weight i * value i
  upper : ∑ i ∈ holders, weight i * value i < (∑ i ∈ holders, weight i) * (average + 1)
  least : ∃ i ∈ holders, 0 < weight i ∧ value i ≤ average
  greatest : ∃ i ∈ holders, 0 < weight i ∧ average ≤ value i

theorem sum_le_mul {bound : Nat} (within : ∀ i ∈ holders, 0 < weight i → value i ≤ bound) :
    ∑ i ∈ holders, weight i * value i ≤ (∑ i ∈ holders, weight i) * bound := by
  rw [sum_mul]
  apply sum_le_sum
  intro i member
  rcases Nat.eq_zero_or_pos (weight i) with none | some
  · rw [none, Nat.zero_mul, Nat.zero_mul]
  · exact Nat.mul_le_mul_left _ (within i member some)

theorem mul_le_sum {bound : Nat} (within : ∀ i ∈ holders, 0 < weight i → bound ≤ value i) :
    (∑ i ∈ holders, weight i) * bound ≤ ∑ i ∈ holders, weight i * value i := by
  rw [sum_mul]
  apply sum_le_sum
  intro i member
  rcases Nat.eq_zero_or_pos (weight i) with none | some
  · rw [none, Nat.zero_mul, Nat.zero_mul]
  · exact Nat.mul_le_mul_left _ (within i member some)

theorem floored (positive : 0 < ∑ i ∈ holders, weight i) :
    Floored holders weight value
      ((∑ i ∈ holders, weight i * value i) / ∑ i ∈ holders, weight i) := by
  have lower := Nat.mul_div_le (∑ i ∈ holders, weight i * value i) (∑ i ∈ holders, weight i)
  have upper := Nat.lt_mul_div_succ (∑ i ∈ holders, weight i * value i) positive
  generalize (∑ i ∈ holders, weight i * value i) / ∑ i ∈ holders, weight i = average at *
  refine ⟨lower, upper, ?_, ?_⟩
  · by_contra above
    push Not at above
    exact absurd (mul_le_sum above) (Nat.not_le_of_lt upper)
  · by_contra below
    push Not at below
    have strict : ∀ i ∈ holders, 0 < weight i → value i ≤ average - 1 :=
      fun i member some => Nat.le_sub_one_of_lt (below i member some)
    have sum := sum_le_mul strict
    have average_pos : 0 < average := by
      obtain ⟨i, member, some⟩ := exists_ne_zero_of_sum_ne_zero (Nat.pos_iff_ne_zero.1 positive)
      exact Nat.zero_lt_of_lt (below i member (Nat.pos_of_ne_zero some))
    have less : (∑ i ∈ holders, weight i) * (average - 1) < (∑ i ∈ holders, weight i) * average :=
      Nat.mul_lt_mul_of_pos_left (Nat.sub_lt average_pos Nat.one_pos) positive
    omega

theorem average_mono (order : ∀ i ∈ holders, value i ≤ other i) (total : Nat) :
    (∑ i ∈ holders, weight i * value i) / total ≤ (∑ i ∈ holders, weight i * other i) / total :=
  Nat.div_le_div_right (sum_le_sum fun i member => Nat.mul_le_mul_left _ (order i member))

end Averages
