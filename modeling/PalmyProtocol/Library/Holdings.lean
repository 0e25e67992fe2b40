import PalmyProtocol.Library.Rounding
import Mathlib.Algebra.BigOperators.Finprod
import Mathlib.Algebra.BigOperators.Group.Finset.Basic
import Mathlib.Algebra.BigOperators.Group.Finset.Piecewise
import Mathlib.Algebra.BigOperators.Ring.Finset
import Mathlib.Algebra.Order.BigOperators.Group.Finset

set_option autoImplicit false

namespace Holdings

open Rounding Finset

variable {ι : Type*} {before after : ι → Nat} {total total' : Nat}

-- Finitely many hold anything, and together they hold the total.
def Total (balances : ι → Nat) (total : Nat) : Prop :=
  ∃ holders : Finset ι, (∀ a, a ∉ holders → balances a = 0) ∧ ∑ a ∈ holders, balances a = total

theorem total_zero : Total (fun _ : ι => 0) 0 := ⟨∅, fun _ _ => rfl, rfl⟩

theorem Total.sum_eq (counted : Total before total) {holders : Finset ι}
    (all : ∀ a, a ∉ holders → before a = 0) : ∑ a ∈ holders, before a = total := by
  classical
  obtain ⟨known, outside, rfl⟩ := counted
  have left : ∑ a ∈ holders, before a = ∑ a ∈ holders ∪ known, before a :=
    sum_subset subset_union_left fun a _ absent => all a absent
  have right : ∑ a ∈ known, before a = ∑ a ∈ holders ∪ known, before a :=
    sum_subset subset_union_right fun a _ absent => outside a absent
  rw [left, right]

theorem Total.holders [DecidableEq ι] (counted : Total before total) :
    ∃ holders : Finset ι, (∀ a, a ∈ holders ↔ before a ≠ 0) ∧ ∑ a ∈ holders, before a = total := by
  obtain ⟨known, outside, rfl⟩ := counted
  refine ⟨known.filter (before · ≠ 0), fun a => ?_, sum_filter_ne_zero known⟩
  rw [mem_filter, and_iff_right_iff_imp]
  intro some
  by_contra absent
  exact some (outside a absent)

theorem Total.le (counted : Total before total) (a : ι) : before a ≤ total := by
  classical
  obtain ⟨holders, exact, rfl⟩ := counted.holders
  by_cases holds : a ∈ holders
  · exact single_le_sum (fun _ _ => Nat.zero_le _) holds
  · rw [not_not.1 fun some => holds ((exact a).2 some)]
    exact Nat.zero_le _

theorem Total.moved [DecidableEq ι] (counted : Total before total) {giver receiver : ι}
    {given received : Nat}
    (moves : ∀ a, after a + (if a = giver then given else 0) =
      before a + if a = receiver then received else 0)
    (balance : total' + given = total + received) : Total after total' := by
  obtain ⟨holders, outside, rfl⟩ := counted
  refine ⟨insert giver (insert receiver holders), fun a absent => ?_, ?_⟩
  · simp only [mem_insert, not_or] at absent
    have still := moves a
    rw [if_neg absent.1, if_neg absent.2.1, outside a absent.2.2] at still
    exact still
  · have all : ∀ a, a ∉ insert giver (insert receiver holders) → before a = 0 := by
      intro a absent
      simp only [mem_insert, not_or] at absent
      exact outside a absent.2.2
    have same := Total.sum_eq ⟨holders, outside, rfl⟩ all
    have sums := sum_congr (rfl : insert giver (insert receiver holders) = _) fun a _ => moves a
    rw [sum_add_distrib, sum_add_distrib, sum_ite_eq', sum_ite_eq', same] at sums
    rw [if_pos (mem_insert_self _ _), if_pos (mem_insert_of_mem (mem_insert_self _ _))] at sums
    omega

theorem finsum_moved (finite : (Function.support before).Finite) {a : ι}
    (others : ∀ b, b ≠ a → after b = before b) :
    (∑ᶠ b, after b) + before a = (∑ᶠ b, before b) + after a := by
  classical
  have inside : ∀ f : ι → Nat, (∀ b, b ≠ a → f b = before b) →
      ∑ᶠ b, f b = ∑ b ∈ insert a finite.toFinset, f b := by
    intro f same
    apply finsum_eq_sum_of_support_subset
    intro b some
    by_cases here : b = a
    · simp [here]
    · rw [Function.mem_support, same b here] at some
      simp [some]
  have rest : ∑ b ∈ (insert a finite.toFinset).erase a, after b =
      ∑ b ∈ (insert a finite.toFinset).erase a, before b :=
    sum_congr rfl fun b member => others b (ne_of_mem_erase member)
  rw [inside after others, inside before fun _ _ => rfl, ← sum_erase_add _ _ (mem_insert_self a _),
    ← sum_erase_add _ before (mem_insert_self a _), rest]
  omega

theorem finite_moved (finite : (Function.support before).Finite) {a : ι}
    (others : ∀ b, b ≠ a → after b = before b) : (Function.support after).Finite := by
  apply (finite.insert a).subset
  intro b some
  by_cases here : b = a
  · simp [here]
  · rw [Function.mem_support, others b here] at some
    exact Set.mem_insert_of_mem a some

variable {d : Nat}

-- Rounding the parts or rounding the whole: half a unit for each of them.
theorem divHalfUp_sum (positive : 0 < d) (f : ι → Nat) (parts : Multiset ι) :
    2 * divHalfUp (parts.map f).sum d ≤
        2 * (parts.map fun a => divHalfUp (f a) d).sum + (parts.card + 1) ∧
      2 * (parts.map fun a => divHalfUp (f a) d).sum ≤
        2 * divHalfUp (parts.map f).sum d + (parts.card + 1) := by
  have bounds : 2 * (d * (parts.map fun a => divHalfUp (f a) d).sum) ≤
        2 * (parts.map f).sum + d * parts.card ∧
      2 * (parts.map f).sum ≤
        2 * (d * (parts.map fun a => divHalfUp (f a) d).sum) + d * parts.card := by
    induction parts using Multiset.induction_on with
    | empty => simp
    | cons part rest ih =>
        have upper := divHalfUp_upper (n := f part) positive
        have lower := divHalfUp_lower (n := f part) positive
        simp only [Multiset.map_cons, Multiset.sum_cons, Multiset.card_cons, Nat.mul_add,
          Nat.mul_one] at ih ⊢
        omega
  have upper := divHalfUp_upper (n := (parts.map f).sum) positive
  have lower := divHalfUp_lower (n := (parts.map f).sum) positive
  generalize divHalfUp (parts.map f).sum d = whole at *
  generalize (parts.map fun a => divHalfUp (f a) d).sum = sum at *
  constructor
  · apply Nat.le_of_mul_le_mul_left (c := d) _ positive
    nlinarith
  · apply Nat.le_of_mul_le_mul_left (c := d) _ positive
    nlinarith

theorem sum_read_within {unit : Nat} (positive : 0 < unit) (price : Nat) (holders : Finset ι)
    (balances : ι → Nat) :
    2 * |(divHalfUp ((∑ a ∈ holders, balances a) * price) unit : Int) -
      ∑ a ∈ holders, (divHalfUp (balances a * price) unit : Int)| ≤ holders.card + 1 := by
  obtain ⟨upper, lower⟩ := divHalfUp_sum positive (fun a => balances a * price) holders.val
  change 2 * divHalfUp (∑ a ∈ holders, balances a * price) unit ≤
    2 * (∑ a ∈ holders, divHalfUp (balances a * price) unit) + (holders.card + 1) at upper
  change 2 * (∑ a ∈ holders, divHalfUp (balances a * price) unit) ≤
    2 * divHalfUp (∑ a ∈ holders, balances a * price) unit + (holders.card + 1) at lower
  rw [sum_mul, ← Nat.cast_sum]
  generalize (∑ a ∈ holders, divHalfUp (balances a * price) unit) = parts at *
  generalize divHalfUp (∑ a ∈ holders, balances a * price) unit = whole at *
  rcases abs_cases ((whole : Int) - parts) with ⟨size, _⟩ | ⟨size, _⟩ <;> omega

theorem shares_within {index : Nat} (priced : 0 < index) (unit : Nat) (amounts : List Nat) :
    2 * |((amounts.map fun amount => divHalfUp (amount * unit) index).sum : Int) -
      divHalfUp (amounts.sum * unit) index| ≤ amounts.length + 1 := by
  obtain ⟨upper, lower⟩ := divHalfUp_sum priced (fun amount => amount * unit) (amounts : Multiset Nat)
  simp only [Multiset.map_coe, Multiset.sum_coe, Multiset.coe_card,
    List.sum_map_mul_right, List.map_id'] at upper lower
  generalize (amounts.map fun amount => divHalfUp (amount * unit) index).sum = parts at *
  generalize divHalfUp (amounts.sum * unit) index = whole at *
  rcases abs_cases ((parts : Int) - whole) with ⟨size, _⟩ | ⟨size, _⟩ <;> omega

end Holdings
