import PalmyProtocol.Pool.AccountData
import Mathlib.Algebra.Order.BigOperators.Group.Finset
import Mathlib.Algebra.Order.Floor.Div

set_option autoImplicit false

namespace PalmyProtocol

open Checked Rounding Finset

theorem wadDiv_le_maxUint256 {a b c : Nat} (computed : wadDiv a b = .ok c) : c ≤ maxUint256 := by
  simp only [wadDiv, divRounded, bind_eq_ok, require_eq_ok, exists_const, pure_eq_ok] at computed
  obtain ⟨_, _, rfl⟩ := computed
  have word : wrapAdd (wrapMul a WAD) (b / 2) < 2 ^ 256 := Nat.mod_lt _ (by decide)
  have below : wrapAdd (wrapMul a WAD) (b / 2) / b ≤ wrapAdd (wrapMul a WAD) (b / 2) :=
    Nat.div_le_self _ _
  unfold maxUint256
  omega

theorem wadDiv_defined {a a' b c : Nat} (computed : wadDiv a b = .ok c) (less : a' ≤ a) :
    ∃ c', wadDiv a' b = .ok c' := by
  simp only [wadDiv, divRounded, bind_eq_ok, require_eq_ok, exists_const, pure_eq_ok] at computed ⊢
  obtain ⟨nonzero, guard, _⟩ := computed
  exact ⟨_, nonzero, le_trans less guard, rfl⟩

namespace GenericLogic

variable {collateral debt threshold health collateral' debt' threshold' health' : Nat}

theorem calculateHealthFactorFromBalances_ok
    (computed : calculateHealthFactorFromBalances collateral debt threshold = .ok health) :
    (debt = 0 ∧ health = maxUint256) ∨ (0 < debt ∧ health ≤ maxUint256 ∧
      health = divHalfUp (divHalfUp (collateral * threshold) PERCENTAGE_FACTOR * WAD) debt) := by
  simp only [calculateHealthFactorFromBalances, ite_eq_ok, bind_eq_ok, percentMul_eq_ok,
    Except.ok.injEq] at computed
  rcases computed with ⟨free, rfl⟩ | ⟨owing, _, ⟨_, rfl⟩, divided⟩
  · exact .inl ⟨free, rfl⟩
  · obtain ⟨_, rfl⟩ := wadDiv_ok divided
    exact .inr ⟨Nat.pos_of_ne_zero owing, wadDiv_le_maxUint256 divided, rfl⟩

def healthOf (weighted debt : Nat) : Nat :=
  if debt = 0 then maxUint256
  else divHalfUp (divHalfUp weighted PERCENTAGE_FACTOR * WAD) debt

theorem healthFactor_eq
    (computed : calculateHealthFactorFromBalances collateral debt threshold = .ok health) :
    health = healthOf (collateral * threshold) debt := by
  rcases calculateHealthFactorFromBalances_ok computed with ⟨free, same⟩ | ⟨owing, _, same⟩
  · rw [healthOf, if_pos free, same]
  · rw [healthOf, if_neg (Nat.pos_iff_ne_zero.1 owing), same]

-- Rounding to nearest lets a debt go without its collateral for half a unit of the health factor.
theorem healthy_iff (weighted debt : Nat) :
    HEALTH_FACTOR_LIQUIDATION_THRESHOLD ≤ healthOf weighted debt ↔
      debt ≤ divHalfUp weighted PERCENTAGE_FACTOR + debt / (2 * WAD) := by
  by_cases free : debt = 0
  · rw [healthOf, if_pos free, free]
    exact ⟨fun _ => Nat.zero_le _, fun _ => by decide⟩
  · let covered := divHalfUp weighted PERCENTAGE_FACTOR
    calc HEALTH_FACTOR_LIQUIDATION_THRESHOLD ≤ healthOf weighted debt
      _ ↔ debt * WAD ≤ covered * WAD + debt / 2 := by
          rw [healthOf, if_neg free, HEALTH_FACTOR_LIQUIDATION_THRESHOLD,
            le_divHalfUp (Nat.pos_of_ne_zero free)]
      _ ↔ (debt - covered) * WAD ≤ debt / 2 := by rw [Nat.sub_mul, tsub_le_iff_left]
      _ ↔ debt - covered ≤ debt / (2 * WAD) := by
          rw [← Nat.div_div_eq_div_mul, Nat.le_div_iff_mul_le WAD_pos]
      _ ↔ debt ≤ covered + debt / (2 * WAD) := tsub_le_iff_left

theorem healthy_mono {weighted weighted' : Nat}
    (healthy : HEALTH_FACTOR_LIQUIDATION_THRESHOLD ≤ healthOf weighted debt)
    (grown : weighted ≤ weighted') (relieved : debt' ≤ debt) :
    HEALTH_FACTOR_LIQUIDATION_THRESHOLD ≤ healthOf weighted' debt' := by
  by_cases free : debt' = 0
  · rw [healthOf, if_pos free]
    decide
  · have owing : debt ≠ 0 := by omega
    rw [healthOf, if_neg owing] at healthy
    rw [healthOf, if_neg free]
    have share := divHalfUp_mono grown PERCENTAGE_FACTOR
    exact le_trans healthy (divHalfUp_fraction_mono (Nat.pos_of_ne_zero owing)
      (Nat.pos_of_ne_zero free) (Nat.mul_le_mul (Nat.mul_le_mul_right WAD share) relieved))

theorem healthy_of_covered {weighted : Nat}
    (covered : debt ≤ divHalfUp weighted PERCENTAGE_FACTOR) :
    HEALTH_FACTOR_LIQUIDATION_THRESHOLD ≤ healthOf weighted debt :=
  (healthy_iff weighted debt).2 (le_trans covered (Nat.le_add_right _ _))

theorem calculateHealthFactorFromBalances_defined
    (computed : calculateHealthFactorFromBalances collateral debt threshold = .ok health)
    (less : collateral' * threshold' ≤ collateral * threshold) :
    ∃ health', calculateHealthFactorFromBalances collateral' debt threshold' = .ok health' := by
  simp only [calculateHealthFactorFromBalances] at computed ⊢
  split_ifs at computed ⊢ with free
  · exact ⟨_, rfl⟩
  · simp only [bind_eq_ok, percentMul_eq_ok] at computed ⊢
    obtain ⟨_, ⟨fits, rfl⟩, divided⟩ := computed
    obtain ⟨health', computed'⟩ := wadDiv_defined divided (divHalfUp_mono less PERCENTAGE_FACTOR)
    exact ⟨health', _, ⟨by omega, rfl⟩, computed'⟩

theorem covered_of_needed {borrowed ltv needed : Nat}
    (computed : percentDiv borrowed ltv = .ok needed) (there : needed ≤ collateral)
    (order : ltv ≤ threshold) (whole : ltv ≤ PERCENTAGE_FACTOR) :
    borrowed ≤ divHalfUp (collateral * threshold) PERCENTAGE_FACTOR := by
  obtain ⟨nonzero, rfl⟩ := percentDiv_ok computed
  have below := (divHalfUp_lt (Nat.pos_of_ne_zero nonzero)).1 (Nat.lt_succ_of_le there)
  have share : collateral * ltv ≤ collateral * threshold := Nat.mul_le_mul_left collateral order
  rw [le_divHalfUp PERCENTAGE_FACTOR_pos]
  rw [Nat.succ_eq_add_one, Nat.mul_add, Nat.mul_one, Nat.mul_comm ltv collateral] at below
  have half : PERCENTAGE_FACTOR / 2 = 5000 := rfl
  have unit : PERCENTAGE_FACTOR = 10000 := rfl
  rw [Nat.mul_comm PERCENTAGE_FACTOR borrowed]
  omega

theorem healthFactor_mono
    (before : calculateHealthFactorFromBalances collateral debt threshold = .ok health)
    (after : calculateHealthFactorFromBalances collateral' debt' threshold' = .ok health')
    (weighted : collateral * threshold ≤ collateral' * threshold') (relieved : debt' ≤ debt) :
    health ≤ health' := by
  have capped : health ≤ maxUint256 := by
    rcases calculateHealthFactorFromBalances_ok before with ⟨_, same⟩ | ⟨_, below, _⟩
    · exact Nat.le_of_eq same
    · exact below
  rcases calculateHealthFactorFromBalances_ok after with ⟨_, same⟩ | ⟨owing', _, later⟩
  · rw [same]
    exact capped
  rcases calculateHealthFactorFromBalances_ok before with ⟨free, _⟩ | ⟨owing, _, early⟩
  · omega
  rw [early, later]
  have share := divHalfUp_mono weighted PERCENTAGE_FACTOR
  exact divHalfUp_fraction_mono owing owing'
    (Nat.mul_le_mul (Nat.mul_le_mul_right WAD share) relieved)

def averaged (collateral weight : Nat) : Nat := collateral * (weight / collateral)

theorem averaged_le (collateral weight : Nat) : averaged collateral weight ≤ weight :=
  Nat.mul_div_le weight collateral

theorem averaged_eq (collateral weight : Nat) :
    averaged collateral weight = weight - weight % collateral := by
  have whole := Nat.div_add_mod weight collateral
  rw [averaged]
  omega

-- The least weight on some collateral whose floored average still makes up for a debt.
def leastWeight (collateral debt : Nat) : Nat :=
  collateral *
    ((PERCENTAGE_FACTOR * (debt - debt / (2 * WAD)) - PERCENTAGE_FACTOR / 2) ⌈/⌉ collateral)

theorem healthy_averaged_iff (positive : 0 < collateral) (weight debt : Nat) :
    HEALTH_FACTOR_LIQUIDATION_THRESHOLD ≤ healthOf (averaged collateral weight) debt ↔
      leastWeight collateral debt ≤ weight := by
  let needed := PERCENTAGE_FACTOR * (debt - debt / (2 * WAD))
  calc HEALTH_FACTOR_LIQUIDATION_THRESHOLD ≤ healthOf (averaged collateral weight) debt
    _ ↔ debt - debt / (2 * WAD) ≤ divHalfUp (averaged collateral weight) PERCENTAGE_FACTOR := by
        rw [healthy_iff, tsub_le_iff_right]
    _ ↔ needed - PERCENTAGE_FACTOR / 2 ≤ collateral * (weight / collateral) := by
        rw [le_divHalfUp PERCENTAGE_FACTOR_pos, tsub_le_iff_right, averaged]
    _ ↔ (needed - PERCENTAGE_FACTOR / 2) ⌈/⌉ collateral ≤ weight / collateral := by
        rw [ceilDiv_le_iff_le_mul positive]
    _ ↔ leastWeight collateral debt ≤ weight := by
        rw [Nat.le_div_iff_mul_le positive, leastWeight, Nat.mul_comm collateral]

-- A weighted average that is floored: more weight in the sum makes up for more in the divisor but
-- for one unit of the average.
theorem weighted_of_sum {sum sum' : Nat} (order : sum ≤ sum') (grown : collateral ≤ collateral') :
    collateral * (sum / collateral) ≤ collateral' * (sum' / collateral' + 1) := by
  rcases Nat.eq_zero_or_pos collateral' with none | positive
  · have zero : collateral = 0 := by omega
    rw [zero, Nat.zero_mul]
    exact Nat.zero_le _
  · have floor : collateral * (sum / collateral) ≤ sum := Nat.mul_div_le sum collateral
    have next : sum' < collateral' * (sum' / collateral' + 1) :=
      Nat.lt_mul_div_succ sum' positive
    omega

theorem average_of_added {sum added : Nat} (grown : collateral ≤ collateral')
    (above : collateral = collateral' ∨ sum / collateral ≤ added) :
    sum / collateral ≤ (sum + (collateral' - collateral) * added) / collateral' := by
  rcases above with rfl | above
  · simp
  rcases Nat.eq_zero_or_pos collateral with none | positive
  · rw [none, Nat.div_zero]
    exact Nat.zero_le _
  · have positive' : 0 < collateral' := by omega
    rw [Nat.le_div_iff_mul_le positive']
    have floor : sum / collateral * collateral ≤ sum := Nat.div_mul_le_self sum collateral
    have gift : (collateral' - collateral) * (sum / collateral) ≤
        (collateral' - collateral) * added := Nat.mul_le_mul_left _ above
    calc sum / collateral * collateral'
        = sum / collateral * collateral + (collateral' - collateral) * (sum / collateral) := by
          rw [Nat.mul_comm (collateral' - collateral), ← Nat.mul_add]
          congr 1
          omega
      _ ≤ sum + (collateral' - collateral) * added := Nat.add_le_add floor gift

end GenericLogic

theorem sum_moved {n k : Nat} (before after : Nat → Nat) (inside : k < n)
    (same : ∀ i < n, i ≠ k → after i = before i) :
    ∑ i ∈ range n, after i + before k = ∑ i ∈ range n, before i + after k := by
  have place : k ∈ range n := mem_range.2 inside
  have rest : ∑ i ∈ (range n).erase k, after i = ∑ i ∈ (range n).erase k, before i :=
    sum_congr rfl fun i member =>
      same i (mem_range.1 (mem_of_mem_erase member)) (ne_of_mem_erase member)
  rw [← add_sum_erase _ after place, ← add_sum_erase _ before place, rest]
  omega

end PalmyProtocol
