import PalmyProtocol.Math.WadRayMath

set_option autoImplicit false

namespace PalmyProtocol

open Checked Rounding

structure ExactOrReverts (computed : Result Nat) (dividend divisor : Nat) : Prop where
  reverts : (∃ message, computed = .error message) ↔
    divisor = 0 ∨ maxUint256 < dividend + divisor / 2
  nearest : ∀ c, computed = .ok c → (c : ℤ) = round ((dividend : ℚ) / divisor)

variable {a b c unit : Nat}

theorem exactOrReverts {computed : Result Nat} {dividend divisor : Nat}
    (returns : ∀ c, computed = .ok c ↔ divisor ≠ 0 ∧ dividend + divisor / 2 ≤ maxUint256 ∧
      divHalfUp dividend divisor = c) : ExactOrReverts computed dividend divisor := by
  constructor
  · cases computed with
    | error message =>
        refine iff_of_true ⟨message, rfl⟩ ?_
        by_contra fits
        push Not at fits
        cases (returns _).2 ⟨fits.1, fits.2, rfl⟩
    | ok c =>
        obtain ⟨nonzero, fits, _⟩ := (returns c).1 rfl
        simp [nonzero, fits]
  · intro c returned
    obtain ⟨nonzero, _, rfl⟩ := (returns c).1 returned
    exact (round_div (Nat.pos_of_ne_zero nonzero)).symm

theorem mulRounded_exact (positive : 0 < unit) (small : unit ≤ maxUint256) :
    ExactOrReverts (mulRounded unit (unit / 2) a b) (a * b) unit := by
  apply exactOrReverts
  intro c
  rw [mulRounded_eq_ok small]
  simp [Nat.ne_of_gt positive]

theorem divRounded_exact (positive : 0 < unit) (word : b ≤ maxUint256) :
    ExactOrReverts (divRounded unit a b) (a * unit) b := by
  apply exactOrReverts
  intro c
  by_cases zero : b = 0
  · simp [divRounded, require, zero]
  · rw [divRounded_of_share positive zero word rfl]
    by_cases fits : a * unit + b / 2 ≤ maxUint256 <;> simp [fits, zero]

theorem rayToWad_exact (word : a ≤ maxUint256) :
    ExactOrReverts (rayToWad a) a WAD_RAY_RATIO := by
  apply exactOrReverts
  intro c
  have nonzero : WAD_RAY_RATIO ≠ 0 := by decide
  simp [rayToWad_eq_ok word, nonzero]

theorem wadToRay_exact : ExactOrReverts (wadToRay a) (a * WAD_RAY_RATIO) 1 := by
  apply exactOrReverts
  intro c
  simp [divHalfUp]

/-- Every operation of the two libraries, on any two words. -/
theorem fixed_point_exact (left : a ≤ maxUint256) (right : b ≤ maxUint256) :
    ExactOrReverts (wadMul a b) (a * b) WAD ∧
      ExactOrReverts (wadDiv a b) (a * WAD) b ∧
      ExactOrReverts (rayMul a b) (a * b) RAY ∧
      ExactOrReverts (rayDiv a b) (a * RAY) b ∧
      ExactOrReverts (percentMul a b) (a * b) PERCENTAGE_FACTOR ∧
      ExactOrReverts (percentDiv a b) (a * PERCENTAGE_FACTOR) b ∧
      ExactOrReverts (rayToWad a) a WAD_RAY_RATIO ∧
      ExactOrReverts (wadToRay a) (a * WAD_RAY_RATIO) 1 :=
  ⟨mulRounded_exact WAD_pos (by decide), divRounded_exact WAD_pos right,
    mulRounded_exact RAY_pos (by decide), divRounded_exact RAY_pos right,
    mulRounded_exact PERCENTAGE_FACTOR_pos (by decide), divRounded_exact PERCENTAGE_FACTOR_pos right,
    rayToWad_exact left, wadToRay_exact⟩

-- The largest word and an odd divisor.
theorem fixed_point_exact_largest : maxUint256 ≤ maxUint256 ∧ 7 ≤ maxUint256 ∧
    rayMul maxUint256 7 = .error Errors.MATH_MULTIPLICATION_OVERFLOW ∧
    ExactOrReverts (rayMul maxUint256 7) (maxUint256 * 7) RAY ∧
    ExactOrReverts (wadDiv maxUint256 7) (maxUint256 * WAD) 7 := by
  obtain ⟨_, wadDivided, rayMultiplied, _⟩ :=
    fixed_point_exact (le_refl maxUint256) (show 7 ≤ maxUint256 by decide)
  exact ⟨le_refl _, by decide, by decide, rayMultiplied, wadDivided⟩

end PalmyProtocol
