import PalmyProtocol.Library.Rounding
import PalmyProtocol.Math.SafeMath

set_option autoImplicit false

namespace PalmyProtocol

open Checked Rounding

def WAD : Nat := 1000000000000000000
def halfWAD : Nat := WAD / 2
def RAY : Nat := 1000000000000000000000000000
def halfRAY : Nat := RAY / 2
def WAD_RAY_RATIO : Nat := 1000000000

def PERCENTAGE_FACTOR : Nat := 10000
def HALF_PERCENT : Nat := PERCENTAGE_FACTOR / 2

-- The three products and the three quotients differ in their unit only. They compute on machine
-- words, and the guard in front of the product is what keeps it exact.
def mulRounded (unit half a b : Nat) : Result Nat :=
  if a = 0 ∨ b = 0 then .ok 0 else do
    require (a ≤ (maxUint256 - half) / b) Errors.MATH_MULTIPLICATION_OVERFLOW
    pure (wrapAdd (wrapMul a b) half / unit)

def divRounded (unit a b : Nat) : Result Nat := do
  require (b ≠ 0) Errors.MATH_DIVISION_BY_ZERO
  let halfB := b / 2
  require (a ≤ (maxUint256 - halfB) / unit) Errors.MATH_MULTIPLICATION_OVERFLOW
  pure (wrapAdd (wrapMul a unit) halfB / b)

def wadMul (a b : Nat) : Result Nat := mulRounded WAD halfWAD a b
def wadDiv (a b : Nat) : Result Nat := divRounded WAD a b
def rayMul (a b : Nat) : Result Nat := mulRounded RAY halfRAY a b
def rayDiv (a b : Nat) : Result Nat := divRounded RAY a b
def percentMul (value percentage : Nat) : Result Nat :=
  mulRounded PERCENTAGE_FACTOR HALF_PERCENT value percentage
def percentDiv (value percentage : Nat) : Result Nat :=
  divRounded PERCENTAGE_FACTOR value percentage

def rayToWad (a : Nat) : Result Nat := do
  let halfRatio := WAD_RAY_RATIO / 2
  let result := wrapAdd halfRatio a
  require (halfRatio ≤ result) Errors.MATH_ADDITION_OVERFLOW
  pure (result / WAD_RAY_RATIO)

def wadToRay (a : Nat) : Result Nat := do
  let result := wrapMul a WAD_RAY_RATIO
  require (result / WAD_RAY_RATIO = a) Errors.MATH_MULTIPLICATION_OVERFLOW
  pure result

theorem RAY_pos : 0 < RAY := by decide
theorem WAD_pos : 0 < WAD := by decide
theorem PERCENTAGE_FACTOR_pos : 0 < PERCENTAGE_FACTOR := by decide

variable {a b c unit : Nat}

theorem wrapped_exact {half : Nat} (fits : a * b + half ≤ maxUint256) :
    wrapAdd (wrapMul a b) half = a * b + half := by
  rw [SafeMath.wrapMul_exact (le_trans (Nat.le_add_right _ _) fits), SafeMath.wrapAdd_exact fits]

theorem mulRounded_eq_ok (small : unit ≤ maxUint256) :
    mulRounded unit (unit / 2) a b = .ok c ↔
      a * b + unit / 2 ≤ maxUint256 ∧ divHalfUp (a * b) unit = c := by
  have half : unit / 2 ≤ maxUint256 := le_trans (Nat.div_le_self _ _) small
  by_cases zero : a = 0 ∨ b = 0
  · have product : a * b = 0 := Nat.mul_eq_zero.2 zero
    simp [mulRounded, zero, product, half]
  · have right : 0 < b := by omega
    have guarded : a ≤ (maxUint256 - unit / 2) / b ↔ a * b + unit / 2 ≤ maxUint256 := by
      rw [Nat.le_div_iff_mul_le right]
      omega
    simp only [mulRounded, zero, if_false, bind_eq_ok, require_eq_ok, exists_const, guarded, pure_eq_ok]
    apply and_congr_right
    intro fits
    rw [wrapped_exact fits, divHalfUp]

-- Past the word size only a zero dividend passes the guard, and it still rounds to zero.
theorem divRounded_ok (positive : 0 < unit) (computed : divRounded unit a b = .ok c) :
    b ≠ 0 ∧ divHalfUp (a * unit) b = c := by
  by_cases small : b / 2 ≤ maxUint256
  · simp only [divRounded, bind_eq_ok, require_eq_ok, exists_const, pure_eq_ok] at computed
    obtain ⟨nonzero, guard, rfl⟩ := computed
    rw [Nat.le_div_iff_mul_le positive] at guard
    refine ⟨nonzero, ?_⟩
    rw [wrapped_exact (by omega), divHalfUp]
  · simp only [divRounded, bind_eq_ok, require_eq_ok, exists_const, pure_eq_ok] at computed
    obtain ⟨nonzero, guard, rfl⟩ := computed
    have none : (maxUint256 - b / 2) / unit = 0 := by
      rw [Nat.sub_eq_zero_of_le (by omega), Nat.zero_div]
    have zero : a = 0 := by omega
    have floor : b / 2 % 2 ^ 256 < b :=
      lt_of_le_of_lt (Nat.mod_le _ _) (Nat.div_lt_self (by omega) (by omega))
    refine ⟨nonzero, ?_⟩
    rw [zero, Nat.zero_mul, divHalfUp_zero, wrapMul, Nat.zero_mul, Nat.zero_mod, wrapAdd,
      Nat.zero_add, Nat.div_eq_of_lt floor]

theorem divRounded_of_share (positive : 0 < unit) (nonzero : b ≠ 0)
    (word : b ≤ maxUint256) (share : divHalfUp (a * unit) b = c) :
    divRounded unit a b = if a * unit + b / 2 ≤ maxUint256 then .ok c
      else .error Errors.MATH_MULTIPLICATION_OVERFLOW := by
  have half : b / 2 ≤ maxUint256 := le_trans (Nat.div_le_self b 2) word
  have guarded : a ≤ (maxUint256 - b / 2) / unit ↔ a * unit + b / 2 ≤ maxUint256 := by
    rw [Nat.le_div_iff_mul_le positive]
    omega
  by_cases fits : a * unit + b / 2 ≤ maxUint256
  · rw [divHalfUp] at share
    simp only [divRounded, require, ne_eq, nonzero, not_false_eq_true, if_true, ok_bind, guarded,
      fits, wrapped_exact fits, share]
    rfl
  · simp only [divRounded, require, ne_eq, nonzero, not_false_eq_true, if_true, ok_bind, guarded,
      fits, if_false, error_bind]

@[simp]
theorem rayMul_eq_ok :
    rayMul a b = .ok c ↔ a * b + halfRAY ≤ maxUint256 ∧ divHalfUp (a * b) RAY = c :=
  mulRounded_eq_ok (by decide)

@[simp]
theorem wadMul_eq_ok :
    wadMul a b = .ok c ↔ a * b + halfWAD ≤ maxUint256 ∧ divHalfUp (a * b) WAD = c :=
  mulRounded_eq_ok (by decide)

@[simp]
theorem percentMul_eq_ok : percentMul a b = .ok c ↔
    a * b + HALF_PERCENT ≤ maxUint256 ∧ divHalfUp (a * b) PERCENTAGE_FACTOR = c :=
  mulRounded_eq_ok (by decide)

theorem rayDiv_ok (computed : rayDiv a b = .ok c) : b ≠ 0 ∧ divHalfUp (a * RAY) b = c :=
  divRounded_ok RAY_pos computed

theorem wadDiv_ok (computed : wadDiv a b = .ok c) : b ≠ 0 ∧ divHalfUp (a * WAD) b = c :=
  divRounded_ok WAD_pos computed

theorem percentDiv_ok (computed : percentDiv a b = .ok c) :
    b ≠ 0 ∧ divHalfUp (a * PERCENTAGE_FACTOR) b = c :=
  divRounded_ok PERCENTAGE_FACTOR_pos computed

@[simp]
theorem wadToRay_eq_ok :
    wadToRay a = .ok c ↔ a * WAD_RAY_RATIO ≤ maxUint256 ∧ a * WAD_RAY_RATIO = c := by
  have test : wrapMul a WAD_RAY_RATIO / WAD_RAY_RATIO = a ↔ a * WAD_RAY_RATIO ≤ maxUint256 := by
    have swapped : wrapMul a WAD_RAY_RATIO = wrapMul WAD_RAY_RATIO a := by
      simp [wrapMul, Nat.mul_comm]
    rw [swapped, SafeMath.wrapMul_div (by decide), Nat.mul_comm]
  simp only [wadToRay, bind_eq_ok, require_eq_ok, exists_const, pure_eq_ok, test]
  apply and_congr_right
  intro fits
  rw [SafeMath.wrapMul_exact fits]

theorem rayToWad_eq_ok (word : a ≤ maxUint256) : rayToWad a = .ok c ↔
    a + WAD_RAY_RATIO / 2 ≤ maxUint256 ∧ divHalfUp a WAD_RAY_RATIO = c := by
  have guard := SafeMath.le_wrapAdd (a := WAD_RAY_RATIO / 2) (b := a) (by decide) word
  simp only [rayToWad, bind_eq_ok, require_eq_ok, exists_const, pure_eq_ok, guard]
  rw [Nat.add_comm a]
  apply and_congr_right
  intro fits
  rw [SafeMath.wrapAdd_exact fits, divHalfUp, Nat.add_comm a]

-- Growing a balance by an index of at least one never shrinks it, and shrinking it back is exact.
theorem le_rayMul {scaled index : Nat} (grown : RAY ≤ index) :
    scaled ≤ divHalfUp (scaled * index) RAY := by
  have product := Nat.mul_le_mul_left scaled grown
  rw [le_divHalfUp RAY_pos, Nat.mul_comm RAY scaled]
  omega

theorem le_rayDiv_rayMul {scaled index shown : Nat} (grown : RAY ≤ index) (order : index ≤ shown) :
    scaled ≤ divHalfUp (divHalfUp (scaled * shown) RAY * RAY) index := by
  rw [le_divHalfUp (Nat.lt_of_lt_of_le RAY_pos grown)]
  have lower := divHalfUp_lower (n := scaled * shown) RAY_pos
  have product := Nat.mul_le_mul_left scaled order
  rw [Nat.mul_comm index scaled, Nat.mul_comm _ RAY]
  omega

theorem rayDiv_rayMul {scaled index : Nat} (grown : RAY ≤ index) :
    divHalfUp (divHalfUp (scaled * index) RAY * RAY) index = scaled := by
  have positive : 0 < index := Nat.lt_of_lt_of_le RAY_pos grown
  apply Nat.le_antisymm
  · rcases Nat.eq_or_lt_of_le grown with rfl | larger
    · rw [divHalfUp_mul_right RAY_pos, divHalfUp_mul_right RAY_pos]
    · -- the two halves together stay below one index, floored or not
      have upper := divHalfUp_upper (n := scaled * index) RAY_pos
      rw [← Nat.lt_succ_iff, divHalfUp_lt positive, Nat.succ_eq_add_one, Nat.mul_add, Nat.mul_one,
        Nat.mul_comm index scaled, Nat.mul_comm _ RAY]
      omega
  · exact le_rayDiv_rayMul grown (le_refl index)

theorem rayMul_mono {a' b' : Nat} (left : a ≤ a') (right : b ≤ b') :
    divHalfUp (a * b) RAY ≤ divHalfUp (a' * b') RAY :=
  divHalfUp_mono (Nat.mul_le_mul left right) RAY

theorem rayMul_RAY (a : Nat) : divHalfUp (a * RAY) RAY = a := divHalfUp_mul_right RAY_pos a

end PalmyProtocol
