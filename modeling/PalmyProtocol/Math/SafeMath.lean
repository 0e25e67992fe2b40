import PalmyProtocol.Errors
import PalmyProtocol.Library.Checked
import Mathlib.Tactic.Common

set_option autoImplicit false

namespace PalmyProtocol

open Checked

-- A reverted call carries its message and leaves the state it started from.
abbrev Result := Except String

abbrev Address := Nat

def maxUint256 : Nat := 2 ^ 256 - 1
def maxUint128 : Nat := 2 ^ 128 - 1

def wrapAdd (a b : Nat) : Nat := (a + b) % 2 ^ 256
def wrapMul (a b : Nat) : Nat := (a * b) % 2 ^ 256

def uint40 (a : Nat) : Nat := a % 2 ^ 40

namespace SafeMath

-- `c >= a` on the wrapped sum is the test that the sum itself fits.
def add (a b : Nat) : Result Nat :=
  if a + b ≤ maxUint256 then .ok (a + b) else .error "SafeMath: addition overflow"

def subOr (a b : Nat) (errorMessage : String) : Result Nat :=
  if b ≤ a then .ok (a - b) else .error errorMessage

def sub (a b : Nat) : Result Nat := subOr a b "SafeMath: subtraction overflow"

def mul (a b : Nat) : Result Nat :=
  if a = 0 then .ok 0
  else if wrapMul a b / a = b then .ok (wrapMul a b)
  else .error "SafeMath: multiplication overflow"

def div (a b : Nat) : Result Nat :=
  if 0 < b then .ok (a / b) else .error "SafeMath: division by zero"

variable {a b c : Nat} {message : String}

theorem wrapAdd_exact (fits : a + b ≤ maxUint256) : wrapAdd a b = a + b := by
  apply Nat.mod_eq_of_lt
  unfold maxUint256 at fits
  omega

theorem le_wrapAdd (left : a ≤ maxUint256) (right : b ≤ maxUint256) :
    a ≤ wrapAdd a b ↔ a + b ≤ maxUint256 := by
  unfold wrapAdd
  unfold maxUint256 at *
  by_cases fits : a + b ≤ 2 ^ 256 - 1
  · have small : (a + b) % 2 ^ 256 = a + b := Nat.mod_eq_of_lt (by omega)
    simp only [small, fits, Nat.le_add_right]
  · have wrapped : (a + b) % 2 ^ 256 = a + b - 2 ^ 256 := by omega
    have below : ¬a ≤ a + b - 2 ^ 256 := by omega
    simp only [wrapped, fits, below]

theorem add_wrapped (left : a ≤ maxUint256) (right : b ≤ maxUint256) :
    add a b = if a ≤ wrapAdd a b then .ok (wrapAdd a b)
      else .error "SafeMath: addition overflow" := by
  simp only [le_wrapAdd left right, add]
  split_ifs with fits
  · rw [wrapAdd_exact fits]
  · rfl

@[simp]
theorem add_eq_ok : add a b = .ok c ↔ a + b ≤ maxUint256 ∧ a + b = c := by
  by_cases fits : a + b ≤ maxUint256 <;> simp [add, fits]

@[simp]
theorem subOr_eq_ok : subOr a b message = .ok c ↔ b ≤ a ∧ a - b = c := by
  by_cases order : b ≤ a <;> simp [subOr, order]

@[simp]
theorem sub_eq_ok : sub a b = .ok c ↔ b ≤ a ∧ a - b = c := subOr_eq_ok

theorem wrapMul_exact (fits : a * b ≤ maxUint256) : wrapMul a b = a * b := by
  apply Nat.mod_eq_of_lt
  unfold maxUint256 at fits
  omega

-- A wrapped product is smaller than the true one, and then so is its quotient by `a`.
theorem wrapMul_div (positive : 0 < a) : wrapMul a b / a = b ↔ a * b ≤ maxUint256 := by
  constructor
  · intro quotient
    have below : a * b ≤ wrapMul a b := by
      have floor := Nat.mul_div_le (wrapMul a b) a
      rwa [quotient] at floor
    have small : wrapMul a b < 2 ^ 256 := Nat.mod_lt _ (by decide)
    unfold maxUint256
    omega
  · intro fits
    rw [wrapMul_exact fits, Nat.mul_div_cancel_left b positive]

@[simp]
theorem mul_eq_ok : mul a b = .ok c ↔ a * b ≤ maxUint256 ∧ a * b = c := by
  unfold mul
  by_cases zero : a = 0
  · simp [zero]
  · have positive : 0 < a := Nat.pos_of_ne_zero zero
    simp only [zero, if_false, wrapMul_div positive]
    by_cases fits : a * b ≤ maxUint256
    · simp [fits, wrapMul_exact fits]
    · simp [fits]

@[simp]
theorem div_eq_ok : div a b = .ok c ↔ 0 < b ∧ a / b = c := by
  by_cases positive : 0 < b <;> simp [div, positive]

end SafeMath

theorem uint40_of_lt {a : Nat} (small : a < 2 ^ 40) : uint40 a = a := Nat.mod_eq_of_lt small

end PalmyProtocol
