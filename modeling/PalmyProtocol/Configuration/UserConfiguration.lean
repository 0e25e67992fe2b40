import PalmyProtocol.Library.BitField
import PalmyProtocol.Math.SafeMath

set_option autoImplicit false

namespace PalmyProtocol

open Checked

-- Two bits a reserve: borrowing at `2 * id`, used as collateral at `2 * id + 1`.
structure UserConfigurationMap where
  data : BitVec 256
  deriving DecidableEq

namespace UserConfigurationMap

def BORROWING_MASK : BitVec 256 :=
  0x5555555555555555555555555555555555555555555555555555555555555555

def empty : UserConfigurationMap := ⟨0⟩

variable (self : UserConfigurationMap)

def setBit (reserveIndex position : Nat) (flag : Bool) : Result UserConfigurationMap := do
  require (reserveIndex < 128) Errors.UL_INVALID_INDEX
  pure ⟨(self.data &&& ~~~((1 : BitVec 256) <<< position)) |||
    ((if flag then 1 else 0 : BitVec 256) <<< position)⟩

def setBorrowing (reserveIndex : Nat) (borrowing : Bool) : Result UserConfigurationMap :=
  setBit self reserveIndex (reserveIndex * 2) borrowing

def setUsingAsCollateral (reserveIndex : Nat) (usingAsCollateral : Bool) :
    Result UserConfigurationMap :=
  setBit self reserveIndex (reserveIndex * 2 + 1) usingAsCollateral

def isUsingAsCollateralOrBorrowing (reserveIndex : Nat) : Result Bool := do
  require (reserveIndex < 128) Errors.UL_INVALID_INDEX
  pure (((self.data >>> (reserveIndex * 2)) &&& 3) != 0)

def isBorrowing (reserveIndex : Nat) : Result Bool := do
  require (reserveIndex < 128) Errors.UL_INVALID_INDEX
  pure (((self.data >>> (reserveIndex * 2)) &&& 1) != 0)

def isUsingAsCollateral (reserveIndex : Nat) : Result Bool := do
  require (reserveIndex < 128) Errors.UL_INVALID_INDEX
  pure (((self.data >>> (reserveIndex * 2 + 1)) &&& 1) != 0)

def isBorrowingAny : Bool := (self.data &&& BORROWING_MASK) != 0

def isEmpty : Bool := self.data == 0

def borrows (reserveIndex : Nat) : Bool := self.data.getLsbD (reserveIndex * 2)
def collateralises (reserveIndex : Nat) : Bool := self.data.getLsbD (reserveIndex * 2 + 1)

variable {self}

theorem shifted_bit (position : Nat) (word : BitVec 256) :
    (((word >>> position) &&& 1) != 0) = word.getLsbD position := by
  have nonzero := BitField.read_ne_zero position 1 word
  rw [← BitField.shift_and_lanes] at nonzero
  rw [Bool.eq_iff_iff, bne_iff_ne]
  refine nonzero.trans ⟨?_, fun set => ⟨0, by decide, set⟩⟩
  rintro ⟨i, first, set⟩
  have zero : i = 0 := by omega
  rwa [zero] at set

theorem shifted_pair (position : Nat) (word : BitVec 256) :
    (((word >>> position) &&& 3) != 0) =
      (word.getLsbD position || word.getLsbD (position + 1)) := by
  have nonzero := BitField.read_ne_zero position 2 word
  rw [← BitField.shift_and_lanes] at nonzero
  rw [Bool.eq_iff_iff, bne_iff_ne, Bool.or_eq_true]
  refine nonzero.trans ⟨?_, ?_⟩
  · rintro ⟨i, within, set⟩
    have either : i = 0 ∨ i = 1 := by omega
    rcases either with rfl | rfl
    · exact .inl set
    · exact .inr set
  · rintro (set | set)
    · exact ⟨0, by decide, set⟩
    · exact ⟨1, by decide, set⟩

theorem isBorrowing_eq_ok {reserveIndex : Nat} {flag : Bool} :
    self.isBorrowing reserveIndex = .ok flag ↔
      reserveIndex < 128 ∧ self.borrows reserveIndex = flag := by
  simp only [isBorrowing, borrows, shifted_bit, bind_eq_ok, require_eq_ok, exists_const, pure_eq_ok]

theorem isUsingAsCollateral_eq_ok {reserveIndex : Nat} {flag : Bool} :
    self.isUsingAsCollateral reserveIndex = .ok flag ↔
      reserveIndex < 128 ∧ self.collateralises reserveIndex = flag := by
  simp only [isUsingAsCollateral, collateralises, shifted_bit, bind_eq_ok, require_eq_ok,
    exists_const, pure_eq_ok]

theorem isUsingAsCollateralOrBorrowing_eq_ok {reserveIndex : Nat} {flag : Bool} :
    self.isUsingAsCollateralOrBorrowing reserveIndex = .ok flag ↔
      reserveIndex < 128 ∧
        (self.borrows reserveIndex || self.collateralises reserveIndex) = flag := by
  simp only [isUsingAsCollateralOrBorrowing, borrows, collateralises, shifted_pair,
    bind_eq_ok, require_eq_ok, exists_const, pure_eq_ok]

theorem setBit_ok {reserveIndex position : Nat} {flag : Bool} {config : UserConfigurationMap}
    (bound : position < 256) (computed : self.setBit reserveIndex position flag = .ok config) :
    reserveIndex < 128 ∧
      ∀ i, config.data.getLsbD i = if i = position then flag else self.data.getLsbD i := by
  simp only [setBit, bind_eq_ok, require_eq_ok, exists_const, pure_eq_ok] at computed
  obtain ⟨index, rfl⟩ := computed
  refine ⟨index, fun i => ?_⟩
  have small : (if flag then 1 else 0 : BitVec 256).toNat < 2 ^ 1 := by cases flag <;> decide
  have written := BitField.getLsbD_write position self.data small i
  refine written.trans ?_
  by_cases here : i = position
  · have inside : i < 256 ∧ position ≤ i ∧ i < position + 1 := by omega
    cases flag <;> simp [here, bound]
  · have outside : ¬(i < 256 ∧ position ≤ i ∧ i < position + 1) := by omega
    rw [if_neg outside, if_neg here]

theorem setBorrowing_ok {reserveIndex : Nat} {flag : Bool} {config : UserConfigurationMap}
    (computed : self.setBorrowing reserveIndex flag = .ok config) :
    reserveIndex < 128 ∧
      (∀ i, config.borrows i = if i = reserveIndex then flag else self.borrows i) ∧
      ∀ i, config.collateralises i = self.collateralises i := by
  have index : reserveIndex < 128 := by
    simp only [setBorrowing, setBit, bind_eq_ok, require_eq_ok, exists_const] at computed
    exact computed.1
  obtain ⟨_, bits⟩ := setBit_ok (by omega) computed
  refine ⟨index, fun i => ?_, fun i => ?_⟩
  · have same : i * 2 = reserveIndex * 2 ↔ i = reserveIndex := by omega
    simp [borrows, bits, same]
  · have odd : i * 2 + 1 ≠ reserveIndex * 2 := by omega
    simp [collateralises, bits, odd]

theorem setUsingAsCollateral_ok {reserveIndex : Nat} {flag : Bool} {config : UserConfigurationMap}
    (computed : self.setUsingAsCollateral reserveIndex flag = .ok config) :
    reserveIndex < 128 ∧ (∀ i, config.borrows i = self.borrows i) ∧
      ∀ i, config.collateralises i = if i = reserveIndex then flag else self.collateralises i := by
  have index : reserveIndex < 128 := by
    simp only [setUsingAsCollateral, setBit, bind_eq_ok, require_eq_ok, exists_const] at computed
    exact computed.1
  obtain ⟨_, bits⟩ := setBit_ok (by omega) computed
  refine ⟨index, fun i => ?_, fun i => ?_⟩
  · have even : i * 2 ≠ reserveIndex * 2 + 1 := by omega
    simp [borrows, bits, even]
  · have same : i * 2 + 1 = reserveIndex * 2 + 1 ↔ i = reserveIndex := by omega
    simp only [collateralises, bits, same]

theorem setUsingAsCollateral_defined {reserveIndex : Nat} (index : reserveIndex < 128)
    (flag : Bool) : ∃ config, self.setUsingAsCollateral reserveIndex flag = .ok config := by
  simp only [setUsingAsCollateral, setBit, bind_eq_ok, require_eq_ok, exists_const, pure_eq_ok]
  exact ⟨_, index, rfl⟩

-- The constant mask picks the even bits: one for each of the 128 reserves.
theorem getLsbD_BORROWING_MASK {i : Nat} (inside : i < 256) :
    BORROWING_MASK.getLsbD i = decide (i % 2 = 0) := by
  have table : ∀ i : Fin 256, BORROWING_MASK.getLsbD i = decide ((i : Nat) % 2 = 0) := by
    decide +kernel
  exact table ⟨i, inside⟩

theorem isBorrowingAny_iff : self.isBorrowingAny = true ↔ ∃ i < 128, self.borrows i = true := by
  rw [isBorrowingAny, bne_iff_ne]
  constructor
  · intro nonzero
    by_contra clear
    push Not at clear
    apply nonzero
    apply BitVec.eq_of_getLsbD_eq
    intro i inside
    rw [BitVec.getLsbD_and, getLsbD_BORROWING_MASK inside]
    by_cases even : i % 2 = 0
    · have bit := clear (i / 2) (by omega)
      have half : i / 2 * 2 = i := by omega
      simp [borrows, half] at bit
      simp [bit]
    · simp [even]
  · rintro ⟨i, index, set⟩ zero
    have bit := congrArg (fun word => word.getLsbD (i * 2)) zero
    have even : i * 2 % 2 = 0 := by omega
    simp only [BitVec.getLsbD_and, getLsbD_BORROWING_MASK (show i * 2 < 256 by omega), even] at bit
    simp [borrows] at set
    simp [set] at bit

theorem isEmpty_iff : self.isEmpty = true ↔
    ∀ i < 128, self.borrows i = false ∧ self.collateralises i = false := by
  rw [isEmpty, beq_iff_eq]
  constructor
  · intro zero i _
    simp [borrows, collateralises, zero]
  · intro clear
    apply BitVec.eq_of_getLsbD_eq
    intro i inside
    obtain ⟨borrowing, collateral⟩ := clear (i / 2) (by omega)
    have either : i = i / 2 * 2 ∨ i = i / 2 * 2 + 1 := by omega
    rcases either with even | odd
    · rw [even]
      simpa [borrows] using borrowing
    · rw [odd]
      simpa [collateralises] using collateral

end UserConfigurationMap

end PalmyProtocol
