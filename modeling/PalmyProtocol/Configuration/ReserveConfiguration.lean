import PalmyProtocol.Library.BitField
import PalmyProtocol.Math.SafeMath

set_option autoImplicit false

namespace PalmyProtocol

open Checked

structure ReserveConfigurationMap where
  data : BitVec 256
  deriving DecidableEq

namespace ReserveConfiguration

def LTV_MASK : BitVec 256 :=
  0xFFFFFFFFFFFFFFFFFFFFFFFFFFFFFFFFFFFFFFFFFFFFFFFFFFFFFFFFFFFF0000
def LIQUIDATION_THRESHOLD_MASK : BitVec 256 :=
  0xFFFFFFFFFFFFFFFFFFFFFFFFFFFFFFFFFFFFFFFFFFFFFFFFFFFFFFFF0000FFFF
def LIQUIDATION_BONUS_MASK : BitVec 256 :=
  0xFFFFFFFFFFFFFFFFFFFFFFFFFFFFFFFFFFFFFFFFFFFFFFFFFFFF0000FFFFFFFF
def DECIMALS_MASK : BitVec 256 :=
  0xFFFFFFFFFFFFFFFFFFFFFFFFFFFFFFFFFFFFFFFFFFFFFFFFFF00FFFFFFFFFFFF
def ACTIVE_MASK : BitVec 256 :=
  0xFFFFFFFFFFFFFFFFFFFFFFFFFFFFFFFFFFFFFFFFFFFFFFFFFEFFFFFFFFFFFFFF
def FROZEN_MASK : BitVec 256 :=
  0xFFFFFFFFFFFFFFFFFFFFFFFFFFFFFFFFFFFFFFFFFFFFFFFFFDFFFFFFFFFFFFFF
def BORROWING_MASK : BitVec 256 :=
  0xFFFFFFFFFFFFFFFFFFFFFFFFFFFFFFFFFFFFFFFFFFFFFFFFFBFFFFFFFFFFFFFF
def STABLE_BORROWING_MASK : BitVec 256 :=
  0xFFFFFFFFFFFFFFFFFFFFFFFFFFFFFFFFFFFFFFFFFFFFFFFFF7FFFFFFFFFFFFFF
def RESERVE_FACTOR_MASK : BitVec 256 :=
  0xFFFFFFFFFFFFFFFFFFFFFFFFFFFFFFFFFFFFFFFFFFFF0000FFFFFFFFFFFFFFFF

def LIQUIDATION_THRESHOLD_START_BIT_POSITION : Nat := 16
def LIQUIDATION_BONUS_START_BIT_POSITION : Nat := 32
def RESERVE_DECIMALS_START_BIT_POSITION : Nat := 48
def IS_ACTIVE_START_BIT_POSITION : Nat := 56
def IS_FROZEN_START_BIT_POSITION : Nat := 57
def BORROWING_ENABLED_START_BIT_POSITION : Nat := 58
def STABLE_BORROWING_ENABLED_START_BIT_POSITION : Nat := 59
def RESERVE_FACTOR_START_BIT_POSITION : Nat := 64

def MAX_VALID_LTV : Nat := 65535
def MAX_VALID_LIQUIDATION_THRESHOLD : Nat := 65535
def MAX_VALID_LIQUIDATION_BONUS : Nat := 65535
def MAX_VALID_DECIMALS : Nat := 255
def MAX_VALID_RESERVE_FACTOR : Nat := 65535

-- A field of the word: the mask that clears it and the lane of bits the mask leaves out.
structure Lane where
  mask : BitVec 256
  start : Nat
  width : Nat
  spans : mask = ~~~BitField.lanes 256 start width
  fits : start + width ≤ 256

def ltvLane : Lane := ⟨LTV_MASK, 0, 16, by decide, by decide⟩
def liquidationThresholdLane : Lane :=
  ⟨LIQUIDATION_THRESHOLD_MASK, LIQUIDATION_THRESHOLD_START_BIT_POSITION, 16, by decide, by decide⟩
def liquidationBonusLane : Lane :=
  ⟨LIQUIDATION_BONUS_MASK, LIQUIDATION_BONUS_START_BIT_POSITION, 16, by decide, by decide⟩
def decimalsLane : Lane :=
  ⟨DECIMALS_MASK, RESERVE_DECIMALS_START_BIT_POSITION, 8, by decide, by decide⟩
def activeLane : Lane := ⟨ACTIVE_MASK, IS_ACTIVE_START_BIT_POSITION, 1, by decide, by decide⟩
def frozenLane : Lane := ⟨FROZEN_MASK, IS_FROZEN_START_BIT_POSITION, 1, by decide, by decide⟩
def borrowingLane : Lane :=
  ⟨BORROWING_MASK, BORROWING_ENABLED_START_BIT_POSITION, 1, by decide, by decide⟩
def stableBorrowingLane : Lane :=
  ⟨STABLE_BORROWING_MASK, STABLE_BORROWING_ENABLED_START_BIT_POSITION, 1, by decide, by decide⟩
def reserveFactorLane : Lane :=
  ⟨RESERVE_FACTOR_MASK, RESERVE_FACTOR_START_BIT_POSITION, 16, by decide, by decide⟩

def getField (lane : Lane) (self : ReserveConfigurationMap) : Nat :=
  ((self.data &&& ~~~lane.mask) >>> lane.start).toNat

def setField (lane : Lane) (self : ReserveConfigurationMap) (value : Nat) :
    ReserveConfigurationMap :=
  ⟨(self.data &&& lane.mask) ||| (BitVec.ofNat 256 value <<< lane.start)⟩

def getFlag (lane : Lane) (self : ReserveConfigurationMap) : Bool :=
  (self.data &&& ~~~lane.mask) != 0

def setFlag (lane : Lane) (self : ReserveConfigurationMap) (flag : Bool) :
    ReserveConfigurationMap :=
  setField lane self (if flag then 1 else 0)

def setBounded (lane : Lane) (maximum : Nat) (message : String) (self : ReserveConfigurationMap)
    (value : Nat) : Result ReserveConfigurationMap := do
  require (value ≤ maximum) message
  pure (setField lane self value)

end ReserveConfiguration

namespace ReserveConfigurationMap

open ReserveConfiguration

variable (self : ReserveConfigurationMap)

def setLtv (ltv : Nat) := setBounded ltvLane MAX_VALID_LTV Errors.RC_INVALID_LTV self ltv
def getLtv : Nat := getField ltvLane self
def setLiquidationThreshold (threshold : Nat) :=
  setBounded liquidationThresholdLane MAX_VALID_LIQUIDATION_THRESHOLD
    Errors.RC_INVALID_LIQ_THRESHOLD self threshold
def getLiquidationThreshold : Nat := getField liquidationThresholdLane self
def setLiquidationBonus (bonus : Nat) :=
  setBounded liquidationBonusLane MAX_VALID_LIQUIDATION_BONUS Errors.RC_INVALID_LIQ_BONUS self bonus
def getLiquidationBonus : Nat := getField liquidationBonusLane self
def setDecimals (decimals : Nat) :=
  setBounded decimalsLane MAX_VALID_DECIMALS Errors.RC_INVALID_DECIMALS self decimals
def getDecimals : Nat := getField decimalsLane self
def setActive (active : Bool) := setFlag activeLane self active
def getActive : Bool := getFlag activeLane self
def setFrozen (frozen : Bool) := setFlag frozenLane self frozen
def getFrozen : Bool := getFlag frozenLane self
def setBorrowingEnabled (enabled : Bool) := setFlag borrowingLane self enabled
def getBorrowingEnabled : Bool := getFlag borrowingLane self
def setStableRateBorrowingEnabled (enabled : Bool) := setFlag stableBorrowingLane self enabled
def getStableRateBorrowingEnabled : Bool := getFlag stableBorrowingLane self
def setReserveFactor (reserveFactor : Nat) :=
  setBounded reserveFactorLane MAX_VALID_RESERVE_FACTOR Errors.RC_INVALID_RESERVE_FACTOR self
    reserveFactor
def getReserveFactor : Nat := getField reserveFactorLane self

def getFlags : Bool × Bool × Bool × Bool :=
  (getFlag activeLane self, getFlag frozenLane self, getFlag borrowingLane self,
    getFlag stableBorrowingLane self)

-- Ltv, liquidation threshold, liquidation bonus, decimals, reserve factor.
def getParams : Nat × Nat × Nat × Nat × Nat :=
  (getField ltvLane self, getField liquidationThresholdLane self,
    getField liquidationBonusLane self, getField decimalsLane self,
    getField reserveFactorLane self)

def getParamsMemory : Nat × Nat × Nat × Nat × Nat :=
  (getField ltvLane self, getField liquidationThresholdLane self,
    getField liquidationBonusLane self, getField decimalsLane self,
    getField reserveFactorLane self)

def getFlagsMemory : Bool × Bool × Bool × Bool :=
  (getFlag activeLane self, getFlag frozenLane self, getFlag borrowingLane self,
    getFlag stableBorrowingLane self)

end ReserveConfigurationMap

namespace ReserveConfiguration

variable (self : ReserveConfigurationMap)

def Lane.Disjoint (lane other : Lane) : Prop :=
  lane.start + lane.width ≤ other.start ∨ other.start + other.width ≤ lane.start

instance (lane other : Lane) : Decidable (lane.Disjoint other) :=
  inferInstanceAs (Decidable (_ ∨ _))

theorem getField_read (lane : Lane) :
    getField lane self = (BitField.read lane.start lane.width self.data).toNat := by
  rw [getField, lane.spans, BitVec.not_not]
  rfl

theorem setField_write (lane : Lane) (value : Nat) :
    (setField lane self value).data =
      BitField.write lane.start lane.width self.data (BitVec.ofNat 256 value) := by
  rw [setField, lane.spans]
  rfl

theorem getField_lt (lane : Lane) : getField lane self < 2 ^ lane.width := by
  rw [getField_read]
  exact BitField.read_lt lane.start lane.width self.data

theorem word_of_small {lane : Lane} {value : Nat} (small : value < 2 ^ lane.width) :
    (BitVec.ofNat 256 value).toNat = value := by
  rw [BitVec.toNat_ofNat]
  apply Nat.mod_eq_of_lt
  have width : lane.width ≤ 256 := Nat.le_trans (Nat.le_add_left _ _) lane.fits
  exact Nat.lt_of_lt_of_le small (Nat.pow_le_pow_right (by decide) width)

theorem getField_setField {lane : Lane} {value : Nat} (small : value < 2 ^ lane.width) :
    getField lane (setField lane self value) = value := by
  have exact := word_of_small small
  rw [getField_read, setField_write,
    BitField.read_write_same self.data lane.fits (by rwa [exact]), exact]

theorem getField_setField_other {lane other : Lane} {value : Nat} (small : value < 2 ^ lane.width)
    (disjoint : lane.Disjoint other) :
    getField other (setField lane self value) = getField other self := by
  have exact := word_of_small small
  rw [getField_read, getField_read, setField_write,
    BitField.read_write_other self.data (by rwa [exact]) disjoint]

theorem setField_comm {lane other : Lane} {value value' : Nat} (small : value < 2 ^ lane.width)
    (small' : value' < 2 ^ other.width) (disjoint : lane.Disjoint other) :
    setField other (setField lane self value) value' =
      setField lane (setField other self value') value := by
  have exact := word_of_small small
  have exact' := word_of_small small'
  have same : (setField other (setField lane self value) value').data =
      (setField lane (setField other self value') value).data := by
    rw [setField_write, setField_write, setField_write, setField_write]
    exact BitField.write_comm self.data (by rwa [exact]) (by rwa [exact']) disjoint
  exact congrArg ReserveConfigurationMap.mk same

-- A flag is its one-bit field tested against zero, before the shift that the source leaves out.
theorem getFlag_getField (lane : Lane) : getFlag lane self = (getField lane self != 0) := by
  have unshifted : (self.data &&& ~~~lane.mask) = 0 ↔ getField lane self = 0 := by
    rw [lane.spans, BitVec.not_not]
    constructor
    · intro zero
      rw [getField, lane.spans, BitVec.not_not, zero]
      simp
    · intro zero
      apply BitVec.eq_of_getLsbD_eq
      intro i _
      have bits : BitField.read lane.start lane.width self.data = 0 := by
        apply BitVec.eq_of_toNat_eq
        rw [← getField_read, zero]
        rfl
      have bit := BitField.getLsbD_read lane.start lane.width (i - lane.start) self.data
      rw [bits] at bit
      simp only [BitVec.getLsbD_and, BitField.getLsbD_lanes]
      by_cases inside : i < 256 ∧ lane.start ≤ i ∧ i < lane.start + lane.width
      · have within : i - lane.start < lane.width := by omega
        have shifted : lane.start + (i - lane.start) = i := by omega
        simp [within, shifted] at bit
        simp [bit]
      · simp [inside]
  rw [getFlag, Bool.eq_iff_iff, bne_iff_ne, bne_iff_ne]
  exact not_congr unshifted

theorem flag_small (lane : Lane) (bit : 0 < lane.width) (flag : Bool) :
    (if flag then 1 else 0) < 2 ^ lane.width := by
  have two : 2 ^ 1 ≤ 2 ^ lane.width := Nat.pow_le_pow_right (by decide) bit
  cases flag with
  | false =>
      rw [if_neg Bool.false_ne_true]
      omega
  | true =>
      rw [if_pos rfl]
      omega

theorem setBounded_ok {lane : Lane} {maximum value : Nat} {message : String}
    {configuration : ReserveConfigurationMap}
    (computed : setBounded lane maximum message self value = .ok configuration) :
    value ≤ maximum ∧ configuration = setField lane self value := by
  simp only [setBounded, bind_eq_ok, require_eq_ok, exists_const, pure_eq_ok] at computed
  obtain ⟨bound, rfl⟩ := computed
  exact ⟨bound, rfl⟩

theorem setBounded_in_range {lane : Lane} {maximum value : Nat} {message : String}
    (bound : value ≤ maximum) :
    setBounded lane maximum message self value = .ok (setField lane self value) := by
  simp only [setBounded, require, bound, if_true, ok_bind]
  rfl

theorem setBounded_out_of_range {lane : Lane} {maximum value : Nat} {message : String}
    (above : ¬value ≤ maximum) : setBounded lane maximum message self value = .error message := by
  simp only [setBounded, require, above, if_false, error_bind]

inductive ConfigField where
  | ltv
  | liquidationThreshold
  | liquidationBonus
  | decimals
  | active
  | frozen
  | borrowing
  | stableBorrowing
  | reserveFactor
  deriving DecidableEq

def ConfigField.lane : ConfigField → Lane
  | ltv => ltvLane
  | liquidationThreshold => liquidationThresholdLane
  | liquidationBonus => liquidationBonusLane
  | decimals => decimalsLane
  | active => activeLane
  | frozen => frozenLane
  | borrowing => borrowingLane
  | stableBorrowing => stableBorrowingLane
  | reserveFactor => reserveFactorLane

theorem ConfigField.disjoint {field other : ConfigField} (different : other ≠ field) :
    field.lane.Disjoint other.lane := by
  cases field <;> cases other <;> first | exact absurd rfl different | decide

end ReserveConfiguration

namespace ReserveConfigurationMap

open ReserveConfiguration

def Rewrites (fields : List ConfigField) (config after : ReserveConfigurationMap) : Prop :=
  ∀ field, field ∉ fields → getField field.lane after = getField field.lane config

variable {fields : List ConfigField} {config middle after : ReserveConfigurationMap}

theorem Rewrites.refl : Rewrites fields config config := fun _ _ => rfl

theorem Rewrites.trans (first : Rewrites fields config middle)
    (second : Rewrites fields middle after) : Rewrites fields config after :=
  fun field other => (second field other).trans (first field other)

theorem rewrites_setField {field : ConfigField} {value : Nat} (named : field ∈ fields)
    (small : value < 2 ^ field.lane.width) :
    Rewrites fields config (setField field.lane config value) := by
  intro other unnamed
  apply getField_setField_other config small
  exact ConfigField.disjoint fun same => unnamed (same ▸ named)

theorem rewrites_setFlag (field : ConfigField) {flag : Bool} (named : field ∈ fields)
    (bit : 0 < field.lane.width) : Rewrites fields config (setFlag field.lane config flag) :=
  rewrites_setField named (flag_small field.lane bit flag)

theorem rewrites_setBounded (field : ConfigField) {value maximum : Nat} {message : String}
    (named : field ∈ fields) (width : maximum < 2 ^ field.lane.width)
    (computed : setBounded field.lane maximum message config value = .ok after) :
    Rewrites fields config after := by
  obtain ⟨bound, rfl⟩ := setBounded_ok config computed
  exact rewrites_setField named (Nat.lt_of_le_of_lt bound width)

end ReserveConfigurationMap

end PalmyProtocol
