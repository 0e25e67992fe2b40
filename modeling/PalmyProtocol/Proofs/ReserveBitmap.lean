import PalmyProtocol.Configuration.ReserveConfiguration

set_option autoImplicit false

namespace PalmyProtocol

open Checked

namespace ReserveConfiguration

namespace ConfigField

abbrev Value : ConfigField → Type
  | active | frozen | borrowing | stableBorrowing => Bool
  | ltv | liquidationThreshold | liquidationBonus | decimals | reserveFactor => Nat

def set : (field : ConfigField) → ReserveConfigurationMap → field.Value →
    Result ReserveConfigurationMap
  | ltv, self, value => self.setLtv value
  | liquidationThreshold, self, value => self.setLiquidationThreshold value
  | liquidationBonus, self, value => self.setLiquidationBonus value
  | decimals, self, value => self.setDecimals value
  | active, self, value => .ok (self.setActive value)
  | frozen, self, value => .ok (self.setFrozen value)
  | borrowing, self, value => .ok (self.setBorrowingEnabled value)
  | stableBorrowing, self, value => .ok (self.setStableRateBorrowingEnabled value)
  | reserveFactor, self, value => self.setReserveFactor value

def get : (field : ConfigField) → ReserveConfigurationMap → field.Value
  | ltv, self => self.getLtv
  | liquidationThreshold, self => self.getLiquidationThreshold
  | liquidationBonus, self => self.getLiquidationBonus
  | decimals, self => self.getDecimals
  | active, self => self.getActive
  | frozen, self => self.getFrozen
  | borrowing, self => self.getBorrowingEnabled
  | stableBorrowing, self => self.getStableRateBorrowingEnabled
  | reserveFactor, self => self.getReserveFactor

def toNat : (field : ConfigField) → field.Value → Nat
  | active, value | frozen, value | borrowing, value | stableBorrowing, value =>
    if value then 1 else 0
  | ltv, value | liquidationThreshold, value | liquidationBonus, value | decimals, value
  | reserveFactor, value => value

def maximum : ConfigField → Nat
  | active | frozen | borrowing | stableBorrowing => 1
  | ltv => MAX_VALID_LTV
  | liquidationThreshold => MAX_VALID_LIQUIDATION_THRESHOLD
  | liquidationBonus => MAX_VALID_LIQUIDATION_BONUS
  | decimals => MAX_VALID_DECIMALS
  | reserveFactor => MAX_VALID_RESERVE_FACTOR

def InRange (field : ConfigField) (value : field.Value) : Prop := field.toNat value ≤ field.maximum

instance (field : ConfigField) (value : field.Value) : Decidable (field.InRange value) :=
  inferInstanceAs (Decidable (_ ≤ _))

variable {field other : ConfigField} {value : field.Value} {value' : other.Value}
variable {self : ReserveConfigurationMap}

theorem toNat_lt (inRange : field.InRange value) : field.toNat value < 2 ^ field.lane.width := by
  have widths : ∀ field : ConfigField, field.maximum < 2 ^ field.lane.width := by
    intro field
    cases field <;> decide
  exact Nat.lt_of_le_of_lt inRange (widths field)

theorem toNat_injective {first second : field.Value}
    (same : field.toNat first = field.toNat second) : first = second := by
  cases field with
  | active | frozen | borrowing | stableBorrowing =>
      cases first <;> cases second <;> simp [toNat] at same ⊢
  | ltv | liquidationThreshold | liquidationBonus | decimals | reserveFactor => exact same

theorem toNat_getFlag (lane : Lane) (bit : lane.width = 1) (self : ReserveConfigurationMap) :
    (if getFlag lane self then 1 else 0) = getField lane self := by
  have small := getField_lt self lane
  rw [bit] at small
  rw [getFlag_getField]
  by_cases zero : getField lane self = 0
  · simp [zero]
  · have one : getField lane self = 1 := by omega
    simp [one]

theorem toNat_get (field : ConfigField) (self : ReserveConfigurationMap) :
    field.toNat (field.get self) = getField field.lane self := by
  cases field with
  | active => exact toNat_getFlag activeLane rfl self
  | frozen => exact toNat_getFlag frozenLane rfl self
  | borrowing => exact toNat_getFlag borrowingLane rfl self
  | stableBorrowing => exact toNat_getFlag stableBorrowingLane rfl self
  | ltv | liquidationThreshold | liquidationBonus | decimals | reserveFactor => rfl

theorem set_bounded (field : ConfigField) (self : ReserveConfigurationMap) (value : field.Value) :
    ∃ message, field.set self value =
      setBounded field.lane field.maximum message self (field.toNat value) := by
  cases field with
  | ltv | liquidationThreshold | liquidationBonus | decimals | reserveFactor => exact ⟨_, rfl⟩
  | active | frozen | borrowing | stableBorrowing =>
      refine ⟨"", (setBounded_in_range self ?_).symm⟩
      cases value <;> decide

theorem set_in_range (self : ReserveConfigurationMap) (inRange : field.InRange value) :
    field.set self value = .ok (setField field.lane self (field.toNat value)) := by
  obtain ⟨message, bounded⟩ := set_bounded field self value
  rw [bounded, setBounded_in_range self inRange]

theorem set_out_of_range (self : ReserveConfigurationMap) (outOfRange : ¬field.InRange value) :
    ∃ message, field.set self value = .error message := by
  obtain ⟨message, bounded⟩ := set_bounded field self value
  exact ⟨message, bounded.trans (setBounded_out_of_range self outOfRange)⟩

theorem get_set_same (inRange : field.InRange value) :
    field.get (setField field.lane self (field.toNat value)) = value := by
  apply toNat_injective
  rw [toNat_get, getField_setField self (toNat_lt inRange)]

theorem get_set_other (inRange : field.InRange value) (different : other ≠ field) :
    other.get (setField field.lane self (field.toNat value)) = other.get self := by
  apply toNat_injective
  rw [toNat_get, toNat_get,
    getField_setField_other self (toNat_lt inRange) (disjoint different)]

def Reserved (i : Nat) : Prop := (60 ≤ i ∧ i ≤ 63) ∨ 80 ≤ i

theorem reserved_outside (field : ConfigField) {i : Nat} (reserved : Reserved i) :
    ¬(i < 256 ∧ field.lane.start ≤ i ∧ i < field.lane.start + field.lane.width) := by
  have ends : ∀ field : ConfigField,
      (field.lane.start + field.lane.width ≤ 60 ∨ 64 ≤ field.lane.start) ∧
        field.lane.start + field.lane.width ≤ 80 := by
    intro field
    cases field <;> decide
  have bounds := ends field
  rcases reserved with ⟨_, _⟩ | _ <;> omega

theorem reserved_kept (self : ReserveConfigurationMap) (inRange : field.InRange value) {i : Nat}
    (reserved : Reserved i) :
    (setField field.lane self (field.toNat value)).data.getLsbD i = self.data.getLsbD i := by
  have small := toNat_lt inRange
  have exact := word_of_small small
  rw [setField_write, BitField.getLsbD_write _ _ (by rwa [exact]),
    if_neg (reserved_outside field reserved)]

theorem set_comm (self : ReserveConfigurationMap) (different : field ≠ other)
    (inRange : field.InRange value) (inRange' : other.InRange value') :
    (field.set self value >>= fun config => other.set config value') =
      (other.set self value' >>= fun config => field.set config value) := by
  rw [set_in_range self inRange, set_in_range self inRange', ok_bind, ok_bind,
    set_in_range _ inRange, set_in_range _ inRange']
  exact congrArg Except.ok (setField_comm self (toNat_lt inRange) (toNat_lt inRange')
    (disjoint different.symm))

/-- The word is a record of nine fields: each setter is seen by its own getter and by no other,
leaves the reserved bits alone and refuses what its field cannot hold, and the readers of several
fields at once agree with the getters. -/
theorem configuration_record (self : ReserveConfigurationMap) :
    (∀ (field : ConfigField) (value : field.Value), field.InRange value →
      ∃ after, field.set self value = .ok after ∧ field.get after = value ∧
        (∀ other, other ≠ field → other.get after = other.get self) ∧
        ∀ i, Reserved i → after.data.getLsbD i = self.data.getLsbD i) ∧
    (∀ (field : ConfigField) (value : field.Value), ¬field.InRange value →
      ∃ message, field.set self value = .error message) ∧
    (∀ (field other : ConfigField) (value : field.Value) (value' : other.Value), field ≠ other →
      field.InRange value → other.InRange value' →
        (field.set self value >>= fun config => other.set config value') =
          (other.set self value' >>= fun config => field.set config value)) ∧
    self.getParams = (self.getLtv, self.getLiquidationThreshold, self.getLiquidationBonus,
      self.getDecimals, self.getReserveFactor) ∧
    self.getFlags = (self.getActive, self.getFrozen, self.getBorrowingEnabled,
      self.getStableRateBorrowingEnabled) ∧
    self.getParamsMemory = (self.getLtv, self.getLiquidationThreshold, self.getLiquidationBonus,
      self.getDecimals, self.getReserveFactor) ∧
    self.getFlagsMemory = (self.getActive, self.getFrozen, self.getBorrowingEnabled,
      self.getStableRateBorrowingEnabled) := by
  refine ⟨fun field value inRange => ?_, fun _ _ => set_out_of_range self,
    fun _ _ _ _ => set_comm self, rfl, rfl, rfl, rfl⟩
  exact ⟨_, set_in_range self inRange, get_set_same inRange,
    fun other different => get_set_other inRange different,
    fun i reserved => reserved_kept self inRange reserved⟩

-- The field next to the reserved bits, and a neighbour on the other side of them.
theorem configuration_record_neighbours : ∃ after : ReserveConfigurationMap,
    ConfigField.stableBorrowing.set ⟨0⟩ true = .ok after ∧ after.getStableRateBorrowingEnabled ∧
      after.getReserveFactor = 0 := by
  obtain ⟨after, written, own, others, _⟩ :=
    (configuration_record ⟨0⟩).1 .stableBorrowing true (by decide)
  exact ⟨after, written, own, (others .reserveFactor (by decide)).trans (by decide)⟩

end ConfigField

end ReserveConfiguration

end PalmyProtocol
