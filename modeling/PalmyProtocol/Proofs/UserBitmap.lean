import PalmyProtocol.Configuration.UserConfiguration
import PalmyProtocol.Library.Runs

set_option autoImplicit false

namespace PalmyProtocol

open Checked

namespace UserConfigurationMap

inductive Kind where
  | borrowing
  | usingAsCollateral
  deriving DecidableEq

structure Write where
  kind : Kind
  reserveIndex : Nat
  value : Bool

def lastWritten (writes : List Write) (kind : Kind) (reserveIndex : Nat) : Bool :=
  ((writes.reverse.find? fun written =>
    written.kind = kind ∧ written.reserveIndex = reserveIndex).map Write.value).getD false

def write (self : UserConfigurationMap) (written : Write) : Result UserConfigurationMap :=
  match written.kind with
  | .borrowing => self.setBorrowing written.reserveIndex written.value
  | .usingAsCollateral => self.setUsingAsCollateral written.reserveIndex written.value

def Kind.bit : Kind → Nat → Nat
  | borrowing, reserveIndex => reserveIndex * 2
  | usingAsCollateral, reserveIndex => reserveIndex * 2 + 1

def flag (self : UserConfigurationMap) : Kind → Nat → Bool
  | .borrowing => self.borrows
  | .usingAsCollateral => self.collateralises

variable {self after : UserConfigurationMap} {written other : Write} {writes : List Write}

theorem lastWritten_append (writes : List Write) (written : Write) (kind : Kind)
    (reserveIndex : Nat) :
    lastWritten (writes ++ [written]) kind reserveIndex =
      if written.kind = kind ∧ written.reserveIndex = reserveIndex then written.value
      else lastWritten writes kind reserveIndex := by
  rw [lastWritten, List.reverse_append, List.reverse_singleton, List.singleton_append,
    List.find?_cons]
  by_cases same : written.kind = kind ∧ written.reserveIndex = reserveIndex
  · simp [same]
  · simp [same, lastWritten]

theorem write_setBit (self : UserConfigurationMap) (written : Write) :
    self.write written = self.setBit written.reserveIndex
      (written.kind.bit written.reserveIndex) written.value := by
  obtain ⟨kind, reserveIndex, value⟩ := written
  cases kind <;> rfl

theorem flag_bit (self : UserConfigurationMap) (kind : Kind) (reserveIndex : Nat) :
    self.flag kind reserveIndex = self.data.getLsbD (kind.bit reserveIndex) := by
  cases kind <;> rfl

theorem bit_lt {kind : Kind} {reserveIndex : Nat} (inRange : reserveIndex < 128) :
    kind.bit reserveIndex < 256 := by
  cases kind <;> simp only [Kind.bit] <;> omega

theorem bit_injective {kind kind' : Kind} {reserveIndex reserveIndex' : Nat} :
    kind.bit reserveIndex = kind'.bit reserveIndex' ↔
      kind = kind' ∧ reserveIndex = reserveIndex' := by
  cases kind <;> cases kind' <;> simp [Kind.bit] <;> omega

theorem write_in_range (self : UserConfigurationMap) (inRange : written.reserveIndex < 128) :
    ∃ after, self.write written = .ok after := by
  rw [write_setBit]
  simp only [setBit, bind_eq_ok, require_eq_ok, exists_const, pure_eq_ok]
  exact ⟨_, inRange, rfl⟩

theorem write_out_of_range (self : UserConfigurationMap) (outOfRange : ¬written.reserveIndex < 128) :
    self.write written = .error Errors.UL_INVALID_INDEX := by
  rw [write_setBit]
  simp [setBit, require, outOfRange]

theorem write_ok (computed : self.write written = .ok after) :
    written.reserveIndex < 128 ∧ ∀ i, after.data.getLsbD i =
      if i = written.kind.bit written.reserveIndex then written.value else self.data.getLsbD i := by
  have inRange : written.reserveIndex < 128 := by
    by_contra outOfRange
    rw [write_out_of_range self outOfRange] at computed
    cases computed
  rw [write_setBit] at computed
  exact setBit_ok (bit_lt inRange) computed

theorem flag_write (computed : self.write written = .ok after) (kind : Kind) (reserveIndex : Nat) :
    after.flag kind reserveIndex =
      if written.kind = kind ∧ written.reserveIndex = reserveIndex then written.value
      else self.flag kind reserveIndex := by
  rw [flag_bit, flag_bit, (write_ok computed).2]
  simp only [bit_injective, eq_comm]

theorem write_comm (self : UserConfigurationMap)
    (apart : ¬(written.kind = other.kind ∧ written.reserveIndex = other.reserveIndex)) :
    (self.write written >>= fun config => config.write other) =
      (self.write other >>= fun config => config.write written) := by
  by_cases inRange : written.reserveIndex < 128
  · by_cases inRange' : other.reserveIndex < 128
    · obtain ⟨first, one⟩ := write_in_range self inRange
      obtain ⟨second, two⟩ := write_in_range self inRange'
      obtain ⟨left, lefts⟩ := write_in_range first inRange'
      obtain ⟨right, rights⟩ := write_in_range second inRange
      rw [one, two, ok_bind, ok_bind, lefts, rights]
      congr 1
      have same : left.data = right.data := by
        apply BitVec.eq_of_getLsbD_eq
        intro i _
        rw [(write_ok lefts).2, (write_ok rights).2, (write_ok one).2, (write_ok two).2]
        have bits : ¬written.kind.bit written.reserveIndex = other.kind.bit other.reserveIndex :=
          fun equal => apart (bit_injective.1 equal)
        split_ifs with here there
        · exact absurd (there.symm.trans here) bits
        · rfl
        · rfl
        · rfl
      cases left
      cases right
      exact congrArg _ same
    · obtain ⟨first, one⟩ := write_in_range self inRange
      rw [one, write_out_of_range self inRange', ok_bind, write_out_of_range first inRange']
      rfl
  · rw [write_out_of_range self inRange]
    by_cases inRange' : other.reserveIndex < 128
    · obtain ⟨second, two⟩ := write_in_range self inRange'
      rw [two, ok_bind, write_out_of_range second inRange]
      rfl
    · rw [write_out_of_range self inRange']
      rfl

theorem written_flags (inRange : ∀ written ∈ writes, written.reserveIndex < 128) :
    ∃ config, Runs.run write empty writes = .ok config ∧
      ∀ kind reserveIndex, config.flag kind reserveIndex = lastWritten writes kind reserveIndex := by
  induction writes using List.reverseRecOn with
  | nil =>
      refine ⟨empty, rfl, fun kind reserveIndex => ?_⟩
      rw [flag_bit]
      simp [empty, lastWritten]
  | append_singleton writes written ih =>
      obtain ⟨config, ran, flags⟩ := ih fun w member => inRange w (List.mem_append_left _ member)
      obtain ⟨after, computed⟩ := write_in_range config (inRange written (by simp))
      refine ⟨after, ?_, fun kind reserveIndex => ?_⟩
      · rw [Runs.run_append, ran]
        exact Runs.run_cons_ok.2 ⟨after, computed, rfl⟩
      · rw [flag_write computed, lastWritten_append, flags]

structure RefusesFrom128 (self : UserConfigurationMap) (reserveIndex : Nat) : Prop where
  isBorrowing : (∃ message, self.isBorrowing reserveIndex = .error message) ↔ 128 ≤ reserveIndex
  isUsingAsCollateral :
    (∃ message, self.isUsingAsCollateral reserveIndex = .error message) ↔ 128 ≤ reserveIndex
  isUsingAsCollateralOrBorrowing :
    (∃ message, self.isUsingAsCollateralOrBorrowing reserveIndex = .error message) ↔
      128 ≤ reserveIndex
  setBorrowing : ∀ value,
    (∃ message, self.setBorrowing reserveIndex value = .error message) ↔ 128 ≤ reserveIndex
  setUsingAsCollateral : ∀ value,
    (∃ message, self.setUsingAsCollateral reserveIndex value = .error message) ↔ 128 ≤ reserveIndex

theorem refused_iff {α : Type} (reserveIndex : Nat) (result : α) :
    (∃ message, (require (reserveIndex < 128) Errors.UL_INVALID_INDEX >>= fun _ =>
      (pure result : Result α)) = .error message) ↔ 128 ≤ reserveIndex := by
  by_cases inRange : reserveIndex < 128
  · simp [require, inRange]
  · simp [require, inRange, Nat.le_of_not_lt inRange]

theorem refuses_from_128 (self : UserConfigurationMap) (reserveIndex : Nat) :
    self.RefusesFrom128 reserveIndex :=
  ⟨refused_iff _ _, refused_iff _ _, refused_iff _ _, fun _ => refused_iff _ _,
    fun _ => refused_iff _ _⟩

/-- The word is a finite map from reserves and flags to the last values written: its accessors read
that map, writes to different entries commute, and every accessor refuses what is no key. -/
theorem bitmap_finite_map (inRange : ∀ written ∈ writes, written.reserveIndex < 128) :
    (∃ config, Runs.run write empty writes = .ok config ∧
      (∀ i < 128,
        config.isBorrowing i = .ok (lastWritten writes .borrowing i) ∧
        config.isUsingAsCollateral i = .ok (lastWritten writes .usingAsCollateral i) ∧
        config.isUsingAsCollateralOrBorrowing i =
          .ok (lastWritten writes .borrowing i || lastWritten writes .usingAsCollateral i)) ∧
      (config.isBorrowingAny = true ↔ ∃ i < 128, lastWritten writes .borrowing i = true) ∧
      (config.isEmpty = true ↔ ∀ kind, ∀ i < 128, lastWritten writes kind i = false)) ∧
    ∀ self : UserConfigurationMap,
      (∀ written other : Write,
        (written.kind, written.reserveIndex) ≠ (other.kind, other.reserveIndex) →
          (self.write written >>= fun config => config.write other) =
            (self.write other >>= fun config => config.write written)) ∧
      ∀ i, self.RefusesFrom128 i := by
  refine ⟨?_, fun self => ⟨fun written other apart => ?_, self.refuses_from_128⟩⟩
  · obtain ⟨config, ran, flags⟩ := written_flags inRange
    have borrows : ∀ i, config.borrows i = lastWritten writes .borrowing i := flags .borrowing
    have collateralises : ∀ i, config.collateralises i = lastWritten writes .usingAsCollateral i :=
      flags .usingAsCollateral
    refine ⟨config, ran, fun i index => ⟨?_, ?_, ?_⟩, ?_, ?_⟩
    · exact isBorrowing_eq_ok.2 ⟨index, borrows i⟩
    · exact isUsingAsCollateral_eq_ok.2 ⟨index, collateralises i⟩
    · rw [isUsingAsCollateralOrBorrowing_eq_ok, borrows, collateralises]
      exact ⟨index, rfl⟩
    · simp only [isBorrowingAny_iff, borrows]
    · simp only [isEmpty_iff, borrows, collateralises]
      constructor
      · rintro clear (_ | _) i index
        · exact (clear i index).1
        · exact (clear i index).2
      · exact fun clear i index => ⟨clear .borrowing i index, clear .usingAsCollateral i index⟩
  · apply write_comm
    rintro ⟨kind, reserveIndex⟩
    exact apart (Prod.ext kind reserveIndex)

def topLane : List Write :=
  [⟨.borrowing, 127, true⟩, ⟨.usingAsCollateral, 127, true⟩, ⟨.borrowing, 127, false⟩]

theorem bitmap_finite_map_topLane : ∃ config, Runs.run write empty topLane = .ok config ∧
    config.isBorrowing 127 = .ok false ∧ config.isUsingAsCollateral 127 = .ok true := by
  have inRange : ∀ written ∈ topLane, written.reserveIndex < 128 := by decide
  obtain ⟨config, ran, reads, _⟩ := (bitmap_finite_map inRange).1
  obtain ⟨borrowing, collateral, _⟩ := reads 127 (by decide)
  exact ⟨config, ran, borrowing, collateral⟩

end UserConfigurationMap

end PalmyProtocol
