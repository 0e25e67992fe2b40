import Mathlib.Algebra.Group.Nat.Defs
import Mathlib.Tactic.Common

set_option autoImplicit false

namespace BitField

variable {w : Nat}

-- `width` ones starting at bit `start`.
def lanes (w start width : Nat) : BitVec w := BitVec.ofNat w (2 ^ width - 1) <<< start

def read (start width : Nat) (word : BitVec w) : BitVec w :=
  (word &&& lanes w start width) >>> start

def write (start width : Nat) (word value : BitVec w) : BitVec w :=
  (word &&& ~~~lanes w start width) ||| (value <<< start)

theorem getLsbD_lanes (start width i : Nat) :
    (lanes w start width).getLsbD i = decide (i < w ∧ start ≤ i ∧ i < start + width) := by
  simp only [lanes, BitVec.getLsbD_shiftLeft, BitVec.getLsbD_ofNat, Nat.testBit_two_pow_sub_one]
  by_cases inside : i < w
  · have below : i - start < w := by omega
    by_cases after : start ≤ i
    · have shifted : i - start < width ↔ i < start + width := by omega
      simp [inside, below, after, shifted]
    · have before : i < start := by omega
      simp [inside, after, before]
  · simp [inside]

theorem getLsbD_read (start width i : Nat) (word : BitVec w) :
    (read start width word).getLsbD i = (decide (i < width) && word.getLsbD (start + i)) := by
  simp only [read, BitVec.getLsbD_ushiftRight, BitVec.getLsbD_and, getLsbD_lanes]
  by_cases inside : start + i < w
  · by_cases within : i < width <;> simp [inside, within]
  · simp [BitVec.getLsbD_of_ge word _ (Nat.le_of_not_lt inside)]

theorem getLsbD_of_small {width i : Nat} {value : BitVec w} (small : value.toNat < 2 ^ width)
    (outside : width ≤ i) : value.getLsbD i = false := by
  rw [BitVec.getLsbD, Nat.testBit_lt_two_pow]
  exact Nat.lt_of_lt_of_le small (Nat.pow_le_pow_right (by decide) outside)

theorem getLsbD_write (start : Nat) {width : Nat} {value : BitVec w} (word : BitVec w)
    (small : value.toNat < 2 ^ width) (i : Nat) :
    (write start width word value).getLsbD i =
      if i < w ∧ start ≤ i ∧ i < start + width then value.getLsbD (i - start)
      else word.getLsbD i := by
  simp only [write, BitVec.getLsbD_or, BitVec.getLsbD_and, BitVec.getLsbD_not, getLsbD_lanes,
    BitVec.getLsbD_shiftLeft]
  by_cases inside : i < w
  · by_cases after : start ≤ i
    · by_cases within : i < start + width
      · simp [inside, after, within]
      · have gone := getLsbD_of_small (i := i - start) small (by omega)
        simp [inside, after, within, gone]
    · simp [inside, after]
  · simp [inside, BitVec.getLsbD_of_ge word i (Nat.le_of_not_lt inside)]

theorem read_write_same {start width : Nat} {value : BitVec w} (word : BitVec w)
    (fits : start + width ≤ w) (small : value.toNat < 2 ^ width) :
    read start width (write start width word value) = value := by
  apply BitVec.eq_of_getLsbD_eq
  intro i _
  rw [getLsbD_read, getLsbD_write start word small]
  by_cases within : i < width
  · have inside : start + i < w := by omega
    simp [within, inside]
  · simp [within, getLsbD_of_small small (Nat.le_of_not_lt within)]

theorem read_write_other {start width start' width' : Nat} {value : BitVec w} (word : BitVec w)
    (small : value.toNat < 2 ^ width)
    (disjoint : start + width ≤ start' ∨ start' + width' ≤ start) :
    read start' width' (write start width word value) = read start' width' word := by
  apply BitVec.eq_of_getLsbD_eq
  intro i _
  rw [getLsbD_read, getLsbD_read, getLsbD_write start word small]
  by_cases within : i < width'
  · have outside : ¬(start' + i < w ∧ start ≤ start' + i ∧ start' + i < start + width) := by omega
    simp [within, outside]
  · simp [within]

theorem read_ne_zero (start width : Nat) (word : BitVec w) :
    read start width word ≠ 0 ↔ ∃ i < width, word.getLsbD (start + i) = true := by
  constructor
  · intro nonzero
    by_contra clear
    push Not at clear
    apply nonzero
    apply BitVec.eq_of_getLsbD_eq
    intro i _
    rw [getLsbD_read]
    by_cases within : i < width
    · simp [clear i within]
    · simp [within]
  · rintro ⟨i, within, set⟩ zero
    have bit := getLsbD_read start width i word
    rw [zero] at bit
    simp [within, set] at bit

theorem read_lt (start width : Nat) (word : BitVec w) :
    (read start width word).toNat < 2 ^ width := by
  apply Nat.lt_pow_two_of_testBit
  intro i outside
  have bit := getLsbD_read start width i word
  rw [BitVec.getLsbD] at bit
  simp [bit, Nat.not_lt.2 outside]

theorem write_comm {start width start' width' : Nat} {value value' : BitVec w} (word : BitVec w)
    (small : value.toNat < 2 ^ width) (small' : value'.toNat < 2 ^ width')
    (disjoint : start + width ≤ start' ∨ start' + width' ≤ start) :
    write start' width' (write start width word value) value' =
      write start width (write start' width' word value') value := by
  apply BitVec.eq_of_getLsbD_eq
  intro i inside
  rw [getLsbD_write start' _ small', getLsbD_write start _ small, getLsbD_write start _ small,
    getLsbD_write start' _ small']
  split_ifs with there here
  · omega
  · rfl
  · rfl
  · rfl

theorem shift_and_lanes (start width : Nat) (word : BitVec w) :
    (word >>> start) &&& lanes w 0 width = read start width word := by
  apply BitVec.eq_of_getLsbD_eq
  intro i inside
  simp only [BitVec.getLsbD_and, BitVec.getLsbD_ushiftRight, getLsbD_read, getLsbD_lanes]
  simp [inside, Bool.and_comm]

end BitField
