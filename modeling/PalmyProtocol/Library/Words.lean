import Mathlib.Algebra.Ring.Nat
import Mathlib.Data.List.Basic
import Mathlib.Tactic.Common

set_option autoImplicit false

-- Numbers as big-endian bytes, and texts of such words.
namespace Words

def bigEndian : Nat → Nat → List UInt8
  | 0, _ => []
  | size + 1, n => bigEndian size (n / 256) ++ [UInt8.ofNat n]

@[simp]
theorem length_bigEndian (size n : Nat) : (bigEndian size n).length = size := by
  induction size generalizing n with
  | zero => rfl
  | succ size ih => simp [bigEndian, ih]

theorem bigEndian_injective {size m n : Nat} (small : m < 256 ^ size) (small' : n < 256 ^ size)
    (same : bigEndian size m = bigEndian size n) : m = n := by
  induction size generalizing m n with
  | zero => omega
  | succ size ih =>
      obtain ⟨front, last⟩ := List.append_inj' same rfl
      have digit : m % 256 = n % 256 := by
        have bytes := congrArg UInt8.toNat (List.singleton_inj.1 last)
        simpa using bytes
      have rest : m / 256 = n / 256 := by
        rw [Nat.pow_succ] at small small'
        exact ih (Nat.div_lt_of_lt_mul (by omega)) (Nat.div_lt_of_lt_mul (by omega)) front
      omega

def encode (words : List Nat) : List UInt8 := words.flatMap (bigEndian 32)

theorem encode_injective {words words' : List Nat} (length : words.length = words'.length)
    (small : ∀ n ∈ words, n < 2 ^ 256) (small' : ∀ n ∈ words', n < 2 ^ 256)
    (same : encode words = encode words') : words = words' := by
  induction words generalizing words' with
  | nil => exact (List.length_eq_zero_iff.1 length.symm).symm
  | cons n rest ih =>
      cases words' with
      | nil => cases length
      | cons n' rest' =>
          simp only [encode, List.flatMap_cons] at same
          obtain ⟨head, tail⟩ := List.append_inj same (by simp)
          have first : n = n' := bigEndian_injective (small n (by simp)) (small' n' (by simp)) head
          rw [first, ih (by simpa using length) (fun m member => small m (by simp [member]))
            (fun m member => small' m (by simp [member])) tail]

end Words
