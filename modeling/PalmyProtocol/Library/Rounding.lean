import Mathlib.Algebra.Order.Floor.Defs
import Mathlib.Tactic.Ring
import Mathlib.Tactic.Linarith
import Mathlib.Algebra.Order.Group.Abs
import Mathlib.Algebra.Order.Ring.Abs
import Mathlib.Algebra.Order.Ring.Int
import Mathlib.Algebra.Order.Round
import Mathlib.Data.Rat.Floor

set_option autoImplicit false

namespace Rounding

-- Integer division rounded to the nearest, ties up; the half of an odd divisor is floored.
def divHalfUp (n d : Nat) : Nat := (n + d / 2) / d

variable {n m d q : Nat}

theorem le_divHalfUp (positive : 0 < d) : q ≤ divHalfUp n d ↔ d * q ≤ n + d / 2 := by
  rw [divHalfUp, Nat.le_div_iff_mul_le positive, Nat.mul_comm]

theorem divHalfUp_lt (positive : 0 < d) : divHalfUp n d < q ↔ n + d / 2 < d * q := by
  rw [divHalfUp, Nat.div_lt_iff_lt_mul positive, Nat.mul_comm]

theorem divHalfUp_upper (positive : 0 < d) : 2 * (d * divHalfUp n d) ≤ 2 * n + d := by
  have bound := (le_divHalfUp positive).1 (le_refl (divHalfUp n d))
  omega

theorem divHalfUp_lower (positive : 0 < d) : 2 * n < 2 * (d * divHalfUp n d) + d := by
  have bound := (divHalfUp_lt positive).1 (Nat.lt_succ_self (divHalfUp n d))
  rw [Nat.succ_eq_add_one, Nat.mul_add, Nat.mul_one] at bound
  omega

theorem divHalfUp_eq_div (positive : 0 < d) (down : 2 * (n % d) < d) : divHalfUp n d = n / d := by
  have whole := Nat.div_add_mod n d
  apply Nat.le_antisymm
  · rw [← Nat.lt_succ_iff, divHalfUp_lt positive, Nat.succ_eq_add_one, Nat.mul_add]
    omega
  · rw [le_divHalfUp positive]
    omega

theorem mul_divHalfUp_le_iff (positive : 0 < d) : d * divHalfUp n d ≤ n ↔ 2 * (n % d) < d := by
  constructor
  · intro below
    have lower := divHalfUp_lower (n := n) positive
    have quotient : divHalfUp n d ≤ n / d := (Nat.le_div_iff_mul_le positive).2 (by
      rw [Nat.mul_comm]
      exact below)
    have product := Nat.mul_le_mul_left d quotient
    have whole := Nat.div_add_mod n d
    omega
  · intro down
    rw [divHalfUp_eq_div positive down]
    exact Nat.mul_div_le n d

-- It is Mathlib's rounding of the quotient, in any ordered field.
theorem round_div {K : Type*} [Field K] [LinearOrder K] [IsStrictOrderedRing K] [FloorRing K]
    (positive : 0 < d) : round ((n : K) / d) = divHalfUp n d := by
  have upper := divHalfUp_upper (n := n) positive
  have lower := divHalfUp_lower (n := n) positive
  generalize divHalfUp n d = q at *
  have whole : (0 : K) < d := by exact_mod_cast positive
  have upper : 2 * ((d : K) * q) ≤ 2 * n + d := by exact_mod_cast upper
  have lower : 2 * (n : K) < 2 * (d * q) + d := by exact_mod_cast lower
  rw [round_eq_iff, Set.mem_Ico, le_div_iff₀ whole, div_lt_iff₀ whole, Int.cast_natCast]
  constructor <;> linarith

theorem divHalfUp_le_add_half {K : Type*} [Field K] [LinearOrder K] [IsStrictOrderedRing K]
    (positive : 0 < d) : (divHalfUp n d : K) ≤ n / d + 1 / 2 := by
  have upper := divHalfUp_upper (n := n) positive
  generalize divHalfUp n d = q at *
  have whole : (0 : K) < d := by exact_mod_cast positive
  have upper : 2 * ((d : K) * q) ≤ 2 * n + d := by exact_mod_cast upper
  rw [← sub_le_iff_le_add, le_div_iff₀ whole]
  linarith

theorem div_le_divHalfUp_add_half {K : Type*} [Field K] [LinearOrder K] [IsStrictOrderedRing K]
    (positive : 0 < d) : (n : K) / d ≤ divHalfUp n d + 1 / 2 := by
  have lower := divHalfUp_lower (n := n) positive
  generalize divHalfUp n d = q at *
  have whole : (0 : K) < d := by exact_mod_cast positive
  have lower : 2 * (n : K) < 2 * (d * q) + d := by exact_mod_cast lower
  rw [div_le_iff₀ whole]
  linarith

theorem divHalfUp_mono (order : n ≤ m) (d : Nat) : divHalfUp n d ≤ divHalfUp m d :=
  Nat.div_le_div_right (Nat.add_le_add_right order _)

@[simp]
theorem divHalfUp_zero (d : Nat) : divHalfUp 0 d = 0 := by
  rcases Nat.eq_zero_or_pos d with rfl | positive
  · simp [divHalfUp]
  · have half : d / 2 < d := Nat.div_lt_self positive (by omega)
    rw [divHalfUp, Nat.zero_add, Nat.div_eq_of_lt half]

theorem divHalfUp_mul_left (positive : 0 < d) (k : Nat) : divHalfUp (d * k) d = k := by
  have half : d / 2 < d := Nat.div_lt_self positive (by omega)
  rw [divHalfUp, Nat.mul_add_div positive, Nat.div_eq_of_lt half, Nat.add_zero]

theorem divHalfUp_mul_right (positive : 0 < d) (k : Nat) : divHalfUp (k * d) d = k := by
  rw [Nat.mul_comm, divHalfUp_mul_left positive]

-- Rounding half up is monotone in the fraction, not only in its numerator.
theorem divHalfUp_fraction_mono {n' d' : Nat} (positive : 0 < d) (positive' : 0 < d')
    (order : n * d' ≤ n' * d) : divHalfUp n d ≤ divHalfUp n' d' := by
  have upper := divHalfUp_upper (n := n) positive
  generalize divHalfUp n d = q at upper ⊢
  rw [le_divHalfUp positive']
  have product : (2 * (d * q)) * d' ≤ (2 * n + d) * d' := Nat.mul_le_mul_right d' upper
  have doubled : 2 * (d' * q) ≤ 2 * n' + d' := by
    apply Nat.le_of_mul_le_mul_left (c := d) _ positive
    nlinarith
  omega

theorem divHalfUp_scale {k : Nat} (positive : 0 < d) (factor : 0 < k) :
    divHalfUp (n * k) (d * k) = divHalfUp n d := by
  have scaled : 0 < d * k := Nat.mul_pos positive factor
  have crossed : n * k * d = n * (d * k) := by ring
  apply Nat.le_antisymm
  · exact divHalfUp_fraction_mono scaled positive (Nat.le_of_eq crossed)
  · exact divHalfUp_fraction_mono positive scaled (Nat.le_of_eq crossed.symm)

theorem divHalfUp_added {unit index : Nat} (positive : 0 < unit) (priced : 0 < index)
    (held amount : Nat) :
    divHalfUp ((held + divHalfUp (amount * unit) index) * index) unit ≤
      divHalfUp (held * index) unit + amount + (index / (2 * unit) + 1) := by
  have share := divHalfUp_upper (n := amount * unit) priced
  generalize divHalfUp (amount * unit) index = shares at *
  have lower := divHalfUp_lower (n := held * index) positive
  have upper := divHalfUp_upper (n := (held + shares) * index) positive
  generalize divHalfUp (held * index) unit = before at *
  generalize divHalfUp ((held + shares) * index) unit = after at *
  have spread : index < 2 * unit * (index / (2 * unit) + 1) :=
    Nat.lt_mul_div_succ index (by omega)
  generalize index / (2 * unit) = slack at *
  by_contra above
  obtain ⟨more, rfl⟩ := Nat.exists_eq_add_of_lt (Nat.lt_of_not_le above)
  nlinarith

theorem worth_le {price unit sum left right slack : Nat} (order : sum ≤ left + right + slack) :
    price * sum / unit ≤ price * left / unit + price * right / unit +
      (price * slack / unit + 2) := by
  rcases Nat.eq_zero_or_pos unit with rfl | positive
  · simp
  have product : price * sum ≤ price * left + price * right + price * slack := by
    rw [← Nat.mul_add, ← Nat.mul_add]
    exact Nat.mul_le_mul_left price order
  rw [← Nat.lt_succ_iff, Nat.div_lt_iff_lt_mul positive]
  have first := Nat.lt_mul_div_succ (price * left) positive
  have second := Nat.lt_mul_div_succ (price * right) positive
  have third := Nat.lt_mul_div_succ (price * slack) positive
  generalize price * left / unit = a at *
  generalize price * right / unit = b at *
  generalize price * slack / unit = c at *
  nlinarith

-- Both ways, for a balance that gains a share: half the price of one, and a whole asset.
theorem divHalfUp_share {unit index : Nat} (positive : 0 < unit) (priced : 0 < index)
    (held amount : Nat) :
    2 * (unit : Int) * |(divHalfUp ((held + divHalfUp (amount * unit) index) * index) unit : Int) -
      divHalfUp (held * index) unit - amount| ≤ index + 2 * unit := by
  have shareUpper := divHalfUp_upper (n := amount * unit) priced
  have shareLower := divHalfUp_lower (n := amount * unit) priced
  generalize divHalfUp (amount * unit) index = shares at *
  have upper := divHalfUp_upper (n := held * index) positive
  have lower := divHalfUp_lower (n := held * index) positive
  have upper' := divHalfUp_upper (n := (held + shares) * index) positive
  have lower' := divHalfUp_lower (n := (held + shares) * index) positive
  generalize divHalfUp (held * index) unit = before at *
  generalize divHalfUp ((held + shares) * index) unit = after at *
  zify at *
  rcases abs_cases ((after : Int) - before - amount) with ⟨size, _⟩ | ⟨size, _⟩
  · rw [size]
    linarith
  · rw [size]
    linarith

theorem divHalfUp_error (positive : 0 < d) :
    |2 * ((d : Int) * (divHalfUp n d : Int) - n)| ≤ d := by
  have upper := divHalfUp_upper (n := n) positive
  have lower := divHalfUp_lower (n := n) positive
  zify at upper lower
  exact abs_le.2 ⟨by linarith, by linarith⟩

theorem abs_mul_le {k : Nat} {x b : Int} (bound : |x| ≤ b) : |(k : Int) * x| ≤ k * b := by
  rw [abs_mul, Nat.abs_cast]
  exact mul_le_mul_of_nonneg_left bound (Nat.cast_nonneg k)

theorem divHalfUp_distributed {unit shares index total gain : Nat} (positive : 0 < unit)
    (backed : 0 < total) (priced : total = divHalfUp (shares * index) unit) :
    2 * (total : Int) * unit * |(divHalfUp (shares *
        divHalfUp ((divHalfUp (gain * unit) total + unit) * index) unit) unit : Int) -
          (total + gain)| ≤
      2 * total * unit + gain * unit + total * (total + shares + 1) := by
  have before := divHalfUp_error (n := shares * index) positive
  rw [← priced] at before
  have ratio := divHalfUp_error (n := gain * unit) backed
  generalize divHalfUp (gain * unit) total = share at *
  have grown := divHalfUp_error (n := (share + unit) * index) positive
  generalize divHalfUp ((share + unit) * index) unit = index' at *
  have after := divHalfUp_error (n := shares * index') positive
  generalize divHalfUp (shares * index') unit = total' at *
  push_cast at *
  -- the four errors, each with what it is multiplied by on its way to the total
  have scaled : (unit : Int) * (2 * total * unit * (total' - (total + gain))) =
      total * unit * (2 * (unit * total' - shares * index')) +
      total * shares * (2 * (unit * index' - (share + unit) * index)) +
      shares * index * (2 * (total * share - gain * unit)) -
      unit * (total + gain) * (2 * (unit * total - shares * index)) := by ring
  have first := abs_mul_le (k := (total * unit : Nat)) after
  have second := abs_mul_le (k := (total * shares : Nat)) grown
  have third := abs_mul_le (k := (shares * index : Nat)) ratio
  have fourth := abs_mul_le (k := (unit * (total + gain) : Nat)) before
  push_cast at first second third fourth
  have worth : (2 * (shares * index) : Int) * total ≤ (2 * (unit * total) + unit) * total :=
    mul_le_mul_of_nonneg_right (by linarith [(abs_le.1 before).1]) (by positivity)
  rw [abs_le] at first second third fourth
  have size : 2 * (total : Int) * unit * |(total' : Int) - (total + gain)| =
      |2 * (total : Int) * unit * (total' - (total + gain))| := by
    rw [abs_mul, abs_of_nonneg (by positivity : (0 : Int) ≤ 2 * total * unit)]
  rw [size, abs_le]
  have whole : (0 : Int) < unit := by exact_mod_cast positive
  have slack : (0 : Int) ≤ unit * total := by positivity
  constructor
  · apply le_of_mul_le_mul_left _ whole
    rw [scaled]
    linarith [first.1, second.1, third.1, fourth.2]
  · apply le_of_mul_le_mul_left _ whole
    rw [scaled]
    linarith [first.2, second.2, third.2, fourth.1]

theorem divHalfUp_le_self (order : m ≤ d) : divHalfUp (n * m) d ≤ n := by
  rcases Nat.eq_zero_or_pos d with rfl | positive
  · simp [divHalfUp]
  · calc divHalfUp (n * m) d ≤ divHalfUp (n * d) d := divHalfUp_mono (Nat.mul_le_mul_left n order) d
      _ = n := divHalfUp_mul_right positive n

theorem divHalfUp_mean {unit scale left right : Nat} (positive : 0 < unit)
    (weight : 0 < (left + right) * scale) (first second : Nat) :
    |2 * ((((left + right) * scale : Nat) : Int) *
        divHalfUp ((divHalfUp (left * scale * first) unit + divHalfUp (right * scale * second) unit) *
          unit) ((left + right) * scale) -
      scale * (left * first + right * second))| ≤ 2 * unit + ((left + right) * scale : Nat) := by
  have one := divHalfUp_error (n := left * scale * first) positive
  have other := divHalfUp_error (n := right * scale * second) positive
  generalize divHalfUp (left * scale * first) unit = a at *
  generalize divHalfUp (right * scale * second) unit = b at *
  have mean := divHalfUp_error (n := (a + b) * unit) weight
  generalize divHalfUp ((a + b) * unit) ((left + right) * scale) = c at *
  push_cast at *
  rw [abs_le] at *
  constructor
  · linarith [one.1, other.1, mean.1]
  · linarith [one.2, other.2, mean.2]

theorem divHalfUp_mean_le {unit scale left right first second : Nat} (positive : 0 < unit)
    (weight : 0 < (left + right) * scale) :
    divHalfUp ((divHalfUp (left * scale * first) unit + divHalfUp (right * scale * second) unit) *
        unit) ((left + right) * scale) ≤
      max first second + unit / ((left + right) * scale) + 1 := by
  have mean := (abs_le.1 (divHalfUp_mean positive weight first second)).2
  have one := Nat.mul_le_mul_left left (le_max_left first second)
  have other := Nat.mul_le_mul_left right (le_max_right first second)
  have floor := Nat.lt_mul_div_succ unit weight
  generalize divHalfUp ((divHalfUp (left * scale * first) unit +
    divHalfUp (right * scale * second) unit) * unit) ((left + right) * scale) = c at *
  generalize max first second = most at *
  generalize unit / ((left + right) * scale) = slack at *
  have terms := Nat.mul_le_mul_left scale (Nat.add_le_add one other)
  by_contra above
  obtain ⟨more, rfl⟩ := Nat.exists_eq_add_of_lt (Nat.lt_of_not_le above)
  have surplus := Nat.zero_le ((left + right) * scale * more)
  zify at *
  nlinarith

end Rounding
