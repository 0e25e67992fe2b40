import PalmyProtocol.Proofs.StableExactness
import Mathlib.Tactic.FieldSimp
import Mathlib.Tactic.Positivity

set_option autoImplicit false

namespace PalmyProtocol

open Checked Rounding

def weightedMean (rate amount rate' amount' : Nat) : ℚ :=
  (rate * amount + rate' * amount') / (amount + amount')

def meanSlack (amount amount' : Nat) : ℚ := 10 ^ 18 / (amount + amount') + 1

variable {rate amount rate' amount' c : Nat}

theorem weightedMean_bounds (rate rate' : Nat) (some : 0 < amount + amount') :
    ((min rate rate' : Nat) : ℚ) ≤ weightedMean rate amount rate' amount' ∧
      weightedMean rate amount rate' amount' ≤ ((max rate rate' : Nat) : ℚ) := by
  have whole : (0 : ℚ) < amount + amount' := by exact_mod_cast some
  have weight : (0 : ℚ) ≤ amount := Nat.cast_nonneg amount
  have weight' : (0 : ℚ) ≤ amount' := Nat.cast_nonneg amount'
  rw [weightedMean, le_div_iff₀ whole, div_le_iff₀ whole, Nat.cast_min, Nat.cast_max]
  constructor
  · have one := mul_le_mul_of_nonneg_right (min_le_left (rate : ℚ) rate') weight
    have other := mul_le_mul_of_nonneg_right (min_le_right (rate : ℚ) rate') weight'
    linarith
  · have one := mul_le_mul_of_nonneg_right (le_max_left (rate : ℚ) rate') weight
    have other := mul_le_mul_of_nonneg_right (le_max_right (rate : ℚ) rate') weight'
    linarith

structure Mixes (mixed rate amount rate' amount' : Nat) : Prop where
  some : 0 < amount + amount'
  near : |(mixed : ℚ) - weightedMean rate amount rate' amount'| ≤ meanSlack amount amount'
  least : ((min rate rate' : Nat) : ℚ) - meanSlack amount amount' ≤ mixed
  most : (mixed : ℚ) ≤ ((max rate rate' : Nat) : ℚ) + meanSlack amount amount'

theorem mixes_of_near (some : 0 < amount + amount')
    (near : |(c : ℚ) - weightedMean rate amount rate' amount'| ≤ meanSlack amount amount') :
    Mixes c rate amount rate' amount' := by
  obtain ⟨least, most⟩ := weightedMean_bounds rate rate' some
  obtain ⟨below, above⟩ := abs_le.1 near
  exact ⟨some, near, by linarith, by linarith⟩

namespace StableDebtToken

theorem weightedRate_mixes
    (computed : weightedRate rate amount rate' amount' (amount + amount') = .ok c) :
    Mixes c rate amount rate' amount' := by
  obtain ⟨nonzero, mixed⟩ := weightedRate_ok computed
  have some : 0 < amount + amount' := Nat.pos_of_ne_zero nonzero
  apply mixes_of_near some
  have weight : 0 < (amount + amount') * WAD_RAY_RATIO := Nat.mul_pos some (by decide)
  have mean := divHalfUp_mean RAY_pos weight rate rate'
  rw [Nat.mul_comm (amount * WAD_RAY_RATIO) rate, ← mixed] at mean
  have whole : (0 : ℚ) < amount + amount' := by exact_mod_cast some
  have ratio : Nat.cast WAD_RAY_RATIO = (10 ^ 9 : ℚ) := by
    unfold WAD_RAY_RATIO
    norm_num
  have ray : (RAY : ℚ) = 10 ^ 27 := by norm_num [RAY]
  obtain ⟨below, above⟩ := abs_le.1 mean
  have below := (Int.cast_le (R := ℚ)).2 below
  have above := (Int.cast_le (R := ℚ)).2 above
  push_cast at below above
  rw [ratio, ray] at below above
  rw [abs_le, meanSlack, weightedMean]
  have product : ((rate : ℚ) * amount + rate' * amount') / (amount + amount') * (amount + amount') =
    rate * amount + rate' * amount' := div_mul_cancel₀ _ whole.ne'
  have slack : (10 ^ 18 : ℚ) / (amount + amount') * (amount + amount') = 10 ^ 18 :=
    div_mul_cancel₀ _ whole.ne'
  constructor
  · apply le_of_mul_le_mul_right _ whole
    linarith
  · apply le_of_mul_le_mul_right _ whole
    linarith

variable {token after : StableDebtToken} {now : Nat} {user onBehalfOf : Address} {first : Bool}
  {event : Emitted}

/-- A mint mixes the new debt into the user's and into the aggregate, each with its own mean. -/
theorem mint_mixes_rates
    (minted : token.mint now user onBehalfOf amount rate = .ok (after, first, event)) :
    ∃ balance supply, token.balanceOf now onBehalfOf = .ok balance ∧
      token.totalSupply now = .ok supply ∧
      Mixes (after.usersStableRate onBehalfOf) (token.usersStableRate onBehalfOf) balance rate
        amount ∧
      Mixes after.avgStableRate token.avgStableRate supply rate amount := by
  have run := mint_ok minted
  obtain ⟨balance, supply⟩ := mint_readable minted
  exact ⟨_, _, balance, supply, weightedRate_mixes run.userRate, weightedRate_mixes run.avgRate⟩

-- A debt of three units, a year old, and seven units at another rate on top of it.
theorem mint_mixes_rates_dust : ∃ once after first event first' event',
    StableDebtToken.empty.mint 1 7 7 3 (RAY / 20) = .ok (once, first, event) ∧
      once.mint 31536001 7 7 7 (RAY / 10) = .ok (after, first', event') ∧
      ∃ supply, once.totalSupply 31536001 = .ok supply ∧
        Mixes after.avgStableRate once.avgStableRate supply (RAY / 10) 7 := by
  have outcome : yields (StableDebtToken.empty.mint 1 7 7 3 (RAY / 20)) (fun once =>
      yields (once.1.mint 31536001 7 7 7 (RAY / 10)) (fun _ => true)) := by
    decide +kernel
  obtain ⟨⟨once, first, event⟩, minted, later⟩ := yields_iff.1 outcome
  obtain ⟨⟨after, first', event'⟩, minted', _⟩ := yields_iff.1 later
  obtain ⟨_, supply, _, supplied, _, mixed⟩ := mint_mixes_rates minted'
  exact ⟨once, after, first, event, first', event', minted, minted', supply, supplied, mixed⟩

end StableDebtToken

end PalmyProtocol
