import PalmyProtocol.Library.Rounding

set_option autoImplicit false

open Rounding

-- A pool whose members hold shares; one share is worth `price / unit` assets, rounded half up.
structure SharePool where
  assets : Nat
  shares : Nat
  price : Nat

namespace SharePool

inductive Move where
  | join (amount : Nat)
  | leave (amount : Nat)
  | forfeit (amount : Nat)
  | reward (amount : Nat)
  | gift (amount : Nat)
  | rest

namespace Move

def paid : Move → Nat
  | join amount | reward amount | gift amount => amount
  | leave _ | forfeit _ | rest => 0

def taken : Move → Nat
  | leave amount => amount
  | join _ | forfeit _ | reward _ | gift _ | rest => 0

end Move

variable {unit amount : Nat} {pool after : SharePool} {move : Move}

def worth (unit : Nat) (pool : SharePool) : Nat := divHalfUp (pool.shares * pool.price) unit

def ratio (unit : Nat) (pool : SharePool) (amount : Nat) : Nat :=
  divHalfUp (amount * unit) (pool.worth unit)

inductive Step (unit : Nat) (pool : SharePool) : Move → SharePool → Prop
  | join {amount : Nat} {after : SharePool}
      (assets : after.assets = pool.assets + amount)
      (shares : after.shares = pool.shares + divHalfUp (amount * unit) pool.price)
      (price : after.price = pool.price) : Step unit pool (.join amount) after
  | leave {amount : Nat} {after : SharePool}
      (assets : after.assets + amount = pool.assets)
      (shares : after.shares + divHalfUp (amount * unit) pool.price = pool.shares)
      (price : after.price = pool.price) : Step unit pool (.leave amount) after
  | forfeit {amount : Nat} {after : SharePool}
      (assets : after.assets = pool.assets)
      (shares : after.shares + divHalfUp (amount * unit) pool.price = pool.shares)
      (price : after.price = pool.price) : Step unit pool (.forfeit amount) after
  | reward {amount : Nat} {after : SharePool}
      (worth : pool.worth unit ≠ 0)
      (assets : after.assets = pool.assets + amount)
      (shares : after.shares = pool.shares)
      (price : after.price = divHalfUp ((pool.ratio unit amount + unit) * pool.price) unit) :
      Step unit pool (.reward amount) after
  | gift {amount : Nat} {after : SharePool}
      (assets : after.assets = pool.assets + amount)
      (shares : after.shares = pool.shares)
      (price : after.price = pool.price) : Step unit pool (.gift amount) after
  | rest {after : SharePool} (same : after = pool) : Step unit pool .rest after

theorem Step.assets (step : Step unit pool move after) :
    after.assets + move.taken = pool.assets + move.paid := by
  cases step with
  | join assets => simp [Move.taken, Move.paid, assets]
  | leave assets => simp [Move.taken, Move.paid, assets]
  | forfeit assets => simp [Move.taken, Move.paid, assets]
  | reward _ assets => simp [Move.taken, Move.paid, assets]
  | gift assets => simp [Move.taken, Move.paid, assets]
  | rest same => simp [Move.taken, Move.paid, same]

theorem Step.price_le (positive : 0 < unit) (step : Step unit pool move after) :
    pool.price ≤ after.price := by
  cases step with
  | join _ _ price => rw [price]
  | leave _ _ price => rw [price]
  | forfeit _ _ price => rw [price]
  | reward _ _ _ price =>
      rw [price]
      calc pool.price = divHalfUp (unit * pool.price) unit := (divHalfUp_mul_left positive _).symm
        _ ≤ _ := divHalfUp_mono (Nat.mul_le_mul_right _ (Nat.le_add_left ..)) unit
  | gift _ _ price => rw [price]
  | rest same => rw [same]

def slack (unit : Nat) (pool : SharePool) : Move → Nat
  | .join _ | .leave _ | .forfeit _ => pool.price
  | .reward amount => pool.worth unit + pool.shares + pool.ratio unit amount
  | .gift _ | .rest => 0

-- Three roundings: of the ratio, of the new price, and of the worth that the ratio is taken of.
theorem reward_claims (positive : 0 < unit) (worth : pool.worth unit ≠ 0) :
    2 * (pool.shares * divHalfUp ((pool.ratio unit amount + unit) * pool.price) unit) ≤
      2 * (pool.shares * pool.price) + 2 * (unit * amount) + slack unit pool (.reward amount) := by
  have priced := divHalfUp_upper (n := (pool.ratio unit amount + unit) * pool.price) positive
  have shared := divHalfUp_upper (n := amount * unit) (Nat.pos_of_ne_zero worth)
  have valued := divHalfUp_lower (n := pool.shares * pool.price) positive
  rw [← SharePool.worth] at valued
  rw [← ratio] at shared
  rw [slack]
  generalize divHalfUp ((pool.ratio unit amount + unit) * pool.price) unit = newPrice at *
  generalize pool.ratio unit amount = ratio at *
  generalize pool.worth unit = worth at *
  have scaledPrice := Nat.mul_le_mul_left pool.shares priced
  have scaledShare := Nat.mul_le_mul_left unit shared
  have scaledWorth := Nat.mul_le_mul_left ratio (Nat.le_of_lt valued)
  apply Nat.le_of_mul_le_mul_left (c := unit) _ positive
  linarith

theorem Step.claims (positive : 0 < unit) (priced : 0 < pool.price)
    (step : Step unit pool move after) :
    2 * (after.shares * after.price) + 2 * (unit * move.taken) ≤
      2 * (pool.shares * pool.price) + 2 * (unit * move.paid) + slack unit pool move := by
  cases step with
  | @join amount _ _ shares price =>
      have bound := divHalfUp_upper (n := amount * unit) priced
      rw [shares, price, Move.taken, Move.paid, slack]
      linarith
  | @leave amount _ _ shares price =>
      have bound := Nat.le_of_lt (divHalfUp_lower (n := amount * unit) priced)
      rw [← shares, price, Move.taken, Move.paid, slack]
      linarith
  | forfeit _ shares price =>
      rw [← shares, price, Move.taken, Move.paid, Nat.add_mul]
      omega
  | reward worth _ shares price =>
      rw [shares, price, Move.taken, Move.paid]
      exact reward_claims positive worth
  | gift _ shares price =>
      rw [shares, price, Move.taken]
      omega
  | rest same => simp [same, Move.taken, Move.paid, slack]

theorem Step.par (positive : 0 < unit) (grown : unit ≤ pool.price) (par : after.price = unit)
    (step : Step unit pool move after) : after.shares + move.taken ≤ pool.shares + move.paid := by
  have before : pool.price = unit := by
    have order := step.price_le positive
    omega
  cases step with
  | join _ shares => simp [shares, before, divHalfUp_mul_right positive, Move.taken, Move.paid]
  | leave _ shares =>
      rw [before, divHalfUp_mul_right positive] at shares
      simp [← shares, Move.taken, Move.paid]
  | forfeit _ shares =>
      simp only [Move.taken, Move.paid]
      omega
  | reward _ _ shares => simp [shares, Move.taken]
  | gift _ shares => simp [shares, Move.taken]
  | rest same => simp [same, Move.taken]

def excess (unit : Nat) (pool : SharePool) : Int :=
  2 * (pool.shares * pool.price : Nat) - 2 * (unit * pool.assets : Nat)

theorem Step.excess_le (positive : 0 < unit) (priced : 0 < pool.price)
    (step : Step unit pool move after) :
    after.excess unit ≤ pool.excess unit + slack unit pool move := by
  have claims := step.claims positive priced
  have assets := congrArg (unit * ·) step.assets
  simp only [Nat.mul_add] at assets
  rw [excess, excess]
  omega

theorem worth_le (positive : 0 < unit) (pool : SharePool) :
    (2 * (unit * pool.worth unit) : Nat) ≤
      pool.excess unit + (2 * (unit * pool.assets) + unit : Nat) := by
  have bound := divHalfUp_upper (n := pool.shares * pool.price) positive
  rw [← worth] at bound
  rw [excess]
  omega

end SharePool
