import PalmyProtocol.System.World

set_option autoImplicit false

namespace PalmyProtocol

open Checked Rounding

variable {totalCollateralInETH totalDebtInETH ltv amountInETH c : Nat}

namespace ValidationLogic

def collateralCovers (totalCollateralInETH totalDebtInETH ltv amountInETH : Nat) : Result Unit := do
  let borrowed ← SafeMath.add totalDebtInETH amountInETH
  let amountOfCollateralNeededETH ← percentDiv borrowed ltv
  require (amountOfCollateralNeededETH ≤ totalCollateralInETH)
    Errors.VL_COLLATERAL_CANNOT_COVER_NEW_BORROW

theorem validateBorrow_covers {env : Env} {pool : LendingPool} {asset userAddress : Address}
    {amount interestRateMode : Nat}
    (valid : validateBorrow env pool asset userAddress amount amountInETH interestRateMode =
      .ok ()) :
    ∃ account, GenericLogic.calculateUserAccountData env pool userAddress
        (pool.usersConfig userAddress) = .ok account ∧
      collateralCovers account.totalCollateralInETH account.totalDebtInETH account.avgLtv
        amountInETH = .ok () := by
  simp only [validateBorrow, bind_eq_ok] at valid
  obtain ⟨_, _, _, _, _, _, _, _, _, _, account, viewed, _, _, _, _, borrowed, added, needed, divided,
    _, enough, _⟩ := valid
  refine ⟨account, viewed, ?_⟩
  simp only [collateralCovers, bind_eq_ok]
  exact ⟨borrowed, added, needed, divided, enough⟩

theorem collateralCovers_iff (positive : 0 < ltv) (word : ltv ≤ maxUint256) :
    collateralCovers totalCollateralInETH totalDebtInETH ltv amountInETH = .ok () ↔
      (totalDebtInETH + amountInETH) * PERCENTAGE_FACTOR + ltv / 2 ≤ maxUint256 ∧
        (totalDebtInETH + amountInETH) * PERCENTAGE_FACTOR + ltv / 2 <
          ltv * (totalCollateralInETH + 1) := by
  have quotient : percentDiv (totalDebtInETH + amountInETH) ltv =
      if (totalDebtInETH + amountInETH) * PERCENTAGE_FACTOR + ltv / 2 ≤ maxUint256 then
        .ok (divHalfUp ((totalDebtInETH + amountInETH) * PERCENTAGE_FACTOR) ltv)
      else .error Errors.MATH_MULTIPLICATION_OVERFLOW :=
    divRounded_of_share PERCENTAGE_FACTOR_pos (Nat.pos_iff_ne_zero.1 positive) word rfl
  simp only [collateralCovers, bind_eq_ok, SafeMath.add_eq_ok, require_eq_ok]
  constructor
  · rintro ⟨_, ⟨_, rfl⟩, needed, divided, enough⟩
    rw [quotient] at divided
    split_ifs at divided with fits
    obtain rfl := Except.ok.inj divided
    exact ⟨fits, (divHalfUp_lt positive).1 (Nat.lt_succ_of_le enough)⟩
  · rintro ⟨fits, below⟩
    have sum : totalDebtInETH + amountInETH ≤ maxUint256 := by
      rw [PERCENTAGE_FACTOR] at fits
      omega
    refine ⟨_, ⟨sum, rfl⟩, _, quotient.trans (if_pos fits), ?_⟩
    exact Nat.le_of_lt_succ ((divHalfUp_lt positive).2 below)

end ValidationLogic

namespace GenericLogic

def ShownAvailable (totalCollateralInETH totalDebtInETH ltv amountInETH : Nat) : Prop :=
  ∃ available limit, calculateAvailableBorrowsETH totalCollateralInETH totalDebtInETH ltv =
      .ok available ∧ percentMul totalCollateralInETH ltv = .ok limit ∧
    amountInETH ≤ available ∧ totalDebtInETH + amountInETH ≤ limit

theorem shownAvailable_iff :
    ShownAvailable totalCollateralInETH totalDebtInETH ltv amountInETH ↔
      totalCollateralInETH * ltv + HALF_PERCENT ≤ maxUint256 ∧
        (totalDebtInETH + amountInETH) * PERCENTAGE_FACTOR ≤
          totalCollateralInETH * ltv + HALF_PERCENT := by
  have limits : totalDebtInETH + amountInETH ≤
      divHalfUp (totalCollateralInETH * ltv) PERCENTAGE_FACTOR ↔
      (totalDebtInETH + amountInETH) * PERCENTAGE_FACTOR ≤
        totalCollateralInETH * ltv + HALF_PERCENT := by
    rw [le_divHalfUp PERCENTAGE_FACTOR_pos, Nat.mul_comm]
    rfl
  simp only [ShownAvailable, calculateAvailableBorrowsETH, bind_eq_ok, percentMul_eq_ok]
  constructor
  · rintro ⟨_, limit, _, ⟨fits, rfl⟩, _, within⟩
    exact ⟨fits, limits.1 within⟩
  · rintro ⟨fits, within⟩
    have room := limits.2 within
    refine ⟨divHalfUp (totalCollateralInETH * ltv) PERCENTAGE_FACTOR - totalDebtInETH, _,
      ⟨_, ⟨fits, rfl⟩, ?_⟩, ⟨fits, rfl⟩, by omega, room⟩
    rw [if_neg (by omega)]
    exact SafeMath.sub_eq_ok.2 ⟨by omega, rfl⟩

end GenericLogic

structure Undisputed (totalCollateralInETH totalDebtInETH ltv amountInETH : Nat) : Prop where
  rounding : totalCollateralInETH * ltv + HALF_PERCENT ≤ maxUint256 →
    ¬(totalCollateralInETH * ltv + (ltv - ltv / 2) ≤
        (totalDebtInETH + amountInETH) * PERCENTAGE_FACTOR ∧
      (totalDebtInETH + amountInETH) * PERCENTAGE_FACTOR ≤
        totalCollateralInETH * ltv + HALF_PERCENT)
  quotient : totalCollateralInETH * ltv + HALF_PERCENT ≤ maxUint256 →
    (totalDebtInETH + amountInETH) * PERCENTAGE_FACTOR ≤
      totalCollateralInETH * ltv + HALF_PERCENT →
    (totalDebtInETH + amountInETH) * PERCENTAGE_FACTOR + ltv / 2 ≤ maxUint256
  product : maxUint256 < totalCollateralInETH * ltv + HALF_PERCENT →
    totalCollateralInETH * ltv + (ltv - ltv / 2) ≤
        (totalDebtInETH + amountInETH) * PERCENTAGE_FACTOR ∨
      maxUint256 < (totalDebtInETH + amountInETH) * PERCENTAGE_FACTOR + ltv / 2

/-- Both sides round to the nearest, the one after a multiplication by the ltv and the other after
a division by it: what the view reports as available may be refused, and nothing else. -/
theorem view_agrees_with_check (totalCollateralInETH totalDebtInETH ltv amountInETH : Nat)
    (positive : 0 < ltv) (part : ltv ≤ 9999) :
    ((ValidationLogic.collateralCovers totalCollateralInETH totalDebtInETH ltv amountInETH = .ok () ↔
        GenericLogic.ShownAvailable totalCollateralInETH totalDebtInETH ltv amountInETH) ↔
      Undisputed totalCollateralInETH totalDebtInETH ltv amountInETH) ∧
    (totalCollateralInETH * ltv + HALF_PERCENT ≤ maxUint256 →
      ValidationLogic.collateralCovers totalCollateralInETH totalDebtInETH ltv amountInETH = .ok () →
      GenericLogic.ShownAvailable totalCollateralInETH totalDebtInETH ltv amountInETH) := by
  have word : ltv ≤ maxUint256 := le_trans part (by decide)
  have half : HALF_PERCENT = 5000 := rfl
  have next : ltv * (totalCollateralInETH + 1) = totalCollateralInETH * ltv + ltv := by ring
  rw [ValidationLogic.collateralCovers_iff positive word, GenericLogic.shownAvailable_iff, next]
  constructor
  · constructor
    · intro agree
      refine ⟨fun fits gap => ?_, fun fits within => ?_, fun exceeds => ?_⟩
      · have passes := agree.2 ⟨fits, gap.2⟩
        omega
      · exact (agree.2 ⟨fits, within⟩).1
      · by_contra inside
        push Not at inside
        have shown := agree.1 ⟨inside.2, by omega⟩
        omega
    · rintro ⟨rounding, quotient, product⟩
      constructor
      · rintro ⟨fits, below⟩
        have fits' : totalCollateralInETH * ltv + HALF_PERCENT ≤ maxUint256 := by
          by_contra exceeds
          have refused := product (Nat.lt_of_not_le exceeds)
          omega
        exact ⟨fits', by omega⟩
      · rintro ⟨fits, within⟩
        have outside := rounding fits
        exact ⟨quotient fits within, by omega⟩
  · rintro fits ⟨_, below⟩
    exact ⟨fits, by omega⟩

theorem view_agrees_with_check_thousand :
    0 < 7500 ∧ 7500 ≤ 9999 ∧
      ((ValidationLogic.collateralCovers 1000 100 7500 600 = .ok () ↔
          GenericLogic.ShownAvailable 1000 100 7500 600) ↔ Undisputed 1000 100 7500 600) :=
  ⟨by decide, by decide, (view_agrees_with_check 1000 100 7500 600 (by decide) (by decide)).1⟩

-- Two units of collateral at three quarters: one and a half, which the view reports as two.
def pledgedTwo : List Event :=
  Market.opening 10 Market.strategy ++ Market.opening 20 Market.strategy ++
    [.call 100 (.deposit 10 100 100), .call 101 (.deposit 20 2 101)]

theorem view_refused_pledgedTwo :
    ¬(ValidationLogic.collateralCovers 2 0 7500 2 = .ok () ↔
        GenericLogic.ShownAvailable 2 0 7500 2) ∧
    ∃ world : World, ∃ account, Runs.run World.step Market.start pledgedTwo = .ok world ∧
      GenericLogic.calculateUserAccountData world.env world.pool 101 (world.pool.usersConfig 101) =
        .ok account ∧
      account.totalCollateralInETH = 2 ∧ account.totalDebtInETH = 0 ∧ account.avgLtv = 7500 ∧
      ∀ pool, (Call.borrow 10 2 2 101).execute world.env world.pool 101 ≠ .ok pool := by
  have refused : ValidationLogic.collateralCovers 2 0 7500 2 ≠ .ok () := by
    rw [Ne, ValidationLogic.collateralCovers_iff (by decide) (by decide)]
    decide
  have shown : GenericLogic.ShownAvailable 2 0 7500 2 :=
    GenericLogic.shownAvailable_iff.2 (by decide)
  refine ⟨fun agree => refused (agree.2 shown), ?_⟩
  have outcome : yields (Runs.run World.step Market.start pledgedTwo) (fun world =>
      yields (GenericLogic.calculateUserAccountData world.env world.pool 101
        (world.pool.usersConfig 101)) (fun account =>
          account.totalCollateralInETH = 2 ∧ account.totalDebtInETH = 0 ∧ account.avgLtv = 7500) &&
      yields (valueInETH (world.env.getAssetPrice 10) 2
        (world.pool.reserves 10).configuration.getDecimals) (· = 2)) := by
    decide +kernel
  obtain ⟨world, ran, both⟩ := yields_iff.1 outcome
  obtain ⟨viewed, priced⟩ := (Bool.and_eq_true _ _).mp both
  obtain ⟨account, computed, facts⟩ := yields_iff.1 viewed
  obtain ⟨collateral, debt, ltv⟩ := of_decide_eq_true facts
  obtain ⟨value, worth, two⟩ := yields_iff.1 priced
  obtain rfl := of_decide_eq_true two
  refine ⟨world, account, ran, computed, collateral, debt, ltv, fun pool borrowed => ?_⟩
  simp only [Call.execute, LendingPool.borrow, bind_eq_ok] at borrowed
  obtain ⟨_, _, borrowed⟩ := borrowed
  obtain ⟨amountInETH, _, _, _, _, _, _, _, run⟩ := LendingPool.executeBorrow_ok borrowed
  obtain rfl := Except.ok.inj (worth.symm.trans run.value)
  obtain ⟨account', computed', covers⟩ := ValidationLogic.validateBorrow_covers run.valid
  obtain rfl := Except.ok.inj (computed.symm.trans computed')
  rw [collateral, debt, ltv] at covers
  exact refused covers

end PalmyProtocol
