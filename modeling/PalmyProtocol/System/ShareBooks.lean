import PalmyProtocol.System.CashFlows
import PalmyProtocol.System.FlagMoves

set_option autoImplicit false

namespace PalmyProtocol

open Checked Rounding LendingPool

inductive Share where
  | given (account : Address) (amount index : Nat)
  | taken (account : Address) (amount index : Nat)
  deriving DecidableEq

namespace Share

def account : Share → Address
  | given account _ _ | taken account _ _ => account

def scaled : Share → Int
  | given _ amount index => divHalfUp (amount * RAY) index
  | taken _ amount index => -divHalfUp (amount * RAY) index

def worth : Share → ℚ
  | given _ amount index => amount * RAY / index
  | taken _ amount index => -(amount * RAY / index)

theorem divHalfUp_near (amount index : Nat) :
    |(divHalfUp (amount * RAY) index : ℚ) - amount * RAY / index| ≤ 1 / 2 := by
  rcases Nat.eq_zero_or_pos index with rfl | positive
  · simp [divHalfUp]
  · have nearest := abs_sub_round (((amount * RAY : Nat) : ℚ) / index)
    rw [round_div positive, abs_sub_comm] at nearest
    push_cast at nearest
    exact nearest

theorem scaled_near (share : Share) : |(share.scaled : ℚ) - share.worth| ≤ 1 / 2 := by
  cases share with
  | given account amount index =>
      simp only [scaled, worth]
      push_cast
      exact divHalfUp_near amount index
  | taken account amount index =>
      have near := divHalfUp_near amount index
      rw [abs_sub_comm] at near
      simp only [scaled, worth]
      push_cast
      rwa [neg_sub_neg]

def moved (user : Address) (shares : List Share) : Int :=
  ((shares.filter fun share => share.account = user).map scaled).sum

theorem tracked {before after : Nat} {book : List Share}
    (booked : (after : Int) = before + (book.map scaled).sum) :
    |(after : ℚ) - (before + (book.map worth).sum)| ≤ book.length * (1 / 2) := by
  have near := Runs.sum_near scaled_near book
  have cast : (after : ℚ) = before + (book.map scaled).sum := by exact_mod_cast booked
  rwa [cast, add_sub_add_left_eq_sub]

variable {user : Address}

@[simp]
theorem moved_nil : moved user [] = 0 := rfl

@[simp]
theorem moved_cons (share : Share) (rest : List Share) :
    moved user (share :: rest) = (if share.account = user then share.scaled else 0) +
      moved user rest := by
  by_cases same : share.account = user <;> simp [moved, same]

end Share

namespace Reserve

variable {env : Env} {reserve middle after : Reserve} {user holder sender recipient : Address}
  {shift shift' : Int} {amount : Nat}

structure Shifts (user : Address) (shift : Int) (reserve after : Reserve) : Prop where
  treasury : after.lToken.treasury = reserve.lToken.treasury
  balance : user ≠ reserve.lToken.treasury →
    (after.lToken.base.balances user : Int) = reserve.lToken.base.balances user + shift

namespace Shifts

theorem trans (first : Shifts user shift reserve middle)
    (second : Shifts user shift' middle after) :
    Shifts user (shift + shift') reserve after where
  treasury := second.treasury.trans first.treasury
  balance := by
    intro holder
    have later := second.balance (by rwa [first.treasury])
    rw [later, first.balance holder, Int.add_assoc]

theorem of_same (same : after.lToken = reserve.lToken) : Shifts user 0 reserve after where
  treasury := by rw [same]
  balance _ := by rw [same, Int.add_zero]

end Shifts

theorem Quiet.shifts (quiet : Quiet reserve after) : Shifts user 0 reserve after where
  treasury := quiet.1
  balance := by
    intro holder
    obtain ⟨_, _, balances, _⟩ := quiet
    rw [balances, if_neg holder, Nat.add_zero, Int.add_zero]

theorem Quiet.then_shifts {last : Reserve} (quiet : Quiet reserve middle)
    (shifts : Shifts user shift middle after) (same : last.lToken = after.lToken) :
    Shifts user shift reserve last := by
  have both := (quiet.shifts.trans shifts).trans (.of_same same)
  rwa [Int.zero_add, Int.add_zero] at both

theorem mintLToken_shifts {first : Bool}
    (computed : reserve.mintLToken holder amount = .ok (after, first)) :
    Shifts user (Share.moved user [.given holder amount reserve.liquidityIndex]) reserve after := by
  obtain ⟨lToken, minted, rfl⟩ := mintLToken_ok computed
  refine ⟨minted.treasury, fun _ => ?_⟩
  have balance := minted.balances user
  simp only [Share.moved_cons, Share.moved_nil, Share.account, Share.scaled, eq_comm (a := holder)]
  change (lToken.base.balances user : Int) = _
  rw [balance]
  split_ifs <;> push_cast <;> omega

theorem burnLToken_shifts {receiver : Address}
    (computed : reserve.burnLToken holder receiver amount = .ok after) :
    Shifts user (Share.moved user [.taken holder amount reserve.liquidityIndex]) reserve after := by
  obtain ⟨lToken, _, burned, _, rfl⟩ := burnLToken_ok computed
  refine ⟨burned.treasury, fun _ => ?_⟩
  have balance := burned.balances user
  simp only [Share.moved_cons, Share.moved_nil, Share.account, Share.scaled, eq_comm (a := holder)]
  change (lToken.base.balances user : Int) = _
  rw [← balance]
  split_ifs <;> push_cast <;> omega

theorem transfer_shifts {lToken : LToken} {fromBefore toBefore index : Nat}
    (moved : LToken.Transferred reserve.lToken index sender recipient amount lToken fromBefore
      toBefore) (same : after.lToken = lToken) :
    Shifts user (Share.moved user [.taken sender amount index, .given recipient amount index])
      reserve after := by
  refine ⟨by rw [same, moved.treasury], fun _ => ?_⟩
  have balance := moved.balances user
  simp only [Share.moved_cons, Share.moved_nil, Share.account, Share.scaled, eq_comm (a := sender),
    eq_comm (a := recipient)]
  rw [same]
  split_ifs at balance ⊢ <;> omega

end Reserve

def Call.shares (env : Env) (pool : LendingPool) (asset msgSender : Address) : Call → List Share
  | deposit a amount onBehalfOf =>
    if a = asset then
      [.given onBehalfOf amount ((pool.reserves asset).normalizedIncome env.timestamp)]
    else []
  | withdraw a amount recipient =>
    if a = asset then
      match pool.withdraw env msgSender a amount recipient with
      | .ok (_, amountToWithdraw) =>
        [.taken msgSender amountToWithdraw ((pool.reserves asset).normalizedIncome env.timestamp)]
      | .error _ => []
    else []
  | transfer a recipient amount =>
    if a = asset then
      [.taken msgSender amount ((pool.reserves asset).normalizedIncome env.timestamp),
        .given recipient amount ((pool.reserves asset).normalizedIncome env.timestamp)]
    else []
  | transferFrom a sender recipient amount =>
    if a = asset then
      [.taken sender amount ((pool.reserves asset).normalizedIncome env.timestamp),
        .given recipient amount ((pool.reserves asset).normalizedIncome env.timestamp)]
    else []
  | liquidationCall collateralAsset debtAsset user debtToCover receiveLToken =>
    if collateralAsset = asset then
      match LendingPoolCollateralManager.liquidationAmounts env pool collateralAsset debtAsset user
        debtToCover with
      | .ok (_, maxCollateralToLiquidate) =>
        .taken user maxCollateralToLiquidate
            ((pool.reserves asset).normalizedIncome env.timestamp) ::
          if receiveLToken then [.given msgSender maxCollateralToLiquidate
            ((pool.reserves asset).normalizedIncome env.timestamp)] else []
      | .error _ => []
    else []
  | _ => []

namespace LendingPool

variable {env : Env} {pool after : LendingPool} {msgSender asset user : Address} {amount : Nat}

abbrev Shifts (asset user : Address) (shift : Int) (pool after : LendingPool) : Prop :=
  Reserve.Shifts user shift (pool.reserves asset) (after.reserves asset)

theorem deposit_shifts {onBehalfOf : Address}
    (computed : pool.deposit env msgSender asset amount onBehalfOf = .ok after) :
    Shifts asset user (Share.moved user [.given onBehalfOf amount
      ((pool.reserves asset).normalizedIncome env.timestamp)]) pool after := by
  obtain ⟨accrued, rated, funded, minted, _, _, run⟩ := deposit_ok computed
  have income := (Reserve.income_of_rated run.accrue run.rate).2
  have quiet := ((Reserve.updateState_quiet run.accrue).trans
    (Reserve.updateInterestRates_quiet run.rate)).trans
      (Reserve.transferUnderlyingFrom_quiet run.fund)
  obtain ⟨_, _, shape⟩ := Reserve.transferUnderlyingFrom_ok run.fund
  have index : funded.liquidityIndex = rated.liquidityIndex := by rw [shape]
  have mint : Reserve.Shifts user _ _ _ := Reserve.mintLToken_shifts run.mint
  rw [index, income] at mint
  rw [Shifts, run.result, setUserConfig_reserves, setReserve_same]
  exact quiet.then_shifts mint rfl

theorem withdraw_shifts {recipient : Address} {withdrawn : Nat}
    (computed : pool.withdraw env msgSender asset amount recipient = .ok (after, withdrawn)) :
    Shifts asset user (Share.moved user [.taken msgSender withdrawn
      ((pool.reserves asset).normalizedIncome env.timestamp)]) pool after := by
  obtain ⟨_, accrued, rated, burned, _, _, run⟩ := withdraw_ok computed
  have income := (Reserve.income_of_rated run.accrue run.rate).2
  have quiet := (Reserve.updateState_quiet run.accrue).trans
    (Reserve.updateInterestRates_quiet run.rate)
  have burn : Reserve.Shifts user _ _ _ := Reserve.burnLToken_shifts run.burn
  rw [income] at burn
  rw [Shifts, run.result, setUserConfig_reserves, setReserve_same]
  exact quiet.then_shifts burn rfl

theorem moveLTokens_shifts {sender recipient : Address}
    (computed : pool.moveLTokens env asset sender recipient amount = .ok after) :
    Shifts asset user (Share.moved user
      [.taken sender amount ((pool.reserves asset).normalizedIncome env.timestamp),
        .given recipient amount ((pool.reserves asset).normalizedIncome env.timestamp)])
      pool after := by
  obtain ⟨lToken, _, _, run⟩ := moveLTokens_ok computed
  obtain ⟨index, viewed, moved⟩ := LToken.transfer_ok run.transfer
  obtain ⟨rfl, _⟩ := ReserveData.getNormalizedIncome_ok viewed
  have same : (after.reserves asset).lToken = lToken := by
    rcases run.finalize.result with ⟨_, rfl⟩ | ⟨_, _, _, _, _, _, rfl⟩ <;> simp
  exact Reserve.transfer_shifts moved same

open LendingPoolCollateralManager in
theorem liquidationCall_shifts {collateralAsset debtAsset borrower : Address} {debtToCover : Nat}
    {receiveLToken : Bool}
    (computed : pool.liquidationCall env msgSender collateralAsset debtAsset borrower debtToCover
      receiveLToken = .ok after) :
    Shifts asset user (Share.moved user (Call.shares env pool asset msgSender
      (.liquidationCall collateralAsset debtAsset borrower debtToCover receiveLToken)))
      pool after := by
  obtain ⟨_, _, _, _, collateral, _, _, run⟩ := liquidationCall_ok computed
  obtain ⟨repaid, seized, config, funded, exec⟩ := executeLiquidation_ok run.execute
  obtain ⟨accrued, burned, rated, leg⟩ := repayDebt_ok exec.repay
  have paid : Reserve.Quiet (pool.reserves asset) (repaid.reserves asset) :=
    repayDebt_quiet exec.repay
  have last := (executed_tokens exec asset).1
  have seize := exec.seize
  by_cases taken : collateralAsset = asset
  · subst taken
    -- the debt's reserve, when it is the same one, was accrued at this moment already
    have income : (repaid.reserves collateralAsset).normalizedIncome env.timestamp =
        (pool.reserves collateralAsset).normalizedIncome env.timestamp := by
      by_cases same : collateralAsset = debtAsset
      · subst same
        rw [leg.result, setReserve_same]
        obtain ⟨_, _, _, _, rate⟩ := Reserve.updateInterestRates_ok leg.rate
        have kept := burnDebt_debtsOnly leg.burn
        have stamp : rated.lastUpdateTimestamp = accrued.lastUpdateTimestamp := by
          rw [rate.result, kept.data]
        have index : rated.liquidityIndex = accrued.liquidityIndex := by
          rw [rate.result, kept.data]
        obtain ⟨shown, stored⟩ := Reserve.income_of_accrued leg.accrue stamp index
        exact shown.trans stored
      · rw [leg.result, setReserve_other same]
    simp only [Call.shares, if_true, run.settled]
    split_ifs at seize with receiving
    · obtain ⟨_, _, _, lToken, _, part⟩ := seizeLTokens_ok seize
      obtain ⟨_, viewed, moved⟩ := LToken.transfer_ok part.transfer
      obtain ⟨rfl, _⟩ := ReserveData.getNormalizedIncome_ok viewed
      have here : (seized.reserves collateralAsset).lToken = lToken := by simp [part.result]
      have shifts : Reserve.Shifts user _ _ _ := Reserve.transfer_shifts moved here
      rw [income] at shifts
      rw [if_pos receiving]
      exact paid.then_shifts shifts last
    · obtain ⟨_, rated, burned, part⟩ := seizeUnderlying_ok seize
      have quiet := (Reserve.updateState_quiet part.accrue).trans
        (Reserve.updateInterestRates_quiet part.rate)
      have burn : Reserve.Shifts user _ _ _ := Reserve.burnLToken_shifts part.burn
      rw [(Reserve.income_of_rated part.accrue part.rate).2, income] at burn
      have here : (seized.reserves collateralAsset).lToken = burned.lToken := by simp [part.result]
      rw [if_neg receiving]
      exact (paid.trans quiet).then_shifts burn (last.trans here)
  · have kept : (seized.reserves asset).lToken = (repaid.reserves asset).lToken := by
      split_ifs at seize
      · obtain ⟨_, _, _, _, _, part⟩ := seizeLTokens_ok seize
        rw [part.result, setUserConfig_reserves, setReserve_other (Ne.symm taken)]
      · obtain ⟨_, _, _, part⟩ := seizeUnderlying_ok seize
        rw [part.result, setReserve_other (Ne.symm taken)]
    simp only [Call.shares, if_neg taken, Share.moved_nil]
    exact paid.shifts.trans (.of_same (last.trans kept))

end LendingPool

end PalmyProtocol
