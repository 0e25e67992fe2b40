import PalmyProtocol.Library.Traces
import PalmyProtocol.System.RestingReserves

set_option autoImplicit false

namespace PalmyProtocol

open Checked Rounding LendingPool

inductive Posting where
  | deposited (amount : Nat)
  | withdrawn (amount : Nat)
  | lent (amount : Nat)
  | repaid (amount : Nat)
  | covered (amount : Nat)
  | seized (amount : Nat)
  | premium (amount : Nat)
  | donated (amount : Nat)
  deriving DecidableEq

namespace Posting

def cash : Posting → Int
  | deposited amount | repaid amount | covered amount | premium amount | donated amount => amount
  | withdrawn amount | lent amount | seized amount => -amount

end Posting

namespace LendingPoolCollateralManager

variable (env : Env) (pool : LendingPool)

def liquidationAmounts (collateralAsset debtAsset user : Address) (debtToCover : Nat) :
    Result (Nat × Nat) := do
  let (userStableDebt, userVariableDebt) ←
    (pool.reserves debtAsset).getUserCurrentDebt env.timestamp user
  let userCollateralBalance ← (pool.reserves collateralAsset).lTokenBalanceOf env.timestamp user
  let requestedDebt := min debtToCover (divHalfUp ((userStableDebt + userVariableDebt) *
    LIQUIDATION_CLOSE_FACTOR_PERCENT) PERCENTAGE_FACTOR)
  let (maxCollateralToLiquidate, debtAmountNeeded) ← calculateAvailableCollateralToLiquidate env
    (pool.reserves collateralAsset) (pool.reserves debtAsset) collateralAsset debtAsset
    requestedDebt userCollateralBalance
  pure (min debtAmountNeeded requestedDebt, maxCollateralToLiquidate)

end LendingPoolCollateralManager

def Call.postings (env : Env) (pool : LendingPool) (asset msgSender : Address) : Call → List Posting
  | deposit a amount _ => if a = asset then [.deposited amount] else []
  -- to the lToken itself, a withdrawal moves no cash
  | withdraw a amount recipient =>
    if a = asset ∧ recipient ≠ (pool.reserves asset).lTokenAddress then
      match pool.withdraw env msgSender a amount recipient with
      | .ok (_, amountToWithdraw) => [.withdrawn amountToWithdraw]
      | .error _ => []
    else []
  | borrow a amount _ _ => if a = asset then [.lent amount] else []
  | repay a amount rateMode onBehalfOf =>
    if a = asset then
      match pool.repay env msgSender a amount rateMode onBehalfOf with
      | .ok (_, paybackAmount) => [.repaid paybackAmount]
      | .error _ => []
    else []
  | liquidationCall collateralAsset debtAsset user debtToCover receiveLToken =>
    match LendingPoolCollateralManager.liquidationAmounts env pool collateralAsset debtAsset user
      debtToCover with
    | .ok (actualDebtToLiquidate, maxCollateralToLiquidate) =>
      (if debtAsset = asset then [.covered actualDebtToLiquidate] else []) ++
        if collateralAsset = asset ∧ receiveLToken = false then
          [.seized maxCollateralToLiquidate] else []
    | .error _ => []
  | _ => []

namespace World

variable (asset : Address)

def settlePostings (world : World) : List Posting :=
  match world.frames with
  | [] => []
  | frame :: _ =>
    match frame.pending with
    | [] => []
    | entry :: _ =>
      if entry.asset = asset then
        if entry.mode = some 0 then [.premium entry.premium] else [.lent entry.amount]
      else []

def postings (world : World) (event : Event) (_ : World) : List Posting :=
  match event with
  | .call msgSender call => call.postings world.env world.pool asset msgSender
  | .settle => world.settlePostings asset
  | .ledger a underlying =>
    if a = asset then [.donated (underlying.balances (world.pool.reserves asset).lTokenAddress -
      (world.pool.reserves asset).availableLiquidity)] else []
  | _ => []

def liquidity (world : World) : Nat :=
  (world.pool.reserves asset).availableLiquidity + world.outstanding asset

def cashBook (world : World) (events : List Event) : List Posting :=
  Runs.trace step (postings asset) world events

end World

namespace LendingPool

variable {env : Env} {pool after : LendingPool} {msgSender asset onBehalfOf : Address}
  {amount : Nat}

theorem Deposited.cash {accrued rated funded minted : Reserve} {first : Bool}
    {config : UserConfigurationMap} (apart : msgSender ≠ (pool.reserves asset).lTokenAddress)
    (run : Deposited env pool msgSender asset amount onBehalfOf accrued rated funded minted first
      config after) :
    minted.availableLiquidity = (pool.reserves asset).availableLiquidity + amount := by
  obtain ⟨same, cash⟩ := (Reserve.updateState_poked run.accrue).cash run.rate
  have fund := run.fund
  rw [← same] at fund apart
  obtain ⟨_, _, funds⟩ := Reserve.transferUnderlyingFrom_cash apart fund
  obtain ⟨_, kept⟩ := Reserve.mintLToken_cash run.mint
  rw [kept, funds, cash]

theorem burnLToken_own {reserve burned : Reserve} {user : Address}
    (computed : reserve.burnLToken user reserve.lTokenAddress amount = .ok burned) :
    burned.availableLiquidity = reserve.availableLiquidity := by
  obtain ⟨_, _, _, moved, rfl⟩ := Reserve.burnLToken_ok computed
  obtain ⟨_, _, _, balances⟩ := ERC20.transfer_ok moved
  exact Nat.add_right_cancel (balances reserve.lTokenAddress)

theorem Withdrawn.cash {recipient : Address} {userBalance : Nat} {accrued rated burned : Reserve}
    {config : UserConfigurationMap}
    (run : Withdrawn env pool msgSender asset recipient amount userBalance accrued rated burned
      config after) :
    burned.availableLiquidity +
        (if recipient = (pool.reserves asset).lTokenAddress then 0 else amount) =
      (pool.reserves asset).availableLiquidity := by
  obtain ⟨same, cash⟩ := (Reserve.updateState_poked run.accrue).cash run.rate
  have burn := run.burn
  rw [← cash, ← same]
  split_ifs with own
  · rw [own] at burn
    exact burnLToken_own burn
  · obtain ⟨_, paid⟩ := Reserve.burnLToken_cash own burn
    exact paid

theorem Borrowed.cash {vars : ExecuteBorrowParams} {amountInETH : Nat}
    {accrued minted rated released : Reserve} {mode : InterestRateMode} {first : Bool}
    {config : UserConfigurationMap}
    (apart : vars.releaseUnderlying = true →
      vars.user ≠ (pool.reserves vars.asset).lTokenAddress)
    (run : Borrowed env pool vars amountInETH accrued minted rated released mode first config
      after) :
    released.availableLiquidity + (if vars.releaseUnderlying then vars.amount else 0) =
      (pool.reserves vars.asset).availableLiquidity := by
  obtain ⟨same, cash⟩ := run.poked.cash run.rate
  have release := run.release
  rw [← cash]
  split_ifs at release ⊢ with releases
  · rw [← same] at apart
    obtain ⟨_, _, paid⟩ := Reserve.transferUnderlyingTo_cash (apart releases) release
    exact paid
  · cases release
    rfl

theorem Repaid.cash {mode : InterestRateMode} {stableDebt variableDebt payback : Nat}
    {accrued burned rated funded : Reserve} {config : UserConfigurationMap}
    (apart : msgSender ≠ (pool.reserves asset).lTokenAddress)
    (run : Repaid env pool msgSender asset amount mode onBehalfOf stableDebt variableDebt payback
      accrued burned rated funded config after) :
    funded.availableLiquidity = (pool.reserves asset).availableLiquidity + payback := by
  obtain ⟨same, cash⟩ := run.poked.cash run.rate
  have fund := run.fund
  rw [run.poked.lTokenAddress, ← same] at fund
  rw [← same] at apart
  obtain ⟨_, _, funds⟩ := Reserve.transferUnderlyingFrom_cash apart fund
  rw [funds, cash]

theorem Repaying.cash {receiverAddress : Address} {entry : FlashLoanEntry} {totalSupply : Nat}
    {accrued rated funded : Reserve} {data : ReserveData}
    (address : entry.lTokenAddress = (pool.reserves entry.asset).lTokenAddress)
    (apart : receiverAddress ≠ (pool.reserves entry.asset).lTokenAddress)
    (run : Repaying env pool receiverAddress entry totalSupply accrued data rated funded after) :
    funded.availableLiquidity =
      (pool.reserves entry.asset).availableLiquidity + (entry.amount + entry.premium) := by
  obtain ⟨same, cash⟩ := ((Reserve.updateState_poked run.accrue).income run.income).cash run.rate
  have fund := run.fund
  rw [address, ← same] at fund
  rw [← same] at apart
  obtain ⟨_, _, funds⟩ := Reserve.transferUnderlyingFrom_cash apart fund
  rw [funds, cash]

def SameCash (pool after : LendingPool) : Prop :=
  ∀ asset, (after.reserves asset).lTokenAddress = (pool.reserves asset).lTokenAddress ∧
    (after.reserves asset).availableLiquidity = (pool.reserves asset).availableLiquidity

theorem sameCash_setReserve {reserve : Reserve}
    (address : reserve.lTokenAddress = (pool.reserves asset).lTokenAddress)
    (cash : reserve.availableLiquidity = (pool.reserves asset).availableLiquidity) :
    SameCash pool (pool.setReserve asset reserve) := by
  intro other
  by_cases same : other = asset
  · subst same
    rw [setReserve_same]
    exact ⟨address, cash⟩
  · rw [setReserve_other same]
    exact ⟨rfl, rfl⟩

end LendingPool

namespace LendingPoolCollateralManager

variable {env : Env} {pool repaid seized after : LendingPool}
  {asset msgSender collateralAsset debtAsset user : Address} {amount : Nat} {receiveLToken : Bool}

theorem repayDebt_sameCash {actual userVariableDebt : Nat}
    (computed : repayDebt env pool debtAsset user actual userVariableDebt = .ok after) :
    SameCash pool after := by
  obtain ⟨_, _, _, run⟩ := repayDebt_ok computed
  obtain ⟨same, cash⟩ := run.poked.cash run.rate
  rw [run.result]
  exact sameCash_setReserve same cash

-- In kind no cash leaves; else the burn pays the liquidator out of the collateral's reserve.
theorem seize_cash (asset : Address)
    (apart : msgSender ≠ (pool.reserves collateralAsset).lTokenAddress)
    (computed : (if receiveLToken then seizeLTokens env pool msgSender collateralAsset user amount
      else seizeUnderlying env pool msgSender collateralAsset user amount) = .ok after) :
    (after.reserves asset).lTokenAddress = (pool.reserves asset).lTokenAddress ∧
      (after.reserves asset).availableLiquidity +
          (if collateralAsset = asset ∧ receiveLToken = false then amount else 0) =
        (pool.reserves asset).availableLiquidity := by
  split_ifs at computed with receiving
  · obtain ⟨_, _, _, lToken, _, leg⟩ := seizeLTokens_ok computed
    have same : SameCash pool (pool.setReserve collateralAsset
        { pool.reserves collateralAsset with lToken }) := sameCash_setReserve rfl rfl
    rw [leg.result, setUserConfig_reserves, if_neg (by simp [receiving])]
    exact same asset
  · obtain ⟨_, _, _, leg⟩ := seizeUnderlying_ok computed
    rw [leg.result]
    by_cases same : asset = collateralAsset
    · subst same
      obtain ⟨address, cash⟩ := (Reserve.updateState_poked leg.accrue).cash leg.rate
      rw [← address] at apart
      obtain ⟨books, paid⟩ := Reserve.burnLToken_cash apart leg.burn
      rw [setReserve_same, if_pos ⟨rfl, Bool.eq_false_of_not_eq_true receiving⟩, paid, books.data]
      exact ⟨address, cash⟩
    · rw [setReserve_other same, if_neg (fun both => same both.1.symm)]
      exact ⟨rfl, rfl⟩

theorem Executed.cash (asset : Address) {actual userVariableDebt collateral collateralBalance : Nat}
    {config : UserConfigurationMap} {funded : Reserve}
    (collateralApart : msgSender ≠ (pool.reserves collateralAsset).lTokenAddress)
    (debtApart : msgSender ≠ (pool.reserves debtAsset).lTokenAddress)
    (exec : Executed env pool msgSender collateralAsset debtAsset user actual userVariableDebt
      collateral collateralBalance receiveLToken repaid seized config funded after) :
    (after.reserves asset).availableLiquidity +
        (if collateralAsset = asset ∧ receiveLToken = false then collateral else 0) =
      (pool.reserves asset).availableLiquidity + (if debtAsset = asset then actual else 0) := by
  have rested := repayDebt_sameCash exec.repay
  rw [← (rested collateralAsset).1] at collateralApart
  have taken := fun other => seize_cash other collateralApart exec.seize
  have kept : (after.reserves asset).availableLiquidity =
      (seized.reserves asset).availableLiquidity + (if debtAsset = asset then actual else 0) := by
    rw [exec.result]
    by_cases pays : asset = debtAsset
    · subst pays
      rw [← (rested asset).1, ← (taken asset).1] at debtApart
      obtain ⟨_, _, funds⟩ := Reserve.transferUnderlyingFrom_cash debtApart exec.fund
      rw [setReserve_same, if_pos rfl, funds]
    · rw [setReserve_other pays, if_neg (Ne.symm pays)]
      rfl
  rw [kept, ← (rested asset).2, ← (taken asset).2]
  omega

theorem Liquidated.settled {account : UserAccountData} {debtToCover : Nat}
    {userStableDebt userVariableDebt collateral collateralBalance needed : Nat}
    (run : Liquidated env pool msgSender collateralAsset debtAsset user debtToCover receiveLToken
      account userStableDebt userVariableDebt collateral collateralBalance needed after) :
    liquidationAmounts env pool collateralAsset debtAsset user debtToCover =
      .ok (min needed (min debtToCover (divHalfUp ((userStableDebt + userVariableDebt) *
        LIQUIDATION_CLOSE_FACTOR_PERCENT) PERCENTAGE_FACTOR)), collateral) := by
  simp only [liquidationAmounts, run.debts, run.balance, ok_bind, run.amounts]
  rfl

theorem Liquidated.cash (asset : Address) {account : UserAccountData} {debtToCover : Nat}
    {userStableDebt userVariableDebt collateral collateralBalance needed : Nat}
    (collateralApart : msgSender ≠ (pool.reserves collateralAsset).lTokenAddress)
    (debtApart : msgSender ≠ (pool.reserves debtAsset).lTokenAddress)
    (run : Liquidated env pool msgSender collateralAsset debtAsset user debtToCover receiveLToken
      account userStableDebt userVariableDebt collateral collateralBalance needed after) :
    ∃ actual seized, liquidationAmounts env pool collateralAsset debtAsset user debtToCover =
        .ok (actual, seized) ∧
      (after.reserves asset).availableLiquidity +
          (if collateralAsset = asset ∧ receiveLToken = false then seized else 0) =
        (pool.reserves asset).availableLiquidity + (if debtAsset = asset then actual else 0) := by
  obtain ⟨_, _, _, _, exec⟩ := executeLiquidation_ok run.execute
  exact ⟨_, collateral, run.settled, exec.cash asset collateralApart debtApart⟩

end LendingPoolCollateralManager

namespace ERC20

theorem transfer_sender {token after : ERC20} {sender recipient : Address} {amount : Nat}
    (computed : token.transfer sender recipient amount = .ok after) : sender ≠ 0 := by
  simp only [transfer, bind_eq_ok, require_eq_ok, exists_const] at computed
  exact computed.1

end ERC20

namespace World

variable {world next : World} {asset msgSender : Address}

open LendingPoolCollateralManager in
theorem liquidator_apart {collateralAsset debtAsset user other : Address} {debtToCover : Nat}
    {receiveLToken : Bool} {account : UserAccountData}
    {userStableDebt userVariableDebt collateral collateralBalance needed : Nat} {pool : LendingPool}
    (registered : world.pool.Registered) (outside : ¬world.pool.IsProtocol msgSender)
    (run : Liquidated world.env world.pool msgSender collateralAsset debtAsset user debtToCover
      receiveLToken account userStableDebt userVariableDebt collateral collateralBalance needed
      pool) : msgSender ≠ (world.pool.reserves other).lTokenAddress := by
  obtain ⟨_, _, _, _, exec⟩ := executeLiquidation_ok run.execute
  obtain ⟨_, moved, _⟩ := Reserve.transferUnderlyingFrom_ok exec.fund
  obtain ⟨_, paid, _⟩ := ERC20.transferFrom_ok moved
  by_cases vacant : (world.pool.reserves other).lTokenAddress = 0
  · rw [vacant]
    exact ERC20.transfer_sender paid
  · exact registered.apart outside other vacant

-- One case for each call that moves cash; the others leave the reserve as it rests.
theorem call_cash {made : Call} {pool : LendingPool} (registered : world.pool.Registered)
    (listed : (world.pool.reserves asset).lTokenAddress ≠ 0)
    (outside : ¬world.pool.IsProtocol msgSender)
    (executed : made.execute world.env world.pool msgSender = .ok pool) :
    ((pool.reserves asset).availableLiquidity : Int) =
      (world.pool.reserves asset).availableLiquidity +
        ((made.postings world.env world.pool asset msgSender).map Posting.cash).sum := by
  have apart := registered.apart outside asset listed
  have elsewhere : asset ∉ made.assets → made.postings world.env world.pool asset msgSender = [] →
      ((pool.reserves asset).availableLiquidity : Int) =
        (world.pool.reserves asset).availableLiquidity +
          ((made.postings world.env world.pool asset msgSender).map Posting.cash).sum := by
    intro untouched none
    rw [none, Call.execute_other untouched executed]
    simp
  cases made with
  | deposit a amount onBehalfOf =>
      by_cases same : a = asset
      · subst same
        obtain ⟨_, _, _, _, _, _, run⟩ := deposit_ok executed
        rw [run.result, setUserConfig_reserves, setReserve_same, run.cash apart]
        simp [Call.postings, Posting.cash]
      · exact elsewhere (by simpa [Call.assets] using Ne.symm same) (if_neg same)
  | withdraw a amount recipient =>
      by_cases same : a = asset
      · subst same
        simp only [Call.execute, bind_eq_ok, Prod.exists, pure_eq_ok] at executed
        obtain ⟨_, taken, executed, rfl⟩ := executed
        simp only [Call.postings, true_and, executed]
        obtain ⟨_, _, _, _, _, _, run⟩ := withdraw_ok executed
        have cash := run.cash
        rw [run.result, setUserConfig_reserves, setReserve_same]
        by_cases own : recipient = (world.pool.reserves a).lTokenAddress
        · rw [if_pos own, Nat.add_zero] at cash
          rw [if_neg (not_not.2 own), cash]
          simp
        · rw [if_neg own] at cash
          rw [if_pos own]
          simp only [List.map_cons, List.map_nil, List.sum_singleton, Posting.cash]
          omega
      · exact elsewhere (by simpa [Call.assets] using Ne.symm same)
          (if_neg fun both => same both.1)
  | borrow a amount mode onBehalfOf =>
      by_cases same : a = asset
      · subst same
        simp only [Call.execute, LendingPool.borrow, bind_eq_ok] at executed
        obtain ⟨_, _, computed⟩ := executed
        obtain ⟨_, _, _, _, _, _, _, _, run⟩ := executeBorrow_ok computed
        have cash := run.cash fun _ => apart
        rw [run.result, setUserConfig_reserves, setReserve_same]
        simp [Call.postings, Posting.cash] at cash ⊢
        omega
      · exact elsewhere (by simpa [Call.assets] using Ne.symm same) (if_neg same)
  | repay a amount rateMode onBehalfOf =>
      by_cases same : a = asset
      · subst same
        simp only [Call.execute, bind_eq_ok, Prod.exists, pure_eq_ok] at executed
        obtain ⟨_, _, executed, rfl⟩ := executed
        simp only [Call.postings, if_true, executed]
        obtain ⟨_, _, _, _, _, _, _, _, _, run⟩ := repay_ok executed
        rw [run.result, setUserConfig_reserves, setReserve_same, run.cash apart]
        simp [Posting.cash]
      · exact elsewhere (by simpa [Call.assets] using Ne.symm same) (if_neg same)
  | liquidationCall collateralAsset debtAsset user debtToCover receiveLToken =>
      obtain ⟨_, _, _, _, _, _, _, run⟩ := liquidationCall_ok executed
      obtain ⟨actual, seized, amounts, cash⟩ := run.cash asset
        (liquidator_apart registered outside run) (liquidator_apart registered outside run)
      simp only [Call.postings, amounts]
      split_ifs at cash ⊢ <;> simp [Posting.cash] <;> omega
  | swapBorrowRateMode a rateMode =>
      by_cases same : a = asset
      · subst same
        obtain ⟨_, _, _, _, _, _, _, _, _, run⟩ := swapBorrowRateMode_ok executed
        rw [run.result, setReserve_same, (run.poked.cash run.rate).2]
        simp [Call.postings]
      · exact elsewhere (by simpa [Call.assets] using Ne.symm same) rfl
  | rebalanceStableBorrowRate a user =>
      by_cases same : a = asset
      · subst same
        obtain ⟨_, _, _, _, _, _, run⟩ := rebalanceStableBorrowRate_ok executed
        have burned := (Reserve.updateState_poked run.accrue).burnStableDebt run.burn
        rw [run.result, setReserve_same, ((burned.mintStableDebt run.mint).cash run.rate).2]
        simp [Call.postings]
      · exact elsewhere (by simpa [Call.assets] using Ne.symm same) rfl
  | setUserUseReserveAsCollateral | transfer | transferFrom | approve | increaseAllowance
  | decreaseAllowance | approveStableDelegation | approveVariableDelegation =>
      have rests : Reserve.Rests (world.pool.reserves asset) (pool.reserves asset) := by
        refine Call.execute_rests ?_ ?_ executed
        · trivial
        · simp
      rw [rests.cash]
      simp [Call.postings]

end World

end PalmyProtocol
