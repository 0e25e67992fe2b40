import PalmyProtocol.Pool.ReserveSteps

set_option autoImplicit false

namespace PalmyProtocol

open Checked

namespace Reserve

variable {reserve middle after : Reserve} {amount : Nat} {spender sender target user : Address}

structure SameBooks (reserve after : Reserve) : Prop where
  data : after.toReserveData = reserve.toReserveData
  stable : after.stableDebtToken = reserve.stableDebtToken
  floating : after.variableDebtToken = reserve.variableDebtToken

theorem SameBooks.refl (reserve : Reserve) : SameBooks reserve reserve := ⟨rfl, rfl, rfl⟩

theorem SameBooks.trans (first : SameBooks reserve middle) (second : SameBooks middle after) :
    SameBooks reserve after :=
  ⟨second.data.trans first.data, second.stable.trans first.stable,
    second.floating.trans first.floating⟩

theorem received (apart : sender ≠ target) {before later : ERC20}
    (computed : before.transfer sender target amount = .ok later) :
    later.balances target = before.balances target + amount := by
  obtain ⟨_, _, _, balances⟩ := ERC20.transfer_ok computed
  have balance := balances target
  rw [if_neg (Ne.symm apart), if_pos rfl] at balance
  omega

theorem spent (apart : target ≠ sender) {before later : ERC20}
    (computed : before.transfer sender target amount = .ok later) :
    later.balances sender + amount = before.balances sender := by
  obtain ⟨_, _, _, balances⟩ := ERC20.transfer_ok computed
  have balance := balances sender
  rw [if_pos rfl, if_neg (Ne.symm apart)] at balance
  omega

theorem transferUnderlyingFrom_cash (apart : sender ≠ reserve.lTokenAddress)
    (computed : reserve.transferUnderlyingFrom spender sender reserve.lTokenAddress amount =
      .ok after) :
    SameBooks reserve after ∧ after.lToken = reserve.lToken ∧
      after.availableLiquidity = reserve.availableLiquidity + amount := by
  obtain ⟨underlying, moved, rfl⟩ := transferUnderlyingFrom_ok computed
  obtain ⟨middle, transferred, same⟩ := ERC20.transferFrom_ok moved
  refine ⟨⟨rfl, rfl, rfl⟩, rfl, ?_⟩
  rw [availableLiquidity, availableLiquidity, ← received apart transferred, same]

theorem transferUnderlyingTo_cash (apart : target ≠ reserve.lTokenAddress)
    (computed : reserve.transferUnderlyingTo target amount = .ok after) :
    SameBooks reserve after ∧ after.lToken = reserve.lToken ∧
      after.availableLiquidity + amount = reserve.availableLiquidity := by
  obtain ⟨_, underlying, moved, rfl⟩ := transferUnderlyingTo_ok computed
  exact ⟨⟨rfl, rfl, rfl⟩, rfl, spent apart moved⟩

theorem mintLToken_cash {first : Bool}
    (computed : reserve.mintLToken user amount = .ok (after, first)) :
    SameBooks reserve after ∧ after.availableLiquidity = reserve.availableLiquidity := by
  obtain ⟨_, _, rfl⟩ := mintLToken_ok computed
  exact ⟨⟨rfl, rfl, rfl⟩, rfl⟩

theorem burnLToken_cash (apart : target ≠ reserve.lTokenAddress)
    (computed : reserve.burnLToken user target amount = .ok after) :
    SameBooks reserve after ∧ after.availableLiquidity + amount = reserve.availableLiquidity := by
  obtain ⟨_, _, _, moved, rfl⟩ := burnLToken_ok computed
  exact ⟨⟨rfl, rfl, rfl⟩, spent apart moved⟩

variable {env : Env} {accrued rated : Reserve} {asset lTokenAddress : Address} {added taken : Nat}

structure Poked (env : Env) (reserve poked : Reserve) : Prop where
  current : poked.lastUpdateTimestamp = uint40 env.timestamp
  lTokenAddress : poked.lTokenAddress = reserve.lTokenAddress
  underlying : poked.underlying = reserve.underlying

theorem updateState_poked (computed : reserve.updateState env.timestamp = .ok accrued) :
    Poked env reserve accrued := by
  obtain ⟨_, _, _, run⟩ := updateState_ok computed
  rw [run.result]
  exact ⟨rfl, rfl, rfl⟩

theorem Poked.burnStableDebt {user : Address} {amount : Nat} (poked : Poked env reserve accrued)
    (computed : accrued.burnStableDebt env.timestamp user amount = .ok after) :
    Poked env reserve after := by
  obtain ⟨_, _, rfl⟩ := burnStableDebt_ok computed
  exact ⟨poked.current, poked.lTokenAddress, poked.underlying⟩

theorem Poked.burnVariableDebt {user : Address} {amount : Nat} (poked : Poked env reserve accrued)
    (computed : accrued.burnVariableDebt user amount = .ok after) : Poked env reserve after := by
  obtain ⟨_, _, rfl⟩ := burnVariableDebt_ok computed
  exact ⟨poked.current, poked.lTokenAddress, poked.underlying⟩

theorem Poked.mintStableDebt {user onBehalfOf : Address} {amount rate : Nat} {first : Bool}
    (poked : Poked env reserve accrued)
    (computed : accrued.mintStableDebt env.timestamp user onBehalfOf amount rate =
      .ok (after, first)) : Poked env reserve after := by
  obtain ⟨_, _, rfl⟩ := mintStableDebt_ok computed
  exact ⟨poked.current, poked.lTokenAddress, poked.underlying⟩

theorem Poked.mintVariableDebt {user onBehalfOf : Address} {amount : Nat} {first : Bool}
    (poked : Poked env reserve accrued)
    (computed : accrued.mintVariableDebt user onBehalfOf amount = .ok (after, first)) :
    Poked env reserve after := by
  obtain ⟨_, _, rfl⟩ := mintVariableDebt_ok computed
  exact ⟨poked.current, poked.lTokenAddress, poked.underlying⟩

theorem Poked.income {totalSupply premium : Nat} {data : ReserveData}
    (poked : Poked env reserve accrued)
    (computed : accrued.toReserveData.cumulateToLiquidityIndex totalSupply premium = .ok data) :
    Poked env reserve { accrued with toReserveData := data } := by
  obtain ⟨_, _, _, rfl⟩ := ReserveData.cumulateToLiquidityIndex_ok computed
  exact ⟨poked.current, poked.lTokenAddress, poked.underlying⟩

theorem updateInterestRates_kept
    (computed : reserve.updateInterestRates env asset lTokenAddress added taken = .ok rated) :
    rated.lTokenAddress = reserve.lTokenAddress ∧ rated.underlying = reserve.underlying := by
  obtain ⟨_, _, _, _, run⟩ := updateInterestRates_ok computed
  rw [run.result]
  exact ⟨rfl, rfl⟩

theorem Poked.cash {poked : Reserve} (was : Poked env reserve poked)
    (computed : poked.updateInterestRates env asset lTokenAddress added taken = .ok rated) :
    rated.lTokenAddress = reserve.lTokenAddress ∧
      rated.availableLiquidity = reserve.availableLiquidity := by
  obtain ⟨address, ledger⟩ := updateInterestRates_kept computed
  rw [was.lTokenAddress] at address
  rw [was.underlying] at ledger
  exact ⟨address, by rw [availableLiquidity, availableLiquidity, address, ledger]⟩

end Reserve

namespace LendingPool

variable {env : Env} {pool after : LendingPool} {account : Address}

-- Debts are minted and burned between the accrual and the new rates, and move no cash.
theorem Borrowed.poked {vars : ExecuteBorrowParams} {amountInETH : Nat}
    {accrued minted rated released : Reserve} {mode : InterestRateMode} {first : Bool}
    {config : UserConfigurationMap}
    (run : Borrowed env pool vars amountInETH accrued minted rated released mode first config
      after) : Reserve.Poked env (pool.reserves vars.asset) minted := by
  have mint := run.mint
  split_ifs at mint
  · exact (Reserve.updateState_poked run.accrue).mintStableDebt mint
  · exact (Reserve.updateState_poked run.accrue).mintVariableDebt mint

theorem Repaid.poked {msgSender asset onBehalfOf : Address} {mode : InterestRateMode}
    {amount stableDebt variableDebt payback : Nat} {accrued burned rated funded : Reserve}
    {config : UserConfigurationMap}
    (run : Repaid env pool msgSender asset amount mode onBehalfOf stableDebt variableDebt payback
      accrued burned rated funded config after) :
    Reserve.Poked env (pool.reserves asset) burned := by
  have burn := run.burn
  split_ifs at burn
  · exact (Reserve.updateState_poked run.accrue).burnStableDebt burn
  · exact (Reserve.updateState_poked run.accrue).burnVariableDebt burn

theorem Swapped.poked {msgSender asset : Address} {mode : InterestRateMode}
    {stableDebt variableDebt : Nat} {accrued burned minted rated : Reserve} {first : Bool}
    (run : Swapped env pool msgSender asset mode stableDebt variableDebt accrued burned minted rated
      first after) : Reserve.Poked env (pool.reserves asset) minted := by
  have burn := run.burn
  have mint := run.mint
  split_ifs at burn mint
  · exact ((Reserve.updateState_poked run.accrue).burnStableDebt burn).mintVariableDebt mint
  · exact ((Reserve.updateState_poked run.accrue).burnVariableDebt burn).mintStableDebt mint

def Apart (pool : LendingPool) (account : Address) : Prop :=
  ∀ asset, (pool.reserves asset).lTokenAddress ≠ 0 →
    account ≠ (pool.reserves asset).lTokenAddress

theorem Apart.evolves (apart : Apart pool account) (evolves : Evolves env pool after) :
    Apart after account := by
  intro asset listed
  have keeps := evolves.keeps asset
  rw [keeps.lTokenAddress] at listed ⊢
  exact apart asset listed

end LendingPool

namespace LendingPoolCollateralManager

theorem DebtRepaid.poked {env : Env} {pool after : LendingPool} {debtAsset user : Address}
    {actual userVariableDebt : Nat} {accrued burned rated : Reserve}
    (run : DebtRepaid env pool debtAsset user actual userVariableDebt accrued burned rated after) :
    Reserve.Poked env (pool.reserves debtAsset) burned := by
  have poked := Reserve.updateState_poked run.accrue
  rcases burnDebt_ok run.burn with ⟨_, burn⟩ | ⟨_, floating, first, second⟩
  · exact poked.burnVariableDebt burn
  · split_ifs at first
    · exact (poked.burnVariableDebt first).burnStableDebt second
    · cases first
      exact poked.burnStableDebt second

end LendingPoolCollateralManager

end PalmyProtocol
