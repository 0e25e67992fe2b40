import PalmyProtocol.Pool.InterestRates
import PalmyProtocol.System.CashFlows
import PalmyProtocol.System.StateUpdates

set_option autoImplicit false

namespace PalmyProtocol

open Checked Rounding LendingPool DefaultReserveInterestRateStrategy

namespace Reserve

variable (reserve : Reserve)

-- What the borrowers pay on their debts of the last update.
def borrowRate : Nat :=
  overallBorrowRate (reserve.stableDebtToken.supply reserve.lastUpdateTimestamp)
    (divHalfUp (reserve.variableDebtToken.base.totalSupply * reserve.variableBorrowIndex) RAY)
    reserve.currentVariableBorrowRate reserve.stableDebtToken.avgStableRate

-- The same spread over everything that is supplied, of which so much is in cash.
def supplyRate (cash : Nat) : Nat :=
  divHalfUp (reserve.borrowRate * utilizationRate cash reserve.standingDebt) RAY

-- The stored liquidity rate was computed at this reserve factor and with so much cash.
def Quoted (factor cash : Nat) : Prop :=
  reserve.currentLiquidityRate =
    divHalfUp (reserve.supplyRate cash * (PERCENTAGE_FACTOR - factor)) PERCENTAGE_FACTOR

structure SameQuote (reserve after : Reserve) : Prop where
  liquidityRate : after.currentLiquidityRate = reserve.currentLiquidityRate
  variableRate : after.currentVariableBorrowRate = reserve.currentVariableBorrowRate
  debts : after.openDebts = reserve.openDebts

variable {reserve} {env : Env} {after rated : Reserve} {factor cash cash' : Nat}
  {asset lTokenAddress : Address} {added taken : Nat}

theorem SameQuote.of_books (books : SameBooks reserve after) : SameQuote reserve after := by
  refine ⟨by rw [books.data], by rw [books.data], ?_⟩
  rw [openDebts, openDebts, books.data, books.stable, books.floating]

theorem Quoted.kept (quoted : reserve.Quoted factor cash) (same : SameQuote reserve after) :
    after.Quoted factor cash := by
  obtain ⟨liquidityRate, variableRate, debts⟩ := same
  have standing := standingDebt_congr debts
  simp only [openDebts, OpenDebts.mk.injEq] at debts
  obtain ⟨supply, rate, stamp, scaled, index, updated⟩ := debts
  have borrowRate : after.borrowRate = reserve.borrowRate := by
    simp only [Reserve.borrowRate, StableDebtToken.supply, supply, rate, stamp, scaled, index,
      updated, variableRate]
  rw [Quoted, supplyRate, liquidityRate, borrowRate, standing]
  exact quoted

theorem utilizationRate_anti {totalDebt : Nat} (more : cash ≤ cash') :
    utilizationRate cash' totalDebt ≤ utilizationRate cash totalDebt := by
  rcases Nat.eq_zero_or_pos totalDebt with rfl | owed
  · simp [utilizationRate]
  · apply divHalfUp_fraction_mono (by omega) (by omega)
    exact Nat.mul_le_mul_left _ (by omega)

theorem supplyRate_anti (more : cash ≤ cash') :
    reserve.supplyRate cash' ≤ reserve.supplyRate cash :=
  divHalfUp_mono (Nat.mul_le_mul_left _ (utilizationRate_anti more)) RAY

-- The suppliers' share of what the borrowers pay is a rate unless it rounds down to none.
theorem Quoted.rate_ne_zero_iff (quoted : reserve.Quoted factor cash) :
    reserve.currentLiquidityRate ≠ 0 ↔
      PERCENTAGE_FACTOR ≤ 2 * (reserve.supplyRate cash * (PERCENTAGE_FACTOR - factor)) := by
  rw [quoted, ← Nat.pos_iff_ne_zero, Nat.lt_iff_add_one_le, Nat.zero_add,
    le_divHalfUp (by decide)]
  have half : PERCENTAGE_FACTOR = 2 * (PERCENTAGE_FACTOR / 2) := by decide
  omega

theorem updateInterestRates_quoted (current : reserve.lastUpdateTimestamp = env.timestamp)
    (computed : reserve.updateInterestRates env asset lTokenAddress added taken = .ok after) :
    after.Quoted reserve.configuration.getReserveFactor
      (reserve.underlying.balances lTokenAddress + added - taken) := by
  obtain ⟨strategy, liquidityRate, stableRate, variableRate, run⟩ := updateInterestRates_ok computed
  obtain ⟨_, rates⟩ := calculateInterestRatesAfter_ok run.rates
  obtain ⟨_, _, rates⟩ := calculateInterestRates_ok rates
  rw [run.result]
  rw [← current] at rates
  exact rates.liquidity

def Requoted (reserve : Reserve) : Prop :=
  ∃ cash ≤ reserve.availableLiquidity, reserve.Quoted reserve.configuration.getReserveFactor cash

theorem Requoted.kept (requoted : reserve.Requoted) (books : SameBooks reserve after)
    (more : reserve.availableLiquidity ≤ after.availableLiquidity) : after.Requoted := by
  obtain ⟨cash, within, quoted⟩ := requoted
  refine ⟨cash, le_trans within more, ?_⟩
  rw [books.data]
  exact quoted.kept (.of_books books)

theorem Poked.requoted {poked : Reserve} (was : Poked env reserve poked)
    (computed : poked.updateInterestRates env asset lTokenAddress added taken = .ok rated)
    (address : lTokenAddress = reserve.lTokenAddress) (books : SameBooks rated after)
    (cash : reserve.availableLiquidity + added - taken ≤ after.availableLiquidity) :
    after.Requoted := by
  have current : poked.lastUpdateTimestamp = env.timestamp := by
    rw [was.current, uint40_of_lt env.timestamp_lt]
  have quoted := updateInterestRates_quoted current computed
  have balance : poked.underlying.balances lTokenAddress = reserve.availableLiquidity := by
    rw [was.underlying, address]
    rfl
  have same : rated.configuration = poked.configuration := by
    obtain ⟨_, _, _, _, run⟩ := updateInterestRates_ok computed
    rw [run.result]
  rw [balance] at quoted
  refine ⟨_, cash, ?_⟩
  rw [books.data, same]
  exact quoted.kept (.of_books books)

end Reserve

namespace LendingPool

variable {env : Env} {pool after : LendingPool} {msgSender asset user onBehalfOf : Address}
  {amount : Nat}

theorem Deposited.requoted {accrued rated funded minted : Reserve} {first : Bool}
    {config : UserConfigurationMap} (apart : msgSender ≠ (pool.reserves asset).lTokenAddress)
    (run : Deposited env pool msgSender asset amount onBehalfOf accrued rated funded minted first
      config after) : minted.Requoted := by
  obtain ⟨_, _, funds⟩ := Reserve.transferUnderlyingFrom_ok run.fund
  obtain ⟨_, _, mints⟩ := Reserve.mintLToken_ok run.mint
  have books : Reserve.SameBooks rated minted := by
    rw [mints, funds]
    exact ⟨rfl, rfl, rfl⟩
  exact (Reserve.updateState_poked run.accrue).requoted run.rate rfl books
    (by rw [run.cash apart, Nat.sub_zero])

theorem Withdrawn.requoted {recipient : Address} {userBalance : Nat}
    {accrued rated burned : Reserve} {config : UserConfigurationMap}
    (run : Withdrawn env pool msgSender asset recipient amount userBalance accrued rated burned
      config after) : burned.Requoted := by
  obtain ⟨_, _, _, _, burns⟩ := Reserve.burnLToken_ok run.burn
  have books : Reserve.SameBooks rated burned := by
    rw [burns]
    exact ⟨rfl, rfl, rfl⟩
  refine (Reserve.updateState_poked run.accrue).requoted run.rate rfl books ?_
  have cash := run.cash
  split_ifs at cash <;> omega

theorem Borrowed.requoted {vars : ExecuteBorrowParams} {amountInETH : Nat}
    {accrued minted rated released : Reserve} {mode : InterestRateMode} {first : Bool}
    {config : UserConfigurationMap}
    (address : vars.lTokenAddress = (pool.reserves vars.asset).lTokenAddress)
    (apart : vars.releaseUnderlying = true →
      vars.user ≠ (pool.reserves vars.asset).lTokenAddress)
    (run : Borrowed env pool vars amountInETH accrued minted rated released mode first config
      after) : released.Requoted := by
  obtain ⟨_, releases⟩ := run.released_eq
  have books : Reserve.SameBooks rated released := by
    rw [releases]
    exact ⟨rfl, rfl, rfl⟩
  refine run.poked.requoted run.rate address books ?_
  have cash := run.cash apart
  omega

theorem Repaid.requoted {mode : InterestRateMode} {stableDebt variableDebt payback : Nat}
    {accrued burned rated funded : Reserve} {config : UserConfigurationMap}
    (apart : msgSender ≠ (pool.reserves asset).lTokenAddress)
    (run : Repaid env pool msgSender asset amount mode onBehalfOf stableDebt variableDebt payback
      accrued burned rated funded config after) : funded.Requoted := by
  obtain ⟨_, _, funds⟩ := Reserve.transferUnderlyingFrom_ok run.fund
  have books : Reserve.SameBooks rated funded := by
    rw [funds]
    exact ⟨rfl, rfl, rfl⟩
  exact run.poked.requoted run.rate run.poked.lTokenAddress books
    (by rw [run.cash apart, Nat.sub_zero])

theorem Repaying.requoted {receiverAddress : Address} {entry : FlashLoanEntry} {totalSupply : Nat}
    {accrued rated funded : Reserve} {data : ReserveData}
    (address : entry.lTokenAddress = (pool.reserves entry.asset).lTokenAddress)
    (apart : receiverAddress ≠ (pool.reserves entry.asset).lTokenAddress)
    (run : Repaying env pool receiverAddress entry totalSupply accrued data rated funded after) :
    funded.Requoted := by
  obtain ⟨_, _, funds⟩ := Reserve.transferUnderlyingFrom_ok run.fund
  have books : Reserve.SameBooks rated funded := by
    rw [funds]
    exact ⟨rfl, rfl, rfl⟩
  exact ((Reserve.updateState_poked run.accrue).income run.income).requoted run.rate address books
    (by rw [run.cash address apart, Nat.sub_zero])

end LendingPool

namespace LendingPoolCollateralManager

variable {env : Env} {pool repaid seized after : LendingPool}
  {asset msgSender collateralAsset debtAsset user : Address} {receiveLToken : Bool}

-- The seized underlying is the last thing rated; else it is the debt, for the cash to come.
theorem Executed.requoted {actual userVariableDebt collateral collateralBalance : Nat}
    {config : UserConfigurationMap} {funded : Reserve}
    (apart : ∀ other, msgSender ≠ (pool.reserves other).lTokenAddress)
    (exec : Executed env pool msgSender collateralAsset debtAsset user actual userVariableDebt
      collateral collateralBalance receiveLToken repaid seized config funded after)
    (named : debtAsset = asset ∨ collateralAsset = asset ∧ receiveLToken = false) :
    (after.reserves asset).Requoted := by
  obtain ⟨_, _, rated, leg⟩ := repayDebt_ok exec.repay
  obtain ⟨_, _, funds⟩ := Reserve.transferUnderlyingFrom_ok exec.fund
  have paid : Reserve.SameBooks (seized.reserves asset) (after.reserves asset) := by
    rw [exec.result]
    by_cases pays : asset = debtAsset
    · subst pays
      rw [setReserve_same, funds]
      exact ⟨rfl, rfl, rfl⟩
    · rw [setReserve_other pays]
      exact .refl _
  have cash := exec.cash asset (apart _) (apart _)
  have rested := repayDebt_sameCash exec.repay
  have seize := exec.seize
  by_cases underlying : collateralAsset = asset ∧ receiveLToken = false
  · obtain ⟨rfl, inKind⟩ := underlying
    rw [inKind, if_neg Bool.false_ne_true] at seize
    obtain ⟨_, rerated, burned, taken⟩ := seizeUnderlying_ok seize
    obtain ⟨_, _, _, _, burns⟩ := Reserve.burnLToken_ok taken.burn
    have books : Reserve.SameBooks rerated (seized.reserves collateralAsset) := by
      rw [taken.result, setReserve_same, burns]
      exact ⟨rfl, rfl, rfl⟩
    have poked := Reserve.updateState_poked taken.accrue
    refine poked.requoted taken.rate poked.lTokenAddress (books.trans paid) ?_
    rw [(rested collateralAsset).2]
    rw [if_pos ⟨rfl, inKind⟩] at cash
    omega
  · obtain rfl : debtAsset = asset := named.resolve_right underlying
    have kept : Reserve.SameBooks rated (seized.reserves debtAsset) := by
      split_ifs at seize with receiving
      · obtain ⟨_, _, _, _, _, moved⟩ := seizeLTokens_ok seize
        rw [moved.result, setUserConfig_reserves, leg.result]
        by_cases same : debtAsset = collateralAsset
        · subst same
          rw [setReserve_same, setReserve_same]
          exact ⟨rfl, rfl, rfl⟩
        · rw [setReserve_other same, setReserve_same]
          exact .refl _
      · obtain ⟨_, _, _, taken⟩ := seizeUnderlying_ok seize
        have other : debtAsset ≠ collateralAsset := fun same =>
          underlying ⟨same.symm, Bool.eq_false_of_not_eq_true receiving⟩
        rw [taken.result, setReserve_other other, leg.result, setReserve_same]
        exact .refl _
    refine leg.poked.requoted leg.rate leg.poked.lTokenAddress (kept.trans paid) ?_
    rw [if_neg underlying, if_pos rfl] at cash
    omega

end LendingPoolCollateralManager

namespace World

variable {world next : World} {asset msgSender : Address}

theorem call_requoted {made : Call} {pool : LendingPool} (registered : world.pool.Registered)
    (listed : (world.pool.reserves asset).lTokenAddress ≠ 0)
    (outside : ¬world.pool.IsProtocol msgSender)
    (executed : made.execute world.env world.pool msgSender = .ok pool)
    (updated : made.updated world.env world.pool asset ≠ []) :
    (pool.reserves asset).Requoted := by
  have apart := registered.apart outside asset listed
  cases made with
  | deposit a =>
      obtain rfl : a = asset := of_not_not fun other => updated (if_neg other)
      obtain ⟨_, _, _, _, _, _, run⟩ := deposit_ok executed
      rw [run.result, setUserConfig_reserves, setReserve_same]
      exact run.requoted apart
  | withdraw a =>
      obtain rfl : a = asset := of_not_not fun other => updated (if_neg other)
      simp only [Call.execute, bind_eq_ok, Prod.exists, pure_eq_ok] at executed
      obtain ⟨_, _, executed, rfl⟩ := executed
      obtain ⟨_, _, _, _, _, _, run⟩ := withdraw_ok executed
      rw [run.result, setUserConfig_reserves, setReserve_same]
      exact run.requoted
  | borrow a =>
      obtain rfl : a = asset := of_not_not fun other => updated (if_neg other)
      simp only [Call.execute, LendingPool.borrow, bind_eq_ok] at executed
      obtain ⟨_, _, computed⟩ := executed
      obtain ⟨_, _, _, _, _, _, _, _, run⟩ := executeBorrow_ok computed
      rw [run.result, setUserConfig_reserves, setReserve_same]
      exact run.requoted rfl fun _ => apart
  | repay a =>
      obtain rfl : a = asset := of_not_not fun other => updated (if_neg other)
      simp only [Call.execute, bind_eq_ok, Prod.exists, pure_eq_ok] at executed
      obtain ⟨_, _, executed, rfl⟩ := executed
      obtain ⟨_, _, _, _, _, _, _, _, _, run⟩ := repay_ok executed
      rw [run.result, setUserConfig_reserves, setReserve_same]
      exact run.requoted apart
  | swapBorrowRateMode a =>
      obtain rfl : a = asset := of_not_not fun other => updated (if_neg other)
      obtain ⟨_, _, _, _, _, _, _, _, _, run⟩ := swapBorrowRateMode_ok executed
      rw [run.result, setReserve_same]
      exact run.poked.requoted run.rate run.poked.lTokenAddress (.refl _)
        (by rw [(run.poked.cash run.rate).2, Nat.add_zero, Nat.sub_zero])
  | rebalanceStableBorrowRate a =>
      obtain rfl : a = asset := of_not_not fun other => updated (if_neg other)
      obtain ⟨_, _, _, _, _, _, run⟩ := rebalanceStableBorrowRate_ok executed
      have poked := ((Reserve.updateState_poked run.accrue).burnStableDebt run.burn).mintStableDebt
        run.mint
      rw [run.result, setReserve_same]
      exact poked.requoted run.rate rfl (.refl _)
        (by rw [(poked.cash run.rate).2, Nat.add_zero, Nat.sub_zero])
  | liquidationCall collateralAsset debtAsset user debtToCover receiveLToken =>
      obtain ⟨_, _, _, _, _, _, _, run⟩ := liquidationCall_ok executed
      obtain ⟨_, _, _, _, exec⟩ := LendingPoolCollateralManager.executeLiquidation_ok run.execute
      refine exec.requoted (fun _ => liquidator_apart registered outside run) ?_
      by_contra neither
      obtain ⟨otherDebt, otherCollateral⟩ := not_or.1 neither
      exact updated (by simp only [Call.updated, if_neg otherDebt, if_neg otherCollateral,
        List.append_nil])
  | setUserUseReserveAsCollateral | transfer | transferFrom | approve | increaseAllowance
  | decreaseAllowance | approveStableDelegation | approveVariableDelegation =>
      exact absurd rfl updated

end World

theorem Call.leaves_of_quiet {env : Env} {pool after : LendingPool} {msgSender asset : Address}
    {call : Call} (computed : call.execute env pool msgSender = .ok after)
    (quiet : call.updated env pool asset = []) :
    call.Leaves asset ∧ ∀ user, call ≠ .rebalanceStableBorrowRate asset user := by
  cases call with
  | deposit a | withdraw a | borrow a | repay a | swapBorrowRateMode a =>
      exact ⟨fun same => by simp [updated, same] at quiet, by simp⟩
  | rebalanceStableBorrowRate a =>
      refine ⟨trivial, ?_⟩
      rintro user ⟨⟩
      simp [updated] at quiet
  | liquidationCall collateralAsset debtAsset user debtToCover receiveLToken =>
      obtain ⟨_, _, _, _, _, _, _, run⟩ := liquidationCall_ok computed
      obtain ⟨_, _, _, _, _, middle, _⟩ := run.repaidPool
      simp only [updated, middle, List.append_eq_nil_iff] at quiet
      obtain ⟨debt, collateral⟩ := quiet
      refine ⟨⟨fun same => by simp [same] at debt, fun same => ?_⟩, by simp⟩
      by_contra underlying
      simp [same, underlying] at collateral
  | _ => exact ⟨trivial, by simp⟩

end PalmyProtocol
