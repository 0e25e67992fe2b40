import PalmyProtocol.Pool.ReserveCash
import PalmyProtocol.System.FlashLoans

set_option autoImplicit false

namespace PalmyProtocol

open Checked Rounding LendingPool

def Reserve.ratesNow (env : Env) (asset : Address) (reserve : Reserve) : Result (Nat × Nat × Nat) := do
  let (totalStableDebt, averageStableRate) ←
    reserve.stableDebtToken.getTotalSupplyAndAvgRate env.timestamp
  let totalVariableDebt ←
    reserve.variableDebtToken.totalSupply (reserve.getNormalizedDebt env.timestamp)
  match reserve.interestRateStrategyAddress with
  | none => .error noMessage
  | some strategy =>
    strategy.calculateInterestRates (env.getMarketBorrowRate asset) reserve.availableLiquidity
      totalStableDebt totalVariableDebt averageStableRate reserve.configuration.getReserveFactor

def Reserve.RatesMatch (env : Env) (asset : Address) (reserve : Reserve) : Prop :=
  reserve.ratesNow env asset = .ok (reserve.currentLiquidityRate, reserve.currentStableBorrowRate,
    reserve.currentVariableBorrowRate)

namespace Reserve

variable {env : Env} {reserve rated after : Reserve} {asset lTokenAddress : Address}
variable {added taken : Nat}

theorem ratesMatch_of_rated
    (computed : reserve.updateInterestRates env asset lTokenAddress added taken = .ok rated)
    (current : reserve.lastUpdateTimestamp = uint40 env.timestamp)
    (books : SameBooks rated after)
    (cash : after.availableLiquidity + taken = reserve.underlying.balances lTokenAddress + added) :
    RatesMatch env asset after := by
  simp only [updateInterestRates, bind_eq_ok, Prod.exists] at computed
  obtain ⟨totalStableDebt, averageStableRate, stable, totalVariableDebt, floating, announced⟩ :=
    computed
  cases chosen : reserve.interestRateStrategyAddress with
  | none => simp [chosen] at announced
  | some strategy =>
      simp only [chosen, bind_eq_ok, Prod.exists, require_eq_ok, exists_const,
        pure_eq_ok] at announced
      obtain ⟨liquidityRate, stableRate, variableRate, rates, _, _, _, rfl⟩ := announced
      obtain ⟨_, rates⟩ :=
        DefaultReserveInterestRateStrategy.calculateInterestRatesAfter_ok rates
      have balance : reserve.underlying.balances lTokenAddress + added - taken =
          after.availableLiquidity := by omega
      rw [balance] at rates
      have view : after.getNormalizedDebt env.timestamp = .ok reserve.variableBorrowIndex := by
        rw [books.data]
        simp [ReserveData.getNormalizedDebt, current]
      have debt : after.variableDebtToken.totalSupply (after.getNormalizedDebt env.timestamp) =
          .ok totalVariableDebt := by
        rw [view, books.floating, VariableDebtToken.totalSupply, ok_bind]
        exact floating
      rw [RatesMatch, ratesNow, debt, books.stable]
      simp only [bind_eq_ok, Prod.exists]
      refine ⟨totalStableDebt, averageStableRate, stable, totalVariableDebt, rfl, ?_⟩
      rw [books.data]
      exact rates

theorem Poked.ratesMatch {poked : Reserve} (was : Poked env reserve poked)
    (computed : poked.updateInterestRates env asset lTokenAddress added taken = .ok rated)
    (address : lTokenAddress = reserve.lTokenAddress) (books : SameBooks rated after)
    (cash : after.availableLiquidity + taken = reserve.availableLiquidity + added) :
    RatesMatch env asset after := by
  refine ratesMatch_of_rated computed was.current books ?_
  rw [cash, was.underlying, address]
  rfl

end Reserve

namespace LendingPool

variable {env : Env} {pool after : LendingPool} {msgSender asset user onBehalfOf : Address}
variable {amount : Nat}

theorem deposit_ratesMatch (apart : msgSender ≠ (pool.reserves asset).lTokenAddress)
    (computed : pool.deposit env msgSender asset amount onBehalfOf = .ok after) :
    (after.reserves asset).RatesMatch env asset := by
  obtain ⟨accrued, rated, funded, minted, first, config, run⟩ := deposit_ok computed
  have poked := Reserve.updateState_poked run.accrue
  obtain ⟨address, cash⟩ := poked.cash run.rate
  have fund := run.fund
  rw [← address] at fund apart
  obtain ⟨fundBooks, _, fundCash⟩ := Reserve.transferUnderlyingFrom_cash apart fund
  obtain ⟨mintBooks, mintCash⟩ := Reserve.mintLToken_cash run.mint
  rw [run.result, setUserConfig_reserves, setReserve_same]
  refine poked.ratesMatch run.rate rfl (fundBooks.trans mintBooks) ?_
  omega

theorem withdraw_ratesMatch {recipient : Address} {withdrawn : Nat}
    (apart : recipient ≠ (pool.reserves asset).lTokenAddress)
    (computed : pool.withdraw env msgSender asset amount recipient = .ok (after, withdrawn)) :
    (after.reserves asset).RatesMatch env asset := by
  obtain ⟨_, accrued, rated, burned, config, _, run⟩ := withdraw_ok computed
  have poked := Reserve.updateState_poked run.accrue
  obtain ⟨address, cash⟩ := poked.cash run.rate
  rw [← address] at apart
  obtain ⟨burnBooks, burnCash⟩ := Reserve.burnLToken_cash apart run.burn
  rw [run.result, setUserConfig_reserves, setReserve_same]
  refine poked.ratesMatch run.rate rfl burnBooks ?_
  omega

theorem executeBorrow_ratesMatch {vars : ExecuteBorrowParams}
    (address : vars.lTokenAddress = (pool.reserves vars.asset).lTokenAddress)
    (apart : vars.releaseUnderlying = true →
      vars.user ≠ (pool.reserves vars.asset).lTokenAddress)
    (computed : pool.executeBorrow env vars = .ok after) :
    (after.reserves vars.asset).RatesMatch env vars.asset := by
  obtain ⟨_, accrued, minted, rated, released, mode, first, config, run⟩ :=
    executeBorrow_ok computed
  have poked := run.poked
  obtain ⟨same, cash⟩ := poked.cash run.rate
  rw [run.result, setUserConfig_reserves, setReserve_same]
  have release := run.release
  cases releasing : vars.releaseUnderlying with
  | true =>
      have target := apart releasing
      rw [← same] at target
      rw [if_pos releasing] at release
      obtain ⟨books, _, releasedCash⟩ := Reserve.transferUnderlyingTo_cash target release
      refine poked.ratesMatch run.rate address books ?_
      rw [if_pos releasing]
      omega
  | false =>
      have idle : ¬vars.releaseUnderlying = true := by simp [releasing]
      rw [if_neg idle] at release
      cases release
      refine poked.ratesMatch run.rate address (.refl _) ?_
      rw [if_neg idle]
      omega

theorem repay_ratesMatch {rateMode payback : Nat}
    (apart : msgSender ≠ (pool.reserves asset).lTokenAddress)
    (computed : pool.repay env msgSender asset amount rateMode onBehalfOf = .ok (after, payback)) :
    (after.reserves asset).RatesMatch env asset := by
  obtain ⟨mode, _, _, accrued, burned, rated, funded, config, _, run⟩ := repay_ok computed
  have poked := run.poked
  obtain ⟨address, cash⟩ := poked.cash run.rate
  have fund := run.fund
  rw [poked.lTokenAddress, ← address] at fund
  rw [← address] at apart
  obtain ⟨books, _, fundCash⟩ := Reserve.transferUnderlyingFrom_cash apart fund
  rw [run.result, setUserConfig_reserves, setReserve_same]
  refine poked.ratesMatch run.rate poked.lTokenAddress books ?_
  omega

theorem swapBorrowRateMode_ratesMatch {rateMode : Nat}
    (computed : pool.swapBorrowRateMode env msgSender asset rateMode = .ok after) :
    (after.reserves asset).RatesMatch env asset := by
  obtain ⟨mode, _, _, accrued, burned, minted, rated, first, _, run⟩ :=
    swapBorrowRateMode_ok computed
  have poked := run.poked
  obtain ⟨_, cash⟩ := poked.cash run.rate
  rw [run.result, setReserve_same]
  exact poked.ratesMatch run.rate poked.lTokenAddress (.refl _) (by omega)

theorem rebalanceStableBorrowRate_ratesMatch
    (computed : pool.rebalanceStableBorrowRate env asset user = .ok after) :
    (after.reserves asset).RatesMatch env asset := by
  obtain ⟨_, accrued, burned, minted, rated, first, run⟩ := rebalanceStableBorrowRate_ok computed
  have poked := ((Reserve.updateState_poked run.accrue).burnStableDebt run.burn).mintStableDebt
    run.mint
  obtain ⟨_, cash⟩ := poked.cash run.rate
  rw [run.result, setReserve_same]
  exact poked.ratesMatch run.rate rfl (.refl _) (by omega)

open LendingPoolCollateralManager in
theorem repayDebt_rates {debtAsset : Address} {actual userVariableDebt : Nat} {repaid : LendingPool}
    (computed : repayDebt env pool debtAsset user actual userVariableDebt = .ok repaid) :
    ∃ poked rated, Reserve.Poked env (pool.reserves debtAsset) poked ∧
      poked.updateInterestRates env debtAsset poked.lTokenAddress actual 0 = .ok rated ∧
      repaid = pool.setReserve debtAsset rated := by
  obtain ⟨accrued, burned, rated, run⟩ := repayDebt_ok computed
  exact ⟨burned, rated, run.poked, run.rate, run.result⟩

-- The reserve of the debt is rated before its cash arrives; what happens to it in between is what
-- may break the announcement.
theorem liquidated_ratesMatch {poked rated funded : Reserve} {seized : LendingPool}
    {debtAsset : Address} {actual : Nat} (apart : msgSender ≠ (pool.reserves debtAsset).lTokenAddress)
    (was : Reserve.Poked env (pool.reserves debtAsset) poked)
    (rate : poked.updateInterestRates env debtAsset poked.lTokenAddress actual 0 = .ok rated)
    (books : Reserve.SameBooks rated (seized.reserves debtAsset))
    (kept : (seized.reserves debtAsset).availableLiquidity = rated.availableLiquidity)
    (fund : (seized.reserves debtAsset).transferUnderlyingFrom seized.self msgSender
      (seized.reserves debtAsset).lTokenAddress actual = .ok funded) :
    funded.RatesMatch env debtAsset := by
  obtain ⟨address, cash⟩ := was.cash rate
  have there : (seized.reserves debtAsset).lTokenAddress =
      (pool.reserves debtAsset).lTokenAddress := by rw [books.data, address]
  rw [← there] at apart
  obtain ⟨fundBooks, _, fundCash⟩ := Reserve.transferUnderlyingFrom_cash apart fund
  refine was.ratesMatch rate was.lTokenAddress (books.trans fundBooks) ?_
  omega

open LendingPoolCollateralManager in
theorem liquidationCall_ratesMatch {collateralAsset debtAsset : Address} {debtToCover : Nat}
    {receiveLToken : Bool} (apart : Apart pool msgSender) (registered : Registered pool)
    (separate : ¬(collateralAsset = debtAsset ∧ receiveLToken = false))
    (computed : pool.liquidationCall env msgSender collateralAsset debtAsset user debtToCover
      receiveLToken = .ok after) :
    (after.reserves debtAsset).RatesMatch env debtAsset ∧
      (receiveLToken = false → (after.reserves collateralAsset).RatesMatch env collateralAsset) := by
  obtain ⟨_, _, _, _, _, _, _, run⟩ := liquidationCall_ok computed
  obtain ⟨repaid, seized, config, funded, exec⟩ := executeLiquidation_ok run.execute
  obtain ⟨_, _, _, debtLeg⟩ := repayDebt_ok exec.repay
  have debtListed := registered.updateState_listed debtLeg.accrue
  obtain ⟨poked, rated, was, rate, shape⟩ := repayDebt_rates exec.repay
  have seize := exec.seize
  rw [exec.result, setReserve_same]
  cases receiving : receiveLToken with
  | true =>
      rw [if_pos receiving] at seize
      obtain ⟨_, _, _, lToken, _, leg⟩ := seizeLTokens_ok seize
      refine ⟨?_, fun not => absurd not (by simp)⟩
      refine liquidated_ratesMatch (apart _ debtListed) was rate ?_ ?_ exec.fund
      · rw [leg.result, shape, setUserConfig_reserves]
        by_cases same : debtAsset = collateralAsset
        · subst same
          rw [setReserve_same, setReserve_same]
          exact ⟨rfl, rfl, rfl⟩
        · rw [setReserve_other same, setReserve_same]
          exact .refl _
      · rw [leg.result, shape, setUserConfig_reserves]
        by_cases same : debtAsset = collateralAsset
        · subst same
          rw [setReserve_same, setReserve_same]
          rfl
        · rw [setReserve_other same, setReserve_same]
  | false =>
      have different : collateralAsset ≠ debtAsset := fun same => separate ⟨same, receiving⟩
      rw [if_neg (by simp [receiving])] at seize
      obtain ⟨accrued, rated', burned, leg⟩ := seizeUnderlying_ok seize
      have untouched : repaid.reserves collateralAsset = pool.reserves collateralAsset := by
        rw [shape, setReserve_other different]
      have still : seized.reserves debtAsset = rated := by
        rw [leg.result, setReserve_other (Ne.symm different), shape, setReserve_same]
      constructor
      · refine liquidated_ratesMatch (apart _ debtListed) was rate ?_ ?_ exec.fund
        · rw [still]
          exact .refl _
        · rw [still]
      · intro _
        have accrue := leg.accrue
        rw [untouched] at accrue
        have collateralListed := registered.updateState_listed accrue
        have poked' := Reserve.updateState_poked accrue
        obtain ⟨address, cash⟩ := poked'.cash leg.rate
        have target := apart _ collateralListed
        rw [← address] at target
        obtain ⟨books, burnCash⟩ := Reserve.burnLToken_cash target leg.burn
        rw [setReserve_other different, setUserConfig_reserves, leg.result, setReserve_same]
        refine poked'.ratesMatch leg.rate poked'.lTokenAddress books ?_
        omega

end LendingPool

namespace Call

def recomputed : Call → List Address
  | deposit asset _ _ | withdraw asset _ _ | borrow asset _ _ _ | repay asset _ _ _
  | swapBorrowRateMode asset _ | rebalanceStableBorrowRate asset _ => [asset]
  | liquidationCall collateralAsset debtAsset _ _ receiveLToken =>
    if receiveLToken then [debtAsset] else [debtAsset, collateralAsset]
  | _ => []

def SeizesDebtAsset : Call → Prop
  | liquidationCall collateralAsset debtAsset _ _ receiveLToken =>
    collateralAsset = debtAsset ∧ receiveLToken = false
  | _ => False

def WithdrawsToLToken (pool : LendingPool) : Call → Prop
  | withdraw asset _ recipient => recipient = (pool.reserves asset).lTokenAddress
  | _ => False

variable {env : Env} {pool after : LendingPool} {msgSender : Address}

theorem execute_ratesMatch {call : Call} (registered : Registered pool) (apart : Apart pool msgSender)
    (outward : ¬call.WithdrawsToLToken pool) (separate : ¬call.SeizesDebtAsset)
    (computed : call.execute env pool msgSender = .ok after) :
    ∀ asset ∈ call.recomputed, (after.reserves asset).RatesMatch env asset := by
  cases call with
  | deposit asset =>
      obtain ⟨_, _, _, _, _, _, run⟩ := deposit_ok computed
      simp only [recomputed, List.mem_singleton, forall_eq]
      exact deposit_ratesMatch (apart asset (registered.updateState_listed run.accrue)) computed
  | withdraw asset =>
      simp only [execute, bind_eq_ok, Prod.exists, pure_eq_ok] at computed
      obtain ⟨_, _, computed, rfl⟩ := computed
      simp only [recomputed, List.mem_singleton, forall_eq]
      exact withdraw_ratesMatch outward computed
  | borrow asset =>
      simp only [execute, LendingPool.borrow, bind_eq_ok] at computed
      obtain ⟨_, _, computed⟩ := computed
      obtain ⟨_, _, _, _, _, _, _, _, run⟩ := executeBorrow_ok computed
      simp only [recomputed, List.mem_singleton, forall_eq]
      exact executeBorrow_ratesMatch rfl
        (fun _ => apart asset (registered.updateState_listed run.accrue)) computed
  | repay asset =>
      simp only [execute, bind_eq_ok, Prod.exists, pure_eq_ok] at computed
      obtain ⟨_, _, computed, rfl⟩ := computed
      obtain ⟨_, _, _, _, _, _, _, _, _, run⟩ := repay_ok computed
      simp only [recomputed, List.mem_singleton, forall_eq]
      exact repay_ratesMatch (apart asset (registered.updateState_listed run.accrue)) computed
  | swapBorrowRateMode =>
      simp only [recomputed, List.mem_singleton, forall_eq]
      exact swapBorrowRateMode_ratesMatch computed
  | rebalanceStableBorrowRate =>
      simp only [recomputed, List.mem_singleton, forall_eq]
      exact rebalanceStableBorrowRate_ratesMatch computed
  | liquidationCall collateralAsset debtAsset user debtToCover receiveLToken =>
      obtain ⟨debt, collateral⟩ := liquidationCall_ratesMatch apart registered separate computed
      cases receiveLToken with
      | true => simpa [recomputed] using debt
      | false => simpa [recomputed] using ⟨debt, collateral rfl⟩
  | setUserUseReserveAsCollateral | transfer | transferFrom | approve | increaseAllowance
  | decreaseAllowance | approveStableDelegation | approveVariableDelegation =>
      simp [recomputed]

end Call

namespace LendingPool

variable {env : Env} {pool after : LendingPool} {msgSender receiverAddress onBehalfOf : Address}

theorem settleFlashLoan_ratesMatch {entry : FlashLoanEntry} (registered : Registered pool)
    (apart : Apart pool receiverAddress)
    (address : entry.lTokenAddress = (pool.reserves entry.asset).lTokenAddress)
    (computed : pool.settleFlashLoan env receiverAddress msgSender onBehalfOf entry = .ok after) :
    (after.reserves entry.asset).RatesMatch env entry.asset ∧
      ∀ asset, asset ≠ entry.asset → after.reserves asset = pool.reserves asset := by
  obtain ⟨_, _, _, _, ⟨_, _, accrued, data, rated, funded, run⟩ | ⟨_, borrowed⟩⟩ :=
    settleFlashLoan_ok computed
  · have poked := (Reserve.updateState_poked run.accrue).income run.income
    obtain ⟨same, cash⟩ := poked.cash run.rate
    have sender := apart _ (registered.updateState_listed run.accrue)
    have fund := run.fund
    rw [address, ← same] at fund
    rw [← same] at sender
    obtain ⟨books, _, fundCash⟩ := Reserve.transferUnderlyingFrom_cash sender fund
    rw [run.result]
    refine ⟨?_, fun asset different => setReserve_other different⟩
    rw [setReserve_same]
    refine poked.ratesMatch run.rate address books ?_
    omega
  · refine ⟨executeBorrow_ratesMatch address (fun releasing => absurd releasing (by simp)) borrowed,
      ?_⟩
    intro asset different
    obtain ⟨_, _, _, _, _, _, _, _, run⟩ := executeBorrow_ok borrowed
    rw [run.result, setUserConfig_reserves, setReserve_other different]

theorem settleFlashLoans_ratesMatch (settled : Address → Prop) {entries : List FlashLoanEntry}
    (registered : Registered pool) (apart : Apart pool receiverAddress)
    (addresses : ∀ entry ∈ entries,
      entry.lTokenAddress = (pool.reserves entry.asset).lTokenAddress)
    (before : ∀ asset, settled asset → (pool.reserves asset).RatesMatch env asset)
    (computed : settleFlashLoans env receiverAddress msgSender onBehalfOf pool entries = .ok after)
    (asset : Address) (named : settled asset ∨ asset ∈ entries.map (fun entry => entry.asset)) :
    (after.reserves asset).RatesMatch env asset := by
  induction entries generalizing pool settled with
  | nil =>
      cases computed
      simpa using before asset (by simpa using named)
  | cons entry rest ih =>
      obtain ⟨middle, first, later⟩ := settleFlashLoans_cons.1 computed
      have evolves := (settleFlashLoan_operates first).evolves
      have here := addresses entry (List.mem_cons_self ..)
      obtain ⟨rated, others⟩ := settleFlashLoan_ratesMatch registered apart here first
      refine ih (fun a => settled a ∨ a = entry.asset) (registered.evolves evolves)
        (apart.evolves evolves) ?_ ?_ later ?_
      · intro entry' member
        rw [addresses entry' (List.mem_cons_of_mem _ member)]
        exact (evolves.keeps _).lTokenAddress.symm
      · intro a done
        by_cases same : a = entry.asset
        · rw [same]
          exact rated
        · rw [others a same]
          exact before a (done.resolve_right same)
      · rcases named with done | member
        · exact .inl (.inl done)
        · rw [List.map_cons, List.mem_cons] at member
          exact member.elim (fun same => .inl (.inr same)) .inr

end LendingPool

def Event.IsTraffic : Event → Prop
  | .ledger _ _ | .observe _ => True
  | _ => False

namespace World

variable {world next : World}

theorem traffic_step {event : Event} (traffic : event.IsTraffic)
    (taken : world.step event = .ok next) :
    next.frames = world.frames ∧ Evolves world.env world.pool next.pool := by
  cases event with
  | ledger =>
      obtain ⟨kept, rfl⟩ := step_ledger taken
      exact ⟨rfl, evolves_setReserve (.single (.ledger kept))⟩
  | observe =>
      obtain ⟨_, _, rfl⟩ := step_observe taken
      exact ⟨rfl, .refl _⟩
  | call | admin | flashLoan | executed | settle | finish => exact traffic.elim

structure Lending (frame : Frame) (rest : List Frame) (world : World) : Prop where
  stack : world.frames = frame :: rest
  registered : world.pool.Registered
  apart : world.pool.Apart frame.receiverAddress
  addresses : ∀ entry ∈ frame.pending,
    entry.lTokenAddress = (world.pool.reserves entry.asset).lTokenAddress

theorem Lending.traffic {frame : Frame} {rest : List Frame} {event : Event}
    (lending : Lending frame rest world) (traffic : event.IsTraffic)
    (taken : world.step event = .ok next) : Lending frame rest next := by
  obtain ⟨frames, evolves⟩ := traffic_step traffic taken
  refine ⟨frames.trans lending.stack, lending.registered.evolves evolves,
    lending.apart.evolves evolves, fun entry member => ?_⟩
  rw [lending.addresses entry member]
  exact (evolves.keeps _).lTokenAddress.symm

theorem flashLoan_ratesMatch {msgSender receiverAddress onBehalfOf : Address}
    {assets : List Address} {amounts modes : List Nat} {callback : List Event} {n : Nat}
    (registered : world.pool.Registered) (traffic : ∀ event ∈ callback, event.IsTraffic)
    (ran : Runs.run step world (.flashLoan msgSender receiverAddress assets amounts modes onBehalfOf ::
      callback ++ settlement n) = .ok next) (asset : Address) (named : asset ∈ assets) :
    (next.pool.reserves asset).RatesMatch next.env asset := by
  rw [List.cons_append] at ran
  obtain ⟨lent, opening, later⟩ := Runs.run_cons_ok.1 ran
  rw [Runs.run_append, bind_eq_ok] at later
  obtain ⟨returned, called, closing⟩ := later
  obtain ⟨pool, pending, run⟩ := step_flashLoan opening
  have evolves : Evolves world.env world.pool pool := (openFlashLoan_operates run.opened).evolves
  obtain ⟨requested, addresses⟩ := openFlashLoan_entries run.opened
  have lending : Lending ⟨receiverAddress, msgSender, onBehalfOf, pending, false⟩ world.frames
      lent := by
    rw [run.result]
    refine ⟨rfl, registered.evolves evolves, (registered.apart run.receiver).evolves evolves,
      fun entry member => ?_⟩
    rw [addresses entry member]
    exact (evolves.keeps _).lTokenAddress.symm
  have still := Runs.run_invariant_of (Lending _ _) (fun _ event => event.IsTraffic)
    (fun _ _ _ lending traffic taken => Lending.traffic lending traffic taken) lending
    (fun before event after _ split _ => traffic event (by simp [split])) called
  obtain ⟨settled, env, _⟩ := run_settlement still.stack closing
  rw [env]
  refine settleFlashLoans_ratesMatch (fun _ => False) still.registered still.apart
    still.addresses (fun _ done => done.elim) settled asset (.inr ?_)
  have named' : pending.map (fun entry => entry.asset) = assets := by
    have projected := congrArg (List.map fun request => request.1) requested
    rw [List.map_map, flashLoanRequests_assets run.lengths] at projected
    exact projected
  rw [named']
  exact named

/-- From any reachable state, every call but a liquidation that pays out the asset it is paid in,
and every flash loan whose receiver makes no calls, leaves the rates it recomputed matching. -/
theorem Reachable.rates_match (reached : world.Reachable) :
    (∀ msgSender call next, world.step (.call msgSender call) = .ok next →
      ¬call.WithdrawsToLToken world.pool → ¬call.SeizesDebtAsset →
      ∀ asset ∈ call.recomputed, (next.pool.reserves asset).RatesMatch next.env asset) ∧
    ∀ msgSender receiverAddress assets amounts modes onBehalfOf callback n next,
      Runs.run step world (.flashLoan msgSender receiverAddress assets amounts modes onBehalfOf ::
        callback ++ settlement n) = .ok next →
      (∀ event ∈ callback, event.IsTraffic) →
      ∀ asset ∈ assets, (next.pool.reserves asset).RatesMatch next.env asset := by
  have registered := reached.registered
  constructor
  · intro msgSender call next taken outward separate asset recomputed
    obtain ⟨_, outside, pool, executed, rfl⟩ := step_call taken
    exact Call.execute_ratesMatch registered (registered.apart outside) outward separate executed
      asset recomputed
  · intro msgSender receiverAddress assets amounts modes onBehalfOf callback n next ran traffic asset
      named
    exact flashLoan_ratesMatch registered traffic ran asset named

-- A variable debt in the asset that is also collateral, until the other collateral loses its value.
def falling : List Event :=
  Market.opening 10 Market.strategy ++ Market.opening 20 Market.strategy ++
    [.call 100 (.deposit 10 (100 * WAD) 100), .call 101 (.deposit 10 (10 * WAD) 101),
      .call 101 (.deposit 20 (100 * WAD) 101), .call 101 (.borrow 10 (60 * WAD) 2 101),
      .observe { Market.env 2 Market.second_in_time with
        getAssetPrice := fun asset => .ok (if asset = 20 then WAD / 10 else WAD) }]

def covering (collateralAsset : Address) : Call :=
  .liquidationCall collateralAsset 10 101 (5 * WAD) false

-- Two loans of one asset, and meanwhile somebody sends the lToken of the other one some of it.
def doubleLoan : List Event :=
  .flashLoan 102 103 [10, 10] [WAD, WAD] [0, 0] 102 ::
    [.ledger 20 { Market.ledger with balances := fun _ => 10 ^ 30 }] ++ settlement 2

theorem rates_match_falling :
    ∃ world liquidated repaid : World, Runs.run step Market.start falling = .ok world ∧
      world.step (.call 102 (covering 20)) = .ok liquidated ∧
      Runs.run step world doubleLoan = .ok repaid ∧
      (liquidated.pool.reserves 10).RatesMatch liquidated.env 10 ∧
      (liquidated.pool.reserves 20).RatesMatch liquidated.env 20 ∧
      (repaid.pool.reserves 10).RatesMatch repaid.env 10 := by
  have outcome : yields (Runs.run step Market.start falling) (fun world =>
      yields (world.step (.call 102 (covering 20))) (fun _ => true) &&
        yields (Runs.run step world doubleLoan) (fun _ => true)) := by
    decide +kernel
  obtain ⟨world, ran, both⟩ := yields_iff.1 outcome
  obtain ⟨first, second⟩ := (Bool.and_eq_true _ _).mp both
  obtain ⟨liquidated, taken, _⟩ := yields_iff.1 first
  obtain ⟨repaid, looped, _⟩ := yields_iff.1 second
  obtain ⟨calls, loans⟩ := Reachable.rates_match (Market.reachable_of_run ran)
  have outward : ¬(covering 20).WithdrawsToLToken world.pool := id
  have separate : ¬(covering 20).SeizesDebtAsset := fun ⟨same, _⟩ => absurd same (by decide)
  have named := calls 102 (covering 20) liquidated taken outward separate
  refine ⟨world, liquidated, repaid, ran, taken, looped, named 10 ?_, named 20 ?_,
    loans _ _ _ _ _ _ _ _ _ looped ?_ 10 ?_⟩
  · simp [covering, Call.recomputed]
  · simp [covering, Call.recomputed]
  · simp [Event.IsTraffic]
  · simp

-- Paid out of the reserve it is paid into: the rates forget the payment.
theorem rates_mismatch_falling :
    ¬∀ (world next : World) (msgSender : Address) (call : Call), world.Reachable →
      world.frames = [] → world.step (.call msgSender call) = .ok next →
      ¬call.WithdrawsToLToken world.pool →
      ∀ asset ∈ call.recomputed, (next.pool.reserves asset).RatesMatch next.env asset := by
  intro every
  have outcome : yields (Runs.run step Market.start falling) (fun world =>
      world.frames.isEmpty && yields (world.step (.call 102 (covering 10))) (fun next =>
        yields ((next.pool.reserves 10).ratesNow next.env 10) (fun rates =>
          rates.1 ≠ (next.pool.reserves 10).currentLiquidityRate))) := by
    decide +kernel
  obtain ⟨world, ran, facts⟩ := yields_iff.1 outcome
  obtain ⟨quiet, later⟩ := (Bool.and_eq_true _ _).mp facts
  obtain ⟨next, taken, view⟩ := yields_iff.1 later
  obtain ⟨rates, computed, different⟩ := yields_iff.1 view
  have matched := every world next 102 (covering 10) (Market.reachable_of_run ran)
    (List.isEmpty_iff.1 quiet) taken id 10 (by simp [covering, Call.recomputed])
  rw [Reserve.RatesMatch, computed] at matched
  cases matched
  exact of_decide_eq_true different rfl

end World

end PalmyProtocol
