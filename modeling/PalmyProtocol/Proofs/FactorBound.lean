import PalmyProtocol.Pool.InterestRates
import PalmyProtocol.Proofs.SoundConfiguration

set_option autoImplicit false

namespace PalmyProtocol

open Checked Rounding

namespace DefaultReserveInterestRateStrategy

variable {strategy : DefaultReserveInterestRateStrategy} {market : Result Nat} {balance
  liquidityAdded liquidityTaken totalStableDebt totalVariableDebt averageStableRate
  factor liquidityR stableR variableR : Nat}

theorem calculateInterestRatesAfter_levied (part : factor ≤ PERCENTAGE_FACTOR)
    (computed : strategy.calculateInterestRatesAfter market balance liquidityAdded liquidityTaken
      totalStableDebt totalVariableDebt averageStableRate 0 = .ok (liquidityR, stableR, variableR)) :
    ∃ liquidityR' ≤ liquidityR, strategy.calculateInterestRatesAfter market balance liquidityAdded
      liquidityTaken totalStableDebt totalVariableDebt averageStableRate factor =
        .ok (liquidityR', stableR, variableR) := by
  simp only [calculateInterestRatesAfter, calculateInterestRates, bind_eq_ok, SafeMath.sub_eq_ok,
    percentMul_eq_ok, pure_eq_ok, Prod.exists, Prod.mk.injEq] at computed ⊢
  obtain ⟨_, raised, _, taken, _, debt, _, utilized, _, quoted, _, _, borrowed, _, overall, income,
    earned, _, ⟨_, rfl⟩, _, ⟨fits, rfl⟩, rfl, rfl, rfl⟩ := computed
  have less : income * (PERCENTAGE_FACTOR - factor) ≤ income * (PERCENTAGE_FACTOR - 0) :=
    Nat.mul_le_mul_left income (Nat.sub_le_sub_left (Nat.zero_le factor) _)
  refine ⟨_, divHalfUp_mono less _, _, raised, _, taken, _, debt, _, utilized, _, quoted, _, _,
    borrowed, _, overall, income, earned, _, ⟨part, rfl⟩, _, ⟨?_, rfl⟩, rfl, rfl, rfl⟩
  exact le_trans (Nat.add_le_add_right less _) fits

end DefaultReserveInterestRateStrategy

namespace Reserve

variable {reserve after : Reserve} {env : Env} {asset lTokenAddress : Address}
  {liquidityAdded liquidityTaken : Nat}

theorem updateInterestRates_part
    (computed : reserve.updateInterestRates env asset lTokenAddress liquidityAdded liquidityTaken =
      .ok after) : reserve.configuration.getReserveFactor ≤ PERCENTAGE_FACTOR := by
  obtain ⟨_, _, _, _, run⟩ := updateInterestRates_ok computed
  obtain ⟨_, rates⟩ := DefaultReserveInterestRateStrategy.calculateInterestRatesAfter_ok run.rates
  obtain ⟨_, _, computed⟩ := DefaultReserveInterestRateStrategy.calculateInterestRates_ok rates
  exact computed.factor

theorem updateInterestRates_levied {configuration : ReserveConfigurationMap}
    (part : configuration.getReserveFactor ≤ PERCENTAGE_FACTOR)
    (computed : { reserve with configuration := ⟨0⟩ }.updateInterestRates env asset lTokenAddress
      liquidityAdded liquidityTaken = .ok after) :
    ∃ after', { reserve with configuration }.updateInterestRates env asset lTokenAddress
      liquidityAdded liquidityTaken = .ok after' := by
  simp only [updateInterestRates, bind_eq_ok, Prod.exists] at computed ⊢
  obtain ⟨totalStableDebt, average, viewed, totalVariableDebt, scaled, rated⟩ := computed
  cases chosen : reserve.interestRateStrategyAddress with
  | none => simp [chosen] at rated
  | some strategy =>
      simp only [chosen, bind_eq_ok, Prod.exists, require_eq_ok, exists_const, pure_eq_ok] at rated
      obtain ⟨liquidityR, stableR, variableR, rates, liquidity, stable, floating, rfl⟩ := rated
      obtain ⟨liquidityR', less, rates'⟩ :=
        DefaultReserveInterestRateStrategy.calculateInterestRatesAfter_levied part rates
      refine ⟨{ reserve with
        configuration
        interestRateStrategyAddress := some strategy
        currentLiquidityRate := liquidityR'
        currentStableBorrowRate := stableR
        currentVariableBorrowRate := variableR },
        totalStableDebt, average, viewed, totalVariableDebt, scaled, ?_⟩
      simp only [bind_eq_ok, Prod.exists, require_eq_ok, exists_const, pure_eq_ok]
      exact ⟨liquidityR', stableR, variableR, rates', le_trans less liquidity, stable, floating, rfl⟩

end Reserve

namespace ReserveConfigurationMap

def Workable (configuration : ReserveConfigurationMap) : Prop :=
  ∀ (reserve : Reserve) (env : Env) (asset lTokenAddress : Address)
    (liquidityAdded liquidityTaken : Nat) (after : Reserve),
    { reserve with configuration := ⟨0⟩ }.updateInterestRates env asset lTokenAddress liquidityAdded
      liquidityTaken = .ok after →
    ∃ after', { reserve with configuration }.updateInterestRates env asset lTokenAddress
      liquidityAdded liquidityTaken = .ok after'

def idleReserve : Reserve :=
  { Reserve.unlisted Market.ledger with interestRateStrategyAddress := some Market.strategy }

theorem idleReserve_rates :
    ∃ after, { idleReserve with configuration := ⟨0⟩ }.updateInterestRates
      (Market.env 1 Market.launch_in_time) 10 0 0 0 = .ok after := by
  have free : yields ({ idleReserve with configuration := ⟨0⟩ }.updateInterestRates
      (Market.env 1 Market.launch_in_time) 10 0 0 0) (fun _ => true) := by
    decide +kernel
  obtain ⟨after, computed, _⟩ := yields_iff.1 free
  exact ⟨after, computed⟩

theorem workable_iff {configuration : ReserveConfigurationMap} :
    configuration.Workable ↔ configuration.getReserveFactor ≤ PERCENTAGE_FACTOR := by
  constructor
  · intro workable
    obtain ⟨after, computed⟩ := idleReserve_rates
    obtain ⟨_, rated⟩ := workable idleReserve (Market.env 1 Market.launch_in_time) 10 0 0 0 after
      computed
    have part := Reserve.updateInterestRates_part rated
    exact part
  · intro part _ _ _ _ _ _ _ computed
    exact Reserve.updateInterestRates_levied part computed

end ReserveConfigurationMap

namespace LendingPool

variable {env : Env} {pool after : LendingPool} {msgSender asset : Address}

def Bricked (pool : LendingPool) (asset : Address) : Prop :=
  ∀ (env : Env) (msgSender : Address),
    (∀ amount recipient result, pool.withdraw env msgSender asset amount recipient ≠ .ok result) ∧
    (∀ amount rateMode onBehalfOf result,
      pool.repay env msgSender asset amount rateMode onBehalfOf ≠ .ok result) ∧
    ∀ collateralAsset user debtToCover receiveLToken after, pool.liquidationCall env msgSender
      collateralAsset asset user debtToCover receiveLToken ≠ .ok after

theorem bricked (above : PERCENTAGE_FACTOR < (pool.reserves asset).configuration.getReserveFactor) :
    pool.Bricked asset := by
  intro env msgSender
  -- up to its rates every operation works on the configuration it started from
  have stuck : ∀ (middle rated : Reserve) (lTokenAddress : Address) (added taken : Nat),
      Reserve.Operations env (pool.reserves asset) middle →
      middle.updateInterestRates env asset lTokenAddress added taken ≠ .ok rated := by
    intro middle rated lTokenAddress added taken operations computed
    have part := Reserve.updateInterestRates_part computed
    rw [operations.settings.configuration] at part
    exact absurd part (Nat.not_le_of_lt above)
  refine ⟨?_, ?_, ?_⟩
  · rintro amount recipient ⟨after, withdrawn⟩ computed
    obtain ⟨_, accrued, _, _, _, _, run⟩ := withdraw_ok computed
    exact stuck _ _ _ _ _ (.single (.accrue run.accrue)) run.rate
  · rintro amount rateMode onBehalfOf ⟨after, payback⟩ computed
    obtain ⟨mode, _, _, accrued, burned, _, _, _, _, run⟩ := repay_ok computed
    exact stuck _ _ _ _ _ (.tail (.single (.accrue run.accrue)) run.returned) run.rate
  · intro collateralAsset user debtToCover receiveLToken after computed
    obtain ⟨_, _, _, _, _, _, _, run⟩ := liquidationCall_ok computed
    obtain ⟨_, _, _, _, executed⟩ := LendingPoolCollateralManager.executeLiquidation_ok run.execute
    obtain ⟨accrued, burned, _, leg⟩ := LendingPoolCollateralManager.repayDebt_ok executed.repay
    have returned := burnDebt_operations (Reserve.updateState_timestamp leg.accrue) leg.burn
    exact stuck _ _ _ _ _ (.trans (.single (.accrue leg.accrue)) returned) leg.rate

end LendingPool

def Event.Proportionate : Event → Prop
  | .admin _ (.setReserveFactor _ reserveFactor) => reserveFactor ≤ PERCENTAGE_FACTOR
  | _ => True

namespace World

variable {world next : World} {event : Event}

def LeviesPart (world : World) : Prop :=
  ∀ asset, (world.pool.reserves asset).configuration.getReserveFactor ≤ PERCENTAGE_FACTOR

theorem leviesPart_iff :
    world.LeviesPart ↔ ∀ asset, (world.pool.reserves asset).configuration.Workable :=
  forall_congr' fun _ => ReserveConfigurationMap.workable_iff.symm

theorem leviesPart_of_same (levies : world.LeviesPart)
    (same : ∀ asset, (next.pool.reserves asset).configuration.getReserveFactor =
      (world.pool.reserves asset).configuration.getReserveFactor) : next.LeviesPart := by
  intro asset
  rw [same]
  exact levies asset

open ReserveConfiguration LendingPoolConfigurator in
theorem setReserveFactor_levies {after : LendingPool} {msgSender asset : Address}
    {reserveFactor : Nat} (levies : world.LeviesPart)
    (computed : setReserveFactor world.pool msgSender asset reserveFactor = .ok after) :
    (∀ a, (after.reserves a).configuration.getReserveFactor ≤ PERCENTAGE_FACTOR) ↔
      reserveFactor ≤ PERCENTAGE_FACTOR := by
  obtain ⟨configuration, written, rfl⟩ := updateConfiguration_ok computed
  obtain ⟨bound, changedTo⟩ := setBounded_ok _ written
  have factor : configuration.getReserveFactor = reserveFactor := by
    rw [changedTo]
    exact getField_setField _ (Nat.lt_of_le_of_lt bound (by decide))
  constructor
  · intro all
    have here := all asset
    rwa [LendingPool.setReserve_same, factor] at here
  · intro part a
    by_cases same : a = asset
    · subst same
      rwa [LendingPool.setReserve_same, factor]
    · rw [LendingPool.setReserve_other same]
      exact levies a

theorem configuration_step (aside : ∀ msgSender call, event ≠ .admin msgSender call)
    (taken : world.step event = .ok next) (asset : Address) :
    (next.pool.reserves asset).configuration = (world.pool.reserves asset).configuration := by
  cases event with
  | call =>
      obtain ⟨_, _, _, executed, rfl⟩ := step_call taken
      exact ((Call.execute_operates executed).operations asset).settings.configuration
  | admin => exact absurd rfl (aside _ _)
  | flashLoan =>
      obtain ⟨_, _, run⟩ := step_flashLoan taken
      rw [run.result]
      have opened : LendingPool.Operates world.env world.pool _ :=
        LendingPool.openFlashLoan_operates run.opened
      exact (opened.operations asset).settings.configuration
  | executed =>
      obtain ⟨_, _, _, _, rfl⟩ := step_executed taken
      rfl
  | settle =>
      obtain ⟨_, _, _, _, _, run⟩ := step_settle taken
      rw [run.result]
      exact ((LendingPool.settleFlashLoan_operates run.settle).operations asset).settings.configuration
  | finish =>
      obtain ⟨_, _, _, _, rfl⟩ := step_finish taken
      rfl
  | ledger reserve =>
      obtain ⟨_, rfl⟩ := step_ledger taken
      by_cases same : asset = reserve
      · subst same
        exact congrArg (·.configuration) LendingPool.setReserve_same
      · exact congrArg (·.configuration) (LendingPool.setReserve_other same)
  | observe =>
      obtain ⟨_, _, rfl⟩ := step_observe taken
      rfl

theorem leviesPart_step (levies : world.LeviesPart) (taken : world.step event = .ok next) :
    next.LeviesPart ↔ event.Proportionate := by
  cases event with
  | admin msgSender call =>
      simp only [step, bind_eq_ok, require_eq_ok, exists_const, pure_eq_ok] at taken
      obtain ⟨_, pool, executed, rfl⟩ := taken
      by_cases sets : ∃ asset reserveFactor, call = .setReserveFactor asset reserveFactor
      · obtain ⟨asset, reserveFactor, rfl⟩ := sets
        exact setReserveFactor_levies levies executed
      · have proportionate : (Event.admin msgSender call).Proportionate := by
          cases call <;> first | exact trivial | exact absurd ⟨_, _, rfl⟩ sets
        refine iff_of_true (leviesPart_of_same levies fun asset => ?_) proportionate
        refine AdminCall.execute_rewrites executed .reserveFactor ?_
        cases call <;> first | exact absurd ⟨_, _, rfl⟩ sets | simp [AdminCall.names]
  | call | flashLoan | executed | settle | finish | ledger | observe =>
      refine iff_of_true (leviesPart_of_same levies fun asset => ?_) trivial
      rw [configuration_step (by simp) taken]

theorem Initial.leviesPart (initial : world.Initial) : world.LeviesPart := by
  obtain ⟨_, self, provider, ledgers, start⟩ := initial
  rw [LeviesPart, start]
  intro asset
  have none : (⟨0⟩ : ReserveConfigurationMap).getReserveFactor = 0 := by decide
  exact le_of_eq_of_le none (Nat.zero_le _)

/-- In the states of a run every reserve stays workable exactly when no reserve factor above the
whole was ever set; a reserve that is not workable lets nobody out. -/
theorem factors_workable {start : World} {events : List Event} (initial : start.Initial)
    (ran : Runs.run step start events = .ok world) :
    ((∀ before later w, events = before ++ later → Runs.run step start before = .ok w →
        ∀ asset, (w.pool.reserves asset).configuration.Workable) ↔
      ∀ event ∈ events, event.Proportionate) ∧
    ∀ asset, ¬(world.pool.reserves asset).configuration.Workable → world.pool.Bricked asset := by
  constructor
  · have exact := Runs.run_exact (fun _ : World => True) LeviesPart (fun _ event => event.Proportionate)
      (fun _ _ _ _ _ => trivial) (fun _ _ _ _ levies taken => leviesPart_step levies taken) trivial
      initial.leviesPart ran
    simp only [leviesPart_iff] at exact
    rw [exact]
    constructor
    · intro all event member
      obtain ⟨before, later, rfl⟩ := List.append_of_mem member
      obtain ⟨w, _, reached, _⟩ := Runs.run_split ran
      exact all before event later w rfl reached
    · intro all before event later w split _
      exact all event (by simp [split])
  · intro asset stuck
    rw [ReserveConfigurationMap.workable_iff] at stuck
    exact LendingPool.bricked (Nat.lt_of_not_le stuck)

def levied (reserveFactor : Nat) : List Event :=
  Market.opening 10 Market.strategy ++
    [.call 100 (.deposit 10 100 100), .admin 3 (.setReserveFactor 10 reserveFactor)]

theorem factors_workable_levied :
    ∃ world : World, Runs.run step Market.start (levied 1000) = .ok world ∧
      ((∀ before later w, levied 1000 = before ++ later →
          Runs.run step Market.start before = .ok w →
          ∀ asset, (w.pool.reserves asset).configuration.Workable) ↔
        ∀ event ∈ levied 1000, event.Proportionate) := by
  have outcome : yields (Runs.run step Market.start (levied 1000)) (fun _ => true) := by
    decide +kernel
  obtain ⟨world, ran, _⟩ := yields_iff.1 outcome
  exact ⟨world, ran, (factors_workable Market.start_initial ran).1⟩

-- A ten-thousandth more than the whole is within the field, and the deposit can no longer leave.
theorem levied_above_whole :
    ∃ before after : World, Runs.run step Market.start (levied 10000) = .ok before ∧
      Runs.run step Market.start (levied 10001) = .ok after ∧
      (∃ pool, (Call.withdraw 10 100 100).execute before.env before.pool 100 = .ok pool) ∧
      ¬(after.pool.reserves 10).configuration.Workable ∧
      ∀ pool, (Call.withdraw 10 100 100).execute after.env after.pool 100 ≠ .ok pool := by
  have whole : yields (Runs.run step Market.start (levied 10000)) (fun world =>
      yields ((Call.withdraw 10 100 100).execute world.env world.pool 100) (fun _ => true)) := by
    decide +kernel
  have outcome : yields (Runs.run step Market.start (levied 10001)) (fun world =>
      PERCENTAGE_FACTOR < (world.pool.reserves 10).configuration.getReserveFactor) := by
    decide +kernel
  obtain ⟨before, ranBefore, leaves⟩ := yields_iff.1 whole
  obtain ⟨pool, left, _⟩ := yields_iff.1 leaves
  obtain ⟨after, ranAfter, facts⟩ := yields_iff.1 outcome
  have above := of_decide_eq_true facts
  refine ⟨before, after, ranBefore, ranAfter, ⟨pool, left⟩, fun workable => ?_, fun pool ran => ?_⟩
  · exact absurd (ReserveConfigurationMap.workable_iff.1 workable) (Nat.not_le_of_lt above)
  · simp only [Call.execute, bind_eq_ok, Prod.exists, pure_eq_ok] at ran
    obtain ⟨_, withdrawn, computed, _⟩ := ran
    exact (LendingPool.bricked above after.env 100).1 100 100 (_, withdrawn) computed

end World

end PalmyProtocol
