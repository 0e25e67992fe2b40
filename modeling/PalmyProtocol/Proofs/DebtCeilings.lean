import PalmyProtocol.Proofs.AccrualFlows
import PalmyProtocol.Proofs.Bystanders
import PalmyProtocol.System.RateCeilings

set_option autoImplicit false

namespace PalmyProtocol

open Checked Rounding LendingPool MathUtils ReserveConfiguration Runs

theorem Settings.write_strategy (settings : Settings) (asset named : Address) (field : ConfigField)
    (value : field.Value) :
    ((settings.write named field value).reserves asset).interestRateStrategyAddress =
      (settings.reserves asset).interestRateStrategyAddress := by
  by_cases same : asset = named
  · subst same
    simp [Settings.write, Settings.change, ReserveSettings.write]
  · simp [Settings.write, Settings.change, Function.update_of_ne same]

theorem AdminCall.execute_strategy {env : Env} {pool after : LendingPool}
    {msgSender asset : Address} {call : AdminCall} (registered : pool.Registered)
    (listed : (pool.reserves asset).lTokenAddress ≠ 0)
    (computed : call.execute env pool msgSender = .ok after) :
    (after.reserves asset).interestRateStrategyAddress =
        (pool.reserves asset).interestRateStrategyAddress ∨
      call = .setReserveInterestRateStrategyAddress asset
        (after.reserves asset).interestRateStrategyAddress := by
  have settings := execute_settings registered computed
  have chosen : (after.reserves asset).interestRateStrategyAddress =
      ((pool.settings.apply call).reserves asset).interestRateStrategyAddress := by
    rw [← settings]
    rfl
  cases call with
  | batchInitReserve input =>
      simp only [execute, LendingPoolConfigurator.batchInitReserve, bind_eq_ok] at computed
      obtain ⟨_, _, entered⟩ := computed
      have same := (listings_induction
        (fun later => later.reserves asset = pool.reserves asset) ?_ registered rfl entered).2
      · exact .inl (by rw [same])
      · intro before later entry configuration _ same listing
        have other : asset ≠ entry.underlyingAsset := by
          intro itself
          apply listed
          rw [← same, itself]
          exact listing.vacant
        rw [listing.appended.others asset other, same]
  | setReserveInterestRateStrategyAddress named strategy =>
      by_cases same : named = asset
      · subst same
        right
        rw [chosen]
        simp [Settings.apply, Settings.change]
      · left
        rw [chosen]
        simp [Settings.apply, Settings.change, Function.update_of_ne (Ne.symm same),
          Reserve.settings]
  | _ =>
      left
      rw [chosen]
      simp only [Settings.apply, Settings.write_strategy]
      rfl

def Event.CappedAt (top : Nat) (asset : Address) (event : Event) : Prop :=
  ∀ msgSender strategy,
    event = .admin msgSender (.setReserveInterestRateStrategyAddress asset (some strategy)) →
      strategy.CappedAt top

namespace World

variable {world next : World} {asset user : Address} {top : Nat}

structure CappedAt (top : Nat) (asset : Address) (world : World) : Prop where
  accruable : world.Accruable
  listed : (world.pool.reserves asset).lTokenAddress ≠ 0
  capped : (world.pool.reserves asset).CappedAt top

theorem step_capped {event : Event} (capped : world.CappedAt top asset)
    (within : event.CappedAt top asset) (taken : world.step event = .ok next) :
    (next.pool.reserves asset).CappedAt top ∧ Reserve.Grown top world.env.timestamp
      (world.pool.reserves asset) (next.pool.reserves asset) := by
  have registered := capped.accruable.registered
  have operated : ∀ pool, Operates world.env world.pool pool →
      (pool.reserves asset).CappedAt top ∧ Reserve.Grown top world.env.timestamp
        (world.pool.reserves asset) (pool.reserves asset) :=
    fun pool operates => Reserve.Grown.of_operations (operates.operations asset) capped.capped
  cases event with
  | call =>
      obtain ⟨_, _, pool, executed, rfl⟩ := step_call taken
      exact operated pool (Call.execute_operates executed)
  | admin msgSender call =>
      simp only [step, bind_eq_ok, require_eq_ok, exists_const, pure_eq_ok] at taken
      obtain ⟨_, pool, executed, rfl⟩ := taken
      obtain ⟨_, _, shape⟩ := administered_listed registered capped.listed
        (AdminCall.execute_administers executed)
      have chosen := AdminCall.execute_strategy registered capped.listed executed
      refine ⟨⟨?_, fun strategy strategy_eq => ?_⟩, ?_⟩
      · rw [withPool, shape]
        exact capped.capped.rate
      · change (pool.reserves asset).interestRateStrategyAddress = _ at strategy_eq
        rcases chosen with same | rfl
        · rw [same] at strategy_eq
          exact capped.capped.strategy strategy strategy_eq
        · rw [strategy_eq] at within
          exact within msgSender strategy rfl
      · rw [withPool, shape]
        exact .inl ⟨rfl, rfl⟩
  | flashLoan =>
      obtain ⟨pool, _, run⟩ := step_flashLoan taken
      rw [run.result]
      exact operated pool (openFlashLoan_operates run.opened)
  | executed =>
      obtain ⟨_, _, _, _, rfl⟩ := step_executed taken
      exact operated _ (.refl _)
  | settle =>
      obtain ⟨_, _, _, _, pool, run⟩ := step_settle taken
      rw [run.result]
      exact operated pool (settleFlashLoan_operates run.settle)
  | finish =>
      obtain ⟨_, _, _, _, rfl⟩ := step_finish taken
      exact operated _ (.refl _)
  | ledger named underlying =>
      obtain ⟨_, rfl⟩ := step_ledger taken
      by_cases same : asset = named
      · subst same
        rw [withPool, setReserve_same]
        exact ⟨⟨capped.capped.rate, capped.capped.strategy⟩, .of_data rfl⟩
      · rw [withPool, setReserve_other same]
        exact ⟨capped.capped, .refl _⟩
  | observe =>
      obtain ⟨_, _, rfl⟩ := step_observe taken
      exact operated _ (.refl _)

theorem CappedAt.step {event : Event} (capped : world.CappedAt top asset)
    (within : event.CappedAt top asset) (taken : world.step event = .ok next) :
    next.CappedAt top asset where
  accruable := capped.accruable.step taken
  listed := by
    rw [step_address capped.accruable.registered capped.listed taken]
    exact capped.listed
  capped := (step_capped capped within taken).1

def debtLevel (growth : ℚ) (asset : Address) (world : World) : ℚ :=
  (world.pool.reserves asset).variableBorrowIndex *
    growth ^ (world.env.timestamp - (world.pool.reserves asset).lastUpdateTimestamp)

-- An accrual brings the index there and rounds it once; nothing else moves it there.
theorem step_debtLevel {event : Event} (capped : world.CappedAt top asset)
    (within : event.CappedAt top asset) (taken : world.step event = .ok next) :
    next.debtLevel (1 + perSecond top) asset ≤
      world.debtLevel (1 + perSecond top) asset *
        (1 + perSecond top) ^ (next.env.timestamp - world.env.timestamp) + 1 / 2 := by
  have stamped := (capped.accruable.onTime asset).stamped
  have clock := step_clock taken
  simp only [debtLevel]
  rcases step_time taken with same | ⟨_, _, later⟩
  · rw [same, Nat.sub_self, pow_zero, mul_one]
    rcases (step_capped capped within taken).2 with ⟨stamp, index⟩ | ⟨stamp, index⟩
    · rw [stamp, index]
      linarith
    · rw [stamp, Nat.sub_self, pow_zero, mul_one]
      generalize (world.pool.reserves asset).variableBorrowIndex = before at *
      generalize world.env.timestamp - (world.pool.reserves asset).lastUpdateTimestamp = n at *
      have unit : (0 : ℚ) < RAY := by norm_num [RAY]
      calc ((next.pool.reserves asset).variableBorrowIndex : ℚ)
          ≤ divHalfUp (compoundedInterest top n * before) RAY := by exact_mod_cast index
        _ ≤ ((compoundedInterest top n * before : Nat) : ℚ) / RAY + 1 / 2 :=
          divHalfUp_le_add_half RAY_pos
        _ ≤ RAY * (1 + perSecond top) ^ n * before / RAY + 1 / 2 := by
          rw [Nat.cast_mul]
          gcongr
          exact compoundedInterest_le_pow top n
        _ = before * (1 + perSecond top) ^ n + 1 / 2 := by
          field_simp
  · have whole : next.env.timestamp - (world.pool.reserves asset).lastUpdateTimestamp =
        world.env.timestamp - (world.pool.reserves asset).lastUpdateTimestamp +
          (next.env.timestamp - world.env.timestamp) := by omega
    rw [later] at whole ⊢
    rw [whole, pow_add, ← mul_assoc]
    linarith

theorem debtLevel_bounded (top : Nat) (asset : Address) :
    Growth.Bounded step (CappedAt top asset) (Event.CappedAt top asset)
      (fun world => world.env.timestamp) (debtLevel (1 + perSecond top) asset)
      (1 + perSecond top) (1 / 2) where
  grows := by
    have nonneg : 0 ≤ perSecond top := by
      rw [perSecond]
      positivity
    linarith
  nonneg := by norm_num
  preserved _ _ _ capped within taken := capped.step within taken
  clocks _ _ _ _ _ taken := step_clock taken
  levels _ _ _ capped within taken := step_debtLevel capped within taken

theorem normalizedDebt_le_debtLevel (capped : world.CappedAt top asset) :
    ((world.pool.reserves asset).normalizedDebt world.env.timestamp : ℚ) ≤
      world.debtLevel (1 + perSecond top) asset + 1 / 2 := by
  have unit : (0 : ℚ) < RAY := by norm_num [RAY]
  rw [ReserveData.normalizedDebt, debtLevel, uint40_of_lt world.env.timestamp_lt]
  split_ifs with current
  · rw [current, Nat.sub_self, pow_zero, mul_one]
    linarith
  · generalize (world.pool.reserves asset).variableBorrowIndex = index
    generalize world.env.timestamp - (world.pool.reserves asset).lastUpdateTimestamp = n
    have factor : (compoundedInterest (world.pool.reserves asset).currentVariableBorrowRate n : ℚ) ≤
        RAY * (1 + perSecond top) ^ n := by
      refine le_trans ?_ (compoundedInterest_le_pow top n)
      exact_mod_cast compoundedInterest_mono capped.capped.rate (le_refl n)
    calc _ ≤ _ := divHalfUp_le_add_half RAY_pos
      _ ≤ RAY * (1 + perSecond top) ^ n * index / RAY + 1 / 2 := by
        rw [Nat.cast_mul]
        gcongr
      _ = index * (1 + perSecond top) ^ n + 1 / 2 := by field_simp

-- The index is at least a ray, so what is added to it weighs at most as much in the balance.
theorem grown_debt {scaled index view roundings : Nat} {growth : ℚ} (whole : RAY ≤ index)
    (grows : 0 ≤ growth) (bounded : (view : ℚ) ≤ (index + roundings * (1 / 2)) * growth) :
    (divHalfUp (scaled * view) RAY : ℚ) ≤ (divHalfUp (scaled * index) RAY + 1 / 2) *
      (1 + roundings / (2 * RAY)) * growth + 1 / 2 := by
  have unit : (0 : ℚ) < RAY := by norm_num [RAY]
  have held : ((scaled * index : Nat) : ℚ) / RAY ≤ divHalfUp (scaled * index) RAY + 1 / 2 :=
    div_le_divHalfUp_add_half RAY_pos
  generalize divHalfUp (scaled * index) RAY = before at *
  have shares : (scaled : ℚ) ≤ before + 1 / 2 := by
    refine le_trans ?_ held
    rw [le_div_iff₀ unit]
    exact_mod_cast Nat.mul_le_mul_left scaled whole
  have grown : (scaled : ℚ) / RAY * (index + roundings * (1 / 2)) ≤
      (before + 1 / 2) * (1 + roundings / (2 * RAY)) := by
    calc (scaled : ℚ) / RAY * (index + roundings * (1 / 2))
        = ((scaled * index : Nat) : ℚ) / RAY + scaled * (roundings / (2 * RAY)) := by
          push_cast
          field_simp
      _ ≤ (before + 1 / 2) + (before + 1 / 2) * (roundings / (2 * RAY)) := by gcongr
      _ = (before + 1 / 2) * (1 + roundings / (2 * RAY)) := by ring
  calc (divHalfUp (scaled * view) RAY : ℚ) ≤ ((scaled * view : Nat) : ℚ) / RAY + 1 / 2 :=
        divHalfUp_le_add_half RAY_pos
    _ = (scaled : ℚ) / RAY * view + 1 / 2 := by
        push_cast
        ring
    _ ≤ (scaled : ℚ) / RAY * ((index + roundings * (1 / 2)) * growth) + 1 / 2 := by gcongr
    _ = (scaled : ℚ) / RAY * (index + roundings * (1 / 2)) * growth + 1 / 2 := by ring
    _ ≤ (before + 1 / 2) * (1 + roundings / (2 * RAY)) * growth + 1 / 2 := by gcongr

/-- A variable debt that no event of a run is about grows no faster than the top rate, compounded
every second, from what it was when the reserve was last updated: the slack is the rounding of the
balance, and half a ray for each event. -/
theorem Reachable.debt_ceiling (reached : world.Reachable) {events : List Event}
    (ran : run step world events = .ok next)
    (capped : (world.pool.reserves asset).CappedAt top)
    (within : ∀ event ∈ events, event.CappedAt top asset)
    (unnamed : .cell asset (.variableDebt user) ∉ world.footprint events) {before later : Nat}
    (shown : (world.pool.reserves asset).variableDebtBalanceOf
      (world.pool.reserves asset).lastUpdateTimestamp user = .ok before)
    (shown' : (next.pool.reserves asset).variableDebtBalanceOf next.env.timestamp user =
      .ok later) :
    (later : ℚ) ≤ (before + 1 / 2) * (1 + (events.length + 1 : Nat) / (2 * RAY)) *
      (1 + perSecond top) ^
        (next.env.timestamp - (world.pool.reserves asset).lastUpdateTimestamp) + 1 / 2 := by
  obtain ⟨owed, rfl⟩ := Reserve.variableDebtBalanceOf_ok shown
  obtain ⟨_, rfl⟩ := Reserve.variableDebtBalanceOf_ok shown'
  have listed := (reached.registered.together asset).1.1 owed
  have start : world.CappedAt top asset := ⟨reached.accruable, listed, capped⟩
  have same : next.read (.cell asset (.variableDebt user)) =
      world.read (.cell asset (.variableDebt user)) := reached.bystanders ran listed unnamed
  change (next.pool.reserves asset).variableDebtToken.base.balances user = _ at same
  have bounded := debtLevel_bounded top asset
  obtain ⟨ended, clock, level⟩ := bounded.run start within ran
  have view := normalizedDebt_le_debtLevel ended
  have stamped := (start.accruable.onTime asset).stamped
  have current : (world.pool.reserves asset).normalizedDebt
      (world.pool.reserves asset).lastUpdateTimestamp =
        (world.pool.reserves asset).variableBorrowIndex := by
    rw [ReserveData.normalizedDebt, uint40_of_lt (lt_of_le_of_lt stamped world.env.timestamp_lt),
      if_pos rfl]
  have whole : next.env.timestamp - (world.pool.reserves asset).lastUpdateTimestamp =
      world.env.timestamp - (world.pool.reserves asset).lastUpdateTimestamp +
        (next.env.timestamp - world.env.timestamp) := by omega
  have grows := one_le_pow₀ bounded.grows
    (n := world.env.timestamp - (world.pool.reserves asset).lastUpdateTimestamp)
  have grows' := one_le_pow₀ bounded.grows (n := next.env.timestamp - world.env.timestamp)
  rw [same, current]
  apply grown_debt ((reached.registered.sound asset).variableBorrowIndex listed)
    (le_trans zero_le_one (one_le_pow₀ bounded.grows))
  have begun : world.debtLevel (1 + perSecond top) asset =
      (world.pool.reserves asset).variableBorrowIndex * (1 + perSecond top) ^
        (world.env.timestamp - (world.pool.reserves asset).lastUpdateTimestamp) := rfl
  rw [begun] at level
  rw [whole, pow_add]
  generalize (1 + perSecond top) ^
    (world.env.timestamp - (world.pool.reserves asset).lastUpdateTimestamp) = early at *
  generalize (1 + perSecond top) ^ (next.env.timestamp - world.env.timestamp) = late at *
  generalize ((world.pool.reserves asset).variableBorrowIndex : ℚ) = index at *
  have roundings : ((events.length : ℚ) + 1) * (1 / 2) * late ≤
      ((events.length : ℚ) + 1) * (1 / 2) * (early * late) := by
    have shorter : late ≤ early * late := le_mul_of_one_le_left (by linarith) grows
    gcongr
  push_cast
  linarith

def Fits (top : Nat) (strategy : DefaultReserveInterestRateStrategy) : Bool :=
  yields strategy.getMaxVariableBorrowRate fun max => 0 < strategy.OPTIMAL_UTILIZATION_RATE ∧
    max + (RAY + strategy.OPTIMAL_UTILIZATION_RATE) / (2 * strategy.OPTIMAL_UTILIZATION_RATE) ≤ top

theorem Fits.capped {strategy : DefaultReserveInterestRateStrategy} (fits : Fits top strategy) :
    strategy.CappedAt top := by
  obtain ⟨max, computed, facts⟩ := yields_iff.1 fits
  obtain ⟨positive, under⟩ := of_decide_eq_true facts
  intro utilization whole
  exact le_trans (DefaultReserveInterestRateStrategy.cappedAt_of_max positive computed
    utilization whole) under

def waitingYear : List Event :=
  [.call 102 (.deposit 10 (50 * WAD) 102), .observe (Market.env 31536001 Market.year_in_time),
    .call 100 (.withdraw 10 WAD 100),
    .admin 3 (.setReserveInterestRateStrategyAddress 10 (some Market.strategy)),
    .flashLoan 102 103 [10] [5 * WAD] [0] 102, .executed, .settle, .finish]

theorem debt_ceiling_waitingYear : ∃ world next before later,
    run step Market.start (Market.opening 10 Market.strategy ++
      [.call 100 (.deposit 10 (100 * WAD) 100), .call 101 (.deposit 10 (100 * WAD) 101),
        .call 101 (.borrow 10 (10 * WAD) 2 101)]) = .ok world ∧
      run step world waitingYear = .ok next ∧
      (world.pool.reserves 10).variableDebtBalanceOf
        (world.pool.reserves 10).lastUpdateTimestamp 101 = .ok before ∧
      (next.pool.reserves 10).variableDebtBalanceOf next.env.timestamp 101 = .ok later ∧
      before < later ∧
      (later : ℚ) ≤ (before + 1 / 2) * (1 + (waitingYear.length + 1 : Nat) / (2 * RAY)) *
        (1 + perSecond (79 * RAY / 100 + 1)) ^
          (next.env.timestamp - (world.pool.reserves 10).lastUpdateTimestamp) + 1 / 2 := by
  have outcome : yields (run step Market.start (Market.opening 10 Market.strategy ++
      [.call 100 (.deposit 10 (100 * WAD) 100), .call 101 (.deposit 10 (100 * WAD) 101),
        .call 101 (.borrow 10 (10 * WAD) 2 101)])) (fun world =>
      (world.pool.reserves 10).currentVariableBorrowRate ≤ 79 * RAY / 100 + 1 ∧
        (∀ strategy ∈ (world.pool.reserves 10).interestRateStrategyAddress,
          Fits (79 * RAY / 100 + 1) strategy) ∧
        .cell 10 (.variableDebt 101) ∉ world.footprint waitingYear ∧
        yields ((world.pool.reserves 10).variableDebtBalanceOf
          (world.pool.reserves 10).lastUpdateTimestamp 101) (fun before =>
            yields (run step world waitingYear) (fun next =>
              yields ((next.pool.reserves 10).variableDebtBalanceOf next.env.timestamp 101)
                (fun later => before < later)))) := by
    decide +kernel
  obtain ⟨world, opened, facts⟩ := yields_iff.1 outcome
  obtain ⟨rate, strategies, unnamed, facts⟩ := of_decide_eq_true facts
  obtain ⟨before, shown, facts⟩ := yields_iff.1 facts
  obtain ⟨next, ran, facts⟩ := yields_iff.1 facts
  obtain ⟨later, shown', grows⟩ := yields_iff.1 facts
  have capped : (world.pool.reserves 10).CappedAt (79 * RAY / 100 + 1) :=
    ⟨rate, fun strategy chosen => Fits.capped (strategies strategy chosen)⟩
  have within : ∀ event ∈ waitingYear, event.CappedAt (79 * RAY / 100 + 1) 10 := by
    have fits : Fits (79 * RAY / 100 + 1) Market.strategy := by decide +kernel
    rintro event member msgSender strategy rfl
    simp only [waitingYear, List.mem_cons, List.not_mem_nil, reduceCtorEq, or_false, false_or,
      Event.admin.injEq, AdminCall.setReserveInterestRateStrategyAddress.injEq,
      Option.some.injEq] at member
    obtain ⟨_, _, rfl⟩ := member
    exact Fits.capped fits
  exact ⟨world, next, before, later, opened, ran, shown, shown', of_decide_eq_true grows,
    Reachable.debt_ceiling (Market.reachable_of_run opened) ran capped within unnamed shown shown'⟩

end World

end PalmyProtocol
