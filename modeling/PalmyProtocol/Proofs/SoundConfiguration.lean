import PalmyProtocol.System.Registry

set_option autoImplicit false

namespace PalmyProtocol

open Checked Rounding ReserveConfiguration ReserveConfigurationMap

namespace AdminCall

def names (asset : Address) : AdminCall → List ConfigField
  | batchInitReserve input =>
    if input.any (·.underlyingAsset == asset) then [.decimals, .active, .frozen] else []
  | enableBorrowingOnReserve reserve _ =>
    if reserve = asset then [.borrowing, .stableBorrowing] else []
  | disableBorrowingOnReserve reserve => if reserve = asset then [.borrowing] else []
  | configureReserveAsCollateral reserve _ _ _ =>
    if reserve = asset then [.ltv, .liquidationThreshold, .liquidationBonus] else []
  | enableReserveStableRate reserve | disableReserveStableRate reserve =>
    if reserve = asset then [.stableBorrowing] else []
  | activateReserve reserve | deactivateReserve reserve =>
    if reserve = asset then [.active] else []
  | freezeReserve reserve | unfreezeReserve reserve => if reserve = asset then [.frozen] else []
  | setReserveFactor reserve _ => if reserve = asset then [.reserveFactor] else []
  | setReserveInterestRateStrategyAddress _ _ | setPoolPause _ => []

end AdminCall

namespace LendingPoolConfigurator

variable {env : Env} {pool after : LendingPool} {msgSender reserve asset : Address}

theorem updateConfiguration_rewrites {fields : List ConfigField}
    {change : ReserveConfigurationMap → Result ReserveConfigurationMap}
    (named : ∀ config configured, change config = .ok configured →
      Rewrites fields config configured)
    (computed : updateConfiguration pool msgSender reserve change = .ok after) :
    Rewrites (if reserve = asset then fields else []) (pool.reserves asset).configuration
      (after.reserves asset).configuration := by
  obtain ⟨configuration, changed, rfl⟩ := updateConfiguration_ok computed
  by_cases same : reserve = asset
  · subst same
    simpa [LendingPool.setReserve] using named _ _ changed
  · have other : asset ≠ reserve := fun equal => same equal.symm
    simp only [LendingPool.setReserve, Function.update_of_ne other]
    exact .refl

theorem addReserveToList_configuration (asset : Address) (computed : pool.addReserveToList reserve = .ok after) :
    (after.reserves asset).configuration = (pool.reserves asset).configuration := by
  simp only [LendingPool.addReserveToList, bind_eq_ok, require_eq_ok, exists_const, ite_eq_ok,
    pure_eq_ok] at computed
  obtain ⟨_, ⟨_, _, rfl⟩ | ⟨_, rfl⟩⟩ := computed
  · rfl
  · by_cases same : asset = reserve
    · subst same
      simp [LendingPool.setReserve]
    · simp [LendingPool.setReserve, same]

theorem initReserve_rewrites (asset : Address) {input : InitReserveInput}
    (computed : initReserve env pool input = .ok after) :
    Rewrites (if input.underlyingAsset = asset then [.decimals, .active, .frozen] else [])
      (pool.reserves asset).configuration (after.reserves asset).configuration := by
  simp only [initReserve, LendingPool.initReserve, LendingPool.onlyLendingPoolConfigurator,
    bind_eq_ok, require_eq_ok, exists_const] at computed
  obtain ⟨_, _, _, listed, ⟨_, _, data, initialised, added⟩, config, decimals, written⟩ := computed
  obtain ⟨_, rfl⟩ := ReserveData.init_ok initialised
  rw [setConfiguration_ok written]
  by_cases same : asset = input.underlyingAsset
  · subst same
    have kept := addReserveToList_configuration input.underlyingAsset added
    simp only [LendingPool.setReserve, Function.update_self] at kept ⊢
    rw [if_true, ← kept]
    have scaled : Rewrites [.decimals, .active, .frozen] _ config :=
      rewrites_setBounded .decimals (by decide) (by decide) decimals
    have activated : Rewrites [.decimals, .active, .frozen] config (config.setActive true) :=
      rewrites_setFlag .active (by decide) (by decide)
    exact (scaled.trans activated).trans (rewrites_setFlag .frozen (by decide) (by decide))
  · have kept := addReserveToList_configuration asset added
    simp only [LendingPool.setReserve, Function.update_of_ne same] at kept ⊢
    rw [kept]
    exact fun _ _ => rfl

theorem batchInitReserve_rewrites {input : List InitReserveInput}
    (computed : input.foldlM (initReserve env) pool = .ok after) :
    Rewrites (if input.any (·.underlyingAsset == asset) then [.decimals, .active, .frozen] else [])
      (pool.reserves asset).configuration (after.reserves asset).configuration := by
  induction input generalizing pool with
  | nil =>
      cases computed
      exact .refl
  | cons first rest ih =>
      simp only [List.foldlM_cons, bind_eq_ok] at computed
      obtain ⟨middle, here, later⟩ := computed
      have head := initReserve_rewrites asset here
      have tail := ih later
      by_cases same : first.underlyingAsset = asset
      · have whole : (first :: rest).any (·.underlyingAsset == asset) = true := by simp [same]
        rw [whole]
        rw [if_pos same] at head
        refine head.trans fun field unnamed => tail field fun named => unnamed ?_
        split_ifs at named
        · exact named
        · cases named
      · have whole : (first :: rest).any (·.underlyingAsset == asset) =
            rest.any (·.underlyingAsset == asset) := by simp [same]
        rw [whole]
        rw [if_neg same] at head
        exact fun field unnamed => (tail field unnamed).trans (head field (by simp))

end LendingPoolConfigurator

open LendingPoolConfigurator in
-- Each call reads the whole word and writes it back, and changes only what it names.
theorem AdminCall.execute_rewrites {env : Env} {pool after : LendingPool}
    {msgSender asset : Address} {call : AdminCall}
    (computed : call.execute env pool msgSender = .ok after) :
    Rewrites (call.names asset) (pool.reserves asset).configuration
      (after.reserves asset).configuration := by
  cases call with
  | batchInitReserve input =>
      simp only [AdminCall.execute, LendingPoolConfigurator.batchInitReserve,
        bind_eq_ok] at computed
      obtain ⟨_, _, listed⟩ := computed
      exact batchInitReserve_rewrites listed
  | enableBorrowingOnReserve =>
      simp only [AdminCall.execute] at computed
      refine updateConfiguration_rewrites ?_ computed
      rintro config _ ⟨⟩
      exact (rewrites_setFlag .borrowing (by decide) (by decide)).trans
        (rewrites_setFlag .stableBorrowing (by decide) (by decide))
  | configureReserveAsCollateral =>
      simp only [AdminCall.execute] at computed
      refine updateConfiguration_rewrites ?_ computed
      intro config configured changed
      simp only [bind_eq_ok] at changed
      obtain ⟨_, _, first, ltvSet, second, thresholdSet, bonusSet⟩ := changed
      have ltv : Rewrites [.ltv, .liquidationThreshold, .liquidationBonus] config first :=
        rewrites_setBounded .ltv (by decide) (by decide) ltvSet
      have threshold : Rewrites [.ltv, .liquidationThreshold, .liquidationBonus] first second :=
        rewrites_setBounded .liquidationThreshold (by decide) (by decide) thresholdSet
      exact (ltv.trans threshold).trans
        (rewrites_setBounded .liquidationBonus (by decide) (by decide) bonusSet)
  | deactivateReserve =>
      simp only [AdminCall.execute] at computed
      refine updateConfiguration_rewrites ?_ computed
      intro config configured changed
      simp only [bind_eq_ok, pure_eq_ok] at changed
      obtain ⟨_, _, rfl⟩ := changed
      exact rewrites_setFlag .active (by decide) (by decide)
  | disableBorrowingOnReserve =>
      simp only [AdminCall.execute] at computed
      refine updateConfiguration_rewrites ?_ computed
      rintro config _ ⟨⟩
      exact rewrites_setFlag .borrowing (by decide) (by decide)
  | enableReserveStableRate | disableReserveStableRate =>
      simp only [AdminCall.execute] at computed
      refine updateConfiguration_rewrites ?_ computed
      rintro config _ ⟨⟩
      exact rewrites_setFlag .stableBorrowing (by decide) (by decide)
  | activateReserve =>
      simp only [AdminCall.execute] at computed
      refine updateConfiguration_rewrites ?_ computed
      rintro config _ ⟨⟩
      exact rewrites_setFlag .active (by decide) (by decide)
  | freezeReserve | unfreezeReserve =>
      simp only [AdminCall.execute] at computed
      refine updateConfiguration_rewrites ?_ computed
      rintro config _ ⟨⟩
      exact rewrites_setFlag .frozen (by decide) (by decide)
  | setReserveFactor =>
      simp only [AdminCall.execute] at computed
      refine updateConfiguration_rewrites ?_ computed
      exact fun _ _ changed => rewrites_setBounded .reserveFactor (by decide) (by decide) changed
  | setReserveInterestRateStrategyAddress reserve =>
      simp only [AdminCall.execute, LendingPoolConfigurator.setReserveInterestRateStrategyAddress,
        LendingPool.setReserveInterestRateStrategyAddress,
        LendingPool.onlyLendingPoolConfigurator, bind_eq_ok, require_eq_ok, exists_const,
        pure_eq_ok] at computed
      obtain ⟨_, _, _, rfl⟩ := computed
      by_cases same : asset = reserve
      · subst same
        simp only [LendingPool.setReserve, Function.update_self]
        exact .refl
      · simp only [LendingPool.setReserve, Function.update_of_ne same]
        exact .refl
  | setPoolPause =>
      simp only [AdminCall.execute, LendingPoolConfigurator.setPoolPause, LendingPool.setPause,
        LendingPool.onlyLendingPoolConfigurator, bind_eq_ok, require_eq_ok, exists_const,
        pure_eq_ok] at computed
      obtain ⟨_, _, _, rfl⟩ := computed
      exact .refl

namespace World

variable {world next : World}

theorem admitted_administered {env : Env} {pool after : LendingPool}
    (registered : pool.Registered) (admitted : ∀ a, (pool.reserves a).configuration.Admitted)
    (administered : Administered env pool after) :
    ∀ a, (after.reserves a).configuration.Admitted := by
  cases administered with
  | listed computed =>
      refine (LendingPool.listings_induction
        (fun p => ∀ a, (p.reserves a).configuration.Admitted) ?_ registered admitted computed).2
      intro p p' input configuration _ before listed a
      rw [listed.result]
      by_cases same : a = input.underlyingAsset
      · subst same
        simpa [LendingPool.setReserve, LendingPool.listedReserve] using listed.admitted (before _)
      · simpa [LendingPool.setReserve, same] using before a
  | @configured asset configuration kept =>
      intro a
      by_cases same : a = asset
      · subst same
        simpa [LendingPool.setReserve] using kept (admitted a)
      · simpa [LendingPool.setReserve, same] using admitted a
  | chosen asset =>
      intro a
      by_cases same : a = asset
      · subst same
        simpa [LendingPool.setReserve] using admitted a
      · simpa [LendingPool.setReserve, same] using admitted a
  | paused => exact admitted

theorem admitted_step {event : Event} (registered : world.pool.Registered)
    (admitted : ∀ a, (world.pool.reserves a).configuration.Admitted)
    (taken : world.step event = .ok next) :
    ∀ a, (next.pool.reserves a).configuration.Admitted := by
  rcases step_changes taken with ⟨administered, _, _⟩ | ⟨asset, underlying, _, result⟩ | operates
  · exact admitted_administered registered admitted administered
  · intro a
    rw [result]
    by_cases same : a = asset
    · subst same
      simpa [LendingPool.setReserve] using admitted a
    · simpa [LendingPool.setReserve, same] using admitted a
  · intro a
    rw [(operates.operations a).settings.configuration]
    exact admitted a

theorem Reachable.admitted (reached : world.Reachable) :
    ∀ a, (world.pool.reserves a).configuration.Admitted := by
  have both := Runs.Reachable.invariant
    (fun w : World => w.pool.Registered ∧ ∀ a, (w.pool.reserves a).configuration.Admitted)
    reached ?_ ?_
  · exact both.2
  · rintro s ⟨_, self, provider, ledgers, start⟩
    rw [start]
    exact ⟨LendingPool.registered_initialized self provider ledgers, fun _ => admitted_zero⟩
  · exact fun s event s' invariant taken =>
      ⟨registered_step invariant.1 taken, admitted_step invariant.1 invariant.2 taken⟩

/-- Whatever the configurator did, the collateral parameters fit together, and its next call leaves
every field it does not name as it is. -/
theorem Reachable.configuration_sound (reached : world.Reachable) :
    (∀ asset, (world.pool.reserves asset).configuration.Admitted) ∧
      ∀ (msgSender : Address) (call : AdminCall) (after : LendingPool),
        call.execute world.env world.pool msgSender = .ok after →
        ∀ (asset : Address) (field : ConfigField), field ∉ call.names asset →
          getField field.lane (after.reserves asset).configuration =
            getField field.lane (world.pool.reserves asset).configuration :=
  ⟨reached.admitted, fun _ _ _ executed _ field unnamed =>
    AdminCall.execute_rewrites executed field unnamed⟩

theorem configuration_sound_opened :
    ∃ world : World, ∃ after : LendingPool,
      Runs.run step Market.start (Market.opening 10 Market.strategy) = .ok world ∧
      (AdminCall.setReserveFactor 10 2000).execute world.env world.pool 3 = .ok after ∧
      (world.pool.reserves 10).configuration.Admitted ∧
      getField ltvLane (after.reserves 10).configuration =
        getField ltvLane (world.pool.reserves 10).configuration := by
  have outcome : yields (Runs.run step Market.start (Market.opening 10 Market.strategy))
      (fun world => yields ((AdminCall.setReserveFactor 10 2000).execute world.env world.pool 3)
        (fun _ => true)) := by
    decide +kernel
  obtain ⟨world, ran, later⟩ := yields_iff.1 outcome
  obtain ⟨after, executed, _⟩ := yields_iff.1 later
  obtain ⟨admitted, kept⟩ := Reachable.configuration_sound (Market.reachable_of_run ran)
  exact ⟨world, after, ran, executed, admitted 10,
    kept 3 (.setReserveFactor 10 2000) after executed 10 .ltv (by decide)⟩

end World

end PalmyProtocol
