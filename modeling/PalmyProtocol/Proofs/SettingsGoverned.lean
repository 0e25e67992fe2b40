import PalmyProtocol.System.Settings

set_option autoImplicit false

namespace PalmyProtocol

open Checked LendingPool Runs

open LendingPoolConfigurator in
theorem AdminCall.execute_administrator {env : Env} {pool after : LendingPool}
    {msgSender : Address} {call : AdminCall}
    (computed : call.execute env pool msgSender = .ok after) :
    msgSender = call.administrator pool.addressesProvider := by
  cases call with
  | batchInitReserve =>
      simp only [execute, LendingPoolConfigurator.batchInitReserve, onlyPoolAdmin, bind_eq_ok,
        require_eq_ok, exists_const] at computed
      exact computed.1.symm
  | setPoolPause =>
      simp only [execute, LendingPoolConfigurator.setPoolPause, onlyEmergencyAdmin, bind_eq_ok,
        require_eq_ok, exists_const] at computed
      exact computed.1.symm
  | setReserveInterestRateStrategyAddress =>
      simp only [execute, LendingPoolConfigurator.setReserveInterestRateStrategyAddress,
        onlyPoolAdmin, bind_eq_ok, require_eq_ok, exists_const] at computed
      exact computed.1.symm
  | _ =>
      simp only [execute] at computed
      exact (updateConfiguration_admin computed).symm

def Event.adminCall : Event → Option AdminCall
  | .admin _ made => some made
  | _ => none

namespace World

variable {world next : World}

theorem step_provider {event : Event} (registered : world.pool.Registered)
    (taken : world.step event = .ok next) :
    next.pool.addressesProvider = world.pool.addressesProvider := by
  rcases step_evolves taken with ⟨_, _, _, computed⟩ | evolves
  · refine (listings_induction
      (fun pool => pool.addressesProvider = world.pool.addressesProvider) ?_ registered rfl
      computed).2
    intro before after input configuration _ same listed
    rw [listed.result]
    exact same
  · exact evolves.registry.addressesProvider

structure Governed (provider : AddressesProvider) (world : World) : Prop where
  registered : world.pool.Registered
  provider : world.pool.addressesProvider = provider

theorem Governed.step {provider : AddressesProvider} {event : Event}
    (governed : Governed provider world) (taken : world.step event = .ok next) :
    Governed provider next :=
  ⟨registered_step governed.registered taken,
    (step_provider governed.registered taken).trans governed.provider⟩

theorem settings_projects (provider : AddressesProvider) :
    Projects step (Governed provider) (fun world => world.pool.settings) Event.adminCall
      Settings.apply where
  preserved _ _ _ governed taken := governed.step taken
  shown := by
    intro world event next call governed taken shown
    cases event with
    | admin msgSender made =>
        cases shown
        simp only [step, bind_eq_ok, require_eq_ok, exists_const, pure_eq_ok] at taken
        obtain ⟨_, _, executed, rfl⟩ := taken
        exact AdminCall.execute_settings governed.registered executed
    | _ => cases shown
  hidden := by
    intro world event next _ taken hidden
    cases event with
    | admin => cases hidden
    | call =>
        obtain ⟨_, _, _, executed, rfl⟩ := step_call taken
        exact (Call.execute_operates executed).settings (Call.execute_paused_same executed)
    | flashLoan =>
        obtain ⟨_, _, run⟩ := step_flashLoan taken
        have opened : Operates world.env _ _ := openFlashLoan_operates run.opened
        rw [run.result]
        exact opened.settings (openFlashLoan_paused run.opened)
    | executed =>
        obtain ⟨_, _, _, _, rfl⟩ := step_executed taken
        rfl
    | settle =>
        obtain ⟨_, _, _, _, _, run⟩ := step_settle taken
        rw [run.result]
        exact (settleFlashLoan_operates run.settle).settings (settleFlashLoan_paused run.settle)
    | finish =>
        obtain ⟨_, _, _, _, rfl⟩ := step_finish taken
        rfl
    | ledger asset underlying =>
        obtain ⟨_, rfl⟩ := step_ledger taken
        rw [withPool, settings_setReserve]
        exact Settings.change_same _ rfl
    | observe =>
        obtain ⟨_, _, rfl⟩ := step_observe taken
        rfl

/-- Nobody but the administrators has a say in the settings: at the end of any run the word of
every reserve reads, field by field, what the administrators' calls of the run make of the settings
at its start, and so do the strategies, the tokens, the list and the pause, whatever the other
events are and however they come between. -/
theorem Reachable.settings_governed (reached : world.Reachable) {events : List Event}
    (ran : run step world events = .ok next) :
    next.pool.settings =
        (events.filterMap Event.adminCall).foldl Settings.apply world.pool.settings ∧
      ∀ msgSender call, .admin msgSender call ∈ events →
        msgSender = call.administrator world.pool.addressesProvider := by
  have governed : Governed world.pool.addressesProvider world := ⟨reached.registered, rfl⟩
  refine ⟨(settings_projects _).run governed ran, fun msgSender call member => ?_⟩
  obtain ⟨before, rest, split⟩ := List.append_of_mem member
  rw [split] at ran
  obtain ⟨earlier, later, first, taken, _⟩ := run_split ran
  have kept : Governed world.pool.addressesProvider earlier :=
    run_invariant (fun _ _ _ governed taken => governed.step taken) governed first
  simp only [step, bind_eq_ok, require_eq_ok, exists_const, pure_eq_ok] at taken
  obtain ⟨_, _, executed, _⟩ := taken
  rw [← kept.provider]
  exact AdminCall.execute_administrator executed

def reforms : List Event :=
  [.call 100 (.deposit 10 (100 * WAD) 100), .admin 3 (.setReserveFactor 10 1000),
    .call 100 (.borrow 10 (10 * WAD) 2 100), .admin 3 (.freezeReserve 10),
    .admin 4 (.setPoolPause true), .admin 3 (.batchInitReserve [Market.listing 20 Market.strategy])]

theorem settings_governed_reforms : ∃ world next,
    run step Market.start (Market.opening 10 Market.strategy) = .ok world ∧
      run step world reforms = .ok next ∧ next.pool.settings =
        (reforms.filterMap Event.adminCall).foldl Settings.apply world.pool.settings := by
  have outcome : yields (run step Market.start (Market.opening 10 Market.strategy)) (fun world =>
      yields (run step world reforms) (fun _ => true)) := by
    decide +kernel
  obtain ⟨world, opened, facts⟩ := yields_iff.1 outcome
  obtain ⟨next, ran, _⟩ := yields_iff.1 facts
  exact ⟨world, next, opened, ran,
    (Reachable.settings_governed (Market.reachable_of_run opened) ran).1⟩

end World

end PalmyProtocol
