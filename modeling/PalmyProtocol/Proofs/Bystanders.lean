import PalmyProtocol.Proofs.DepositsAuthorised
import PalmyProtocol.System.Footprints

set_option autoImplicit false

namespace PalmyProtocol

open Checked Footprint LendingPool Runs

def Key.Listed (pool : LendingPool) : Key → Prop
  | .cell asset _ => (pool.reserves asset).lTokenAddress ≠ 0
  | .config _ => True

namespace LendingPool

variable {env : Env} {pool after : LendingPool} {receiverAddress msgSender onBehalfOf : Address}

theorem openFlashLoan_touchesOnly {requests : List (Address × Nat × Option Nat)}
    {entries : List FlashLoanEntry}
    (computed : openFlashLoan receiverAddress pool requests = .ok (after, entries)) :
    TouchesOnly [] pool after := by
  induction requests generalizing pool entries with
  | nil =>
      cases computed
      exact .refl _ _
  | cons request rest ih =>
      obtain ⟨asset, amount, mode⟩ := request
      obtain ⟨lent, later, sent, opened, _⟩ := openFlashLoan_cons computed
      have here : TouchesOnly ([].map (.cell asset)) pool (pool.setReserve asset lent) :=
        touches_setReserve (Reserve.transferUnderlyingTo_touchesOnly sent)
      exact here.trans (ih opened)

def settleFootprint (pool : LendingPool) (msgSender onBehalfOf : Address)
    (entry : FlashLoanEntry) : List Key :=
  if entry.mode = some 0 then [pool.treasuryKey entry.asset]
  else pool.borrowFootprint entry.asset (entry.mode.getD 0) msgSender onBehalfOf

theorem settleFlashLoan_touchesOnly {entry : FlashLoanEntry}
    (computed : pool.settleFlashLoan env receiverAddress msgSender onBehalfOf entry = .ok after) :
    TouchesOnly (pool.settleFootprint msgSender onBehalfOf entry) pool after := by
  obtain ⟨rateMode, mode, entered, chosen, settled⟩ := settleFlashLoan_ok computed
  rcases settled with ⟨none, _, accrued, data, rated, funded, repaid⟩ | ⟨some, borrowed⟩
  · subst none
    rw [settleFootprint, if_pos (by rw [entered, eq_zero_of_none chosen])]
    have income : Reserve.TouchesOnly [] accrued { accrued with toReserveData := data } :=
      fun _ _ _ => rfl
    have reserve := (((Reserve.updateState_touchesOnly repaid.accrue).append income).append
      (Reserve.updateInterestRates_touchesOnly repaid.rate)).append
      (Reserve.transferUnderlyingFrom_touchesOnly repaid.fund)
    rw [repaid.result]
    exact touches_setReserve reserve
  · have borrows : entry.mode ≠ Option.some 0 := by
      rw [entered]
      rintro ⟨⟩
      cases chosen
      exact some rfl
    rw [settleFootprint, if_neg borrows, entered]
    exact executeBorrow_touchesOnly borrowed

theorem administered_touchesOnly (registered : pool.Registered)
    (administered : Administered env pool after) :
    Writes read (Key.Listed pool) [] pool after := by
  rintro (⟨asset, cell⟩ | user) listed _
  · obtain ⟨_, _, shape⟩ := administered_listed registered listed administered
    rw [read, shape]
    rfl
  · rw [read, World.administered_usersConfig registered administered, read]

end LendingPool

def Event.footprint (world : World) : Event → List Key
  | .call msgSender made => made.footprint world.pool msgSender
  | .settle =>
    match world.frames with
    | [] => []
    | frame :: _ =>
      match frame.pending with
      | [] => []
      | entry :: _ => world.pool.settleFootprint frame.msgSender frame.onBehalfOf entry
  | _ => []

namespace World

variable {world next : World}

def read (world : World) : Key → Nat := world.pool.read

theorem step_writes {event : Event} (registered : world.pool.Registered)
    (taken : world.step event = .ok next) :
    Writes read (Key.Listed world.pool) (event.footprint world) world next := by
  cases event with
  | call =>
      obtain ⟨_, _, pool, executed, rfl⟩ := step_call taken
      exact (Call.execute_touchesOnly executed).within
  | admin =>
      obtain ⟨pool, administered, rfl⟩ := step_admin taken
      exact administered_touchesOnly registered administered
  | flashLoan =>
      obtain ⟨pool, pending, run⟩ := step_flashLoan taken
      rw [run.result]
      exact (openFlashLoan_touchesOnly run.opened).within
  | executed =>
      obtain ⟨_, _, _, _, rfl⟩ := step_executed taken
      exact .refl _ _
  | settle =>
      obtain ⟨frame, rest, entry, pending, pool, run⟩ := step_settle taken
      rw [run.result]
      simp only [Event.footprint, run.stack, run.queue]
      exact (settleFlashLoan_touchesOnly run.settle).within
  | finish =>
      obtain ⟨_, _, _, _, rfl⟩ := step_finish taken
      exact .refl _ _
  | ledger asset underlying =>
      obtain ⟨_, rfl⟩ := step_ledger taken
      have reserve : Reserve.TouchesOnly [] (world.pool.reserves asset)
          { world.pool.reserves asset with underlying } := fun _ _ _ => rfl
      exact (touches_setReserve reserve).within
  | observe =>
      obtain ⟨_, _, rfl⟩ := step_observe taken
      exact .refl _ _

def Continues (start world : World) : Prop :=
  world.pool.Registered ∧ ∀ key : Key, key.Listed start.pool → key.Listed world.pool

theorem Continues.step {start : World} {event : Event} (continues : Continues start world)
    (taken : world.step event = .ok next) : Continues start next := by
  obtain ⟨registered, listed⟩ := continues
  refine ⟨registered_step registered taken, ?_⟩
  rintro (⟨asset, cell⟩ | user) before
  · have here : (world.pool.reserves asset).lTokenAddress ≠ 0 := listed (.cell asset cell) before
    rw [Key.Listed, step_address registered here taken]
    exact here
  · trivial

def footprint (world : World) (events : List Event) : List Key :=
  trace World.step (fun world event _ => event.footprint world) world events

/-- Whatever a run does, what none of its events names is as it was: the balances, allowances,
debts, stable rates and flags of the accounts that no event is about. -/
theorem Reachable.bystanders (reached : world.Reachable) {events : List Event}
    (ran : run step world events = .ok next) {key : Key} (listed : key.Listed world.pool)
    (unnamed : key ∉ world.footprint events) : next.read key = world.read key := by
  refine run_writes (Continues world) (fun _ _ _ continues taken => continues.step taken) ?_
    ⟨reached.registered, fun _ listed => listed⟩ ran key listed unnamed
  intro later event after continues taken key before
  exact step_writes continues.1 taken key (continues.2 key before)

def crowd : List Event :=
  [.call 101 (.deposit 10 (50 * WAD) 101), .call 101 (.borrow 10 (10 * WAD) 2 101),
    .flashLoan 102 103 [10] [5 * WAD] [0] 102, .executed, .settle, .finish,
    .call 101 (.repay 10 (4 * WAD) 2 101)]

theorem bystanders_crowd : ∃ world next,
    run step Market.start (Market.opening 10 Market.strategy ++
      [.call 100 (.deposit 10 (100 * WAD) 100)]) = .ok world ∧
      run step world crowd = .ok next ∧ world.read (.cell 10 (.lTokens 100)) ≠ 0 ∧
      next.read (.cell 10 (.lTokens 100)) = world.read (.cell 10 (.lTokens 100)) := by
  have outcome : yields (run step Market.start (Market.opening 10 Market.strategy ++
      [.call 100 (.deposit 10 (100 * WAD) 100)])) (fun world =>
        (world.pool.reserves 10).lTokenAddress ≠ 0 ∧
          world.read (.cell 10 (.lTokens 100)) ≠ 0 ∧
          .cell 10 (.lTokens 100) ∉ world.footprint crowd ∧
          yields (run step world crowd) (fun _ => true)) := by
    decide +kernel
  obtain ⟨world, opened, facts⟩ := yields_iff.1 outcome
  obtain ⟨listed, held, unnamed, later⟩ := of_decide_eq_true facts
  obtain ⟨next, ran, _⟩ := yields_iff.1 later
  exact ⟨world, next, opened, ran, held,
    Reachable.bystanders (Market.reachable_of_run opened) ran listed unnamed⟩

end World

end PalmyProtocol
