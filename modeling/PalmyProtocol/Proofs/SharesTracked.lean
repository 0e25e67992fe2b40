import PalmyProtocol.Proofs.Bystanders
import PalmyProtocol.System.ShareBooks

set_option autoImplicit false

namespace PalmyProtocol

open Checked LendingPool Runs

namespace Call

variable {env : Env} {pool after : LendingPool} {msgSender asset user : Address}

theorem execute_shifts {call : Call} (computed : call.execute env pool msgSender = .ok after) :
    Shifts asset user (Share.moved user (call.shares env pool asset msgSender)) pool after := by
  have quietly : call.shares env pool asset msgSender = [] →
      Reserve.Quiet (pool.reserves asset) (after.reserves asset) →
      Shifts asset user (Share.moved user (call.shares env pool asset msgSender)) pool after := by
    intro none quiet
    rw [none]
    exact quiet.shifts
  have elsewhere : asset ∉ call.assets → call.shares env pool asset msgSender = [] →
      Shifts asset user (Share.moved user (call.shares env pool asset msgSender)) pool after := by
    intro untouched none
    apply quietly none
    rw [execute_other untouched computed]
    exact .refl _
  cases call with
  | deposit a amount onBehalfOf =>
      by_cases same : a = asset
      · subst same
        simp only [shares, if_true]
        exact deposit_shifts computed
      · exact elsewhere (by simpa [assets] using Ne.symm same) (if_neg same)
  | withdraw a amount recipient =>
      by_cases same : a = asset
      · subst same
        simp only [execute, bind_eq_ok, Prod.exists, pure_eq_ok] at computed
        obtain ⟨_, _, computed, rfl⟩ := computed
        simp only [shares, if_true, computed]
        exact withdraw_shifts computed
      · exact elsewhere (by simpa [assets] using Ne.symm same) (if_neg same)
  | transfer a recipient amount =>
      by_cases same : a = asset
      · subst same
        simp only [shares, if_true]
        exact moveLTokens_shifts computed
      · exact elsewhere (by simpa [assets] using Ne.symm same) (if_neg same)
  | transferFrom a sender recipient amount =>
      by_cases same : a = asset
      · subst same
        simp only [execute, LendingPool.transferFrom, bind_eq_ok] at computed
        obtain ⟨moved, move, allowed⟩ := computed
        simp only [shares, if_true]
        have shifted : Shifts a user _ _ _ := moveLTokens_shifts move
        have spent : Reserve.Quiet (moved.reserves a) (after.reserves a) :=
          updateAllowance_quiet (fun _ _ => ERC20.spendAllowance_holdings) allowed
        have both := shifted.trans spent.shifts
        rwa [Int.add_zero] at both
      · exact elsewhere (by simpa [assets] using Ne.symm same) (if_neg same)
  | liquidationCall => exact liquidationCall_shifts computed
  | borrow =>
      simp only [execute, LendingPool.borrow, bind_eq_ok] at computed
      obtain ⟨_, _, computed⟩ := computed
      exact quietly rfl (executeBorrow_quiet computed)
  | repay =>
      simp only [execute, bind_eq_ok, Prod.exists, pure_eq_ok] at computed
      obtain ⟨_, _, computed, rfl⟩ := computed
      exact quietly rfl (repay_quiet computed)
  | swapBorrowRateMode => exact quietly rfl (swapBorrowRateMode_quiet computed)
  | rebalanceStableBorrowRate => exact quietly rfl (rebalanceStableBorrowRate_quiet computed)
  | setUserUseReserveAsCollateral =>
      exact quietly rfl (setUserUseReserveAsCollateral_quiet computed)
  | approve =>
      exact quietly rfl (updateAllowance_quiet (fun _ _ => ERC20.approve_holdings) computed)
  | increaseAllowance =>
      exact quietly rfl
        (updateAllowance_quiet (fun _ _ => ERC20.increaseAllowance_holdings) computed)
  | decreaseAllowance =>
      exact quietly rfl
        (updateAllowance_quiet (fun _ _ => ERC20.decreaseAllowance_holdings) computed)
  | approveStableDelegation | approveVariableDelegation =>
      simp only [execute, LendingPool.approveStableDelegation,
        LendingPool.approveVariableDelegation, bind_eq_ok, pure_eq_ok] at computed
      obtain ⟨_, _, rfl⟩ := computed
      exact quietly rfl (quiet_setReserve (Reserve.quiet_of_same rfl))

end Call

namespace World

variable {world next : World} {asset user : Address}

def shares (asset : Address) (world : World) : Event → List Share
  | .call msgSender call => call.shares world.env world.pool asset msgSender
  | _ => []

theorem step_shifts {event : Event} (registered : world.pool.Registered)
    (listed : (world.pool.reserves asset).lTokenAddress ≠ 0)
    (taken : world.step event = .ok next) :
    Shifts asset user (Share.moved user (world.shares asset event)) world.pool next.pool := by
  cases event with
  | call msgSender call =>
      obtain ⟨_, _, _, executed, rfl⟩ := step_call taken
      exact Call.execute_shifts executed
  | _ =>
      rcases step_lTokens registered listed taken with ⟨_, _, _, _, _, _, named, _⟩ | quiet
      · cases named
      · exact quiet.shifts

def shareBook (world : World) (asset user : Address) (events : List Event) : List Share :=
  trace World.step (fun world event _ =>
    (world.shares asset event).filter fun share => share.account = user) world events

structure Holding (asset user : Address) (world : World) : Prop where
  registered : world.pool.Registered
  listed : (world.pool.reserves asset).lTokenAddress ≠ 0
  holder : user ≠ (world.pool.reserves asset).lToken.treasury

theorem Holding.step {event : Event} (holding : Holding asset user world)
    (taken : world.step event = .ok next) : Holding asset user next where
  registered := registered_step holding.registered taken
  listed := by
    rw [step_address holding.registered holding.listed taken]
    exact holding.listed
  holder := by
    have shifts : Shifts asset user _ _ _ := step_shifts holding.registered holding.listed taken
    rw [shifts.treasury]
    exact holding.holder

theorem Holding.booked (holding : Holding asset user world) {events : List Event}
    (ran : run World.step world events = .ok next) :
    ((next.pool.held asset user : Nat) : Int) =
      world.pool.held asset user + ((world.shareBook asset user events).map Share.scaled).sum := by
  refine trace_sum (Holding asset user) (fun _ => True)
    (fun world => (world.pool.held asset user : Int)) Share.scaled
    (fun _ _ _ holding taken => holding.step taken) ?_ holding (fun _ _ => trivial) ran
  intro world event next holding taken _
  exact (step_shifts holding.registered holding.listed taken).balance holding.holder

/-- Shares are rounded each time they move, and the rounding does not pile up: over any run an
account's scaled balance stays with the exact worth of what it was given and gave up, but for half
a share each time. -/
theorem Reachable.deposits_tracked (reached : world.Reachable)
    (listed : (world.pool.reserves asset).lTokenAddress ≠ 0)
    (holder : user ≠ (world.pool.reserves asset).lToken.treasury) {events : List Event}
    (ran : run step world events = .ok next) :
    |(next.pool.held asset user : ℚ) -
        (world.pool.held asset user + ((world.shareBook asset user events).map Share.worth).sum)| ≤
      (world.shareBook asset user events).length * (1 / 2) := by
  have holding : Holding asset user world := ⟨reached.registered, listed, holder⟩
  exact Share.tracked (holding.booked ran)

def savings : List Event :=
  [.call 100 (.deposit 10 (100 * WAD) 100), .call 101 (.deposit 10 (50 * WAD) 101),
    .call 101 (.borrow 10 (10 * WAD) 2 101), .observe (Market.env 31536001 Market.year_in_time),
    .call 100 (.transfer 10 101 (7 * WAD)), .call 100 (.withdraw 10 (20 * WAD) 100)]

theorem deposits_tracked_savings : ∃ world next,
    run step Market.start (Market.opening 10 Market.strategy) = .ok world ∧
      run step world savings = .ok next ∧ (world.shareBook 10 100 savings).length = 3 ∧
      |(next.pool.held 10 100 : ℚ) - (world.pool.held 10 100 +
          ((world.shareBook 10 100 savings).map Share.worth).sum)| ≤
        (world.shareBook 10 100 savings).length * (1 / 2) := by
  have opened : yields (run step Market.start (Market.opening 10 Market.strategy)) (fun world =>
      (world.pool.reserves 10).lTokenAddress ≠ 0 ∧
        100 ≠ (world.pool.reserves 10).lToken.treasury ∧
        yields (run step world savings) fun _ =>
          (world.shareBook 10 100 savings).length = 3) := by
    decide +kernel
  obtain ⟨world, ran, facts⟩ := yields_iff.1 opened
  obtain ⟨listed, holder, later⟩ := of_decide_eq_true facts
  obtain ⟨next, saved, booked⟩ := yields_iff.1 later
  exact ⟨world, next, ran, saved, of_decide_eq_true booked,
    Reachable.deposits_tracked (Market.reachable_of_run ran) listed holder saved⟩

end World

end PalmyProtocol
