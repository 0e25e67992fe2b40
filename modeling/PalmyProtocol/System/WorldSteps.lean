import PalmyProtocol.Pool.ReserveSteps
import PalmyProtocol.System.Administration

set_option autoImplicit false

namespace PalmyProtocol

open Checked Rounding LendingPool

variable {env : Env} {pool after : LendingPool} {msgSender : Address}

theorem Call.execute_operates {call : Call} (computed : call.execute env pool msgSender = .ok after) :
    Operates env pool after := by
  cases call with
  | deposit => exact deposit_operates computed
  | withdraw =>
      simp only [execute, bind_eq_ok, Prod.exists, pure_eq_ok] at computed
      obtain ⟨_, _, computed, rfl⟩ := computed
      exact withdraw_operates computed
  | borrow =>
      simp only [execute, LendingPool.borrow, bind_eq_ok] at computed
      obtain ⟨_, _, computed⟩ := computed
      exact executeBorrow_operates computed
  | repay =>
      simp only [execute, bind_eq_ok, Prod.exists, pure_eq_ok] at computed
      obtain ⟨_, _, computed, rfl⟩ := computed
      exact repay_operates computed
  | swapBorrowRateMode => exact swapBorrowRateMode_operates computed
  | rebalanceStableBorrowRate => exact rebalanceStableBorrowRate_operates computed
  | setUserUseReserveAsCollateral => exact setUserUseReserveAsCollateral_operates computed
  | liquidationCall => exact liquidationCall_operates computed
  | transfer => exact moveLTokens_operates computed
  | transferFrom =>
      simp only [execute, LendingPool.transferFrom, bind_eq_ok] at computed
      obtain ⟨_, moved, allowed⟩ := computed
      exact (moveLTokens_operates moved).trans
        (updateAllowance_operates (fun _ _ => ERC20.spendAllowance_holdings) allowed)
  | approve => exact updateAllowance_operates (fun _ _ => ERC20.approve_holdings) computed
  | increaseAllowance =>
      exact updateAllowance_operates (fun _ _ => ERC20.increaseAllowance_holdings) computed
  | decreaseAllowance =>
      exact updateAllowance_operates (fun _ _ => ERC20.decreaseAllowance_holdings) computed
  | approveStableDelegation =>
      simp only [execute, LendingPool.approveStableDelegation, bind_eq_ok, pure_eq_ok] at computed
      obtain ⟨_, _, rfl⟩ := computed
      exact operates_setReserve (.single (.delegateStable _))
  | approveVariableDelegation =>
      simp only [execute, LendingPool.approveVariableDelegation, bind_eq_ok, pure_eq_ok] at computed
      obtain ⟨_, _, rfl⟩ := computed
      exact operates_setReserve (.single (.delegateVariable _))

theorem Administered.evolves (administered : Administered env pool after) :
    (∃ input : List InitReserveInput,
      input.foldlM (LendingPoolConfigurator.initReserve env) pool = .ok after) ∨
    Evolves env pool after := by
  cases administered with
  | listed computed => exact .inl ⟨_, computed⟩
  | configured admitted => exact .inr (evolves_setReserve (.single (.configure _)))
  | chosen asset strategy => exact .inr (evolves_setReserve (.single (.choose _)))
  | paused paused => exact .inr ⟨⟨rfl, rfl, rfl, rfl, rfl, rfl, rfl⟩, fun _ => .refl⟩

namespace World

variable {world next : World}

theorem step_call {call : Call} (taken : world.step (.call msgSender call) = .ok next) :
    world.idle = true ∧ ¬world.pool.IsProtocol msgSender ∧ ∃ pool,
      call.execute world.env world.pool msgSender = .ok pool ∧ next = world.withPool pool := by
  simp only [step, bind_eq_ok, require_eq_ok, exists_const, pure_eq_ok] at taken
  obtain ⟨⟨idle, outside⟩, pool, executed, rfl⟩ := taken
  exact ⟨idle, outside, pool, executed, rfl⟩

theorem step_admin {call : AdminCall} (taken : world.step (.admin msgSender call) = .ok next) :
    ∃ pool, Administered world.env world.pool pool ∧ next = world.withPool pool := by
  simp only [step, bind_eq_ok, require_eq_ok, exists_const, pure_eq_ok] at taken
  obtain ⟨_, pool, executed, rfl⟩ := taken
  exact ⟨pool, AdminCall.execute_administers executed, rfl⟩

structure Lent (world : World) (msgSender receiverAddress : Address) (assets : List Address)
    (amounts modes : List Nat) (onBehalfOf : Address) (pool : LendingPool)
    (pending : List FlashLoanEntry) (next : World) : Prop where
  sender : ¬world.pool.IsProtocol msgSender
  receiver : ¬world.pool.IsProtocol receiverAddress
  lengths : assets.length = amounts.length
  opened : openFlashLoan receiverAddress world.pool (flashLoanRequests assets amounts modes) =
    .ok (pool, pending)
  result : next = { world with
    pool
    frames := ⟨receiverAddress, msgSender, onBehalfOf, pending, false⟩ :: world.frames }

theorem step_flashLoan {receiverAddress onBehalfOf : Address} {assets : List Address}
    {amounts modes : List Nat}
    (taken : world.step (.flashLoan msgSender receiverAddress assets amounts modes onBehalfOf) =
      .ok next) :
    ∃ pool pending, Lent world msgSender receiverAddress assets amounts modes onBehalfOf pool
      pending next := by
  simp only [step, flashLoan, ValidationLogic.validateFlashloan, bind_eq_ok, require_eq_ok,
    exists_const, Prod.exists, pure_eq_ok] at taken
  obtain ⟨⟨_, sender, receiver⟩, _, _, lengths, pool, pending, opened, rfl⟩ := taken
  exact ⟨pool, pending, sender, receiver, lengths, opened, rfl⟩

theorem step_executed (taken : world.step .executed = .ok next) :
    ∃ frame rest, world.frames = frame :: rest ∧ frame.settling = false ∧
      next = { world with frames := { frame with settling := true } :: rest } := by
  cases stack : world.frames with
  | nil => simp [step, stack] at taken
  | cons frame rest =>
      simp only [step, stack, bind_eq_ok, require_eq_ok, exists_const, pure_eq_ok] at taken
      obtain ⟨running, rfl⟩ := taken
      exact ⟨frame, rest, rfl, running, rfl⟩

structure Settled (world : World) (frame : Frame) (rest : List Frame) (entry : FlashLoanEntry)
    (pending : List FlashLoanEntry) (pool : LendingPool) (next : World) : Prop where
  stack : world.frames = frame :: rest
  queue : frame.pending = entry :: pending
  settling : frame.settling = true
  settle : world.pool.settleFlashLoan world.env frame.receiverAddress frame.msgSender
    frame.onBehalfOf entry = .ok pool
  result : next = { world with pool, frames := { frame with pending } :: rest }

theorem step_settle (taken : world.step .settle = .ok next) :
    ∃ frame rest entry pending pool, Settled world frame rest entry pending pool next := by
  cases stack : world.frames with
  | nil => simp [step, stack] at taken
  | cons frame rest =>
      cases queue : frame.pending with
      | nil => simp [step, stack, queue] at taken
      | cons entry pending =>
          simp only [step, stack, queue, bind_eq_ok, require_eq_ok, exists_const,
            pure_eq_ok] at taken
          obtain ⟨settling, pool, settle, rfl⟩ := taken
          exact ⟨frame, rest, entry, pending, pool, stack, queue, settling, settle, rfl⟩

theorem step_finish (taken : world.step .finish = .ok next) :
    ∃ frame rest, world.frames = frame :: rest ∧ frame.pending = [] ∧
      next = { world with frames := rest } := by
  cases stack : world.frames with
  | nil => simp [step, stack] at taken
  | cons frame rest =>
      simp only [step, stack, bind_eq_ok, require_eq_ok, exists_const, pure_eq_ok,
        List.isEmpty_iff] at taken
      obtain ⟨⟨_, empty⟩, rfl⟩ := taken
      exact ⟨frame, rest, rfl, empty, rfl⟩

theorem step_ledger {asset : Address} {underlying : ERC20}
    (taken : world.step (.ledger asset underlying) = .ok next) :
    (world.pool.reserves asset).availableLiquidity ≤
        underlying.balances (world.pool.reserves asset).lTokenAddress ∧
      next = world.withPool
        (world.pool.setReserve asset { world.pool.reserves asset with underlying }) := by
  simp only [step, bind_eq_ok, require_eq_ok, exists_const, pure_eq_ok] at taken
  obtain ⟨⟨_, kept⟩, rfl⟩ := taken
  exact ⟨kept, rfl⟩

theorem step_observe (taken : world.step (.observe env) = .ok next) :
    world.env.timestamp ≤ env.timestamp ∧
      (world.frames = [] ∨ env.timestamp = world.env.timestamp) ∧
      next = { world with env } := by
  simp only [step, bind_eq_ok, require_eq_ok, exists_const, pure_eq_ok, List.isEmpty_iff] at taken
  obtain ⟨⟨_, order, still⟩, rfl⟩ := taken
  exact ⟨order, still, rfl⟩

theorem step_clock {event : Event} (taken : world.step event = .ok next) :
    world.env.timestamp ≤ next.env.timestamp := by
  cases event with
  | call =>
      obtain ⟨_, _, _, _, rfl⟩ := step_call taken
      exact le_refl _
  | admin =>
      obtain ⟨_, _, rfl⟩ := step_admin taken
      exact le_refl _
  | flashLoan =>
      obtain ⟨_, _, run⟩ := step_flashLoan taken
      rw [run.result]
  | executed =>
      obtain ⟨_, _, _, _, rfl⟩ := step_executed taken
      exact le_refl _
  | settle =>
      obtain ⟨_, _, _, _, _, run⟩ := step_settle taken
      rw [run.result]
  | finish =>
      obtain ⟨_, _, _, _, rfl⟩ := step_finish taken
      exact le_refl _
  | ledger =>
      obtain ⟨_, rfl⟩ := step_ledger taken
      exact le_refl _
  | observe =>
      obtain ⟨later, _, rfl⟩ := step_observe taken
      exact later

theorem step_time {event : Event} (taken : world.step event = .ok next) :
    next.env = world.env ∨ ∃ env, event = .observe env ∧ next = { world with env } := by
  cases event with
  | call =>
      obtain ⟨_, _, _, _, rfl⟩ := step_call taken
      exact .inl rfl
  | admin =>
      obtain ⟨_, _, rfl⟩ := step_admin taken
      exact .inl rfl
  | flashLoan =>
      obtain ⟨_, _, run⟩ := step_flashLoan taken
      rw [run.result]
      exact .inl rfl
  | executed =>
      obtain ⟨_, _, _, _, rfl⟩ := step_executed taken
      exact .inl rfl
  | settle =>
      obtain ⟨_, _, _, _, _, run⟩ := step_settle taken
      rw [run.result]
      exact .inl rfl
  | finish =>
      obtain ⟨_, _, _, _, rfl⟩ := step_finish taken
      exact .inl rfl
  | ledger =>
      obtain ⟨_, rfl⟩ := step_ledger taken
      exact .inl rfl
  | observe env =>
      obtain ⟨_, _, rfl⟩ := step_observe taken
      exact .inr ⟨env, rfl, rfl⟩

theorem step_changes {event : Event} (taken : world.step event = .ok next) :
    (Administered world.env world.pool next.pool ∧ next.frames = world.frames ∧
      next.env = world.env) ∨
    (∃ asset underlying, (world.pool.reserves asset).availableLiquidity ≤
        underlying.balances (world.pool.reserves asset).lTokenAddress ∧
      next.pool = world.pool.setReserve asset { world.pool.reserves asset with underlying }) ∨
    Operates world.env world.pool next.pool := by
  cases event with
  | call msgSender call =>
      obtain ⟨_, _, pool, executed, rfl⟩ := step_call taken
      exact .inr (.inr (Call.execute_operates executed))
  | admin msgSender call =>
      obtain ⟨pool, administered, rfl⟩ := step_admin taken
      exact .inl ⟨administered, rfl, rfl⟩
  | flashLoan =>
      obtain ⟨pool, pending, run⟩ := step_flashLoan taken
      rw [run.result]
      exact .inr (.inr (openFlashLoan_operates run.opened))
  | executed =>
      obtain ⟨_, _, _, _, rfl⟩ := step_executed taken
      exact .inr (.inr (.refl _))
  | settle =>
      obtain ⟨_, _, _, _, pool, run⟩ := step_settle taken
      rw [run.result]
      exact .inr (.inr (settleFlashLoan_operates run.settle))
  | finish =>
      obtain ⟨_, _, _, _, rfl⟩ := step_finish taken
      exact .inr (.inr (.refl _))
  | ledger =>
      obtain ⟨kept, rfl⟩ := step_ledger taken
      exact .inr (.inl ⟨_, _, kept, rfl⟩)
  | observe =>
      obtain ⟨_, _, rfl⟩ := step_observe taken
      exact .inr (.inr (.refl _))

-- A listing apart, whatever happens next is steps of the reserves under the present clock.
theorem step_evolves {event : Event} (taken : world.step event = .ok next) :
    (∃ input : List InitReserveInput, next.frames = world.frames ∧ next.env = world.env ∧
      input.foldlM (LendingPoolConfigurator.initReserve world.env) world.pool = .ok next.pool) ∨
    Evolves world.env world.pool next.pool := by
  rcases step_changes taken with ⟨administered, frames, env⟩ | ⟨_, _, kept, result⟩ | operates
  · rcases administered.evolves with ⟨input, listed⟩ | evolves
    · exact .inl ⟨input, frames, env, listed⟩
    · exact .inr evolves
  · rw [result]
    exact .inr (evolves_setReserve (.single (.ledger kept)))
  · exact .inr operates.evolves

end World

end PalmyProtocol
