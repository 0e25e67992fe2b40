import PalmyProtocol.Proofs.SharesTracked
import PalmyProtocol.System.DebtBooks

set_option autoImplicit false

namespace PalmyProtocol

open Checked Footprint LendingPool Runs

namespace LendingPool

variable {env : Env} {pool after : LendingPool} {asset user : Address}

theorem debtShifts_of_read (same : after.read (.cell asset (.variableDebt user)) =
    pool.read (.cell asset (.variableDebt user))) : DebtShifts asset user 0 pool after := by
  rw [DebtShifts, Reserve.DebtShifts, Int.add_zero]
  exact congrArg Nat.cast same

end LendingPool

namespace Call

variable {env : Env} {pool after : LendingPool} {msgSender asset user : Address}

theorem execute_debtShifts {call : Call} (computed : call.execute env pool msgSender = .ok after) :
    DebtShifts asset user (Share.moved user (call.debtShares env pool asset msgSender))
      pool after := by
  have touches := execute_touchesOnly computed
  have elsewhere : asset ∉ call.assets → call.debtShares env pool asset msgSender = [] →
      DebtShifts asset user (Share.moved user (call.debtShares env pool asset msgSender))
        pool after := by
    intro untouched none
    rw [none]
    apply Reserve.DebtShifts.of_same
    rw [execute_other untouched computed]
  cases call with
  | borrow a amount interestRateMode onBehalfOf =>
      by_cases same : a = asset
      · subst same
        simp only [execute, LendingPool.borrow, bind_eq_ok] at computed
        obtain ⟨_, _, computed⟩ := computed
        have shifts : DebtShifts a user _ _ _ := executeBorrow_debtShifts computed
        by_cases stable : interestRateMode = 1 <;> simpa [debtShares, stable] using shifts
      · exact elsewhere (by simpa [assets] using Ne.symm same) (if_neg fun both => same both.1)
  | repay a amount rateMode onBehalfOf =>
      by_cases same : a = asset
      · subst same
        simp only [execute, bind_eq_ok, Prod.exists, pure_eq_ok] at computed
        obtain ⟨_, _, computed, rfl⟩ := computed
        have shifts : DebtShifts a user _ _ _ := repay_debtShifts computed
        by_cases stable : rateMode = 1 <;> simpa [debtShares, stable, computed] using shifts
      · exact elsewhere (by simpa [assets] using Ne.symm same) (if_neg fun both => same both.1)
  | swapBorrowRateMode a rateMode =>
      by_cases same : a = asset
      · subst same
        exact swapBorrowRateMode_debtShifts computed
      · exact elsewhere (by simpa [assets] using Ne.symm same) (if_neg same)
  | liquidationCall collateralAsset debtAsset borrower debtToCover receiveLToken =>
      by_cases same : debtAsset = asset
      · subst same
        exact liquidationCall_debtShifts computed
      · simp only [debtShares, if_neg same, Share.moved_nil]
        refine debtShifts_of_read (touches _ trivial ?_)
        cases receiveLToken <;> simp [footprint, treasuryKey, Cell.stablePosition, Ne.symm same]
  | _ =>
      simp only [debtShares, Share.moved_nil]
      refine debtShifts_of_read (touches _ trivial ?_)
      simp [footprint, treasuryKey, Cell.stablePosition]

end Call

namespace World

variable {world next : World} {asset user : Address}

def debtShares (asset : Address) (world : World) : Event → List Share
  | .call msgSender call => call.debtShares world.env world.pool asset msgSender
  | .settle =>
    match world.frames with
    | [] => []
    | frame :: _ =>
      match frame.pending with
      | [] => []
      | entry :: _ =>
        if entry.asset = asset ∧ entry.mode = some 2 then
          [.given frame.onBehalfOf entry.amount (world.pool.debtIndex world.env asset)]
        else []
  | _ => []

theorem settle_debtShifts {frame : Frame} {rest : List Frame} {entry : FlashLoanEntry}
    {pending : List FlashLoanEntry} {pool : LendingPool}
    (run : Settled world frame rest entry pending pool next) :
    DebtShifts asset user (Share.moved user (world.debtShares asset .settle)) world.pool pool := by
  simp only [debtShares, run.stack, run.queue]
  by_cases same : entry.asset = asset
  · subst same
    obtain ⟨rateMode, mode, entered, chosen, ⟨none, _⟩ | ⟨some, borrowed⟩⟩ :=
      settleFlashLoan_ok run.settle
    · subst none
      obtain rfl := eq_zero_of_none chosen
      have touches := settleFlashLoan_touchesOnly run.settle
      rw [settleFootprint, if_pos entered] at touches
      rw [if_neg (by simp [entered])]
      exact debtShifts_of_read (touches _ trivial (by simp [treasuryKey]))
    · have shifts : DebtShifts entry.asset user _ _ _ := executeBorrow_debtShifts borrowed
      rcases toInterestRateMode_ok chosen with ⟨_, rfl⟩ | ⟨rfl, _⟩ | ⟨rfl, _⟩
      · exact absurd rfl some
      · simpa [entered] using shifts
      · simpa [entered] using shifts
  · rw [if_neg fun both => same both.1]
    apply Reserve.DebtShifts.of_same
    rw [settleFlashLoan_other (Ne.symm same) run.settle]

theorem step_debtShifts {event : Event} (registered : world.pool.Registered)
    (listed : (world.pool.reserves asset).lTokenAddress ≠ 0)
    (taken : world.step event = .ok next) :
    DebtShifts asset user (Share.moved user (world.debtShares asset event))
      world.pool next.pool := by
  cases event with
  | call msgSender call =>
      obtain ⟨_, _, _, executed, rfl⟩ := step_call taken
      exact Call.execute_debtShifts executed
  | settle =>
      obtain ⟨frame, rest, entry, pending, pool, run⟩ := step_settle taken
      have shifts : DebtShifts asset user _ _ _ := settle_debtShifts run
      rw [run.result]
      exact shifts
  | _ =>
      have same := step_writes registered taken (.cell asset (.variableDebt user)) listed
        (by simp [Event.footprint])
      exact debtShifts_of_read same

def debtBook (world : World) (asset user : Address) (events : List Event) : List Share :=
  trace World.step (fun world event _ =>
    (world.debtShares asset event).filter fun share => share.account = user) world events

/-- The same of variable debts: rounding never moves what an account owes by more than half a share
for each time it borrowed, repaid, swapped or was liquidated. -/
theorem Reachable.debts_tracked (reached : world.Reachable)
    (listed : (world.pool.reserves asset).lTokenAddress ≠ 0) {events : List Event}
    (ran : run step world events = .ok next) :
    |((next.pool.reserves asset).variableDebtToken.scaledBalanceOf user : ℚ) -
        ((world.pool.reserves asset).variableDebtToken.scaledBalanceOf user +
          ((world.debtBook asset user events).map Share.worth).sum)| ≤
      (world.debtBook asset user events).length * (1 / 2) := by
  refine Share.tracked (trace_sum
    (fun later => later.pool.Registered ∧ (later.pool.reserves asset).lTokenAddress ≠ 0)
    (fun _ => True)
    (fun later => ((later.pool.reserves asset).variableDebtToken.scaledBalanceOf user : Int))
    Share.scaled ?_ ?_ ⟨reached.registered, listed⟩ (fun _ _ => trivial) ran)
  · intro later event after ⟨registered, there⟩ taken
    refine ⟨registered_step registered taken, ?_⟩
    rw [step_address registered there taken]
    exact there
  · intro later event after ⟨registered, there⟩ taken _
    exact step_debtShifts registered there taken

def instalments : List Event :=
  [.call 100 (.deposit 10 (100 * WAD) 100), .call 101 (.deposit 20 (50 * WAD) 101),
    .call 101 (.borrow 10 (10 * WAD) 2 101), .observe (Market.env 31536001 Market.year_in_time),
    .call 101 (.repay 10 (3 * WAD) 2 101), .call 101 (.swapBorrowRateMode 10 2)]

theorem debts_tracked_instalments : ∃ world next,
    run step Market.start (Market.opening 10 Market.strategy ++
      Market.opening 20 Market.strategy) = .ok world ∧
      run step world instalments = .ok next ∧ (world.debtBook 10 101 instalments).length = 3 ∧
      |((next.pool.reserves 10).variableDebtToken.scaledBalanceOf 101 : ℚ) -
          ((world.pool.reserves 10).variableDebtToken.scaledBalanceOf 101 +
            ((world.debtBook 10 101 instalments).map Share.worth).sum)| ≤
        (world.debtBook 10 101 instalments).length * (1 / 2) := by
  have opened : yields (run step Market.start (Market.opening 10 Market.strategy ++
      Market.opening 20 Market.strategy)) (fun world =>
      (world.pool.reserves 10).lTokenAddress ≠ 0 ∧
        yields (run step world instalments) fun _ =>
          (world.debtBook 10 101 instalments).length = 3) := by
    decide +kernel
  obtain ⟨world, ran, facts⟩ := yields_iff.1 opened
  obtain ⟨listed, later⟩ := of_decide_eq_true facts
  obtain ⟨next, paid, booked⟩ := yields_iff.1 later
  exact ⟨world, next, ran, paid, of_decide_eq_true booked,
    Reachable.debts_tracked (Market.reachable_of_run ran) listed paid⟩

end World

end PalmyProtocol
