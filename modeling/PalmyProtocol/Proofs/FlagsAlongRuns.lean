import PalmyProtocol.Proofs.DebtsCounted
import PalmyProtocol.Proofs.FlagsFollow
import PalmyProtocol.System.FlagsBacked

set_option autoImplicit false

namespace PalmyProtocol

open Checked Rounding LendingPool

variable {env : Env} {pool after : LendingPool} {msgSender : Address}

namespace LendingPool

def FlagsSettled (pool : LendingPool) : Prop :=
  ∀ a u, (pool.reserves a).lTokenAddress ≠ 0 → CollateralSettled pool a u ∧ DebtSettled pool a u

theorem Backed.settled (backed : Backed pool after) (settled : FlagsSettled pool) :
    FlagsSettled after := by
  intro a u here
  rw [backed.listed] at here
  obtain ⟨collateral, debt⟩ := settled a u here
  refine ⟨fun none => ?_, fun free => ?_⟩
  · by_contra on
    rw [Bool.not_eq_false] at on
    rcases backed.uses a u here on with before | some
    · rw [collateral (backed.held a u none)] at before
      cases before
    · exact some none
  · by_contra on
    rw [Bool.not_eq_false] at on
    rcases backed.borrows a u here on with before | owing
    · rw [debt fun owing => free (backed.owes a u owing)] at before
      cases before
    · exact free owing

-- From a state where all flags are settled, to follow is to settle all of them again.
theorem flagsFollow_iff {call : Call} (operates : Operates env pool after)
    (settled : FlagsSettled pool) :
    FlagsFollow call msgSender pool after ↔ FlagsSettled after := by
  have listed := fun a => (operates.evolves.keeps a).lTokenAddress
  constructor
  · intro follow a u here
    rw [listed] at here
    obtain ⟨collateral, debt⟩ := settled a u here
    exact ⟨follow.collateral a u here (.inr collateral), follow.borrowing a u here (.inr debt)⟩
  · intro again
    have kept : ∀ a u, (pool.reserves a).lTokenAddress ≠ 0 →
        CollateralSettled after a u ∧ DebtSettled after a u := by
      intro a u here
      rw [← listed] at here
      exact again a u here
    exact ⟨fun a u here _ => (kept a u here).1, fun a u here _ => (kept a u here).2,
      fun a u here => raised_of_collateral fun _ => (kept a u here).1⟩

section Listing

variable {input : InitReserveInput} {configuration : ReserveConfigurationMap}
  (listed : Listed env pool input configuration after)

include listed

theorem listing_usersConfig : after.usersConfig = pool.usersConfig := by
  rw [listed.result]
  rfl

theorem Unused.listing (unused : Unused pool) : Unused after := by
  intro u i beyond
  rw [listed.appended.next] at beyond
  rw [listing_usersConfig listed]
  exact unused u i (by omega)

theorem FlagsSettled.listing (settled : FlagsSettled pool) (unused : Unused pool) :
    FlagsSettled after := by
  have config := listing_usersConfig listed
  have others := listed.appended.others
  intro a u here
  by_cases same : a = input.underlyingAsset
  · obtain ⟨collateralises, borrows⟩ := unused u pool.reservesCount (le_refl _)
    rw [CollateralSettled, DebtSettled, uses, LendingPool.borrows, config, same,
      listed.appended.id]
    exact ⟨fun _ => collateralises, fun _ => borrows⟩
  · rw [others a same] at here
    obtain ⟨collateral, debt⟩ := settled a u here
    rw [CollateralSettled, DebtSettled, held, uses, LendingPool.borrows, config, others a same]
    exact ⟨collateral, debt⟩

end Listing

end LendingPool

theorem Call.execute_spared {call : Call} (registered : Registered pool)
    (computed : call.execute env pool msgSender = .ok after) : Spared pool after := by
  cases call with
  | deposit => exact deposit_spared registered computed
  | withdraw =>
      simp only [execute, bind_eq_ok, Prod.exists, pure_eq_ok] at computed
      obtain ⟨_, _, computed, rfl⟩ := computed
      exact withdraw_spared registered computed
  | borrow =>
      simp only [execute, LendingPool.borrow, bind_eq_ok] at computed
      obtain ⟨_, _, computed⟩ := computed
      exact executeBorrow_spared registered computed
  | repay =>
      simp only [execute, bind_eq_ok, Prod.exists, pure_eq_ok] at computed
      obtain ⟨_, _, computed, rfl⟩ := computed
      exact repay_spared registered computed
  | swapBorrowRateMode =>
      obtain ⟨_, _, _, _, _, _, _, _, _, run⟩ := swapBorrowRateMode_ok computed
      rw [run.result]
      exact fun _ _ _ => ⟨rfl, rfl⟩
  | rebalanceStableBorrowRate =>
      obtain ⟨_, _, _, _, _, _, run⟩ := rebalanceStableBorrowRate_ok computed
      rw [run.result]
      exact fun _ _ _ => ⟨rfl, rfl⟩
  | setUserUseReserveAsCollateral => exact setUserUseReserveAsCollateral_spared registered computed
  | liquidationCall => exact liquidationCall_spared registered computed
  | transfer => exact moveLTokens_spared registered computed
  | transferFrom =>
      simp only [execute, LendingPool.transferFrom, bind_eq_ok] at computed
      obtain ⟨_, moved, spent⟩ := computed
      obtain ⟨_, _, _, rfl⟩ := updateAllowance_ok spent
      intro u
      rw [setReserve_usersConfig]
      exact moveLTokens_spared registered moved u
  | approve | increaseAllowance | decreaseAllowance =>
      simp only [execute, LendingPool.approve, LendingPool.increaseAllowance,
        LendingPool.decreaseAllowance] at computed
      obtain ⟨_, _, _, rfl⟩ := updateAllowance_ok computed
      exact fun _ _ _ => ⟨rfl, rfl⟩
  | approveStableDelegation | approveVariableDelegation =>
      simp only [execute, LendingPool.approveStableDelegation,
        LendingPool.approveVariableDelegation, bind_eq_ok, pure_eq_ok] at computed
      obtain ⟨_, _, rfl⟩ := computed
      exact fun _ _ _ => ⟨rfl, rfl⟩

theorem Call.execute_backed {call : Call} (registered : Registered pool)
    (keeps : ¬call.MovesBalances) (computed : call.execute env pool msgSender = .ok after) :
    Backed pool after := by
  cases call with
  | deposit => exact deposit_backed registered computed
  | borrow =>
      simp only [execute, LendingPool.borrow, bind_eq_ok] at computed
      obtain ⟨_, _, computed⟩ := computed
      exact executeBorrow_backed registered computed
  | swapBorrowRateMode => exact swapBorrowRateMode_backed computed
  | rebalanceStableBorrowRate => exact rebalanceStableBorrowRate_backed computed
  | setUserUseReserveAsCollateral => exact setUserUseReserveAsCollateral_backed registered computed
  | approve => exact updateAllowance_backed (fun _ _ => ERC20.approve_holdings) computed
  | increaseAllowance =>
      exact updateAllowance_backed (fun _ _ => ERC20.increaseAllowance_holdings) computed
  | decreaseAllowance =>
      exact updateAllowance_backed (fun _ _ => ERC20.decreaseAllowance_holdings) computed
  | approveStableDelegation | approveVariableDelegation =>
      simp only [execute, LendingPool.approveStableDelegation,
        LendingPool.approveVariableDelegation, bind_eq_ok, pure_eq_ok] at computed
      obtain ⟨_, _, rfl⟩ := computed
      exact backed_aside ⟨rfl, rfl, rfl, rfl, rfl, le_refl _, le_refl _⟩ rfl fun _ owing => owing
  | withdraw | repay | liquidationCall | transfer | transferFrom => exact absurd trivial keeps

namespace World

variable {world next : World} {event : Event}

structure Flagging (world : World) : Prop where
  registered : world.pool.Registered
  flagged : DebtFlagged world.pool
  unused : Unused world.pool

def Follows (world : World) : Event → Prop
  | .call msgSender call => call.Followed world.env world.pool msgSender
  | _ => True

theorem unused_step (flagging : world.Flagging) (taken : world.step event = .ok next) :
    Unused next.pool := by
  obtain ⟨registered, flagged, unused⟩ := flagging
  cases event with
  | call msgSender call =>
      obtain ⟨_, _, pool, executed, rfl⟩ := step_call taken
      exact (Call.execute_spared registered executed).unused unused
        (Call.execute_operates executed).evolves.registry.reservesCount
  | admin msgSender call =>
      obtain ⟨pool, administered, rfl⟩ := step_admin taken
      cases administered with
      | listed computed =>
          refine (listings_induction Unused ?_ registered unused computed).2
          intro pool after input configuration _ unused listed
          exact unused.listing listed
      | configured | chosen | paused => exact unused
  | flashLoan =>
      obtain ⟨pool, pending, run⟩ := step_flashLoan taken
      have operates : Operates world.env world.pool pool := openFlashLoan_operates run.opened
      rw [run.result]
      intro u i beyond
      rw [operates.evolves.registry.reservesCount] at beyond
      rw [openFlashLoan_usersConfig run.opened]
      exact unused u i beyond
  | executed =>
      obtain ⟨_, _, _, _, rfl⟩ := step_executed taken
      exact unused
  | settle =>
      obtain ⟨frame, _, entry, _, pool, run⟩ := step_settle taken
      rw [run.result]
      exact (settleFlashLoan_spared registered run.settle).unused unused
        (settleFlashLoan_operates run.settle).evolves.registry.reservesCount
  | finish =>
      obtain ⟨_, _, _, _, rfl⟩ := step_finish taken
      exact unused
  | ledger =>
      obtain ⟨_, rfl⟩ := step_ledger taken
      exact unused
  | observe =>
      obtain ⟨_, _, rfl⟩ := step_observe taken
      exact unused

theorem flagging_step (flagging : world.Flagging) (taken : world.step event = .ok next) :
    next.Flagging :=
  ⟨registered_step flagging.registered taken,
    flagged_step flagging.registered flagging.flagged taken, unused_step flagging taken⟩

-- Every other step leaves the flags settled, so a run goes wrong where a call does not follow.
theorem settled_step_iff (flagging : world.Flagging) (settled : FlagsSettled world.pool)
    (taken : world.step event = .ok next) : FlagsSettled next.pool ↔ world.Follows event := by
  obtain ⟨registered, flagged, unused⟩ := flagging
  cases event with
  | call msgSender call =>
      obtain ⟨_, _, pool, executed, rfl⟩ := step_call taken
      by_cases moves : call.MovesBalances
      · rw [Follows, ← Call.execute_follows registered flagged moves executed]
        exact (flagsFollow_iff (Call.execute_operates executed) settled).symm
      · have follows : call.Followed world.env world.pool msgSender := by
          cases call <;> first | exact trivial | exact absurd trivial moves
        exact iff_of_true ((Call.execute_backed registered moves executed).settled settled) follows
  | admin msgSender call =>
      obtain ⟨pool, administered, rfl⟩ := step_admin taken
      refine iff_of_true ?_ trivial
      cases administered with
      | listed computed =>
          refine (listings_induction (fun pool => FlagsSettled pool ∧ Unused pool) ?_ registered
            ⟨settled, unused⟩ computed).2.1
          intro pool after input configuration _ both listed
          exact ⟨both.1.listing listed both.2, both.2.listing listed⟩
      | configured | chosen =>
          refine Backed.settled ?_ settled
          exact backed_aside ⟨rfl, rfl, rfl, rfl, rfl, le_refl _, le_refl _⟩ rfl
            fun _ owing => owing
      | paused => exact settled
  | flashLoan =>
      obtain ⟨pool, pending, run⟩ := step_flashLoan taken
      rw [run.result]
      exact iff_of_true ((openFlashLoan_backed run.opened).settled settled) trivial
  | executed =>
      obtain ⟨_, _, _, _, rfl⟩ := step_executed taken
      exact iff_of_true settled trivial
  | settle =>
      obtain ⟨frame, _, entry, _, pool, run⟩ := step_settle taken
      rw [run.result]
      exact iff_of_true ((settleFlashLoan_backed registered run.settle).settled settled) trivial
  | finish =>
      obtain ⟨_, _, _, _, rfl⟩ := step_finish taken
      exact iff_of_true settled trivial
  | ledger =>
      obtain ⟨_, rfl⟩ := step_ledger taken
      refine iff_of_true (Backed.settled ?_ settled) trivial
      exact backed_aside ⟨rfl, rfl, rfl, rfl, rfl, le_refl _, le_refl _⟩ rfl fun _ owing => owing
  | observe =>
      obtain ⟨_, _, rfl⟩ := step_observe taken
      exact iff_of_true settled trivial

theorem Initial.flagging (initial : world.Initial) :
    world.Flagging ∧ FlagsSettled world.pool := by
  obtain ⟨_, self, provider, ledgers, start⟩ := initial
  refine ⟨⟨?_, ?_, ?_⟩, ?_⟩
  · rw [start]
    exact registered_initialized self provider ledgers
  · rw [start]
    exact fun _ _ listed => absurd rfl listed
  · rw [start]
    intro u i _
    simp [LendingPool.initialized, UserConfigurationMap.empty, UserConfigurationMap.collateralises,
      UserConfigurationMap.borrows]
  · rw [start]
    exact fun _ _ listed => absurd rfl listed

/-- Along every run: a withdrawal, a repayment, a transfer or a liquidation leaves no flag without
a balance exactly where its amounts agree with the balances as they are rounded, and all flags are
settled in all states of a run exactly where all of its steps are so. -/
theorem flags_follow {start : World} {events : List Event} (initial : start.Initial)
    (ran : Runs.run step start events = .ok world) :
    (∀ (msgSender : Address) (call : Call) (after : LendingPool), call.MovesBalances →
      call.execute world.env world.pool msgSender = .ok after →
      (FlagsFollow call msgSender world.pool after ↔
        call.Followed world.env world.pool msgSender)) ∧
    ((∀ before later w, events = before ++ later → Runs.run step start before = .ok w →
        FlagsSettled w.pool) ↔
      ∀ before event later w, events = before ++ event :: later →
        Runs.run step start before = .ok w → w.Follows event) := by
  obtain ⟨flagging, settled⟩ := initial.flagging
  have reached : world.Reachable := ⟨start, events, initial, ran⟩
  refine ⟨fun msgSender call after moves executed =>
    Call.execute_follows reached.registered reached.flagged moves executed, ?_⟩
  exact Runs.run_exact Flagging (fun w => FlagsSettled w.pool) Follows
    (fun _ _ _ flagging taken => flagging_step flagging taken)
    (fun _ _ _ flagging settled taken => settled_step_iff flagging settled taken)
    flagging settled ran

theorem century_in_time : 3153600001 < 2 ^ 40 := by decide

-- A hundred years of interest on a hundred units: a share is worth four.
def aged : List Event :=
  Market.opening 10 Market.strategy ++ Market.opening 20 Market.strategy ++
    [.call 100 (.deposit 10 100 100), .call 102 (.deposit 10 1 102),
      .call 101 (.deposit 20 (1000 * WAD) 101), .call 101 (.borrow 10 80 2 101),
      .observe (Market.env 3153600001 century_in_time)]

theorem flags_follow_aged :
    ∃ (world : World) (after : LendingPool), Runs.run step Market.start aged = .ok world ∧
      (Call.withdraw 10 4 102).execute world.env world.pool 102 = .ok after ∧
      (FlagsFollow (.withdraw 10 4 102) 102 world.pool after ↔
        (Call.withdraw 10 4 102).Followed world.env world.pool 102) ∧
      ((∀ before later w, aged = before ++ later → Runs.run step Market.start before = .ok w →
          FlagsSettled w.pool) ↔
        ∀ before event later w, aged = before ++ event :: later →
          Runs.run step Market.start before = .ok w → w.Follows event) := by
  have outcome : yields (Runs.run step Market.start aged) (fun world =>
      yields ((Call.withdraw 10 4 102).execute world.env world.pool 102) (fun _ => true)) := by
    decide +kernel
  obtain ⟨world, ran, facts⟩ := yields_iff.1 outcome
  obtain ⟨after, executed, _⟩ := yields_iff.1 facts
  obtain ⟨step, states⟩ := flags_follow Market.start_initial ran
  exact ⟨world, after, ran, executed, step 102 _ after trivial executed, states⟩

-- Three of the four units are the whole share, one unit sent is no share at all, and 1858 of the 1861
-- units owed are the whole debt.
theorem flags_outlive_aged :
    ∃ world : World, Runs.run step Market.start aged = .ok world ∧
      (∃ after, (Call.withdraw 10 3 102).execute world.env world.pool 102 = .ok after ∧
        ¬FlagsFollow (.withdraw 10 3 102) 102 world.pool after) ∧
      (∃ after, (Call.transfer 10 103 1).execute world.env world.pool 100 = .ok after ∧
        ¬FlagsFollow (.transfer 10 103 1) 100 world.pool after) ∧
      (∃ after, (Call.repay 10 1858 2 101).execute world.env world.pool 103 = .ok after ∧
        ¬FlagsFollow (.repay 10 1858 2 101) 103 world.pool after) := by
  have outcome : yields (Runs.run step Market.start aged) (fun world =>
      decide ((world.pool.reserves 10).lTokenAddress ≠ 0) &&
      yields ((Call.withdraw 10 3 102).execute world.env world.pool 102) (fun after =>
        after.held 10 102 = 0 ∧ after.uses 10 102 = true) &&
      yields ((Call.transfer 10 103 1).execute world.env world.pool 100) (fun after =>
        after.held 10 103 = 0 ∧ after.uses 10 103 = true) &&
      yields ((Call.repay 10 1858 2 101).execute world.env world.pool 103) (fun after =>
        (after.reserves 10).stableDebtToken.principalBalanceOf 101 = 0 ∧
        (after.reserves 10).variableDebtToken.scaledBalanceOf 101 = 0 ∧
        after.borrows 10 101 = true)) := by
    decide +kernel
  obtain ⟨world, ran, facts⟩ := yields_iff.1 outcome
  simp only [Bool.and_eq_true, decide_eq_true_eq] at facts
  obtain ⟨⟨⟨listed, withdrawn⟩, sent⟩, repaid⟩ := facts
  refine ⟨world, ran, ?_, ?_, ?_⟩
  · obtain ⟨after, executed, shown⟩ := yields_iff.1 withdrawn
    obtain ⟨none, on⟩ := of_decide_eq_true shown
    refine ⟨after, executed, fun follow => ?_⟩
    rw [follow.collateral 10 102 listed (.inl ⟨rfl, rfl⟩) none] at on
    cases on
  · obtain ⟨after, executed, shown⟩ := yields_iff.1 sent
    obtain ⟨none, on⟩ := of_decide_eq_true shown
    refine ⟨after, executed, fun follow => ?_⟩
    rw [follow.collateral 10 103 listed (.inl ⟨rfl, by decide, .inr rfl⟩) none] at on
    cases on
  · obtain ⟨after, executed, shown⟩ := yields_iff.1 repaid
    obtain ⟨principal, scaled, on⟩ := of_decide_eq_true shown
    refine ⟨after, executed, fun follow => ?_⟩
    have clear : ¬(after.reserves 10).Owes 101 :=
      fun owing => owing.elim (fun some => some principal) (fun some => some scaled)
    rw [follow.borrowing 10 101 listed (.inl ⟨rfl, rfl⟩) clear] at on
    cases on

end World

end PalmyProtocol
