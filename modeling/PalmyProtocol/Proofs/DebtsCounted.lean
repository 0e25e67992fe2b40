import PalmyProtocol.Pool.AccountData
import PalmyProtocol.System.BorrowingFlags

set_option autoImplicit false

namespace PalmyProtocol

open Checked Rounding LendingPool Finset

variable {env : Env} {pool after : LendingPool} {msgSender : Address}

theorem Call.execute_flagged {call : Call} (registered : Registered pool)
    (flagged : DebtFlagged pool) (computed : call.execute env pool msgSender = .ok after) :
    DebtFlagged after := by
  have evolves := (Call.execute_operates computed).evolves
  cases call with
  | deposit => exact (deposit_kept computed).flagged flagged evolves
  | withdraw =>
      simp only [execute, bind_eq_ok, Prod.exists, pure_eq_ok] at computed
      obtain ⟨_, _, computed, rfl⟩ := computed
      exact (withdraw_kept computed).flagged flagged evolves
  | borrow =>
      simp only [execute, LendingPool.borrow, bind_eq_ok] at computed
      obtain ⟨_, _, computed⟩ := computed
      exact executeBorrow_flagged flagged computed
  | repay =>
      simp only [execute, bind_eq_ok, Prod.exists, pure_eq_ok] at computed
      obtain ⟨_, _, computed, rfl⟩ := computed
      exact repay_flagged registered flagged computed
  | swapBorrowRateMode => exact (swapBorrowRateMode_kept computed).flagged flagged evolves
  | rebalanceStableBorrowRate =>
      exact (rebalanceStableBorrowRate_kept computed).flagged flagged evolves
  | setUserUseReserveAsCollateral =>
      exact (setUserUseReserveAsCollateral_kept computed).flagged flagged evolves
  | liquidationCall => exact (liquidationCall_kept computed).flagged flagged evolves
  | transfer => exact (moveLTokens_kept computed).flagged flagged evolves
  | transferFrom =>
      simp only [execute, LendingPool.transferFrom, bind_eq_ok] at computed
      obtain ⟨_, moved, allowed⟩ := computed
      exact ((moveLTokens_kept moved).trans (updateAllowance_kept allowed)).flagged flagged evolves
  | approve | increaseAllowance | decreaseAllowance =>
      simp only [execute, LendingPool.approve, LendingPool.increaseAllowance,
        LendingPool.decreaseAllowance] at computed
      exact (updateAllowance_kept computed).flagged flagged evolves
  | approveStableDelegation | approveVariableDelegation =>
      simp only [execute, LendingPool.approveStableDelegation,
        LendingPool.approveVariableDelegation, bind_eq_ok, pure_eq_ok] at computed
      obtain ⟨_, _, rfl⟩ := computed
      exact flagged.setReserve (fun _ owing => owing)
        ⟨rfl, rfl, rfl, rfl, rfl, le_refl _, le_refl _⟩

theorem Administered.flagged (registered : Registered pool) (flagged : DebtFlagged pool)
    (administered : Administered env pool after) : DebtFlagged after := by
  cases administered with
  | listed computed =>
      refine (listings_induction DebtFlagged ?_ registered flagged computed).2
      intro pool after input configuration _ flagged listed user asset present owing
      rw [listed.result] at present owing ⊢
      by_cases same : asset = input.underlyingAsset
      · subst same
        simp [setReserve, listedReserve, Reserve.Owes, StableDebtToken.principalBalanceOf,
          VariableDebtToken.scaledBalanceOf, StableDebtToken.empty, VariableDebtToken.empty,
          ERC20.empty] at owing
      · simp only [setReserve_other same] at present owing ⊢
        exact flagged user asset present owing
  | configured admitted =>
      exact flagged.setReserve (fun _ owing => owing)
        ⟨rfl, rfl, rfl, rfl, rfl, le_refl _, le_refl _⟩
  | chosen asset strategy =>
      exact flagged.setReserve (fun _ owing => owing)
        ⟨rfl, rfl, rfl, rfl, rfl, le_refl _, le_refl _⟩
  | paused paused => exact flagged

namespace World

variable {world next : World}

theorem flagged_step {event : Event} (registered : world.pool.Registered)
    (flagged : DebtFlagged world.pool) (taken : world.step event = .ok next) :
    DebtFlagged next.pool := by
  cases event with
  | call msgSender call =>
      obtain ⟨_, _, pool, executed, rfl⟩ := step_call taken
      exact Call.execute_flagged registered flagged executed
  | admin msgSender call =>
      obtain ⟨pool, administered, rfl⟩ := step_admin taken
      exact administered.flagged registered flagged
  | flashLoan =>
      obtain ⟨pool, pending, run⟩ := step_flashLoan taken
      have evolves : Evolves world.env world.pool pool := (openFlashLoan_operates run.opened).evolves
      rw [run.result]
      exact (openFlashLoan_kept run.opened).flagged flagged evolves
  | executed =>
      obtain ⟨_, _, _, _, rfl⟩ := step_executed taken
      exact flagged
  | settle =>
      obtain ⟨frame, _, entry, _, pool, run⟩ := step_settle taken
      have evolves := (settleFlashLoan_operates run.settle).evolves
      rw [run.result]
      obtain ⟨_, _, _, _, ⟨_, _, _, _, _, _, repaid⟩ | ⟨_, borrowed⟩⟩ := settleFlashLoan_ok run.settle
      · refine DebtorsKept.flagged ?_ flagged evolves
        rw [repaid.result]
        have accrue := Reserve.updateState_sameDebts repaid.accrue
        have rate := Reserve.updateInterestRates_sameDebts repaid.rate
        have fund := Reserve.transferUnderlyingFrom_sameDebts repaid.fund
        exact kept_sameDebts ((accrue.trans ⟨rate.stable, rate.floating⟩).trans fund)
      · exact executeBorrow_flagged flagged borrowed
  | finish =>
      obtain ⟨_, _, _, _, rfl⟩ := step_finish taken
      exact flagged
  | ledger =>
      obtain ⟨_, rfl⟩ := step_ledger taken
      exact flagged.setReserve (fun _ owing => owing)
        ⟨rfl, rfl, rfl, rfl, rfl, le_refl _, le_refl _⟩
  | observe =>
      obtain ⟨_, _, rfl⟩ := step_observe taken
      exact flagged

theorem Reachable.flagged (reached : world.Reachable) : DebtFlagged world.pool := by
  have both : world.pool.Registered ∧ DebtFlagged world.pool := by
    refine Runs.Reachable.invariant (fun w : World => w.pool.Registered ∧ DebtFlagged w.pool)
      reached ?_ ?_
    · rintro s ⟨_, self, provider, ledgers, start⟩
      rw [start]
      exact ⟨registered_initialized self provider ledgers, fun _ _ listed => absurd rfl listed⟩
    · rintro s event s' ⟨registered, flagged⟩ taken
      exact ⟨registered_step registered taken, flagged_step registered flagged taken⟩
  exact both.2

/-- Who has a stable principal or a scaled variable debt in a listed reserve has its borrowing bit
set, so the account data adds up the debts of all reserves, whatever the bits say. -/
theorem Reachable.debts_counted (reached : world.Reachable) (user : Address) :
    (∀ i < world.pool.reservesCount,
      (0 < (world.pool.reserves (world.pool.reservesList i)).variableDebtToken.scaledBalanceOf user ∨
        0 < (world.pool.reserves (world.pool.reservesList i)).stableDebtToken.principalBalanceOf
          user) →
      (world.pool.usersConfig user).isBorrowing
        (world.pool.reserves (world.pool.reservesList i)).id = .ok true) ∧
    ∀ account, GenericLogic.calculateUserAccountData world.env world.pool user
        (world.pool.usersConfig user) = .ok account →
      account.totalDebtInETH =
        ∑ i ∈ range world.pool.reservesCount,
          debtInETH world.env world.pool user (world.pool.reservesList i) := by
  have registered := reached.registered
  have flagged := reached.flagged
  constructor
  · intro i inside owing
    obtain ⟨listed, _⟩ := registered.members i inside
    rw [UserConfigurationMap.isBorrowing_eq_ok]
    refine ⟨registered.id_lt listed, flagged user _ listed ?_⟩
    rcases owing with floating | stable
    · exact .inr (Nat.pos_iff_ne_zero.1 floating)
    · exact .inl (Nat.pos_iff_ne_zero.1 stable)
  · intro account computed
    rw [(GenericLogic.calculateUserAccountData_ok registered.count computed).debt]
    apply sum_congr rfl
    intro i inside
    obtain ⟨listed, place⟩ := registered.members i (mem_range.1 inside)
    rw [debtAt]
    split_ifs with borrowing
    · rfl
    · -- an unset bit means no balance in either debt token
      have clear : ¬(world.pool.reserves (world.pool.reservesList i)).Owes user := by
        intro owing
        have set := flagged user _ listed owing
        rw [place] at set
        exact borrowing set
      rw [debtInETH, Reserve.debt_of_not_owes clear]
      simp

-- One account supplies an asset, another borrows it at the variable rate against a second asset.
def borrowedOnce : List Event :=
  Market.opening 10 Market.strategy ++ Market.opening 20 Market.strategy ++
    [.call 100 (.deposit 10 (100 * WAD) 100), .call 101 (.deposit 20 (100 * WAD) 101),
      .call 101 (.borrow 10 (10 * WAD) 2 101)]

theorem borrowedOnce_debts_counted :
    ∃ world : World, Runs.run step Market.start borrowedOnce = .ok world ∧
      (world.pool.usersConfig 101).isBorrowing 0 = .ok true ∧
      ∃ account, GenericLogic.calculateUserAccountData world.env world.pool 101
          (world.pool.usersConfig 101) = .ok account ∧
        account.totalDebtInETH = ∑ i ∈ range world.pool.reservesCount,
          debtInETH world.env world.pool 101 (world.pool.reservesList i) := by
  have outcome : yields (Runs.run step Market.start borrowedOnce) (fun world =>
      0 < world.pool.reservesCount ∧
      0 < (world.pool.reserves (world.pool.reservesList 0)).variableDebtToken.scaledBalanceOf 101 ∧
      (world.pool.reserves (world.pool.reservesList 0)).id = 0 ∧
      yields (GenericLogic.calculateUserAccountData world.env world.pool 101
        (world.pool.usersConfig 101)) (fun _ => true)) := by
    decide +kernel
  obtain ⟨world, ran, facts⟩ := yields_iff.1 outcome
  obtain ⟨listed, owing, id, viewed⟩ := of_decide_eq_true facts
  obtain ⟨account, computed, _⟩ := yields_iff.1 viewed
  obtain ⟨bits, totals⟩ := Reachable.debts_counted (Market.reachable_of_run ran) 101
  have set := bits 0 listed (.inl owing)
  rw [id] at set
  exact ⟨world, ran, set, account, computed, totals account computed⟩

end World

end PalmyProtocol
