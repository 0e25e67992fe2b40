import PalmyProtocol.Pool.StandingDebts
import PalmyProtocol.System.AccountMoves
import PalmyProtocol.System.ReserveFrame

set_option autoImplicit false

namespace PalmyProtocol

open Checked Rounding LendingPool MathUtils

namespace ReserveData

variable {reserve : ReserveData} {now later : Nat}

theorem normalizedIncome_eq (small : now < 2 ^ 40) :
    reserve.normalizedIncome now = divHalfUp (linearInterest reserve.currentLiquidityRate
      (now - reserve.lastUpdateTimestamp) * reserve.liquidityIndex) RAY := by
  rw [normalizedIncome, uint40_of_lt small]
  split_ifs with current
  · rw [current, Nat.sub_self, linearInterest_zero, Nat.mul_comm, rayMul_RAY]
  · rfl

theorem normalizedIncome_mono (order : now ≤ later) (small : now < 2 ^ 40)
    (small' : later < 2 ^ 40) : reserve.normalizedIncome now ≤ reserve.normalizedIncome later := by
  rw [normalizedIncome_eq small, normalizedIncome_eq small']
  have interest := linearInterest_mono (le_refl reserve.currentLiquidityRate)
    (Nat.sub_le_sub_right order reserve.lastUpdateTimestamp)
  exact divHalfUp_mono (Nat.mul_le_mul_right _ interest) RAY

end ReserveData

namespace Reserve

variable {env : Env} {reserve middle accrued after : Reserve}

structure Firm (env : Env) (reserve after : Reserve) : Prop where
  income : reserve.normalizedIncome env.timestamp ≤ after.normalizedIncome env.timestamp
  debt : after.normalizedDebt env.timestamp ≤ reserve.normalizedDebt env.timestamp

namespace Firm

theorem refl (reserve : Reserve) : Firm env reserve reserve := ⟨le_refl _, le_refl _⟩

theorem trans (first : Firm env reserve middle) (second : Firm env middle after) :
    Firm env reserve after :=
  ⟨le_trans first.income second.income, le_trans second.debt first.debt⟩

theorem of_data (same : after.toReserveData = reserve.toReserveData) : Firm env reserve after := by
  constructor <;> rw [same]

-- The accrual stores what was seen, and in its block nothing lowers the one or raises the other.
theorem of_worked (worked : Worked env reserve accrued after) : Firm env reserve after := by
  have keeps := Keeps.of_operations worked.operations
  obtain ⟨current, floating⟩ := worked.current
  have stamp : after.lastUpdateTimestamp = uint40 env.timestamp := by
    rw [current, uint40_of_lt env.timestamp_lt]
  obtain ⟨_, income⟩ := income_of_accrued worked.accrue rfl rfl
  obtain ⟨_, debt⟩ := debt_of_accrued worked.accrue rfl rfl
  constructor
  · rw [← income, ReserveData.normalizedIncome, if_pos stamp]
    exact keeps.liquidityIndex
  · rw [ReserveData.normalizedDebt, if_pos stamp, floating]
    exact debt

end Firm

end Reserve

namespace LendingPool

variable {env : Env} {pool middle after : LendingPool}
  {msgSender asset user onBehalfOf : Address} {amount : Nat}

def Firm (env : Env) (pool after : LendingPool) : Prop :=
  ∀ a, Reserve.Firm env (pool.reserves a) (after.reserves a)

namespace Firm

theorem refl (pool : LendingPool) : Firm env pool pool := fun _ => .refl _

theorem trans (first : Firm env pool middle) (second : Firm env middle after) :
    Firm env pool after :=
  fun a => (first a).trans (second a)

theorem of_setReserve {reserve : Reserve} (firm : Reserve.Firm env (pool.reserves asset) reserve) :
    Firm env pool (pool.setReserve asset reserve) := by
  intro a
  by_cases same : a = asset
  · subst same
    rwa [setReserve_same]
  · rw [setReserve_other same]
    exact .refl _

theorem of_reserves (same : after.reserves = pool.reserves) : Firm env pool after := by
  intro a
  rw [same]
  exact .refl _

theorem of_worked {accrued worked : Reserve}
    (work : Reserve.Worked env (pool.reserves asset) accrued worked)
    (result : after.reserves = (pool.setReserve asset worked).reserves) : Firm env pool after :=
  (of_setReserve (.of_worked work)).trans (of_reserves result)

end Firm

theorem executeBorrow_firm {vars : ExecuteBorrowParams}
    (computed : pool.executeBorrow env vars = .ok after) : Firm env pool after := by
  obtain ⟨_, _, _, _, _, _, _, _, run⟩ := executeBorrow_ok computed
  exact .of_worked run.works (by rw [run.result, setUserConfig_reserves])

theorem moveLTokens_firm {sender recipient : Address}
    (computed : pool.moveLTokens env asset sender recipient amount = .ok after) :
    Firm env pool after := by
  obtain ⟨lToken, _, _, run⟩ := moveLTokens_ok computed
  have moved : Firm env pool (pool.setReserve asset { pool.reserves asset with lToken }) :=
    .of_setReserve (.of_data rfl)
  refine moved.trans (.of_reserves ?_)
  rcases run.finalize.result with ⟨_, rfl⟩ | ⟨_, _, _, _, _, _, rfl⟩
  · rfl
  · rw [setUserConfig_reserves, setUserConfig_reserves]

theorem updateAllowance_firm {change : ERC20 → Result ERC20}
    (computed : pool.updateAllowance asset change = .ok after) : Firm env pool after := by
  obtain ⟨_, _, _, rfl⟩ := updateAllowance_ok computed
  exact .of_setReserve (.of_data rfl)

open LendingPoolCollateralManager in
theorem seize_firm {collateralAsset : Address} {receiveLToken : Bool}
    (computed : (if receiveLToken then seizeLTokens env pool msgSender collateralAsset user amount
      else seizeUnderlying env pool msgSender collateralAsset user amount) = .ok after) :
    Firm env pool after := by
  split_ifs at computed
  · obtain ⟨_, _, _, lToken, _, leg⟩ := seizeLTokens_ok computed
    have moved : Firm env pool
        (pool.setReserve collateralAsset { pool.reserves collateralAsset with lToken }) :=
      .of_setReserve (.of_data rfl)
    exact moved.trans (.of_reserves (by rw [leg.result, setUserConfig_reserves]))
  · obtain ⟨_, _, _, leg⟩ := seizeUnderlying_ok computed
    exact .of_worked (underlyingSeized_works leg) (by rw [leg.result])

open LendingPoolCollateralManager in
theorem liquidationCall_firm {collateralAsset debtAsset : Address} {debtToCover : Nat}
    {receiveLToken : Bool}
    (computed : pool.liquidationCall env msgSender collateralAsset debtAsset user debtToCover
      receiveLToken = .ok after) : Firm env pool after := by
  obtain ⟨_, _, _, _, _, _, _, run⟩ := liquidationCall_ok computed
  obtain ⟨repaid, seized, config, funded, exec⟩ := executeLiquidation_ok run.execute
  obtain ⟨_, _, _, leg⟩ := repayDebt_ok exec.repay
  have paid : Firm env pool repaid := .of_worked (debtRepaid_works leg) (by rw [leg.result])
  have covered : Firm env seized after := by
    obtain ⟨_, _, rfl⟩ := Reserve.transferUnderlyingFrom_ok exec.fund
    rw [exec.result]
    exact .of_setReserve (.of_data rfl)
  exact (paid.trans (seize_firm exec.seize)).trans covered

theorem openFlashLoan_firm {receiverAddress : Address}
    {requests : List (Address × Nat × Option Nat)} {entries : List FlashLoanEntry}
    (computed : openFlashLoan receiverAddress pool requests = .ok (after, entries)) :
    Firm env pool after := by
  induction requests generalizing pool entries with
  | nil =>
      cases computed
      exact .refl _
  | cons request rest ih =>
      obtain ⟨asset, _, _⟩ := request
      obtain ⟨lent, _, sent, opened, _⟩ := openFlashLoan_cons computed
      obtain ⟨_, _, _, shape⟩ := Reserve.transferUnderlyingTo_ok sent
      have here : Firm env pool (pool.setReserve asset lent) :=
        .of_setReserve (.of_data (by rw [shape]))
      exact here.trans (ih opened)

theorem settleFlashLoan_firm {receiverAddress : Address} {entry : FlashLoanEntry}
    (computed : pool.settleFlashLoan env receiverAddress msgSender onBehalfOf entry = .ok after) :
    Firm env pool after := by
  obtain ⟨_, _, _, _, ⟨_, _, _, _, _, _, run⟩ | ⟨_, borrowed⟩⟩ := settleFlashLoan_ok computed
  · exact .of_worked run.works (by rw [run.result])
  · exact executeBorrow_firm borrowed

end LendingPool

theorem Call.execute_firm {env : Env} {pool after : LendingPool} {msgSender : Address}
    {call : Call} (computed : call.execute env pool msgSender = .ok after) :
    LendingPool.Firm env pool after := by
  cases call with
  | deposit =>
      obtain ⟨_, _, _, _, _, _, run⟩ := deposit_ok computed
      exact .of_worked run.works (by rw [run.result, setUserConfig_reserves])
  | withdraw =>
      simp only [execute, bind_eq_ok, Prod.exists, pure_eq_ok] at computed
      obtain ⟨_, _, computed, rfl⟩ := computed
      obtain ⟨_, _, _, _, _, _, run⟩ := withdraw_ok computed
      exact .of_worked run.works (by rw [run.result, setUserConfig_reserves])
  | borrow =>
      simp only [execute, LendingPool.borrow, bind_eq_ok] at computed
      obtain ⟨_, _, computed⟩ := computed
      exact executeBorrow_firm computed
  | repay =>
      simp only [execute, bind_eq_ok, Prod.exists, pure_eq_ok] at computed
      obtain ⟨_, _, computed, rfl⟩ := computed
      obtain ⟨_, _, _, _, _, _, _, _, _, run⟩ := repay_ok computed
      exact .of_worked run.works (by rw [run.result, setUserConfig_reserves])
  | swapBorrowRateMode =>
      obtain ⟨_, _, _, _, _, _, _, _, _, run⟩ := swapBorrowRateMode_ok computed
      exact .of_worked run.works (by rw [run.result])
  | rebalanceStableBorrowRate =>
      obtain ⟨_, _, _, _, _, _, run⟩ := rebalanceStableBorrowRate_ok computed
      exact .of_worked run.works (by rw [run.result])
  | setUserUseReserveAsCollateral =>
      obtain ⟨_, _, _, rfl⟩ := setUserUseReserveAsCollateral_ok computed
      exact .of_reserves rfl
  | liquidationCall => exact liquidationCall_firm computed
  | transfer => exact moveLTokens_firm computed
  | transferFrom =>
      simp only [execute, LendingPool.transferFrom, bind_eq_ok] at computed
      obtain ⟨_, moved, allowed⟩ := computed
      exact (moveLTokens_firm moved).trans (updateAllowance_firm allowed)
  | approve | increaseAllowance | decreaseAllowance =>
      simp only [execute, LendingPool.approve, LendingPool.increaseAllowance,
        LendingPool.decreaseAllowance] at computed
      exact updateAllowance_firm computed
  | approveStableDelegation | approveVariableDelegation =>
      simp only [execute, LendingPool.approveStableDelegation,
        LendingPool.approveVariableDelegation, bind_eq_ok, pure_eq_ok] at computed
      obtain ⟨_, _, rfl⟩ := computed
      exact .of_setReserve (.of_data rfl)

namespace World

variable {world next : World} {asset : Address}

theorem step_firm {event : Event} (registered : world.pool.Registered)
    (listed : (world.pool.reserves asset).lTokenAddress ≠ 0)
    (taken : world.step event = .ok next) :
    Reserve.Firm world.env (world.pool.reserves asset) (next.pool.reserves asset) := by
  cases event with
  | call =>
      obtain ⟨_, _, pool, executed, rfl⟩ := step_call taken
      exact Call.execute_firm executed asset
  | admin =>
      obtain ⟨pool, administered, rfl⟩ := step_admin taken
      obtain ⟨_, _, shape⟩ := administered_listed registered listed administered
      rw [withPool, shape]
      exact ⟨le_refl _, le_refl _⟩
  | flashLoan =>
      obtain ⟨pool, pending, run⟩ := step_flashLoan taken
      rw [run.result]
      exact openFlashLoan_firm run.opened asset
  | executed =>
      obtain ⟨_, _, _, _, rfl⟩ := step_executed taken
      exact .refl _
  | settle =>
      obtain ⟨frame, rest, entry, pending, pool, run⟩ := step_settle taken
      rw [run.result]
      exact settleFlashLoan_firm run.settle asset
  | finish =>
      obtain ⟨_, _, _, _, rfl⟩ := step_finish taken
      exact .refl _
  | ledger other underlying =>
      obtain ⟨_, rfl⟩ := step_ledger taken
      have kept : Reserve.Firm world.env (world.pool.reserves other)
          { world.pool.reserves other with underlying } := .of_data rfl
      exact Firm.of_setReserve kept asset
  | observe =>
      obtain ⟨_, _, rfl⟩ := step_observe taken
      exact .refl _

end World

end PalmyProtocol
