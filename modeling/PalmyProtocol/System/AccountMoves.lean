import PalmyProtocol.Pool.HealthFactor
import PalmyProtocol.System.Registry

set_option autoImplicit false

namespace PalmyProtocol

open Checked Rounding LendingPool GenericLogic Finset

namespace Reserve

variable {env : Env} {reserve accrued after : Reserve}

-- An accrual stores what the view of the income showed, and of the debt no more than that.
theorem income_of_accrued (computed : reserve.updateState env.timestamp = .ok accrued)
    (stamp : after.lastUpdateTimestamp = accrued.lastUpdateTimestamp)
    (index : after.liquidityIndex = accrued.liquidityIndex) :
    after.normalizedIncome env.timestamp = after.liquidityIndex ∧
      after.liquidityIndex = reserve.normalizedIncome env.timestamp := by
  obtain ⟨_, _, _, run⟩ := updateState_ok computed
  rw [run.result] at stamp index
  constructor
  · rw [ReserveData.normalizedIncome, if_pos stamp]
  · rw [← ReserveData.accruedLiquidityIndex_eq env.timestamp_lt, index]
    exact run.liquidity

theorem income_of_rated {asset lTokenAddress : Address} {added taken : Nat}
    (computed : reserve.updateState env.timestamp = .ok accrued)
    (rated : accrued.updateInterestRates env asset lTokenAddress added taken = .ok after) :
    after.normalizedIncome env.timestamp = after.liquidityIndex ∧
      after.liquidityIndex = reserve.normalizedIncome env.timestamp := by
  obtain ⟨_, _, _, _, rate⟩ := updateInterestRates_ok rated
  exact income_of_accrued computed (by rw [rate.result]) (by rw [rate.result])

theorem debt_of_accrued (computed : reserve.updateState env.timestamp = .ok accrued)
    (stamp : after.lastUpdateTimestamp = accrued.lastUpdateTimestamp)
    (index : after.variableBorrowIndex = accrued.variableBorrowIndex) :
    after.normalizedDebt env.timestamp = after.variableBorrowIndex ∧
      after.variableBorrowIndex ≤ reserve.normalizedDebt env.timestamp := by
  obtain ⟨_, _, _, run⟩ := updateState_ok computed
  rw [run.result] at stamp index
  constructor
  · rw [ReserveData.normalizedDebt, if_pos stamp]
  · rw [index]
    exact le_trans (Nat.le_of_eq run.floating)
      (ReserveData.accruedVariableBorrowIndex_le env.timestamp_lt _)

end Reserve

namespace LendingPool

variable {env : Env} {pool after : LendingPool} {asset user : Address}

structure Touches (asset user : Address) (pool after : LendingPool) : Prop where
  listed : (pool.reserves asset).lTokenAddress ≠ 0
  elsewhere : ∀ a, a ≠ asset → after.reserves a = pool.reserves a
  borrows : ∀ i, i ≠ (pool.reserves asset).id →
    (after.usersConfig user).borrows i = (pool.usersConfig user).borrows i
  collateralises : ∀ i, i ≠ (pool.reserves asset).id →
    (after.usersConfig user).collateralises i = (pool.usersConfig user).collateralises i

def collateralIn (env : Env) (pool : LendingPool) (asset user : Address) : Nat :=
  collateralAt env pool user (pool.usersConfig user) (pool.reserves asset).id

def debtIn (env : Env) (pool : LendingPool) (asset user : Address) : Nat :=
  debtAt env pool user (pool.usersConfig user) (pool.reserves asset).id

theorem collateralIn_eq (env : Env) (user : Address) (registered : Registered pool)
    (listed : (pool.reserves asset).lTokenAddress ≠ 0) :
    collateralIn env pool asset user =
      if (pool.usersConfig user).collateralises (pool.reserves asset).id = true ∧
        (pool.reserves asset).configuration.getLiquidationThreshold ≠ 0 then
      collateralInETH env pool user asset else 0 := by
  have place := (registered.listed asset listed).2
  have counts : pool.countsAsCollateral (pool.usersConfig user) (pool.reserves asset).id ↔
      (pool.usersConfig user).collateralises (pool.reserves asset).id = true ∧
        (pool.reserves asset).configuration.getLiquidationThreshold ≠ 0 := by
    rw [countsAsCollateral, place]
  by_cases counted : pool.countsAsCollateral (pool.usersConfig user) (pool.reserves asset).id
  · rw [collateralIn, collateralAt, if_pos counted, if_pos (counts.1 counted), place]
  · rw [collateralIn, collateralAt, if_neg counted, if_neg fun both => counted (counts.2 both)]

theorem debtIn_eq (env : Env) (user : Address) (registered : Registered pool)
    (listed : (pool.reserves asset).lTokenAddress ≠ 0) :
    debtIn env pool asset user =
      if (pool.usersConfig user).borrows (pool.reserves asset).id = true then
        debtInETH env pool user asset else 0 := by
  have place := (registered.listed asset listed).2
  rw [debtIn, debtAt, place]

def weightedCollateral (env : Env) (pool : LendingPool) (user : Address) : Nat :=
  ∑ i ∈ range pool.reservesCount,
    collateralAt env pool user (pool.usersConfig user) i * thresholdAt pool i

structure Moved (env : Env) (asset user : Address) (pool after : LendingPool)
    (account account' : UserAccountData) (sum sum' : Nat) : Prop where
  collateral : account'.totalCollateralInETH + collateralIn env pool asset user =
    account.totalCollateralInETH + collateralIn env after asset user
  debt : account'.totalDebtInETH + debtIn env pool asset user =
    account.totalDebtInETH + debtIn env after asset user
  weighted : sum' + collateralIn env pool asset user *
      (pool.reserves asset).configuration.getLiquidationThreshold =
    sum + collateralIn env after asset user *
      (pool.reserves asset).configuration.getLiquidationThreshold
  threshold : account.avgLiquidationThreshold = sum / account.totalCollateralInETH
  threshold' : account'.avgLiquidationThreshold = sum' / account'.totalCollateralInETH
  worthless' : account'.totalCollateralInETH = 0 → sum' = 0

-- The average that is stored afterwards is short of the weights by less than one unit.
theorem Moved.weights_le {account account' : UserAccountData} {sum sum' : Nat}
    (moved : Moved env asset user pool after account account' sum sum') :
    sum' ≤ account'.totalCollateralInETH * (account'.avgLiquidationThreshold + 1) := by
  rw [moved.threshold']
  rcases Nat.eq_zero_or_pos account'.totalCollateralInETH with none | positive
  · rw [moved.worthless' none]
    exact Nat.zero_le _
  · exact Nat.le_of_lt (Nat.lt_mul_div_succ sum' positive)

namespace Touches

variable {account account' : UserAccountData}

-- Another asset's place is another index, so nothing there is read that moved.
theorem other (touches : Touches asset user pool after) (operates : Operates env pool after)
    (registered : Registered pool) {i : Nat} (different : i ≠ (pool.reserves asset).id)
    (inside : i < pool.reservesCount) :
    collateralAt env after user (after.usersConfig user) i =
        collateralAt env pool user (pool.usersConfig user) i ∧
      debtAt env after user (after.usersConfig user) i =
        debtAt env pool user (pool.usersConfig user) i := by
  have list := congrFun operates.registry.reservesList i
  have here : pool.reservesList i ≠ asset := by
    rintro same
    have index := (registered.members i inside).2
    rw [same] at index
    exact different index.symm
  have reserve := touches.elsewhere _ here
  constructor
  · have counts : after.countsAsCollateral (after.usersConfig user) i ↔
        pool.countsAsCollateral (pool.usersConfig user) i := by
      rw [countsAsCollateral, countsAsCollateral, touches.collateralises i different, list, reserve]
    by_cases counted : pool.countsAsCollateral (pool.usersConfig user) i
    · rw [collateralAt, collateralAt, if_pos counted, if_pos (counts.2 counted), list,
        collateralInETH, collateralInETH, reserve]
    · rw [collateralAt, collateralAt, if_neg counted, if_neg fun both => counted (counts.1 both)]
  · rw [debtAt, debtAt, touches.borrows i different, list, debtInETH, debtInETH, reserve]

theorem collateralIn_after (touches : Touches asset user pool after)
    (operates : Operates env pool after) (registered : Registered pool) :
    collateralIn env after asset user =
      if (after.usersConfig user).collateralises (pool.reserves asset).id = true ∧
        (pool.reserves asset).configuration.getLiquidationThreshold ≠ 0 then
      collateralInETH env after user asset else 0 := by
  have keeps := operates.evolves.keeps asset
  have listed := touches.listed
  rw [← keeps.lTokenAddress] at listed
  have contribution := collateralIn_eq env user
    (registered.evolves operates.evolves) listed
  rwa [keeps.id, (operates.operations asset).settings.configuration] at contribution

theorem debtIn_after (touches : Touches asset user pool after)
    (operates : Operates env pool after) (registered : Registered pool) :
    debtIn env after asset user =
      if (after.usersConfig user).borrows (pool.reserves asset).id = true then
        debtInETH env after user asset else 0 := by
  have keeps := operates.evolves.keeps asset
  have listed := touches.listed
  rw [← keeps.lTokenAddress] at listed
  have contribution := debtIn_eq env user
    (registered.evolves operates.evolves) listed
  rwa [keeps.id] at contribution

theorem thresholds (operates : Operates env pool after) (i : Nat) :
    thresholdAt after i = thresholdAt pool i := by
  rw [thresholdAt, congrFun operates.registry.reservesList i, thresholdAt,
    (operates.operations (pool.reservesList i)).settings.configuration]

theorem weighted (touches : Touches asset user pool after) (operates : Operates env pool after)
    (registered : Registered pool) :
    weightedCollateral env after user + collateralIn env pool asset user *
        (pool.reserves asset).configuration.getLiquidationThreshold =
      weightedCollateral env pool user + collateralIn env after asset user *
        (pool.reserves asset).configuration.getLiquidationThreshold := by
  obtain ⟨inside, place⟩ := registered.listed asset touches.listed
  have here : thresholdAt pool (pool.reserves asset).id =
      (pool.reserves asset).configuration.getLiquidationThreshold := by
    rw [thresholdAt, place]
  rw [weightedCollateral, weightedCollateral, operates.registry.reservesCount, collateralIn,
    collateralIn, (operates.evolves.keeps asset).id, ← here]
  simp only [thresholds operates]
  exact sum_moved
    (fun i => collateralAt env pool user (pool.usersConfig user) i * thresholdAt pool i)
    (fun i => collateralAt env after user (after.usersConfig user) i * thresholdAt pool i) inside
    fun i within different => by rw [(touches.other operates registered different within).1]

theorem moved (touches : Touches asset user pool after) (operates : Operates env pool after)
    (registered : Registered pool)
    (before : Account env pool user (pool.usersConfig user) account)
    (later : Account env after user (after.usersConfig user) account') :
    Moved env asset user pool after account account' (weightedCollateral env pool user)
      (weightedCollateral env after user) := by
  obtain ⟨inside, _⟩ := registered.listed asset touches.listed
  have count := operates.registry.reservesCount
  have index := (operates.evolves.keeps asset).id
  have same : ∀ i < pool.reservesCount, i ≠ (pool.reserves asset).id → _ :=
    fun i within different => touches.other (i := i) operates registered different within
  have collateral := later.collateral
  have debt := later.debt
  rw [count] at collateral debt
  refine ⟨?_, ?_, touches.weighted operates registered, before.threshold, later.threshold,
    fun none => ?_⟩
  · rw [before.collateral, collateral, collateralIn, collateralIn, index]
    exact sum_moved _ _ inside fun i within different => (same i within different).1
  · rw [before.debt, debt, debtIn, debtIn, index]
    exact sum_moved _ _ inside fun i within different => (same i within different).2
  · rw [later.collateral, sum_eq_zero_iff] at none
    exact sum_eq_zero fun i member => by rw [none i member, Nat.zero_mul]

end Touches

end LendingPool

end PalmyProtocol
