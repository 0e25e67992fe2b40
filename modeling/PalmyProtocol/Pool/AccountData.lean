import PalmyProtocol.Pool.GenericLogic
import PalmyProtocol.Pool.ReserveDebts
import Mathlib.Algebra.BigOperators.Group.Finset.Basic

set_option autoImplicit false

namespace PalmyProtocol

open Checked Rounding

-- A price that the oracle does not give counts as zero here; every call that needs it reverts.
def Env.priceOf (env : Env) (asset : Address) : Nat :=
  match env.getAssetPrice asset with
  | .ok price => price
  | .error _ => 0

namespace Reserve

variable (reserve : Reserve)

def lTokenBalance (now : Nat) (user : Address) : Nat :=
  divHalfUp (reserve.lToken.base.balances user * reserve.normalizedIncome now) RAY

def variableDebt (now : Nat) (user : Address) : Nat :=
  divHalfUp (reserve.variableDebtToken.base.balances user * reserve.normalizedDebt now) RAY

def debt (now : Nat) (user : Address) : Nat :=
  reserve.stableDebtToken.debt now user + reserve.variableDebt now user

-- What a user owes at the borrow index that an accrual stores: without the interest that the view
-- shows and an accrual forgets.
def storedDebt (now : Nat) (user : Address) : Nat :=
  reserve.stableDebtToken.debt now user +
    divHalfUp (reserve.variableDebtToken.base.balances user *
      reserve.accruedVariableBorrowIndex now reserve.variableDebtToken.base.totalSupply) RAY

def forgottenDebt (now : Nat) (user : Address) : Nat :=
  reserve.debt now user - reserve.storedDebt now user

def unit : Nat := tokenUnit reserve.configuration.getDecimals

variable {reserve} {now : Nat} {user : Address}

theorem debt_of_not_owes (clear : ¬reserve.Owes user) : reserve.debt now user = 0 := by
  rw [Owes, not_or, not_not, not_not] at clear
  obtain ⟨stable, floating⟩ := clear
  have scaled : reserve.variableDebtToken.base.balances user = 0 := floating
  rw [debt, StableDebtToken.debt_of_no_principal stable, variableDebt, scaled, Nat.zero_mul,
    divHalfUp_zero]

theorem storedDebt_le (reserve : Reserve) (env : Env) (user : Address) :
    reserve.storedDebt env.timestamp user ≤ reserve.debt env.timestamp user :=
  Nat.add_le_add_left (divHalfUp_mono (Nat.mul_le_mul_left _
    (ReserveData.accruedVariableBorrowIndex_le env.timestamp_lt _)) RAY) _

theorem debt_of_views {stable floating : Nat}
    (viewed : reserve.getUserCurrentDebt now user = .ok (stable, floating)) :
    reserve.debt now user = stable + floating := by
  obtain ⟨stableView, variableView⟩ := getUserCurrentDebt_ok viewed
  rw [debt, variableDebt, (stableDebtBalanceOf_ok stableView).2,
    (variableDebtBalanceOf_ok variableView).2]

end Reserve

namespace LendingPool

variable (env : Env) (pool : LendingPool)

def collateralInETH (user asset : Address) : Nat :=
  env.priceOf asset * (pool.reserves asset).lTokenBalance env.timestamp user /
    (pool.reserves asset).unit

def debtInETH (user asset : Address) : Nat :=
  env.priceOf asset * (pool.reserves asset).debt env.timestamp user / (pool.reserves asset).unit

def countsAsCollateral (config : UserConfigurationMap) (i : Nat) : Prop :=
  config.collateralises i = true ∧
    (pool.reserves (pool.reservesList i)).configuration.getLiquidationThreshold ≠ 0

instance (config : UserConfigurationMap) (i : Nat) :
    Decidable (pool.countsAsCollateral config i) :=
  inferInstanceAs (Decidable (_ ∧ _))

def collateralAt (user : Address) (config : UserConfigurationMap) (i : Nat) : Nat :=
  if pool.countsAsCollateral config i then collateralInETH env pool user (pool.reservesList i) else 0

def debtAt (user : Address) (config : UserConfigurationMap) (i : Nat) : Nat :=
  if config.borrows i then debtInETH env pool user (pool.reservesList i) else 0

def ltvAt (i : Nat) : Nat := (pool.reserves (pool.reservesList i)).configuration.getLtv

def thresholdAt (i : Nat) : Nat :=
  (pool.reserves (pool.reservesList i)).configuration.getLiquidationThreshold

end LendingPool

namespace GenericLogic

open LendingPool Finset

variable {env : Env} {pool : LendingPool} {user asset : Address} {config : UserConfigurationMap}

theorem valueInETH_ok {amount decimals value : Nat}
    (computed : valueInETH (env.getAssetPrice asset) amount decimals = .ok value) :
    value = env.priceOf asset * amount / tokenUnit decimals ∧ 0 < tokenUnit decimals ∧
      env.getAssetPrice asset = .ok (env.priceOf asset) := by
  simp only [valueInETH, bind_eq_ok, SafeMath.mul_eq_ok, SafeMath.div_eq_ok] at computed
  obtain ⟨price, quoted, _, ⟨_, rfl⟩, positive, rfl⟩ := computed
  have known : env.priceOf asset = price := by rw [Env.priceOf, quoted]
  rw [known]
  exact ⟨rfl, positive, quoted⟩

structure Sums (env : Env) (pool : LendingPool) (user : Address) (config : UserConfigurationMap)
    (n : Nat) (totals : UserAccountTotals) : Prop where
  collateral : totals.totalCollateralInETH = ∑ i ∈ range n, collateralAt env pool user config i
  debt : totals.totalDebtInETH = ∑ i ∈ range n, debtAt env pool user config i
  ltv : totals.avgLtv = ∑ i ∈ range n, collateralAt env pool user config i * ltvAt pool i
  threshold : totals.avgLiquidationThreshold =
    ∑ i ∈ range n, collateralAt env pool user config i * thresholdAt pool i

theorem addCollateral_ok {totals totals' : UserAccountTotals}
    (computed : addCollateral env pool user asset totals = .ok totals') :
    totals' = ⟨totals.totalCollateralInETH + collateralInETH env pool user asset,
      totals.totalDebtInETH,
      totals.avgLtv + collateralInETH env pool user asset *
        (pool.reserves asset).configuration.getLtv,
      totals.avgLiquidationThreshold + collateralInETH env pool user asset *
        (pool.reserves asset).configuration.getLiquidationThreshold⟩ := by
  simp only [addCollateral, bind_eq_ok, SafeMath.add_eq_ok, SafeMath.mul_eq_ok,
    pure_eq_ok] at computed
  obtain ⟨_, read, _, valued, _, ⟨_, rfl⟩, _, ⟨_, rfl⟩, _, ⟨_, rfl⟩, _, ⟨_, rfl⟩, _, ⟨_, rfl⟩,
    rfl⟩ := computed
  obtain ⟨_, rfl⟩ := Reserve.lTokenBalanceOf_ok read
  obtain ⟨rfl, _⟩ := valueInETH_ok valued
  rfl

theorem addDebt_ok {totals totals' : UserAccountTotals}
    (computed : addDebt env pool user asset totals = .ok totals') :
    totals' = { totals with
      totalDebtInETH := totals.totalDebtInETH + debtInETH env pool user asset } := by
  simp only [addDebt, bind_eq_ok, Prod.exists, SafeMath.add_eq_ok, pure_eq_ok] at computed
  obtain ⟨_, _, debts, _, ⟨_, rfl⟩, _, valued, _, ⟨_, rfl⟩, rfl⟩ := computed
  obtain ⟨stable, floating⟩ := Reserve.getUserCurrentDebt_ok debts
  obtain ⟨_, rfl⟩ := Reserve.stableDebtBalanceOf_ok stable
  obtain ⟨_, rfl⟩ := Reserve.variableDebtBalanceOf_ok floating
  obtain ⟨rfl, _⟩ := valueInETH_ok valued
  rfl

theorem addReserve_sums {n : Nat} {totals totals' : UserAccountTotals}
    (sums : Sums env pool user config n totals)
    (computed : addReserve env pool user config totals n = .ok totals') :
    Sums env pool user config (n + 1) totals' := by
  simp only [addReserve, bind_eq_ok,
    UserConfigurationMap.isUsingAsCollateralOrBorrowing_eq_ok] at computed
  obtain ⟨used, ⟨_, rfl⟩, computed⟩ := computed
  by_cases idle : (config.borrows n || config.collateralises n) = false
  · obtain ⟨noDebt, noCollateral⟩ := Bool.or_eq_false_iff.1 idle
    rw [if_pos idle] at computed
    cases computed
    have skipped : ¬pool.countsAsCollateral config n := by simp [countsAsCollateral, noCollateral]
    constructor
    · rw [sum_range_succ, ← sums.collateral, collateralAt, if_neg skipped, Nat.add_zero]
    · rw [sum_range_succ, ← sums.debt, debtAt, noDebt]
      simp
    · rw [sum_range_succ, ← sums.ltv, collateralAt, if_neg skipped, Nat.zero_mul, Nat.add_zero]
    · rw [sum_range_succ, ← sums.threshold, collateralAt, if_neg skipped, Nat.zero_mul,
        Nat.add_zero]
  · rw [if_neg idle] at computed
    simp only [bind_eq_ok, UserConfigurationMap.isUsingAsCollateral_eq_ok,
      UserConfigurationMap.isBorrowing_eq_ok] at computed
    obtain ⟨_, _, _, ⟨_, rfl⟩, middle, first, _, ⟨_, rfl⟩, second⟩ := computed
    have collateral : middle = ⟨totals.totalCollateralInETH + collateralAt env pool user config n,
        totals.totalDebtInETH,
        totals.avgLtv + collateralAt env pool user config n * ltvAt pool n,
        totals.avgLiquidationThreshold +
          collateralAt env pool user config n * thresholdAt pool n⟩ := by
      by_cases counted : pool.countsAsCollateral config n
      · rw [if_pos ⟨counted.2, counted.1⟩] at first
        rw [addCollateral_ok first, collateralAt, if_pos counted]
        rfl
      · rw [if_neg fun both => counted ⟨both.2, both.1⟩] at first
        cases first
        simp [collateralAt, counted]
    have debt : totals' = { middle with
        totalDebtInETH := middle.totalDebtInETH + debtAt env pool user config n } := by
      by_cases borrowing : config.borrows n = true
      · rw [if_pos borrowing] at second
        rw [addDebt_ok second, debtAt, if_pos borrowing]
      · rw [if_neg borrowing] at second
        cases second
        simp [debtAt, borrowing]
    rw [debt, collateral]
    constructor
    · rw [sum_range_succ, ← sums.collateral]
    · rw [sum_range_succ, ← sums.debt]
    · rw [sum_range_succ, ← sums.ltv]
    · rw [sum_range_succ, ← sums.threshold]

-- The loop over the reserves, by induction on how many of them it has seen.
theorem foldlM_sums {n : Nat} {totals : UserAccountTotals}
    (computed : (List.range n).foldlM (addReserve env pool user config) ⟨0, 0, 0, 0⟩ =
      .ok totals) : Sums env pool user config n totals := by
  induction n generalizing totals with
  | zero =>
      cases computed
      exact ⟨rfl, rfl, rfl, rfl⟩
  | succ n ih =>
      rw [List.range_succ, List.foldlM_append, bind_eq_ok] at computed
      obtain ⟨middle, before, last⟩ := computed
      simp only [List.foldlM_cons, List.foldlM_nil, bind_eq_ok, pure_eq_ok] at last
      obtain ⟨_, last, rfl⟩ := last
      exact addReserve_sums (ih before) last

structure Account (env : Env) (pool : LendingPool) (user : Address) (config : UserConfigurationMap)
    (account : UserAccountData) : Prop where
  collateral : account.totalCollateralInETH =
    ∑ i ∈ range pool.reservesCount, collateralAt env pool user config i
  debt : account.totalDebtInETH = ∑ i ∈ range pool.reservesCount, debtAt env pool user config i
  ltv : account.avgLtv = (∑ i ∈ range pool.reservesCount,
    collateralAt env pool user config i * ltvAt pool i) / account.totalCollateralInETH
  threshold : account.avgLiquidationThreshold = (∑ i ∈ range pool.reservesCount,
    collateralAt env pool user config i * thresholdAt pool i) / account.totalCollateralInETH
  healthFactor : calculateHealthFactorFromBalances account.totalCollateralInETH
    account.totalDebtInETH account.avgLiquidationThreshold = .ok account.healthFactor

theorem average_fits (sum total : Nat) :
    (if 0 < total then SafeMath.div sum total else pure 0) = .ok (sum / total) := by
  split_ifs with positive
  · exact SafeMath.div_eq_ok.2 ⟨positive, rfl⟩
  · rw [Nat.eq_zero_of_not_pos positive, Nat.div_zero]
    rfl

theorem average_ok {sum total average : Nat}
    (computed : (if 0 < total then SafeMath.div sum total else pure 0) = .ok average) :
    average = sum / total := by
  rw [average_fits] at computed
  exact (Except.ok.inj computed).symm

theorem calculateUserAccountData_ok {account : UserAccountData} (count : pool.reservesCount ≤ 128)
    (computed : calculateUserAccountData env pool user config = .ok account) :
    Account env pool user config account := by
  by_cases empty : config.isEmpty = true
  · simp only [calculateUserAccountData, empty, if_true, Except.ok.injEq] at computed
    subst computed
    have clear := UserConfigurationMap.isEmpty_iff.1 empty
    have noCollateral : ∀ i ∈ range pool.reservesCount, collateralAt env pool user config i = 0 := by
      intro i inside
      have flags := clear i (Nat.lt_of_lt_of_le (mem_range.1 inside) count)
      simp [collateralAt, countsAsCollateral, flags.2]
    have noDebt : ∀ i ∈ range pool.reservesCount, debtAt env pool user config i = 0 := by
      intro i inside
      have flags := clear i (Nat.lt_of_lt_of_le (mem_range.1 inside) count)
      simp [debtAt, flags.1]
    exact ⟨(sum_eq_zero noCollateral).symm, (sum_eq_zero noDebt).symm, by simp, by simp, rfl⟩
  · simp only [calculateUserAccountData, empty, if_false, bind_eq_ok, Bool.false_eq_true,
      pure_eq_ok] at computed
    obtain ⟨totals, summed, ltv, averagedLtv, threshold, averagedThreshold, health, computed, rfl⟩ :=
      computed
    have sums := foldlM_sums summed
    refine ⟨sums.collateral, sums.debt, ?_, ?_, computed⟩
    · rw [← sums.ltv]
      exact average_ok averagedLtv
    · rw [← sums.threshold]
      exact average_ok averagedThreshold

end GenericLogic

end PalmyProtocol
