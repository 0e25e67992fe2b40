import PalmyProtocol.Library.Averages
import PalmyProtocol.Pool.AccountData
import PalmyProtocol.Proofs.DebtsCounted

set_option autoImplicit false

namespace PalmyProtocol

open Checked Rounding LendingPool Finset

namespace GenericLogic

variable {env env' : Env} {pool pool' : LendingPool} {user asset : Address}
  {config : UserConfigurationMap} {totals : UserAccountTotals} {n : Nat}

def accountLoop (env : Env) (pool : LendingPool) (user : Address) (config : UserConfigurationMap) :
    Result UserAccountData := do
  let totals ← (List.range pool.reservesCount).foldlM (addReserve env pool user config) ⟨0, 0, 0, 0⟩
  let avgLtv ←
    (if 0 < totals.totalCollateralInETH then
      SafeMath.div totals.avgLtv totals.totalCollateralInETH
    else pure 0)
  let avgLiquidationThreshold ←
    (if 0 < totals.totalCollateralInETH then
      SafeMath.div totals.avgLiquidationThreshold totals.totalCollateralInETH
    else pure 0)
  let healthFactor ← calculateHealthFactorFromBalances totals.totalCollateralInETH
    totals.totalDebtInETH avgLiquidationThreshold
  pure { totals with avgLtv, avgLiquidationThreshold, healthFactor }

theorem addReserve_unused (index : n < 128) (unused : (config.borrows n || config.collateralises n) = false) :
    addReserve env pool user config totals n = .ok totals := by
  have flag : config.isUsingAsCollateralOrBorrowing n = .ok false :=
    UserConfigurationMap.isUsingAsCollateralOrBorrowing_eq_ok.2 ⟨index, unused⟩
  rw [addReserve, flag]
  rfl

-- The empty word skips every turn, and the loop ends where the shortcut starts.
theorem calculateUserAccountData_eq_loop (count : pool.reservesCount ≤ 128) :
    calculateUserAccountData env pool user config = accountLoop env pool user config := by
  by_cases empty : config.isEmpty = true
  · have clear := UserConfigurationMap.isEmpty_iff.1 empty
    obtain ⟨totals, summed, rfl⟩ := foldlM_range_ok (f := addReserve env pool user config)
      (fun _ totals => totals = ⟨0, 0, 0, 0⟩) (fun n below totals none => by
        have index := Nat.lt_of_lt_of_le below count
        have unused : (config.borrows n || config.collateralises n) = false := by
          rw [(clear n index).1, (clear n index).2]
          rfl
        exact ⟨totals, addReserve_unused index unused, none⟩) rfl
    rw [calculateUserAccountData, if_pos empty, accountLoop, summed]
    rfl
  · rw [calculateUserAccountData, if_neg empty]
    rfl

structure SameUsed (config : UserConfigurationMap) (env : Env) (pool : LendingPool) (env' : Env)
    (pool' : LendingPool) : Prop where
  timestamp : env'.timestamp = env.timestamp
  count : pool'.reservesCount = pool.reservesCount
  list : ∀ i < pool.reservesCount, (config.borrows i || config.collateralises i) = true →
    pool'.reservesList i = pool.reservesList i
  reserves : ∀ i < pool.reservesCount, (config.borrows i || config.collateralises i) = true →
    pool'.reserves (pool.reservesList i) = pool.reserves (pool.reservesList i)
  prices : ∀ i < pool.reservesCount, (config.borrows i || config.collateralises i) = true →
    env'.getAssetPrice (pool.reservesList i) = env.getAssetPrice (pool.reservesList i)

theorem addReserve_same (count : pool.reservesCount ≤ 128) (same : SameUsed config env pool env' pool')
    (below : n < pool.reservesCount) (totals : UserAccountTotals) :
    addReserve env' pool' user config totals n = addReserve env pool user config totals n := by
  by_cases used : (config.borrows n || config.collateralises n) = true
  · have place := same.list n below used
    have reserve := same.reserves n below used
    have price := same.prices n below used
    simp only [addReserve, addCollateral, addDebt, place, reserve, price, same.timestamp]
  · rw [Bool.not_eq_true] at used
    have index := Nat.lt_of_lt_of_le below count
    rw [addReserve_unused index used, addReserve_unused index used]

theorem calculateUserAccountData_same (count : pool.reservesCount ≤ 128)
    (same : SameUsed config env pool env' pool') :
    calculateUserAccountData env' pool' user config = calculateUserAccountData env pool user config := by
  have loop : (List.range pool'.reservesCount).foldlM (addReserve env' pool' user config) ⟨0, 0, 0, 0⟩ =
      (List.range pool.reservesCount).foldlM (addReserve env pool user config) ⟨0, 0, 0, 0⟩ := by
    rw [same.count]
    exact foldlM_congr (fun n member totals => addReserve_same count same (List.mem_range.1 member) totals) _
  rw [calculateUserAccountData, calculateUserAccountData, loop]

def collateralSum (env : Env) (pool : LendingPool) (user : Address) (config : UserConfigurationMap) :
    Nat := ∑ i ∈ range pool.reservesCount, collateralAt env pool user config i

def debtSum (env : Env) (pool : LendingPool) (user : Address) (config : UserConfigurationMap) : Nat :=
  ∑ i ∈ range pool.reservesCount, debtAt env pool user config i

def weightedSum (env : Env) (pool : LendingPool) (user : Address) (config : UserConfigurationMap)
    (parameter : Nat → Nat) : Nat :=
  ∑ i ∈ range pool.reservesCount, collateralAt env pool user config i * parameter i

def backing (env : Env) (pool : LendingPool) (user : Address) (config : UserConfigurationMap) : Nat :=
  collateralSum env pool user config *
    (weightedSum env pool user config pool.thresholdAt / collateralSum env pool user config)

structure Fits (env : Env) (pool : LendingPool) (user : Address) (config : UserConfigurationMap) :
    Prop where
  prices : ∀ i < pool.reservesCount, (config.borrows i || config.collateralises i) = true →
    ∃ price, env.getAssetPrice (pool.reservesList i) = .ok price
  decimals : ∀ i < pool.reservesCount, (config.borrows i || config.collateralises i) = true →
    (pool.reserves (pool.reservesList i)).configuration.getDecimals ≤ 77
  balances : ∀ i < pool.reservesCount, pool.countsAsCollateral config i → ∃ balance,
    (pool.reserves (pool.reservesList i)).lTokenBalanceOf env.timestamp user = .ok balance ∧
    env.priceOf (pool.reservesList i) * balance ≤ maxUint256
  debts : ∀ i < pool.reservesCount, config.borrows i = true → ∃ stable floating,
    (pool.reserves (pool.reservesList i)).getUserCurrentDebt env.timestamp user =
      .ok (stable, floating) ∧
    stable + floating ≤ maxUint256 ∧
    env.priceOf (pool.reservesList i) * (stable + floating) ≤ maxUint256
  collateral : collateralSum env pool user config ≤ maxUint256
  debt : debtSum env pool user config ≤ maxUint256
  ltv : weightedSum env pool user config pool.ltvAt ≤ maxUint256
  threshold : weightedSum env pool user config pool.thresholdAt ≤ maxUint256
  healthFactor : debtSum env pool user config ≠ 0 →
    backing env pool user config + HALF_PERCENT ≤ maxUint256 ∧
      divHalfUp (backing env pool user config) PERCENTAGE_FACTOR * WAD +
        debtSum env pool user config / 2 ≤ maxUint256

theorem valueInETH_fits {amount decimals : Nat}
    (quoted : env.getAssetPrice asset = .ok (env.priceOf asset)) (small : decimals ≤ 77)
    (product : env.priceOf asset * amount ≤ maxUint256) :
    valueInETH (env.getAssetPrice asset) amount decimals =
      .ok (env.priceOf asset * amount / tokenUnit decimals) := by
  simp only [valueInETH, quoted, ok_bind, bind_eq_ok, SafeMath.mul_eq_ok, SafeMath.div_eq_ok]
  refine ⟨_, ⟨product, rfl⟩, ?_, rfl⟩
  rw [tokenUnit_exact (Nat.lt_succ_of_le small)]
  exact Nat.pow_pos (by decide)

theorem addCollateral_fits (quoted : env.getAssetPrice asset = .ok (env.priceOf asset))
    (small : (pool.reserves asset).configuration.getDecimals ≤ 77)
    (readable : ∃ balance, (pool.reserves asset).lTokenBalanceOf env.timestamp user = .ok balance ∧
      env.priceOf asset * balance ≤ maxUint256)
    (collateral : totals.totalCollateralInETH + collateralInETH env pool user asset ≤ maxUint256)
    (ltv : totals.avgLtv + collateralInETH env pool user asset *
      (pool.reserves asset).configuration.getLtv ≤ maxUint256)
    (threshold : totals.avgLiquidationThreshold + collateralInETH env pool user asset *
      (pool.reserves asset).configuration.getLiquidationThreshold ≤ maxUint256) :
    ∃ totals', addCollateral env pool user asset totals = .ok totals' := by
  obtain ⟨balance, read, product⟩ := readable
  have valued := valueInETH_fits quoted small product
  have worth : env.priceOf asset * balance /
      tokenUnit (pool.reserves asset).configuration.getDecimals =
        collateralInETH env pool user asset := by
    rw [(Reserve.lTokenBalanceOf_ok read).2]
    rfl
  rw [worth] at valued
  simp only [addCollateral, bind_eq_ok, SafeMath.add_eq_ok, SafeMath.mul_eq_ok, pure_eq_ok]
  exact ⟨_, balance, read, _, valued, _, ⟨collateral, rfl⟩, _, ⟨by omega, rfl⟩, _, ⟨ltv, rfl⟩, _,
    ⟨by omega, rfl⟩, _, ⟨threshold, rfl⟩, rfl⟩

theorem addDebt_fits (quoted : env.getAssetPrice asset = .ok (env.priceOf asset))
    (small : (pool.reserves asset).configuration.getDecimals ≤ 77)
    (readable : ∃ stable floating,
      (pool.reserves asset).getUserCurrentDebt env.timestamp user = .ok (stable, floating) ∧
      stable + floating ≤ maxUint256 ∧ env.priceOf asset * (stable + floating) ≤ maxUint256)
    (debt : totals.totalDebtInETH + debtInETH env pool user asset ≤ maxUint256) :
    ∃ totals', addDebt env pool user asset totals = .ok totals' := by
  obtain ⟨stable, floating, read, sum, product⟩ := readable
  have valued := valueInETH_fits quoted small product
  have worth : env.priceOf asset * (stable + floating) /
      tokenUnit (pool.reserves asset).configuration.getDecimals =
        debtInETH env pool user asset := by
    rw [← Reserve.debt_of_views read]
    rfl
  rw [worth] at valued
  simp only [addDebt, bind_eq_ok, Prod.exists, SafeMath.add_eq_ok, pure_eq_ok]
  exact ⟨_, stable, floating, read, _, ⟨sum, rfl⟩, _, valued, _, ⟨debt, rfl⟩, rfl⟩

theorem partial_le {count bound : Nat} {term : Nat → Nat} (below : n < count)
    (whole : ∑ i ∈ range count, term i ≤ bound) : ∑ i ∈ range n, term i + term n ≤ bound := by
  rw [← sum_range_succ]
  exact le_trans (sum_le_sum_of_subset (range_subset_range.2 below)) whole

theorem addReserve_fits (count : pool.reservesCount ≤ 128) (fits : Fits env pool user config)
    (below : n < pool.reservesCount) (sums : Sums env pool user config n totals) :
    ∃ totals', addReserve env pool user config totals n = .ok totals' := by
  have index := Nat.lt_of_lt_of_le below count
  by_cases used : (config.borrows n || config.collateralises n) = true
  · obtain ⟨price, answered⟩ := fits.prices n below used
    have quoted : env.getAssetPrice (pool.reservesList n) =
        .ok (env.priceOf (pool.reservesList n)) := by
      rw [Env.priceOf, answered]
    have small := fits.decimals n below used
    have collateral := partial_le below fits.collateral
    have debt := partial_le below fits.debt
    have ltv := partial_le below fits.ltv
    have threshold := partial_le below fits.threshold
    rw [← sums.collateral] at collateral
    rw [← sums.debt] at debt
    rw [← sums.ltv] at ltv
    rw [← sums.threshold] at threshold
    have first : ∃ middle, (if (pool.reserves (pool.reservesList n)).configuration.getLiquidationThreshold ≠ 0 ∧
          config.collateralises n then addCollateral env pool user (pool.reservesList n) totals
        else pure totals) = .ok middle ∧ middle.totalDebtInETH = totals.totalDebtInETH := by
      by_cases counted : pool.countsAsCollateral config n
      · rw [collateralAt, if_pos counted] at collateral ltv threshold
        obtain ⟨middle, added⟩ := addCollateral_fits quoted small (fits.balances n below counted)
          collateral ltv threshold
        refine ⟨middle, (if_pos ⟨counted.2, counted.1⟩).trans added, ?_⟩
        rw [addCollateral_ok added]
      · exact ⟨totals, if_neg fun both => counted ⟨both.2, both.1⟩, rfl⟩
    obtain ⟨middle, first, kept⟩ := first
    have second : ∃ after, (if config.borrows n then addDebt env pool user (pool.reservesList n) middle
        else pure middle) = .ok after := by
      by_cases borrowing : config.borrows n = true
      · rw [debtAt, if_pos borrowing, ← kept] at debt
        obtain ⟨after, added⟩ := addDebt_fits quoted small (fits.debts n below borrowing) debt
        exact ⟨after, (if_pos borrowing).trans added⟩
      · exact ⟨middle, if_neg borrowing⟩
    obtain ⟨after, second⟩ := second
    refine ⟨after, ?_⟩
    simp only [addReserve, bind_eq_ok, UserConfigurationMap.isUsingAsCollateralOrBorrowing_eq_ok]
    refine ⟨true, ⟨index, used⟩, ?_⟩
    rw [if_neg (by decide)]
    simp only [bind_eq_ok, UserConfigurationMap.isUsingAsCollateral_eq_ok,
      UserConfigurationMap.isBorrowing_eq_ok]
    exact ⟨_, quoted, _, ⟨index, rfl⟩, middle, first, _, ⟨index, rfl⟩, second⟩
  · rw [Bool.not_eq_true] at used
    exact ⟨totals, addReserve_unused index used⟩

theorem healthFactor_fits {collateral debt threshold : Nat} (word : debt ≤ maxUint256)
    (fits : debt ≠ 0 → collateral * threshold + HALF_PERCENT ≤ maxUint256 ∧
      divHalfUp (collateral * threshold) PERCENTAGE_FACTOR * WAD + debt / 2 ≤ maxUint256) :
    ∃ healthFactor, calculateHealthFactorFromBalances collateral debt threshold =
      .ok healthFactor := by
  by_cases owing : debt = 0
  · exact ⟨maxUint256, by rw [calculateHealthFactorFromBalances, if_pos owing]⟩
  · obtain ⟨product, scaled⟩ := fits owing
    rw [calculateHealthFactorFromBalances, if_neg owing, percentMul_eq_ok.2 ⟨product, rfl⟩, ok_bind,
      wadDiv, divRounded_of_share WAD_pos owing word rfl, if_pos scaled]
    exact ⟨_, rfl⟩

theorem calculateUserAccountData_fits (count : pool.reservesCount ≤ 128)
    (fits : Fits env pool user config) :
    ∃ account, calculateUserAccountData env pool user config = .ok account := by
  have start : Sums env pool user config 0 ⟨0, 0, 0, 0⟩ := ⟨rfl, rfl, rfl, rfl⟩
  obtain ⟨totals, summed, sums⟩ := foldlM_range_ok (Sums env pool user config)
    (fun n below totals sums => by
      obtain ⟨totals', turn⟩ := addReserve_fits count fits below sums
      exact ⟨totals', turn, addReserve_sums sums turn⟩) start
  have health : ∃ healthFactor, calculateHealthFactorFromBalances totals.totalCollateralInETH
      totals.totalDebtInETH (totals.avgLiquidationThreshold / totals.totalCollateralInETH) =
        .ok healthFactor := by
    rw [sums.collateral, sums.debt, sums.threshold]
    exact healthFactor_fits fits.debt fits.healthFactor
  obtain ⟨healthFactor, health⟩ := health
  rw [calculateUserAccountData_eq_loop count, accountLoop, summed]
  simp only [ok_bind, average_fits, health]
  exact ⟨_, rfl⟩

def collaterals (pool : LendingPool) (config : UserConfigurationMap) : Finset Nat :=
  (range pool.reservesCount).filter (pool.countsAsCollateral config)

def debts (pool : LendingPool) (config : UserConfigurationMap) : Finset Nat :=
  (range pool.reservesCount).filter fun i => config.borrows i = true

def worth (env : Env) (pool : LendingPool) (i balance : Nat) : Nat :=
  env.priceOf (pool.reservesList i) * balance /
    10 ^ (pool.reserves (pool.reservesList i)).configuration.getDecimals

def collateralWorth (env : Env) (pool : LendingPool) (user : Address) (i : Nat) : Nat :=
  worth env pool i ((pool.reserves (pool.reservesList i)).lTokenBalance env.timestamp user)

def debtWorth (env : Env) (pool : LendingPool) (user : Address) (i : Nat) : Nat :=
  worth env pool i ((pool.reserves (pool.reservesList i)).debt env.timestamp user)

structure FlaggedSums (env : Env) (pool : LendingPool) (user : Address)
    (config : UserConfigurationMap) (account : UserAccountData) : Prop where
  collateral : account.totalCollateralInETH =
    ∑ i ∈ collaterals pool config, collateralWorth env pool user i
  debt : account.totalDebtInETH = ∑ i ∈ debts pool config, debtWorth env pool user i
  none : account.totalCollateralInETH = 0 →
    account.avgLtv = 0 ∧ account.avgLiquidationThreshold = 0
  ltv : 0 < account.totalCollateralInETH → Averages.Floored (collaterals pool config)
    (collateralWorth env pool user) pool.ltvAt account.avgLtv
  threshold : 0 < account.totalCollateralInETH → Averages.Floored (collaterals pool config)
    (collateralWorth env pool user) pool.thresholdAt account.avgLiquidationThreshold
  order : (∀ i ∈ collaterals pool config, pool.ltvAt i ≤ pool.thresholdAt i) →
    account.avgLtv ≤ account.avgLiquidationThreshold
  healthFactor : calculateHealthFactorFromBalances account.totalCollateralInETH
    account.totalDebtInETH account.avgLiquidationThreshold = .ok account.healthFactor
  healthy : account.totalDebtInETH = 0 → account.healthFactor = maxUint256

theorem Fits.unit {i : Nat} (fits : Fits env pool user config) (below : i < pool.reservesCount)
    (used : (config.borrows i || config.collateralises i) = true) :
    (pool.reserves (pool.reservesList i)).unit =
      10 ^ (pool.reserves (pool.reservesList i)).configuration.getDecimals :=
  tokenUnit_exact (Nat.lt_succ_of_le (fits.decimals i below used))

theorem sum_collateralAt (fits : Fits env pool user config) (parameter : Nat → Nat) :
    ∑ i ∈ range pool.reservesCount, collateralAt env pool user config i * parameter i =
      ∑ i ∈ collaterals pool config, collateralWorth env pool user i * parameter i := by
  rw [collaterals, sum_filter]
  refine sum_congr rfl fun i inside => ?_
  by_cases counted : pool.countsAsCollateral config i
  · have used : (config.borrows i || config.collateralises i) = true := by
      rw [counted.1, Bool.or_true]
    rw [collateralAt, if_pos counted, if_pos counted, collateralInETH,
      fits.unit (mem_range.1 inside) used]
    rfl
  · rw [collateralAt, if_neg counted, if_neg counted, Nat.zero_mul]

theorem sum_debtAt (fits : Fits env pool user config) :
    ∑ i ∈ range pool.reservesCount, debtAt env pool user config i =
      ∑ i ∈ debts pool config, debtWorth env pool user i := by
  rw [debts, sum_filter]
  refine sum_congr rfl fun i inside => ?_
  by_cases borrowing : config.borrows i = true
  · have used : (config.borrows i || config.collateralises i) = true := by
      rw [borrowing, Bool.true_or]
    rw [debtAt, if_pos borrowing, if_pos borrowing, debtInETH, fits.unit (mem_range.1 inside) used]
    rfl
  · rw [debtAt, if_neg borrowing, if_neg borrowing]

theorem flaggedSums {account : UserAccountData} (count : pool.reservesCount ≤ 128)
    (fits : Fits env pool user config)
    (computed : calculateUserAccountData env pool user config = .ok account) :
    FlaggedSums env pool user config account := by
  obtain ⟨collateral, debt, ltv, threshold, health⟩ := calculateUserAccountData_ok count computed
  rw [sum_collateralAt fits] at ltv threshold
  have plain := sum_collateralAt fits fun _ => 1
  simp only [Nat.mul_one] at plain
  rw [plain] at collateral
  rw [sum_debtAt fits] at debt
  refine ⟨collateral, debt, fun zero => ?_, fun some => ?_, fun some => ?_, fun order => ?_, health,
    fun free => ?_⟩
  · rw [ltv, threshold, zero, Nat.div_zero, Nat.div_zero]
    exact ⟨rfl, rfl⟩
  · rw [ltv, collateral]
    exact Averages.floored (collateral ▸ some)
  · rw [threshold, collateral]
    exact Averages.floored (collateral ▸ some)
  · rw [ltv, threshold]
    exact Averages.average_mono order _
  · rw [calculateHealthFactorFromBalances, if_pos free] at health
    exact (Except.ok.inj health).symm

/-- Account data is the flagged sum and nothing else, whatever the words, the prices and the
balances are; the shortcut and the reserves without a set bit make no difference. -/
theorem account_data_flagged (env : Env) (pool : LendingPool) (user : Address)
    (config : UserConfigurationMap) (count : pool.reservesCount ≤ 128) :
    (Fits env pool user config → ∃ account,
      calculateUserAccountData env pool user config = .ok account ∧
        FlaggedSums env pool user config account) ∧
    calculateUserAccountData env pool user config = accountLoop env pool user config ∧
    ∀ (env' : Env) (pool' : LendingPool), SameUsed config env pool env' pool' →
      calculateUserAccountData env' pool' user config =
        calculateUserAccountData env pool user config := by
  refine ⟨fun fits => ?_, calculateUserAccountData_eq_loop count,
    fun _ _ same => calculateUserAccountData_same count same⟩
  obtain ⟨account, computed⟩ := calculateUserAccountData_fits count fits
  exact ⟨account, computed, flaggedSums count fits computed⟩

-- One who supplied an asset and owes another, both priced.
theorem account_data_flagged_borrowed :
    ∃ world : World, Runs.run World.step Market.start World.borrowedOnce = .ok world ∧
      world.pool.reservesCount ≤ 128 ∧
      ∃ account, calculateUserAccountData world.env world.pool 101 (world.pool.usersConfig 101) =
          .ok account ∧
        FlaggedSums world.env world.pool 101 (world.pool.usersConfig 101) account := by
  have outcome : yields (Runs.run World.step Market.start World.borrowedOnce) (fun world =>
      world.pool.reservesCount ≤ 128 ∧
      (∀ i < world.pool.reservesCount,
        yields (world.env.getAssetPrice (world.pool.reservesList i)) (fun _ => true) = true ∧
        (world.pool.reserves (world.pool.reservesList i)).configuration.getDecimals ≤ 77 ∧
        yields ((world.pool.reserves (world.pool.reservesList i)).lTokenBalanceOf
          world.env.timestamp 101) (fun balance =>
            world.env.priceOf (world.pool.reservesList i) * balance ≤ maxUint256) = true ∧
        yields ((world.pool.reserves (world.pool.reservesList i)).getUserCurrentDebt
          world.env.timestamp 101) (fun debts => debts.1 + debts.2 ≤ maxUint256 ∧
            world.env.priceOf (world.pool.reservesList i) * (debts.1 + debts.2) ≤ maxUint256) =
              true) ∧
      collateralSum world.env world.pool 101 (world.pool.usersConfig 101) ≤ maxUint256 ∧
      debtSum world.env world.pool 101 (world.pool.usersConfig 101) ≤ maxUint256 ∧
      weightedSum world.env world.pool 101 (world.pool.usersConfig 101) world.pool.ltvAt ≤
        maxUint256 ∧
      weightedSum world.env world.pool 101 (world.pool.usersConfig 101) world.pool.thresholdAt ≤
        maxUint256 ∧
      backing world.env world.pool 101 (world.pool.usersConfig 101) + HALF_PERCENT ≤ maxUint256 ∧
      divHalfUp (backing world.env world.pool 101 (world.pool.usersConfig 101))
          PERCENTAGE_FACTOR * WAD +
        debtSum world.env world.pool 101 (world.pool.usersConfig 101) / 2 ≤ maxUint256) := by
    decide +kernel
  obtain ⟨world, ran, facts⟩ := yields_iff.1 outcome
  obtain ⟨count, each, collateral, debt, ltv, threshold, product, scaled⟩ := of_decide_eq_true facts
  have fits : Fits world.env world.pool 101 (world.pool.usersConfig 101) := by
    refine ⟨fun i below _ => ?_, fun i below _ => (each i below).2.1, fun i below _ => ?_,
      fun i below _ => ?_, collateral, debt, ltv, threshold, fun _ => ⟨product, scaled⟩⟩
    · obtain ⟨price, quoted, _⟩ := yields_iff.1 (each i below).1
      exact ⟨price, quoted⟩
    · obtain ⟨balance, read, small⟩ := yields_iff.1 (each i below).2.2.1
      exact ⟨balance, read, of_decide_eq_true small⟩
    · obtain ⟨⟨stable, floating⟩, read, small⟩ := yields_iff.1 (each i below).2.2.2
      exact ⟨stable, floating, read, of_decide_eq_true small⟩
  exact ⟨world, ran, count, (account_data_flagged _ _ 101 _ count).1 fits⟩

end GenericLogic

end PalmyProtocol
