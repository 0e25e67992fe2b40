import PalmyProtocol.Pool.AccountData

set_option autoImplicit false

namespace PalmyProtocol

open Checked Rounding

-- An account that counts no more collateral against the same debts: where its data could be
-- computed it still can be, at no more.
namespace GenericLogic

variable {env : Env} {pool after : LendingPool} {user asset : Address}
variable {config config' : UserConfigurationMap} {totals totals' lighter : UserAccountTotals}
variable {n : Nat}

structure Lightened (env : Env) (user : Address) (pool : LendingPool)
    (config : UserConfigurationMap) (after : LendingPool) (config' : UserConfigurationMap) :
    Prop where
  count : after.reservesCount = pool.reservesCount
  list : after.reservesList = pool.reservesList
  borrows : ∀ i, config'.borrows i = config.borrows i
  collateralises : ∀ i, config'.collateralises i = true → config.collateralises i = true
  configuration : ∀ a, (after.reserves a).configuration = (pool.reserves a).configuration
  balances : ∀ a balance, (pool.reserves a).lTokenBalanceOf env.timestamp user = .ok balance →
    ∃ less ≤ balance, (after.reserves a).lTokenBalanceOf env.timestamp user = .ok less
  debts : ∀ a, (after.reserves a).getUserCurrentDebt env.timestamp user =
    (pool.reserves a).getUserCurrentDebt env.timestamp user

structure Lighter (totals lighter : UserAccountTotals) : Prop where
  collateral : lighter.totalCollateralInETH ≤ totals.totalCollateralInETH
  debt : lighter.totalDebtInETH = totals.totalDebtInETH
  ltv : lighter.avgLtv ≤ totals.avgLtv
  threshold : lighter.avgLiquidationThreshold ≤ totals.avgLiquidationThreshold

theorem valueInETH_less {price : Result Nat} {amount less decimals value : Nat}
    (order : less ≤ amount) (computed : valueInETH price amount decimals = .ok value) :
    ∃ worth ≤ value, valueInETH price less decimals = .ok worth := by
  simp only [valueInETH, bind_eq_ok, SafeMath.mul_eq_ok, SafeMath.div_eq_ok] at computed ⊢
  obtain ⟨unitPrice, quoted, _, ⟨fits, rfl⟩, positive, rfl⟩ := computed
  have product := Nat.mul_le_mul_left unitPrice order
  exact ⟨_, Nat.div_le_div_right product, unitPrice, quoted, _, ⟨le_trans product fits, rfl⟩,
    positive, rfl⟩

theorem addCollateral_lighter (lightened : Lightened env user pool config after config')
    (related : Lighter totals lighter)
    (computed : addCollateral env pool user asset totals = .ok totals') :
    ∃ lighter', addCollateral env after user asset lighter = .ok lighter' ∧
      Lighter totals' lighter' := by
  simp only [addCollateral, bind_eq_ok, SafeMath.add_eq_ok, SafeMath.mul_eq_ok,
    pure_eq_ok] at computed
  obtain ⟨balance, read, value, valued, _, ⟨sum, rfl⟩, _, ⟨_, rfl⟩, _, ⟨ltvSum, rfl⟩, _, ⟨_, rfl⟩,
    _, ⟨thresholdSum, rfl⟩, rfl⟩ := computed
  obtain ⟨less, order, readLess⟩ := lightened.balances asset balance read
  obtain ⟨worth, cheaper, valuedLess⟩ := valueInETH_less order valued
  rw [← lightened.configuration] at valuedLess ltvSum thresholdSum
  have ltvShare := Nat.mul_le_mul_right (after.reserves asset).configuration.getLtv cheaper
  have thresholdShare :=
    Nat.mul_le_mul_right (after.reserves asset).configuration.getLiquidationThreshold cheaper
  have collateral := related.collateral
  have ltv := related.ltv
  have threshold := related.threshold
  simp only [addCollateral, bind_eq_ok, SafeMath.add_eq_ok, SafeMath.mul_eq_ok, pure_eq_ok]
  refine ⟨_, ⟨less, readLess, worth, valuedLess, _, ⟨by omega, rfl⟩, _, ⟨by omega, rfl⟩, _,
    ⟨by omega, rfl⟩, _, ⟨by omega, rfl⟩, _, ⟨by omega, rfl⟩, rfl⟩, ?_⟩
  rw [← lightened.configuration]
  exact ⟨Nat.add_le_add collateral cheaper, related.debt, Nat.add_le_add ltv ltvShare,
    Nat.add_le_add threshold thresholdShare⟩

theorem addDebt_lighter (lightened : Lightened env user pool config after config')
    (related : Lighter totals lighter)
    (computed : addDebt env pool user asset totals = .ok totals') :
    ∃ lighter', addDebt env after user asset lighter = .ok lighter' ∧ Lighter totals' lighter' := by
  simp only [addDebt, bind_eq_ok, Prod.exists, SafeMath.add_eq_ok, pure_eq_ok] at computed
  obtain ⟨stable, floating, debts, _, owed, _, valued, _, ⟨sum, rfl⟩, rfl⟩ := computed
  rw [← lightened.debts] at debts
  rw [← lightened.configuration] at valued
  rw [← related.debt] at sum
  simp only [addDebt, bind_eq_ok, Prod.exists, SafeMath.add_eq_ok, pure_eq_ok]
  refine ⟨_, ⟨stable, floating, debts, _, owed, _, valued, _, ⟨sum, rfl⟩, rfl⟩, ?_⟩
  exact ⟨related.collateral, by simp only [related.debt], related.ltv, related.threshold⟩

theorem addCollateral_skipped (related : Lighter totals lighter)
    (computed : addCollateral env pool user asset totals = .ok totals') :
    Lighter totals' lighter := by
  rw [addCollateral_ok computed]
  exact ⟨le_trans related.collateral (Nat.le_add_right _ _), related.debt,
    le_trans related.ltv (Nat.le_add_right _ _),
    le_trans related.threshold (Nat.le_add_right _ _)⟩

theorem collateral_lighter {counted counted' : Prop} [Decidable counted] [Decidable counted']
    (lightened : Lightened env user pool config after config') (fewer : counted' → counted)
    (related : Lighter totals lighter)
    (computed : (if counted then addCollateral env pool user asset totals else pure totals) =
      .ok totals') :
    ∃ lighter', (if counted' then addCollateral env after user asset lighter else pure lighter) =
      .ok lighter' ∧ Lighter totals' lighter' := by
  by_cases here : counted
  · rw [if_pos here] at computed
    by_cases still : counted'
    · rw [if_pos still]
      exact addCollateral_lighter lightened related computed
    · rw [if_neg still]
      exact ⟨lighter, rfl, addCollateral_skipped related computed⟩
  · rw [if_neg here] at computed
    rw [if_neg fun still => here (fewer still)]
    cases computed
    exact ⟨lighter, rfl, related⟩

theorem debt_lighter {borrowing : Prop} [Decidable borrowing]
    (lightened : Lightened env user pool config after config') (related : Lighter totals lighter)
    (computed : (if borrowing then addDebt env pool user asset totals else pure totals) =
      .ok totals') :
    ∃ lighter', (if borrowing then addDebt env after user asset lighter else pure lighter) =
      .ok lighter' ∧ Lighter totals' lighter' := by
  by_cases here : borrowing
  · rw [if_pos here] at computed ⊢
    exact addDebt_lighter lightened related computed
  · rw [if_neg here] at computed ⊢
    cases computed
    exact ⟨lighter, rfl, related⟩

theorem addReserve_lighter (lightened : Lightened env user pool config after config')
    (related : Lighter totals lighter)
    (computed : addReserve env pool user config totals n = .ok totals') :
    ∃ lighter', addReserve env after user config' lighter n = .ok lighter' ∧
      Lighter totals' lighter' := by
  simp only [addReserve, bind_eq_ok,
    UserConfigurationMap.isUsingAsCollateralOrBorrowing_eq_ok] at computed ⊢
  obtain ⟨_, ⟨index, rfl⟩, computed⟩ := computed
  by_cases idle : (config.borrows n || config.collateralises n) = false
  · rw [if_pos idle] at computed
    cases computed
    obtain ⟨noDebt, noCollateral⟩ := Bool.or_eq_false_iff.1 idle
    have off : config'.collateralises n = false := by
      by_contra on
      rw [lightened.collateralises n (Bool.of_not_eq_false on)] at noCollateral
      cases noCollateral
    refine ⟨lighter, ⟨_, ⟨index, rfl⟩, ?_⟩, related⟩
    rw [if_pos (by rw [lightened.borrows, noDebt, off]; rfl)]
    rfl
  · rw [if_neg idle] at computed
    simp only [bind_eq_ok, UserConfigurationMap.isUsingAsCollateral_eq_ok,
      UserConfigurationMap.isBorrowing_eq_ok] at computed
    obtain ⟨price, quoted, _, ⟨_, rfl⟩, middle, first, _, ⟨_, rfl⟩, second⟩ := computed
    have fewer : ∀ threshold : Nat, threshold ≠ 0 ∧ config'.collateralises n = true →
        threshold ≠ 0 ∧ config.collateralises n = true :=
      fun _ both => ⟨both.1, lightened.collateralises n both.2⟩
    obtain ⟨between, first', met⟩ := collateral_lighter lightened (fewer _) related first
    obtain ⟨lighter', second', finished⟩ := debt_lighter lightened met second
    by_cases idle' : (config'.borrows n || config'.collateralises n) = false
    · obtain ⟨noDebt, noCollateral⟩ := Bool.or_eq_false_iff.1 idle'
      rw [if_neg (by rw [noCollateral]; simp)] at first'
      rw [if_neg (by rw [← lightened.borrows, noDebt]; simp)] at second'
      cases first'
      cases second'
      exact ⟨_, ⟨_, ⟨index, rfl⟩, by rw [if_pos idle']; rfl⟩, finished⟩
    · refine ⟨lighter', ⟨_, ⟨index, rfl⟩, ?_⟩, finished⟩
      rw [if_neg idle']
      simp only [bind_eq_ok, UserConfigurationMap.isUsingAsCollateral_eq_ok,
        UserConfigurationMap.isBorrowing_eq_ok, lightened.list, lightened.configuration]
      exact ⟨price, quoted, _, ⟨index, rfl⟩, between, first', _, ⟨index, rfl⟩,
        by rw [lightened.borrows]; exact second'⟩

theorem foldlM_lighter (lightened : Lightened env user pool config after config')
    (computed : (List.range n).foldlM (addReserve env pool user config) ⟨0, 0, 0, 0⟩ =
      .ok totals) :
    ∃ lighter, (List.range n).foldlM (addReserve env after user config') ⟨0, 0, 0, 0⟩ =
      .ok lighter ∧ Lighter totals lighter := by
  have start : Lighter ⟨0, 0, 0, 0⟩ ⟨0, 0, 0, 0⟩ := ⟨le_refl _, rfl, le_refl _, le_refl _⟩
  have turns : ∀ n totals lighter totals', Lighter totals lighter →
      addReserve env pool user config totals n = .ok totals' →
      ∃ lighter', addReserve env after user config' lighter n = .ok lighter' ∧
        Lighter totals' lighter' :=
    fun _ _ _ _ related turn => addReserve_lighter lightened related turn
  exact foldlM_simulates Lighter turns start computed

end GenericLogic

end PalmyProtocol
