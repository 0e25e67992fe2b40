import PalmyProtocol.Pool.ReserveDebts
import PalmyProtocol.System.Registry

set_option autoImplicit false

namespace PalmyProtocol

open Checked Rounding

namespace LendingPool

variable {env : Env} {pool middle after : LendingPool} {msgSender asset user onBehalfOf : Address}
variable {amount : Nat}

def DebtFlagged (pool : LendingPool) : Prop :=
  ∀ user asset, (pool.reserves asset).lTokenAddress ≠ 0 → (pool.reserves asset).Owes user →
    (pool.usersConfig user).borrows (pool.reserves asset).id = true

structure DebtorsKept (pool after : LendingPool) : Prop where
  flags : ∀ user i, (after.usersConfig user).borrows i = (pool.usersConfig user).borrows i
  owes : ∀ user asset, (after.reserves asset).Owes user → (pool.reserves asset).Owes user

theorem DebtorsKept.refl (pool : LendingPool) : DebtorsKept pool pool :=
  ⟨fun _ _ => rfl, fun _ _ owing => owing⟩

theorem DebtorsKept.trans (first : DebtorsKept pool middle) (second : DebtorsKept middle after) :
    DebtorsKept pool after :=
  ⟨fun user i => (second.flags user i).trans (first.flags user i),
    fun user asset owing => first.owes user asset (second.owes user asset owing)⟩

theorem DebtorsKept.flagged (kept : DebtorsKept pool after) (flagged : DebtFlagged pool)
    (evolves : Evolves env pool after) : DebtFlagged after := by
  intro user asset listed owing
  have keeps := evolves.keeps asset
  rw [keeps.lTokenAddress] at listed
  rw [keeps.id, kept.flags]
  exact flagged user asset listed (kept.owes user asset owing)

theorem kept_setReserve {reserve : Reserve}
    (owes : ∀ user, reserve.Owes user → (pool.reserves asset).Owes user) :
    DebtorsKept pool (pool.setReserve asset reserve) := by
  refine ⟨fun _ _ => rfl, fun user other owing => ?_⟩
  by_cases same : other = asset
  · subst same
    rw [setReserve_same] at owing
    exact owes user owing
  · rwa [setReserve_other same] at owing

theorem kept_sameDebts {reserve : Reserve}
    (same : Reserve.SameDebts (pool.reserves asset) reserve) :
    DebtorsKept pool (pool.setReserve asset reserve) :=
  kept_setReserve fun user => (same.owes user).1

theorem DebtFlagged.setReserve {reserve : Reserve} (flagged : DebtFlagged pool)
    (owes : ∀ user, reserve.Owes user → (pool.reserves asset).Owes user)
    (keeps : Reserve.Keeps (pool.reserves asset) reserve) :
    DebtFlagged (pool.setReserve asset reserve) := by
  intro user other listed owing
  by_cases here : other = asset
  · subst here
    rw [setReserve_same] at listed owing ⊢
    rw [keeps.lTokenAddress] at listed
    rw [keeps.id]
    exact flagged user other listed (owes user owing)
  · rw [setReserve_other here] at listed owing ⊢
    exact flagged user other listed owing

theorem kept_setUserConfig {config : UserConfigurationMap}
    (borrows : ∀ i, config.borrows i = (pool.usersConfig user).borrows i) :
    DebtorsKept pool (pool.setUserConfig user config) := by
  refine ⟨fun other i => ?_, fun _ _ owing => owing⟩
  by_cases same : other = user
  · subst same
    rw [setUserConfig_same, borrows]
  · rw [setUserConfig_other same]

theorem DebtorsKept.flag {config : UserConfigurationMap} (kept : DebtorsKept pool after)
    (borrows : ∀ i, config.borrows i = (after.usersConfig user).borrows i) :
    DebtorsKept pool (after.setUserConfig user config) :=
  kept.trans (kept_setUserConfig borrows)

theorem collateral_borrows {config config' : UserConfigurationMap} {condition : Prop}
    [Decidable condition] {id : Nat} {flag : Bool}
    (computed : (if condition then config.setUsingAsCollateral id flag else .ok config) =
      .ok config') (i : Nat) : config'.borrows i = config.borrows i := by
  split_ifs at computed
  · exact (UserConfigurationMap.setUsingAsCollateral_ok computed).2.1 i
  · cases computed
    rfl

theorem deposit_kept (computed : pool.deposit env msgSender asset amount onBehalfOf = .ok after) :
    DebtorsKept pool after := by
  obtain ⟨accrued, rated, funded, minted, first, config, run⟩ := deposit_ok computed
  have same := (((Reserve.updateState_sameDebts run.accrue).trans
    (Reserve.updateInterestRates_sameDebts run.rate)).trans
    (Reserve.transferUnderlyingFrom_sameDebts run.fund)).trans
    (Reserve.mintLToken_sameDebts run.mint)
  rw [run.result]
  exact (kept_sameDebts same).flag (collateral_borrows run.flag)

theorem withdraw_kept {recipient : Address} {withdrawn : Nat}
    (computed : pool.withdraw env msgSender asset amount recipient = .ok (after, withdrawn)) :
    DebtorsKept pool after := by
  obtain ⟨_, accrued, rated, burned, config, _, run⟩ := withdraw_ok computed
  have same := ((Reserve.updateState_sameDebts run.accrue).trans
    (Reserve.updateInterestRates_sameDebts run.rate)).trans (Reserve.burnLToken_sameDebts run.burn)
  rw [run.result]
  exact (kept_sameDebts same).flag (collateral_borrows run.flag)

theorem setUserUseReserveAsCollateral_kept {useAsCollateral : Bool}
    (computed : pool.setUserUseReserveAsCollateral env msgSender asset useAsCollateral = .ok after) :
    DebtorsKept pool after := by
  obtain ⟨config, _, flag, rfl⟩ := setUserUseReserveAsCollateral_ok computed
  exact kept_setUserConfig (UserConfigurationMap.setUsingAsCollateral_ok flag).2.1

theorem swapBorrowRateMode_kept {rateMode : Nat}
    (computed : pool.swapBorrowRateMode env msgSender asset rateMode = .ok after) :
    DebtorsKept pool after := by
  obtain ⟨mode, stableDebt, variableDebt, accrued, burned, minted, rated, first, _, run⟩ :=
    swapBorrowRateMode_ok computed
  obtain ⟨stable, floating⟩ := Reserve.getUserCurrentDebt_ok run.debts
  obtain ⟨_, rfl⟩ := Reserve.stableDebtBalanceOf_ok stable
  obtain ⟨_, rfl⟩ := Reserve.variableDebtBalanceOf_ok floating
  have accrue := Reserve.updateState_sameDebts run.accrue
  have rate := Reserve.updateInterestRates_sameDebts run.rate
  have valid := run.valid
  have burn := run.burn
  have mint := run.mint
  simp only [ValidationLogic.validateSwapRateMode, bind_eq_ok, require_eq_ok] at valid
  obtain ⟨_, _, _, _, valid⟩ := valid
  rw [run.result]
  apply kept_setReserve
  intro user owing
  rw [rate.owes] at owing
  rw [← accrue.owes]
  cases mode with
  | NONE => simp at valid
  | STABLE =>
      simp only [if_true] at burn mint
      rcases Reserve.mintVariableDebt_owes mint user owing with rfl | owing
      · simp only [require_eq_ok] at valid
        rw [accrue.owes]
        exact Reserve.owes_of_stableDebt _ (Nat.pos_iff_ne_zero.1 valid)
      · exact Reserve.burnStableDebt_owes burn user owing
  | VARIABLE =>
      simp only [reduceCtorEq, if_false] at burn mint
      rcases Reserve.mintStableDebt_owes mint user owing with rfl | owing
      · simp only [bind_eq_ok, require_eq_ok] at valid
        obtain ⟨_, some, _⟩ := valid
        rw [accrue.owes]
        exact Reserve.owes_of_variableDebt (Nat.pos_iff_ne_zero.1 some)
      · exact Reserve.burnVariableDebt_owes burn user owing

-- Rebalancing a user without stable debt reverts: the new rate would be a division by zero.
theorem rebalanceStableBorrowRate_kept
    (computed : pool.rebalanceStableBorrowRate env asset user = .ok after) :
    DebtorsKept pool after := by
  obtain ⟨stableDebt, accrued, burned, minted, rated, first, run⟩ :=
    rebalanceStableBorrowRate_ok computed
  obtain ⟨_, rfl⟩ := Reserve.stableDebtBalanceOf_ok run.debt
  have accrue := Reserve.updateState_sameDebts run.accrue
  have rate := Reserve.updateInterestRates_sameDebts run.rate
  rw [run.result]
  apply kept_setReserve
  intro other owing
  rw [rate.owes] at owing
  rw [← accrue.owes]
  rcases Reserve.mintStableDebt_owes run.mint other owing with rfl | owing
  · rw [accrue.owes]
    apply Reserve.owes_of_stableDebt env.timestamp
    intro none
    obtain ⟨token, burnt, shape⟩ := Reserve.burnStableDebt_ok run.burn
    obtain ⟨_, issued, _⟩ := Reserve.mintStableDebt_ok run.mint
    have joint := (StableDebtToken.weightedRate_ok issued.userRate).1
    have gone : burned.stableDebtToken.debt env.timestamp other = 0 := by
      apply StableDebtToken.debt_of_no_principal
      rw [shape]
      have balance := burnt.balances other
      rw [if_pos rfl, accrue.stable, none] at balance
      exact balance
    rw [gone, none] at joint
    exact joint rfl
  · exact Reserve.burnStableDebt_owes run.burn other owing

theorem burnDebt_owes {reserve burned : Reserve} {actual userVariableDebt : Nat}
    (computed : LendingPoolCollateralManager.burnDebt env reserve user actual userVariableDebt =
      .ok burned) (other : Address) (owing : burned.Owes other) : reserve.Owes other := by
  rcases LendingPoolCollateralManager.burnDebt_ok computed with
    ⟨_, burn⟩ | ⟨_, floating, first, second⟩
  · exact Reserve.burnVariableDebt_owes burn other owing
  · have before := Reserve.burnStableDebt_owes second other owing
    split_ifs at first
    · exact Reserve.burnVariableDebt_owes first other before
    · cases first
      exact before

theorem liquidationCall_kept {collateralAsset debtAsset : Address} {debtToCover : Nat}
    {receiveLToken : Bool}
    (computed : pool.liquidationCall env msgSender collateralAsset debtAsset user debtToCover
      receiveLToken = .ok after) : DebtorsKept pool after := by
  obtain ⟨_, _, _, _, _, _, _, run⟩ := liquidationCall_ok computed
  obtain ⟨repaid, seized, config, funded, exec⟩ :=
    LendingPoolCollateralManager.executeLiquidation_ok run.execute
  have paid : DebtorsKept pool repaid := by
    obtain ⟨accrued, burned, rated, leg⟩ := LendingPoolCollateralManager.repayDebt_ok exec.repay
    rw [leg.result]
    apply kept_setReserve
    intro other owing
    rw [(Reserve.updateInterestRates_sameDebts leg.rate).owes] at owing
    rw [← (Reserve.updateState_sameDebts leg.accrue).owes]
    exact burnDebt_owes leg.burn other owing
  have taken : DebtorsKept repaid seized := by
    have seize := exec.seize
    split_ifs at seize
    · obtain ⟨_, _, _, lToken, _, leg⟩ := LendingPoolCollateralManager.seizeLTokens_ok seize
      have same : Reserve.SameDebts (repaid.reserves collateralAsset)
          { repaid.reserves collateralAsset with lToken } := ⟨rfl, rfl⟩
      rw [leg.result]
      exact (kept_sameDebts same).flag (collateral_borrows leg.flag)
    · obtain ⟨accrued, rated, burned, leg⟩ := LendingPoolCollateralManager.seizeUnderlying_ok seize
      rw [leg.result]
      exact kept_sameDebts (((Reserve.updateState_sameDebts leg.accrue).trans
        (Reserve.updateInterestRates_sameDebts leg.rate)).trans
        (Reserve.burnLToken_sameDebts leg.burn))
  have covered : DebtorsKept seized after := by
    rw [exec.result]
    exact (kept_setUserConfig (collateral_borrows exec.flag)).trans
      (kept_sameDebts (Reserve.transferUnderlyingFrom_sameDebts exec.fund))
  exact (paid.trans taken).trans covered

theorem openFlashLoan_kept {receiverAddress : Address}
    {requests : List (Address × Nat × Option Nat)} {entries : List FlashLoanEntry}
    (computed : openFlashLoan receiverAddress pool requests = .ok (after, entries)) :
    DebtorsKept pool after := by
  induction requests generalizing pool entries with
  | nil =>
      cases computed
      exact .refl _
  | cons request rest ih =>
      obtain ⟨asset, amount, mode⟩ := request
      obtain ⟨lent, later, sent, opened, _⟩ := openFlashLoan_cons computed
      exact (kept_sameDebts (Reserve.transferUnderlyingTo_sameDebts sent)).trans (ih opened)

theorem finalized_kept {sender recipient : Address} {fromBefore toBefore : Nat}
    (finalized : Finalized env pool asset sender recipient amount fromBefore toBefore after) :
    DebtorsKept pool after := by
  rcases finalized.result with ⟨_, rfl⟩ | ⟨apart, _, fromConfig, toConfig, sent, received, rfl⟩
  · exact .refl _
  · refine (kept_setUserConfig (collateral_borrows sent)).trans (kept_setUserConfig ?_)
    intro i
    rw [setUserConfig_other (Ne.symm apart)]
    exact collateral_borrows received i

theorem moveLTokens_kept {sender recipient : Address}
    (computed : pool.moveLTokens env asset sender recipient amount = .ok after) :
    DebtorsKept pool after := by
  obtain ⟨lToken, _, _, run⟩ := moveLTokens_ok computed
  have same : Reserve.SameDebts (pool.reserves asset) { pool.reserves asset with lToken } :=
    ⟨rfl, rfl⟩
  exact (kept_sameDebts same).trans (finalized_kept run.finalize)

theorem updateAllowance_kept {change : ERC20 → Result ERC20}
    (computed : pool.updateAllowance asset change = .ok after) : DebtorsKept pool after := by
  obtain ⟨_, _, _, rfl⟩ := updateAllowance_ok computed
  exact kept_sameDebts ⟨rfl, rfl⟩

-- The bit is set on the evidence of one of the two tokens; without it the user owed already.
theorem executeBorrow_flagged {vars : ExecuteBorrowParams} (flagged : DebtFlagged pool)
    (computed : pool.executeBorrow env vars = .ok after) : DebtFlagged after := by
  have evolves := (executeBorrow_operates computed).evolves
  obtain ⟨_, accrued, minted, rated, released, mode, first, config, run⟩ :=
    executeBorrow_ok computed
  have accrue := Reserve.updateState_sameDebts run.accrue
  have rate := Reserve.updateInterestRates_sameDebts run.rate
  have release : Reserve.SameDebts rated released := by
    obtain ⟨_, shape⟩ := run.released_eq
    rw [shape]
    exact ⟨rfl, rfl⟩
  have same : minted.id = (pool.reserves vars.asset).id := by
    rw [(Reserve.mint_debtsOnly run.mint).data]
    exact (Reserve.Keeps.of_operation (.accrue run.accrue)).id
  have debtors : ∀ user, minted.Owes user →
      user = vars.onBehalfOf ∨ (pool.reserves vars.asset).Owes user := by
    intro user owing
    rw [← accrue.owes]
    have mint := run.mint
    split_ifs at mint
    · exact Reserve.mintStableDebt_owes mint user owing
    · exact Reserve.mintVariableDebt_owes mint user owing
  have again : first = false → (pool.reserves vars.asset).Owes vars.onBehalfOf := by
    rintro rfl
    rw [← accrue.owes]
    have mint := run.mint
    split_ifs at mint
    · obtain ⟨_, issued, _⟩ := Reserve.mintStableDebt_ok mint
      exact Reserve.owes_of_stableDebt _ (of_decide_eq_false issued.first.symm)
    · obtain ⟨_, issued, _⟩ := Reserve.mintVariableDebt_ok mint
      exact .inr (of_decide_eq_false issued.first.symm)
  have flags : ∀ i, (pool.usersConfig vars.onBehalfOf).borrows i = true →
      config.borrows i = true := by
    intro i set
    have flag := run.flag
    split_ifs at flag
    · rw [(UserConfigurationMap.setBorrowing_ok flag).2.1 i]
      simp [set]
    · cases flag
      exact set
  have opened : first = true → config.borrows (pool.reserves vars.asset).id = true := by
    rintro rfl
    have flag := run.flag
    rw [if_pos rfl] at flag
    rw [(UserConfigurationMap.setBorrowing_ok flag).2.1, same, if_pos rfl]
  intro user asset listed owing
  have keeps := evolves.keeps asset
  rw [keeps.lTokenAddress] at listed
  rw [keeps.id]
  rw [run.result] at owing ⊢
  rw [setUserConfig_reserves] at owing
  by_cases sameAsset : asset = vars.asset
  · subst sameAsset
    rw [setReserve_same, release.owes, rate.owes] at owing
    by_cases sameUser : user = vars.onBehalfOf
    · subst sameUser
      rw [setUserConfig_same]
      cases first with
      | true => exact opened rfl
      | false => exact flags _ (flagged _ _ listed (again rfl))
    · rw [setUserConfig_other sameUser]
      rcases debtors user owing with same | owed
      · exact absurd same sameUser
      · exact flagged _ _ listed owed
  · rw [setReserve_other sameAsset] at owing
    by_cases sameUser : user = vars.onBehalfOf
    · subst sameUser
      rw [setUserConfig_same]
      exact flags _ (flagged _ _ listed owing)
    · rw [setUserConfig_other sameUser]
      exact flagged _ _ listed owing

-- The bit is cleared on balances read before the accrual, yet only when no debt is left.
theorem repay_clears {mode : InterestRateMode} {stableDebt variableDebt payback : Nat}
    {accrued burned rated funded : Reserve} {config : UserConfigurationMap}
    (sound : (pool.reserves asset).Sound) (listed : (pool.reserves asset).lTokenAddress ≠ 0)
    (run : Repaid env pool msgSender asset amount mode onBehalfOf stableDebt variableDebt payback
      accrued burned rated funded config after)
    (cleared : stableDebt + variableDebt - payback = 0) : ¬burned.Owes onBehalfOf := by
  obtain ⟨stable, floating⟩ := Reserve.getUserCurrentDebt_ok run.debts
  obtain ⟨_, stableView⟩ := Reserve.stableDebtBalanceOf_ok stable
  obtain ⟨_, variableView⟩ := Reserve.variableDebtBalanceOf_ok floating
  have accrue := Reserve.updateState_sameDebts run.accrue
  obtain ⟨_, _, index, state⟩ := Reserve.updateState_ok run.accrue
  have grown : RAY ≤ index := by
    rw [state.floating]
    exact le_trans (sound.variableBorrowIndex listed)
      (ReserveData.le_accruedVariableBorrowIndex _ _)
  have order : index ≤ (pool.reserves asset).normalizedDebt env.timestamp := by
    rw [state.floating]
    exact ReserveData.accruedVariableBorrowIndex_le env.timestamp_lt _
  have stored : accrued.variableBorrowIndex = index := by rw [state.result]
  have bounded := run.bounded
  have burn := run.burn
  have covered := run.covered
  by_cases chosen : mode = .STABLE
  · rw [if_pos chosen] at bounded burn
    have full : payback = stableDebt := by omega
    have none : variableDebt = 0 := by omega
    have principal : burned.stableDebtToken.principalBalanceOf onBehalfOf = 0 := by
      rw [full, stableView, ← accrue.stable] at burn
      exact Reserve.burnStableDebt_full burn
    have scaled : burned.variableDebtToken.scaledBalanceOf onBehalfOf = 0 := by
      obtain ⟨_, _, shape⟩ := Reserve.burnStableDebt_ok burn
      rw [shape]
      have below : (pool.reserves asset).variableDebtToken.base.balances onBehalfOf ≤ _ :=
        le_rayMul (le_trans grown order)
      rw [← variableView, none] at below
      have gone : accrued.variableDebtToken.base.balances onBehalfOf = 0 := by
        rw [accrue.floating]
        omega
      exact gone
    exact fun owing => owing.elim (fun some => some principal) (fun some => some scaled)
  · rw [if_neg chosen] at bounded burn
    have full : payback = variableDebt := by omega
    have none : stableDebt = 0 := by omega
    have scaled : burned.variableDebtToken.scaledBalanceOf onBehalfOf = 0 := by
      rw [full, variableView, ← accrue.floating] at burn
      exact Reserve.burnVariableDebt_full (by rwa [stored]) (by rwa [stored]) burn
    have principal : burned.stableDebtToken.principalBalanceOf onBehalfOf = 0 := by
      obtain ⟨_, _, shape⟩ := Reserve.burnVariableDebt_ok burn
      rw [shape]
      have below := (pool.reserves asset).stableDebtToken.balances_le_debt env.timestamp onBehalfOf
      rw [← stableView, none] at below
      have gone : accrued.stableDebtToken.base.balances onBehalfOf = 0 := by
        rw [accrue.stable]
        omega
      exact gone
    exact fun owing => owing.elim (fun some => some principal) (fun some => some scaled)

theorem repay_flagged {rateMode payback : Nat} (registered : Registered pool)
    (flagged : DebtFlagged pool)
    (computed : pool.repay env msgSender asset amount rateMode onBehalfOf = .ok (after, payback)) :
    DebtFlagged after := by
  have evolves := (repay_operates computed).evolves
  obtain ⟨mode, stableDebt, variableDebt, accrued, burned, rated, funded, config, _, run⟩ :=
    repay_ok computed
  have accrue := Reserve.updateState_sameDebts run.accrue
  have rate := Reserve.updateInterestRates_sameDebts run.rate
  have fund := Reserve.transferUnderlyingFrom_sameDebts run.fund
  have same : rated.id = (pool.reserves asset).id := by
    obtain ⟨_, _, _, _, rating⟩ := Reserve.updateInterestRates_ok run.rate
    rw [rating.result, (Reserve.burn_debtsOnly run.burn).data]
    exact (Reserve.Keeps.of_operation (.accrue run.accrue)).id
  have debtors : ∀ user, burned.Owes user → (pool.reserves asset).Owes user := by
    intro user owing
    rw [← accrue.owes]
    have burn := run.burn
    split_ifs at burn
    · exact Reserve.burnStableDebt_owes burn user owing
    · exact Reserve.burnVariableDebt_owes burn user owing
  have others : ∀ i, i ≠ (pool.reserves asset).id →
      config.borrows i = (pool.usersConfig onBehalfOf).borrows i := by
    intro i different
    have flag := run.flag
    split_ifs at flag
    · rw [(UserConfigurationMap.setBorrowing_ok flag).2.1 i, same, if_neg different]
    · cases flag
      rfl
  intro user other listed owing
  have keeps := evolves.keeps other
  rw [keeps.lTokenAddress] at listed
  rw [keeps.id]
  rw [run.result] at owing ⊢
  rw [setUserConfig_reserves] at owing
  by_cases sameAsset : other = asset
  · subst sameAsset
    rw [setReserve_same, fund.owes, rate.owes] at owing
    have owed := flagged user other listed (debtors user owing)
    by_cases sameUser : user = onBehalfOf
    · subst sameUser
      rw [setUserConfig_same]
      have flag := run.flag
      split_ifs at flag with cleared
      · exact absurd owing (repay_clears (registered.sound other) listed run cleared)
      · cases flag
        exact owed
    · rwa [setUserConfig_other sameUser]
  · rw [setReserve_other sameAsset] at owing
    have owed := flagged user other listed owing
    by_cases sameUser : user = onBehalfOf
    · subst sameUser
      rw [setUserConfig_same]
      rw [others, owed]
      intro same
      exact sameAsset (registered.id_injective listed
        (registered.updateState_listed run.accrue) same)
    · rwa [setUserConfig_other sameUser]

end LendingPool

end PalmyProtocol
