import PalmyProtocol.System.AccountMoves
import PalmyProtocol.System.BorrowingFlags
import PalmyProtocol.System.OwnOperations

set_option autoImplicit false

namespace PalmyProtocol

open Checked Rounding LendingPool

-- What every account holds and owes after an operation, beside the two flags that should follow.
namespace LendingPool

variable {env : Env} {pool middle after : LendingPool} {msgSender asset user a u : Address}
variable {amount : Nat}

def held (pool : LendingPool) (asset user : Address) : Nat :=
  (pool.reserves asset).lToken.scaledBalanceOf user

def uses (pool : LendingPool) (asset user : Address) : Bool :=
  (pool.usersConfig user).collateralises (pool.reserves asset).id

def borrows (pool : LendingPool) (asset user : Address) : Bool :=
  (pool.usersConfig user).borrows (pool.reserves asset).id

theorem held_setReserve (reserve : Reserve) :
    (pool.setReserve asset reserve).held a u =
      if a = asset then reserve.lToken.base.balances u else pool.held a u := by
  by_cases same : a = asset
  · subst same
    rw [held, setReserve_same, if_pos rfl, LToken.scaledBalanceOf]
  · rw [held, setReserve_other same, if_neg same, held]

theorem uses_written {config : UserConfigurationMap} {condition : Prop} [Decidable condition]
    {on : Bool} (registered : Registered pool) (listed : (pool.reserves a).lTokenAddress ≠ 0)
    (here : (pool.reserves asset).lTokenAddress ≠ 0) {writer : Address}
    (flag : (if condition then
        (pool.usersConfig writer).setUsingAsCollateral (pool.reserves asset).id on
      else .ok (pool.usersConfig writer)) = .ok config) :
    ((pool.setUserConfig writer config).usersConfig u).collateralises (pool.reserves a).id =
      if (condition ∧ a = asset) ∧ u = writer then on else pool.uses a u := by
  by_cases same : u = writer
  · subst same
    rw [setUserConfig_same]
    by_cases written : condition
    · rw [if_pos written] at flag
      obtain ⟨_, _, collateralises⟩ := UserConfigurationMap.setUsingAsCollateral_ok flag
      rw [collateralises]
      by_cases place : a = asset
      · rw [place, if_pos rfl, if_pos ⟨⟨written, rfl⟩, rfl⟩]
      · have apart : (pool.reserves a).id ≠ (pool.reserves asset).id :=
          fun equal => place (registered.id_injective listed here equal)
        rw [if_neg apart, if_neg fun all => place all.1.2, uses]
    · rw [if_neg written] at flag
      cases flag
      rw [if_neg fun all => written all.1.1, uses]
  · rw [setUserConfig_other same, if_neg fun all => same all.2, uses]

theorem uses_of_config (middle : LendingPool) (operates : Operates env pool after)
    (config : after.usersConfig u = middle.usersConfig u) :
    after.uses a u = (middle.usersConfig u).collateralises (pool.reserves a).id := by
  rw [uses, config, (operates.evolves.keeps a).id]

theorem borrows_of_config (operates : Operates env pool after)
    (config : ∀ i, (after.usersConfig u).borrows i = (pool.usersConfig u).borrows i) :
    after.borrows a u = pool.borrows a u := by
  rw [borrows, config, (operates.evolves.keeps a).id, borrows]

theorem setUserConfig_collateralises {config : UserConfigurationMap} {i : Nat}
    (kept : config.collateralises i = (pool.usersConfig user).collateralises i) :
    ((pool.setUserConfig user config).usersConfig u).collateralises i =
      (pool.usersConfig u).collateralises i := by
  by_cases writer : u = user
  · subst writer
    rw [setUserConfig_same, kept]
  · rw [setUserConfig_other writer]

theorem setUserConfig_borrows {config : UserConfigurationMap} {i : Nat}
    (kept : config.borrows i = (pool.usersConfig user).borrows i) :
    ((pool.setUserConfig user config).usersConfig u).borrows i = (pool.usersConfig u).borrows i := by
  by_cases writer : u = user
  · subst writer
    rw [setUserConfig_same, kept]
  · rw [setUserConfig_other writer]

theorem le_held_accrued {accrued : Reserve}
    (computed : (pool.reserves asset).updateState env.timestamp = .ok accrued) :
    pool.held a u ≤ (pool.setReserve asset accrued).held a u := by
  rw [held_setReserve]
  split_ifs with same
  · subst same
    obtain ⟨_, _, balances, _⟩ := Reserve.updateState_quiet computed
    rw [balances, held, LToken.scaledBalanceOf]
    exact Nat.le_add_right _ _
  · exact le_refl _

structure Taken (pool accrued : LendingPool) (asset user : Address) (shares : Nat) (whole : Prop)
    [Decidable whole] (after : LendingPool) : Prop where
  listed : (pool.reserves asset).lTokenAddress ≠ 0
  grown : ∀ a u, pool.held a u ≤ accrued.held a u
  held : ∀ a u, after.held a u + (if a = asset ∧ u = user then shares else 0) = accrued.held a u
  uses : ∀ a u, (pool.reserves a).lTokenAddress ≠ 0 →
    after.uses a u = if (whole ∧ a = asset) ∧ u = user then false else pool.uses a u
  owes : ∀ a u, (after.reserves a).Owes u ↔ (pool.reserves a).Owes u
  borrows : ∀ a u, after.borrows a u = pool.borrows a u

def sharesOf (env : Env) (pool : LendingPool) (asset : Address) (amount : Nat) : Nat :=
  divHalfUp (amount * RAY) ((pool.reserves asset).normalizedIncome env.timestamp)

theorem withdraw_taken {recipient : Address} {withdrawn : Nat} (registered : Registered pool)
    (computed : pool.withdraw env user asset amount recipient = .ok (after, withdrawn)) :
    ∃ balance accrued, (pool.reserves asset).lTokenBalanceOf env.timestamp user = .ok balance ∧
      withdrawn = (if amount = maxUint256 then balance else amount) ∧
      (pool.reserves asset).updateState env.timestamp = .ok accrued ∧
      Taken pool (pool.setReserve asset accrued) asset user (sharesOf env pool asset withdrawn)
        (withdrawn = balance) after := by
  have operates := withdraw_operates computed
  obtain ⟨balance, accrued, rated, burned, config, sum, run⟩ := withdraw_ok computed
  obtain ⟨_, _, _, _, rate⟩ := Reserve.updateInterestRates_ok run.rate
  obtain ⟨lToken, _, burn, _, shape⟩ := Reserve.burnLToken_ok run.burn
  obtain ⟨listed, _⟩ := Reserve.lTokenBalanceOf_ok run.balance
  have income := (Reserve.income_of_rated run.accrue run.rate).2
  have same : rated.lToken = accrued.lToken := by rw [rate.result]
  have id : rated.id = (pool.reserves asset).id := by
    rw [rate.result]
    exact (Reserve.Keeps.of_operation (.accrue run.accrue)).id
  have debts := ((Reserve.updateState_sameDebts run.accrue).trans
    (Reserve.updateInterestRates_sameDebts run.rate)).trans
    (Reserve.burnLToken_sameDebts run.burn)
  refine ⟨balance, accrued, run.balance, sum, run.accrue, listed, fun _ _ =>
    le_held_accrued run.accrue, fun a u => ?_, fun a u here => ?_, fun a u => ?_, fun a u => ?_⟩
  · rw [run.result, held, setUserConfig_reserves, ← held, held_setReserve, held_setReserve]
    by_cases place : a = asset
    · have balances := burn.balances u
      rw [income, same] at balances
      simp only [place, if_true, true_and, shape, sharesOf]
      exact balances
    · simp only [place, if_false, false_and, Nat.add_zero]
  · have flag := run.flag
    rw [id] at flag
    rw [uses_of_config (pool.setUserConfig user config) operates (by rw [run.result]; rfl)]
    exact uses_written registered here listed flag
  · rw [run.result, setUserConfig_reserves]
    by_cases place : a = asset
    · subst place
      rw [setReserve_same, debts.owes]
    · rw [setReserve_other place]
  · refine borrows_of_config operates fun i => ?_
    rw [run.result]
    exact setUserConfig_borrows (collateral_borrows run.flag i)

structure Sent (pool : LendingPool) (asset sender recipient : Address) (shares : Nat)
    (whole first : Prop) [Decidable whole] [Decidable first] (after : LendingPool) : Prop where
  listed : (pool.reserves asset).lTokenAddress ≠ 0
  held : ∀ a u, after.held a u + (if a = asset ∧ u = sender then shares else 0) =
    pool.held a u + (if a = asset ∧ u = recipient then shares else 0)
  uses : ∀ a u, (pool.reserves a).lTokenAddress ≠ 0 → after.uses a u =
    if (first ∧ a = asset) ∧ u = recipient then true
    else if (whole ∧ a = asset) ∧ u = sender then false else pool.uses a u
  owes : ∀ a u, (after.reserves a).Owes u ↔ (pool.reserves a).Owes u
  borrows : ∀ a u, after.borrows a u = pool.borrows a u

theorem balance_eq_zero_iff (env : Env) (user : Address) (registered : Registered pool)
    (listed : (pool.reserves asset).lTokenAddress ≠ 0) :
    (pool.reserves asset).lTokenBalance env.timestamp user = 0 ↔ pool.held asset user = 0 := by
  have grown := le_trans ((registered.sound asset).liquidityIndex listed)
    ((pool.reserves asset).le_normalizedIncome env.timestamp)
  have below : (pool.reserves asset).lToken.base.balances user ≤ _ := le_rayMul grown
  rw [Reserve.lTokenBalance, held, LToken.scaledBalanceOf]
  constructor
  · intro none
    omega
  · intro none
    rw [none, Nat.zero_mul, divHalfUp_zero]

theorem moveLTokens_sent {sender recipient : Address} (registered : Registered pool)
    (different : sender ≠ recipient)
    (computed : pool.moveLTokens env asset sender recipient amount = .ok after) :
    Sent pool asset sender recipient (sharesOf env pool asset amount)
      (amount = (pool.reserves asset).lTokenBalance env.timestamp sender)
      (pool.held asset recipient = 0 ∧ amount ≠ 0) after := by
  have operates := moveLTokens_operates computed
  obtain ⟨lToken, fromBefore, toBefore, run⟩ := moveLTokens_ok computed
  obtain ⟨index, viewed, moved⟩ := LToken.transfer_ok run.transfer
  obtain ⟨rfl, _⟩ := ReserveData.getNormalizedIncome_ok viewed
  rcases run.finalize.result with ⟨same, _⟩ | ⟨_, enough, fromConfig, toConfig, sent, received, result⟩
  · exact absurd same different
  have whole : fromBefore - amount = 0 ↔
      amount = (pool.reserves asset).lTokenBalance env.timestamp sender := by
    rw [Reserve.lTokenBalance, ← moved.fromBefore]
    omega
  have first : toBefore = 0 ↔ pool.held asset recipient = 0 := by
    rw [← balance_eq_zero_iff env recipient registered run.listed, Reserve.lTokenBalance, ← moved.toBefore]
  simp only [setReserve_same, setReserve_usersConfig] at sent received
  simp only [whole] at sent
  simp only [first] at received
  refine ⟨run.listed, fun a u => ?_, fun a u here => ?_, fun a u => ?_, fun a u => ?_⟩
  · rw [result, held, setUserConfig_reserves, setUserConfig_reserves, ← held, held_setReserve]
    by_cases place : a = asset
    · simp only [place, if_true, true_and, sharesOf, held]
      exact moved.balances u
    · simp only [place, if_false, false_and, Nat.add_zero]
  · rw [uses_of_config ((pool.setUserConfig sender fromConfig).setUserConfig recipient
      toConfig) operates (by rw [result]; rfl)]
    by_cases receives : u = recipient
    · subst receives
      have apart : u ≠ sender := fun same => different same.symm
      rw [setUserConfig_same, if_neg fun all : (_ ∧ a = asset) ∧ u = sender => apart all.2]
      have written := uses_written (u := u) registered here run.listed received
      rwa [setUserConfig_same] at written
    · rw [setUserConfig_other receives, if_neg fun all => receives all.2]
      exact uses_written registered here run.listed sent
  · rw [result, setUserConfig_reserves, setUserConfig_reserves]
    by_cases place : a = asset
    · subst place
      rw [setReserve_same]
      rfl
    · rw [setReserve_other place]
  · refine borrows_of_config operates fun i => ?_
    rw [result, setUserConfig_borrows]
    · exact setUserConfig_borrows (collateral_borrows sent i)
    · rw [setUserConfig_other (Ne.symm different)]
      exact collateral_borrows received i

structure Unmoved (pool after : LendingPool) : Prop where
  held : ∀ a u, after.held a u = pool.held a u
  uses : ∀ a u, after.uses a u = pool.uses a u
  owes : ∀ a u, (after.reserves a).Owes u ↔ (pool.reserves a).Owes u
  borrows : ∀ a u, after.borrows a u = pool.borrows a u

theorem Unmoved.refl (pool : LendingPool) : Unmoved pool pool :=
  ⟨fun _ _ => rfl, fun _ _ => rfl, fun _ _ => .rfl, fun _ _ => rfl⟩

theorem unmoved_setReserve {reserve : Reserve}
    (balances : reserve.lToken.base.balances = (pool.reserves asset).lToken.base.balances)
    (id : reserve.id = (pool.reserves asset).id)
    (debts : Reserve.SameDebts (pool.reserves asset) reserve) :
    Unmoved pool (pool.setReserve asset reserve) := by
  have place : ∀ a, ((pool.setReserve asset reserve).reserves a).id = (pool.reserves a).id := by
    intro a
    by_cases same : a = asset
    · subst same
      rw [setReserve_same, id]
    · rw [setReserve_other same]
  refine ⟨fun a u => ?_, fun a u => ?_, fun a u => ?_, fun a u => ?_⟩
  · rw [held_setReserve]
    split_ifs with same
    · rw [same, balances, held, LToken.scaledBalanceOf]
    · rfl
  · rw [uses, uses, place, setReserve_usersConfig]
  · by_cases same : a = asset
    · subst same
      rw [setReserve_same, debts.owes]
    · rw [setReserve_other same]
  · rw [borrows, borrows, place, setReserve_usersConfig]

theorem updateAllowance_unmoved {change : ERC20 → Result ERC20}
    (holdings : ∀ base base', change base = .ok base' → ERC20.SameHoldings base base')
    (computed : pool.updateAllowance asset change = .ok after) : Unmoved pool after := by
  obtain ⟨_, base, changed, rfl⟩ := updateAllowance_ok computed
  exact unmoved_setReserve (holdings _ _ changed).balances rfl ⟨rfl, rfl⟩

theorem moveLTokens_self (computed : pool.moveLTokens env asset user user amount = .ok after) :
    Unmoved pool after := by
  obtain ⟨lToken, fromBefore, toBefore, run⟩ := moveLTokens_ok computed
  obtain ⟨index, _, moved⟩ := LToken.transfer_ok run.transfer
  rcases run.finalize.result with ⟨_, result⟩ | ⟨different, _⟩
  · rw [result]
    refine unmoved_setReserve (funext fun a => ?_) rfl ⟨rfl, rfl⟩
    exact Nat.add_right_cancel (moved.balances a)
  · exact absurd rfl different

theorem borrows_written {config : UserConfigurationMap} {condition : Prop} [Decidable condition]
    {on : Bool} (registered : Registered pool) (listed : (pool.reserves a).lTokenAddress ≠ 0)
    (here : (pool.reserves asset).lTokenAddress ≠ 0) {writer : Address}
    (flag : (if condition then (pool.usersConfig writer).setBorrowing (pool.reserves asset).id on
      else .ok (pool.usersConfig writer)) = .ok config) :
    ((pool.setUserConfig writer config).usersConfig u).borrows (pool.reserves a).id =
      if (condition ∧ a = asset) ∧ u = writer then on else pool.borrows a u := by
  by_cases same : u = writer
  · subst same
    rw [setUserConfig_same]
    by_cases written : condition
    · rw [if_pos written] at flag
      obtain ⟨_, borrowed, _⟩ := UserConfigurationMap.setBorrowing_ok flag
      rw [borrowed]
      by_cases place : a = asset
      · rw [place, if_pos rfl, if_pos ⟨⟨written, rfl⟩, rfl⟩]
      · have apart : (pool.reserves a).id ≠ (pool.reserves asset).id :=
          fun equal => place (registered.id_injective listed here equal)
        rw [if_neg apart, if_neg fun all => place all.1.2, borrows]
    · rw [if_neg written] at flag
      cases flag
      rw [if_neg fun all => written all.1.1, borrows]
  · rw [setUserConfig_other same, if_neg fun all => same all.2, borrows]

theorem borrowing_uses {config config' : UserConfigurationMap} {condition : Prop}
    [Decidable condition] {id : Nat} {flag : Bool}
    (computed : (if condition then config.setBorrowing id flag else .ok config) = .ok config')
    (i : Nat) : config'.collateralises i = config.collateralises i := by
  split_ifs at computed
  · exact (UserConfigurationMap.setBorrowing_ok computed).2.2 i
  · cases computed
    rfl

def debtSharesOf (env : Env) (pool : LendingPool) (asset : Address) (amount : Nat) : Nat :=
  divHalfUp (amount * RAY) ((pool.reserves asset).accruedVariableBorrowIndex env.timestamp
    (pool.reserves asset).variableDebtToken.base.totalSupply)

end LendingPool

namespace Reserve

variable {reserve after : Reserve} {now amount : Nat} {user : Address}

theorem burnStableDebt_left (computed : reserve.burnStableDebt now user amount = .ok after)
    (u : Address) : after.Owes u ↔ if u = user then
      amount ≠ reserve.stableDebtToken.debt now user ∨
        reserve.variableDebtToken.scaledBalanceOf user ≠ 0
    else reserve.Owes u := by
  obtain ⟨token, burned, rfl⟩ := burnStableDebt_ok computed
  rw [Owes, StableDebtToken.principalBalanceOf, burned.balances]
  split_ifs with same
  · have enough := burned.enough
    rw [same]
    have left : reserve.stableDebtToken.debt now user - amount ≠ 0 ↔
        amount ≠ reserve.stableDebtToken.debt now user := by omega
    rw [left]
  · rfl

theorem burnVariableDebt_left (computed : reserve.burnVariableDebt user amount = .ok after)
    (u : Address) : after.Owes u ↔ if u = user then
      reserve.stableDebtToken.principalBalanceOf user ≠ 0 ∨
        divHalfUp (amount * RAY) reserve.variableBorrowIndex ≠
          reserve.variableDebtToken.scaledBalanceOf user
    else reserve.Owes u := by
  obtain ⟨token, burned, rfl⟩ := burnVariableDebt_ok computed
  have balances := burned.balances u
  rw [Owes, Owes, VariableDebtToken.scaledBalanceOf, VariableDebtToken.scaledBalanceOf,
    VariableDebtToken.scaledBalanceOf]
  split_ifs at balances ⊢ with same
  · subst same
    have left : token.base.balances u ≠ 0 ↔ divHalfUp (amount * RAY) reserve.variableBorrowIndex ≠
        reserve.variableDebtToken.base.balances u := by omega
    rw [left]
  · rw [Nat.add_zero] at balances
    rw [balances]

theorem debt_eq_zero_iff (reserve : Reserve) (now : Nat) (user : Address) :
    reserve.stableDebtToken.debt now user = 0 ↔
      reserve.stableDebtToken.principalBalanceOf user = 0 := by
  have below := reserve.stableDebtToken.balances_le_debt now user
  rw [StableDebtToken.principalBalanceOf]
  constructor
  · intro none
    omega
  · exact StableDebtToken.debt_of_no_principal

end Reserve

namespace LendingPool

variable {env : Env} {pool after : LendingPool} {msgSender asset user onBehalfOf : Address}
variable {amount : Nat}

structure Repays (pool accrued : LendingPool) (asset user : Address) (whole gone : Prop)
    [Decidable whole] (after : LendingPool) : Prop where
  listed : (pool.reserves asset).lTokenAddress ≠ 0
  grown : ∀ a u, pool.held a u ≤ accrued.held a u
  held : ∀ a u, after.held a u = accrued.held a u
  uses : ∀ a u, after.uses a u = pool.uses a u
  owes : ∀ a u, ¬(a = asset ∧ u = user) → ((after.reserves a).Owes u ↔ (pool.reserves a).Owes u)
  left : ¬(after.reserves asset).Owes user ↔ gone
  borrows : ∀ a u, (pool.reserves a).lTokenAddress ≠ 0 →
    after.borrows a u = if (whole ∧ a = asset) ∧ u = user then false else pool.borrows a u

def PaysOff (env : Env) (pool : LendingPool) (asset user : Address) (stable : Prop)
    (payback : Nat) : Prop :=
  (stable ∧ payback = (pool.reserves asset).stableDebtToken.debt env.timestamp user ∧
    (pool.reserves asset).variableDebtToken.scaledBalanceOf user = 0) ∨
  (¬stable ∧ (pool.reserves asset).stableDebtToken.principalBalanceOf user = 0 ∧
    debtSharesOf env pool asset payback =
      (pool.reserves asset).variableDebtToken.scaledBalanceOf user)

theorem repay_repays {rateMode payback : Nat} (registered : Registered pool)
    (computed : pool.repay env msgSender asset amount rateMode onBehalfOf = .ok (after, payback)) :
    ∃ mode accrued, toInterestRateMode rateMode = .ok mode ∧
      (pool.reserves asset).updateState env.timestamp = .ok accrued ∧
      payback = min amount (if mode = .STABLE then
        (pool.reserves asset).stableDebtToken.debt env.timestamp onBehalfOf
        else (pool.reserves asset).variableDebt env.timestamp onBehalfOf) ∧
      Repays pool (pool.setReserve asset accrued) asset onBehalfOf
        ((pool.reserves asset).debt env.timestamp onBehalfOf ≤ payback)
        (PaysOff env pool asset onBehalfOf (mode = .STABLE) payback) after := by
  have operates := repay_operates computed
  obtain ⟨mode, stableDebt, variableDebt, accrued, burned, rated, funded, config, chosen, run⟩ :=
    repay_ok computed
  obtain ⟨stable, floating⟩ := Reserve.getUserCurrentDebt_ok run.debts
  obtain ⟨_, stableView⟩ := Reserve.stableDebtBalanceOf_ok stable
  obtain ⟨_, variableView⟩ := Reserve.variableDebtBalanceOf_ok floating
  have both := Reserve.debt_of_views run.debts
  have listed := registered.updateState_listed run.accrue
  have accrue := Reserve.updateState_sameDebts run.accrue
  have stored := Reserve.updateState_variableBorrowIndex run.accrue
  have last := (Reserve.updateInterestRates_sameDebts run.rate).trans
    (Reserve.transferUnderlyingFrom_sameDebts run.fund)
  obtain ⟨_, _, _, _, rate⟩ := Reserve.updateInterestRates_ok run.rate
  obtain ⟨_, _, fund⟩ := Reserve.transferUnderlyingFrom_ok run.fund
  have burn := run.burn
  have kept := Reserve.burn_debtsOnly burn
  have id : rated.id = (pool.reserves asset).id := by
    rw [rate.result, kept.data]
    exact (Reserve.Keeps.of_operation (.accrue run.accrue)).id
  have whole : stableDebt + variableDebt - payback = 0 ↔
      (pool.reserves asset).debt env.timestamp onBehalfOf ≤ payback := by
    rw [both]
    omega
  have owed : ∀ u, (after.reserves asset).Owes u ↔ burned.Owes u := by
    intro u
    rw [run.result, setUserConfig_reserves, setReserve_same, last.owes]
  refine ⟨mode, accrued, chosen, run.accrue, ?_, listed, fun _ _ => le_held_accrued run.accrue,
    fun a u => ?_, fun a u => ?_, fun a u apart => ?_, ?_, fun a u here => ?_⟩
  · rw [Reserve.variableDebt, ← variableView, ← stableView]
    exact run.bounded
  · rw [run.result, held, setUserConfig_reserves, ← held, held_setReserve, held_setReserve]
    by_cases place : a = asset
    · simp only [place, if_true, fund, rate.result, kept.lToken]
    · simp only [place, if_false]
  · rw [uses_of_config (pool.setUserConfig onBehalfOf config) operates
      (by rw [run.result]; rfl)]
    exact setUserConfig_collateralises (borrowing_uses run.flag _)
  · by_cases place : a = asset
    · subst place
      have other : u ≠ onBehalfOf := fun same => apart ⟨rfl, same⟩
      rw [owed, ← accrue.owes]
      split_ifs at burn
      · rw [Reserve.burnStableDebt_left burn, if_neg other]
      · rw [Reserve.burnVariableDebt_left burn, if_neg other]
    · rw [run.result, setUserConfig_reserves, setReserve_other place]
  · rw [owed, PaysOff, debtSharesOf, ← stored, ← accrue.stable, ← accrue.floating]
    split_ifs at burn with stable
    · rw [Reserve.burnStableDebt_left burn, if_pos rfl, not_or, not_not, not_not]
      simp [stable]
    · rw [Reserve.burnVariableDebt_left burn, if_pos rfl, not_or, not_not, not_not]
      simp [stable]
  · have flag := run.flag
    simp only [id, whole] at flag
    rw [borrows, (operates.evolves.keeps a).id, run.result]
    exact borrows_written registered here listed flag

end LendingPool

namespace LendingPoolCollateralManager

variable {env : Env} {pool repaid seized after : LendingPool}
variable {msgSender collateralAsset debtAsset user : Address}
variable {actual userVariableDebt amount : Nat} {receiveLToken : Bool}

def PaysOffBoth (env : Env) (pool : LendingPool) (debtAsset user : Address) (actual : Nat) : Prop :=
  debtSharesOf env pool debtAsset
      (min actual ((pool.reserves debtAsset).variableDebt env.timestamp user)) =
    (pool.reserves debtAsset).variableDebtToken.scaledBalanceOf user ∧
  actual - (pool.reserves debtAsset).variableDebt env.timestamp user =
    (pool.reserves debtAsset).stableDebtToken.debt env.timestamp user

theorem burnDebt_left {reserve burned : Reserve}
    (computed : burnDebt env reserve user actual userVariableDebt = .ok burned) (u : Address) :
    burned.Owes u ↔ if u = user then
      ¬(divHalfUp (min actual userVariableDebt * RAY) reserve.variableBorrowIndex =
          reserve.variableDebtToken.scaledBalanceOf user ∧
        actual - userVariableDebt = reserve.stableDebtToken.debt env.timestamp user)
    else reserve.Owes u := by
  rcases burnDebt_ok computed with ⟨within, burn⟩ | ⟨above, floating, first, second⟩
  · have nothing : actual - userVariableDebt = reserve.stableDebtToken.debt env.timestamp user ↔
        reserve.stableDebtToken.principalBalanceOf user = 0 := by
      rw [← reserve.debt_eq_zero_iff env.timestamp]
      omega
    rw [Reserve.burnVariableDebt_left burn, Nat.min_eq_left within, nothing]
    split_ifs
    · rw [not_and_or, or_comm]
    · rfl
  · rw [Reserve.burnStableDebt_left second, Nat.min_eq_right (Nat.le_of_lt above)]
    by_cases some : 0 < userVariableDebt
    · rw [if_pos some] at first
      obtain ⟨token, burned, rfl⟩ := Reserve.burnVariableDebt_ok first
      have balances := burned.balances user
      rw [if_pos rfl] at balances
      have rest : token.scaledBalanceOf user ≠ 0 ↔
          divHalfUp (userVariableDebt * RAY) reserve.variableBorrowIndex ≠
            reserve.variableDebtToken.scaledBalanceOf user := by
        rw [VariableDebtToken.scaledBalanceOf, VariableDebtToken.scaledBalanceOf]
        omega
      split_ifs with same
      · rw [rest, not_and_or, or_comm]
      · rw [Reserve.burnVariableDebt_left first, if_neg same]
    · rw [if_neg some] at first
      cases first
      have none : userVariableDebt = 0 := by omega
      rw [none, Nat.zero_mul, divHalfUp_zero]
      split_ifs
      · rw [not_and_or, or_comm, eq_comm (a := 0)]
      · rfl

theorem burnDebt_debtsOnly {reserve burned : Reserve}
    (computed : burnDebt env reserve user actual userVariableDebt = .ok burned) :
    Reserve.DebtsOnly reserve burned := by
  rcases burnDebt_ok computed with ⟨_, burn⟩ | ⟨_, floating, first, second⟩
  · exact Reserve.burnVariableDebt_debtsOnly burn
  · refine Reserve.DebtsOnly.trans ?_ (Reserve.burnStableDebt_debtsOnly second)
    split_ifs at first
    · exact Reserve.burnVariableDebt_debtsOnly first
    · cases first
      exact .refl _

structure Struck (env : Env) (pool : LendingPool) (debtAsset user : Address) (actual : Nat)
    (accrued : Reserve) (repaid : LendingPool) : Prop where
  listed : (pool.reserves debtAsset).lTokenAddress ≠ 0
  accrue : (pool.reserves debtAsset).updateState env.timestamp = .ok accrued
  lToken : (repaid.reserves debtAsset).lToken = accrued.lToken
  index : (repaid.reserves debtAsset).liquidityIndex = accrued.liquidityIndex
  stamp : (repaid.reserves debtAsset).lastUpdateTimestamp = accrued.lastUpdateTimestamp
  elsewhere : ∀ a, a ≠ debtAsset → repaid.reserves a = pool.reserves a
  config : repaid.usersConfig = pool.usersConfig
  owes : ∀ u, (repaid.reserves debtAsset).Owes u ↔ if u = user then
    ¬PaysOffBoth env pool debtAsset user actual else (pool.reserves debtAsset).Owes u

theorem repayDebt_struck (registered : Registered pool)
    (viewed : userVariableDebt = (pool.reserves debtAsset).variableDebt env.timestamp user)
    (computed : repayDebt env pool debtAsset user actual userVariableDebt = .ok repaid) :
    ∃ accrued, Struck env pool debtAsset user actual accrued repaid := by
  obtain ⟨accrued, burned, rated, leg⟩ := repayDebt_ok computed
  obtain ⟨_, _, _, _, rate⟩ := Reserve.updateInterestRates_ok leg.rate
  have accrue := Reserve.updateState_sameDebts leg.accrue
  have stored := Reserve.updateState_variableBorrowIndex leg.accrue
  have kept := burnDebt_debtsOnly leg.burn
  refine ⟨accrued, registered.updateState_listed leg.accrue, leg.accrue, ?_, ?_, ?_, fun a apart => ?_,
    ?_, fun u => ?_⟩
  · rw [leg.result, setReserve_same, rate.result, kept.lToken]
  · rw [leg.result, setReserve_same, rate.result, kept.data]
  · rw [leg.result, setReserve_same, rate.result, kept.data]
  · rw [leg.result, setReserve_other apart]
  · rw [leg.result, setReserve_usersConfig]
  · rw [leg.result, setReserve_same, (Reserve.updateInterestRates_sameDebts leg.rate).owes,
      burnDebt_left leg.burn, stored, viewed, accrue.floating, accrue.stable, accrue.owes]
    rfl

def reserveSeized (env : Env) (pool : LendingPool) (collateralAsset debtAsset : Address)
    (receiveLToken : Bool) : Result Reserve :=
  if receiveLToken = true ∧ collateralAsset ≠ debtAsset then .ok (pool.reserves collateralAsset)
  else (pool.reserves collateralAsset).updateState env.timestamp

theorem le_reserveSeized {reserve : Reserve}
    (computed : reserveSeized env pool collateralAsset debtAsset receiveLToken = .ok reserve)
    (u : Address) : pool.held collateralAsset u ≤ reserve.lToken.scaledBalanceOf u := by
  rw [reserveSeized] at computed
  split_ifs at computed
  · cases computed
    exact le_refl _
  · obtain ⟨_, _, balances, _⟩ := Reserve.updateState_quiet computed
    rw [LToken.scaledBalanceOf, balances, held, LToken.scaledBalanceOf]
    exact Nat.le_add_right _ _

structure Seizes (env : Env) (pool repaid : LendingPool) (msgSender collateralAsset user : Address)
    (receiveLToken : Bool) (amount : Nat) (reserve : Reserve) (seized : LendingPool) : Prop where
  listed : (pool.reserves collateralAsset).lTokenAddress ≠ 0
  held : ∀ u, seized.held collateralAsset u +
      (if u = user then sharesOf env pool collateralAsset amount else 0) =
    reserve.lToken.scaledBalanceOf u +
      if receiveLToken = true ∧ u = msgSender then sharesOf env pool collateralAsset amount else 0
  elsewhere : ∀ a, a ≠ collateralAsset → seized.reserves a = repaid.reserves a
  debts : Reserve.SameDebts (repaid.reserves collateralAsset) (seized.reserves collateralAsset)
  flag : ∃ config, (if receiveLToken = true ∧ reserve.lToken.scaledBalanceOf msgSender = 0 then
      (pool.usersConfig msgSender).setUsingAsCollateral (pool.reserves collateralAsset).id true
    else .ok (pool.usersConfig msgSender)) = .ok config ∧
    seized.usersConfig = (pool.setUserConfig msgSender config).usersConfig

-- After the repayment the collateral's reserve shows the same income, and the lTokens it will move.
theorem Struck.collateral {accrued : Reserve} (struck : Struck env pool debtAsset user actual accrued repaid)
    (collateralAsset : Address) :
    (repaid.reserves collateralAsset).normalizedIncome env.timestamp =
        (pool.reserves collateralAsset).normalizedIncome env.timestamp ∧
      (reserveSeized env pool collateralAsset debtAsset true =
        .ok (if collateralAsset = debtAsset then accrued else pool.reserves collateralAsset)) ∧
      (repaid.reserves collateralAsset).lToken =
        (if collateralAsset = debtAsset then accrued else pool.reserves collateralAsset).lToken := by
  by_cases same : collateralAsset = debtAsset
  · subst same
    obtain ⟨shown, income⟩ :=
      Reserve.income_of_accrued struck.accrue struck.stamp
        struck.index
    refine ⟨shown.trans income, ?_, ?_⟩
    · rw [reserveSeized, if_neg fun both => both.2 rfl, if_pos rfl, struck.accrue]
    · rw [if_pos rfl, struck.lToken]
  · rw [struck.elsewhere _ same, if_neg same, reserveSeized, if_pos ⟨rfl, same⟩]
    exact ⟨rfl, rfl, rfl⟩

theorem seizeLTokens_seizes {accrued : Reserve} (registered : Registered pool)
    (operates : Operates env pool repaid)
    (struck : Struck env pool debtAsset user actual accrued repaid)
    (computed : seizeLTokens env repaid msgSender collateralAsset user amount = .ok seized) :
    ∃ reserve, reserveSeized env pool collateralAsset debtAsset true = .ok reserve ∧
      Seizes env pool repaid msgSender collateralAsset user true amount reserve seized := by
  obtain ⟨income, known, token⟩ := struck.collateral collateralAsset
  generalize (if collateralAsset = debtAsset then accrued else pool.reserves collateralAsset) =
    reserve at known token
  obtain ⟨previous, fromBefore, toBefore, lToken, config, leg⟩ := seizeLTokens_ok computed
  obtain ⟨index, viewed, moved⟩ := LToken.transfer_ok leg.transfer
  obtain ⟨rfl, _⟩ := ReserveData.getNormalizedIncome_ok viewed
  obtain ⟨listed, owned⟩ := Reserve.lTokenBalanceOf_ok leg.read
  have registered' := registered.evolves operates.evolves
  have keeps := operates.evolves.keeps collateralAsset
  have fresh : previous = 0 ↔ reserve.lToken.scaledBalanceOf msgSender = 0 := by
    have zero := balance_eq_zero_iff env msgSender registered' listed
    rw [Reserve.lTokenBalance, ← owned, held, token] at zero
    exact zero
  have flag := leg.flag
  simp only [fresh, struck.config, keeps.id] at flag
  refine ⟨reserve, known, ?_, fun u => ?_, fun a apart => ?_, ?_, config, ?_, ?_⟩
  · rwa [keeps.lTokenAddress] at listed
  · have balances := moved.balances u
    rw [income, token] at balances
    rw [leg.result, held, setUserConfig_reserves, setReserve_same, sharesOf]
    simp only [true_and]
    exact balances
  · rw [leg.result, setUserConfig_reserves, setReserve_other apart]
  · rw [leg.result, setUserConfig_reserves, setReserve_same]
    exact ⟨rfl, rfl⟩
  · simp only [true_and]
    exact flag
  · rw [leg.result, setUserConfig, setUserConfig, setReserve_usersConfig, struck.config]

theorem seizeUnderlying_seizes {accrued : Reserve} (registered : Registered pool)
    (operates : Operates env pool repaid)
    (struck : Struck env pool debtAsset user actual accrued repaid)
    (computed : seizeUnderlying env repaid msgSender collateralAsset user amount = .ok seized) :
    ∃ reserve, reserveSeized env pool collateralAsset debtAsset false = .ok reserve ∧
      Seizes env pool repaid msgSender collateralAsset user false amount reserve seized := by
  obtain ⟨again, rated, burned, leg⟩ := seizeUnderlying_ok computed
  obtain ⟨_, _, _, _, rate⟩ := Reserve.updateInterestRates_ok leg.rate
  obtain ⟨lToken, _, burn, _, shape⟩ := Reserve.burnLToken_ok leg.burn
  have listed := (registered.evolves operates.evolves).updateState_listed leg.accrue
  have keeps := operates.evolves.keeps collateralAsset
  obtain ⟨shown, income⟩ := Reserve.income_of_rated leg.accrue leg.rate
  obtain ⟨same, _⟩ := struck.collateral collateralAsset
  rw [same] at income
  have token : rated.lToken = again.lToken := by rw [rate.result]
  have known : ∃ reserve, (pool.reserves collateralAsset).updateState env.timestamp = .ok reserve ∧
      again.lToken = reserve.lToken := by
    by_cases place : collateralAsset = debtAsset
    · subst place
      have current : (repaid.reserves collateralAsset).lastUpdateTimestamp = env.timestamp := by
        rw [struck.stamp, Reserve.updateState_timestamp struck.accrue]
      refine ⟨accrued, struck.accrue, ?_⟩
      rw [Reserve.updateState_again current env.timestamp_lt leg.accrue, struck.lToken]
    · have accrue := leg.accrue
      rw [struck.elsewhere _ place] at accrue
      exact ⟨again, accrue, rfl⟩
  obtain ⟨reserve, accrue, moved⟩ := known
  refine ⟨reserve, ?_, ?_, fun u => ?_, fun a apart => ?_, ?_, pool.usersConfig msgSender, ?_, ?_⟩
  · rw [reserveSeized, if_neg fun both => Bool.false_ne_true both.1, accrue]
  · rwa [keeps.lTokenAddress] at listed
  · have balances := burn.balances u
    rw [income, token, moved] at balances
    rw [leg.result, held, setReserve_same, shape, sharesOf,
      if_neg fun both : false = true ∧ u = msgSender => Bool.false_ne_true both.1, Nat.add_zero]
    exact balances
  · rw [leg.result, setReserve_other apart]
  · rw [leg.result, setReserve_same]
    exact ((Reserve.updateState_sameDebts leg.accrue).trans
      (Reserve.updateInterestRates_sameDebts leg.rate)).trans (Reserve.burnLToken_sameDebts leg.burn)
  · rw [if_neg fun both => Bool.false_ne_true both.1]
  · rw [leg.result, setReserve_usersConfig, struck.config, setUserConfig, Function.update_eq_self]

theorem seize_seizes {accrued : Reserve} (registered : Registered pool)
    (operates : Operates env pool repaid)
    (struck : Struck env pool debtAsset user actual accrued repaid)
    (computed : (if receiveLToken then
      seizeLTokens env repaid msgSender collateralAsset user amount
      else seizeUnderlying env repaid msgSender collateralAsset user amount) = .ok seized) :
    ∃ reserve, reserveSeized env pool collateralAsset debtAsset receiveLToken = .ok reserve ∧
      Seizes env pool repaid msgSender collateralAsset user receiveLToken amount reserve seized := by
  cases receiveLToken with
  | true => exact seizeLTokens_seizes registered operates struck computed
  | false => exact seizeUnderlying_seizes registered operates struck computed

structure Liquidates (env : Env) (pool : LendingPool)
    (msgSender collateralAsset debtAsset user : Address) (receiveLToken : Bool)
    (actual collateral collateralBalance : Nat) (reserve : Reserve) (after : LendingPool) :
    Prop where
  listed : (pool.reserves collateralAsset).lTokenAddress ≠ 0
  listedDebt : (pool.reserves debtAsset).lTokenAddress ≠ 0
  seized : reserveSeized env pool collateralAsset debtAsset receiveLToken = .ok reserve
  held : ∀ u, after.held collateralAsset u +
      (if u = user then sharesOf env pool collateralAsset collateral else 0) =
    reserve.lToken.scaledBalanceOf u + if receiveLToken = true ∧ u = msgSender then
      sharesOf env pool collateralAsset collateral else 0
  elsewhere : ∀ a u, a ≠ collateralAsset → pool.held a u ≤ after.held a u
  uses : ∀ a u, (pool.reserves a).lTokenAddress ≠ 0 → after.uses a u =
    if (collateral = collateralBalance ∧ a = collateralAsset) ∧ u = user then false
    else if ((receiveLToken = true ∧ reserve.lToken.scaledBalanceOf msgSender = 0) ∧
      a = collateralAsset) ∧ u = msgSender then true
    else pool.uses a u
  owes : ∀ a u, ¬(a = debtAsset ∧ u = user) →
    ((after.reserves a).Owes u ↔ (pool.reserves a).Owes u)
  left : ¬(after.reserves debtAsset).Owes user ↔ PaysOffBoth env pool debtAsset user actual
  borrows : ∀ a u, after.borrows a u = pool.borrows a u

theorem executed_tokens {userVariableDebt collateral collateralBalance : Nat}
    {config : UserConfigurationMap} {funded : Reserve}
    (exec : Executed env pool msgSender collateralAsset debtAsset user actual userVariableDebt
      collateral collateralBalance receiveLToken repaid seized config funded after) (a : Address) :
    (after.reserves a).lToken = (seized.reserves a).lToken ∧
      Reserve.SameDebts (seized.reserves a) (after.reserves a) := by
  obtain ⟨_, _, fund⟩ := Reserve.transferUnderlyingFrom_ok exec.fund
  rw [exec.result]
  by_cases same : a = debtAsset
  · subst same
    rw [setReserve_same, fund]
    exact ⟨rfl, rfl, rfl⟩
  · rw [setReserve_other same, setUserConfig_reserves]
    exact ⟨rfl, .refl _⟩

theorem executeLiquidation_liquidates {collateral collateralBalance : Nat}
    (registered : Registered pool) (operates : Operates env pool after)
    (viewed : userVariableDebt = (pool.reserves debtAsset).variableDebt env.timestamp user)
    (computed : executeLiquidation env pool msgSender collateralAsset debtAsset user actual
      userVariableDebt collateral collateralBalance receiveLToken = .ok after) :
    ∃ reserve, Liquidates env pool msgSender collateralAsset debtAsset user receiveLToken actual
      collateral collateralBalance reserve after := by
  obtain ⟨repaid, seized, config, funded, exec⟩ := executeLiquidation_ok computed
  have repays : Operates env pool repaid := repayDebt_operates exec.repay
  obtain ⟨accrued, struck⟩ := repayDebt_struck registered viewed exec.repay
  obtain ⟨reserve, known, seizes⟩ := seize_seizes registered repays struck exec.seize
  have operates' : Operates env pool seized := repays.trans (seize_operates exec.seize)
  obtain ⟨written, liquidator, configs⟩ := seizes.flag
  have tokens := executed_tokens exec
  have debts : ∀ a, Reserve.SameDebts (repaid.reserves a) (after.reserves a) := by
    intro a
    by_cases same : a = collateralAsset
    · subst same
      exact seizes.debts.trans (tokens a).2
    · rw [← seizes.elsewhere a same]
      exact (tokens a).2
  have flag := exec.flag
  rw [(operates'.evolves.keeps collateralAsset).id, configs] at flag
  refine ⟨reserve, seizes.listed, struck.listed, known, fun u => ?_, fun a u apart => ?_,
    fun a u here => ?_, fun a u apart => ?_, ?_, fun a u => ?_⟩
  · rw [held, (tokens collateralAsset).1, ← held]
    exact seizes.held u
  · rw [held, held, (tokens a).1, seizes.elsewhere a apart]
    by_cases same : a = debtAsset
    · subst same
      obtain ⟨_, _, balances, _⟩ := Reserve.updateState_quiet struck.accrue
      rw [struck.lToken, LToken.scaledBalanceOf, LToken.scaledBalanceOf, balances]
      exact Nat.le_add_right _ _
    · rw [struck.elsewhere a same]
  · rw [uses_of_config ((pool.setUserConfig msgSender written).setUserConfig user config)
      operates (by rw [exec.result, setReserve_usersConfig, setUserConfig, setUserConfig, configs])]
    have first : ∀ u, ((pool.setUserConfig msgSender written).usersConfig u).collateralises
        (pool.reserves a).id = _ :=
      fun u => uses_written (u := u) registered here seizes.listed liquidator
    have marked : Operates env pool (pool.setUserConfig msgSender written) :=
      operates_setUserConfig written
    have second := uses_written (u := u) (registered.evolves marked.evolves) here seizes.listed flag
    rw [uses] at second
    simp only [setUserConfig_reserves] at second
    rw [second, first]
  · rw [(debts a).owes]
    by_cases same : a = debtAsset
    · subst same
      rw [struck.owes, if_neg fun equal => apart ⟨rfl, equal⟩]
    · rw [struck.elsewhere a same]
  · rw [(debts debtAsset).owes, struck.owes, if_pos rfl, not_not]
  · refine borrows_of_config operates fun i => ?_
    rw [exec.result, setReserve_usersConfig, setUserConfig_borrows]
    · rw [configs, setUserConfig_borrows (collateral_borrows liquidator i)]
    · rw [configs, collateral_borrows flag]

end LendingPoolCollateralManager

end PalmyProtocol
