import PalmyProtocol.Pool.LighterAccounts
import PalmyProtocol.Proofs.CollateralRemoval

set_option autoImplicit false

namespace PalmyProtocol

open Checked Rounding LendingPool GenericLogic Finset

namespace LendingPool

variable {env : Env} {pool : LendingPool} {asset user : Address} {amount balance : Nat}
variable {account account' : UserAccountData}

structure CountedFits (env : Env) (pool : LendingPool) (asset user : Address) : Prop where
  quoted : env.getAssetPrice asset = .ok (env.priceOf asset)
  unit : 0 < (pool.reserves asset).unit
  product : env.priceOf asset * (pool.reserves asset).lTokenBalance env.timestamp user ≤ maxUint256
  weight : collateralInETH env pool user asset *
    (pool.reserves asset).configuration.getLiquidationThreshold ≤ maxUint256

theorem addCollateral_fits {totals totals' : UserAccountTotals}
    (computed : addCollateral env pool user asset totals = .ok totals') :
    CountedFits env pool asset user := by
  simp only [addCollateral, bind_eq_ok, SafeMath.add_eq_ok, SafeMath.mul_eq_ok,
    pure_eq_ok] at computed
  obtain ⟨_, read, value, valued, _, ⟨_, rfl⟩, _, ⟨_, rfl⟩, _, ⟨_, rfl⟩, _, ⟨weight, rfl⟩, _⟩ :=
    computed
  obtain ⟨_, rfl⟩ := Reserve.lTokenBalanceOf_ok read
  obtain ⟨worth, unit, quoted⟩ := valueInETH_ok valued
  simp only [valueInETH, quoted, ok_bind, bind_eq_ok, SafeMath.mul_eq_ok] at valued
  obtain ⟨_, ⟨product, _⟩, _⟩ := valued
  rw [worth] at weight
  exact ⟨quoted, unit, product, weight⟩

theorem used_of_counts (registered : Registered pool)
    (listed : (pool.reserves asset).lTokenAddress ≠ 0) (counted : Counts pool asset user) :
    ¬(pool.usersConfig user).isEmpty = true := by
  intro empty
  have clear := (UserConfigurationMap.isEmpty_iff.1 empty _ (registered.id_lt listed)).2
  rw [counted.1] at clear
  cases clear

theorem calculateUserAccountData_fits (registered : Registered pool)
    (listed : (pool.reserves asset).lTokenAddress ≠ 0) (counted : Counts pool asset user)
    (viewed : calculateUserAccountData env pool user (pool.usersConfig user) = .ok account) :
    CountedFits env pool asset user := by
  obtain ⟨inside, place⟩ := registered.listed asset listed
  have index := registered.id_lt listed
  have used := used_of_counts registered listed counted
  rw [calculateUserAccountData, if_neg used, bind_eq_ok] at viewed
  obtain ⟨_, summed, _⟩ := viewed
  obtain ⟨totals, totals', turn⟩ := foldlM_visits summed (List.mem_range.2 inside)
  simp only [addReserve, bind_eq_ok, UserConfigurationMap.isUsingAsCollateralOrBorrowing_eq_ok,
    counted.1, Bool.or_true, place] at turn
  obtain ⟨_, ⟨_, rfl⟩, turn⟩ := turn
  rw [if_neg (by decide)] at turn
  simp only [bind_eq_ok, UserConfigurationMap.isUsingAsCollateral_eq_ok] at turn
  obtain ⟨_, _, _, ⟨_, rfl⟩, _, first, _⟩ := turn
  rw [if_pos ⟨counted.2, counted.1⟩] at first
  exact addCollateral_fits first

def removedInETH (env : Env) (pool : LendingPool) (asset : Address) (amount : Nat) : Nat :=
  env.priceOf asset * amount / (pool.reserves asset).unit

def removedWeight (env : Env) (pool : LendingPool) (asset : Address) (amount : Nat) : Nat :=
  removedInETH env pool asset amount * (pool.reserves asset).configuration.getLiquidationThreshold

theorem removedInETH_le (owned : amount ≤ (pool.reserves asset).lTokenBalance env.timestamp user) :
    removedInETH env pool asset amount ≤ collateralInETH env pool user asset :=
  Nat.div_le_div_right (Nat.mul_le_mul_left _ owned)

theorem collateralIn_le (registered : Registered pool)
    (listed : (pool.reserves asset).lTokenAddress ≠ 0)
    (start : Account env pool user (pool.usersConfig user) account) :
    collateralIn env pool asset user ≤ account.totalCollateralInETH := by
  have inside := (registered.listed asset listed).1
  rw [start.collateral]
  exact single_le_sum (fun _ _ => Nat.zero_le _) (mem_range.2 inside)

theorem removedInETH_within (registered : Registered pool)
    (listed : (pool.reserves asset).lTokenAddress ≠ 0) (counted : Counts pool asset user)
    (start : Account env pool user (pool.usersConfig user) account)
    (owned : amount ≤ (pool.reserves asset).lTokenBalance env.timestamp user) :
    removedInETH env pool asset amount ≤ account.totalCollateralInETH := by
  have within := collateralIn_le registered listed start
  rw [collateralIn_counted registered listed counted] at within
  exact le_trans (removedInETH_le owned) within

theorem removed_valued (fits : CountedFits env pool asset user)
    (owned : amount ≤ (pool.reserves asset).lTokenBalance env.timestamp user) :
    valueInETH (env.getAssetPrice asset) amount (pool.reserves asset).configuration.getDecimals =
        .ok (removedInETH env pool asset amount) ∧
      removedWeight env pool asset amount ≤ maxUint256 := by
  constructor
  · have product := Nat.mul_le_mul_left (env.priceOf asset) owned
    simp only [valueInETH, fits.quoted, ok_bind, bind_eq_ok, SafeMath.mul_eq_ok,
      SafeMath.div_eq_ok]
    exact ⟨_, ⟨le_trans product fits.product, rfl⟩, fits.unit, rfl⟩
  · exact le_trans (Nat.mul_le_mul_right _ (removedInETH_le owned)) fits.weight

theorem weightedAverage_fits (start : Account env pool user (pool.usersConfig user) account)
    (owing : account.totalDebtInETH ≠ 0) :
    account.totalCollateralInETH * account.avgLiquidationThreshold ≤ maxUint256 := by
  have health := start.healthFactor
  rw [calculateHealthFactorFromBalances, if_neg owing] at health
  simp only [bind_eq_ok, percentMul_eq_ok] at health
  obtain ⟨_, ⟨bounded, _⟩, _⟩ := health
  omega

theorem balanceDecreaseAllowed_iff (registered : Registered pool)
    (listed : (pool.reserves asset).lTokenAddress ≠ 0) (counted : Counts pool asset user)
    (owned : amount ≤ (pool.reserves asset).lTokenBalance env.timestamp user)
    (viewed : calculateUserAccountData env pool user (pool.usersConfig user) = .ok account)
    (owing : account.totalDebtInETH ≠ 0) (allowed : Bool) :
    balanceDecreaseAllowed env pool asset user amount (pool.usersConfig user) = .ok allowed ↔
      (account.totalCollateralInETH = removedInETH env pool asset amount ∧ allowed = false) ∨
      (account.totalCollateralInETH ≠ removedInETH env pool asset amount ∧
        removedWeight env pool asset amount ≤
          averaged account.totalCollateralInETH (weightedCollateral env pool user) ∧
        allowed = decide (HEALTH_FACTOR_LIQUIDATION_THRESHOLD ≤ healthOf
          (averaged (account.totalCollateralInETH - removedInETH env pool asset amount)
            (averaged account.totalCollateralInETH (weightedCollateral env pool user) -
              removedWeight env pool asset amount)) account.totalDebtInETH)) := by
  have start := calculateUserAccountData_ok registered.count viewed
  have threshold : account.avgLiquidationThreshold =
      weightedCollateral env pool user / account.totalCollateralInETH := start.threshold
  have fits := weightedAverage_fits start owing
  have health := start.healthFactor
  rw [threshold] at fits health
  obtain ⟨valued, weight⟩ :=
    removed_valued (calculateUserAccountData_fits registered listed counted viewed) owned
  rw [removedWeight] at weight
  have part := removedInETH_within registered listed counted start owned
  have borrowing : ¬(pool.usersConfig user).isBorrowingAny = false := fun none =>
    owing (debt_of_no_borrowing registered.count none start)
  rw [balanceDecreaseAllowed, if_neg borrowing]
  simp only [bind_eq_ok, UserConfigurationMap.isUsingAsCollateral_eq_ok, viewed, valued,
    Except.ok.injEq, exists_eq_left', registered.id_lt listed, counted.1, true_and,
    Bool.true_eq_false, if_false, counted.2, owing, SafeMath.sub_eq_ok, part]
  by_cases gone : account.totalCollateralInETH = removedInETH env pool asset amount
  · rw [if_pos (by omega), pure_eq_ok]
    simp only [gone, ne_eq, not_true, true_and, false_and, or_false, eq_comm]
  · rw [if_neg (by omega)]
    simp only [bind_eq_ok, SafeMath.mul_eq_ok, SafeMath.sub_eq_ok, SafeMath.div_eq_ok, threshold,
      fits, weight, true_and, exists_eq_left', pure_eq_ok, gone, false_and, false_or, ne_eq,
      not_false_eq_true, averaged, removedWeight]
    constructor
    · rintro ⟨_, ⟨within, rfl⟩, _, ⟨_, rfl⟩, _, computed, rfl⟩
      rw [healthFactor_eq computed]
      exact ⟨within, rfl⟩
    · rintro ⟨within, rfl⟩
      obtain ⟨_, computed⟩ := calculateHealthFactorFromBalances_defined health
        (le_trans (averaged_le _ _) (Nat.sub_le _ (removedWeight env pool asset amount)))
      refine ⟨_, ⟨within, rfl⟩, _, ⟨by omega, rfl⟩, _, computed, ?_⟩
      rw [healthFactor_eq computed]
      rfl

theorem balanceDecreaseAllowed_free (registered : Registered pool)
    (listed : (pool.reserves asset).lTokenAddress ≠ 0) (counted : Counts pool asset user)
    (viewed : calculateUserAccountData env pool user (pool.usersConfig user) = .ok account)
    (free : account.totalDebtInETH = 0) :
    balanceDecreaseAllowed env pool asset user amount (pool.usersConfig user) = .ok true := by
  by_cases borrowing : (pool.usersConfig user).isBorrowingAny = false
  · rw [balanceDecreaseAllowed, if_pos borrowing]
  · rw [balanceDecreaseAllowed, if_neg borrowing]
    simp only [bind_eq_ok, UserConfigurationMap.isUsingAsCollateral_eq_ok, viewed,
      Except.ok.injEq, exists_eq_left', registered.id_lt listed, counted.1, true_and,
      Bool.true_eq_false, if_false, counted.2, free, if_true, pure_eq_ok]

theorem balanceDecreaseAllowed_views {allowed : Bool} (counted : Counts pool asset user)
    (borrowing : (pool.usersConfig user).isBorrowingAny = true)
    (computed : balanceDecreaseAllowed env pool asset user amount (pool.usersConfig user) =
      .ok allowed) :
    ∃ account, calculateUserAccountData env pool user (pool.usersConfig user) = .ok account := by
  rw [balanceDecreaseAllowed, if_neg (by rw [borrowing]; decide)] at computed
  simp only [bind_eq_ok, UserConfigurationMap.isUsingAsCollateral_eq_ok] at computed
  obtain ⟨_, ⟨_, rfl⟩, computed⟩ := computed
  rw [if_neg (by rw [counted.1]; decide), if_neg counted.2, bind_eq_ok] at computed
  obtain ⟨account, viewed, _⟩ := computed
  exact ⟨account, viewed⟩

theorem FlagOff.sums {after : LendingPool} {light : UserAccountTotals}
    (cleared : FlagOff asset user pool after) (operates : Operates env pool after)
    (registered : Registered pool)
    (start : Account env pool user (pool.usersConfig user) account)
    (sums : Sums env after user (after.usersConfig user) pool.reservesCount light) :
    light.totalCollateralInETH + collateralIn env pool asset user =
        account.totalCollateralInETH ∧
      light.avgLiquidationThreshold + collateralIn env pool asset user *
          (pool.reserves asset).configuration.getLiquidationThreshold =
        weightedCollateral env pool user := by
  obtain ⟨inside, _⟩ := registered.listed asset cleared.listed
  have gone := cleared.collateralIn_gone operates registered
  have moved := sum_moved (collateralAt env pool user (pool.usersConfig user))
    (collateralAt env after user (after.usersConfig user)) inside
    fun i within different => (cleared.other operates registered different within).1
  have weighted := cleared.weighted operates registered
  have count := operates.registry.reservesCount
  have index := (operates.evolves.keeps asset).id
  have threshold : light.avgLiquidationThreshold = weightedCollateral env after user := by
    rw [sums.threshold, weightedCollateral, count]
  constructor
  · rw [sums.collateral, start.collateral, collateralIn, moved]
    rw [collateralIn, index] at gone
    rw [gone, Nat.add_zero]
  · rw [threshold, weighted, gone, Nat.zero_mul, Nat.add_zero]

-- The account's data over what is left of the collateral when the asset is not used as one.
def Recomputed (env : Env) (pool : LendingPool) (asset user : Address)
    (account' : UserAccountData) : Prop :=
  ∃ config, (pool.usersConfig user).setUsingAsCollateral (pool.reserves asset).id false =
    .ok config ∧ calculateUserAccountData env pool user config = .ok account'

def remainingInETH (env : Env) (pool : LendingPool) (asset : Address) (amount : Nat)
    (account : UserAccountData) : Nat :=
  account.totalCollateralInETH - removedInETH env pool asset amount

def remainingWeight (env : Env) (pool : LendingPool) (asset user : Address) (amount : Nat) : Nat :=
  weightedCollateral env pool user - removedWeight env pool asset amount

def remainingHealth (env : Env) (pool : LendingPool) (asset user : Address) (amount : Nat)
    (account : UserAccountData) : Result Nat :=
  calculateHealthFactorFromBalances (remainingInETH env pool asset amount account)
    account.totalDebtInETH
    (remainingWeight env pool asset user amount / remainingInETH env pool asset amount account)

-- What the floor of the average threshold takes from the weighted collateral.
def flooredAway (env : Env) (pool : LendingPool) (user : Address) (account : UserAccountData) :
    Nat :=
  weightedCollateral env pool user % account.totalCollateralInETH

section

variable (registered : Registered pool) (listed : (pool.reserves asset).lTokenAddress ≠ 0)
variable (counted : Counts pool asset user)
variable (viewed : calculateUserAccountData env pool user (pool.usersConfig user) = .ok account)
variable (whole : amount = (pool.reserves asset).lTokenBalance env.timestamp user)
include registered listed counted viewed whole

theorem Recomputed.healthFactor (recomputed : Recomputed env pool asset user account') :
    remainingHealth env pool asset user amount account = .ok account'.healthFactor := by
  obtain ⟨config, flag, later⟩ := recomputed
  have cleared := flagOff_setUserConfig listed flag
  have operates : Operates env pool (pool.setUserConfig user config) :=
    operates_setUserConfig config
  have again : calculateUserAccountData env (pool.setUserConfig user config) user
      ((pool.setUserConfig user config).usersConfig user) = .ok account' := by
    rw [setUserConfig_same]
    exact later
  have finish := calculateUserAccountData_ok (registered.evolves operates.evolves).count again
  have removed := cleared.removed operates registered
    (calculateUserAccountData_ok registered.count viewed) finish
  have same : debtIn env (pool.setUserConfig user config) asset user =
      debtIn env pool asset user := debtIn_setUserConfig registered listed flag
  have part : collateralIn env pool asset user = removedInETH env pool asset amount := by
    rw [collateralIn_counted registered listed counted, whole, collateralInETH, removedInETH]
  have collateral := removed.collateral
  have threshold := removed.threshold'
  have health := finish.healthFactor
  rw [part] at collateral threshold
  rw [removed.debt_eq same, threshold] at health
  rw [remainingHealth, remainingWeight, removedWeight, remainingInETH, ← collateral,
    Nat.add_sub_cancel]
  exact health

-- The loop over less collateral returns, and so does the rest where the health factor fits.
theorem Recomputed.exists {health : Nat}
    (fits : remainingHealth env pool asset user amount account = .ok health) :
    ∃ account', Recomputed env pool asset user account' := by
  obtain ⟨config, flag⟩ : ∃ config, (pool.usersConfig user).setUsingAsCollateral
      (pool.reserves asset).id false = .ok config :=
    UserConfigurationMap.setUsingAsCollateral_defined (registered.id_lt listed) false
  obtain ⟨_, borrows, collateralises⟩ := UserConfigurationMap.setUsingAsCollateral_ok flag
  by_cases empty : config.isEmpty = true
  · exact ⟨_, config, flag, by rw [calculateUserAccountData, if_pos empty]⟩
  have cleared := flagOff_setUserConfig listed flag
  have operates : Operates env pool (pool.setUserConfig user config) :=
    operates_setUserConfig config
  have start := calculateUserAccountData_ok registered.count viewed
  obtain ⟨inside, _⟩ := registered.listed asset listed
  have lightened : Lightened env user pool (pool.usersConfig user) pool config := by
    refine ⟨rfl, rfl, borrows, fun i on => ?_, fun _ => rfl,
      fun _ balance read => ⟨balance, le_refl _, read⟩, fun _ => rfl⟩
    rw [collateralises] at on
    split_ifs at on
    exact on
  have used := used_of_counts registered listed counted
  rw [calculateUserAccountData, if_neg used] at viewed
  simp only [bind_eq_ok, pure_eq_ok] at viewed
  obtain ⟨totals, summed, _, _, _, _, _, _, rfl⟩ := viewed
  obtain ⟨light, loop, lighter⟩ := foldlM_lighter lightened summed
  have sums : Sums env (pool.setUserConfig user config) user
      ((pool.setUserConfig user config).usersConfig user) pool.reservesCount light := by
    rw [setUserConfig_same]
    exact foldlM_sums loop
  obtain ⟨collateral, weighted⟩ := cleared.sums operates registered start sums
  rw [collateralIn_counted registered listed counted, collateralInETH, ← whole,
    ← removedInETH] at collateral weighted
  have left : remainingInETH env pool asset amount _ = light.totalCollateralInETH :=
    Nat.sub_eq_of_eq_add collateral.symm
  have left' : remainingWeight env pool asset user amount = light.avgLiquidationThreshold :=
    Nat.sub_eq_of_eq_add weighted.symm
  rw [remainingHealth, left, left', ← lighter.debt] at fits
  have recomputed : ∃ account', calculateUserAccountData env pool user config = .ok account' := by
    rw [calculateUserAccountData, if_neg empty]
    simp only [bind_eq_ok, pure_eq_ok]
    exact ⟨_, light, loop, _, average_fits _ _, _, average_fits _ _, health, fits, rfl⟩
  obtain ⟨account', recomputed⟩ := recomputed
  exact ⟨account', config, flag, recomputed⟩

end

structure ChecksExactly (env : Env) (pool : LendingPool) (asset user : Address)
    (balance amount : Nat) : Prop where
  answers : ∃ allowed,
    balanceDecreaseAllowed env pool asset user amount (pool.usersConfig user) = .ok allowed
  agrees : amount = balance → ∀ account', Recomputed env pool asset user account' →
    HEALTH_FACTOR_LIQUIDATION_THRESHOLD ≤ account'.healthFactor →
    balanceDecreaseAllowed env pool asset user amount (pool.usersConfig user) = .ok true

-- The floored average leaves enough for what is removed, and what the floor takes does not bring a
-- whole rest that is enough for the debt below what is enough.
structure RoundingHarmless (env : Env) (pool : LendingPool) (asset user : Address)
    (balance amount : Nat) (account : UserAccountData) : Prop where
  answers : removedWeight env pool asset amount + flooredAway env pool user account ≤
    weightedCollateral env pool user
  agrees : amount = balance →
    (∃ health, remainingHealth env pool asset user amount account = .ok health) →
    leastWeight (remainingInETH env pool asset amount account) account.totalDebtInETH ≤
      remainingWeight env pool asset user amount →
    leastWeight (remainingInETH env pool asset amount account) account.totalDebtInETH +
      flooredAway env pool user account ≤ remainingWeight env pool asset user amount

theorem unhealthy_of_nothing {debt weight : Nat} (owing : debt ≠ 0) :
    ¬HEALTH_FACTOR_LIQUIDATION_THRESHOLD ≤ healthOf (averaged 0 weight) debt := by
  rw [averaged, Nat.zero_mul, healthOf, if_neg owing, divHalfUp_zero, Nat.zero_mul, divHalfUp_zero]
  decide

theorem checksExactly_iff (registered : Registered pool)
    (listed : (pool.reserves asset).lTokenAddress ≠ 0) (counted : Counts pool asset user)
    (balanced : balance = (pool.reserves asset).lTokenBalance env.timestamp user)
    (owned : amount ≤ balance)
    (viewed : calculateUserAccountData env pool user (pool.usersConfig user) = .ok account)
    (owing : account.totalDebtInETH ≠ 0) :
    ChecksExactly env pool asset user balance amount ↔
      account.totalCollateralInETH = removedInETH env pool asset amount ∨
        RoundingHarmless env pool asset user balance amount account := by
  have check := balanceDecreaseAllowed_iff registered listed counted (balanced ▸ owned) viewed owing
  rw [averaged_eq, ← flooredAway, ← remainingInETH] at check
  have part : flooredAway env pool user account ≤ weightedCollateral env pool user :=
    Nat.mod_le _ _
  have recomputes : amount = balance → ∀ account', Recomputed env pool asset user account' →
      account'.healthFactor = healthOf
        (averaged (remainingInETH env pool asset amount account)
          (remainingWeight env pool asset user amount)) account.totalDebtInETH :=
    fun whole account' recomputed => healthFactor_eq
      (recomputed.healthFactor registered listed counted viewed (whole.trans balanced))
  by_cases gone : account.totalCollateralInETH = removedInETH env pool asset amount
  · refine ⟨fun _ => .inl gone, fun _ => ⟨⟨false, (check false).2 (.inl ⟨gone, rfl⟩)⟩, ?_⟩⟩
    intro whole account' recomputed healthy
    rw [recomputes whole account' recomputed, remainingInETH, gone, Nat.sub_self] at healthy
    exact absurd healthy (unhealthy_of_nothing owing)
  have positive : 0 < remainingInETH env pool asset amount account := by
    have within := removedInETH_within registered listed counted
      (calculateUserAccountData_ok registered.count viewed) (balanced ▸ owned)
    exact Nat.sub_pos_of_lt (Nat.lt_of_le_of_ne within (Ne.symm gone))
  constructor
  · rintro ⟨⟨allowed, computed⟩, agrees⟩
    refine .inr ⟨?_, fun whole ⟨_, fits⟩ enough => ?_⟩
    · rcases (check allowed).1 computed with ⟨here, _⟩ | ⟨_, within, _⟩
      · exact absurd here gone
      · omega
    · obtain ⟨account', recomputed⟩ :=
        Recomputed.exists registered listed counted viewed (whole.trans balanced) fits
      rw [← healthy_averaged_iff positive, ← recomputes whole account' recomputed] at enough
      rcases (check true).1 (agrees whole account' recomputed enough) with ⟨here, _⟩ | ⟨_, _, yes⟩
      · exact absurd here gone
      · have kept := of_decide_eq_true yes.symm
        rw [healthy_averaged_iff positive] at kept
        rw [remainingWeight]
        omega
  · intro either
    obtain ⟨answers, agrees⟩ := either.resolve_left gone
    have within : removedWeight env pool asset amount ≤
        weightedCollateral env pool user - flooredAway env pool user account := by
      omega
    refine ⟨⟨_, (check _).2 (.inr ⟨gone, within, rfl⟩)⟩, ?_⟩
    intro whole account' recomputed healthy
    have fits := recomputed.healthFactor registered listed counted viewed (whole.trans balanced)
    rw [recomputes whole account' recomputed, healthy_averaged_iff positive] at healthy
    have kept := agrees whole ⟨_, fits⟩ healthy
    refine (check true).2 (.inr ⟨gone, within, (decide_eq_true ?_).symm⟩)
    rw [healthy_averaged_iff positive]
    rw [remainingWeight] at kept
    omega

end LendingPool

namespace World

variable {world : World} {user asset : Address} {amount balance : Nat}

/-- In every reachable state the check answers, and answers yes when it should, exactly where the
floor of the average takes nothing that the answer depends on. -/
theorem Reachable.removal_check_exact (reached : world.Reachable)
    (read : (world.pool.reserves asset).lTokenBalanceOf world.env.timestamp user = .ok balance)
    (owned : amount ≤ balance) (counted : Counts world.pool asset user) :
    ChecksExactly world.env world.pool asset user balance amount ↔
      (world.pool.usersConfig user).isBorrowingAny = false ∨
      ∃ account, calculateUserAccountData world.env world.pool user
          (world.pool.usersConfig user) = .ok account ∧
        (account.totalDebtInETH = 0 ∨
          account.totalCollateralInETH = removedInETH world.env world.pool asset amount ∨
          RoundingHarmless world.env world.pool asset user balance amount account) := by
  have registered := reached.registered
  obtain ⟨listed, balanced⟩ := Reserve.lTokenBalanceOf_ok read
  by_cases borrowing : (world.pool.usersConfig user).isBorrowingAny = false
  · have allowed : balanceDecreaseAllowed world.env world.pool asset user amount
        (world.pool.usersConfig user) = .ok true := by
      rw [balanceDecreaseAllowed, if_pos borrowing]
    exact ⟨fun _ => .inl borrowing, fun _ => ⟨⟨true, allowed⟩, fun _ _ _ _ => allowed⟩⟩
  constructor
  · intro exactly
    obtain ⟨_, computed⟩ := exactly.answers
    obtain ⟨account, viewed⟩ :=
      balanceDecreaseAllowed_views counted (Bool.of_not_eq_false borrowing) computed
    refine .inr ⟨account, viewed, ?_⟩
    by_cases free : account.totalDebtInETH = 0
    · exact .inl free
    · exact .inr
        ((checksExactly_iff registered listed counted balanced owned viewed free).1 exactly)
  · rintro (none | ⟨account, viewed, harmless⟩)
    · exact absurd none borrowing
    by_cases free : account.totalDebtInETH = 0
    · have allowed : balanceDecreaseAllowed world.env world.pool asset user amount
          (world.pool.usersConfig user) = .ok true :=
        balanceDecreaseAllowed_free registered listed counted viewed free
      exact ⟨⟨true, allowed⟩, fun _ _ _ _ => allowed⟩
    · exact (checksExactly_iff registered listed counted balanced owned viewed free).2
        (harmless.resolve_left free)

-- A debt of a hundredth of a token, with a thousand of an asset at 80% for it beside some of one
-- at 50%: an average that is no whole number of basis points.
def beside (other : Nat) : List Event :=
  Market.opening 10 Market.strategy ++ Market.opening 20 Market.strategy ++
    [.admin 3 (.configureReserveAsCollateral 20 4000 5000 10500),
      .call 101 (.deposit 10 (1000 * WAD) 101), .call 101 (.deposit 20 other 101),
      .call 101 (.borrow 10 (WAD / 100) 2 101)]

-- Seven hundred of the other asset are left when the whole thousand is asked for.
theorem removal_check_exact_beside :
    ∃ (world : World) (account account' : UserAccountData),
      Runs.run step Market.start (beside (700 * WAD)) = .ok world ∧
      calculateUserAccountData world.env world.pool 101 (world.pool.usersConfig 101) =
        .ok account ∧ 0 < flooredAway world.env world.pool 101 account ∧
      Recomputed world.env world.pool 10 101 account' ∧
      HEALTH_FACTOR_LIQUIDATION_THRESHOLD ≤ account'.healthFactor ∧
      balanceDecreaseAllowed world.env world.pool 10 101 (1000 * WAD)
        (world.pool.usersConfig 101) = .ok true := by
  have outcome : yields (Runs.run step Market.start (beside (700 * WAD))) (fun world =>
      ((world.pool.reserves 10).id = 0 ∧
        (world.pool.reserves 10).lTokenBalanceOf world.env.timestamp 101 = .ok (1000 * WAD) ∧
        (world.pool.usersConfig 101).collateralises (world.pool.reserves 10).id = true ∧
        (world.pool.reserves 10).configuration.getLiquidationThreshold ≠ 0) ∧
      yields (calculateUserAccountData world.env world.pool 101 (world.pool.usersConfig 101))
        (fun account => 0 < flooredAway world.env world.pool 101 account ∧
          removedWeight world.env world.pool 10 (1000 * WAD) +
            flooredAway world.env world.pool 101 account ≤
              weightedCollateral world.env world.pool 101 ∧
          leastWeight (remainingInETH world.env world.pool 10 (1000 * WAD) account)
              account.totalDebtInETH + flooredAway world.env world.pool 101 account ≤
            remainingWeight world.env world.pool 10 101 (1000 * WAD)) ∧
      yields ((world.pool.usersConfig 101).setUsingAsCollateral 0 false) (fun config =>
        yields (calculateUserAccountData world.env world.pool 101 config) (fun account' =>
          HEALTH_FACTOR_LIQUIDATION_THRESHOLD ≤ account'.healthFactor))) := by
    decide +kernel
  obtain ⟨world, ran, facts⟩ := yields_iff.1 outcome
  obtain ⟨⟨id, read, flag, threshold⟩, viewed, cleared⟩ := of_decide_eq_true facts
  obtain ⟨account, viewed, facts⟩ := yields_iff.1 viewed
  obtain ⟨some, answers, agrees⟩ := of_decide_eq_true facts
  obtain ⟨config, flagged, later⟩ := yields_iff.1 cleared
  obtain ⟨account', later, healthy⟩ := yields_iff.1 later
  have recomputed : Recomputed world.env world.pool 10 101 account' := by
    refine ⟨config, ?_, later⟩
    rw [id]
    exact flagged
  have checked := (Reachable.removal_check_exact (Market.reachable_of_run ran) read (le_refl _)
    ⟨flag, threshold⟩).2 (.inr ⟨account, viewed, .inr (.inr ⟨answers, fun _ _ _ => agrees⟩)⟩)
  exact ⟨world, account, account', ran, viewed, some, recomputed, of_decide_eq_true healthy,
    checked.agrees rfl account' recomputed (of_decide_eq_true healthy)⟩

-- A tenth of a token of it would be enough for the debt, and the check reverts.
theorem removal_check_reverts_lopsided :
    ¬∀ (world : World) (user asset : Address) (amount balance : Nat), world.Reachable →
      (world.pool.reserves asset).lTokenBalanceOf world.env.timestamp user = .ok balance →
      amount ≤ balance → Counts world.pool asset user →
      ChecksExactly world.env world.pool asset user balance amount := by
  intro every
  have outcome : yields (Runs.run step Market.start (beside (WAD / 10))) (fun world =>
      ((world.pool.reserves 10).lTokenBalanceOf world.env.timestamp 101 = .ok (1000 * WAD) ∧
        (world.pool.usersConfig 101).collateralises (world.pool.reserves 10).id = true ∧
        (world.pool.reserves 10).configuration.getLiquidationThreshold ≠ 0) ∧
      balanceDecreaseAllowed world.env world.pool 10 101 (1000 * WAD)
        (world.pool.usersConfig 101) = .error "SafeMath: subtraction overflow" ∧
      yields ((world.pool.usersConfig 101).setUsingAsCollateral 0 false) (fun config =>
        yields (calculateUserAccountData world.env world.pool 101 config) (fun account' =>
          HEALTH_FACTOR_LIQUIDATION_THRESHOLD ≤ account'.healthFactor))) := by
    decide +kernel
  obtain ⟨world, ran, facts⟩ := yields_iff.1 outcome
  obtain ⟨⟨read, flag, threshold⟩, reverted, _⟩ := of_decide_eq_true facts
  obtain ⟨_, answered⟩ := (every world 101 10 (1000 * WAD) (1000 * WAD)
    (Market.reachable_of_run ran) read (le_refl _) ⟨flag, threshold⟩).answers
  rw [reverted] at answered
  cases answered

end World

end PalmyProtocol
