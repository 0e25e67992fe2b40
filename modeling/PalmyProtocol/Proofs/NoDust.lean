import PalmyProtocol.Proofs.AccrualFlows
import PalmyProtocol.Proofs.CollateralRemoval

set_option autoImplicit false

namespace PalmyProtocol

open Checked Rounding LendingPool

-- Scaled back at its own index, a balance can only be itself, or be too large for a word.
theorem rayDiv_of_rayMul {scaled index shown : Nat} (grown : RAY ≤ index)
    (word : index ≤ maxUint256) (read : rayMul scaled index = .ok shown) :
    rayDiv shown index = if shown * RAY + index / 2 ≤ maxUint256 then .ok scaled
      else .error Errors.MATH_MULTIPLICATION_OVERFLOW := by
  obtain ⟨_, rfl⟩ := rayMul_eq_ok.1 read
  exact divRounded_of_share RAY_pos (Nat.pos_iff_ne_zero.1 (Nat.lt_of_lt_of_le RAY_pos grown)) word
    (rayDiv_rayMul grown)

def Affordable (message : String) : Prop :=
  message ≠ "ERC20: burn amount exceeds balance" ∧
    message ≠ "ERC20: transfer amount exceeds balance"

theorem Overflow.affordable {message : String} (overflow : Overflow message) :
    Affordable message := by
  constructor
  all_goals
    rintro rfl
    revert overflow
    simp [Overflow, Errors.MATH_MULTIPLICATION_OVERFLOW, Errors.RL_LIQUIDITY_INDEX_OVERFLOW,
      Errors.RL_VARIABLE_BORROW_INDEX_OVERFLOW]

section Covered

variable {amount index : Nat} {token : LToken} {base : ERC20} {user sender recipient : Address}

theorem ERC20.burn_affordable (covered : amount ≤ base.balances user) :
    FailsWith Affordable (base.burn user amount) := by
  refine failsWith_bind (failsWith_require fun _ => by simp [Affordable]) fun _ _ => ?_
  refine failsWith_bind (failsWith_ite (fun _ => failsWith_ok _) fun _ =>
    failsWith_error (by simp [Affordable])) fun _ _ => ?_
  exact failsWith_bind (failsWith_ite (fun _ => failsWith_ok _) fun above => absurd covered above)
    fun _ _ => failsWith_pure _

theorem ERC20.transfer_affordable (covered : amount ≤ base.balances sender) :
    FailsWith Affordable (base.transfer sender recipient amount) := by
  refine failsWith_bind (failsWith_require fun _ => by simp [Affordable]) fun _ _ => ?_
  refine failsWith_bind (failsWith_require fun _ => by simp [Affordable]) fun _ _ => ?_
  refine failsWith_bind (failsWith_ite (fun _ => failsWith_ok _) fun above => absurd covered above)
    fun _ _ => ?_
  exact failsWith_bind (add_overflows.mono fun _ => Overflow.affordable) fun _ _ => failsWith_pure _

theorem LToken.burn_affordable (nonzero : index ≠ 0)
    (covered : divHalfUp (amount * RAY) index ≤ token.base.balances user) :
    FailsWith Affordable (token.burn user amount index) := by
  refine failsWith_bind ((rayDiv_overflows nonzero).mono fun _ => Overflow.affordable)
    fun share scaled => ?_
  refine failsWith_bind (failsWith_require fun _ => by
    simp [Affordable, Errors.CT_INVALID_BURN_AMOUNT]) fun _ _ => ?_
  rw [(rayDiv_ok scaled).2] at covered
  exact failsWith_bind (ERC20.burn_affordable covered) fun _ _ => failsWith_pure _

theorem LToken.transfer_affordable (nonzero : index ≠ 0)
    (covered : divHalfUp (amount * RAY) index ≤ token.base.balances sender) :
    FailsWith Affordable (token.transfer (.ok index) sender recipient amount) := by
  refine failsWith_bind (failsWith_ok _) fun i same => ?_
  cases same
  refine failsWith_bind (rayMul_overflows.mono fun _ => Overflow.affordable) fun _ _ => ?_
  refine failsWith_bind (rayMul_overflows.mono fun _ => Overflow.affordable) fun _ _ => ?_
  refine failsWith_bind ((rayDiv_overflows nonzero).mono fun _ => Overflow.affordable)
    fun share scaled => ?_
  rw [(rayDiv_ok scaled).2] at covered
  exact failsWith_bind (ERC20.transfer_affordable covered) fun _ _ => failsWith_pure _

end Covered

namespace Reserve

variable {env : Env} {reserve accrued after : Reserve} {user : Address} {balance : Nat}

-- What the accrual adds to a balance is the treasury's alone.
theorem updateState_balance (computed : reserve.updateState env.timestamp = .ok accrued)
    (other : user ≠ reserve.lToken.treasury) :
    accrued.lToken.base.balances user = reserve.lToken.base.balances user := by
  obtain ⟨lToken, _, _, run⟩ := updateState_ok computed
  rw [run.result]
  rcases mintToTreasury_ok run.treasury with same | ⟨_, balances, _⟩
  · rw [same]
  · rw [balances user, if_neg other, Nat.add_zero]

theorem le_updateState_balance (computed : reserve.updateState env.timestamp = .ok accrued) :
    reserve.lToken.base.balances user ≤ accrued.lToken.base.balances user := by
  obtain ⟨lToken, _, _, run⟩ := updateState_ok computed
  rw [run.result]
  rcases mintToTreasury_ok run.treasury with same | ⟨_, balances, _⟩
  · rw [same]
  · rw [balances user]
    exact Nat.le_add_right _ _

theorem share_of_balance (sound : reserve.Sound) {asset lTokenAddress : Address}
    {added taken : Nat} (read : reserve.lTokenBalanceOf env.timestamp user = .ok balance)
    (computed : reserve.updateState env.timestamp = .ok accrued)
    (rated : accrued.updateInterestRates env asset lTokenAddress added taken = .ok after) :
    RAY ≤ after.liquidityIndex ∧
      divHalfUp (balance * RAY) after.liquidityIndex = reserve.lToken.base.balances user := by
  obtain ⟨listed, owned⟩ := lTokenBalanceOf_ok read
  have grown : RAY ≤ after.liquidityIndex := by
    rw [(income_of_rated computed rated).2]
    exact le_trans (sound.liquidityIndex listed) (ReserveData.le_normalizedIncome _)
  refine ⟨grown, ?_⟩
  rw [owned, ← (income_of_rated computed rated).2]
  exact rayDiv_rayMul grown

end Reserve

namespace LendingPool

variable {env : Env} {pool after : LendingPool} {asset user sender recipient : Address}
variable {balance : Nat}

structure Emptied (env : Env) (pool : LendingPool) (asset user : Address) (after : LendingPool) :
    Prop where
  minted : ∃ accrued, (pool.reserves asset).updateState env.timestamp = .ok accrued ∧
    (after.reserves asset).lToken.scaledBalanceOf user +
      (pool.reserves asset).lToken.scaledBalanceOf user = accrued.lToken.scaledBalanceOf user
  other : user ≠ (pool.reserves asset).lToken.treasury →
    (after.reserves asset).lToken.scaledBalanceOf user = 0
  flag : (after.usersConfig user).isUsingAsCollateral (pool.reserves asset).id = .ok false

theorem withdraw_empties {withdrawn : Nat} (registered : Registered pool)
    (computed : pool.withdraw env user asset maxUint256 recipient = .ok (after, withdrawn)) :
    Emptied env pool asset user after := by
  obtain ⟨off, _⟩ := withdraw_whole registered computed
  obtain ⟨userBalance, accrued, rated, burned, config, sum, run⟩ := withdraw_ok computed
  rw [if_pos rfl] at sum
  subst sum
  obtain ⟨_, _, _, _, rate⟩ := Reserve.updateInterestRates_ok run.rate
  obtain ⟨lToken, _, burn, _, result⟩ := Reserve.burnLToken_ok run.burn
  obtain ⟨_, share⟩ :=
    Reserve.share_of_balance (registered.sound asset) run.balance run.accrue run.rate
  have here : (after.reserves asset).lToken = lToken := by
    rw [run.result, setUserConfig_reserves, setReserve_same, result]
  have same : rated.lToken = accrued.lToken := by rw [rate.result]
  have balances := burn.balances user
  rw [if_pos rfl, share, same] at balances
  have left : (after.reserves asset).lToken.scaledBalanceOf user +
      (pool.reserves asset).lToken.scaledBalanceOf user = accrued.lToken.scaledBalanceOf user := by
    rw [here]
    exact balances
  refine ⟨⟨accrued, run.accrue, left⟩, fun other => ?_, ?_⟩
  · rw [LToken.scaledBalanceOf, LToken.scaledBalanceOf, LToken.scaledBalanceOf,
      Reserve.updateState_balance run.accrue other] at left
    rw [LToken.scaledBalanceOf]
    omega
  · rw [UserConfigurationMap.isUsingAsCollateral_eq_ok]
    exact ⟨registered.id_lt off.listed, off.off⟩

theorem moveLTokens_empties (registered : Registered pool) (different : sender ≠ recipient)
    (read : (pool.reserves asset).lTokenBalanceOf env.timestamp sender = .ok balance)
    (computed : pool.moveLTokens env asset sender recipient balance = .ok after) :
    (after.reserves asset).lToken.scaledBalanceOf sender = 0 ∧
      (after.usersConfig sender).isUsingAsCollateral (pool.reserves asset).id = .ok false := by
  obtain ⟨lToken, fromBefore, toBefore, moved⟩ := moveLTokens_ok computed
  obtain ⟨_, owned⟩ := Reserve.lTokenBalanceOf_ok read
  obtain ⟨index, viewed, transferred⟩ := LToken.transfer_ok moved.transfer
  obtain ⟨rfl, _⟩ := ReserveData.getNormalizedIncome_ok viewed
  have grown := le_trans ((registered.sound asset).liquidityIndex moved.listed)
    ((pool.reserves asset).le_normalizedIncome env.timestamp)
  rcases moved.finalize.result with ⟨same, _⟩ | ⟨_, _, fromConfig, toConfig, sent, _, result⟩
  · exact absurd same different
  constructor
  · have balances := transferred.balances sender
    rw [if_pos rfl, if_neg different, Nat.add_zero, owned, rayDiv_rayMul grown] at balances
    rw [result, setUserConfig_reserves, setUserConfig_reserves, setReserve_same,
      LToken.scaledBalanceOf]
    exact Nat.add_right_cancel (balances.trans (Nat.zero_add _).symm)
  · have whole : fromBefore - balance = 0 := by
      rw [transferred.fromBefore, owned, Nat.sub_self]
    rw [whole, if_pos rfl, setReserve_same] at sent
    obtain ⟨_, _, collateralises⟩ := UserConfigurationMap.setUsingAsCollateral_ok sent
    rw [UserConfigurationMap.isUsingAsCollateral_eq_ok, result, setUserConfig_other different,
      setUserConfig_same, collateralises, if_pos rfl]
    exact ⟨registered.id_lt moved.listed, rfl⟩

structure NoDust (env : Env) (pool : LendingPool) : Prop where
  withdrawal : ∀ asset user recipient after withdrawn,
    pool.withdraw env user asset maxUint256 recipient = .ok (after, withdrawn) →
    Emptied env pool asset user after
  burn : ∀ asset user balance accrued rated,
    (pool.reserves asset).lTokenBalanceOf env.timestamp user = .ok balance →
    (pool.reserves asset).updateState env.timestamp = .ok accrued →
    accrued.updateInterestRates env asset (pool.reserves asset).lTokenAddress 0 balance =
      .ok rated →
    rated.lToken.burn user balance rated.liquidityIndex ≠
      .error "ERC20: burn amount exceeds balance"
  transfer : ∀ asset sender recipient balance after,
    (pool.reserves asset).lTokenBalanceOf env.timestamp sender = .ok balance →
    sender ≠ recipient →
    (pool.transfer env sender asset recipient balance = .ok after ∨
      ∃ msgSender, pool.transferFrom env msgSender asset sender recipient balance = .ok after) →
    (after.reserves asset).lToken.scaledBalanceOf sender = 0 ∧
      (after.usersConfig sender).isUsingAsCollateral (pool.reserves asset).id = .ok false
  move : ∀ asset sender recipient balance index,
    (pool.reserves asset).lTokenBalanceOf env.timestamp sender = .ok balance →
    (pool.reserves asset).getNormalizedIncome env.timestamp = .ok index →
    (pool.reserves asset).lToken.transfer (.ok index) sender recipient balance ≠
      .error "ERC20: transfer amount exceeds balance"

theorem noDust (registered : Registered pool) : NoDust env pool where
  withdrawal _ _ _ _ _ computed := withdraw_empties registered computed
  burn asset user balance accrued rated read accrue rate := by
    obtain ⟨_, _, _, _, rating⟩ := Reserve.updateInterestRates_ok rate
    obtain ⟨grown, share⟩ := Reserve.share_of_balance (registered.sound asset) read accrue rate
    have covered : divHalfUp (balance * RAY) rated.liquidityIndex ≤
        rated.lToken.base.balances user := by
      have same : rated.lToken = accrued.lToken := by rw [rating.result]
      rw [share, same]
      exact Reserve.le_updateState_balance accrue
    intro failed
    exact (LToken.burn_affordable (Nat.pos_iff_ne_zero.1 (Nat.lt_of_lt_of_le RAY_pos grown)) covered
      _ failed).1 rfl
  transfer asset sender recipient balance after read different moved := by
    rcases moved with here | ⟨msgSender, through⟩
    · exact moveLTokens_empties registered different read here
    · simp only [transferFrom, bind_eq_ok] at through
      obtain ⟨between, here, spent⟩ := through
      obtain ⟨_, base, spending, rfl⟩ := updateAllowance_ok spent
      obtain ⟨none, clear⟩ := moveLTokens_empties registered different read here
      have holdings := (ERC20.spendAllowance_holdings spending).balances
      refine ⟨?_, clear⟩
      rw [setReserve_same, LToken.scaledBalanceOf, holdings]
      exact none
  move asset sender recipient balance index read viewed := by
    obtain ⟨listed, owned⟩ := Reserve.lTokenBalanceOf_ok read
    obtain ⟨rfl, _⟩ := ReserveData.getNormalizedIncome_ok viewed
    have grown := le_trans ((registered.sound asset).liquidityIndex listed)
      ((pool.reserves asset).le_normalizedIncome env.timestamp)
    have covered : divHalfUp (balance * RAY) ((pool.reserves asset).normalizedIncome env.timestamp) ≤
        (pool.reserves asset).lToken.base.balances sender := by
      rw [owned, rayDiv_rayMul grown]
    intro failed
    exact (LToken.transfer_affordable (Nat.pos_iff_ne_zero.1 (Nat.lt_of_lt_of_le RAY_pos grown))
      covered _ failed).2 rfl

end LendingPool

namespace World

variable {world : World}

/-- The two roundings cancel at every index from one ray on, and so no reachable reserve keeps dust
of what is withdrawn or sent as a whole. -/
theorem Reachable.no_dust (reached : world.Reachable) :
    (∀ scaled index shown, RAY ≤ index → index ≤ maxUint256 → rayMul scaled index = .ok shown →
      rayDiv shown index = if shown * RAY + index / 2 ≤ maxUint256 then .ok scaled
        else .error Errors.MATH_MULTIPLICATION_OVERFLOW) ∧
    NoDust world.env world.pool :=
  ⟨fun _ _ _ => rayDiv_of_rayMul, noDust reached.registered⟩

def harvested : List Event :=
  Market.opening 10 Market.strategy ++ Market.opening 20 Market.strategy ++
    [.admin 3 (.setReserveFactor 10 1000), .call 100 (.deposit 10 (100 * WAD) 100),
      .call 100 (.deposit 10 WAD 99), .call 101 (.deposit 20 (100 * WAD) 101),
      .call 101 (.borrow 10 (10 * WAD) 2 101), .call 100 (.deposit 10 (7 * WAD) 102),
      .observe (Market.env 31536001 Market.year_in_time)]

theorem no_dust_harvested :
    ∃ (world : World) (after : LendingPool) (withdrawn : Nat),
      Runs.run step Market.start harvested = .ok world ∧
      world.pool.withdraw world.env 102 10 maxUint256 102 = .ok (after, withdrawn) ∧
      7 * WAD < withdrawn ∧ (after.reserves 10).lToken.scaledBalanceOf 102 = 0 ∧
      NoDust world.env world.pool := by
  have outcome : yields (Runs.run step Market.start harvested) (fun world =>
      yields (world.pool.withdraw world.env 102 10 maxUint256 102) (fun withdrawal =>
        7 * WAD < withdrawal.2 ∧ 102 ≠ (world.pool.reserves 10).lToken.treasury)) := by
    decide +kernel
  obtain ⟨world, ran, facts⟩ := yields_iff.1 outcome
  obtain ⟨⟨after, withdrawn⟩, taken, facts⟩ := yields_iff.1 facts
  obtain ⟨earned, other⟩ := of_decide_eq_true facts
  obtain ⟨_, clean⟩ := Reachable.no_dust (Market.reachable_of_run ran)
  exact ⟨world, after, withdrawn, ran, taken, earned,
    (clean.withdrawal 10 102 102 after withdrawn taken).other other, clean⟩

-- A product next to the word size cannot be divided again, and the treasury keeps its share of the
-- interest that its own withdrawal accrues.
theorem dust_harvested :
    (¬∀ scaled index shown, RAY ≤ index → index ≤ maxUint256 →
      rayMul scaled index = .ok shown → rayDiv shown index = .ok scaled) ∧
    ¬∀ (world : World) (user asset recipient : Address) (after : LendingPool) (withdrawn : Nat),
      world.Reachable →
      world.pool.withdraw world.env user asset maxUint256 recipient = .ok (after, withdrawn) →
      (after.reserves asset).lToken.scaledBalanceOf user = 0 := by
  constructor
  · intro every
    have exact := every 1 (maxUint256 - halfRAY) (maxUint256 / RAY) (by decide) (by decide)
      (by decide +kernel)
    revert exact
    decide +kernel
  · intro every
    have outcome : yields (Runs.run step Market.start harvested) (fun world =>
        yields (world.pool.withdraw world.env 99 10 maxUint256 99) (fun withdrawal =>
          (withdrawal.1.reserves 10).lToken.scaledBalanceOf 99 ≠ 0)) := by
      decide +kernel
    obtain ⟨world, ran, facts⟩ := yields_iff.1 outcome
    obtain ⟨⟨after, withdrawn⟩, taken, left⟩ := yields_iff.1 facts
    exact of_decide_eq_true left
      (every world 99 10 99 after withdrawn (Market.reachable_of_run ran) taken)

end World

end PalmyProtocol
