import PalmyProtocol.System.World

set_option autoImplicit false

namespace PalmyProtocol

open Checked Rounding

-- No wrapped power of ten is as small as a percentage of a word: 117 decimals come closest.
theorem wrapped_units : ∀ decimals < 256, 78 ≤ decimals →
    maxUint256 / PERCENTAGE_FACTOR < tokenUnit decimals := by decide +kernel

theorem tokenUnit_wrapped {decimals : Nat} (many : 78 ≤ decimals) :
    tokenUnit decimals = 0 ∨ maxUint256 / PERCENTAGE_FACTOR < tokenUnit decimals := by
  by_cases word : decimals < 256
  · exact .inr (wrapped_units decimals word many)
  · left
    have split : decimals = 256 + (decimals - 256) := by omega
    have divides : (2 : Nat) ^ 256 ∣ 10 ^ decimals := by
      rw [split, Nat.pow_add]
      exact Dvd.dvd.mul_right (by decide) _
    exact Nat.mod_eq_zero_of_dvd divides

namespace LendingPoolCollateralManager

variable {price price' unit unit' bonus amount balance : Nat}

-- What the debt is worth in collateral: a product rounded by half a percent of a unit, floored.
def worthInCollateral (price price' unit unit' bonus amount : Nat) : Nat :=
  divHalfUp (price' * amount * unit * bonus) PERCENTAGE_FACTOR / (price * unit')

theorem worthInCollateral_bound :
    PERCENTAGE_FACTOR * (worthInCollateral price price' unit unit' bonus amount *
      (price * unit')) ≤ amount * bonus * (price' * unit) + HALF_PERCENT := by
  have product : price' * amount * unit * bonus = amount * bonus * (price' * unit) := by ring
  have rounded := divHalfUp_upper (n := price' * amount * unit * bonus) PERCENTAGE_FACTOR_pos
  have half : PERCENTAGE_FACTOR = 2 * HALF_PERCENT := rfl
  rw [worthInCollateral]
  generalize divHalfUp (price' * amount * unit * bonus) PERCENTAGE_FACTOR = worth at *
  have floor := Nat.mul_le_mul_left PERCENTAGE_FACTOR (Nat.div_mul_le_self worth (price * unit'))
  omega

-- The debt that pays for a balance is rounded up by less than a percentage of the bonus and a unit.
theorem debtNeeded_bound (bonus_pos : 0 < bonus) (unit_pos : 0 < price' * unit) :
    PERCENTAGE_FACTOR * (price * balance * unit') ≤
      (divHalfUp (price * balance * unit' / (price' * unit) * PERCENTAGE_FACTOR) bonus * bonus +
        PERCENTAGE_FACTOR + bonus) * (price' * unit) := by
  have floor := Nat.lt_mul_div_succ (price * balance * unit') unit_pos
  generalize price * balance * unit' / (price' * unit) = worth at *
  have rounded := divHalfUp_lower (n := worth * PERCENTAGE_FACTOR) bonus_pos
  generalize divHalfUp (worth * PERCENTAGE_FACTOR) bonus = debt at *
  have exact : worth * PERCENTAGE_FACTOR ≤ debt * bonus + bonus := by
    rw [Nat.mul_comm bonus debt] at rounded
    omega
  have scaled := Nat.mul_le_mul_right (price' * unit) exact
  generalize price' * unit = denominator at *
  nlinarith

variable {env : Env} {pool : LendingPool} {collateralReserve debtReserve : Reserve}
  {collateralAsset debtAsset : Address} {debtToCover collateral needed : Nat}

def settleAmounts (env : Env) (collateralReserve debtReserve : Reserve)
    (collateralAsset debtAsset : Address)
    (userStableDebt userVariableDebt userCollateralBalance debtToCover : Nat) :
    Result (Nat × Nat) := do
  let userDebt ← SafeMath.add userStableDebt userVariableDebt
  let maxLiquidatableDebt ← percentMul userDebt LIQUIDATION_CLOSE_FACTOR_PERCENT
  let requestedDebt := min debtToCover maxLiquidatableDebt
  let (maxCollateralToLiquidate, debtAmountNeeded) ← calculateAvailableCollateralToLiquidate env
    collateralReserve debtReserve collateralAsset debtAsset requestedDebt userCollateralBalance
  pure (maxCollateralToLiquidate, min debtAmountNeeded requestedDebt)

structure Exchanged (price price' unit unit' bonus debtToCover balance collateral needed : Nat) :
    Prop where
  priced : 0 < price * unit'
  small : worthInCollateral price price' unit unit' bonus debtToCover * (price * unit') ≤
    maxUint256 / PERCENTAGE_FACTOR
  branch : (worthInCollateral price price' unit unit' bonus debtToCover ≤ balance ∧
      collateral = worthInCollateral price price' unit unit' bonus debtToCover ∧
      needed = debtToCover) ∨
    (balance < worthInCollateral price price' unit unit' bonus debtToCover ∧
      collateral = balance ∧ 0 < bonus ∧ 0 < price' * unit ∧
      needed = divHalfUp (price * balance * unit' / (price' * unit) * PERCENTAGE_FACTOR) bonus)

theorem calculateAvailableCollateralToLiquidate_ok
    (read : env.getAssetPrice collateralAsset = .ok price)
    (read' : env.getAssetPrice debtAsset = .ok price')
    (computed : calculateAvailableCollateralToLiquidate env collateralReserve debtReserve
      collateralAsset debtAsset debtToCover balance = .ok (collateral, needed)) :
    Exchanged price price' (tokenUnit collateralReserve.configuration.getDecimals)
      (tokenUnit debtReserve.configuration.getDecimals)
      collateralReserve.configuration.getLiquidationBonus debtToCover balance collateral
      needed := by
  simp only [calculateAvailableCollateralToLiquidate, read, read', ok_bind, bind_eq_ok,
    SafeMath.mul_eq_ok, SafeMath.div_eq_ok, percentMul_eq_ok, ite_eq_ok, pure_eq_ok,
    Prod.mk.injEq] at computed
  obtain ⟨_, ⟨_, rfl⟩, _, ⟨_, rfl⟩, _, ⟨fits, rfl⟩, _, ⟨_, rfl⟩, _, ⟨priced, rfl⟩, branch⟩ :=
    computed
  have small : divHalfUp (price' * debtToCover *
      tokenUnit collateralReserve.configuration.getDecimals *
      collateralReserve.configuration.getLiquidationBonus) PERCENTAGE_FACTOR ≤
        maxUint256 / PERCENTAGE_FACTOR := Nat.div_le_div_right fits
  refine ⟨priced, le_trans (Nat.div_mul_le_self _ _) small, ?_⟩
  rcases branch with ⟨short, _, ⟨_, rfl⟩, _, ⟨_, rfl⟩, _, ⟨_, rfl⟩, _, ⟨unit_pos, rfl⟩, _, divided,
    rfl, rfl⟩ | ⟨enough, rfl, rfl⟩
  · obtain ⟨bonus_ne, rfl⟩ := percentDiv_ok divided
    exact .inr ⟨short, rfl, Nat.pos_of_ne_zero bonus_ne, unit_pos, rfl⟩
  · exact .inl ⟨Nat.le_of_not_lt enough, rfl, rfl⟩

variable {decimals' : Nat}

theorem Exchanged.collateral_le
    (exchanged : Exchanged price price' unit unit' bonus debtToCover balance collateral needed) :
    collateral ≤ balance ∧
      collateral ≤ worthInCollateral price price' unit unit' bonus debtToCover := by
  rcases exchanged.branch with ⟨enough, rfl, _⟩ | ⟨short, rfl, _⟩
  · exact ⟨enough, Nat.le_refl _⟩
  · exact ⟨Nat.le_refl _, Nat.le_of_lt short⟩

theorem Exchanged.unit_exact
    (exchanged : Exchanged price price' unit (tokenUnit decimals') bonus debtToCover balance
      collateral needed) (seizes : collateral ≠ 0) : tokenUnit decimals' = 10 ^ decimals' := by
  by_contra wrapped
  have many : 78 ≤ decimals' := by
    by_contra few
    exact wrapped (tokenUnit_exact (by omega))
  have priced := exchanged.priced
  have small := exchanged.small
  have worth_pos : 1 ≤ worthInCollateral price price' unit (tokenUnit decimals') bonus
      debtToCover := le_trans (Nat.pos_of_ne_zero seizes) exchanged.collateral_le.2
  have price_pos : 1 ≤ price := Nat.pos_of_mul_pos_right priced
  rcases tokenUnit_wrapped many with zero | large
  · rw [zero, Nat.mul_zero] at priced
    omega
  · have single := Nat.mul_le_mul worth_pos (Nat.mul_le_mul_right (tokenUnit decimals') price_pos)
    omega

theorem unit_pos_of_worth
    (worth : worthInCollateral price price' unit unit' bonus amount ≠ 0) : 0 < price' * unit := by
  by_contra none
  have product : price' * unit = 0 := by omega
  apply worth
  rw [worthInCollateral, Nat.mul_right_comm price' amount unit, product, Nat.zero_mul, Nat.zero_mul,
    divHalfUp_zero, Nat.zero_div]

theorem Exchanged.bound
    (exchanged : Exchanged price price' unit unit' bonus debtToCover balance collateral needed)
    (seizes : collateral ≠ 0) :
    PERCENTAGE_FACTOR * (collateral * (price * unit')) ≤
      (min needed debtToCover * bonus + PERCENTAGE_FACTOR + bonus) * (price' * unit) := by
  have limited := exchanged.collateral_le.2
  have worth : worthInCollateral price price' unit unit' bonus debtToCover ≠ 0 := by omega
  have unit_pos := unit_pos_of_worth worth
  -- Whatever is seized is covered by the debt that was asked for.
  have covered : PERCENTAGE_FACTOR * (collateral * (price * unit')) ≤
      debtToCover * bonus * (price' * unit) + HALF_PERCENT :=
    le_trans (Nat.mul_le_mul_left _ (Nat.mul_le_mul_right _ limited)) worthInCollateral_bound
  have half : HALF_PERCENT ≤ PERCENTAGE_FACTOR * (price' * unit) :=
    le_trans (by decide) (Nat.le_mul_of_pos_right PERCENTAGE_FACTOR unit_pos)
  have asked : PERCENTAGE_FACTOR * (collateral * (price * unit')) ≤
      (debtToCover * bonus + PERCENTAGE_FACTOR + bonus) * (price' * unit) := by
    rw [Nat.add_mul, Nat.add_mul]
    omega
  rcases exchanged.branch with ⟨_, _, rfl⟩ | ⟨_, rfl, bonus_pos, _, rfl⟩
  · rw [Nat.min_self]
    exact asked
  · rcases Nat.le_total (divHalfUp (price * collateral * unit' / (price' * unit) *
      PERCENTAGE_FACTOR) bonus) debtToCover with less | more
    · rw [Nat.min_eq_left less, ← Nat.mul_assoc collateral, Nat.mul_comm collateral price]
      exact debtNeeded_bound bonus_pos unit_pos
    · rw [Nat.min_eq_right more]
      exact asked

structure Bounded (price price' decimals decimals' bonus userStableDebt userVariableDebt
    userCollateralBalance debtToCover collateral actual : Nat) : Prop where
  held : collateral ≤ userCollateralBalance
  requested : actual ≤ debtToCover
  closeFactor : actual ≤ (userStableDebt + userVariableDebt + 1) / 2
  stablePart : userVariableDebt < actual → actual - userVariableDebt ≤ userStableDebt
  worth : collateral * price * 10 ^ decimals' * 10 ^ 4 ≤
    (actual * bonus + 10 ^ 4 + bonus) * price' * 10 ^ decimals

theorem Exchanged.worth {decimals : Nat}
    (exchanged : Exchanged price price' (tokenUnit decimals) (tokenUnit decimals') bonus
      debtToCover balance collateral needed) :
    collateral * price * 10 ^ decimals' * 10 ^ 4 ≤
      (min needed debtToCover * bonus + 10 ^ 4 + bonus) * price' * 10 ^ decimals := by
  by_cases seizes : collateral = 0
  · rw [seizes, Nat.zero_mul, Nat.zero_mul, Nat.zero_mul]
    exact Nat.zero_le _
  · have bound := exchanged.bound seizes
    rw [exchanged.unit_exact seizes] at bound
    have unwrapped := Nat.mul_le_mul_left
      (min needed debtToCover * bonus + PERCENTAGE_FACTOR + bonus)
      (Nat.mul_le_mul_left price' (tokenUnit_le decimals))
    calc collateral * price * 10 ^ decimals' * 10 ^ 4
        = PERCENTAGE_FACTOR * (collateral * (price * 10 ^ decimals')) := by
          rw [show PERCENTAGE_FACTOR = 10 ^ 4 from rfl]
          ring
      _ ≤ _ := bound
      _ ≤ _ := unwrapped
      _ = _ := by
          rw [show PERCENTAGE_FACTOR = 10 ^ 4 from rfl]
          ring

variable {userStableDebt userVariableDebt actual : Nat}

theorem closeFactor_le : divHalfUp ((userStableDebt + userVariableDebt) *
    LIQUIDATION_CLOSE_FACTOR_PERCENT) PERCENTAGE_FACTOR =
      (userStableDebt + userVariableDebt + 1) / 2 := by
  simp only [divHalfUp, LIQUIDATION_CLOSE_FACTOR_PERCENT, PERCENTAGE_FACTOR]
  omega

theorem exchange_bounded
    (read : env.getAssetPrice collateralAsset = .ok price)
    (read' : env.getAssetPrice debtAsset = .ok price')
    (exchange : calculateAvailableCollateralToLiquidate env collateralReserve debtReserve
      collateralAsset debtAsset (min debtToCover (divHalfUp ((userStableDebt + userVariableDebt) *
        LIQUIDATION_CLOSE_FACTOR_PERCENT) PERCENTAGE_FACTOR)) balance = .ok (collateral, needed)) :
    Bounded price price' collateralReserve.configuration.getDecimals
      debtReserve.configuration.getDecimals collateralReserve.configuration.getLiquidationBonus
      userStableDebt userVariableDebt balance debtToCover collateral
      (min needed (min debtToCover (divHalfUp ((userStableDebt + userVariableDebt) *
        LIQUIDATION_CLOSE_FACTOR_PERCENT) PERCENTAGE_FACTOR))) := by
  have exchanged := calculateAvailableCollateralToLiquidate_ok read read' exchange
  have limited := exchanged.collateral_le.1
  have worth := exchanged.worth
  rw [closeFactor_le] at worth ⊢
  exact ⟨limited, by omega, by omega, by omega, worth⟩

/-- Whatever a user owes and holds and whatever is asked for, the amounts a liquidation settles on
take no more than the balance, repay no more than was asked and half of the debt, and seize no more
than the repaid debt with its bonus is worth, but for the rounding. -/
theorem never_over_seizes
    (read : env.getAssetPrice collateralAsset = .ok price)
    (read' : env.getAssetPrice debtAsset = .ok price') :
    (∀ collateralReserve debtReserve userStableDebt userVariableDebt userCollateralBalance
      debtToCover collateral actual,
      settleAmounts env collateralReserve debtReserve collateralAsset debtAsset userStableDebt
        userVariableDebt userCollateralBalance debtToCover = .ok (collateral, actual) →
      Bounded price price' collateralReserve.configuration.getDecimals
        debtReserve.configuration.getDecimals collateralReserve.configuration.getLiquidationBonus
        userStableDebt userVariableDebt userCollateralBalance debtToCover collateral actual) ∧
    ∀ (pool after : LendingPool) msgSender user debtToCover receiveLToken,
      pool.liquidationCall env msgSender collateralAsset debtAsset user debtToCover
        receiveLToken = .ok after →
      ∃ userStableDebt userVariableDebt userCollateralBalance collateral actual,
        (pool.reserves debtAsset).getUserCurrentDebt env.timestamp user =
          .ok (userStableDebt, userVariableDebt) ∧
        (pool.reserves collateralAsset).lTokenBalanceOf env.timestamp user =
          .ok userCollateralBalance ∧
        executeLiquidation env pool msgSender collateralAsset debtAsset user actual
          userVariableDebt collateral userCollateralBalance receiveLToken = .ok after ∧
        Bounded price price' (pool.reserves collateralAsset).configuration.getDecimals
          (pool.reserves debtAsset).configuration.getDecimals
          (pool.reserves collateralAsset).configuration.getLiquidationBonus
          userStableDebt userVariableDebt userCollateralBalance debtToCover collateral actual := by
  constructor
  · intro _ _ userStableDebt userVariableDebt userCollateralBalance debtToCover _ _ settled
    simp only [settleAmounts, bind_eq_ok, SafeMath.add_eq_ok, percentMul_eq_ok, Prod.exists,
      pure_eq_ok, Prod.mk.injEq] at settled
    obtain ⟨_, ⟨_, rfl⟩, _, ⟨_, rfl⟩, _, needed, exchange, rfl, rfl⟩ := settled
    exact exchange_bounded read read' exchange
  · intro pool after msgSender user debtToCover receiveLToken computed
    obtain ⟨_, _, userStableDebt, userVariableDebt, collateral, balance, _, liquidated⟩ :=
      LendingPool.liquidationCall_ok computed
    exact ⟨userStableDebt, userVariableDebt, balance, collateral, _, liquidated.debts,
      liquidated.balance, liquidated.execute, exchange_bounded read read' liquidated.amounts⟩

-- A debt of 101 against a balance of 30: the balance runs out, and 29 are repaid for it.
theorem never_over_seizes_exhausted : ∃ world,
    Runs.run World.step Market.start (Market.opening 10 Market.strategy) = .ok world ∧
      settleAmounts world.env (world.pool.reserves 10) (world.pool.reserves 10) 10 10 30 71 30 60 =
        .ok (30, 29) ∧
      Bounded WAD WAD 18 18 10500 30 71 30 60 30 29 := by
  have outcome : Checked.yields (Runs.run World.step Market.start
      (Market.opening 10 Market.strategy)) (fun world =>
        decide (world.env.getAssetPrice 10 = .ok WAD) &&
        (decide ((world.pool.reserves 10).configuration.getDecimals = 18 ∧
          (world.pool.reserves 10).configuration.getLiquidationBonus = 10500) &&
        decide (settleAmounts world.env (world.pool.reserves 10) (world.pool.reserves 10) 10 10 30 71
          30 60 = .ok (30, 29)))) := by decide +kernel
  obtain ⟨world, ran, facts⟩ := Checked.yields_iff.1 outcome
  simp only [Bool.and_eq_true, decide_eq_true_eq] at facts
  obtain ⟨read, ⟨decimals, bonus⟩, settled⟩ := facts
  have bounded := (never_over_seizes read read).1 _ _ _ _ _ _ _ _ settled
  rw [decimals, bonus] at bounded
  exact ⟨world, ran, settled, bounded⟩

end LendingPoolCollateralManager

end PalmyProtocol
