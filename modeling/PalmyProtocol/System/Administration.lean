import PalmyProtocol.System.World

set_option autoImplicit false

namespace PalmyProtocol

open Checked Rounding ReserveConfiguration

namespace ReserveConfigurationMap

structure Admitted (config : ReserveConfigurationMap) : Prop where
  order : config.getLtv ≤ config.getLiquidationThreshold
  bonus : config.getLiquidationThreshold ≠ 0 → PERCENTAGE_FACTOR < config.getLiquidationBonus
  product : config.getLiquidationThreshold ≠ 0 → ∃ product,
    percentMul config.getLiquidationThreshold config.getLiquidationBonus = .ok product ∧
      product ≤ PERCENTAGE_FACTOR
  off : config.getLiquidationThreshold = 0 → config.getLtv = 0 ∧ config.getLiquidationBonus = 0

variable {self : ReserveConfigurationMap}

theorem admitted_zero : Admitted ⟨0⟩ where
  order := by decide
  bonus nonzero := absurd (by decide) nonzero
  product nonzero := absurd (by decide) nonzero
  off := by decide

theorem Admitted.threshold_le (admitted : self.Admitted) :
    self.getLiquidationThreshold ≤ PERCENTAGE_FACTOR := by
  by_cases off : self.getLiquidationThreshold = 0
  · rw [off]
    exact Nat.zero_le _
  · obtain ⟨product, multiplied, bounded⟩ := admitted.product off
    obtain ⟨_, rfl⟩ := percentMul_eq_ok.1 multiplied
    have share : divHalfUp (self.getLiquidationThreshold * PERCENTAGE_FACTOR) PERCENTAGE_FACTOR ≤
        divHalfUp (self.getLiquidationThreshold * self.getLiquidationBonus) PERCENTAGE_FACTOR :=
      divHalfUp_mono (Nat.mul_le_mul_left _ (Nat.le_of_lt (admitted.bonus off))) _
    rw [divHalfUp_mul_right PERCENTAGE_FACTOR_pos] at share
    exact le_trans share bounded

theorem admitted_setField {lane : Lane} {value : Nat} (admitted : self.Admitted)
    (small : value < 2 ^ lane.width) (ltv : lane.Disjoint ltvLane)
    (threshold : lane.Disjoint liquidationThresholdLane)
    (bonus : lane.Disjoint liquidationBonusLane) : (setField lane self value).Admitted := by
  have sameLtv : (setField lane self value).getLtv = self.getLtv :=
    getField_setField_other self small ltv
  have sameThreshold :
      (setField lane self value).getLiquidationThreshold = self.getLiquidationThreshold :=
    getField_setField_other self small threshold
  have sameBonus : (setField lane self value).getLiquidationBonus = self.getLiquidationBonus :=
    getField_setField_other self small bonus
  refine ⟨?_, ?_, ?_, ?_⟩
  · rw [sameLtv, sameThreshold]
    exact admitted.order
  · rw [sameThreshold, sameBonus]
    exact admitted.bonus
  · rw [sameThreshold, sameBonus]
    exact admitted.product
  · rw [sameThreshold, sameBonus, sameLtv]
    exact admitted.off

theorem admitted_setFlag {lane : Lane} {flag : Bool} (admitted : self.Admitted)
    (bit : 0 < lane.width) (ltv : lane.Disjoint ltvLane)
    (threshold : lane.Disjoint liquidationThresholdLane)
    (bonus : lane.Disjoint liquidationBonusLane) : (setFlag lane self flag).Admitted :=
  admitted_setField admitted (flag_small lane bit flag) ltv threshold bonus

theorem admitted_setActive (admitted : self.Admitted) (flag : Bool) :
    (self.setActive flag).Admitted :=
  admitted_setFlag admitted (by decide) (by decide) (by decide) (by decide)

theorem admitted_setFrozen (admitted : self.Admitted) (flag : Bool) :
    (self.setFrozen flag).Admitted :=
  admitted_setFlag admitted (by decide) (by decide) (by decide) (by decide)

theorem admitted_setBorrowingEnabled (admitted : self.Admitted) (flag : Bool) :
    (self.setBorrowingEnabled flag).Admitted :=
  admitted_setFlag admitted (by decide) (by decide) (by decide) (by decide)

theorem admitted_setStableRateBorrowingEnabled (admitted : self.Admitted) (flag : Bool) :
    (self.setStableRateBorrowingEnabled flag).Admitted :=
  admitted_setFlag admitted (by decide) (by decide) (by decide) (by decide)

theorem admitted_setDecimals {decimals : Nat} {config : ReserveConfigurationMap}
    (admitted : self.Admitted) (computed : self.setDecimals decimals = .ok config) :
    config.Admitted := by
  obtain ⟨bound, rfl⟩ := setBounded_ok self computed
  have small : decimals < 2 ^ decimalsLane.width := Nat.lt_of_le_of_lt bound (by decide)
  exact admitted_setField admitted small (by decide) (by decide) (by decide)

theorem admitted_setReserveFactor {reserveFactor : Nat} {config : ReserveConfigurationMap}
    (admitted : self.Admitted) (computed : self.setReserveFactor reserveFactor = .ok config) :
    config.Admitted := by
  obtain ⟨bound, rfl⟩ := setBounded_ok self computed
  have small : reserveFactor < 2 ^ reserveFactorLane.width := Nat.lt_of_le_of_lt bound (by decide)
  exact admitted_setField admitted small (by decide) (by decide) (by decide)

theorem collateral_written {ltv threshold bonus : Nat} {first second third : ReserveConfigurationMap}
    (ltvSet : self.setLtv ltv = .ok first)
    (thresholdSet : first.setLiquidationThreshold threshold = .ok second)
    (bonusSet : second.setLiquidationBonus bonus = .ok third) :
    third.getLtv = ltv ∧ third.getLiquidationThreshold = threshold ∧
      third.getLiquidationBonus = bonus := by
  obtain ⟨ltvBound, rfl⟩ := setBounded_ok self ltvSet
  obtain ⟨thresholdBound, rfl⟩ := setBounded_ok _ thresholdSet
  obtain ⟨bonusBound, rfl⟩ := setBounded_ok _ bonusSet
  have ltvSmall : ltv < 2 ^ ltvLane.width := Nat.lt_of_le_of_lt ltvBound (by decide)
  have thresholdSmall : threshold < 2 ^ liquidationThresholdLane.width :=
    Nat.lt_of_le_of_lt thresholdBound (by decide)
  have bonusSmall : bonus < 2 ^ liquidationBonusLane.width :=
    Nat.lt_of_le_of_lt bonusBound (by decide)
  refine ⟨?_, ?_, ?_⟩
  · rw [getLtv, getField_setField_other _ bonusSmall (by decide),
      getField_setField_other _ thresholdSmall (by decide), getField_setField _ ltvSmall]
  · rw [getLiquidationThreshold, getField_setField_other _ bonusSmall (by decide),
      getField_setField _ thresholdSmall]
  · rw [getLiquidationBonus, getField_setField _ bonusSmall]

end ReserveConfigurationMap

namespace LendingPoolConfigurator

open ReserveConfigurationMap

variable {env : Env} {pool after : LendingPool} {msgSender asset : Address}

theorem setConfiguration_ok {configuration : ReserveConfigurationMap}
    (computed : setConfiguration pool asset configuration = .ok after) :
    after = pool.setReserve asset { pool.reserves asset with configuration } := by
  simp only [setConfiguration, LendingPool.setConfiguration, LendingPool.onlyLendingPoolConfigurator,
    bind_eq_ok, require_eq_ok, exists_const, pure_eq_ok] at computed
  exact computed.2.symm

theorem updateConfiguration_ok
    {change : ReserveConfigurationMap → Result ReserveConfigurationMap}
    (computed : updateConfiguration pool msgSender asset change = .ok after) :
    ∃ configuration, change (pool.reserves asset).configuration = .ok configuration ∧
      after = pool.setReserve asset { pool.reserves asset with configuration } := by
  simp only [updateConfiguration, bind_eq_ok] at computed
  obtain ⟨_, _, configuration, changed, written⟩ := computed
  exact ⟨configuration, changed, setConfiguration_ok written⟩

theorem checkCollateral_ok {ltv threshold bonus : Nat}
    (computed : checkCollateral pool asset ltv threshold bonus = .ok ()) :
    ltv ≤ threshold ∧ (threshold ≠ 0 → PERCENTAGE_FACTOR < bonus ∧
      ∃ product, percentMul threshold bonus = .ok product ∧ product ≤ PERCENTAGE_FACTOR) ∧
      (threshold = 0 → bonus = 0) := by
  simp only [checkCollateral, bind_eq_ok, require_eq_ok, exists_const, ite_eq_ok] at computed
  obtain ⟨order, ⟨on, above, product, computed, below⟩ | ⟨zero, none, _⟩⟩ := computed
  · exact ⟨order, fun _ => ⟨above, product, computed, below⟩, fun zero => absurd zero on⟩
  · exact ⟨order, fun nonzero => absurd nonzero zero, fun _ => none⟩

end LendingPoolConfigurator

inductive Administered (env : Env) (pool : LendingPool) : LendingPool → Prop where
  | listed {input : List InitReserveInput} {after : LendingPool}
      (computed : input.foldlM (LendingPoolConfigurator.initReserve env) pool = .ok after) :
      Administered env pool after
  | configured {asset : Address} {configuration : ReserveConfigurationMap}
      (admitted : (pool.reserves asset).configuration.Admitted → configuration.Admitted) :
      Administered env pool
        (pool.setReserve asset { pool.reserves asset with configuration })
  | chosen (asset : Address)
      (interestRateStrategyAddress : Option DefaultReserveInterestRateStrategy) :
      Administered env pool
        (pool.setReserve asset { pool.reserves asset with interestRateStrategyAddress })
  | paused (paused : Bool) : Administered env pool { pool with paused }

open LendingPoolConfigurator ReserveConfigurationMap in
theorem AdminCall.execute_administers {env : Env} {pool after : LendingPool} {msgSender : Address}
    {call : AdminCall} (computed : call.execute env pool msgSender = .ok after) :
    Administered env pool after := by
  cases call with
  | batchInitReserve input =>
      simp only [AdminCall.execute, LendingPoolConfigurator.batchInitReserve,
        bind_eq_ok] at computed
      obtain ⟨_, _, listed⟩ := computed
      exact .listed listed
  | enableBorrowingOnReserve =>
      simp only [AdminCall.execute] at computed
      obtain ⟨_, changed, rfl⟩ := updateConfiguration_ok computed
      cases changed
      exact .configured fun admitted =>
        admitted_setStableRateBorrowingEnabled (admitted_setBorrowingEnabled admitted _) _
  | disableBorrowingOnReserve =>
      simp only [AdminCall.execute] at computed
      obtain ⟨_, changed, rfl⟩ := updateConfiguration_ok computed
      cases changed
      exact .configured fun admitted => admitted_setBorrowingEnabled admitted _
  | configureReserveAsCollateral =>
      simp only [AdminCall.execute] at computed
      obtain ⟨configuration, changed, rfl⟩ := updateConfiguration_ok computed
      simp only [bind_eq_ok] at changed
      obtain ⟨_, checked, first, ltvSet, second, thresholdSet, bonusSet⟩ := changed
      obtain ⟨order, sound, off⟩ := checkCollateral_ok checked
      obtain ⟨ltv, threshold, bonus⟩ := collateral_written ltvSet thresholdSet bonusSet
      refine .configured fun _ => ⟨?_, ?_, ?_, ?_⟩
      · rwa [ltv, threshold]
      · rw [threshold, bonus]
        exact fun nonzero => (sound nonzero).1
      · rw [threshold, bonus]
        exact fun nonzero => (sound nonzero).2
      · rw [threshold, bonus, ltv]
        exact fun zero => ⟨by omega, off zero⟩
  | enableReserveStableRate | disableReserveStableRate =>
      simp only [AdminCall.execute] at computed
      obtain ⟨_, changed, rfl⟩ := updateConfiguration_ok computed
      cases changed
      exact .configured fun admitted => admitted_setStableRateBorrowingEnabled admitted _
  | activateReserve =>
      simp only [AdminCall.execute] at computed
      obtain ⟨_, changed, rfl⟩ := updateConfiguration_ok computed
      cases changed
      exact .configured fun admitted => admitted_setActive admitted _
  | deactivateReserve =>
      simp only [AdminCall.execute] at computed
      obtain ⟨_, changed, rfl⟩ := updateConfiguration_ok computed
      simp only [bind_eq_ok, pure_eq_ok] at changed
      obtain ⟨_, _, rfl⟩ := changed
      exact .configured fun admitted => admitted_setActive admitted _
  | freezeReserve | unfreezeReserve =>
      simp only [AdminCall.execute] at computed
      obtain ⟨_, changed, rfl⟩ := updateConfiguration_ok computed
      cases changed
      exact .configured fun admitted => admitted_setFrozen admitted _
  | setReserveFactor =>
      simp only [AdminCall.execute] at computed
      obtain ⟨_, changed, rfl⟩ := updateConfiguration_ok computed
      exact .configured fun admitted => admitted_setReserveFactor admitted changed
  | setReserveInterestRateStrategyAddress asset strategy =>
      simp only [AdminCall.execute, LendingPoolConfigurator.setReserveInterestRateStrategyAddress,
        LendingPool.setReserveInterestRateStrategyAddress,
        LendingPool.onlyLendingPoolConfigurator, bind_eq_ok, require_eq_ok, exists_const,
        pure_eq_ok] at computed
      obtain ⟨_, _, _, rfl⟩ := computed
      exact .chosen asset strategy
  | setPoolPause val =>
      simp only [AdminCall.execute, LendingPoolConfigurator.setPoolPause, LendingPool.setPause,
        LendingPool.onlyLendingPoolConfigurator, bind_eq_ok, require_eq_ok, exists_const,
        pure_eq_ok] at computed
      obtain ⟨_, _, _, rfl⟩ := computed
      exact .paused val

end PalmyProtocol
