import PalmyProtocol.System.WorldSteps

set_option autoImplicit false

namespace PalmyProtocol

open Checked Rounding

def Reserve.reconfigure (change : ReserveConfigurationMap → ReserveConfigurationMap)
    (reserve : Reserve) : Reserve :=
  { reserve with configuration := change reserve.configuration }

def LendingPool.reconfigure
    (change : Address → ReserveConfigurationMap → ReserveConfigurationMap) (pool : LendingPool) :
    LendingPool :=
  { pool with reserves := fun asset => (pool.reserves asset).reconfigure (change asset) }

def FreezesOnly (change : ReserveConfigurationMap → ReserveConfigurationMap) : Prop :=
  ∀ config, ReserveConfigurationMap.Rewrites [.frozen] config (change config)

namespace FreezesOnly

open ReserveConfiguration

variable {change : ReserveConfigurationMap → ReserveConfigurationMap} (freezes : FreezesOnly change)
  (config : ReserveConfigurationMap)

include freezes

theorem getLtv : (change config).getLtv = config.getLtv := freezes config .ltv (by decide)

theorem getLiquidationThreshold :
    (change config).getLiquidationThreshold = config.getLiquidationThreshold :=
  freezes config .liquidationThreshold (by decide)

theorem getLiquidationBonus : (change config).getLiquidationBonus = config.getLiquidationBonus :=
  freezes config .liquidationBonus (by decide)

theorem getDecimals : (change config).getDecimals = config.getDecimals :=
  freezes config .decimals (by decide)

theorem getReserveFactor : (change config).getReserveFactor = config.getReserveFactor :=
  freezes config .reserveFactor (by decide)

theorem getActive : (change config).getActive = config.getActive := by
  have same := freezes config .active (by decide)
  rw [ReserveConfigurationMap.getActive, ReserveConfigurationMap.getActive, getFlag_getField,
    getFlag_getField]
  exact congrArg (· != 0) same

end FreezesOnly

namespace Reserve

variable {change : ReserveConfigurationMap → ReserveConfigurationMap} (freezes : FreezesOnly change)
  (reserve : Reserve)

theorem updateIndexes_reconfigure (now scaledVariableDebt : Nat) :
    (reserve.reconfigure change).toReserveData.updateIndexes now scaledVariableDebt =
      (fun (liquidity, floating, data) =>
        (liquidity, floating, { data with configuration := change data.configuration })) <$>
      reserve.toReserveData.updateIndexes now scaledVariableDebt := by
  simp only [ReserveData.updateIndexes, map_bind]
  rfl

include freezes in
theorem mintToTreasury_reconfigure (now scaled previous liquidity floating timestamp : Nat) :
    (reserve.reconfigure change).mintToTreasury now scaled previous liquidity floating timestamp =
      reserve.mintToTreasury now scaled previous liquidity floating timestamp := by
  simp only [mintToTreasury, reconfigure, freezes.getReserveFactor]
  rfl

include freezes in
theorem updateState_reconfigure (now : Nat) :
    (reserve.reconfigure change).updateState now =
      reconfigure change <$> reserve.updateState now := by
  simp only [updateState, updateIndexes_reconfigure, mintToTreasury_reconfigure freezes, map_bind,
    bind_map_left, map_pure]
  rfl

include freezes in
theorem updateInterestRates_reconfigure (env : Env) (asset lTokenAddress : Address)
    (added taken : Nat) :
    (reserve.reconfigure change).updateInterestRates env asset lTokenAddress added taken =
      reconfigure change <$> reserve.updateInterestRates env asset lTokenAddress added taken := by
  simp only [updateInterestRates, reconfigure, freezes.getReserveFactor, map_bind]
  cases reserve.interestRateStrategyAddress with
  | none => rfl
  | some strategy =>
      simp only [map_bind, map_pure]
      rfl

theorem burnLToken_reconfigure (user receiver : Address) (amount : Nat) :
    (reserve.reconfigure change).burnLToken user receiver amount =
      reconfigure change <$> reserve.burnLToken user receiver amount := by
  simp only [burnLToken, map_bind, map_pure]
  rfl

theorem burnStableDebt_reconfigure (now : Nat) (user : Address) (amount : Nat) :
    (reserve.reconfigure change).burnStableDebt now user amount =
      reconfigure change <$> reserve.burnStableDebt now user amount := by
  simp only [burnStableDebt, map_bind, map_pure]
  rfl

theorem burnVariableDebt_reconfigure (user : Address) (amount : Nat) :
    (reserve.reconfigure change).burnVariableDebt user amount =
      reconfigure change <$> reserve.burnVariableDebt user amount := by
  simp only [burnVariableDebt, map_bind, map_pure]
  rfl

theorem availableLiquidity_reconfigure :
    (reserve.reconfigure change).availableLiquidity = reserve.availableLiquidity := rfl

theorem transferUnderlyingFrom_reconfigure (spender sender recipient : Address) (amount : Nat) :
    (reserve.reconfigure change).transferUnderlyingFrom spender sender recipient amount =
      reconfigure change <$> reserve.transferUnderlyingFrom spender sender recipient amount := by
  simp only [transferUnderlyingFrom, map_bind, map_pure]
  rfl

end Reserve

variable {change : Address → ReserveConfigurationMap → ReserveConfigurationMap}
  (freezes : ∀ asset, FreezesOnly (change asset)) (env : Env) (pool : LendingPool)

namespace LendingPool

theorem setReserve_reconfigure (asset : Address) (reserve : Reserve) :
    (pool.reconfigure change).setReserve asset (reserve.reconfigure (change asset)) =
      (pool.setReserve asset reserve).reconfigure change := by
  simp only [setReserve, reconfigure, LendingPool.mk.injEq, true_and, and_true]
  funext other
  by_cases same : other = asset
  · subst same
    simp
  · simp [same]

end LendingPool

namespace GenericLogic

include freezes

theorem addCollateral_reconfigure (user asset : Address) (totals : UserAccountTotals) :
    addCollateral env (pool.reconfigure change) user asset totals =
      addCollateral env pool user asset totals := by
  simp only [addCollateral, LendingPool.reconfigure, Reserve.reconfigure,
    (freezes asset).getDecimals, (freezes asset).getLtv, (freezes asset).getLiquidationThreshold]
  rfl

theorem addDebt_reconfigure (user asset : Address) (totals : UserAccountTotals) :
    addDebt env (pool.reconfigure change) user asset totals = addDebt env pool user asset totals := by
  simp only [addDebt, LendingPool.reconfigure, Reserve.reconfigure, (freezes asset).getDecimals]
  rfl

theorem addReserve_reconfigure (user : Address) (userConfig : UserConfigurationMap) :
    addReserve env (pool.reconfigure change) user userConfig =
      addReserve env pool user userConfig := by
  funext totals i
  simp only [addReserve, addCollateral_reconfigure freezes, addDebt_reconfigure freezes]
  simp only [LendingPool.reconfigure, Reserve.reconfigure,
    (freezes (pool.reservesList i)).getLiquidationThreshold]

theorem calculateUserAccountData_reconfigure (user : Address) (userConfig : UserConfigurationMap) :
    calculateUserAccountData env (pool.reconfigure change) user userConfig =
      calculateUserAccountData env pool user userConfig := by
  simp only [calculateUserAccountData, addReserve_reconfigure freezes]
  rfl

theorem balanceDecreaseAllowed_reconfigure (asset user : Address) (amount : Nat)
    (userConfig : UserConfigurationMap) :
    balanceDecreaseAllowed env (pool.reconfigure change) asset user amount userConfig =
      balanceDecreaseAllowed env pool asset user amount userConfig := by
  simp only [balanceDecreaseAllowed, calculateUserAccountData_reconfigure freezes]
  simp only [LendingPool.reconfigure, Reserve.reconfigure, (freezes asset).getDecimals,
    (freezes asset).getLiquidationThreshold]

end GenericLogic

namespace ValidationLogic

include freezes

theorem validateWithdraw_reconfigure (msgSender reserveAddress : Address)
    (amount userBalance : Nat) :
    validateWithdraw env (pool.reconfigure change) msgSender reserveAddress amount userBalance =
      validateWithdraw env pool msgSender reserveAddress amount userBalance := by
  simp only [validateWithdraw, GenericLogic.balanceDecreaseAllowed_reconfigure freezes]
  simp only [LendingPool.reconfigure, Reserve.reconfigure, (freezes reserveAddress).getActive]

theorem validateRepay_reconfigure (asset : Address) (reserve : Reserve) (msgSender : Address)
    (amountSent : Nat) (rateMode : InterestRateMode) (onBehalfOf : Address)
    (stableDebt variableDebt : Nat) :
    validateRepay (reserve.reconfigure (change asset)) msgSender amountSent rateMode onBehalfOf
        stableDebt variableDebt =
      validateRepay reserve msgSender amountSent rateMode onBehalfOf stableDebt variableDebt := by
  simp only [validateRepay, Reserve.reconfigure, (freezes asset).getActive]

theorem validateLiquidationCall_reconfigure (collateralAsset debtAsset : Address)
    (collateralReserve principalReserve : Reserve) (userConfig : UserConfigurationMap)
    (userHealthFactor userStableDebt userVariableDebt : Nat) :
    validateLiquidationCall (collateralReserve.reconfigure (change collateralAsset))
        (principalReserve.reconfigure (change debtAsset)) userConfig userHealthFactor
        userStableDebt userVariableDebt =
      validateLiquidationCall collateralReserve principalReserve userConfig userHealthFactor
        userStableDebt userVariableDebt := by
  simp only [validateLiquidationCall, Reserve.reconfigure, (freezes collateralAsset).getActive,
    (freezes debtAsset).getActive, (freezes collateralAsset).getLiquidationThreshold]

end ValidationLogic

namespace LendingPoolCollateralManager

include freezes

theorem calculateAvailableCollateralToLiquidate_reconfigure (collateralReserve debtReserve : Reserve)
    (collateralAsset debtAsset : Address) (debtToCover userCollateralBalance : Nat) :
    calculateAvailableCollateralToLiquidate env
        (collateralReserve.reconfigure (change collateralAsset))
        (debtReserve.reconfigure (change debtAsset)) collateralAsset debtAsset debtToCover
        userCollateralBalance =
      calculateAvailableCollateralToLiquidate env collateralReserve debtReserve collateralAsset
        debtAsset debtToCover userCollateralBalance := by
  simp only [calculateAvailableCollateralToLiquidate, Reserve.reconfigure,
    (freezes collateralAsset).getLiquidationBonus, (freezes collateralAsset).getDecimals,
    (freezes debtAsset).getDecimals]

omit freezes in
theorem burnDebt_reconfigure (asset : Address) (reserve : Reserve) (user : Address)
    (actual userVariableDebt : Nat) :
    burnDebt env (reserve.reconfigure (change asset)) user actual userVariableDebt =
      Reserve.reconfigure (change asset) <$>
        burnDebt env reserve user actual userVariableDebt := by
  simp only [burnDebt]
  split_ifs
  · exact Reserve.burnVariableDebt_reconfigure ..
  · simp only [Reserve.burnVariableDebt_reconfigure, Reserve.burnStableDebt_reconfigure,
      bind_map_left, map_bind]
  · simp only [Reserve.burnStableDebt_reconfigure, pure_bind, map_bind]

theorem repayDebt_reconfigure (debtAsset user : Address) (actual userVariableDebt : Nat) :
    repayDebt env (pool.reconfigure change) debtAsset user actual userVariableDebt =
      LendingPool.reconfigure change <$>
        repayDebt env pool debtAsset user actual userVariableDebt := by
  have reserve : (pool.reconfigure change).reserves debtAsset =
      (pool.reserves debtAsset).reconfigure (change debtAsset) := rfl
  simp only [repayDebt, reserve, Reserve.updateState_reconfigure (freezes debtAsset),
    burnDebt_reconfigure, Reserve.updateInterestRates_reconfigure (freezes debtAsset),
    bind_map_left, map_bind, map_pure, ← LendingPool.setReserve_reconfigure]
  rfl

omit freezes in
theorem seizeLTokens_reconfigure (msgSender collateralAsset user : Address) (amount : Nat) :
    seizeLTokens env (pool.reconfigure change) msgSender collateralAsset user amount =
      LendingPool.reconfigure change <$>
        seizeLTokens env pool msgSender collateralAsset user amount := by
  have moved (lToken : LToken) :
      { (pool.reconfigure change).reserves collateralAsset with lToken } =
        Reserve.reconfigure (change collateralAsset)
          { pool.reserves collateralAsset with lToken } := rfl
  simp only [seizeLTokens, moved, LendingPool.setReserve_reconfigure, map_bind, map_pure]
  rfl

theorem seizeUnderlying_reconfigure (msgSender collateralAsset user : Address) (amount : Nat) :
    seizeUnderlying env (pool.reconfigure change) msgSender collateralAsset user amount =
      LendingPool.reconfigure change <$>
        seizeUnderlying env pool msgSender collateralAsset user amount := by
  have reserve : (pool.reconfigure change).reserves collateralAsset =
      (pool.reserves collateralAsset).reconfigure (change collateralAsset) := rfl
  simp only [seizeUnderlying, reserve, Reserve.updateState_reconfigure (freezes collateralAsset),
    Reserve.updateInterestRates_reconfigure (freezes collateralAsset),
    Reserve.burnLToken_reconfigure, bind_map_left, map_bind, map_pure,
    ← LendingPool.setReserve_reconfigure]
  rfl

theorem executeLiquidation_reconfigure (msgSender collateralAsset debtAsset user : Address)
    (actual userVariableDebt collateral collateralBalance : Nat) (receiveLToken : Bool) :
    executeLiquidation env (pool.reconfigure change) msgSender collateralAsset debtAsset user actual
        userVariableDebt collateral collateralBalance receiveLToken =
      LendingPool.reconfigure change <$>
        executeLiquidation env pool msgSender collateralAsset debtAsset user actual userVariableDebt
          collateral collateralBalance receiveLToken := by
  have seize (repaid : LendingPool) :
      (if receiveLToken then
          seizeLTokens env (repaid.reconfigure change) msgSender collateralAsset user collateral
        else seizeUnderlying env (repaid.reconfigure change) msgSender collateralAsset user
          collateral) =
        LendingPool.reconfigure change <$>
          (if receiveLToken then seizeLTokens env repaid msgSender collateralAsset user collateral
          else seizeUnderlying env repaid msgSender collateralAsset user collateral) := by
    split_ifs
    · exact seizeLTokens_reconfigure ..
    · exact seizeUnderlying_reconfigure freezes ..
  have flagged (seized : LendingPool) (config : UserConfigurationMap) :
      (seized.reconfigure change).setUserConfig user config =
        (seized.setUserConfig user config).reconfigure change := rfl
  have reserve (after : LendingPool) : (after.reconfigure change).reserves debtAsset =
      (after.reserves debtAsset).reconfigure (change debtAsset) := rfl
  simp only [executeLiquidation, repayDebt_reconfigure freezes, seize, flagged, reserve,
    Reserve.transferUnderlyingFrom_reconfigure, LendingPool.setReserve_reconfigure, bind_map_left,
    map_bind, map_pure]
  rfl

theorem liquidationCall_reconfigure (msgSender collateralAsset debtAsset user : Address)
    (debtToCover : Nat) (receiveLToken : Bool) :
    liquidationCall env (pool.reconfigure change) msgSender collateralAsset debtAsset user
        debtToCover receiveLToken =
      (fun (after, code, message) => (after.reconfigure change, code, message)) <$>
        liquidationCall env pool msgSender collateralAsset debtAsset user debtToCover
          receiveLToken := by
  have reserve (asset : Address) : (pool.reconfigure change).reserves asset =
      (pool.reserves asset).reconfigure (change asset) := rfl
  simp only [liquidationCall, reserve, GenericLogic.calculateUserAccountData_reconfigure freezes,
    ValidationLogic.validateLiquidationCall_reconfigure freezes,
    calculateAvailableCollateralToLiquidate_reconfigure freezes,
    executeLiquidation_reconfigure freezes, Reserve.availableLiquidity_reconfigure, bind_map_left,
    map_bind]
  refine bind_congr fun account => bind_congr fun debts => bind_congr fun checked => ?_
  split_ifs
  · rfl
  · simp only [map_bind]
    refine bind_congr fun balance => bind_congr fun debt => bind_congr fun most =>
      bind_congr fun amounts => ?_
    split_ifs
    · rfl
    · simp only [map_bind]
      rfl

end LendingPoolCollateralManager

namespace LendingPool

include freezes

theorem withdraw_reconfigure (msgSender asset : Address) (amount : Nat) (recipient : Address) :
    (pool.reconfigure change).withdraw env msgSender asset amount recipient =
      (fun (after, withdrawn) => (after.reconfigure change, withdrawn)) <$>
        pool.withdraw env msgSender asset amount recipient := by
  have reserve : (pool.reconfigure change).reserves asset =
      (pool.reserves asset).reconfigure (change asset) := rfl
  simp only [withdraw, reserve, ValidationLogic.validateWithdraw_reconfigure freezes,
    Reserve.updateState_reconfigure (freezes asset),
    Reserve.updateInterestRates_reconfigure (freezes asset), Reserve.burnLToken_reconfigure,
    setReserve_reconfigure, bind_map_left, map_bind, map_pure]
  rfl

theorem repay_reconfigure (msgSender asset : Address) (amount rateMode : Nat)
    (onBehalfOf : Address) :
    (pool.reconfigure change).repay env msgSender asset amount rateMode onBehalfOf =
      (fun (after, payback) => (after.reconfigure change, payback)) <$>
        pool.repay env msgSender asset amount rateMode onBehalfOf := by
  have reserve : (pool.reconfigure change).reserves asset =
      (pool.reserves asset).reconfigure (change asset) := rfl
  have burn (accrued : Reserve) (mode : InterestRateMode) (payback : Nat) :
      (if mode = .STABLE then
          (accrued.reconfigure (change asset)).burnStableDebt env.timestamp onBehalfOf payback
        else (accrued.reconfigure (change asset)).burnVariableDebt onBehalfOf payback) =
        Reserve.reconfigure (change asset) <$>
          (if mode = .STABLE then accrued.burnStableDebt env.timestamp onBehalfOf payback
          else accrued.burnVariableDebt onBehalfOf payback) := by
    split_ifs
    · exact Reserve.burnStableDebt_reconfigure ..
    · exact Reserve.burnVariableDebt_reconfigure ..
  simp only [repay, reserve, ValidationLogic.validateRepay_reconfigure freezes,
    Reserve.updateState_reconfigure (freezes asset), burn,
    Reserve.updateInterestRates_reconfigure (freezes asset),
    Reserve.transferUnderlyingFrom_reconfigure,
    setReserve_reconfigure, bind_map_left, map_bind, map_pure]
  rfl

theorem liquidationCall_reconfigure (msgSender collateralAsset debtAsset user : Address)
    (debtToCover : Nat) (receiveLToken : Bool) :
    (pool.reconfigure change).liquidationCall env msgSender collateralAsset debtAsset user
        debtToCover receiveLToken =
      LendingPool.reconfigure change <$>
        pool.liquidationCall env msgSender collateralAsset debtAsset user debtToCover
          receiveLToken := by
  simp only [liquidationCall, LendingPoolCollateralManager.liquidationCall_reconfigure freezes,
    map_bind]
  cases LendingPoolCollateralManager.liquidationCall env pool msgSender collateralAsset debtAsset
      user debtToCover receiveLToken with
  | error message => rfl
  | ok returned =>
      simp only [map_bind, map_pure]
      rfl

end LendingPool

end PalmyProtocol
