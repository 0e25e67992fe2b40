import PalmyProtocol.Pool.DataTypes

set_option autoImplicit false

namespace PalmyProtocol

open Checked Rounding MathUtils

namespace ReserveData

variable (reserve : ReserveData)

def getNormalizedIncome (now : Nat) : Result Nat :=
  if reserve.lastUpdateTimestamp = uint40 now then .ok reserve.liquidityIndex else do
    let interest ←
      calculateLinearInterest reserve.currentLiquidityRate reserve.lastUpdateTimestamp now
    rayMul interest reserve.liquidityIndex

def getNormalizedDebt (now : Nat) : Result Nat :=
  if reserve.lastUpdateTimestamp = uint40 now then .ok reserve.variableBorrowIndex else do
    let interest ←
      calculateCompoundedInterest reserve.currentVariableBorrowRate reserve.lastUpdateTimestamp now
    rayMul interest reserve.variableBorrowIndex

def cumulateToLiquidityIndex (totalLiquidity amount : Nat) : Result ReserveData := do
  let amountInRay ← wadToRay amount
  let totalLiquidityInRay ← wadToRay totalLiquidity
  let amountToLiquidityRatio ← rayDiv amountInRay totalLiquidityInRay
  let ratio ← SafeMath.add amountToLiquidityRatio RAY
  let result ← rayMul ratio reserve.liquidityIndex
  require (result ≤ maxUint128) Errors.RL_LIQUIDITY_INDEX_OVERFLOW
  pure { reserve with liquidityIndex := result }

def init (lTokenAddress stableDebtTokenAddress variableDebtTokenAddress : Address)
    (interestRateStrategyAddress : Option DefaultReserveInterestRateStrategy) :
    Result ReserveData := do
  require (reserve.lTokenAddress = 0) Errors.RL_RESERVE_ALREADY_INITIALIZED
  pure { reserve with
    liquidityIndex := RAY
    variableBorrowIndex := RAY
    lTokenAddress
    stableDebtTokenAddress
    variableDebtTokenAddress
    interestRateStrategyAddress }

def updateIndexes (now scaledVariableDebt : Nat) : Result (Nat × Nat × ReserveData) := do
  let currentLiquidityRate := reserve.currentLiquidityRate
  let (newLiquidityIndex, newVariableBorrowIndex) ←
    -- only cumulating if there is any income being produced
    (if 0 < currentLiquidityRate then do
      let cumulatedLiquidityInterest ←
        calculateLinearInterest currentLiquidityRate reserve.lastUpdateTimestamp now
      let newLiquidityIndex ← rayMul cumulatedLiquidityInterest reserve.liquidityIndex
      require (newLiquidityIndex ≤ maxUint128) Errors.RL_LIQUIDITY_INDEX_OVERFLOW
      -- the liquidity rate might come only from stable rate loans
      if scaledVariableDebt ≠ 0 then do
        let cumulatedVariableBorrowInterest ← calculateCompoundedInterest
          reserve.currentVariableBorrowRate reserve.lastUpdateTimestamp now
        let newVariableBorrowIndex ←
          rayMul cumulatedVariableBorrowInterest reserve.variableBorrowIndex
        require (newVariableBorrowIndex ≤ maxUint128) Errors.RL_VARIABLE_BORROW_INDEX_OVERFLOW
        pure (newLiquidityIndex, newVariableBorrowIndex)
      else pure (newLiquidityIndex, reserve.variableBorrowIndex)
    else pure (reserve.liquidityIndex, reserve.variableBorrowIndex))
  pure (newLiquidityIndex, newVariableBorrowIndex, { reserve with
    liquidityIndex := newLiquidityIndex
    variableBorrowIndex := newVariableBorrowIndex
    lastUpdateTimestamp := uint40 now })

end ReserveData

namespace Reserve

variable (reserve : Reserve)

-- An asset that was never listed; only its ledger can hold anything.
def unlisted (underlying : ERC20) : Reserve :=
  { ReserveData.empty with
    lToken := ⟨.empty, 0⟩
    stableDebtToken := .empty
    variableDebtToken := .empty
    underlying }

-- `IERC20(asset).balanceOf(lToken)`.
def availableLiquidity : Nat := reserve.underlying.balances reserve.lTokenAddress

def lTokenBalanceOf (now : Nat) (user : Address) : Result Nat := do
  require (reserve.lTokenAddress ≠ 0) noMessage
  reserve.lToken.balanceOf (reserve.getNormalizedIncome now) user

def lTokenTotalSupply (now : Nat) : Result Nat := do
  require (reserve.lTokenAddress ≠ 0) noMessage
  reserve.lToken.totalSupply (reserve.getNormalizedIncome now)

def stableDebtBalanceOf (now : Nat) (user : Address) : Result Nat := do
  require (reserve.stableDebtTokenAddress ≠ 0) noMessage
  reserve.stableDebtToken.balanceOf now user

def variableDebtBalanceOf (now : Nat) (user : Address) : Result Nat := do
  require (reserve.variableDebtTokenAddress ≠ 0) noMessage
  reserve.variableDebtToken.balanceOf (reserve.getNormalizedDebt now) user

def getUserCurrentDebt (now : Nat) (user : Address) : Result (Nat × Nat) := do
  let stableDebt ← reserve.stableDebtBalanceOf now user
  let variableDebt ← reserve.variableDebtBalanceOf now user
  pure (stableDebt, variableDebt)

def accruedDebt (now scaledVariableDebt previousVariableBorrowIndex newVariableBorrowIndex
    timestamp : Nat) : Result Nat := do
  let (principalStableDebt, currentStableDebt, avgStableRate, stableSupplyUpdatedTimestamp) ←
    reserve.stableDebtToken.getSupplyData now
  let previousVariableDebt ← rayMul scaledVariableDebt previousVariableBorrowIndex
  let currentVariableDebt ← rayMul scaledVariableDebt newVariableBorrowIndex
  let cumulatedStableInterest ←
    calculateCompoundedInterest avgStableRate stableSupplyUpdatedTimestamp timestamp
  let previousStableDebt ← rayMul principalStableDebt cumulatedStableInterest
  let currentDebt ← SafeMath.add currentVariableDebt currentStableDebt
  let stableShare ← SafeMath.sub currentDebt previousVariableDebt
  SafeMath.sub stableShare previousStableDebt

def mintToTreasury (now scaledVariableDebt previousVariableBorrowIndex newLiquidityIndex
    newVariableBorrowIndex timestamp : Nat) : Result LToken :=
  let reserveFactor := reserve.configuration.getReserveFactor
  if reserveFactor = 0 then .ok reserve.lToken else do
    let totalDebtAccrued ← reserve.accruedDebt now scaledVariableDebt previousVariableBorrowIndex
      newVariableBorrowIndex timestamp
    let amountToMint ← percentMul totalDebtAccrued reserveFactor
    if amountToMint ≠ 0 then reserve.lToken.mintToTreasury amountToMint newLiquidityIndex
    else pure reserve.lToken

def updateState (now : Nat) : Result Reserve := do
  require (reserve.variableDebtTokenAddress ≠ 0) noMessage
  let scaledVariableDebt := reserve.variableDebtToken.scaledTotalSupply
  let previousVariableBorrowIndex := reserve.variableBorrowIndex
  let lastUpdatedTimestamp := reserve.lastUpdateTimestamp
  let (newLiquidityIndex, newVariableBorrowIndex, data) ←
    reserve.toReserveData.updateIndexes now scaledVariableDebt
  let lToken ← reserve.mintToTreasury now scaledVariableDebt previousVariableBorrowIndex
    newLiquidityIndex newVariableBorrowIndex lastUpdatedTimestamp
  pure { reserve with toReserveData := data, lToken }

def updateInterestRates (env : Env) (asset lTokenAddress : Address)
    (liquidityAdded liquidityTaken : Nat) : Result Reserve := do
  let (totalStableDebt, avgStableRate) ←
    reserve.stableDebtToken.getTotalSupplyAndAvgRate env.timestamp
  let totalVariableDebt ←
    rayMul reserve.variableDebtToken.scaledTotalSupply reserve.variableBorrowIndex
  match reserve.interestRateStrategyAddress with
  | none => .error noMessage
  | some strategy => do
    let (newLiquidityRate, newStableRate, newVariableRate) ←
      strategy.calculateInterestRatesAfter (env.getMarketBorrowRate asset)
        (reserve.underlying.balances lTokenAddress) liquidityAdded liquidityTaken totalStableDebt
        totalVariableDebt avgStableRate reserve.configuration.getReserveFactor
    require (newLiquidityRate ≤ maxUint128) Errors.RL_LIQUIDITY_RATE_OVERFLOW
    require (newStableRate ≤ maxUint128) Errors.RL_STABLE_BORROW_RATE_OVERFLOW
    require (newVariableRate ≤ maxUint128) Errors.RL_VARIABLE_BORROW_RATE_OVERFLOW
    pure { reserve with
      currentLiquidityRate := newLiquidityRate
      currentStableBorrowRate := newStableRate
      currentVariableBorrowRate := newVariableRate }

def transferUnderlyingFrom (spender sender recipient : Address) (amount : Nat) : Result Reserve := do
  let underlying ← reserve.underlying.transferFrom spender sender recipient amount
  pure { reserve with underlying }

def transferUnderlyingTo (target : Address) (amount : Nat) : Result Reserve := do
  require (reserve.lTokenAddress ≠ 0) noMessage
  let underlying ← reserve.underlying.transfer reserve.lTokenAddress target amount
  pure { reserve with underlying }

def mintLToken (user : Address) (amount : Nat) : Result (Reserve × Bool) := do
  let (lToken, isFirstDeposit) ← reserve.lToken.mint user amount reserve.liquidityIndex
  pure ({ reserve with lToken }, isFirstDeposit)

def burnLToken (user receiverOfUnderlying : Address) (amount : Nat) : Result Reserve := do
  let lToken ← reserve.lToken.burn user amount reserve.liquidityIndex
  let underlying ← reserve.underlying.transfer reserve.lTokenAddress receiverOfUnderlying amount
  pure { reserve with lToken, underlying }

def mintStableDebt (now : Nat) (user onBehalfOf : Address) (amount rate : Nat) :
    Result (Reserve × Bool) := do
  let (stableDebtToken, isFirst, _) ← reserve.stableDebtToken.mint now user onBehalfOf amount rate
  pure ({ reserve with stableDebtToken }, isFirst)

def burnStableDebt (now : Nat) (user : Address) (amount : Nat) : Result Reserve := do
  let (stableDebtToken, _) ← reserve.stableDebtToken.burn now user amount
  pure { reserve with stableDebtToken }

def mintVariableDebt (user onBehalfOf : Address) (amount : Nat) : Result (Reserve × Bool) := do
  let (variableDebtToken, isFirst) ←
    reserve.variableDebtToken.mint user onBehalfOf amount reserve.variableBorrowIndex
  pure ({ reserve with variableDebtToken }, isFirst)

def burnVariableDebt (user : Address) (amount : Nat) : Result Reserve := do
  let variableDebtToken ← reserve.variableDebtToken.burn user amount reserve.variableBorrowIndex
  pure { reserve with variableDebtToken }

end Reserve

namespace ReserveData

variable (reserve : ReserveData)

def normalizedIncome (now : Nat) : Nat :=
  if reserve.lastUpdateTimestamp = uint40 now then reserve.liquidityIndex
  else divHalfUp (linearInterest reserve.currentLiquidityRate (now - reserve.lastUpdateTimestamp) *
    reserve.liquidityIndex) RAY

def normalizedDebt (now : Nat) : Nat :=
  if reserve.lastUpdateTimestamp = uint40 now then reserve.variableBorrowIndex
  else divHalfUp (compoundedInterest reserve.currentVariableBorrowRate
    (now - reserve.lastUpdateTimestamp) * reserve.variableBorrowIndex) RAY

def accruedLiquidityIndex (now : Nat) : Nat :=
  if 0 < reserve.currentLiquidityRate then
    divHalfUp (linearInterest reserve.currentLiquidityRate (now - reserve.lastUpdateTimestamp) *
      reserve.liquidityIndex) RAY
  else reserve.liquidityIndex

def accruedVariableBorrowIndex (now scaledVariableDebt : Nat) : Nat :=
  if 0 < reserve.currentLiquidityRate ∧ scaledVariableDebt ≠ 0 then
    divHalfUp (compoundedInterest reserve.currentVariableBorrowRate
      (now - reserve.lastUpdateTimestamp) * reserve.variableBorrowIndex) RAY
  else reserve.variableBorrowIndex

variable {reserve} {now scaledVariableDebt index c : Nat}

theorem getNormalizedIncome_ok (computed : reserve.getNormalizedIncome now = .ok c) :
    c = reserve.normalizedIncome now ∧
      (reserve.lastUpdateTimestamp = uint40 now ∨ reserve.lastUpdateTimestamp ≤ now) := by
  simp only [getNormalizedIncome, ite_eq_ok, bind_eq_ok, rayMul_eq_ok, Except.ok.injEq] at computed
  rcases computed with ⟨current, rfl⟩ | ⟨past, interest, linear, _, rfl⟩
  · simp [normalizedIncome, current]
  · obtain ⟨order, rfl⟩ := calculateLinearInterest_ok linear
    simp [normalizedIncome, past, order]

theorem getNormalizedDebt_ok (computed : reserve.getNormalizedDebt now = .ok c) :
    c = reserve.normalizedDebt now ∧
      (reserve.lastUpdateTimestamp = uint40 now ∨ reserve.lastUpdateTimestamp ≤ now) := by
  simp only [getNormalizedDebt, ite_eq_ok, bind_eq_ok, rayMul_eq_ok, Except.ok.injEq] at computed
  rcases computed with ⟨current, rfl⟩ | ⟨past, interest, compounded, _, rfl⟩
  · simp [normalizedDebt, current]
  · obtain ⟨order, rfl⟩ := calculateCompoundedInterest_ok compounded
    simp [normalizedDebt, past, order]

theorem updateIndexes_ok {liquidityIndex variableBorrowIndex : Nat} {data : ReserveData}
    (computed : reserve.updateIndexes now scaledVariableDebt =
      .ok (liquidityIndex, variableBorrowIndex, data)) :
    liquidityIndex = reserve.accruedLiquidityIndex now ∧
      variableBorrowIndex = reserve.accruedVariableBorrowIndex now scaledVariableDebt ∧
      data = { reserve with
        liquidityIndex, variableBorrowIndex, lastUpdateTimestamp := uint40 now } ∧
      (0 < reserve.currentLiquidityRate → reserve.lastUpdateTimestamp ≤ now) := by
  simp only [updateIndexes, bind_eq_ok, Prod.exists, ite_eq_ok, rayMul_eq_ok, require_eq_ok,
    exists_const, pure_eq_ok, Prod.mk.injEq] at computed
  obtain ⟨_, _, grown, rfl, rfl, rfl⟩ := computed
  rcases grown with ⟨earning, _, linear, _, ⟨_, rfl⟩, _, debts⟩ | ⟨idle, rfl, rfl⟩
  · obtain ⟨order, rfl⟩ := calculateLinearInterest_ok linear
    rcases debts with ⟨owed, _, compounded, _, ⟨_, rfl⟩, _, rfl, rfl⟩ | ⟨none, rfl, rfl⟩
    · obtain ⟨_, rfl⟩ := calculateCompoundedInterest_ok compounded
      simp [accruedLiquidityIndex, accruedVariableBorrowIndex, earning, owed, order]
    · simp [accruedLiquidityIndex, accruedVariableBorrowIndex, earning, not_not.1 none, order]
  · simp [accruedLiquidityIndex, accruedVariableBorrowIndex, idle]

theorem le_accruedLiquidityIndex (now : Nat) :
    reserve.liquidityIndex ≤ reserve.accruedLiquidityIndex now := by
  rw [accruedLiquidityIndex]
  split_ifs
  · rw [Nat.mul_comm]
    exact le_rayMul (RAY_le_linearInterest _ _)
  · exact le_refl _

theorem le_accruedVariableBorrowIndex (now scaledVariableDebt : Nat) :
    reserve.variableBorrowIndex ≤ reserve.accruedVariableBorrowIndex now scaledVariableDebt := by
  rw [accruedVariableBorrowIndex]
  split_ifs
  · rw [Nat.mul_comm]
    exact le_rayMul (RAY_le_compoundedInterest _ _)
  · exact le_refl _

theorem le_normalizedIncome (now : Nat) : reserve.liquidityIndex ≤ reserve.normalizedIncome now := by
  rw [normalizedIncome]
  split_ifs
  · exact le_refl _
  · rw [Nat.mul_comm]
    exact le_rayMul (RAY_le_linearInterest _ _)

theorem le_normalizedDebt (now : Nat) :
    reserve.variableBorrowIndex ≤ reserve.normalizedDebt now := by
  rw [normalizedDebt]
  split_ifs
  · exact le_refl _
  · rw [Nat.mul_comm]
    exact le_rayMul (RAY_le_compoundedInterest _ _)

-- The liquidity index has no guard that its view lacks: a zero rate moves neither.
theorem accruedLiquidityIndex_eq (small : now < 2 ^ 40) :
    reserve.accruedLiquidityIndex now = reserve.normalizedIncome now := by
  rw [accruedLiquidityIndex, normalizedIncome, uint40_of_lt small]
  by_cases earning : 0 < reserve.currentLiquidityRate
  · by_cases current : reserve.lastUpdateTimestamp = now
    · simp [earning, current, Nat.mul_comm RAY, rayMul_RAY]
    · simp [earning, current]
  · have idle : reserve.currentLiquidityRate = 0 := Nat.eq_zero_of_not_pos earning
    simp [idle, Nat.mul_comm RAY, rayMul_RAY]

-- The variable index has one: it stands still without income or debt, and its view does not.
theorem accruedVariableBorrowIndex_eq (small : now < 2 ^ 40)
    (accrues : 0 < reserve.currentLiquidityRate ∧ scaledVariableDebt ≠ 0) :
    reserve.accruedVariableBorrowIndex now scaledVariableDebt = reserve.normalizedDebt now := by
  rw [accruedVariableBorrowIndex, normalizedDebt, uint40_of_lt small, if_pos accrues]
  by_cases current : reserve.lastUpdateTimestamp = now
  · simp [current, Nat.mul_comm RAY, rayMul_RAY]
  · simp [current]

theorem accruedVariableBorrowIndex_le (small : now < 2 ^ 40) (scaledVariableDebt : Nat) :
    reserve.accruedVariableBorrowIndex now scaledVariableDebt ≤ reserve.normalizedDebt now := by
  by_cases accrues : 0 < reserve.currentLiquidityRate ∧ scaledVariableDebt ≠ 0
  · exact Nat.le_of_eq (accruedVariableBorrowIndex_eq small accrues)
  · rw [accruedVariableBorrowIndex, if_neg accrues]
    exact le_normalizedDebt now

theorem le_cumulated (ratio index : Nat) : index ≤ divHalfUp ((ratio + RAY) * index) RAY := by
  have grown : RAY ≤ ratio + RAY := Nat.le_add_left RAY ratio
  rw [Nat.mul_comm (ratio + RAY) index]
  exact le_rayMul grown

-- The new index stays a variable: compared with the old one as a term, it would be computed.
theorem cumulateToLiquidityIndex_ok {totalLiquidity amount : Nat} {data : ReserveData}
    (computed : reserve.cumulateToLiquidityIndex totalLiquidity amount = .ok data) :
    totalLiquidity ≠ 0 ∧ ∃ liquidityIndex,
      liquidityIndex = divHalfUp ((divHalfUp (amount * WAD_RAY_RATIO * RAY)
        (totalLiquidity * WAD_RAY_RATIO) + RAY) * reserve.liquidityIndex) RAY ∧
      data = { reserve with liquidityIndex } := by
  simp only [cumulateToLiquidityIndex, bind_eq_ok, wadToRay_eq_ok, SafeMath.add_eq_ok,
    rayMul_eq_ok, require_eq_ok, exists_const, pure_eq_ok] at computed
  obtain ⟨_, ⟨_, rfl⟩, _, ⟨_, rfl⟩, _, divided, _, ⟨_, rfl⟩, liquidityIndex, ⟨_, grown⟩, _, rfl⟩ :=
    computed
  obtain ⟨nonzero, rfl⟩ := rayDiv_ok divided
  refine ⟨?_, liquidityIndex, grown.symm, rfl⟩
  rintro rfl
  exact nonzero (Nat.zero_mul _)

theorem init_ok {lTokenAddress stableDebtTokenAddress variableDebtTokenAddress : Address}
    {interestRateStrategyAddress : Option DefaultReserveInterestRateStrategy} {data : ReserveData}
    (computed : reserve.init lTokenAddress stableDebtTokenAddress variableDebtTokenAddress
      interestRateStrategyAddress = .ok data) :
    reserve.lTokenAddress = 0 ∧ data = { reserve with
      liquidityIndex := RAY
      variableBorrowIndex := RAY
      lTokenAddress
      stableDebtTokenAddress
      variableDebtTokenAddress
      interestRateStrategyAddress } := by
  simp only [init, bind_eq_ok, require_eq_ok, exists_const, pure_eq_ok] at computed
  exact ⟨computed.1, computed.2.symm⟩

end ReserveData

namespace Reserve

variable {reserve after : Reserve} {now amount c : Nat} {user onBehalfOf : Address}

theorem lTokenBalanceOf_ok (computed : reserve.lTokenBalanceOf now user = .ok c) :
    reserve.lTokenAddress ≠ 0 ∧
      c = divHalfUp (reserve.lToken.base.balances user * reserve.normalizedIncome now) RAY := by
  simp only [lTokenBalanceOf, bind_eq_ok, require_eq_ok, exists_const] at computed
  obtain ⟨listed, read⟩ := computed
  obtain ⟨index, viewed, rfl⟩ := LToken.balanceOf_ok read
  obtain ⟨rfl, _⟩ := ReserveData.getNormalizedIncome_ok viewed
  exact ⟨listed, rfl⟩

theorem lTokenTotalSupply_ok (computed : reserve.lTokenTotalSupply now = .ok c) :
    reserve.lTokenAddress ≠ 0 ∧
      c = divHalfUp (reserve.lToken.base.totalSupply * reserve.normalizedIncome now) RAY := by
  simp only [lTokenTotalSupply, bind_eq_ok, require_eq_ok, exists_const] at computed
  obtain ⟨listed, read⟩ := computed
  rcases LToken.totalSupply_ok read with ⟨none, rfl⟩ | ⟨_, index, viewed, rfl⟩
  · simp [none, listed]
  · obtain ⟨rfl, _⟩ := ReserveData.getNormalizedIncome_ok viewed
    exact ⟨listed, rfl⟩

theorem stableDebtBalanceOf_ok (computed : reserve.stableDebtBalanceOf now user = .ok c) :
    reserve.stableDebtTokenAddress ≠ 0 ∧ c = reserve.stableDebtToken.debt now user := by
  simp only [stableDebtBalanceOf, bind_eq_ok, require_eq_ok, exists_const] at computed
  exact ⟨computed.1, (StableDebtToken.balanceOf_ok computed.2).1⟩

theorem variableDebtBalanceOf_ok (computed : reserve.variableDebtBalanceOf now user = .ok c) :
    reserve.variableDebtTokenAddress ≠ 0 ∧
      c = divHalfUp
        (reserve.variableDebtToken.base.balances user * reserve.normalizedDebt now) RAY := by
  simp only [variableDebtBalanceOf, bind_eq_ok, require_eq_ok, exists_const] at computed
  obtain ⟨listed, read⟩ := computed
  rcases VariableDebtToken.balanceOf_ok read with ⟨none, rfl⟩ | ⟨_, index, viewed, rfl⟩
  · simp [none, listed]
  · obtain ⟨rfl, _⟩ := ReserveData.getNormalizedDebt_ok viewed
    exact ⟨listed, rfl⟩

theorem getUserCurrentDebt_ok {stableDebt variableDebt : Nat}
    (computed : reserve.getUserCurrentDebt now user = .ok (stableDebt, variableDebt)) :
    reserve.stableDebtBalanceOf now user = .ok stableDebt ∧
      reserve.variableDebtBalanceOf now user = .ok variableDebt := by
  simp only [getUserCurrentDebt, bind_eq_ok, pure_eq_ok, Prod.mk.injEq] at computed
  obtain ⟨_, stable, _, floating, rfl, rfl⟩ := computed
  exact ⟨stable, floating⟩

structure Accrued (reserve : Reserve) (now : Nat) (after : Reserve) (lToken : LToken)
    (liquidityIndex variableBorrowIndex : Nat) : Prop where
  listed : reserve.variableDebtTokenAddress ≠ 0
  liquidity : liquidityIndex = reserve.accruedLiquidityIndex now
  floating : variableBorrowIndex =
    reserve.accruedVariableBorrowIndex now reserve.variableDebtToken.base.totalSupply
  result : after = { reserve with
    liquidityIndex, variableBorrowIndex, lastUpdateTimestamp := uint40 now, lToken }
  treasury : reserve.mintToTreasury now reserve.variableDebtToken.base.totalSupply
    reserve.variableBorrowIndex liquidityIndex variableBorrowIndex reserve.lastUpdateTimestamp =
      .ok lToken
  order : 0 < reserve.currentLiquidityRate → reserve.lastUpdateTimestamp ≤ now

theorem updateState_ok (computed : reserve.updateState now = .ok after) :
    ∃ lToken liquidityIndex variableBorrowIndex,
      Accrued reserve now after lToken liquidityIndex variableBorrowIndex := by
  simp only [updateState, bind_eq_ok, require_eq_ok, exists_const, Prod.exists,
    pure_eq_ok] at computed
  obtain ⟨listed, liquidityIndex, variableBorrowIndex, _, indexes, lToken, treasury, rfl⟩ := computed
  obtain ⟨liquidity, floating, rfl, order⟩ := ReserveData.updateIndexes_ok indexes
  exact ⟨lToken, liquidityIndex, variableBorrowIndex, listed, liquidity, floating, rfl, treasury,
    order⟩

theorem updateState_timestamp {env : Env} (computed : reserve.updateState env.timestamp = .ok after) :
    after.lastUpdateTimestamp = env.timestamp := by
  obtain ⟨_, _, _, run⟩ := updateState_ok computed
  rw [run.result]
  exact uint40_of_lt env.timestamp_lt

theorem mintToTreasury_ok {scaled previous liquidity variableIndex timestamp : Nat} {lToken : LToken}
    (computed : reserve.mintToTreasury now scaled previous liquidity variableIndex timestamp =
      .ok lToken) :
    lToken = reserve.lToken ∨ ∃ minted,
      (∀ a, lToken.base.balances a =
        reserve.lToken.base.balances a + if a = reserve.lToken.treasury then minted else 0) ∧
      lToken.base.totalSupply = reserve.lToken.base.totalSupply + minted ∧
      lToken.base.allowances = reserve.lToken.base.allowances ∧
      lToken.treasury = reserve.lToken.treasury := by
  simp only [mintToTreasury, ite_eq_ok, bind_eq_ok, percentMul_eq_ok, pure_eq_ok,
    Except.ok.injEq] at computed
  rcases computed with ⟨_, rfl⟩ | ⟨_, accrued, _, amount, _, ⟨_, minted⟩ | ⟨_, rfl⟩⟩
  · exact .inl rfl
  · rcases LToken.mintToTreasury_ok minted with ⟨_, rfl⟩ | ⟨_, shares, _, effect⟩
    · exact .inl rfl
    · exact .inr ⟨shares, effect⟩
  · exact .inl rfl

structure Rated (reserve : Reserve) (env : Env) (asset lTokenAddress : Address)
    (liquidityAdded liquidityTaken : Nat) (after : Reserve)
    (strategy : DefaultReserveInterestRateStrategy)
    (liquidityRate stableRate variableRate : Nat) : Prop where
  chosen : reserve.interestRateStrategyAddress = some strategy
  rates : strategy.calculateInterestRatesAfter (env.getMarketBorrowRate asset)
    (reserve.underlying.balances lTokenAddress) liquidityAdded liquidityTaken
    (reserve.stableDebtToken.supply env.timestamp)
    (divHalfUp (reserve.variableDebtToken.base.totalSupply * reserve.variableBorrowIndex) RAY)
    reserve.stableDebtToken.avgStableRate reserve.configuration.getReserveFactor =
      .ok (liquidityRate, stableRate, variableRate)
  result : after = { reserve with
    currentLiquidityRate := liquidityRate
    currentStableBorrowRate := stableRate
    currentVariableBorrowRate := variableRate }

theorem updateInterestRates_ok {env : Env} {asset lTokenAddress : Address}
    {liquidityAdded liquidityTaken : Nat}
    (computed : reserve.updateInterestRates env asset lTokenAddress liquidityAdded liquidityTaken =
      .ok after) :
    ∃ strategy liquidityRate stableRate variableRate,
      Rated reserve env asset lTokenAddress liquidityAdded liquidityTaken after strategy
        liquidityRate stableRate variableRate := by
  simp only [updateInterestRates, bind_eq_ok, Prod.exists, rayMul_eq_ok] at computed
  obtain ⟨_, _, viewed, _, ⟨_, rfl⟩, rated⟩ := computed
  obtain ⟨supplied, rfl⟩ := StableDebtToken.getTotalSupplyAndAvgRate_ok viewed
  obtain rfl := StableDebtToken.totalSupply_ok supplied
  cases chosen : reserve.interestRateStrategyAddress with
  | none => simp [chosen] at rated
  | some strategy =>
      simp only [chosen, bind_eq_ok, Prod.exists, require_eq_ok, exists_const, pure_eq_ok] at rated
      obtain ⟨liquidityRate, stableRate, variableRate, rates, _, _, _, rfl⟩ := rated
      exact ⟨strategy, liquidityRate, stableRate, variableRate, chosen, rates, by rw [← chosen]⟩

theorem transferUnderlyingFrom_ok {spender sender recipient : Address}
    (computed : reserve.transferUnderlyingFrom spender sender recipient amount = .ok after) :
    ∃ underlying, reserve.underlying.transferFrom spender sender recipient amount = .ok underlying ∧
      after = { reserve with underlying } := by
  simp only [transferUnderlyingFrom, bind_eq_ok, pure_eq_ok] at computed
  obtain ⟨underlying, moved, rfl⟩ := computed
  exact ⟨underlying, moved, rfl⟩

theorem transferUnderlyingTo_ok {target : Address}
    (computed : reserve.transferUnderlyingTo target amount = .ok after) :
    reserve.lTokenAddress ≠ 0 ∧ ∃ underlying,
      reserve.underlying.transfer reserve.lTokenAddress target amount = .ok underlying ∧
      after = { reserve with underlying } := by
  simp only [transferUnderlyingTo, bind_eq_ok, require_eq_ok, exists_const, pure_eq_ok] at computed
  obtain ⟨listed, underlying, moved, rfl⟩ := computed
  exact ⟨listed, underlying, moved, rfl⟩

theorem mintLToken_ok {first : Bool} (computed : reserve.mintLToken user amount = .ok (after, first)) :
    ∃ lToken, LToken.Minted reserve.lToken user amount reserve.liquidityIndex lToken first ∧
      after = { reserve with lToken } := by
  simp only [mintLToken, bind_eq_ok, Prod.exists, pure_eq_ok, Prod.mk.injEq] at computed
  obtain ⟨lToken, _, minted, rfl, rfl⟩ := computed
  exact ⟨lToken, LToken.mint_ok minted, rfl⟩

theorem burnLToken_ok {receiver : Address}
    (computed : reserve.burnLToken user receiver amount = .ok after) :
    ∃ lToken underlying, LToken.Burned reserve.lToken user amount reserve.liquidityIndex lToken ∧
      reserve.underlying.transfer reserve.lTokenAddress receiver amount = .ok underlying ∧
      after = { reserve with lToken, underlying } := by
  simp only [burnLToken, bind_eq_ok, pure_eq_ok] at computed
  obtain ⟨lToken, burned, underlying, moved, rfl⟩ := computed
  exact ⟨lToken, underlying, LToken.burn_ok burned, moved, rfl⟩

theorem mintStableDebt_ok {rate : Nat} {first : Bool}
    (computed : reserve.mintStableDebt now user onBehalfOf amount rate = .ok (after, first)) :
    ∃ stableDebtToken,
      StableDebtToken.Minted reserve.stableDebtToken now user onBehalfOf amount rate
        stableDebtToken first ∧
      after = { reserve with stableDebtToken } := by
  simp only [mintStableDebt, bind_eq_ok, Prod.exists, pure_eq_ok, Prod.mk.injEq] at computed
  obtain ⟨stableDebtToken, _, _, minted, rfl, rfl⟩ := computed
  exact ⟨stableDebtToken, StableDebtToken.mint_ok minted, rfl⟩

theorem burnStableDebt_ok (computed : reserve.burnStableDebt now user amount = .ok after) :
    ∃ stableDebtToken,
      StableDebtToken.Burned reserve.stableDebtToken now user amount stableDebtToken ∧
      after = { reserve with stableDebtToken } := by
  simp only [burnStableDebt, bind_eq_ok, Prod.exists, pure_eq_ok] at computed
  obtain ⟨stableDebtToken, _, burned, rfl⟩ := computed
  exact ⟨stableDebtToken, StableDebtToken.burn_ok burned, rfl⟩

theorem mintVariableDebt_ok {first : Bool}
    (computed : reserve.mintVariableDebt user onBehalfOf amount = .ok (after, first)) :
    ∃ variableDebtToken,
      VariableDebtToken.Minted reserve.variableDebtToken user onBehalfOf amount
        reserve.variableBorrowIndex variableDebtToken first ∧
      after = { reserve with variableDebtToken } := by
  simp only [mintVariableDebt, bind_eq_ok, Prod.exists, pure_eq_ok, Prod.mk.injEq] at computed
  obtain ⟨variableDebtToken, _, minted, rfl, rfl⟩ := computed
  exact ⟨variableDebtToken, VariableDebtToken.mint_ok minted, rfl⟩

theorem burnVariableDebt_ok (computed : reserve.burnVariableDebt user amount = .ok after) :
    ∃ variableDebtToken,
      VariableDebtToken.Burned reserve.variableDebtToken user amount reserve.variableBorrowIndex
        variableDebtToken ∧
      after = { reserve with variableDebtToken } := by
  simp only [burnVariableDebt, bind_eq_ok, pure_eq_ok] at computed
  obtain ⟨variableDebtToken, burned, rfl⟩ := computed
  exact ⟨variableDebtToken, VariableDebtToken.burn_ok burned, rfl⟩

end Reserve

end PalmyProtocol
