import PalmyProtocol.Pool.DefaultReserveInterestRateStrategy

set_option autoImplicit false

namespace PalmyProtocol

open Checked Rounding

namespace DefaultReserveInterestRateStrategy

variable (strategy : DefaultReserveInterestRateStrategy)

def utilizationRate (availableLiquidity totalDebt : Nat) : Nat :=
  divHalfUp (totalDebt * RAY) (availableLiquidity + totalDebt)

def excessRatio (utilization : Nat) : Nat :=
  divHalfUp ((utilization - strategy.OPTIMAL_UTILIZATION_RATE) * RAY) strategy.EXCESS_UTILIZATION_RATE

def stableRate (marketBorrowRate utilization : Nat) : Nat :=
  if strategy.OPTIMAL_UTILIZATION_RATE < utilization then
    marketBorrowRate + strategy.stableRateSlope1 +
      divHalfUp (strategy.stableRateSlope2 * strategy.excessRatio utilization) RAY
  else marketBorrowRate + divHalfUp (strategy.stableRateSlope1 *
    divHalfUp (utilization * RAY) strategy.OPTIMAL_UTILIZATION_RATE) RAY

def variableRate (utilization : Nat) : Nat :=
  if strategy.OPTIMAL_UTILIZATION_RATE < utilization then
    strategy.baseVariableBorrowRate + strategy.variableRateSlope1 +
      divHalfUp (strategy.variableRateSlope2 * strategy.excessRatio utilization) RAY
  else strategy.baseVariableBorrowRate + divHalfUp
    (divHalfUp (utilization * strategy.variableRateSlope1) RAY * RAY)
      strategy.OPTIMAL_UTILIZATION_RATE

def overallBorrowRate (totalStableDebt totalVariableDebt variableBorrowRate averageStableRate : Nat) :
    Nat :=
  divHalfUp ((divHalfUp (totalVariableDebt * WAD_RAY_RATIO * variableBorrowRate) RAY +
    divHalfUp (totalStableDebt * WAD_RAY_RATIO * averageStableRate) RAY) * RAY)
      ((totalVariableDebt + totalStableDebt) * WAD_RAY_RATIO)

variable {strategy} {marketBorrowRate utilization availableLiquidity totalDebt totalStableDebt
  totalVariableDebt averageStableRate reserveFactor c : Nat}

theorem calculateUtilizationRate_ok
    (computed : calculateUtilizationRate availableLiquidity totalDebt = .ok c) :
    c = utilizationRate availableLiquidity totalDebt := by
  simp only [calculateUtilizationRate, ite_eq_ok, bind_eq_ok, SafeMath.add_eq_ok,
    Except.ok.injEq] at computed
  rcases computed with ⟨none, rfl⟩ | ⟨_, _, ⟨_, rfl⟩, divided⟩
  · rw [utilizationRate, none, Nat.zero_mul, divHalfUp_zero]
  · exact (rayDiv_ok divided).2.symm

theorem calculateBorrowRates_ok {stable variableR : Nat}
    (computed : strategy.calculateBorrowRates marketBorrowRate utilization =
      .ok (stable, variableR)) :
    stable = strategy.stableRate marketBorrowRate utilization ∧
      variableR = strategy.variableRate utilization := by
  rw [calculateBorrowRates] at computed
  split_ifs at computed with above
  · simp only [bind_eq_ok, SafeMath.sub_eq_ok, SafeMath.add_eq_ok, rayMul_eq_ok, pure_eq_ok,
      Prod.mk.injEq] at computed
    obtain ⟨_, ⟨_, rfl⟩, _, divided, _, ⟨_, rfl⟩, _, ⟨_, rfl⟩, _, ⟨_, rfl⟩, _, ⟨_, rfl⟩, _,
      ⟨_, rfl⟩, _, ⟨_, rfl⟩, rfl, rfl⟩ := computed
    obtain ⟨_, rfl⟩ := rayDiv_ok divided
    rw [stableRate, variableRate, if_pos above, if_pos above]
    exact ⟨rfl, rfl⟩
  · simp only [bind_eq_ok, SafeMath.add_eq_ok, rayMul_eq_ok, pure_eq_ok,
      Prod.mk.injEq] at computed
    obtain ⟨_, first, _, ⟨_, rfl⟩, _, ⟨_, rfl⟩, _, ⟨_, rfl⟩, _, second, _, ⟨_, rfl⟩, rfl, rfl⟩ :=
      computed
    obtain ⟨_, rfl⟩ := rayDiv_ok first
    obtain ⟨_, rfl⟩ := rayDiv_ok second
    rw [stableRate, variableRate, if_neg above, if_neg above]
    exact ⟨rfl, rfl⟩

theorem getOverallBorrowRate_ok {variableR : Nat}
    (computed : getOverallBorrowRate totalStableDebt totalVariableDebt variableR averageStableRate =
      .ok c) :
    c = overallBorrowRate totalStableDebt totalVariableDebt variableR averageStableRate := by
  simp only [getOverallBorrowRate, bind_eq_ok, SafeMath.add_eq_ok, ite_eq_ok, wadToRay_eq_ok,
    rayMul_eq_ok, pure_eq_ok] at computed
  obtain ⟨_, ⟨_, rfl⟩, ⟨none, rfl⟩ | ⟨_, _, ⟨_, rfl⟩, _, ⟨_, rfl⟩, _, ⟨_, rfl⟩, _, ⟨_, rfl⟩, _,
    ⟨_, rfl⟩, _, ⟨_, rfl⟩, divided⟩⟩ := computed
  · obtain ⟨rfl, rfl⟩ := Nat.add_eq_zero_iff.1 none
    simp [overallBorrowRate]
  · rw [overallBorrowRate, Nat.add_comm totalVariableDebt]
    exact (rayDiv_ok divided).2.symm

structure Rates (strategy : DefaultReserveInterestRateStrategy) (marketBorrowRate
    availableLiquidity totalStableDebt totalVariableDebt averageStableRate reserveFactor
    liquidityR stableR variableR : Nat) : Prop where
  stable : stableR = strategy.stableRate marketBorrowRate
    (utilizationRate availableLiquidity (totalStableDebt + totalVariableDebt))
  floating : variableR = strategy.variableRate
    (utilizationRate availableLiquidity (totalStableDebt + totalVariableDebt))
  overall : getOverallBorrowRate totalStableDebt totalVariableDebt variableR averageStableRate =
    .ok (overallBorrowRate totalStableDebt totalVariableDebt variableR averageStableRate)
  factor : reserveFactor ≤ PERCENTAGE_FACTOR
  liquidity : liquidityR = divHalfUp (divHalfUp
    (overallBorrowRate totalStableDebt totalVariableDebt variableR averageStableRate *
      utilizationRate availableLiquidity (totalStableDebt + totalVariableDebt)) RAY *
        (PERCENTAGE_FACTOR - reserveFactor)) PERCENTAGE_FACTOR

theorem calculateInterestRates_ok {market : Result Nat} {liquidityR stableR variableR : Nat}
    (computed : strategy.calculateInterestRates market availableLiquidity totalStableDebt
      totalVariableDebt averageStableRate reserveFactor = .ok (liquidityR, stableR, variableR)) :
    ∃ marketBorrowRate, market = .ok marketBorrowRate ∧
      Rates strategy marketBorrowRate availableLiquidity totalStableDebt totalVariableDebt
        averageStableRate reserveFactor liquidityR stableR variableR := by
  simp only [calculateInterestRates, bind_eq_ok, SafeMath.add_eq_ok, SafeMath.sub_eq_ok,
    rayMul_eq_ok, percentMul_eq_ok, pure_eq_ok, Prod.exists, Prod.mk.injEq] at computed
  obtain ⟨_, ⟨_, rfl⟩, _, utilized, marketBorrowRate, quoted, _, _, borrowed, _, overall, _,
    ⟨_, rfl⟩, _, ⟨factor, rfl⟩, _, ⟨_, rfl⟩, rfl, rfl, rfl⟩ := computed
  obtain rfl := calculateUtilizationRate_ok utilized
  obtain ⟨rfl, rfl⟩ := calculateBorrowRates_ok borrowed
  obtain rfl := getOverallBorrowRate_ok overall
  exact ⟨marketBorrowRate, quoted, rfl, rfl, overall, factor, rfl⟩

theorem utilizationRate_le (availableLiquidity totalDebt : Nat) :
    utilizationRate availableLiquidity totalDebt ≤ RAY := by
  rw [utilizationRate, Nat.mul_comm]
  exact divHalfUp_le_self (Nat.le_add_left _ _)

theorem utilizationRate_mono {availableLiquidity' totalDebt' : Nat} (order : totalDebt ≤ totalDebt')
    (whole : availableLiquidity + totalDebt = availableLiquidity' + totalDebt') :
    utilizationRate availableLiquidity totalDebt ≤
      utilizationRate availableLiquidity' totalDebt' := by
  rw [utilizationRate, utilizationRate, whole]
  exact divHalfUp_mono (Nat.mul_le_mul_right RAY order) _

variable {u u' : Nat}

theorem excessRatio_le (whole : u ≤ RAY) : strategy.excessRatio u ≤ RAY := by
  rw [excessRatio, Nat.mul_comm]
  exact divHalfUp_le_self (Nat.sub_le_sub_right whole _)

theorem excessRatio_mono (order : u ≤ u') : strategy.excessRatio u ≤ strategy.excessRatio u' :=
  divHalfUp_mono (Nat.mul_le_mul_right RAY (Nat.sub_le_sub_right order _)) _

-- The first slope is used up at the kink and not before.
theorem stableSlope_le (below : u ≤ strategy.OPTIMAL_UTILIZATION_RATE) :
    divHalfUp (strategy.stableRateSlope1 *
      divHalfUp (u * RAY) strategy.OPTIMAL_UTILIZATION_RATE) RAY ≤ strategy.stableRateSlope1 := by
  apply divHalfUp_le_self
  rw [Nat.mul_comm]
  exact divHalfUp_le_self below

theorem stableRate_bounds (whole : u ≤ RAY) :
    marketBorrowRate ≤ strategy.stableRate marketBorrowRate u ∧
      strategy.stableRate marketBorrowRate u ≤
        marketBorrowRate + strategy.stableRateSlope1 + strategy.stableRateSlope2 := by
  rw [stableRate]
  split_ifs with above
  · have share : divHalfUp (strategy.stableRateSlope2 * strategy.excessRatio u) RAY ≤
        strategy.stableRateSlope2 := divHalfUp_le_self (excessRatio_le whole)
    omega
  · have slope := stableSlope_le (Nat.le_of_not_lt above)
    omega

theorem stableRate_mono (order : u ≤ u') :
    strategy.stableRate marketBorrowRate u ≤ strategy.stableRate marketBorrowRate u' := by
  rw [stableRate, stableRate]
  by_cases above : strategy.OPTIMAL_UTILIZATION_RATE < u
  · have above' : strategy.OPTIMAL_UTILIZATION_RATE < u' := by omega
    rw [if_pos above, if_pos above']
    exact Nat.add_le_add_left (rayMul_mono (le_refl _) (excessRatio_mono order)) _
  · rw [if_neg above]
    split_ifs with above'
    · have slope := stableSlope_le (Nat.le_of_not_lt above)
      omega
    · have ratio := divHalfUp_mono (Nat.mul_le_mul_right RAY order) strategy.OPTIMAL_UTILIZATION_RATE
      exact Nat.add_le_add_left (rayMul_mono (le_refl _) ratio) _

theorem base_le_variableRate (u : Nat) :
    strategy.baseVariableBorrowRate ≤ strategy.variableRate u := by
  rw [variableRate]
  split_ifs
  · omega
  · omega

theorem variableRate_le (above : strategy.OPTIMAL_UTILIZATION_RATE < u) (whole : u ≤ RAY) :
    strategy.variableRate u ≤
      strategy.baseVariableBorrowRate + strategy.variableRateSlope1 + strategy.variableRateSlope2 := by
  rw [variableRate, if_pos above]
  exact Nat.add_le_add_left (divHalfUp_le_self (excessRatio_le whole)) _

-- The first slope, multiplied before it is divided: the product's half is worth that of a quotient.
theorem variableSlope_le (positive : 0 < strategy.OPTIMAL_UTILIZATION_RATE)
    (below : u ≤ strategy.OPTIMAL_UTILIZATION_RATE) :
    divHalfUp (divHalfUp (u * strategy.variableRateSlope1) RAY * RAY)
        strategy.OPTIMAL_UTILIZATION_RATE ≤
      strategy.variableRateSlope1 + (RAY + strategy.OPTIMAL_UTILIZATION_RATE) /
        (2 * strategy.OPTIMAL_UTILIZATION_RATE) := by
  have product := divHalfUp_upper (n := u * strategy.variableRateSlope1) RAY_pos
  generalize divHalfUp (u * strategy.variableRateSlope1) RAY = slope at *
  have quotient := divHalfUp_upper (n := slope * RAY) positive
  generalize divHalfUp (slope * RAY) strategy.OPTIMAL_UTILIZATION_RATE = rate at *
  have full := Nat.mul_le_mul_right strategy.variableRateSlope1 below
  rw [← Nat.sub_le_iff_le_add', Nat.le_div_iff_mul_le (by omega), Nat.sub_mul]
  have left : rate * (2 * strategy.OPTIMAL_UTILIZATION_RATE) =
      2 * (strategy.OPTIMAL_UTILIZATION_RATE * rate) := by ring
  have right : strategy.variableRateSlope1 * (2 * strategy.OPTIMAL_UTILIZATION_RATE) =
      2 * (strategy.OPTIMAL_UTILIZATION_RATE * strategy.variableRateSlope1) := by ring
  rw [Nat.mul_comm slope RAY] at quotient
  rw [left, right]
  omega

theorem variableRate_mono (positive : 0 < strategy.OPTIMAL_UTILIZATION_RATE) (order : u ≤ u') :
    strategy.variableRate u ≤ strategy.variableRate u' +
      (RAY + strategy.OPTIMAL_UTILIZATION_RATE) / (2 * strategy.OPTIMAL_UTILIZATION_RATE) := by
  rw [variableRate, variableRate]
  by_cases above : strategy.OPTIMAL_UTILIZATION_RATE < u
  · have above' : strategy.OPTIMAL_UTILIZATION_RATE < u' := by omega
    rw [if_pos above, if_pos above']
    have share : divHalfUp (strategy.variableRateSlope2 * strategy.excessRatio u) RAY ≤
        divHalfUp (strategy.variableRateSlope2 * strategy.excessRatio u') RAY :=
      rayMul_mono (le_refl _) (excessRatio_mono order)
    exact le_trans (Nat.add_le_add_left share _) (Nat.le_add_right _ _)
  · rw [if_neg above]
    have slope := variableSlope_le positive (Nat.le_of_not_lt above)
    split_ifs with above'
    · omega
    · have product : divHalfUp (u * strategy.variableRateSlope1) RAY ≤
          divHalfUp (u' * strategy.variableRateSlope1) RAY := rayMul_mono order (le_refl _)
      have quotient := divHalfUp_mono (Nat.mul_le_mul_right RAY product)
        strategy.OPTIMAL_UTILIZATION_RATE
      exact le_trans (Nat.add_le_add_left quotient _) (Nat.le_add_right _ _)

end DefaultReserveInterestRateStrategy

end PalmyProtocol
