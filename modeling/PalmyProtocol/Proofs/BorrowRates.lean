import PalmyProtocol.Pool.InterestRates
import PalmyProtocol.Proofs.AccrualFlows
import PalmyProtocol.System.World

set_option autoImplicit false

namespace PalmyProtocol

open Checked Rounding

namespace DefaultReserveInterestRateStrategy

variable {strategy : DefaultReserveInterestRateStrategy}
variable {marketBorrowRate availableLiquidity totalStableDebt totalVariableDebt averageStableRate
  reserveFactor utilization : Nat}

def Uncomputable (reserveFactor : Nat) (message : String) : Prop :=
  Overflow message ∨
    (PERCENTAGE_FACTOR < reserveFactor ∧ message = "SafeMath: subtraction overflow")

theorem wadToRay_overflows {a : Nat} : FailsWith Overflow (wadToRay a) :=
  failsWith_bind (failsWith_require fun _ => by simp [Overflow]) fun _ _ => failsWith_pure _

theorem calculateUtilizationRate_overflows (totalDebt : Nat) :
    FailsWith Overflow (calculateUtilizationRate availableLiquidity totalDebt) := by
  refine failsWith_ite (fun _ => failsWith_ok _) fun some => ?_
  refine failsWith_bind add_overflows fun totalLiquidity added => rayDiv_overflows ?_
  obtain ⟨_, rfl⟩ := SafeMath.add_eq_ok.1 added
  omega

-- A utilisation above the optimal one leaves an excess to divide by.
theorem calculateBorrowRates_overflows (positive : 0 < strategy.OPTIMAL_UTILIZATION_RATE)
    (whole : utilization ≤ RAY) :
    FailsWith Overflow (strategy.calculateBorrowRates marketBorrowRate utilization) := by
  refine failsWith_ite (fun above => ?_) fun below => ?_
  · have excess : strategy.EXCESS_UTILIZATION_RATE ≠ 0 := by
      rw [EXCESS_UTILIZATION_RATE]
      omega
    refine failsWith_bind (sub_never_fails (Nat.le_of_lt above)) fun _ _ => ?_
    refine failsWith_bind (rayDiv_overflows excess) fun _ _ => ?_
    refine failsWith_bind add_overflows fun _ _ => ?_
    refine failsWith_bind rayMul_overflows fun _ _ => ?_
    refine failsWith_bind add_overflows fun _ _ => ?_
    refine failsWith_bind add_overflows fun _ _ => ?_
    refine failsWith_bind rayMul_overflows fun _ _ => ?_
    exact failsWith_bind add_overflows fun _ _ => failsWith_pure _
  · have optimal : strategy.OPTIMAL_UTILIZATION_RATE ≠ 0 := Nat.pos_iff_ne_zero.1 positive
    refine failsWith_bind (rayDiv_overflows optimal) fun _ _ => ?_
    refine failsWith_bind rayMul_overflows fun _ _ => ?_
    refine failsWith_bind add_overflows fun _ _ => ?_
    refine failsWith_bind rayMul_overflows fun _ _ => ?_
    refine failsWith_bind (rayDiv_overflows optimal) fun _ _ => ?_
    exact failsWith_bind add_overflows fun _ _ => failsWith_pure _

theorem getOverallBorrowRate_overflows (variableR : Nat) :
    FailsWith Overflow (getOverallBorrowRate totalStableDebt totalVariableDebt variableR
      averageStableRate) := by
  refine failsWith_bind add_overflows fun totalDebt _ => ?_
  refine failsWith_ite (fun _ => failsWith_pure _) fun some => ?_
  refine failsWith_bind wadToRay_overflows fun _ _ => ?_
  refine failsWith_bind rayMul_overflows fun _ _ => ?_
  refine failsWith_bind wadToRay_overflows fun _ _ => ?_
  refine failsWith_bind rayMul_overflows fun _ _ => ?_
  refine failsWith_bind add_overflows fun _ _ => ?_
  refine failsWith_bind wadToRay_overflows fun totalInRay scaled => rayDiv_overflows ?_
  obtain ⟨_, rfl⟩ := wadToRay_eq_ok.1 scaled
  exact Nat.mul_ne_zero some (by decide)

theorem calculateInterestRates_fails (positive : 0 < strategy.OPTIMAL_UTILIZATION_RATE) :
    FailsWith (Uncomputable reserveFactor) (strategy.calculateInterestRates (.ok marketBorrowRate)
      availableLiquidity totalStableDebt totalVariableDebt averageStableRate reserveFactor) := by
  have overflows : ∀ message, Overflow message → Uncomputable reserveFactor message :=
    fun _ => .inl
  refine failsWith_bind (add_overflows.mono overflows) fun totalDebt _ => ?_
  refine failsWith_bind ((calculateUtilizationRate_overflows totalDebt).mono overflows)
    fun utilization utilized => ?_
  obtain rfl := calculateUtilizationRate_ok utilized
  refine failsWith_bind (failsWith_ok _) fun _ _ => ?_
  refine failsWith_bind ((calculateBorrowRates_overflows positive (utilizationRate_le _ _)).mono
    overflows) fun rates _ => ?_
  refine failsWith_bind ((getOverallBorrowRate_overflows _).mono overflows) fun _ _ => ?_
  refine failsWith_bind (rayMul_overflows.mono overflows) fun _ _ => ?_
  refine failsWith_bind (failsWith_ite (fun _ => failsWith_ok _) fun above => failsWith_error
    (.inr ⟨Nat.lt_of_not_le above, rfl⟩)) fun _ _ => ?_
  exact failsWith_bind (percentMul_overflows.mono overflows) fun _ _ => failsWith_pure _

structure RateInputs where
  availableLiquidity : Nat
  totalStableDebt : Nat
  totalVariableDebt : Nat
  averageStableBorrowRate : Nat
  reserveFactor : Nat

namespace RateInputs

variable (inputs : RateInputs)

def totalDebt : Nat := inputs.totalStableDebt + inputs.totalVariableDebt

def totalLiquidity : Nat := inputs.availableLiquidity + inputs.totalDebt

def interestRates (strategy : DefaultReserveInterestRateStrategy) (marketBorrowRate : Nat) :
    Result (Nat × Nat × Nat) :=
  strategy.calculateInterestRates (.ok marketBorrowRate) inputs.availableLiquidity
    inputs.totalStableDebt inputs.totalVariableDebt inputs.averageStableBorrowRate
    inputs.reserveFactor

variable {inputs} {inputs' : RateInputs} {liquidityR stableR variableR liquidityR' stableR'
  variableR' : Nat}

theorem interestRates_ok
    (computed : inputs.interestRates strategy marketBorrowRate =
      .ok (liquidityR, stableR, variableR)) :
    Rates strategy marketBorrowRate inputs.availableLiquidity inputs.totalStableDebt
      inputs.totalVariableDebt inputs.averageStableBorrowRate inputs.reserveFactor liquidityR
      stableR variableR := by
  obtain ⟨_, ⟨⟩, rates⟩ := calculateInterestRates_ok computed
  exact rates

-- Errors are texts, and that of a division by zero is none of those there are.
theorem interestRates_divides (positive : 0 < strategy.OPTIMAL_UTILIZATION_RATE) :
    inputs.interestRates strategy marketBorrowRate ≠ .error Errors.MATH_DIVISION_BY_ZERO := by
  intro failed
  rcases calculateInterestRates_fails positive _ failed with overflow | ⟨_, other⟩
  · revert overflow
    simp [Overflow, Errors.MATH_DIVISION_BY_ZERO, Errors.MATH_MULTIPLICATION_OVERFLOW,
      Errors.RL_LIQUIDITY_INDEX_OVERFLOW, Errors.RL_VARIABLE_BORROW_INDEX_OVERFLOW]
  · exact absurd other (by decide)

structure OnCurve (strategy : DefaultReserveInterestRateStrategy) (marketBorrowRate : Nat)
    (inputs : RateInputs) (stableR variableR : Nat) : Prop where
  market : marketBorrowRate ≤ stableR
  slopes : stableR ≤ marketBorrowRate + strategy.stableRateSlope1 + strategy.stableRateSlope2
  base : strategy.baseVariableBorrowRate ≤ variableR
  top : ∀ utilization maximum,
    calculateUtilizationRate inputs.availableLiquidity inputs.totalDebt = .ok utilization →
    strategy.OPTIMAL_UTILIZATION_RATE < utilization →
    strategy.getMaxVariableBorrowRate = .ok maximum → variableR ≤ maximum

theorem interestRates_onCurve
    (computed : inputs.interestRates strategy marketBorrowRate =
      .ok (liquidityR, stableR, variableR)) :
    OnCurve strategy marketBorrowRate inputs stableR variableR := by
  have rates := interestRates_ok computed
  have whole := utilizationRate_le inputs.availableLiquidity inputs.totalDebt
  obtain ⟨market, slopes⟩ : marketBorrowRate ≤ stableR ∧
      stableR ≤ marketBorrowRate + strategy.stableRateSlope1 + strategy.stableRateSlope2 := by
    rw [rates.stable]
    exact stableRate_bounds whole
  refine ⟨market, slopes, ?_, fun utilization maximum utilized above top => ?_⟩
  · rw [rates.floating]
    exact base_le_variableRate _
  rw [rates.floating]
  obtain rfl := calculateUtilizationRate_ok utilized
  simp only [getMaxVariableBorrowRate, bind_eq_ok, SafeMath.add_eq_ok] at top
  obtain ⟨_, ⟨_, rfl⟩, _, rfl⟩ := top
  exact variableRate_le above (utilizationRate_le _ _)

/-- Of a fixed total liquidity, the more is borrowed the more is charged. Dividing before or after
the multiplication is what the variable rate may lose at the kink. -/
theorem borrow_rates_rise (positive : 0 < strategy.OPTIMAL_UTILIZATION_RATE) :
    (∀ (inputs : RateInputs) (marketBorrowRate : Nat),
      (∀ utilization, calculateUtilizationRate inputs.availableLiquidity inputs.totalDebt =
        .ok utilization → utilization ≤ RAY) ∧
      inputs.interestRates strategy marketBorrowRate ≠ .error Errors.MATH_DIVISION_BY_ZERO ∧
      ∀ liquidityR stableR variableR, inputs.interestRates strategy marketBorrowRate =
        .ok (liquidityR, stableR, variableR) →
        OnCurve strategy marketBorrowRate inputs stableR variableR) ∧
    ∀ (inputs inputs' : RateInputs)
      (marketBorrowRate liquidityR stableR variableR liquidityR' stableR' variableR' : Nat),
      inputs.totalLiquidity = inputs'.totalLiquidity → inputs.totalDebt ≤ inputs'.totalDebt →
      inputs.interestRates strategy marketBorrowRate = .ok (liquidityR, stableR, variableR) →
      inputs'.interestRates strategy marketBorrowRate = .ok (liquidityR', stableR', variableR') →
      stableR ≤ stableR' ∧
        variableR ≤ variableR' + (RAY + strategy.OPTIMAL_UTILIZATION_RATE) /
          (2 * strategy.OPTIMAL_UTILIZATION_RATE) := by
  refine ⟨fun inputs market => ⟨fun utilization utilized => ?_, interestRates_divides positive,
    fun _ _ _ computed => interestRates_onCurve computed⟩, ?_⟩
  · rw [calculateUtilizationRate_ok utilized]
    exact utilizationRate_le _ _
  · intro inputs inputs' market _ _ _ _ _ _ total order computed computed'
    have rates := interestRates_ok computed
    have rates' := interestRates_ok computed'
    have utilization := utilizationRate_mono order total
    rw [rates.stable, rates'.stable, rates.floating, rates'.floating]
    exact ⟨stableRate_mono utilization, variableRate_mono positive utilization⟩

-- A quarter and then nine tenths of a hundred units borrowed, before and behind the kink.
theorem borrow_rates_rise_at_market :
    0 < Market.strategy.OPTIMAL_UTILIZATION_RATE ∧
      ∃ liquidityR stableR variableR liquidityR' stableR' variableR',
        interestRates ⟨75, 5, 20, 0, 1000⟩ Market.strategy 7 =
          .ok (liquidityR, stableR, variableR) ∧
        interestRates ⟨10, 50, 40, 0, 1000⟩ Market.strategy 7 =
          .ok (liquidityR', stableR', variableR') ∧
        stableR ≤ stableR' ∧
        variableR ≤ variableR' + (RAY + Market.strategy.OPTIMAL_UTILIZATION_RATE) /
          (2 * Market.strategy.OPTIMAL_UTILIZATION_RATE) := by
  have positive : 0 < Market.strategy.OPTIMAL_UTILIZATION_RATE := by decide
  have rising := borrow_rates_rise positive
  have before : yields (interestRates ⟨75, 5, 20, 0, 1000⟩ Market.strategy 7)
      (fun _ => True) := by
    decide +kernel
  have behind : yields (interestRates ⟨10, 50, 40, 0, 1000⟩ Market.strategy 7)
      (fun _ => True) := by
    decide +kernel
  obtain ⟨⟨_, _, _⟩, computed, _⟩ := yields_iff.1 before
  obtain ⟨⟨_, _, _⟩, computed', _⟩ := yields_iff.1 behind
  exact ⟨positive, _, _, _, _, _, _, computed, computed',
    rising.2 _ _ _ _ _ _ _ _ _ (by decide) (by decide) computed computed'⟩

/-- The pool keeps what the rounding leaves: suppliers earn no higher rate than borrowers pay. The
scaling to rays is lost on a debt below the unit of a token of eighteen decimals. -/
theorem suppliers_below_borrowers (inputs : RateInputs)
    (marketBorrowRate liquidityR stableR variableR : Nat)
    (computed : inputs.interestRates strategy marketBorrowRate =
      .ok (liquidityR, stableR, variableR)) :
    (∃ overall, getOverallBorrowRate inputs.totalStableDebt inputs.totalVariableDebt variableR
        inputs.averageStableBorrowRate = .ok overall ∧ liquidityR ≤ overall ∧
        (0 < inputs.totalDebt → overall ≤
          max variableR inputs.averageStableBorrowRate + 10 ^ 18 / inputs.totalDebt + 1)) ∧
      (inputs.totalDebt = 0 → liquidityR = 0) := by
  have rates := interestRates_ok computed
  have share : liquidityR ≤ overallBorrowRate inputs.totalStableDebt inputs.totalVariableDebt
      variableR inputs.averageStableBorrowRate := by
    rw [rates.liquidity]
    exact le_trans (divHalfUp_le_self (Nat.sub_le _ _))
      (divHalfUp_le_self (utilizationRate_le _ _))
  refine ⟨⟨_, rates.overall, share, fun owed => ?_⟩, fun none => ?_⟩
  · have scaled : RAY / (inputs.totalDebt * WAD_RAY_RATIO) = 10 ^ 18 / inputs.totalDebt := by
      rw [show RAY = 10 ^ 18 * WAD_RAY_RATIO by decide]
      exact Nat.mul_div_mul_right _ _ (by decide)
    have total : inputs.totalVariableDebt + inputs.totalStableDebt = inputs.totalDebt :=
      Nat.add_comm _ _
    have weight : 0 < (inputs.totalVariableDebt + inputs.totalStableDebt) * WAD_RAY_RATIO :=
      total ▸ Nat.mul_pos owed (by decide)
    rw [overallBorrowRate, ← scaled, ← total]
    exact divHalfUp_mean_le RAY_pos weight
  · obtain ⟨stable, floating⟩ := Nat.add_eq_zero_iff.1 none
    rw [stable, floating] at share
    simpa [overallBorrowRate, divHalfUp] using share

-- One unit of dust, borrowed at a tenth.
theorem suppliers_below_borrowers_of_dust :
    ∃ liquidityR stableR variableR overall,
      interestRates ⟨0, 1, 0, RAY / 10, 1000⟩ Market.strategy 7 =
        .ok (liquidityR, stableR, variableR) ∧
      getOverallBorrowRate 1 0 variableR (RAY / 10) = .ok overall ∧ liquidityR ≤ overall ∧
      overall ≤ max variableR (RAY / 10) + 10 ^ 18 / 1 + 1 := by
  have outcome : yields (interestRates ⟨0, 1, 0, RAY / 10, 1000⟩ Market.strategy 7)
      (fun _ => True) := by
    decide +kernel
  obtain ⟨⟨_, _, _⟩, computed, _⟩ := yields_iff.1 outcome
  obtain ⟨⟨overall, charged, share, mean⟩, _⟩ := suppliers_below_borrowers _ _ _ _ _ computed
  exact ⟨_, _, _, overall, computed, charged, share, mean (by decide)⟩

end RateInputs

end DefaultReserveInterestRateStrategy

end PalmyProtocol
