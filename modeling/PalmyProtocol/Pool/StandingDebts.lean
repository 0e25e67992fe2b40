import PalmyProtocol.Pool.ReserveSteps

set_option autoImplicit false

namespace PalmyProtocol

open Checked Rounding MathUtils

theorem ReserveData.accruedVariableBorrowIndex_current {reserve : ReserveData} {now : Nat}
    (current : reserve.lastUpdateTimestamp = now) (scaledVariableDebt : Nat) :
    reserve.accruedVariableBorrowIndex now scaledVariableDebt = reserve.variableBorrowIndex := by
  rw [accruedVariableBorrowIndex, current, Nat.sub_self, compoundedInterest_zero, Nat.mul_comm,
    rayMul_RAY, ite_self]

namespace Reserve

variable (reserve : Reserve)

def previousStableDebt : Result Nat := do
  let cumulatedStableInterest ← calculateCompoundedInterest reserve.stableDebtToken.avgStableRate
    reserve.stableDebtToken.totalSupplyTimestamp reserve.lastUpdateTimestamp
  rayMul reserve.stableDebtToken.base.totalSupply cumulatedStableInterest

def previousVariableDebt : Result Nat :=
  rayMul reserve.variableDebtToken.scaledTotalSupply reserve.variableBorrowIndex

def standingDebt : Nat :=
  reserve.stableDebtToken.supply reserve.lastUpdateTimestamp +
    divHalfUp (reserve.variableDebtToken.base.totalSupply * reserve.variableBorrowIndex) RAY

structure OpenDebts where
  stableSupply : Nat
  avgStableRate : Nat
  totalSupplyTimestamp : Nat
  scaledVariableDebt : Nat
  variableBorrowIndex : Nat
  lastUpdateTimestamp : Nat

def openDebts : OpenDebts where
  stableSupply := reserve.stableDebtToken.base.totalSupply
  avgStableRate := reserve.stableDebtToken.avgStableRate
  totalSupplyTimestamp := reserve.stableDebtToken.totalSupplyTimestamp
  scaledVariableDebt := reserve.variableDebtToken.base.totalSupply
  variableBorrowIndex := reserve.variableBorrowIndex
  lastUpdateTimestamp := reserve.lastUpdateTimestamp

variable {reserve} {after : Reserve} {now scaled previous next total c : Nat}

theorem standingDebt_congr (same : after.openDebts = reserve.openDebts) :
    after.standingDebt = reserve.standingDebt := by
  simp only [openDebts, OpenDebts.mk.injEq] at same
  obtain ⟨supply, rate, stamp, scaled, index, updated⟩ := same
  simp only [standingDebt, StableDebtToken.supply, supply, rate, stamp, scaled, index, updated]

theorem previousStableDebt_ok (computed : reserve.previousStableDebt = .ok c) :
    reserve.stableDebtToken.totalSupply reserve.lastUpdateTimestamp = .ok c := by
  simp only [previousStableDebt, bind_eq_ok] at computed
  obtain ⟨interest, compounded, multiplied⟩ := computed
  rw [StableDebtToken.totalSupply, StableDebtToken.calcTotalSupply]
  split_ifs with none
  · rw [none] at multiplied
    obtain ⟨_, rfl⟩ := rayMul_eq_ok.1 multiplied
    rw [Nat.zero_mul, divHalfUp_zero]
  · exact bind_eq_ok.2 ⟨interest, compounded, multiplied⟩

theorem accruedDebt_ok (computed : reserve.accruedDebt now scaled previous next
      reserve.lastUpdateTimestamp = .ok total) :
    ∃ previousStable currentStable, reserve.previousStableDebt = .ok previousStable ∧
      reserve.stableDebtToken.totalSupply now = .ok currentStable ∧
      rayMul scaled previous = .ok (divHalfUp (scaled * previous) RAY) ∧
      total + (previousStable + divHalfUp (scaled * previous) RAY) =
        currentStable + divHalfUp (scaled * next) RAY := by
  simp only [accruedDebt, bind_eq_ok, Prod.exists] at computed
  obtain ⟨_, _, _, _, viewed, previousVariable, before, currentVariable, later, interest, compounded,
    previousStable, held, _, summed, _, first, second⟩ := computed
  simp only [StableDebtToken.getSupplyData, bind_eq_ok, pure_eq_ok, Prod.mk.injEq] at viewed
  obtain ⟨currentStable, supplied, rfl, rfl, rfl, rfl⟩ := viewed
  have recomputed : reserve.previousStableDebt = .ok previousStable :=
    bind_eq_ok.2 ⟨interest, compounded, held⟩
  refine ⟨previousStable, currentStable, recomputed, supplied, ?_, ?_⟩
  · obtain ⟨_, rfl⟩ := rayMul_eq_ok.1 before
    exact before
  · obtain ⟨_, rfl⟩ := rayMul_eq_ok.1 before
    obtain ⟨_, rfl⟩ := rayMul_eq_ok.1 later
    obtain ⟨_, rfl⟩ := SafeMath.add_eq_ok.1 summed
    obtain ⟨enough, rfl⟩ := SafeMath.sub_eq_ok.1 first
    obtain ⟨more, rfl⟩ := SafeMath.sub_eq_ok.1 second
    omega

theorem accruedDebt_again (current : reserve.lastUpdateTimestamp = now)
    (computed : reserve.accruedDebt now scaled previous previous reserve.lastUpdateTimestamp =
      .ok total) : total = 0 := by
  obtain ⟨previousStable, currentStable, recomputed, supplied, _, balance⟩ :=
    accruedDebt_ok computed
  have same := previousStableDebt_ok recomputed
  rw [current, supplied] at same
  obtain rfl := Except.ok.inj same
  omega

theorem updateState_again (current : reserve.lastUpdateTimestamp = now) (small : now < 2 ^ 40)
    (computed : reserve.updateState now = .ok after) : after = reserve := by
  obtain ⟨lToken, liquidityIndex, variableBorrowIndex, run⟩ := updateState_ok computed
  have stamp : reserve.lastUpdateTimestamp = uint40 now := by rw [current, uint40_of_lt small]
  have liquidity : liquidityIndex = reserve.liquidityIndex := by
    rw [run.liquidity, ReserveData.accruedLiquidityIndex_eq small, ReserveData.normalizedIncome,
      if_pos stamp]
  have floating : variableBorrowIndex = reserve.variableBorrowIndex := by
    rw [run.floating, ReserveData.accruedVariableBorrowIndex_current current]
  have treasury := run.treasury
  rw [floating] at treasury
  have unminted : lToken = reserve.lToken := by
    simp only [mintToTreasury, ite_eq_ok, bind_eq_ok, pure_eq_ok, Except.ok.injEq] at treasury
    rcases treasury with ⟨_, same⟩ | ⟨_, total, accrued, amount, share, minted⟩
    · exact same.symm
    · obtain rfl := accruedDebt_again current accrued
      obtain ⟨_, rfl⟩ := percentMul_eq_ok.1 share
      rcases minted with ⟨some, _⟩ | ⟨_, same⟩
      · rw [Nat.zero_mul, divHalfUp_zero] at some
        exact absurd rfl some
      · exact same.symm
  rw [run.result, liquidity, floating, ← stamp, unminted]

variable {env : Env}

-- Within the block of an update only the liquidity index still moves, by a flash loan's premium.
theorem Operation.current (current : reserve.lastUpdateTimestamp = env.timestamp)
    (operation : Reserve.Operation env reserve after) :
    after.lastUpdateTimestamp = env.timestamp ∧
      after.variableBorrowIndex = reserve.variableBorrowIndex := by
  cases operation.moved with
  | accrue computed =>
      rw [updateState_again current env.timestamp_lt computed]
      exact ⟨current, rfl⟩
  | rate data =>
      rw [data]
      exact ⟨current, rfl⟩
  | income computed =>
      obtain ⟨_, _, _, data⟩ := ReserveData.cumulateToLiquidityIndex_ok computed
      rw [data]
      exact ⟨current, rfl⟩
  | keep data =>
      rw [data]
      exact ⟨current, rfl⟩

theorem Operations.current (current : reserve.lastUpdateTimestamp = env.timestamp)
    (operations : Reserve.Operations env reserve after) :
    after.lastUpdateTimestamp = env.timestamp ∧
      after.variableBorrowIndex = reserve.variableBorrowIndex := by
  induction operations with
  | refl => exact ⟨current, rfl⟩
  | tail _ last ih =>
      obtain ⟨stamp, index⟩ := last.current ih.1
      exact ⟨stamp, index.trans ih.2⟩

theorem Worked.current {accrued : Reserve} (worked : Reserve.Worked env reserve accrued after) :
    after.lastUpdateTimestamp = env.timestamp ∧
      after.variableBorrowIndex = accrued.variableBorrowIndex :=
  worked.operations.current (updateState_timestamp worked.accrue)

end Reserve

end PalmyProtocol
