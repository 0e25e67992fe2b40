import PalmyProtocol.Pool.ReserveDebts
import PalmyProtocol.Pool.StandingDebts
import PalmyProtocol.Proofs.RatesMatch
import PalmyProtocol.System.LTokenMoves

set_option autoImplicit false

namespace PalmyProtocol

open Checked Rounding LendingPool

-- What users do for themselves at the variable rate.
inductive OwnOperation where
  | deposit (amount : Nat)
  | withdraw (amount : Nat)
  | borrow (amount : Nat)
  | repay (amount : Nat)

structure Terms where
  lTokens : Nat
  scaledDebt : Nat
  stableDebt : Nat
  liquidityIndex : Nat
  variableBorrowIndex : Nat
  normalizedDebt : Nat
  id : Nat
  config : UserConfigurationMap

def LendingPool.terms (env : Env) (pool : LendingPool) (asset user : Address) : Terms where
  lTokens := (pool.reserves asset).lToken.base.balances user
  scaledDebt := (pool.reserves asset).variableDebtToken.base.balances user
  stableDebt := (pool.reserves asset).stableDebtToken.debt env.timestamp user
  liquidityIndex := (pool.reserves asset).accruedLiquidityIndex env.timestamp
  variableBorrowIndex := (pool.reserves asset).accruedVariableBorrowIndex env.timestamp
    (pool.reserves asset).variableDebtToken.base.totalSupply
  normalizedDebt := (pool.reserves asset).normalizedDebt env.timestamp
  id := (pool.reserves asset).id
  config := pool.usersConfig user

namespace Terms

variable (terms : Terms)

def balance : Nat := divHalfUp (terms.lTokens * terms.liquidityIndex) RAY

def shownDebt : Nat := divHalfUp (terms.scaledDebt * terms.normalizedDebt) RAY
def chargedDebt : Nat := divHalfUp (terms.scaledDebt * terms.variableBorrowIndex) RAY

def settled : Terms := { terms with normalizedDebt := terms.variableBorrowIndex }

end Terms

structure Movement where
  lTokensIn : Nat
  lTokensOut : Nat
  debtIn : Nat
  debtOut : Nat
  cashIn : Nat
  cashOut : Nat

namespace OwnOperation

def call (asset user : Address) : OwnOperation → Call
  | deposit amount => .deposit asset amount user
  | withdraw amount => .withdraw asset amount user
  | borrow amount => .borrow asset amount 2 user
  | repay amount => .repay asset amount 2 user

def withdrawn (terms : Terms) (amount : Nat) : Nat :=
  if amount = maxUint256 then terms.balance else amount

def movement (terms : Terms) : OwnOperation → Movement
  | deposit amount => ⟨divHalfUp (amount * RAY) terms.liquidityIndex, 0, 0, 0, amount, 0⟩
  | withdraw amount => ⟨0, divHalfUp (withdrawn terms amount * RAY) terms.liquidityIndex, 0, 0, 0,
      withdrawn terms amount⟩
  | borrow amount => ⟨0, 0, divHalfUp (amount * RAY) terms.variableBorrowIndex, 0, 0, amount⟩
  | repay amount => ⟨0, 0, 0, divHalfUp (min amount terms.shownDebt * RAY)
      terms.variableBorrowIndex, min amount terms.shownDebt, 0⟩

def flagged (terms : Terms) : OwnOperation → Result UserConfigurationMap
  | deposit _ =>
    if terms.lTokens = 0 then terms.config.setUsingAsCollateral terms.id true else .ok terms.config
  | withdraw amount =>
    if withdrawn terms amount = terms.balance then
      terms.config.setUsingAsCollateral terms.id false
    else .ok terms.config
  | borrow _ =>
    if terms.scaledDebt = 0 then terms.config.setBorrowing terms.id true else .ok terms.config
  | repay amount =>
    if terms.stableDebt + terms.shownDebt - min amount terms.shownDebt = 0 then
      terms.config.setBorrowing terms.id false
    else .ok terms.config

end OwnOperation

def Shifted (before after : Address → Nat) (user : Address) (out received : Nat) : Prop :=
  ∀ a, after a + (if a = user then out else 0) = before a + if a = user then received else 0

structure Reserve.Turned (user : Address) (movement : Movement) (accrued after : Reserve) : Prop where
  lTokens : Shifted accrued.lToken.base.balances after.lToken.base.balances user
    movement.lTokensOut movement.lTokensIn
  lTokenSupply : after.lToken.base.totalSupply + movement.lTokensOut =
    accrued.lToken.base.totalSupply + movement.lTokensIn
  debts : Shifted accrued.variableDebtToken.base.balances after.variableDebtToken.base.balances user
    movement.debtOut movement.debtIn
  debtSupply : after.variableDebtToken.base.totalSupply + movement.debtOut =
    accrued.variableDebtToken.base.totalSupply + movement.debtIn
  underlying : ∀ a, after.underlying.balances a + (if a = user then movement.cashIn else 0) +
      (if a = accrued.lTokenAddress then movement.cashOut else 0) =
    accrued.underlying.balances a + (if a = accrued.lTokenAddress then movement.cashIn else 0) +
      if a = user then movement.cashOut else 0
  stable : after.stableDebtToken = accrued.stableDebtToken
  data : after.toReserveData = { accrued.toReserveData with
    currentLiquidityRate := after.currentLiquidityRate
    currentVariableBorrowRate := after.currentVariableBorrowRate
    currentStableBorrowRate := after.currentStableBorrowRate }

structure Performed (env : Env) (asset user : Address) (movement : Movement)
    (config : UserConfigurationMap) (accrued : Reserve) (pool after : LendingPool) : Prop where
  accrue : (pool.reserves asset).updateState env.timestamp = .ok accrued
  turned : Reserve.Turned user movement accrued (after.reserves asset)
  rates : (after.reserves asset).RatesMatch env asset
  usersConfig : after.usersConfig = Function.update pool.usersConfig user config

namespace Reserve

variable {env : Env} {reserve accrued after : Reserve} {user asset : Address}

theorem shifted_refl (before : Address → Nat) (user : Address) : Shifted before before user 0 0 :=
  fun _ => rfl

structure AccruedFor (env : Env) (user : Address) (reserve accrued : Reserve) : Prop where
  lTokens : accrued.lToken.base.balances user = reserve.lToken.base.balances user
  liquidityIndex : accrued.liquidityIndex = reserve.accruedLiquidityIndex env.timestamp
  variableBorrowIndex : accrued.variableBorrowIndex = reserve.accruedVariableBorrowIndex
    env.timestamp reserve.variableDebtToken.base.totalSupply
  timestamp : accrued.lastUpdateTimestamp = env.timestamp
  debts : SameDebts reserve accrued
  id : accrued.id = reserve.id
  address : accrued.lTokenAddress = reserve.lTokenAddress
  underlying : accrued.underlying = reserve.underlying

theorem updateState_for (apart : user ≠ reserve.lToken.treasury)
    (computed : reserve.updateState env.timestamp = .ok accrued) :
    AccruedFor env user reserve accrued := by
  obtain ⟨_, minted, balances, _⟩ := updateState_quiet computed
  have keeps := Keeps.of_operation (.accrue computed)
  have poked := updateState_poked computed
  obtain ⟨_, _, _, run⟩ := updateState_ok computed
  refine ⟨?_, ?_, ?_, updateState_timestamp computed, updateState_sameDebts computed, keeps.id,
    keeps.lTokenAddress, poked.underlying⟩
  · rw [balances, if_neg apart, Nat.add_zero]
  · rw [run.result]
    exact run.liquidity
  · rw [run.result]
    exact run.floating

end Reserve

namespace LendingPool

variable {env : Env} {pool after : LendingPool} {asset user : Address} {amount : Nat}

-- The scaled amounts stay variables in these four: the sums around them are not to be computed.
theorem deposit_performed (apart : user ≠ (pool.reserves asset).lTokenAddress)
    (own : user ≠ (pool.reserves asset).lToken.treasury)
    (computed : pool.deposit env user asset amount user = .ok after) :
    ∃ accrued config, (OwnOperation.deposit amount).flagged (pool.terms env asset user) =
        .ok config ∧
      Performed env asset user ((OwnOperation.deposit amount).movement (pool.terms env asset user))
        config accrued pool after := by
  have rates := deposit_ratesMatch apart computed
  obtain ⟨accrued, rated, funded, minted, first, config, run⟩ := deposit_ok computed
  have start := Reserve.updateState_for own run.accrue
  obtain ⟨_, _, _, _, rate⟩ := Reserve.updateInterestRates_ok run.rate
  obtain ⟨underlying, fund, fundShape⟩ := Reserve.transferUnderlyingFrom_ok run.fund
  obtain ⟨lToken, mint, mintShape⟩ := Reserve.mintLToken_ok run.mint
  obtain ⟨moved, transferred, paid⟩ := ERC20.transferFrom_ok fund
  obtain ⟨_, _, _, cash⟩ := ERC20.transfer_ok transferred
  have books : funded.lToken = accrued.lToken ∧ funded.liquidityIndex = accrued.liquidityIndex := by
    rw [fundShape, rate.result]
    exact ⟨rfl, rfl⟩
  obtain ⟨scaled, index, balances, supply⟩ : ∃ scaled,
      scaled = divHalfUp (amount * RAY) accrued.liquidityIndex ∧
      (∀ a, lToken.base.balances a =
        accrued.lToken.base.balances a + if a = user then scaled else 0) ∧
      lToken.base.totalSupply = accrued.lToken.base.totalSupply + scaled := by
    rw [← books.1, ← books.2]
    exact ⟨_, rfl, mint.balances, mint.totalSupply⟩
  have movement : (OwnOperation.deposit amount).movement (pool.terms env asset user) =
      ⟨scaled, 0, 0, 0, amount, 0⟩ := by
    rw [index, start.liquidityIndex]
    rfl
  have here : after.reserves asset = { accrued with
      lToken, underlying
      currentLiquidityRate := (after.reserves asset).currentLiquidityRate
      currentVariableBorrowRate := (after.reserves asset).currentVariableBorrowRate
      currentStableBorrowRate := (after.reserves asset).currentStableBorrowRate } := by
    rw [run.result, setUserConfig_reserves, setReserve_same, mintShape, fundShape, rate.result]
  have opened : first = decide (accrued.lToken.base.balances user = 0) := by
    rw [← books.1]
    exact mint.first
  have same : minted.id = (pool.reserves asset).id := by
    rw [mintShape, fundShape, rate.result]
    exact start.id
  refine ⟨accrued, config, ?_, run.accrue, ?_, rates, ?_⟩
  · have flag := run.flag
    rw [opened, start.lTokens, same] at flag
    by_cases fresh : (pool.reserves asset).lToken.base.balances user = 0
    · simpa [OwnOperation.flagged, terms, fresh] using flag
    · simpa [OwnOperation.flagged, terms, fresh] using flag
  · rw [movement, here]
    refine ⟨?_, ?_, Reserve.shifted_refl _ _, rfl, ?_, rfl, rfl⟩
    · intro a
      simpa using balances a
    · exact supply
    · intro a
      have into := cash a
      rw [rate.result] at into
      simp only [paid, start.address, ite_self, Nat.add_zero] at into ⊢
      exact into
  · rw [run.result]
    rfl

theorem withdraw_performed {taken : Nat} (apart : user ≠ (pool.reserves asset).lTokenAddress)
    (own : user ≠ (pool.reserves asset).lToken.treasury)
    (computed : pool.withdraw env user asset amount user = .ok (after, taken)) :
    ∃ accrued config, (OwnOperation.withdraw amount).flagged (pool.terms env asset user) =
        .ok config ∧
      Performed env asset user ((OwnOperation.withdraw amount).movement (pool.terms env asset user))
        config accrued pool after := by
  have rates := withdraw_ratesMatch apart computed
  obtain ⟨userBalance, accrued, rated, burned, config, sum, run⟩ := withdraw_ok computed
  have start := Reserve.updateState_for own run.accrue
  obtain ⟨_, _, _, _, rate⟩ := Reserve.updateInterestRates_ok run.rate
  obtain ⟨lToken, underlying, burn, transferred, shape⟩ := Reserve.burnLToken_ok run.burn
  obtain ⟨_, _, _, cash⟩ := ERC20.transfer_ok transferred
  obtain ⟨_, owned⟩ := Reserve.lTokenBalanceOf_ok run.balance
  rw [← ReserveData.accruedLiquidityIndex_eq env.timestamp_lt] at owned
  have read : userBalance = (pool.terms env asset user).balance := owned
  have paid : taken = OwnOperation.withdrawn (pool.terms env asset user) amount := by
    rw [sum, read]
    rfl
  obtain ⟨scaled, index, balances, supply⟩ : ∃ scaled,
      scaled = divHalfUp (taken * RAY) accrued.liquidityIndex ∧
      (∀ a, lToken.base.balances a + (if a = user then scaled else 0) =
        accrued.lToken.base.balances a) ∧
      lToken.base.totalSupply + scaled = accrued.lToken.base.totalSupply := by
    have books : rated.lToken = accrued.lToken ∧ rated.liquidityIndex = accrued.liquidityIndex := by
      rw [rate.result]
      exact ⟨rfl, rfl⟩
    rw [← books.1, ← books.2]
    exact ⟨_, rfl, burn.balances, burn.totalSupply⟩
  have movement : (OwnOperation.withdraw amount).movement (pool.terms env asset user) =
      ⟨0, scaled, 0, 0, 0, taken⟩ := by
    rw [index, start.liquidityIndex, paid]
    rfl
  have here : after.reserves asset = { accrued with
      lToken, underlying
      currentLiquidityRate := (after.reserves asset).currentLiquidityRate
      currentVariableBorrowRate := (after.reserves asset).currentVariableBorrowRate
      currentStableBorrowRate := (after.reserves asset).currentStableBorrowRate } := by
    rw [run.result, setUserConfig_reserves, setReserve_same, shape, rate.result]
  have same : rated.id = (pool.reserves asset).id := by
    rw [rate.result]
    exact start.id
  refine ⟨accrued, config, ?_, run.accrue, ?_, rates, ?_⟩
  · have flag := run.flag
    rw [same, read, paid] at flag
    exact flag
  · rw [movement, here]
    refine ⟨?_, ?_, Reserve.shifted_refl _ _, rfl, ?_, rfl, rfl⟩
    · intro a
      simpa using balances a
    · exact supply
    · intro a
      have out := cash a
      rw [rate.result] at out
      simp only [ite_self, Nat.add_zero] at out ⊢
      exact out
  · rw [run.result]
    rfl

theorem borrow_performed (apart : user ≠ (pool.reserves asset).lTokenAddress)
    (own : user ≠ (pool.reserves asset).lToken.treasury)
    (computed : pool.borrow env user asset amount 2 user = .ok after) :
    ∃ accrued config, (OwnOperation.borrow amount).flagged (pool.terms env asset user) =
        .ok config ∧
      Performed env asset user ((OwnOperation.borrow amount).movement (pool.terms env asset user))
        config accrued pool after := by
  simp only [borrow, whenNotPaused, bind_eq_ok, require_eq_ok, exists_const] at computed
  obtain ⟨_, lent⟩ := computed
  have rates := executeBorrow_ratesMatch rfl (fun _ => apart) lent
  obtain ⟨_, accrued, minted, rated, released, mode, first, config, run⟩ := executeBorrow_ok lent
  have rateMode : mode = .VARIABLE := by
    have chosen := run.chosen
    cases chosen
    rfl
  subst rateMode
  have start := Reserve.updateState_for own run.accrue
  obtain ⟨_, _, _, _, rate⟩ := Reserve.updateInterestRates_ok run.rate
  have mint := run.mint
  rw [if_neg (by decide)] at mint
  obtain ⟨variableDebtToken, minting, mintShape⟩ := Reserve.mintVariableDebt_ok mint
  have release := run.release
  rw [if_pos rfl] at release
  obtain ⟨_, underlying, transferred, shape⟩ := Reserve.transferUnderlyingTo_ok release
  obtain ⟨_, _, _, cash⟩ := ERC20.transfer_ok transferred
  obtain ⟨scaled, index, balances, supply⟩ : ∃ scaled,
      scaled = divHalfUp (amount * RAY) accrued.variableBorrowIndex ∧
      (∀ a, variableDebtToken.base.balances a =
        accrued.variableDebtToken.base.balances a + if a = user then scaled else 0) ∧
      variableDebtToken.base.totalSupply =
        accrued.variableDebtToken.base.totalSupply + scaled :=
    ⟨_, rfl, minting.balances, minting.totalSupply⟩
  have movement : (OwnOperation.borrow amount).movement (pool.terms env asset user) =
      ⟨0, 0, scaled, 0, 0, amount⟩ := by
    rw [index, start.variableBorrowIndex]
    rfl
  have here : after.reserves asset = { accrued with
      variableDebtToken, underlying
      currentLiquidityRate := (after.reserves asset).currentLiquidityRate
      currentVariableBorrowRate := (after.reserves asset).currentVariableBorrowRate
      currentStableBorrowRate := (after.reserves asset).currentStableBorrowRate } := by
    rw [run.result, setUserConfig_reserves, setReserve_same, shape, rate.result, mintShape]
  have same : minted.id = (pool.reserves asset).id := by
    rw [mintShape]
    exact start.id
  refine ⟨accrued, config, ?_, run.accrue, ?_, rates, ?_⟩
  · have flag := run.flag
    rw [minting.first, start.debts.floating, same] at flag
    by_cases fresh : (pool.reserves asset).variableDebtToken.base.balances user = 0
    · simpa [OwnOperation.flagged, terms, fresh] using flag
    · simpa [OwnOperation.flagged, terms, fresh] using flag
  · rw [movement, here]
    refine ⟨Reserve.shifted_refl _ _, rfl, ?_, ?_, ?_, rfl, rfl⟩
    · intro a
      simpa using balances a
    · exact supply
    · intro a
      have out := cash a
      rw [rate.result, mintShape] at out
      simp only [ite_self, Nat.add_zero] at out ⊢
      exact out
  · rw [run.result]
    rfl

theorem repay_performed {payback : Nat} (apart : user ≠ (pool.reserves asset).lTokenAddress)
    (own : user ≠ (pool.reserves asset).lToken.treasury)
    (computed : pool.repay env user asset amount 2 user = .ok (after, payback)) :
    ∃ accrued config, (OwnOperation.repay amount).flagged (pool.terms env asset user) =
        .ok config ∧
      Performed env asset user ((OwnOperation.repay amount).movement (pool.terms env asset user))
        config accrued pool after := by
  have rates := repay_ratesMatch apart computed
  obtain ⟨mode, stableDebt, variableDebt, accrued, burned, rated, funded, config, chosen, run⟩ :=
    repay_ok computed
  have rateMode : mode = .VARIABLE := by
    cases chosen
    rfl
  subst rateMode
  have start := Reserve.updateState_for own run.accrue
  obtain ⟨_, _, _, _, rate⟩ := Reserve.updateInterestRates_ok run.rate
  obtain ⟨viewed, shown⟩ := Reserve.getUserCurrentDebt_ok run.debts
  obtain ⟨_, stable⟩ := Reserve.stableDebtBalanceOf_ok viewed
  obtain ⟨_, floating⟩ := Reserve.variableDebtBalanceOf_ok shown
  have paid : payback = min amount (pool.terms env asset user).shownDebt := by
    rw [run.bounded, if_neg (by decide), floating]
    rfl
  have burn := run.burn
  rw [if_neg (by decide)] at burn
  obtain ⟨variableDebtToken, burning, burnShape⟩ := Reserve.burnVariableDebt_ok burn
  obtain ⟨underlying, fund, shape⟩ := Reserve.transferUnderlyingFrom_ok run.fund
  obtain ⟨moved, transferred, funds⟩ := ERC20.transferFrom_ok fund
  obtain ⟨_, _, _, cash⟩ := ERC20.transfer_ok transferred
  obtain ⟨scaled, index, balances, supply⟩ : ∃ scaled,
      scaled = divHalfUp (payback * RAY) accrued.variableBorrowIndex ∧
      (∀ a, variableDebtToken.base.balances a + (if a = user then scaled else 0) =
        accrued.variableDebtToken.base.balances a) ∧
      variableDebtToken.base.totalSupply + scaled =
        accrued.variableDebtToken.base.totalSupply :=
    ⟨_, rfl, burning.balances, burning.totalSupply⟩
  have movement : (OwnOperation.repay amount).movement (pool.terms env asset user) =
      ⟨0, 0, 0, scaled, payback, 0⟩ := by
    rw [index, start.variableBorrowIndex, paid]
    rfl
  have here : after.reserves asset = { accrued with
      variableDebtToken, underlying
      currentLiquidityRate := (after.reserves asset).currentLiquidityRate
      currentVariableBorrowRate := (after.reserves asset).currentVariableBorrowRate
      currentStableBorrowRate := (after.reserves asset).currentStableBorrowRate } := by
    rw [run.result, setUserConfig_reserves, setReserve_same, shape, rate.result, burnShape]
  have same : rated.id = (pool.reserves asset).id := by
    rw [rate.result, burnShape]
    exact start.id
  refine ⟨accrued, config, ?_, run.accrue, ?_, rates, ?_⟩
  · have flag := run.flag
    rw [same, stable, floating, paid] at flag
    exact flag
  · rw [movement, here]
    refine ⟨Reserve.shifted_refl _ _, rfl, ?_, ?_, ?_, rfl, rfl⟩
    · intro a
      simpa using balances a
    · exact supply
    · intro a
      have into := cash a
      rw [rate.result, burnShape] at into
      simp only [funds, start.address, ite_self, Nat.add_zero] at into ⊢
      exact into
  · rw [run.result]
    rfl

structure Customer (pool : LendingPool) (asset user : Address) : Prop where
  apart : Apart pool user
  own : user ≠ (pool.reserves asset).lToken.treasury

theorem Customer.operates (customer : Customer pool asset user) (operates : Operates env pool after) :
    Customer after asset user := by
  refine ⟨customer.apart.evolves operates.evolves, ?_⟩
  rw [(operates.evolves.keeps asset).treasury]
  exact customer.own

theorem Customer.performed {operation : OwnOperation} (customer : Customer pool asset user)
    (registered : Registered pool)
    (computed : (operation.call asset user).execute env pool user = .ok after) :
    ∃ accrued config, operation.flagged (pool.terms env asset user) = .ok config ∧
      Performed env asset user (operation.movement (pool.terms env asset user)) config accrued pool
        after := by
  cases operation with
  | deposit amount =>
      obtain ⟨_, _, _, _, _, _, run⟩ := deposit_ok computed
      have apart := customer.apart asset (registered.updateState_listed run.accrue)
      exact deposit_performed apart customer.own computed
  | withdraw amount =>
      simp only [OwnOperation.call, Call.execute, bind_eq_ok, Prod.exists, pure_eq_ok] at computed
      obtain ⟨_, _, withdrawn, rfl⟩ := computed
      obtain ⟨_, _, _, _, _, _, run⟩ := withdraw_ok withdrawn
      have apart := customer.apart asset (registered.updateState_listed run.accrue)
      exact withdraw_performed apart customer.own withdrawn
  | borrow amount =>
      have borrowed := computed
      simp only [OwnOperation.call, Call.execute, borrow, bind_eq_ok] at borrowed
      obtain ⟨_, _, lent⟩ := borrowed
      obtain ⟨_, _, _, _, _, _, _, _, run⟩ := executeBorrow_ok lent
      have apart := customer.apart asset (registered.updateState_listed run.accrue)
      exact borrow_performed apart customer.own computed
  | repay amount =>
      simp only [OwnOperation.call, Call.execute, bind_eq_ok, Prod.exists, pure_eq_ok] at computed
      obtain ⟨_, _, repaid, rfl⟩ := computed
      obtain ⟨_, _, _, _, _, _, _, _, _, run⟩ := repay_ok repaid
      have apart := customer.apart asset (registered.updateState_listed run.accrue)
      exact repay_performed apart customer.own repaid

end LendingPool

namespace Performed

variable {env : Env} {pool middle : LendingPool} {asset user other : Address} {movement : Movement}
variable {config : UserConfigurationMap} {accrued again : Reserve}

theorem current (performed : Performed env asset user movement config accrued pool middle) :
    (middle.reserves asset).lastUpdateTimestamp = env.timestamp := by
  have data := performed.turned.data
  rw [data]
  exact Reserve.updateState_timestamp performed.accrue

theorem terms (performed : Performed env asset user movement config accrued pool middle)
    (distinct : other ≠ user) (own : other ≠ (pool.reserves asset).lToken.treasury) :
    middle.terms env asset other = (pool.terms env asset other).settled := by
  have start := Reserve.updateState_for own performed.accrue
  have stamp := uint40_of_lt env.timestamp_lt
  have turned := performed.turned
  have data := turned.data
  have lTokens := turned.lTokens other
  have debts := turned.debts other
  simp only [if_neg distinct, Nat.add_zero] at lTokens debts
  have now : (middle.reserves asset).lastUpdateTimestamp = env.timestamp := performed.current
  have liquidity : (middle.reserves asset).liquidityIndex = accrued.liquidityIndex := by
    rw [data]
  have floating : (middle.reserves asset).variableBorrowIndex = accrued.variableBorrowIndex := by
    rw [data]
  have id : (middle.reserves asset).id = accrued.id := by
    rw [data]
  rw [LendingPool.terms, LendingPool.terms, Terms.settled, Terms.mk.injEq]
  refine ⟨lTokens.trans start.lTokens, ?_, ?_, ?_, ?_, ?_, id.trans start.id, ?_⟩
  · rw [debts, start.debts.floating]
  · rw [turned.stable, start.debts.stable]
  · rw [ReserveData.accruedLiquidityIndex_eq env.timestamp_lt, ReserveData.normalizedIncome,
      if_pos (now.trans stamp.symm), liquidity, start.liquidityIndex]
  · rw [ReserveData.accruedVariableBorrowIndex_current now, floating, start.variableBorrowIndex]
  · rw [ReserveData.normalizedDebt, if_pos (now.trans stamp.symm), floating,
      start.variableBorrowIndex]
  · rw [performed.usersConfig, Function.update_of_ne distinct]

end Performed

end PalmyProtocol
