import PalmyProtocol.System.ExternalCalls

set_option autoImplicit false

namespace PalmyProtocol

open Checked LendingPool

structure AllowancesOnly (pool after : LendingPool) : Prop where
  usersConfig : after.usersConfig = pool.usersConfig
  data : ∀ a, (after.reserves a).toReserveData = (pool.reserves a).toReserveData
  underlying : ∀ a, (after.reserves a).underlying = (pool.reserves a).underlying
  lToken : ∀ a, ERC20.SameHoldings (pool.reserves a).lToken.base (after.reserves a).lToken.base
  stableDebtToken : ∀ a, (after.reserves a).stableDebtToken =
    { (pool.reserves a).stableDebtToken with
      borrowAllowances := (after.reserves a).stableDebtToken.borrowAllowances }
  variableDebtToken : ∀ a, (after.reserves a).variableDebtToken =
    { (pool.reserves a).variableDebtToken with
      borrowAllowances := (after.reserves a).variableDebtToken.borrowAllowances }

namespace LendingPool

variable {env : Env} {pool after : LendingPool} {msgSender asset : Address}

theorem paused_stops {α : Type} {rest : Unit → Result α} {result : α}
    (paused : pool.paused = true) : (pool.whenNotPaused >>= rest) ≠ .ok result := by
  simp [whenNotPaused, paused]

-- A token's transfer fails in the callback, after the balances moved.
theorem paused_moveLTokens {sender recipient : Address} {amount : Nat}
    (paused : pool.paused = true) :
    pool.moveLTokens env asset sender recipient amount ≠ .ok after := by
  intro computed
  simp only [moveLTokens, bind_eq_ok, Prod.exists] at computed
  obtain ⟨_, _, lToken, _, _, _, finalized⟩ := computed
  have still : (pool.setReserve asset { pool.reserves asset with lToken }).paused = true := paused
  exact paused_stops still finalized

theorem allowancesOnly_refl (pool : LendingPool) : AllowancesOnly pool pool :=
  ⟨rfl, fun _ => rfl, fun _ => rfl, fun _ => ⟨rfl, rfl⟩, fun _ => rfl, fun _ => rfl⟩

theorem allowancesOnly_setReserve {reserve : Reserve}
    (data : reserve.toReserveData = (pool.reserves asset).toReserveData)
    (underlying : reserve.underlying = (pool.reserves asset).underlying)
    (lToken : ERC20.SameHoldings (pool.reserves asset).lToken.base reserve.lToken.base)
    (stable : reserve.stableDebtToken = { (pool.reserves asset).stableDebtToken with
      borrowAllowances := reserve.stableDebtToken.borrowAllowances })
    (floating : reserve.variableDebtToken = { (pool.reserves asset).variableDebtToken with
      borrowAllowances := reserve.variableDebtToken.borrowAllowances }) :
    AllowancesOnly pool (pool.setReserve asset reserve) := by
  have kept := allowancesOnly_refl pool
  refine ⟨rfl, ?_, ?_, ?_, ?_, ?_⟩ <;> intro a <;> by_cases same : a = asset
  · subst same
    simpa using data
  · simp [same]
  · subst same
    simpa using underlying
  · simp [same]
  · subst same
    simpa using lToken
  · simpa [same] using kept.lToken a
  · subst same
    simpa using stable
  · simp [same]
  · subst same
    simpa using floating
  · simp [same]

theorem allowancesOnly_updateAllowance {change : ERC20 → Result ERC20}
    (holdings : ∀ base base', change base = .ok base' → ERC20.SameHoldings base base')
    (computed : pool.updateAllowance asset change = .ok after) : AllowancesOnly pool after := by
  obtain ⟨_, base, changed, rfl⟩ := updateAllowance_ok computed
  exact allowancesOnly_setReserve rfl rfl (holdings _ _ changed) rfl rfl

theorem onlyLendingPool_stops {α : Type} {rest : Unit → Result α} {result : α}
    (outside : msgSender ≠ pool.self) : (pool.onlyLendingPool msgSender >>= rest) ≠ .ok result := by
  simp [onlyLendingPool, outside]

theorem onlyLendingPoolConfigurator_stops {α : Type} {rest : Unit → Result α} {result : α}
    (other : msgSender ≠ pool.addressesProvider.lendingPoolConfigurator) :
    (pool.onlyLendingPoolConfigurator msgSender >>= rest) ≠ .ok result := by
  simp [onlyLendingPoolConfigurator, other.symm]

end LendingPool

variable {env : Env} {pool after : LendingPool} {msgSender asset : Address}

theorem Call.execute_paused {call : Call} (paused : pool.paused = true)
    (computed : call.execute env pool msgSender = .ok after) : AllowancesOnly pool after := by
  cases call with
  | deposit => exact absurd computed (paused_stops paused)
  | withdraw =>
      simp only [execute, bind_eq_ok, Prod.exists] at computed
      obtain ⟨_, _, withdrawn, _⟩ := computed
      exact absurd withdrawn (paused_stops paused)
  | borrow => exact absurd computed (paused_stops paused)
  | repay =>
      simp only [execute, bind_eq_ok, Prod.exists] at computed
      obtain ⟨_, _, repaid, _⟩ := computed
      exact absurd repaid (paused_stops paused)
  | swapBorrowRateMode => exact absurd computed (paused_stops paused)
  | rebalanceStableBorrowRate => exact absurd computed (paused_stops paused)
  | setUserUseReserveAsCollateral => exact absurd computed (paused_stops paused)
  | liquidationCall => exact absurd computed (paused_stops paused)
  | transfer => exact absurd computed (paused_moveLTokens paused)
  | transferFrom =>
      simp only [execute, LendingPool.transferFrom, bind_eq_ok] at computed
      obtain ⟨_, moved, _⟩ := computed
      exact absurd moved (paused_moveLTokens paused)
  | approve =>
      exact allowancesOnly_updateAllowance (fun _ _ => ERC20.approve_holdings) computed
  | increaseAllowance =>
      exact allowancesOnly_updateAllowance (fun _ _ => ERC20.increaseAllowance_holdings) computed
  | decreaseAllowance =>
      exact allowancesOnly_updateAllowance (fun _ _ => ERC20.decreaseAllowance_holdings) computed
  | approveStableDelegation =>
      simp only [execute, LendingPool.approveStableDelegation, bind_eq_ok, pure_eq_ok] at computed
      obtain ⟨_, _, rfl⟩ := computed
      exact allowancesOnly_setReserve rfl rfl ⟨rfl, rfl⟩ rfl rfl
  | approveVariableDelegation =>
      simp only [execute, LendingPool.approveVariableDelegation, bind_eq_ok, pure_eq_ok] at computed
      obtain ⟨_, _, rfl⟩ := computed
      exact allowancesOnly_setReserve rfl rfl ⟨rfl, rfl⟩ rfl rfl

-- The functions that a token keeps for the pool refuse everybody else, paused or not.
theorem LTokenCall.execute_outside {call : LTokenCall} (outside : msgSender ≠ pool.self)
    (computed : call.execute env pool msgSender asset = .ok after) : AllowancesOnly pool after := by
  cases call with
  | initializer => cases computed
  | permit =>
      simp only [execute, bind_eq_ok, require_eq_ok, exists_const] at computed
      obtain ⟨_, _, _, approved⟩ := computed
      exact allowancesOnly_updateAllowance (fun _ _ => ERC20.approve_holdings) approved
  | mint | burn | mintToTreasury | transferOnLiquidation | transferUnderlyingTo
  | handleRepayment => exact absurd computed (onlyLendingPool_stops outside)

theorem DebtTokenCall.execute_outside {call : DebtTokenCall}
    {mintDebt : Address → Address → Nat → Nat → Result LendingPool}
    {burnDebt : Address → Nat → Nat → Result LendingPool} (outside : msgSender ≠ pool.self) :
    call.execute pool msgSender mintDebt burnDebt ≠ .ok after := by
  intro computed
  cases call with
  | mint | burn => exact absurd computed (onlyLendingPool_stops outside)
  | _ => cases computed

/-- While the pool is paused, no external call moves a position. -/
theorem ExternalCall.paused_freezes {call : ExternalCall} (paused : pool.paused = true)
    (outside : msgSender ≠ pool.self)
    (notAdmin : call.administers = true → msgSender ≠ pool.addressesProvider.lendingPoolConfigurator)
    (computed : call.execute env pool msgSender = .ok after) : AllowancesOnly pool after := by
  cases call with
  | user => exact Call.execute_paused paused computed
  | flashLoan => exact absurd computed (paused_stops paused)
  | finalizeTransfer => exact absurd computed (paused_stops paused)
  | initializer => cases computed
  | initReserve | setReserveInterestRateStrategyAddress | setConfiguration | setPause =>
      exact absurd computed (onlyLendingPoolConfigurator_stops (notAdmin rfl))
  | lToken =>
      simp only [execute, bind_eq_ok] at computed
      obtain ⟨_, _, inner⟩ := computed
      exact LTokenCall.execute_outside outside inner
  | stableDebtToken | variableDebtToken =>
      simp only [execute, bind_eq_ok] at computed
      obtain ⟨_, _, inner⟩ := computed
      exact absurd inner (DebtTokenCall.execute_outside outside)

def depositedThenPaused : List Event :=
  Market.opening 10 Market.strategy ++
    [.call 100 (.deposit 10 (100 * WAD) 100), .admin 4 (.setPoolPause true)]

theorem paused_freezes_approved :
    ∃ world : World, ∃ after : LendingPool,
      Runs.run World.step Market.start depositedThenPaused = .ok world ∧
      world.pool.paused = true ∧
      (ExternalCall.user (.approve 10 101 5)).execute world.env world.pool 100 = .ok after ∧
      AllowancesOnly world.pool after := by
  have outcome : yields (Runs.run World.step Market.start depositedThenPaused) (fun world =>
      (world.pool.paused = true ∧ 100 ≠ world.pool.self) &&
      yields ((ExternalCall.user (.approve 10 101 5)).execute world.env world.pool 100)
        (fun _ => true)) := by
    decide +kernel
  obtain ⟨world, ran, facts⟩ := yields_iff.1 outcome
  obtain ⟨state, later⟩ := (Bool.and_eq_true _ _).mp facts
  obtain ⟨paused, outside⟩ := of_decide_eq_true state
  obtain ⟨after, approved, _⟩ := yields_iff.1 later
  exact ⟨world, after, ran, paused, approved,
    ExternalCall.paused_freezes paused outside (fun admin => absurd admin (by decide)) approved⟩

end PalmyProtocol
