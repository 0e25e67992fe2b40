import PalmyProtocol.Pool.Operations

set_option autoImplicit false

namespace PalmyProtocol

open Checked Rounding

-- The entry points of the tokens themselves: an lToken calls back into the pool, a debt token
-- only lets credit be delegated.
namespace LendingPool

variable (env : Env) (pool : LendingPool)

def moveLTokens (asset sender recipient : Address) (amount : Nat) : Result LendingPool := do
  let reserve := pool.reserves asset
  require (reserve.lTokenAddress ≠ 0) noMessage
  let (lToken, fromBalanceBefore, toBalanceBefore) ←
    reserve.lToken.transfer (reserve.getNormalizedIncome env.timestamp) sender recipient amount
  (pool.setReserve asset { reserve with lToken }).finalizeTransfer env reserve.lTokenAddress asset
    sender recipient amount fromBalanceBefore toBalanceBefore

def transfer (msgSender asset recipient : Address) (amount : Nat) : Result LendingPool :=
  pool.moveLTokens env asset msgSender recipient amount

def updateAllowance (asset : Address) (change : ERC20 → Result ERC20) : Result LendingPool := do
  let reserve := pool.reserves asset
  require (reserve.lTokenAddress ≠ 0) noMessage
  let base ← change reserve.lToken.base
  pure (pool.setReserve asset { reserve with lToken := { reserve.lToken with base } })

def transferFrom (msgSender asset sender recipient : Address) (amount : Nat) :
    Result LendingPool := do
  let pool ← pool.moveLTokens env asset sender recipient amount
  pool.updateAllowance asset fun base => base.spendAllowance sender msgSender amount

def approve (msgSender asset spender : Address) (amount : Nat) : Result LendingPool :=
  pool.updateAllowance asset fun base => base.approve msgSender spender amount

def increaseAllowance (msgSender asset spender : Address) (addedValue : Nat) : Result LendingPool :=
  pool.updateAllowance asset fun base => base.increaseAllowance msgSender spender addedValue

def decreaseAllowance (msgSender asset spender : Address) (subtractedValue : Nat) :
    Result LendingPool :=
  pool.updateAllowance asset fun base => base.decreaseAllowance msgSender spender subtractedValue

def approveStableDelegation (msgSender asset delegatee : Address) (amount : Nat) :
    Result LendingPool := do
  let reserve := pool.reserves asset
  require (reserve.stableDebtTokenAddress ≠ 0) noMessage
  let borrowAllowances := DebtTokenBase.approveDelegation reserve.stableDebtToken.borrowAllowances
    msgSender delegatee amount
  pure (pool.setReserve asset
    { reserve with stableDebtToken := { reserve.stableDebtToken with borrowAllowances } })

def approveVariableDelegation (msgSender asset delegatee : Address) (amount : Nat) :
    Result LendingPool := do
  let reserve := pool.reserves asset
  require (reserve.variableDebtTokenAddress ≠ 0) noMessage
  let borrowAllowances := DebtTokenBase.approveDelegation reserve.variableDebtToken.borrowAllowances
    msgSender delegatee amount
  pure (pool.setReserve asset
    { reserve with variableDebtToken := { reserve.variableDebtToken with borrowAllowances } })

variable {env} {pool} {after : LendingPool} {asset sender recipient : Address} {amount : Nat}

structure LTokensMoved (env : Env) (pool : LendingPool) (asset sender recipient : Address)
    (amount : Nat) (lToken : LToken) (fromBefore toBefore : Nat) (after : LendingPool) : Prop where
  listed : (pool.reserves asset).lTokenAddress ≠ 0
  transfer : (pool.reserves asset).lToken.transfer
    ((pool.reserves asset).getNormalizedIncome env.timestamp) sender recipient amount =
      .ok (lToken, fromBefore, toBefore)
  finalize : Finalized env (pool.setReserve asset { pool.reserves asset with lToken }) asset sender
    recipient amount fromBefore toBefore after

theorem moveLTokens_ok (computed : pool.moveLTokens env asset sender recipient amount = .ok after) :
    ∃ lToken fromBefore toBefore,
      LTokensMoved env pool asset sender recipient amount lToken fromBefore toBefore after := by
  simp only [moveLTokens, bind_eq_ok, require_eq_ok, exists_const, Prod.exists] at computed
  obtain ⟨listed, lToken, fromBefore, toBefore, moved, finalized⟩ := computed
  exact ⟨lToken, fromBefore, toBefore, listed, moved, (finalizeTransfer_ok finalized).2⟩

theorem updateAllowance_ok {change : ERC20 → Result ERC20}
    (computed : pool.updateAllowance asset change = .ok after) :
    (pool.reserves asset).lTokenAddress ≠ 0 ∧ ∃ base,
      change (pool.reserves asset).lToken.base = .ok base ∧
      after = pool.setReserve asset { pool.reserves asset with
        lToken := { (pool.reserves asset).lToken with base } } := by
  simp only [updateAllowance, bind_eq_ok, require_eq_ok, exists_const, pure_eq_ok] at computed
  obtain ⟨listed, base, changed, rfl⟩ := computed
  exact ⟨listed, base, changed, rfl⟩

end LendingPool

end PalmyProtocol
