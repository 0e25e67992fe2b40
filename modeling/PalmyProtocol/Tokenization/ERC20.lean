import PalmyProtocol.Math.SafeMath
import Mathlib.Logic.Function.Basic

set_option autoImplicit false

namespace PalmyProtocol

open Checked

structure ERC20 where
  balances : Address → Nat
  allowances : Address → Address → Nat
  totalSupply : Nat

def setAllowance (allowances : Address → Address → Nat) (owner spender : Address) (amount : Nat) :
    Address → Address → Nat :=
  Function.update allowances owner (Function.update (allowances owner) spender amount)

namespace ERC20

def empty : ERC20 := ⟨fun _ => 0, fun _ _ => 0, 0⟩

-- The recipient is read after the sender was written, so a transfer to oneself changes nothing.
def transfer (token : ERC20) (sender recipient : Address) (amount : Nat) : Result ERC20 := do
  require (sender ≠ 0) "ERC20: transfer from the zero address"
  require (recipient ≠ 0) "ERC20: transfer to the zero address"
  let sent ← SafeMath.subOr (token.balances sender) amount "ERC20: transfer amount exceeds balance"
  let balances := Function.update token.balances sender sent
  let received ← SafeMath.add (balances recipient) amount
  pure { token with balances := Function.update balances recipient received }

def mint (token : ERC20) (account : Address) (amount : Nat) : Result ERC20 := do
  require (account ≠ 0) "ERC20: mint to the zero address"
  let totalSupply ← SafeMath.add token.totalSupply amount
  let balance ← SafeMath.add (token.balances account) amount
  pure { token with
    totalSupply
    balances := Function.update token.balances account balance }

def burn (token : ERC20) (account : Address) (amount : Nat) : Result ERC20 := do
  require (account ≠ 0) "ERC20: burn from the zero address"
  let totalSupply ← SafeMath.sub token.totalSupply amount
  let balance ← SafeMath.subOr (token.balances account) amount "ERC20: burn amount exceeds balance"
  pure { token with
    totalSupply
    balances := Function.update token.balances account balance }

def approve (token : ERC20) (owner spender : Address) (amount : Nat) : Result ERC20 := do
  require (owner ≠ 0) "ERC20: approve from the zero address"
  require (spender ≠ 0) "ERC20: approve to the zero address"
  pure { token with allowances := setAllowance token.allowances owner spender amount }

def increaseAllowance (token : ERC20) (owner spender : Address) (addedValue : Nat) :
    Result ERC20 := do
  let amount ← SafeMath.add (token.allowances owner spender) addedValue
  token.approve owner spender amount

def decreaseAllowance (token : ERC20) (owner spender : Address) (subtractedValue : Nat) :
    Result ERC20 := do
  let amount ← SafeMath.subOr (token.allowances owner spender) subtractedValue
    "ERC20: decreased allowance below zero"
  token.approve owner spender amount

def spendAllowance (token : ERC20) (owner spender : Address) (amount : Nat) : Result ERC20 := do
  let remaining ← SafeMath.subOr (token.allowances owner spender) amount
    "ERC20: transfer amount exceeds allowance"
  token.approve owner spender remaining

def transferFrom (token : ERC20) (spender sender recipient : Address) (amount : Nat) :
    Result ERC20 := do
  let moved ← token.transfer sender recipient amount
  moved.spendAllowance sender spender amount

variable {token after : ERC20} {sender recipient account owner spender : Address} {amount : Nat}

theorem transfer_ok (computed : token.transfer sender recipient amount = .ok after) :
    amount ≤ token.balances sender ∧ after.totalSupply = token.totalSupply ∧
      after.allowances = token.allowances ∧
      ∀ a, after.balances a + (if a = sender then amount else 0) =
        token.balances a + (if a = recipient then amount else 0) := by
  simp only [transfer, bind_eq_ok, require_eq_ok, exists_const, SafeMath.subOr_eq_ok,
    SafeMath.add_eq_ok, pure_eq_ok] at computed
  obtain ⟨_, _, sent, ⟨enough, rfl⟩, received, ⟨_, rfl⟩, rfl⟩ := computed
  refine ⟨enough, rfl, rfl, fun a => ?_⟩
  by_cases sends : a = sender
  · subst sends
    by_cases receives : a = recipient
    · subst receives
      simp
      omega
    · simp [receives]
      omega
  · by_cases receives : a = recipient
    · subst receives
      simp [sends]
    · simp [sends, receives]

theorem mint_ok (computed : token.mint account amount = .ok after) :
    account ≠ 0 ∧ after.totalSupply = token.totalSupply + amount ∧
      after.totalSupply ≤ maxUint256 ∧ after.allowances = token.allowances ∧
      ∀ a, after.balances a = token.balances a + (if a = account then amount else 0) := by
  simp only [mint, bind_eq_ok, require_eq_ok, exists_const, SafeMath.add_eq_ok,
    pure_eq_ok] at computed
  obtain ⟨nonzero, _, ⟨fits, rfl⟩, _, ⟨_, rfl⟩, rfl⟩ := computed
  refine ⟨nonzero, rfl, fits, rfl, fun a => ?_⟩
  simp only [Function.update_apply]
  split_ifs <;> subst_vars <;> omega

theorem burn_ok (computed : token.burn account amount = .ok after) :
    after.totalSupply + amount = token.totalSupply ∧ after.allowances = token.allowances ∧
      amount ≤ token.balances account ∧
      ∀ a, after.balances a + (if a = account then amount else 0) = token.balances a := by
  simp only [burn, bind_eq_ok, require_eq_ok, exists_const, SafeMath.sub_eq_ok,
    SafeMath.subOr_eq_ok, pure_eq_ok] at computed
  obtain ⟨_, _, ⟨supplied, rfl⟩, _, ⟨held, rfl⟩, rfl⟩ := computed
  refine ⟨Nat.sub_add_cancel supplied, rfl, held, fun a => ?_⟩
  simp only [Function.update_apply]
  split_ifs <;> subst_vars <;> omega

theorem approve_ok (computed : token.approve owner spender amount = .ok after) :
    after = { token with allowances := setAllowance token.allowances owner spender amount } := by
  simp only [approve, bind_eq_ok, require_eq_ok, exists_const, pure_eq_ok] at computed
  exact computed.2.2.symm

theorem spendAllowance_ok (computed : token.spendAllowance owner spender amount = .ok after) :
    amount ≤ token.allowances owner spender ∧ after.balances = token.balances ∧
      after.totalSupply = token.totalSupply ∧
      after.allowances = setAllowance token.allowances owner spender
        (token.allowances owner spender - amount) := by
  simp only [spendAllowance, bind_eq_ok, SafeMath.subOr_eq_ok] at computed
  obtain ⟨_, ⟨enough, rfl⟩, approved⟩ := computed
  rw [approve_ok approved]
  exact ⟨enough, rfl, rfl, rfl⟩

structure SameHoldings (token after : ERC20) : Prop where
  balances : after.balances = token.balances
  totalSupply : after.totalSupply = token.totalSupply

theorem approve_holdings (computed : token.approve owner spender amount = .ok after) :
    SameHoldings token after := by
  rw [approve_ok computed]
  exact ⟨rfl, rfl⟩

theorem increaseAllowance_holdings
    (computed : token.increaseAllowance owner spender amount = .ok after) :
    SameHoldings token after := by
  simp only [increaseAllowance, bind_eq_ok] at computed
  obtain ⟨_, _, approved⟩ := computed
  exact approve_holdings approved

theorem decreaseAllowance_holdings
    (computed : token.decreaseAllowance owner spender amount = .ok after) :
    SameHoldings token after := by
  simp only [decreaseAllowance, bind_eq_ok] at computed
  obtain ⟨_, _, approved⟩ := computed
  exact approve_holdings approved

theorem spendAllowance_holdings
    (computed : token.spendAllowance owner spender amount = .ok after) :
    SameHoldings token after := by
  obtain ⟨_, balances, supply, _⟩ := spendAllowance_ok computed
  exact ⟨balances, supply⟩

theorem transferFrom_ok
    (computed : token.transferFrom spender sender recipient amount = .ok after) :
    ∃ moved, token.transfer sender recipient amount = .ok moved ∧
      after.balances = moved.balances := by
  simp only [transferFrom, bind_eq_ok] at computed
  obtain ⟨moved, transferred, spent⟩ := computed
  exact ⟨moved, transferred, (spendAllowance_ok spent).2.1⟩

@[simp]
theorem setAllowance_same (allowances : Address → Address → Nat) (owner spender : Address)
    (amount : Nat) : setAllowance allowances owner spender amount owner spender = amount := by
  simp [setAllowance]

theorem setAllowance_other {allowances : Address → Address → Nat} {owner spender : Address}
    {amount : Nat} {owner' spender' : Address} (other : ¬(owner' = owner ∧ spender' = spender)) :
    setAllowance allowances owner spender amount owner' spender' = allowances owner' spender' := by
  simp only [setAllowance, Function.update_apply]
  by_cases sameOwner : owner' = owner
  · have otherSpender : spender' ≠ spender := fun same => other ⟨sameOwner, same⟩
    simp [sameOwner, otherSpender]
  · simp [sameOwner]

end ERC20

end PalmyProtocol
