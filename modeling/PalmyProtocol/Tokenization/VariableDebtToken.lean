import PalmyProtocol.Math.WadRayMath
import PalmyProtocol.Tokenization.DebtTokenBase

set_option autoImplicit false

namespace PalmyProtocol

open Checked Rounding

-- Balances are scaled: the debt they stand for is read through the pool's variable borrow index.
structure VariableDebtToken where
  base : ERC20
  borrowAllowances : DebtTokenBase.BorrowAllowances

namespace VariableDebtToken

def empty : VariableDebtToken := ⟨.empty, fun _ _ => 0⟩

variable (token : VariableDebtToken)

def scaledBalanceOf (user : Address) : Nat := token.base.balances user

def scaledTotalSupply : Nat := token.base.totalSupply

-- The pool answers `getReserveNormalizedVariableDebt` only when it is asked.
def balanceOf (normalizedVariableDebt : Result Nat) (user : Address) : Result Nat :=
  let scaledBalance := token.base.balances user
  if scaledBalance = 0 then .ok 0 else do
    let index ← normalizedVariableDebt
    rayMul scaledBalance index

def totalSupply (normalizedVariableDebt : Result Nat) : Result Nat := do
  let index ← normalizedVariableDebt
  rayMul token.base.totalSupply index

def mint (user onBehalfOf : Address) (amount index : Nat) : Result (VariableDebtToken × Bool) := do
  let borrowAllowances ←
    DebtTokenBase.consumeDelegation token.borrowAllowances user onBehalfOf amount
  let previousBalance := token.base.balances onBehalfOf
  let amountScaled ← rayDiv amount index
  require (amountScaled ≠ 0) Errors.CT_INVALID_MINT_AMOUNT
  let base ← token.base.mint onBehalfOf amountScaled
  pure ({ base, borrowAllowances }, previousBalance = 0)

def burn (user : Address) (amount index : Nat) : Result VariableDebtToken := do
  let amountScaled ← rayDiv amount index
  require (amountScaled ≠ 0) Errors.CT_INVALID_BURN_AMOUNT
  let base ← token.base.burn user amountScaled
  pure { token with base }

variable {token} {after : VariableDebtToken} {user onBehalfOf : Address} {amount index c : Nat}

theorem balanceOf_ok {normalizedVariableDebt : Result Nat}
    (computed : token.balanceOf normalizedVariableDebt user = .ok c) :
    (token.base.balances user = 0 ∧ c = 0) ∨ (token.base.balances user ≠ 0 ∧
      ∃ index, normalizedVariableDebt = .ok index ∧
        c = divHalfUp (token.base.balances user * index) RAY) := by
  simp only [balanceOf, ite_eq_ok, bind_eq_ok, rayMul_eq_ok, Except.ok.injEq] at computed
  rcases computed with ⟨none, rfl⟩ | ⟨some, index, read, _, rfl⟩
  · exact .inl ⟨none, rfl⟩
  · exact .inr ⟨some, index, read, rfl⟩

structure Minted (token : VariableDebtToken) (user onBehalfOf : Address) (amount index : Nat)
    (after : VariableDebtToken) (first : Bool) : Prop where
  delegation : DebtTokenBase.consumeDelegation token.borrowAllowances user onBehalfOf amount =
    .ok after.borrowAllowances
  index_ne_zero : index ≠ 0
  scaled_ne_zero : divHalfUp (amount * RAY) index ≠ 0
  balances : ∀ a, after.base.balances a =
    token.base.balances a + if a = onBehalfOf then divHalfUp (amount * RAY) index else 0
  totalSupply : after.base.totalSupply = token.base.totalSupply + divHalfUp (amount * RAY) index
  first : first = decide (token.base.balances onBehalfOf = 0)

theorem mint_ok {first : Bool} (computed : token.mint user onBehalfOf amount index = .ok (after, first)) :
    Minted token user onBehalfOf amount index after first := by
  simp only [mint, bind_eq_ok, require_eq_ok, exists_const, pure_eq_ok, Prod.mk.injEq] at computed
  obtain ⟨_, delegated, _, scaled, nonzero, _, minted, rfl, rfl⟩ := computed
  obtain ⟨index_ne_zero, rfl⟩ := rayDiv_ok scaled
  obtain ⟨_, supply, _, _, balances⟩ := ERC20.mint_ok minted
  exact ⟨delegated, index_ne_zero, nonzero, balances, supply, rfl⟩

structure Burned (token : VariableDebtToken) (user : Address) (amount index : Nat)
    (after : VariableDebtToken) : Prop where
  index_ne_zero : index ≠ 0
  scaled_ne_zero : divHalfUp (amount * RAY) index ≠ 0
  enough : divHalfUp (amount * RAY) index ≤ token.base.balances user
  balances : ∀ a, after.base.balances a + (if a = user then divHalfUp (amount * RAY) index else 0) =
    token.base.balances a
  totalSupply : after.base.totalSupply + divHalfUp (amount * RAY) index = token.base.totalSupply
  allowances : after.borrowAllowances = token.borrowAllowances

theorem burn_ok (computed : token.burn user amount index = .ok after) :
    Burned token user amount index after := by
  simp only [burn, bind_eq_ok, require_eq_ok, exists_const, pure_eq_ok] at computed
  obtain ⟨_, scaled, nonzero, _, burned, rfl⟩ := computed
  obtain ⟨index_ne_zero, rfl⟩ := rayDiv_ok scaled
  obtain ⟨supply, _, enough, balances⟩ := ERC20.burn_ok burned
  exact ⟨index_ne_zero, nonzero, enough, balances, supply, rfl⟩

end VariableDebtToken

end PalmyProtocol
