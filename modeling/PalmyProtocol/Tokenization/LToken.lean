import PalmyProtocol.Math.WadRayMath
import PalmyProtocol.Tokenization.ERC20

set_option autoImplicit false

namespace PalmyProtocol

open Checked Rounding

structure LToken where
  base : ERC20
  treasury : Address

namespace LToken

variable (token : LToken)

def scaledBalanceOf (user : Address) : Nat := token.base.balances user

def scaledTotalSupply : Nat := token.base.totalSupply

def balanceOf (normalizedIncome : Result Nat) (user : Address) : Result Nat := do
  let index ← normalizedIncome
  rayMul (token.base.balances user) index

def totalSupply (normalizedIncome : Result Nat) : Result Nat :=
  let currentSupplyScaled := token.base.totalSupply
  if currentSupplyScaled = 0 then .ok 0 else do
    let index ← normalizedIncome
    rayMul currentSupplyScaled index

def mint (user : Address) (amount index : Nat) : Result (LToken × Bool) := do
  let previousBalance := token.base.balances user
  let amountScaled ← rayDiv amount index
  require (amountScaled ≠ 0) Errors.CT_INVALID_MINT_AMOUNT
  let base ← token.base.mint user amountScaled
  pure ({ token with base }, previousBalance = 0)

-- The token's own leg of `burn`; the reserve sends the underlying.
def burn (user : Address) (amount index : Nat) : Result LToken := do
  let amountScaled ← rayDiv amount index
  require (amountScaled ≠ 0) Errors.CT_INVALID_BURN_AMOUNT
  let base ← token.base.burn user amountScaled
  pure { token with base }

def mintToTreasury (amount index : Nat) : Result LToken :=
  if amount = 0 then .ok token else do
    let amountScaled ← rayDiv amount index
    let base ← token.base.mint token.treasury amountScaled
    pure { token with base }

def transfer (normalizedIncome : Result Nat) (sender recipient : Address) (amount : Nat) :
    Result (LToken × Nat × Nat) := do
  let index ← normalizedIncome
  let fromBalanceBefore ← rayMul (token.base.balances sender) index
  let toBalanceBefore ← rayMul (token.base.balances recipient) index
  let amountScaled ← rayDiv amount index
  let base ← token.base.transfer sender recipient amountScaled
  pure ({ token with base }, fromBalanceBefore, toBalanceBefore)

variable {token} {after : LToken} {user sender recipient : Address} {amount index c : Nat}

theorem balanceOf_ok {normalizedIncome : Result Nat}
    (computed : token.balanceOf normalizedIncome user = .ok c) :
    ∃ index, normalizedIncome = .ok index ∧
      c = divHalfUp (token.base.balances user * index) RAY := by
  simp only [balanceOf, bind_eq_ok, rayMul_eq_ok] at computed
  obtain ⟨index, read, _, rfl⟩ := computed
  exact ⟨index, read, rfl⟩

theorem totalSupply_ok {normalizedIncome : Result Nat}
    (computed : token.totalSupply normalizedIncome = .ok c) :
    (token.base.totalSupply = 0 ∧ c = 0) ∨ (token.base.totalSupply ≠ 0 ∧
      ∃ index, normalizedIncome = .ok index ∧
        c = divHalfUp (token.base.totalSupply * index) RAY) := by
  simp only [totalSupply, ite_eq_ok, bind_eq_ok, rayMul_eq_ok, Except.ok.injEq] at computed
  rcases computed with ⟨none, rfl⟩ | ⟨some, index, read, _, rfl⟩
  · exact .inl ⟨none, rfl⟩
  · exact .inr ⟨some, index, read, rfl⟩

structure Minted (token : LToken) (user : Address) (amount index : Nat) (after : LToken)
    (first : Bool) : Prop where
  index_ne_zero : index ≠ 0
  scaled_ne_zero : divHalfUp (amount * RAY) index ≠ 0
  balances : ∀ a, after.base.balances a =
    token.base.balances a + if a = user then divHalfUp (amount * RAY) index else 0
  totalSupply : after.base.totalSupply = token.base.totalSupply + divHalfUp (amount * RAY) index
  allowances : after.base.allowances = token.base.allowances
  treasury : after.treasury = token.treasury
  first : first = decide (token.base.balances user = 0)

theorem mint_ok {first : Bool} (computed : token.mint user amount index = .ok (after, first)) :
    Minted token user amount index after first := by
  simp only [mint, bind_eq_ok, require_eq_ok, exists_const, pure_eq_ok, Prod.mk.injEq] at computed
  obtain ⟨_, scaled, nonzero, _, minted, rfl, rfl⟩ := computed
  obtain ⟨index_ne_zero, rfl⟩ := rayDiv_ok scaled
  obtain ⟨_, supply, _, allowances, balances⟩ := ERC20.mint_ok minted
  exact ⟨index_ne_zero, nonzero, balances, supply, allowances, rfl, rfl⟩

structure Burned (token : LToken) (user : Address) (amount index : Nat) (after : LToken) : Prop where
  index_ne_zero : index ≠ 0
  scaled_ne_zero : divHalfUp (amount * RAY) index ≠ 0
  enough : divHalfUp (amount * RAY) index ≤ token.base.balances user
  balances : ∀ a, after.base.balances a + (if a = user then divHalfUp (amount * RAY) index else 0) =
    token.base.balances a
  totalSupply : after.base.totalSupply + divHalfUp (amount * RAY) index = token.base.totalSupply
  allowances : after.base.allowances = token.base.allowances
  treasury : after.treasury = token.treasury

theorem burn_ok (computed : token.burn user amount index = .ok after) :
    Burned token user amount index after := by
  simp only [burn, bind_eq_ok, require_eq_ok, exists_const, pure_eq_ok] at computed
  obtain ⟨_, scaled, nonzero, _, burned, rfl⟩ := computed
  obtain ⟨index_ne_zero, rfl⟩ := rayDiv_ok scaled
  obtain ⟨supply, allowances, enough, balances⟩ := ERC20.burn_ok burned
  exact ⟨index_ne_zero, nonzero, enough, balances, supply, allowances, rfl⟩

-- An amount that scales to nothing still mints: the treasury takes the loss.
theorem mintToTreasury_ok (computed : token.mintToTreasury amount index = .ok after) :
    (amount = 0 ∧ after = token) ∨ (index ≠ 0 ∧ ∃ scaled,
      scaled = divHalfUp (amount * RAY) index ∧
      (∀ a, after.base.balances a =
        token.base.balances a + if a = token.treasury then scaled else 0) ∧
      after.base.totalSupply = token.base.totalSupply + scaled ∧
      after.base.allowances = token.base.allowances ∧ after.treasury = token.treasury) := by
  simp only [mintToTreasury, ite_eq_ok, bind_eq_ok, pure_eq_ok, Except.ok.injEq] at computed
  rcases computed with ⟨none, rfl⟩ | ⟨_, _, scaled, _, minted, rfl⟩
  · exact .inl ⟨none, rfl⟩
  · obtain ⟨index_ne_zero, rfl⟩ := rayDiv_ok scaled
    obtain ⟨_, supply, _, allowances, balances⟩ := ERC20.mint_ok minted
    exact .inr ⟨index_ne_zero, _, rfl, balances, supply, allowances, rfl⟩

structure Transferred (token : LToken) (index : Nat) (sender recipient : Address) (amount : Nat)
    (after : LToken) (fromBefore toBefore : Nat) : Prop where
  index_ne_zero : index ≠ 0
  fromBefore : fromBefore = divHalfUp (token.base.balances sender * index) RAY
  toBefore : toBefore = divHalfUp (token.base.balances recipient * index) RAY
  enough : divHalfUp (amount * RAY) index ≤ token.base.balances sender
  balances : ∀ a,
    after.base.balances a + (if a = sender then divHalfUp (amount * RAY) index else 0) =
      token.base.balances a + if a = recipient then divHalfUp (amount * RAY) index else 0
  totalSupply : after.base.totalSupply = token.base.totalSupply
  allowances : after.base.allowances = token.base.allowances
  treasury : after.treasury = token.treasury

theorem transfer_ok {normalizedIncome : Result Nat} {fromBefore toBefore : Nat}
    (computed : token.transfer normalizedIncome sender recipient amount =
      .ok (after, fromBefore, toBefore)) :
    ∃ index, normalizedIncome = .ok index ∧
      Transferred token index sender recipient amount after fromBefore toBefore := by
  simp only [transfer, bind_eq_ok, rayMul_eq_ok, pure_eq_ok, Prod.mk.injEq] at computed
  obtain ⟨index, read, _, ⟨_, rfl⟩, _, ⟨_, rfl⟩, _, scaled, _, moved, rfl, rfl, rfl⟩ := computed
  obtain ⟨index_ne_zero, rfl⟩ := rayDiv_ok scaled
  obtain ⟨enough, supply, allowances, balances⟩ := ERC20.transfer_ok moved
  exact ⟨index, read, index_ne_zero, rfl, rfl, enough, balances, supply, allowances, rfl⟩

end LToken

end PalmyProtocol
