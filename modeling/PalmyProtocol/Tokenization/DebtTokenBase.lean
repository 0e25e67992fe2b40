import PalmyProtocol.Tokenization.ERC20

set_option autoImplicit false

namespace PalmyProtocol

open Checked

namespace DebtTokenBase

abbrev BorrowAllowances := Address → Address → Nat

def approveDelegation (borrowAllowances : BorrowAllowances) (msgSender delegatee : Address)
    (amount : Nat) : BorrowAllowances :=
  setAllowance borrowAllowances msgSender delegatee amount

def decreaseBorrowAllowance (borrowAllowances : BorrowAllowances) (delegator delegatee : Address)
    (amount : Nat) : Result BorrowAllowances := do
  let newAllowance ← SafeMath.subOr (borrowAllowances delegator delegatee) amount
    Errors.BORROW_ALLOWANCE_NOT_ENOUGH
  pure (setAllowance borrowAllowances delegator delegatee newAllowance)

-- Both debt tokens open their `mint` with this: only a delegatee spends an allowance.
def consumeDelegation (borrowAllowances : BorrowAllowances) (user onBehalfOf : Address)
    (amount : Nat) : Result BorrowAllowances :=
  if user ≠ onBehalfOf then decreaseBorrowAllowance borrowAllowances onBehalfOf user amount
  else .ok borrowAllowances

variable {before after : BorrowAllowances} {user onBehalfOf : Address} {amount : Nat}

theorem consumeDelegation_ok (computed : consumeDelegation before user onBehalfOf amount = .ok after) :
    (user = onBehalfOf ∧ after = before) ∨
      (user ≠ onBehalfOf ∧ amount ≤ before onBehalfOf user ∧
        after = setAllowance before onBehalfOf user (before onBehalfOf user - amount)) := by
  simp only [consumeDelegation, decreaseBorrowAllowance, ite_eq_ok, bind_eq_ok,
    SafeMath.subOr_eq_ok, pure_eq_ok, Except.ok.injEq] at computed
  rcases computed with ⟨delegated, _, ⟨enough, rfl⟩, rfl⟩ | ⟨own, rfl⟩
  · exact .inr ⟨delegated, enough, rfl⟩
  · exact .inl ⟨not_ne_iff.1 own, rfl⟩

end DebtTokenBase

end PalmyProtocol
