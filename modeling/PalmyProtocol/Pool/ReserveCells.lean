import PalmyProtocol.Library.Footprint
import PalmyProtocol.Pool.Operations

set_option autoImplicit false

namespace PalmyProtocol

open Checked Footprint LendingPool

inductive Cell where
  | lTokens (account : Address)
  | allowance (owner spender : Address)
  | stableDebt (user : Address)
  | stableRate (user : Address)
  | stableTimestamp (user : Address)
  | stableDelegation (delegator delegatee : Address)
  | variableDebt (user : Address)
  | variableDelegation (delegator delegatee : Address)
  deriving DecidableEq

namespace Cell

def stablePosition (user : Address) : List Cell :=
  [stableDebt user, stableRate user, stableTimestamp user]

def stableMinted (user onBehalfOf : Address) : List Cell :=
  stablePosition onBehalfOf ++ if user = onBehalfOf then [] else [stableDelegation onBehalfOf user]

def variableMinted (user onBehalfOf : Address) : List Cell :=
  variableDebt onBehalfOf :: if user = onBehalfOf then [] else [variableDelegation onBehalfOf user]

end Cell

namespace Reserve

def cell (reserve : Reserve) : Cell → Nat
  | .lTokens account => reserve.lToken.base.balances account
  | .allowance owner spender => reserve.lToken.base.allowances owner spender
  | .stableDebt user => reserve.stableDebtToken.base.balances user
  | .stableRate user => reserve.stableDebtToken.usersStableRate user
  | .stableTimestamp user => reserve.stableDebtToken.timestamps user
  | .stableDelegation delegator delegatee =>
    reserve.stableDebtToken.borrowAllowances delegator delegatee
  | .variableDebt user => reserve.variableDebtToken.base.balances user
  | .variableDelegation delegator delegatee =>
    reserve.variableDebtToken.borrowAllowances delegator delegatee

abbrev TouchesOnly (cells : List Cell) (reserve after : Reserve) : Prop :=
  Writes cell (fun _ => True) cells reserve after

variable {reserve after : Reserve} {env : Env} {user onBehalfOf : Address} {amount now : Nat}

theorem touches_lToken {lToken : LToken} {accounts : List Address}
    (allowances : lToken.base.allowances = reserve.lToken.base.allowances)
    (others : ∀ a, a ∉ accounts → lToken.base.balances a = reserve.lToken.base.balances a) :
    TouchesOnly (accounts.map .lTokens) reserve { reserve with lToken } := by
  rintro (account | _ | _ | _ | _ | _ | _ | _) _ untouched
  · exact others account fun member => untouched (List.mem_map_of_mem member)
  · exact congrFun (congrFun allowances _) _
  all_goals rfl

theorem updateState_touchesOnly (computed : reserve.updateState now = .ok after) :
    TouchesOnly [.lTokens reserve.lToken.treasury] reserve after := by
  obtain ⟨lToken, _, _, run⟩ := updateState_ok computed
  have minted : TouchesOnly ([reserve.lToken.treasury].map .lTokens) reserve
      { reserve with lToken } := by
    rcases mintToTreasury_ok run.treasury with same | ⟨_, balances, _, allowances, _⟩
    · rw [same]
      exact .refl _ _
    · refine touches_lToken allowances fun a other => ?_
      rw [balances, if_neg (by simpa using other), Nat.add_zero]
  rw [run.result]
  exact minted

theorem updateInterestRates_touchesOnly {asset lTokenAddress : Address} {added taken : Nat}
    (computed : reserve.updateInterestRates env asset lTokenAddress added taken = .ok after) :
    TouchesOnly [] reserve after := by
  obtain ⟨_, _, _, _, run⟩ := updateInterestRates_ok computed
  rw [run.result]
  exact .of_same rfl _

theorem transferUnderlyingFrom_touchesOnly {spender sender recipient : Address}
    (computed : reserve.transferUnderlyingFrom spender sender recipient amount = .ok after) :
    TouchesOnly [] reserve after := by
  obtain ⟨_, _, rfl⟩ := transferUnderlyingFrom_ok computed
  exact .of_same rfl _

theorem transferUnderlyingTo_touchesOnly {target : Address}
    (computed : reserve.transferUnderlyingTo target amount = .ok after) :
    TouchesOnly [] reserve after := by
  obtain ⟨_, _, _, rfl⟩ := transferUnderlyingTo_ok computed
  exact .of_same rfl _

theorem mintLToken_touchesOnly {first : Bool}
    (computed : reserve.mintLToken user amount = .ok (after, first)) :
    TouchesOnly [.lTokens user] reserve after := by
  obtain ⟨lToken, minted, rfl⟩ := mintLToken_ok computed
  have lTokens : TouchesOnly ([user].map .lTokens) reserve { reserve with lToken } := by
    refine touches_lToken minted.allowances fun a other => ?_
    rw [minted.balances, if_neg (by simpa using other), Nat.add_zero]
  exact lTokens

theorem burnLToken_touchesOnly {receiver : Address}
    (computed : reserve.burnLToken user receiver amount = .ok after) :
    TouchesOnly [.lTokens user] reserve after := by
  obtain ⟨lToken, underlying, burned, _, rfl⟩ := burnLToken_ok computed
  have lTokens : TouchesOnly ([user].map .lTokens) reserve { reserve with lToken } := by
    refine touches_lToken burned.allowances fun a other => ?_
    have balance := burned.balances a
    rwa [if_neg (by simpa using other), Nat.add_zero] at balance
  exact lTokens

theorem delegation_other {before later : DebtTokenBase.BorrowAllowances}
    (consumed : DebtTokenBase.consumeDelegation before user onBehalfOf amount = .ok later)
    {delegator delegatee : Address}
    (other : ¬(user ≠ onBehalfOf ∧ delegator = onBehalfOf ∧ delegatee = user)) :
    later delegator delegatee = before delegator delegatee := by
  rcases DebtTokenBase.consumeDelegation_ok consumed with ⟨_, rfl⟩ | ⟨delegated, _, rfl⟩
  · rfl
  · exact ERC20.setAllowance_other fun same => other ⟨delegated, same⟩

theorem mintStableDebt_touchesOnly {rate : Nat} {first : Bool}
    (computed : reserve.mintStableDebt now user onBehalfOf amount rate = .ok (after, first)) :
    TouchesOnly (Cell.stableMinted user onBehalfOf) reserve after := by
  obtain ⟨token, minted, rfl⟩ := mintStableDebt_ok computed
  rintro (_ | _ | a | a | a | ⟨delegator, delegatee⟩ | _ | _) _ untouched
  all_goals try rfl
  all_goals simp only [Cell.stableMinted, Cell.stablePosition, List.mem_append, List.mem_cons,
    Cell.stableDebt.injEq, Cell.stableRate.injEq, Cell.stableTimestamp.injEq, not_or] at untouched
  · exact (minted.balances a).trans (if_neg untouched.1.1)
  · exact minted.otherRates a untouched.1.2.1
  · change token.timestamps a = reserve.stableDebtToken.timestamps a
    rw [minted.timestamps, Function.update_of_ne untouched.1.2.2.1]
  · refine delegation_other minted.delegation ?_
    rintro ⟨delegated, rfl, rfl⟩
    simp [delegated] at untouched

theorem burnStableDebt_touchesOnly (computed : reserve.burnStableDebt now user amount = .ok after) :
    TouchesOnly (Cell.stablePosition user) reserve after := by
  obtain ⟨token, burned, rfl⟩ := burnStableDebt_ok computed
  rintro (_ | _ | a | a | a | _ | _ | _) _ untouched
  all_goals try rfl
  all_goals simp only [Cell.stablePosition, List.mem_cons, Cell.stableDebt.injEq,
    Cell.stableRate.injEq, Cell.stableTimestamp.injEq, not_or] at untouched
  · exact (burned.balances a).trans (if_neg untouched.1)
  · change token.usersStableRate a = reserve.stableDebtToken.usersStableRate a
    rw [burned.usersStableRate, Function.update_of_ne untouched.2.1]
  · change token.timestamps a = reserve.stableDebtToken.timestamps a
    rw [burned.timestamps, Function.update_of_ne untouched.2.2.1]
  · exact congrFun (congrFun burned.allowances _) _

theorem mintVariableDebt_touchesOnly {first : Bool}
    (computed : reserve.mintVariableDebt user onBehalfOf amount = .ok (after, first)) :
    TouchesOnly (Cell.variableMinted user onBehalfOf) reserve after := by
  obtain ⟨token, minted, rfl⟩ := mintVariableDebt_ok computed
  rintro (_ | _ | _ | _ | _ | _ | a | ⟨delegator, delegatee⟩) _ untouched
  all_goals try rfl
  all_goals simp only [Cell.variableMinted, List.mem_cons, Cell.variableDebt.injEq,
    not_or] at untouched
  · change token.base.balances a = reserve.variableDebtToken.base.balances a
    rw [minted.balances, if_neg untouched.1, Nat.add_zero]
  · refine delegation_other minted.delegation ?_
    rintro ⟨delegated, rfl, rfl⟩
    simp [delegated] at untouched

theorem burnVariableDebt_touchesOnly (computed : reserve.burnVariableDebt user amount = .ok after) :
    TouchesOnly [.variableDebt user] reserve after := by
  obtain ⟨token, burned, rfl⟩ := burnVariableDebt_ok computed
  rintro (_ | _ | _ | _ | _ | _ | a | _) _ untouched
  all_goals try rfl
  · have balance := burned.balances a
    rwa [if_neg (by simpa using untouched), Nat.add_zero] at balance
  · exact congrFun (congrFun burned.allowances _) _

end Reserve

end PalmyProtocol
