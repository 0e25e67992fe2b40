import PalmyProtocol.Library.Announced
import PalmyProtocol.Proofs.ScaledTokens
import PalmyProtocol.Proofs.StableAggregate
import PalmyProtocol.Tokenization.IncentivesController

set_option autoImplicit false

namespace PalmyProtocol

open Checked Rounding Runs

namespace HandledAction

def balanceSaid (user : Address) (action : HandledAction) : Option Nat :=
  if action.account = user then some action.accountBalance else none

def supplySaid (action : HandledAction) : Option Nat := some action.totalSupply

end HandledAction

open HandledAction

-- Calls that let their reader know a ledger: every balance, and the supply, is what the next call
-- about it says, or what it is at last.
structure Tells (actions : List HandledAction) (before after : ERC20) : Prop where
  balances : ∀ user, before.balances user =
    (actions.findSome? (balanceSaid user)).getD (after.balances user)
  supply : before.totalSupply = (actions.findSome? supplySaid).getD after.totalSupply

namespace Tells

variable {before after : ERC20} {account sender recipient : Address} {moved amount : Nat}

theorem of_holdings (same : ERC20.SameHoldings before after) : Tells [] before after where
  balances _ := by rw [same.balances]; rfl
  supply := same.totalSupply.symm

theorem one (others : ∀ a, a ≠ account → after.balances a = before.balances a) :
    Tells [⟨account, before.totalSupply, before.balances account⟩] before after where
  balances user := by
    by_cases same : account = user
    · simp [balanceSaid, same]
    · simp [balanceSaid, same, others user (Ne.symm same)]
  supply := rfl

theorem minted (balances : ∀ a, after.balances a =
    before.balances a + if a = account then moved else 0) :
    Tells (before.mintActions account) before after := by
  refine one fun a other => ?_
  rw [balances, if_neg other, Nat.add_zero]

theorem burned (balances : ∀ a, after.balances a + (if a = account then moved else 0) =
    before.balances a) : Tells (before.burnActions account) before after := by
  refine one fun a other => ?_
  rw [← balances, if_neg other, Nat.add_zero]

theorem transferred (balances : ∀ a, after.balances a + (if a = sender then moved else 0) =
      before.balances a + if a = recipient then moved else 0) :
    Tells (before.transferActions sender recipient amount) before after where
  balances user := by
    have balance := balances user
    by_cases sends : sender = user
    · simp [ERC20.transferActions, balanceSaid, sends]
    by_cases receives : recipient = user
    · subst receives
      simp [ERC20.transferActions, balanceSaid, sends, Function.update_of_ne (Ne.symm sends)]
    · rw [if_neg (Ne.symm sends), if_neg (Ne.symm receives), Nat.add_zero, Nat.add_zero] at balance
      by_cases self : sender = recipient <;>
        simp [ERC20.transferActions, balanceSaid, sends, receives, self, balance]
  supply := rfl

variable {τ ω : Type} {step : τ → ω → Result τ} {emit : τ → ω → τ → List HandledAction}
  {base : τ → ERC20}

theorem run (each : ∀ token operation next, step token operation = .ok next →
      Tells (emit token operation next) (base token) (base next))
    {token next : τ} {operations : List ω} (ran : Runs.run step token operations = .ok next) :
    Tells (trace step emit token operations) (base token) (base next) where
  balances user := by
    have announces : Announces step emit (fun token => (base token).balances user)
        (balanceSaid user) :=
      fun token operation next taken => (each token operation next taken).balances user
    exact announces.run ran
  supply := by
    have announces : Announces step emit (fun token => (base token).totalSupply) supplySaid :=
      fun token operation next taken => (each token operation next taken).supply
    exact announces.run ran

end Tells

namespace LToken

def actions (token : LToken) (operation : Operation) (_ : LToken) : List HandledAction :=
  match operation with
  | .mint user _ _ => token.base.mintActions user
  | .burn user _ _ => token.base.burnActions user
  | .mintToTreasury amount _ => if amount = 0 then [] else token.base.mintActions token.treasury
  | .transfer normalizedIncome sender recipient amount
  | .transferFrom normalizedIncome _ sender recipient amount
  | .transferOnLiquidation normalizedIncome sender recipient amount =>
    match normalizedIncome >>= rayDiv amount with
    | .ok amountScaled => token.base.transferActions sender recipient amountScaled
    | .error _ => []
  | .approve _ _ _ | .increaseAllowance _ _ _ | .decreaseAllowance _ _ _ => []

variable {token after moved : LToken} {operation : Operation} {sender recipient : Address}
  {amount : Nat}

-- A transfer tells of both ends, whatever the allowances do after it.
theorem transfer_told {normalizedIncome : Result Nat} {fromBefore toBefore : Nat} {later : ERC20}
    (computed : token.transfer normalizedIncome sender recipient amount =
      .ok (moved, fromBefore, toBefore))
    (same : ERC20.SameHoldings moved.base later) :
    ∃ amountScaled, normalizedIncome >>= rayDiv amount = .ok amountScaled ∧
      Tells (token.base.transferActions sender recipient amountScaled) token.base later := by
  obtain ⟨_, _, transferred⟩ := transfer_ok computed
  simp only [transfer, bind_eq_ok] at computed
  obtain ⟨income, known, _, _, _, _, amountScaled, divided, _⟩ := computed
  have balances := transferred.balances
  rw [← same.balances] at balances
  exact ⟨amountScaled, by rw [known, ok_bind, divided], .transferred balances⟩

theorem step_tells (taken : token.step operation = .ok after) :
    Tells (token.actions operation after) token.base after.base := by
  cases operation with
  | mint account amount index =>
      simp only [step, bind_eq_ok, Prod.exists, pure_eq_ok] at taken
      obtain ⟨_, _, computed, rfl⟩ := taken
      exact .minted (mint_ok computed).balances
  | burn account amount index => exact .burned (burn_ok taken).balances
  | mintToTreasury amount index =>
      by_cases none : amount = 0
      · simp only [step, mintToTreasury, if_pos none, Except.ok.injEq] at taken
        subst taken
        simp only [actions, if_pos none]
        exact .of_holdings ⟨rfl, rfl⟩
      · obtain ⟨_, _, _, balances, _⟩ :=
          (mintToTreasury_ok taken).resolve_left fun nothing => none nothing.1
        simp only [actions, if_neg none]
        exact .minted balances
  | transfer income sender recipient amount
  | transferOnLiquidation income sender recipient amount =>
      simp only [step, bind_eq_ok, Prod.exists, pure_eq_ok] at taken
      obtain ⟨_, _, _, computed, rfl⟩ := taken
      obtain ⟨_, divided, tells⟩ := transfer_told computed ⟨rfl, rfl⟩
      simp only [actions, divided]
      exact tells
  | transferFrom income spender sender recipient amount =>
      simp only [step, bind_eq_ok, Prod.exists, pure_eq_ok] at taken
      obtain ⟨_, _, _, computed, _, spent, rfl⟩ := taken
      obtain ⟨_, divided, tells⟩ := transfer_told computed (ERC20.spendAllowance_holdings spent)
      simp only [actions, divided]
      exact tells
  | approve =>
      simp only [step, bind_eq_ok, pure_eq_ok] at taken
      obtain ⟨_, approved, rfl⟩ := taken
      exact .of_holdings (ERC20.approve_holdings approved)
  | increaseAllowance =>
      simp only [step, bind_eq_ok, pure_eq_ok] at taken
      obtain ⟨_, increased, rfl⟩ := taken
      exact .of_holdings (ERC20.increaseAllowance_holdings increased)
  | decreaseAllowance =>
      simp only [step, bind_eq_ok, pure_eq_ok] at taken
      obtain ⟨_, decreased, rfl⟩ := taken
      exact .of_holdings (ERC20.decreaseAllowance_holdings decreased)

end LToken

namespace VariableDebtToken

def actions (token : VariableDebtToken) (operation : Operation) (_ : VariableDebtToken) :
    List HandledAction :=
  match operation with
  | .mint _ onBehalfOf _ _ => token.base.mintActions onBehalfOf
  | .burn user _ _ => token.base.burnActions user
  | .approveDelegation _ _ _ => []

variable {token after : VariableDebtToken} {operation : Operation}

theorem step_tells (taken : token.step operation = .ok after) :
    Tells (token.actions operation after) token.base after.base := by
  cases operation with
  | mint user onBehalfOf amount index =>
      simp only [step, bind_eq_ok, Prod.exists, pure_eq_ok] at taken
      obtain ⟨_, _, computed, rfl⟩ := taken
      exact .minted (mint_ok computed).balances
  | burn user amount index => exact .burned (burn_ok taken).balances
  | approveDelegation =>
      cases taken
      exact .of_holdings ⟨rfl, rfl⟩

end VariableDebtToken

namespace StableDebtToken

def actions (state : Clocked) (event : TimedCall) (_ : Clocked) : List HandledAction :=
  match event.call with
  | .mint _ onBehalfOf _ _ => state.token.mintActions event.now onBehalfOf
  | .burn user _ => state.token.burnActions event.now user

variable {state next : Clocked} {event : TimedCall}
variable {token after : StableDebtToken} {now : Nat} {account : Address}

theorem told {supplied : Nat} {actions : List HandledAction}
    (others : ∀ a, a ≠ account → after.base.balances a = token.base.balances a)
    (known : token.totalSupply now = .ok supplied)
    (said : actions = [⟨account, supplied, token.base.balances account⟩]) :
    (∀ user, token.principalBalanceOf user =
      (actions.findSome? (balanceSaid user)).getD (after.principalBalanceOf user)) ∧
    ∀ action ∈ actions, action.totalSupply = token.supply now := by
  subst said
  refine ⟨fun user => ?_, fun action member => ?_⟩
  · by_cases same : account = user
    · simp [balanceSaid, principalBalanceOf, same]
    · simp [balanceSaid, principalBalanceOf, same, others user (Ne.symm same)]
  · rw [List.mem_singleton.1 member]
    exact totalSupply_ok known

-- Its supply grows by itself; what it tells of it is the supply at the time.
theorem step_tells (taken : state.step event = .ok next) :
    (∀ user, state.token.principalBalanceOf user =
      ((actions state event next).findSome? (balanceSaid user)).getD
        (next.token.principalBalanceOf user)) ∧
    ∀ action ∈ actions state event next, action.totalSupply = state.token.supply event.now := by
  obtain ⟨now, now_lt, call⟩ := event
  cases call with
  | mint user onBehalfOf amount rate =>
      simp only [Clocked.step, bind_eq_ok, Prod.exists, pure_eq_ok] at taken
      obtain ⟨_, _, token, _, _, computed, rfl⟩ := taken
      have minted := mint_ok computed
      simp only [mint, bind_eq_ok, Prod.exists] at computed
      obtain ⟨_, _, _, _, _, _, previousSupply, supplied, _⟩ := computed
      have others : ∀ a, a ≠ onBehalfOf →
          token.base.balances a = state.token.base.balances a := by
        intro a other
        rw [minted.balances, if_neg other]
      exact told others supplied (by simp only [actions, mintActions, supplied])
  | burn user amount =>
      simp only [Clocked.step, bind_eq_ok, Prod.exists, pure_eq_ok] at taken
      obtain ⟨_, _, token, _, computed, rfl⟩ := taken
      have burned := burn_ok computed
      simp only [burn, bind_eq_ok, Prod.exists] at computed
      obtain ⟨_, _, _, _, previousSupply, supplied, _⟩ := computed
      have others : ∀ a, a ≠ user → token.base.balances a = state.token.base.balances a := by
        intro a other
        rw [burned.balances, if_neg other]
      exact told others supplied (by simp only [actions, burnActions, supplied])

end StableDebtToken

/-- What the tokens tell their incentives controller is enough to know their ledgers by: at any
time the balance of an account is what the next `handleAction` about it says, and the supply is
what the next one about anybody says, or else they stay as they are. -/
theorem incentives_told :
    (∀ (token next : LToken) operations, run LToken.step token operations = .ok next →
      Tells (trace LToken.step LToken.actions token operations) token.base next.base) ∧
    (∀ (token next : VariableDebtToken) operations,
      run VariableDebtToken.step token operations = .ok next →
      Tells (trace VariableDebtToken.step VariableDebtToken.actions token operations)
        token.base next.base) ∧
    (∀ (state next : StableDebtToken.Clocked) events,
      run StableDebtToken.Clocked.step state events = .ok next →
      ∀ user, state.token.principalBalanceOf user =
        ((trace StableDebtToken.Clocked.step StableDebtToken.actions state events).findSome?
          (balanceSaid user)).getD (next.token.principalBalanceOf user)) ∧
    ∀ (state next : StableDebtToken.Clocked) event, state.step event = .ok next →
      ∀ action ∈ StableDebtToken.actions state event next,
        action.totalSupply = state.token.supply event.now := by
  refine ⟨fun token next operations ran => ?_, fun token next operations ran => ?_,
    fun state next events ran user => ?_, fun state next event taken => ?_⟩
  · exact @Tells.run _ _ LToken.step LToken.actions LToken.base
      (fun _ _ _ taken => LToken.step_tells taken) _ _ _ ran
  · exact @Tells.run _ _ VariableDebtToken.step VariableDebtToken.actions VariableDebtToken.base
      (fun _ _ _ taken => VariableDebtToken.step_tells taken) _ _ _ ran
  · have announces : Announces StableDebtToken.Clocked.step StableDebtToken.actions
        (fun state => state.token.principalBalanceOf user) (balanceSaid user) :=
      fun _ _ _ taken => (StableDebtToken.step_tells taken).1 user
    exact announces.run ran
  · exact (StableDebtToken.step_tells taken).2

namespace LToken

-- Of a hundred units forty are handed over, and of these ten are paid out.
def handedOver : List Operation :=
  [.mint 7 100 RAY, .transfer (.ok RAY) 7 8 40, .burn 8 10 RAY]

end LToken

theorem incentives_told_handedOver :
    ∃ (token : LToken) (floating : VariableDebtToken) (stable : StableDebtToken.Clocked),
      run LToken.step ⟨.empty, 5⟩ LToken.handedOver = .ok token ∧
      trace LToken.step LToken.actions ⟨.empty, 5⟩ LToken.handedOver =
        [⟨7, 0, 0⟩, ⟨7, 100, 100⟩, ⟨8, 100, 0⟩, ⟨8, 100, 40⟩] ∧
      Tells (trace LToken.step LToken.actions ⟨.empty, 5⟩ LToken.handedOver) .empty token.base ∧
      run VariableDebtToken.step ⟨.empty, fun _ _ => 0⟩ [.mint 7 7 50 RAY, .burn 7 20 RAY] =
        .ok floating ∧
      Tells (trace VariableDebtToken.step VariableDebtToken.actions ⟨.empty, fun _ _ => 0⟩
        [.mint 7 7 50 RAY, .burn 7 20 RAY]) .empty floating.base ∧
      run StableDebtToken.Clocked.step .start StableDebtToken.halfRepaid = .ok stable ∧
      0 = ((trace StableDebtToken.Clocked.step StableDebtToken.actions .start
        StableDebtToken.halfRepaid).findSome? (balanceSaid 7)).getD
          (stable.token.principalBalanceOf 7) := by
  have shares : yields (run LToken.step ⟨.empty, 5⟩ LToken.handedOver) (fun _ =>
      trace LToken.step LToken.actions ⟨.empty, 5⟩ LToken.handedOver =
        [⟨7, 0, 0⟩, ⟨7, 100, 100⟩, ⟨8, 100, 0⟩, ⟨8, 100, 40⟩]) := by
    decide +kernel
  have debts : yields (run VariableDebtToken.step ⟨.empty, fun _ _ => 0⟩
      [.mint 7 7 50 RAY, .burn 7 20 RAY]) (fun _ => true) := by
    decide +kernel
  have principals : yields (run StableDebtToken.Clocked.step .start StableDebtToken.halfRepaid)
      (fun _ => true) := by
    decide +kernel
  obtain ⟨token, ran, told⟩ := yields_iff.1 shares
  obtain ⟨floating, ran', _⟩ := yields_iff.1 debts
  obtain ⟨stable, ran'', _⟩ := yields_iff.1 principals
  obtain ⟨tells, tells', tells'', _⟩ := incentives_told
  exact ⟨token, floating, stable, ran, of_decide_eq_true told, tells _ _ _ ran, ran',
    tells' _ _ _ ran', ran'', tells'' _ _ _ ran'' 7⟩

end PalmyProtocol
