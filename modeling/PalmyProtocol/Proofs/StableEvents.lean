import PalmyProtocol.Proofs.StableAggregate

set_option autoImplicit false

namespace PalmyProtocol

open Checked Rounding Runs

namespace StableDebtToken

structure Aggregates where
  avgStableRate : Nat
  totalSupply : Nat
  deriving DecidableEq

def aggregates (token : StableDebtToken) : Aggregates :=
  ⟨token.avgStableRate, token.base.totalSupply⟩

def Emitted.aggregates : Emitted → Aggregates
  | .mint _ _ _ _ _ _ avgStableRate newTotalSupply => ⟨avgStableRate, newTotalSupply⟩
  | .burn _ _ _ _ avgStableRate newTotalSupply => ⟨avgStableRate, newTotalSupply⟩

def Misreports (token : StableDebtToken) (now : Nat) (user : Address) (amount : Nat) : Prop :=
  amount < token.supply now ∧ token.Wipes now user amount

def PoolCall.execute (token : StableDebtToken) (now : Nat) :
    PoolCall → Result (StableDebtToken × Emitted)
  | .mint user onBehalfOf amount rate => do
    let (token, _, emitted) ← token.mint now user onBehalfOf amount rate
    pure (token, emitted)
  | .burn user amount => token.burn now user amount

structure Logged extends Clocked where
  log : List Emitted

namespace Logged

def start : Logged := ⟨.start, []⟩

def step (state : Logged) (event : TimedCall) : Result Logged := do
  require (state.clock ≤ event.now) Clocked.step.noClock
  let (token, emitted) ← event.call.execute state.token event.now
  pure ⟨⟨token, event.now⟩, state.log ++ [emitted]⟩

end Logged

def replay (log : List Emitted) : Aggregates :=
  log.foldl (fun _ emitted => emitted.aggregates) ⟨0, 0⟩

theorem replay_append (log : List Emitted) (emitted : Emitted) :
    replay (log ++ [emitted]) = emitted.aggregates := by
  simp [replay]

def Truthful (token : StableDebtToken) (now : Nat) : PoolCall → Prop
  | .mint _ _ _ _ => True
  | .burn user amount => ¬token.Misreports now user amount

variable {token after : StableDebtToken} {now amount rate : Nat} {user onBehalfOf : Address}
  {emitted : Emitted}

theorem mint_truthful {first : Bool}
    (computed : token.mint now user onBehalfOf amount rate = .ok (after, first, emitted)) :
    emitted.aggregates = after.aggregates := by
  simp only [mint, bind_eq_ok, Prod.exists, pure_eq_ok, Prod.mk.injEq] at computed
  obtain ⟨_, _, _, _, _, _, _, _, _, _, _, _, _, _, _, _, _, _, _, _, _, _, rfl, _, rfl⟩ := computed
  rfl

theorem burnSupply_reported {previousSupply userStableRate supply average reported : Nat}
    (computed : token.burnSupply previousSupply userStableRate amount =
      .ok (supply, average, reported)) :
    reported = previousSupply - amount ∧ (supply = reported ∨ supply = 0) := by
  simp only [burnSupply, ite_eq_ok, bind_eq_ok, SafeMath.sub_eq_ok, pure_eq_ok, Prod.mk.injEq,
    Except.ok.injEq] at computed
  rcases computed with ⟨covered, rfl, _, rfl⟩ | ⟨_, _, ⟨_, rfl⟩, _, _, _, _, _, _, _, _, branch⟩
  · exact ⟨(Nat.sub_eq_zero_of_le covered).symm, .inl rfl⟩
  · rcases branch with ⟨_, rfl, _, rfl⟩ | ⟨_, _, _, _, _, _, _, rfl, _, rfl⟩
    · exact ⟨rfl, .inr rfl⟩
    · exact ⟨rfl, .inl rfl⟩

theorem burn_emits (computed : token.burn now user amount = .ok (after, emitted)) :
    ∃ reported, token.burnSupply (token.supply now) (token.usersStableRate user) amount =
      .ok (after.base.totalSupply, after.avgStableRate, reported) ∧
      emitted.aggregates = ⟨after.avgStableRate, reported⟩ := by
  simp only [burn, bind_eq_ok, Prod.exists, ite_eq_ok, pure_eq_ok, Prod.mk.injEq] at computed
  obtain ⟨_, _, _, _, _, supplied, _, _, reported, computed, _, _, moved, rfl, rfl⟩ := computed
  obtain rfl := totalSupply_ok supplied
  refine ⟨reported, computed, ?_⟩
  rcases moved with ⟨_, _, _, _, _, _, rfl⟩ | ⟨_, _, _, _, _, _, rfl⟩
  · rfl
  · rfl

theorem burn_truthful_iff (computed : token.burn now user amount = .ok (after, emitted)) :
    emitted.aggregates = after.aggregates ↔ ¬token.Misreports now user amount := by
  obtain ⟨reported, split, shown⟩ := burn_emits computed
  obtain ⟨rfl, kept⟩ := burnSupply_reported split
  have wiped : after.base.totalSupply = 0 ↔ token.Wipes now user amount := burnSupply_zero split
  rw [shown, aggregates, Aggregates.mk.injEq, Misreports, ← wiped]
  omega

theorem execute_truthful_iff {call : PoolCall}
    (executed : call.execute token now = .ok (after, emitted)) :
    emitted.aggregates = after.aggregates ↔ token.Truthful now call := by
  cases call with
  | mint user onBehalfOf amount rate =>
      simp only [PoolCall.execute, bind_eq_ok, Prod.exists, pure_eq_ok, Prod.mk.injEq] at executed
      obtain ⟨_, first, _, minted, rfl, rfl⟩ := executed
      exact iff_of_true (mint_truthful minted) trivial
  | burn user amount => exact burn_truthful_iff executed

-- The log is read by no call, and its last event tells the truth or does not.
theorem logged_step {state next : Logged} {event : TimedCall}
    (taken : state.step event = .ok next) :
    Clocked.step state.toClocked event = .ok next.toClocked ∧
      (replay next.log = next.token.aggregates ↔ state.token.Truthful event.now event.call) := by
  obtain ⟨now, bounded, call⟩ := event
  simp only [Logged.step, bind_eq_ok, require_eq_ok, exists_const, Prod.exists, pure_eq_ok] at taken
  obtain ⟨order, token, emitted, executed, rfl⟩ := taken
  rw [replay_append]
  refine ⟨?_, execute_truthful_iff executed⟩
  cases call with
  | mint user onBehalfOf amount rate =>
      simp only [PoolCall.execute, bind_eq_ok, Prod.exists, pure_eq_ok, Prod.mk.injEq] at executed
      obtain ⟨_, first, _, minted, rfl, rfl⟩ := executed
      simp [Clocked.step, order, minted, require]
  | burn user amount =>
      have burned : state.token.burn now user amount = .ok (token, emitted) := executed
      simp [Clocked.step, order, burned, require]

/-- A mint reports what it stores. -/
theorem events_truthful (token : StableDebtToken) (now : Nat) (call : PoolCall)
    (after : StableDebtToken) (emitted : Emitted)
    (executed : call.execute token now = .ok (after, emitted)) :
    (emitted.aggregates = after.aggregates ↔ token.Truthful now call) ∧
    ∀ events final, run Logged.step .start events = .ok final →
      run Clocked.step .start events = .ok final.toClocked ∧
      ((∀ before rest state, events = before ++ rest → run Logged.step .start before = .ok state →
          replay state.log = state.token.aggregates) ↔
        ∀ before event rest state, events = before ++ event :: rest →
          run Logged.step .start before = .ok state →
            state.token.Truthful event.now event.call) := by
  refine ⟨execute_truthful_iff executed, fun events final ran => ⟨?_, ?_⟩⟩
  · exact run_forget Logged.toClocked (fun _ _ _ taken => (logged_step taken).1) ran
  · exact run_exact (fun _ => True) (fun state => replay state.log = state.token.aggregates)
      (fun state event => state.token.Truthful event.now event.call) (fun _ _ _ _ _ => trivial)
      (fun _ _ _ _ _ taken => (logged_step taken).2) trivial rfl ran

-- A repayment of 200 is misreported, and one of 50 is not.
theorem events_truthful_uneven :
    ∃ state after emitted after' emitted',
      run Clocked.step .start (unevenBorrowers.take 2) = .ok state ∧
      PoolCall.execute state.token (1 + year) (.burn 7 (200 * WAD)) = .ok (after, emitted) ∧
      (emitted.aggregates = after.aggregates ↔
        state.token.Truthful (1 + year) (.burn 7 (200 * WAD))) ∧
      PoolCall.execute state.token (1 + year) (.burn 7 (50 * WAD)) = .ok (after', emitted') ∧
      emitted'.aggregates = after'.aggregates := by
  have outcome : yields (run Clocked.step .start (unevenBorrowers.take 2)) (fun state =>
      yields (PoolCall.execute state.token (1 + year) (.burn 7 (200 * WAD))) (fun _ => true) &&
      yields (PoolCall.execute state.token (1 + year) (.burn 7 (50 * WAD))) (fun _ => true) &&
      decide (¬(50 * WAD < state.token.supply (1 + year) ∧
        (state.token.supply (1 + year) ≤ 50 * WAD ∨
          divHalfUp (state.token.avgStableRate *
              (state.token.supply (1 + year) * WAD_RAY_RATIO)) RAY ≤
            divHalfUp (state.token.usersStableRate 7 * (50 * WAD * WAD_RAY_RATIO)) RAY)))) := by
    decide +kernel
  obtain ⟨state, ran, later⟩ := yields_iff.1 outcome
  simp only [Bool.and_eq_true] at later
  obtain ⟨⟨burns, halves⟩, kept⟩ := later
  obtain ⟨⟨after, emitted⟩, executed, _⟩ := yields_iff.1 burns
  obtain ⟨⟨after', emitted'⟩, executed', _⟩ := yields_iff.1 halves
  have kept := of_decide_eq_true kept
  exact ⟨state, after, emitted, after', emitted', ran, executed,
    (events_truthful _ _ _ _ _ executed).1, executed',
    (events_truthful _ _ _ _ _ executed').1.2 kept⟩

-- The first borrower's burn stores no supply and reports some 130.8 tokens of it.
theorem unevenBorrowers_misreported :
    ¬∀ events final, run Logged.step .start events = .ok final →
      replay final.log = final.token.aggregates := by
  intro truthful
  have outcome : yields (run Logged.step .start unevenBorrowers) (fun final =>
      final.token.aggregates = ⟨0, 0⟩ ∧ replay final.log = ⟨0, 130795070019255201456⟩) := by
    decide +kernel
  obtain ⟨final, ran, facts⟩ := yields_iff.1 outcome
  obtain ⟨stored, reported⟩ := of_decide_eq_true facts
  have same := truthful unevenBorrowers final ran
  rw [stored, reported] at same
  exact absurd same (by decide)

end StableDebtToken

end PalmyProtocol
