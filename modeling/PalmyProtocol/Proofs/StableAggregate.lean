import PalmyProtocol.Library.Runs
import PalmyProtocol.Tokenization.StableDebtToken

set_option autoImplicit false

namespace PalmyProtocol

open Checked Rounding Runs

namespace StableDebtToken

inductive PoolCall where
  | mint (user onBehalfOf : Address) (amount rate : Nat)
  | burn (user : Address) (amount : Nat)

structure TimedCall where
  now : Nat
  now_lt : now < 2 ^ 40
  call : PoolCall

structure Clocked where
  token : StableDebtToken
  clock : Nat

namespace Clocked

def start : Clocked := ⟨.empty, 0⟩

def step (state : Clocked) (event : TimedCall) : Result Clocked := do
  require (state.clock ≤ event.now) noClock
  match event.call with
  | .mint user onBehalfOf amount rate => do
    let (token, _, _) ← state.token.mint event.now user onBehalfOf amount rate
    pure ⟨token, event.now⟩
  | .burn user amount => do
    let (token, _) ← state.token.burn event.now user amount
    pure ⟨token, event.now⟩
where
  noClock : String := "timestamp decreased"

end Clocked

variable {token after : StableDebtToken} {now amount : Nat} {user : Address}

-- The aggregate is not wiped while somebody still owes.
def AggregateSound (token : StableDebtToken) : Prop :=
  token.base.totalSupply = 0 → ∀ user, token.principalBalanceOf user = 0

-- A burn takes one of the two branches that reset the aggregate.
def Wipes (token : StableDebtToken) (now : Nat) (user : Address) (amount : Nat) : Prop :=
  token.supply now ≤ amount ∨
    divHalfUp (token.avgStableRate * (token.supply now * WAD_RAY_RATIO)) RAY ≤
      divHalfUp (token.usersStableRate user * (amount * WAD_RAY_RATIO)) RAY

def LastRepayment (token : StableDebtToken) (now : Nat) (user : Address) (amount : Nat) : Prop :=
  (∀ other, other ≠ user → token.principalBalanceOf other = 0) ∧ amount = token.debt now user

def WipesOnlyLast (state : Clocked) (event : TimedCall) : Prop :=
  match event.call with
  | .mint _ _ _ _ => True
  | .burn user amount => state.token.Wipes event.now user amount →
      state.token.LastRepayment event.now user amount

theorem burnSupply_zero {previousSupply userStableRate supply average reported : Nat}
    (computed : token.burnSupply previousSupply userStableRate amount =
      .ok (supply, average, reported)) :
    supply = 0 ↔ previousSupply ≤ amount ∨
      divHalfUp (token.avgStableRate * (previousSupply * WAD_RAY_RATIO)) RAY ≤
        divHalfUp (userStableRate * (amount * WAD_RAY_RATIO)) RAY := by
  simp only [burnSupply, ite_eq_ok, bind_eq_ok, SafeMath.sub_eq_ok, wadToRay_eq_ok, rayMul_eq_ok,
    pure_eq_ok, Prod.mk.injEq, Except.ok.injEq] at computed
  rcases computed with ⟨less, rfl, _, _⟩ | ⟨more, _, ⟨_, rfl⟩, _, ⟨_, rfl⟩, _, ⟨_, rfl⟩, _,
    ⟨_, rfl⟩, _, ⟨_, rfl⟩, branch⟩
  · simp [less]
  · rcases branch with ⟨wiped, rfl, _, _⟩ | ⟨kept, _, _, _, _, _, _, rfl, _, _⟩
    · simp [wiped]
    · simp only [more, kept, or_self, iff_false]
      omega

theorem aggregateSound_burned (burned : Burned token now user amount after) :
    after.AggregateSound ↔ (token.Wipes now user amount → token.LastRepayment now user amount) := by
  obtain ⟨reported, aggregates⟩ := burned.aggregates
  have wiped : after.base.totalSupply = 0 ↔ token.Wipes now user amount :=
    burnSupply_zero aggregates
  have cleared : (∀ a, after.principalBalanceOf a = 0) ↔ token.LastRepayment now user amount := by
    have enough := burned.enough
    constructor
    · intro clear
      refine ⟨fun other different => ?_, ?_⟩
      · have owed := clear other
        rwa [principalBalanceOf, burned.balances, if_neg different] at owed
      · have owed := clear user
        rw [principalBalanceOf, burned.balances, if_pos rfl] at owed
        omega
    · rintro ⟨others, full⟩ a
      rw [principalBalanceOf, burned.balances]
      by_cases same : a = user
      · rw [if_pos same, full, Nat.sub_self]
      · rw [if_neg same]
        exact others a same
  rw [AggregateSound, wiped, cleared]

theorem aggregateSound_step {state next : Clocked} {event : TimedCall}
    (taken : state.step event = .ok next) :
    next.token.AggregateSound ↔ WipesOnlyLast state event := by
  obtain ⟨now, now_lt, call⟩ := event
  cases call with
  | mint user onBehalfOf amount rate =>
      simp only [Clocked.step, bind_eq_ok, Prod.exists, pure_eq_ok] at taken
      obtain ⟨_, _, token, _, _, minted, rfl⟩ := taken
      have nonzero := (mint_ok minted).totalSupply_ne_zero
      simp [WipesOnlyLast, AggregateSound, nonzero]
  | burn user amount =>
      simp only [Clocked.step, bind_eq_ok, Prod.exists, pure_eq_ok] at taken
      obtain ⟨_, _, token, _, burned, rfl⟩ := taken
      exact aggregateSound_burned (burn_ok burned)

/-- In a run of mints and burns the stored supply is zero only when nobody owes, after every call,
exactly when each burn that resets the aggregate is the last borrower's full repayment. -/
theorem aggregate_wiped_with_last {events : List TimedCall} {final : Clocked}
    (ran : run Clocked.step .start events = .ok final) :
    (∀ before rest state, events = before ++ rest →
        run Clocked.step .start before = .ok state → state.token.AggregateSound) ↔
      ∀ before event rest state, events = before ++ event :: rest →
        run Clocked.step .start before = .ok state → WipesOnlyLast state event :=
  run_exact (fun _ => True) (fun state => state.token.AggregateSound) WipesOnlyLast
    (fun _ _ _ _ _ => trivial) (fun _ _ _ _ _ taken => aggregateSound_step taken) trivial
    (fun _ _ => rfl) ran

def year : Nat := 31536000

-- Two borrowers of 100 tokens at 100% and at 1%, and a year later the first repays 200.
def unevenBorrowers : List TimedCall :=
  [⟨1, by decide, .mint 7 7 (100 * WAD) RAY⟩,
    ⟨1, by decide, .mint 8 8 (100 * WAD) (RAY / 100)⟩,
    ⟨1 + year, by decide, .burn 7 (200 * WAD)⟩]

-- The first repays 50 instead, and most of the debt is left.
def halfRepaid : List TimedCall :=
  unevenBorrowers.take 2 ++ [⟨1 + year, by decide, .burn 7 (50 * WAD)⟩]

theorem aggregate_wiped_with_last_uneven :
    (∃ final, run Clocked.step .start unevenBorrowers = .ok final ∧
      ((∀ before rest state, unevenBorrowers = before ++ rest →
          run Clocked.step .start before = .ok state → state.token.AggregateSound) ↔
        ∀ before event rest state, unevenBorrowers = before ++ event :: rest →
          run Clocked.step .start before = .ok state → WipesOnlyLast state event)) ∧
    ∃ final, run Clocked.step .start halfRepaid = .ok final ∧
      ∀ before rest state, halfRepaid = before ++ rest →
        run Clocked.step .start before = .ok state → state.token.AggregateSound := by
  have completes : yields (run Clocked.step .start unevenBorrowers) (fun _ => true) := by
    decide +kernel
  have halves : yields (run Clocked.step .start halfRepaid) (fun _ => true) := by
    decide +kernel
  have kept : yields (run Clocked.step .start (unevenBorrowers.take 2)) (fun state =>
      ¬(state.token.supply (1 + year) ≤ 50 * WAD ∨
        divHalfUp (state.token.avgStableRate *
            (state.token.supply (1 + year) * WAD_RAY_RATIO)) RAY ≤
          divHalfUp (state.token.usersStableRate 7 * (50 * WAD * WAD_RAY_RATIO)) RAY)) := by
    decide +kernel
  obtain ⟨final, ran, _⟩ := yields_iff.1 completes
  obtain ⟨final', ran', _⟩ := yields_iff.1 halves
  refine ⟨⟨final, ran, aggregate_wiped_with_last ran⟩, final', ran',
    (aggregate_wiped_with_last ran').2 fun before event rest state split reached => ?_⟩
  rcases before with _ | ⟨first, _ | ⟨second, _ | ⟨third, more⟩⟩⟩
  · cases split
    trivial
  · cases split
    trivial
  · cases split
    obtain ⟨state', reached', kept⟩ := yields_iff.1 kept
    obtain rfl : state = state' := Except.ok.inj (reached.symm.trans reached')
    have kept := of_decide_eq_true kept
    exact fun wipes => absurd wipes kept
  · simp [halfRepaid, unevenBorrowers] at split

theorem unevenBorrowers_wiped : ¬∀ events final, run Clocked.step .start events = .ok final →
    final.token.AggregateSound := by
  intro sound
  have outcome : yields (run Clocked.step .start unevenBorrowers) (fun final =>
      final.token.base.totalSupply = 0 ∧ final.token.principalBalanceOf 8 = 100 * WAD) := by
    decide +kernel
  obtain ⟨final, ran, facts⟩ := yields_iff.1 outcome
  obtain ⟨wiped, owed⟩ := of_decide_eq_true facts
  have clear := sound unevenBorrowers final ran wiped 8
  rw [owed] at clear
  exact absurd clear (by decide)

end StableDebtToken

end PalmyProtocol
