import PalmyProtocol.Library.Nonces
import PalmyProtocol.System.WorldSteps
import PalmyProtocol.Tokenization.Permit

set_option autoImplicit false

namespace PalmyProtocol

open Checked Runs

structure PermitWorld where
  world : World
  _nonces : Address → Address → Nat

inductive PermitEvent where
  | event (event : Event)
  | permit (asset : Address) (p : Permit)

namespace LendingPool

-- The lToken of a reserve, at its own address, with its own name and counters.
def permit (machine : Machine) (names : Address → List UInt8) (env : Env) (pool : LendingPool)
    (_nonces : Address → Address → Nat) (asset : Address) (p : Permit) :
    Result (LendingPool × (Address → Address → Nat)) := do
  let reserve := pool.reserves asset
  let contract := reserve.lTokenAddress
  require (contract ≠ 0) noMessage
  let (base, nonces) ← LToken.permit machine env.timestamp (names contract) contract
    (_nonces contract) reserve.lToken.base p
  pure (pool.setReserve asset { reserve with lToken := { reserve.lToken with base } },
    Function.update _nonces contract nonces)

end LendingPool

namespace PermitWorld

variable (machine : Machine) (names : Address → List UInt8)

def step (state : PermitWorld) : PermitEvent → Result PermitWorld
  | .event event => do
    let world ← state.world.step event
    pure { state with world }
  | .permit asset p => do
    require state.world.idle noMessage
    let (pool, _nonces) ← state.world.pool.permit machine names state.world.env state._nonces asset
      p
    pure { world := state.world.withPool pool, _nonces }

structure Used where
  contract : Address
  permit : Permit
  nonce : Nat

namespace Used

def counter (used : Used) : Address × Address := (used.contract, used.permit.owner)

def digest (used : Used) : Nat :=
  LToken.digest machine (names used.contract) used.contract used.permit used.nonce

def message (used : Used) : LToken.Message := LToken.message used.contract used.permit used.nonce

def preimages (used : Used) : List (List UInt8) :=
  LToken.preimages machine (names used.contract) used.contract used.permit used.nonce

end Used

def accepts (state : PermitWorld) (event : PermitEvent) (_ : PermitWorld) : List Used :=
  match event with
  | .event _ => []
  | .permit asset p =>
    let contract := (state.world.pool.reserves asset).lTokenAddress
    [⟨contract, p, state._nonces contract p.owner⟩]

def counters (state : PermitWorld) (counter : Address × Address) : Nat :=
  state._nonces counter.1 counter.2

variable {machine names} {state next : PermitWorld}

structure Accepted (machine : Machine) (names : Address → List UInt8) (state : PermitWorld)
    (asset : Address) (p : Permit) (base : ERC20) (nonces : Address → Nat) (next : PermitWorld) :
    Prop where
  idle : state.world.idle = true
  listed : (state.world.pool.reserves asset).lTokenAddress ≠ 0
  permitted : LToken.Permitted machine state.world.env.timestamp
    (names (state.world.pool.reserves asset).lTokenAddress)
    (state.world.pool.reserves asset).lTokenAddress
    (state._nonces (state.world.pool.reserves asset).lTokenAddress)
    (state.world.pool.reserves asset).lToken.base p base nonces
  world : next.world = state.world.withPool (state.world.pool.setReserve asset
    { state.world.pool.reserves asset with
      lToken := { (state.world.pool.reserves asset).lToken with base } })
  nonces : next._nonces =
    Function.update state._nonces (state.world.pool.reserves asset).lTokenAddress nonces

theorem step_permit {asset : Address} {p : Permit}
    (taken : state.step machine names (.permit asset p) = .ok next) :
    ∃ base nonces, Accepted machine names state asset p base nonces next := by
  simp only [step, LendingPool.permit, bind_eq_ok, require_eq_ok, exists_const, Prod.exists,
    pure_eq_ok, Prod.mk.injEq] at taken
  obtain ⟨idle, _, _, ⟨listed, base, nonces, computed, rfl, rfl⟩, rfl⟩ := taken
  exact ⟨base, nonces, idle, listed, LToken.permit_ok computed, rfl, rfl⟩

theorem step_event {event : Event}
    (taken : state.step machine names (.event event) = .ok next) :
    state.world.step event = .ok next.world ∧ next._nonces = state._nonces := by
  simp only [step, bind_eq_ok, pure_eq_ok] at taken
  obtain ⟨world, taken, rfl⟩ := taken
  exact ⟨taken, rfl⟩

def plain : PermitEvent → Event
  | .event event => event
  | .permit asset p => .call p.owner (.approve asset p.spender p.value)

-- The signature stands for the owner's presence.
theorem step_plain {event : PermitEvent}
    (keyless : ∀ digest v r s, machine.ecrecover digest v r s ≠ 0 →
      ¬state.world.pool.IsProtocol (machine.ecrecover digest v r s))
    (taken : state.step machine names event = .ok next) :
    state.world.step (plain event) = .ok next.world := by
  cases event with
  | event => exact (step_event taken).1
  | permit asset p =>
      obtain ⟨base, nonces, accepted⟩ := step_permit taken
      have signed := accepted.permitted.signed
      have outside := keyless (LToken.digest machine _ _ p _) p.v p.r p.s (by
        rw [signed]
        exact accepted.permitted.owner)
      rw [signed] at outside
      simp only [plain, World.step, Call.execute, LendingPool.approve, LendingPool.updateAllowance,
        bind_eq_ok, require_eq_ok, exists_const, pure_eq_ok]
      exact ⟨⟨accepted.idle, outside⟩, _, ⟨accepted.listed, base, accepted.permitted.approved, rfl⟩,
        accepted.world.symm⟩

theorem consumes :
    Nonces.Consumes (step machine names) counters accepts Used.counter Used.nonce where
  each := by
    intro state event next taken
    cases event with
    | event =>
        obtain ⟨_, same⟩ := step_event taken
        refine .inl ⟨rfl, ?_⟩
        funext counter
        rw [counters, counters, same]
    | permit asset p =>
        obtain ⟨base, nonces, accepted⟩ := step_permit taken
        refine .inr ⟨_, rfl, rfl, ?_⟩
        funext ⟨contract, owner⟩
        rw [counters, accepted.nonces, accepted.permitted.nonces]
        simp only [Used.counter, Function.update_apply, Prod.mk.injEq, counters]
        split_ifs <;> simp_all

end PermitWorld

end PalmyProtocol
