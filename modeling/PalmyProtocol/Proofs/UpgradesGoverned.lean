import PalmyProtocol.Library.Levels
import PalmyProtocol.System.Governance

set_option autoImplicit false

namespace PalmyProtocol

open Checked Runs

namespace Governance

variable {chain : Chain} {factory : Address} {state next : Governance}

structure Current (chain : Chain) (factory : Address) (proxy : Proxy) (code : Code) : Prop where
  deployed : chain.code proxy._implementation = some code
  revision : proxy.storage.lastInitializedRevision = code.getRevision
  provider : proxy.storage.addressesProvider = factory
  admin : proxy.ADMIN = factory

def Governed (chain : Chain) (factory : Address) (state : Governance) : Prop :=
  ∀ a proxy, state.proxies a = some proxy → ∃ code, Current chain factory proxy code

-- A call of anybody but the provider is refused by every function of such a proxy.
theorem callProxy_refused {proxy after : Proxy} {code : Code} {msgSender : Address}
    {call : ProxyCall} (current : Current chain factory proxy code)
    (outside : msgSender ≠ factory) : callProxy chain msgSender proxy call ≠ .ok after := by
  intro called
  have deployed := current.deployed
  cases call with
  | initializeProxy =>
      obtain ⟨unset, _⟩ := Proxy.initializeProxy_ok called
      rw [unset] at deployed
      have contract := chain.code_isContract _ _ deployed
      rw [chain.zero_not_contract] at contract
      cases contract
  | upgradeTo =>
      simp only [callProxy, Proxy.upgradeTo, bind_eq_ok, require_eq_ok, exists_const] at called
      exact outside (called.1.trans current.admin)
  | upgradeToAndCall =>
      obtain ⟨admin, _⟩ := Proxy.upgradeToAndCall_ok called
      exact outside (admin.trans current.admin)
  | fallback =>
      simp only [callProxy, Proxy.fallback, bind_eq_ok, require_eq_ok, exists_const] at called
      exact Proxy.delegateInitialize_spent deployed current.revision called.2

theorem Upgraded.current {id implementation target : Address} {code : Code} {before after : Proxy}
    (governed : Governed chain factory state)
    (run : Upgraded chain factory state id implementation target code before after next) :
    Current chain factory after code where
  deployed := by
    rw [run.initialized.runs]
    exact run.initialized.deployed
  revision := run.initialized.revision
  provider := run.initialized.provider
  admin := by
    rw [run.initialized.admin]
    rcases run.before with ⟨_, _, rfl⟩ | ⟨_, registered⟩
    · rfl
    · obtain ⟨_, current⟩ := governed _ _ registered
      exact current.admin

theorem step_owner {event : GovernanceEvent} (governed : Governed chain factory state)
    (taken : state.step chain factory event = .ok next) :
    ∃ created call, event = .provider state.provider.owner created call ∧
      state.provider.owner ≠ 0 ∧ state.execute chain factory created call = .ok next := by
  cases event with
  | provider msgSender created call =>
      obtain ⟨some, rfl, executed⟩ := step_provider taken
      exact ⟨created, call, rfl, some, executed⟩
  | proxy msgSender target call =>
      obtain ⟨outside, proxy, after, registered, called⟩ := step_proxy taken
      obtain ⟨code, current⟩ := governed target proxy registered
      exact absurd called (callProxy_refused current outside)

theorem Governed.step {event : GovernanceEvent} (governed : Governed chain factory state)
    (taken : state.step chain factory event = .ok next) : Governed chain factory next := by
  obtain ⟨created, call, rfl, _, executed⟩ := step_owner governed taken
  rcases execute_ok executed with ⟨id, implementation, target, code, before, after, _, run⟩ |
    ⟨same, _⟩
  · intro a proxy registered
    rw [run.proxies, Function.update_apply] at registered
    split_ifs at registered with here
    · cases registered
      exact ⟨code, run.current governed⟩
    · exact governed a proxy registered
  · intro a proxy registered
    rw [same] at registered
    exact governed a proxy registered

theorem Reachable.governed (reached : Reachable chain factory state) :
    Governed chain factory state := by
  refine Runs.Reachable.invariant (Governed chain factory) reached ?_
    fun _ _ _ governed taken => governed.step taken
  rintro start ⟨_, none⟩ a proxy registered
  rw [none a] at registered
  cases registered

def revision (state : Governance) (target : Address) : Nat :=
  match state.proxies target with
  | some proxy => proxy.storage.lastInitializedRevision
  | none => 0

def upgrades (_ : Governance) (event : GovernanceEvent) (next : Governance) :
    List (Address × Nat) :=
  match event with
  | .proxy .. => []
  | .provider _ _ call =>
    match call.upgrade with
    | none => []
    | some (id, _) =>
      let target := next.provider._addresses id
      if (next.proxies target).isSome then [(target, next.revision target)] else []

def Paired (chain : Chain) (state : Governance) : Prop :=
  ∀ a proxy code, state.proxies a = some proxy → chain.code proxy._implementation = some code →
    code.component = .lendingPoolConfigurator →
    proxy.storage.pool = state.provider.getLendingPool ∧ state.provider.getLendingPool ≠ 0

def InOrder (chain : Chain) (state : Governance) (event : GovernanceEvent) : Prop :=
  ∀ msgSender created call, event = .provider msgSender created call →
    call.overwrites ≠ some LendingPoolAddressesProvider.LENDING_POOL ∧
      ∀ id implementation code, call.upgrade = some (id, implementation) →
        chain.code implementation = some code → code.component = .lendingPoolConfigurator →
        state.provider.getLendingPool ≠ 0

open LendingPoolAddressesProvider in
theorem Upgraded.lendingPool {id implementation target : Address} {code : Code}
    {before after : Proxy}
    (run : Upgraded chain factory state id implementation target code before after next)
    (registered : state.provider.getLendingPool ≠ 0) :
    next.provider.getLendingPool = state.provider.getLendingPool := by
  by_cases here : id = LENDING_POOL
  · subst here
    rcases run.before with ⟨unset, _⟩ | ⟨same, _⟩
    · exact absurd unset registered
    · exact run.registered.2.trans same.symm
  · exact run.others LENDING_POOL (Ne.symm here)

theorem Paired.step {event : GovernanceEvent} (governed : Governed chain factory state)
    (paired : Paired chain state) (inOrder : InOrder chain state event)
    (taken : state.step chain factory event = .ok next) : Paired chain next := by
  obtain ⟨created, call, rfl, _, executed⟩ := step_owner governed taken
  obtain ⟨kept, ready⟩ := inOrder _ created call rfl
  rcases execute_ok executed with ⟨id, implementation, target, code, before, after, named, run⟩ |
    ⟨same, _, addresses⟩
  · intro a proxy other registered deployed configures
    rw [run.proxies, Function.update_apply] at registered
    split_ifs at registered with here
    · cases registered
      rw [run.initialized.runs] at deployed
      have pool := ready id implementation other named deployed configures
      rw [run.initialized.deployed] at deployed
      cases deployed
      rw [run.lendingPool pool, run.initialized.pool, configures]
      exact ⟨rfl, pool⟩
    · obtain ⟨configured, pool⟩ := paired a proxy other registered deployed configures
      rw [run.lendingPool pool]
      exact ⟨configured, pool⟩
  · intro a proxy code registered deployed configures
    rw [same] at registered
    obtain ⟨configured, pool⟩ := paired a proxy code registered deployed configures
    have lendingPool : next.provider.getLendingPool = state.provider.getLendingPool :=
      addresses _ kept
    rw [lendingPool]
    exact ⟨configured, pool⟩

end Governance

end PalmyProtocol
