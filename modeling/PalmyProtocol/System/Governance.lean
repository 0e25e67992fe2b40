import PalmyProtocol.Library.Runs
import PalmyProtocol.Configuration.LendingPoolAddressesProvider

set_option autoImplicit false

namespace PalmyProtocol

open Checked

inductive ProviderCall where
  | transferOwnership (newOwner : Address)
  | renounceOwnership
  | setMarketId (marketId : String)
  | setAddressAsProxy (id : Nat) (implementationAddress : Address)
  | setAddress (id : Nat) (newAddress : Address)
  | setLendingPoolImpl (pool : Address)
  | setLendingPoolConfiguratorImpl (configurator : Address)
  | setLendingPoolCollateralManager (manager : Address)
  | setPoolAdmin (admin : Address)
  | setEmergencyAdmin (emergencyAdmin : Address)
  | setPriceOracle (priceOracle : Address)
  | setLendingRateOracle (lendingRateOracle : Address)

inductive ProxyCall where
  | initializeProxy (_logic provider lendingPool : Address)
  | upgradeTo (newImplementation : Address)
  | upgradeToAndCall (newImplementation provider lendingPool : Address)
  | fallback (provider lendingPool : Address)

structure Governance where
  provider : LendingPoolAddressesProvider
  proxies : Address → Option Proxy

inductive GovernanceEvent where
  | provider (msgSender created : Address) (call : ProviderCall)
  | proxy (msgSender target : Address) (call : ProxyCall)

namespace Governance

open LendingPoolAddressesProvider

section

variable (chain : Chain) (factory : Address)

-- A contract that is registered under the id without being a proxy of ours may do what it likes
-- with the call, to itself.
def _updateImpl (state : Governance) (created : Address) (id : Nat) (newAddress : Address) :
    Result Governance := do
  let proxyAddress := state.provider._addresses id
  let lendingPool := state.provider.getLendingPool
  if proxyAddress = 0 then
    require (created ≠ 0 ∧ created ≠ factory ∧ chain.isContract created = false ∧
      (state.proxies created).isNone) noMessage
    let proxy ← (Proxy.empty factory).initializeProxy chain newAddress factory lendingPool
    pure {
      provider := state.provider.setEntry id created
      proxies := Function.update state.proxies created (some proxy) }
  else
    match state.proxies proxyAddress with
    | some proxy => do
      let proxy ← proxy.upgradeToAndCall chain factory newAddress factory lendingPool
      pure { state with proxies := Function.update state.proxies proxyAddress (some proxy) }
    | none => do
      require (chain.isContract proxyAddress) noMessage
      pure state

def execute (state : Governance) (created : Address) : ProviderCall → Result Governance
  | .transferOwnership newOwner => do
    require (newOwner ≠ 0) "Ownable: new owner is the zero address"
    pure { state with provider := { state.provider with owner := newOwner } }
  | .renounceOwnership => .ok { state with provider := { state.provider with owner := 0 } }
  | .setMarketId marketId =>
    .ok { state with provider := { state.provider with _marketId := marketId } }
  | .setAddressAsProxy id implementationAddress =>
    state._updateImpl chain factory created id implementationAddress
  | .setAddress id newAddress =>
    .ok { state with provider := state.provider.setEntry id newAddress }
  | .setLendingPoolImpl pool => state._updateImpl chain factory created LENDING_POOL pool
  | .setLendingPoolConfiguratorImpl configurator =>
    state._updateImpl chain factory created LENDING_POOL_CONFIGURATOR configurator
  | .setLendingPoolCollateralManager manager =>
    .ok { state with provider := state.provider.setEntry LENDING_POOL_COLLATERAL_MANAGER manager }
  | .setPoolAdmin admin =>
    .ok { state with provider := state.provider.setEntry POOL_ADMIN admin }
  | .setEmergencyAdmin emergencyAdmin =>
    .ok { state with provider := state.provider.setEntry EMERGENCY_ADMIN emergencyAdmin }
  | .setPriceOracle priceOracle =>
    .ok { state with provider := state.provider.setEntry PRICE_ORACLE priceOracle }
  | .setLendingRateOracle lendingRateOracle =>
    .ok { state with provider := state.provider.setEntry LENDING_RATE_ORACLE lendingRateOracle }

def callProxy (msgSender : Address) (proxy : Proxy) : ProxyCall → Result Proxy
  | .initializeProxy _logic provider lendingPool =>
    proxy.initializeProxy chain _logic provider lendingPool
  | .upgradeTo newImplementation => proxy.upgradeTo chain msgSender newImplementation
  | .upgradeToAndCall newImplementation provider lendingPool =>
    proxy.upgradeToAndCall chain msgSender newImplementation provider lendingPool
  | .fallback provider lendingPool => proxy.fallback chain msgSender provider lendingPool

-- Nobody calls from the zero address, and the provider calls its proxies in `_updateImpl` only.
def step (state : Governance) : GovernanceEvent → Result Governance
  | .provider msgSender created call => do
    require (msgSender ≠ 0) noMessage
    state.provider.onlyOwner msgSender
    state.execute chain factory created call
  | .proxy msgSender target call => do
    require (msgSender ≠ 0 ∧ msgSender ≠ factory) noMessage
    match state.proxies target with
    | none => .error noMessage
    | some proxy => do
      let proxy ← callProxy chain msgSender proxy call
      pure { state with proxies := Function.update state.proxies target (some proxy) }

def Initial (state : Governance) : Prop :=
  (∀ id, state.provider._addresses id = 0) ∧ ∀ a, state.proxies a = none

def Reachable (state : Governance) : Prop := Runs.Reachable (step chain factory) Initial state

end

variable {chain : Chain} {factory msgSender created : Address} {state next : Governance}

structure Upgraded (chain : Chain) (factory : Address) (state : Governance)
    (id implementation target : Address) (code : Code) (before after : Proxy)
    (next : Governance) : Prop where
  initialized : Proxy.Initialized chain before implementation factory state.provider.getLendingPool
    code after
  before : (state.provider._addresses id = 0 ∧ state.proxies target = none ∧
      before = Proxy.empty factory) ∨
    (state.provider._addresses id = target ∧ state.proxies target = some before)
  proxies : next.proxies = Function.update state.proxies target (some after)
  registered : target ≠ 0 ∧ next.provider._addresses id = target
  others : ∀ other, other ≠ id → next.provider._addresses other = state.provider._addresses other
  owner : next.provider.owner = state.provider.owner

theorem updateImpl_ok {id : Nat} {newAddress : Address}
    (computed : state._updateImpl chain factory created id newAddress = .ok next) :
    (∃ target code before after,
      Upgraded chain factory state id newAddress target code before after next) ∨
      (next = state ∧ state.proxies (state.provider._addresses id) = none) := by
  rw [_updateImpl] at computed
  by_cases unset : state.provider._addresses id = 0
  · simp only [unset, if_true, bind_eq_ok, require_eq_ok, exists_const, pure_eq_ok,
      Option.isNone_iff_eq_none] at computed
    obtain ⟨⟨some, _, _, fresh⟩, after, initialized, rfl⟩ := computed
    obtain ⟨_, code, initialized⟩ := Proxy.initializeProxy_ok initialized
    refine .inl ⟨created, code, _, after, initialized, .inl ⟨unset, fresh, rfl⟩, rfl, ⟨some, ?_⟩,
      ?_, rfl⟩
    · simp [setEntry]
    · intro other different
      simp [setEntry, different]
  · simp only [unset, if_false] at computed
    cases registered : state.proxies (state.provider._addresses id) with
    | none =>
        simp only [registered, bind_eq_ok, require_eq_ok, exists_const, pure_eq_ok] at computed
        exact .inr ⟨computed.2.symm, rfl⟩
    | some before =>
        simp only [registered, bind_eq_ok, pure_eq_ok] at computed
        obtain ⟨after, upgraded, rfl⟩ := computed
        obtain ⟨_, code, initialized⟩ := Proxy.upgradeToAndCall_ok upgraded
        exact .inl ⟨_, code, before, after, initialized, .inr ⟨rfl, registered⟩, rfl, ⟨unset, rfl⟩,
          fun _ _ => rfl, rfl⟩

end Governance

def ProviderCall.upgrade : ProviderCall → Option (Nat × Address)
  | setAddressAsProxy id implementationAddress => some (id, implementationAddress)
  | setLendingPoolImpl pool => some (LendingPoolAddressesProvider.LENDING_POOL, pool)
  | setLendingPoolConfiguratorImpl configurator =>
    some (LendingPoolAddressesProvider.LENDING_POOL_CONFIGURATOR, configurator)
  | _ => none

def ProviderCall.overwrites : ProviderCall → Option Nat
  | setAddress id _ => some id
  | setLendingPoolCollateralManager _ =>
    some LendingPoolAddressesProvider.LENDING_POOL_COLLATERAL_MANAGER
  | setPoolAdmin _ => some LendingPoolAddressesProvider.POOL_ADMIN
  | setEmergencyAdmin _ => some LendingPoolAddressesProvider.EMERGENCY_ADMIN
  | setPriceOracle _ => some LendingPoolAddressesProvider.PRICE_ORACLE
  | setLendingRateOracle _ => some LendingPoolAddressesProvider.LENDING_RATE_ORACLE
  | _ => none

namespace Governance

variable {chain : Chain} {factory msgSender created : Address} {state next : Governance}

theorem execute_ok {call : ProviderCall}
    (computed : state.execute chain factory created call = .ok next) :
    (∃ id implementation target code before after, call.upgrade = some (id, implementation) ∧
      Upgraded chain factory state id implementation target code before after next) ∨
      (next.proxies = state.proxies ∧
        (∀ id implementation, call.upgrade = some (id, implementation) →
          state.proxies (state.provider._addresses id) = none) ∧
        ∀ id, call.overwrites ≠ some id →
          next.provider._addresses id = state.provider._addresses id) := by
  have upgrades : ∀ {id newAddress}, call.upgrade = some (id, newAddress) →
      state._updateImpl chain factory created id newAddress = .ok next →
      (∃ id implementation target code before after, call.upgrade = some (id, implementation) ∧
        Upgraded chain factory state id implementation target code before after next) ∨
        (next.proxies = state.proxies ∧
          (∀ id implementation, call.upgrade = some (id, implementation) →
            state.proxies (state.provider._addresses id) = none) ∧
          ∀ id, call.overwrites ≠ some id →
            next.provider._addresses id = state.provider._addresses id) := by
    intro id newAddress named updated
    rcases updateImpl_ok updated with ⟨target, code, before, after, run⟩ | ⟨rfl, foreign⟩
    · exact .inl ⟨id, newAddress, target, code, before, after, named, run⟩
    · refine .inr ⟨rfl, fun other implementation same => ?_, fun _ _ => rfl⟩
      rw [named] at same
      cases same
      exact foreign
  cases call with
  | setAddressAsProxy | setLendingPoolImpl | setLendingPoolConfiguratorImpl =>
      exact upgrades rfl computed
  | transferOwnership =>
      simp only [execute, bind_eq_ok, require_eq_ok, exists_const, pure_eq_ok] at computed
      obtain ⟨_, rfl⟩ := computed
      exact .inr ⟨rfl, by simp [ProviderCall.upgrade], fun _ _ => rfl⟩
  | renounceOwnership | setMarketId =>
      cases computed
      exact .inr ⟨rfl, by simp [ProviderCall.upgrade], fun _ _ => rfl⟩
  | _ =>
      cases computed
      refine .inr ⟨rfl, by simp [ProviderCall.upgrade], fun id other => ?_⟩
      have different : id ≠ _ := fun same => other (congrArg some same.symm)
      exact Function.update_of_ne different _ _

theorem step_provider {call : ProviderCall}
    (taken : state.step chain factory (.provider msgSender created call) = .ok next) :
    msgSender ≠ 0 ∧ state.provider.owner = msgSender ∧
      state.execute chain factory created call = .ok next := by
  simp only [step, LendingPoolAddressesProvider.onlyOwner, bind_eq_ok, require_eq_ok,
    exists_const] at taken
  exact taken

theorem step_proxy {target : Address} {call : ProxyCall}
    (taken : state.step chain factory (.proxy msgSender target call) = .ok next) :
    msgSender ≠ factory ∧ ∃ proxy after, state.proxies target = some proxy ∧
      callProxy chain msgSender proxy call = .ok after := by
  simp only [step, bind_eq_ok, require_eq_ok, exists_const] at taken
  obtain ⟨⟨_, outside⟩, taken⟩ := taken
  cases registered : state.proxies target with
  | none => simp [registered] at taken
  | some proxy =>
      simp only [registered, bind_eq_ok] at taken
      obtain ⟨after, called, _⟩ := taken
      exact ⟨outside, proxy, after, rfl, called⟩

end Governance

end PalmyProtocol
