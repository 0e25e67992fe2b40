import PalmyProtocol.Pool.DataTypes

set_option autoImplicit false

namespace PalmyProtocol

open Checked

inductive Component where
  | lendingPool
  | lendingPoolConfigurator

structure Code where
  component : Component
  getRevision : Nat

structure Chain where
  isContract : Address → Bool
  code : Address → Option Code
  code_isContract : ∀ a c, code a = some c → isContract a = true
  zero_not_contract : isContract 0 = false

structure Storage where
  lastInitializedRevision : Nat
  addressesProvider : Address
  pool : Address

namespace VersionedInitializable

-- Between transactions `initializing` is unset, and a proxy that is called has code.
def initializer (code : Code) (body : Storage → Storage) (storage : Storage) : Result Storage := do
  require (storage.lastInitializedRevision < code.getRevision)
    "Contract instance has already been initialized"
  pure (body { storage with lastInitializedRevision := code.getRevision })

end VersionedInitializable

namespace Code

def initializeWith (code : Code) (provider lendingPool : Address) : Storage → Result Storage :=
  VersionedInitializable.initializer code fun storage =>
    match code.component with
    | .lendingPool => { storage with addressesProvider := provider }
    | .lendingPoolConfigurator =>
      { storage with addressesProvider := provider, pool := lendingPool }

end Code

structure Proxy where
  ADMIN : Address
  _implementation : Address
  storage : Storage

namespace Proxy

def empty (admin : Address) : Proxy := ⟨admin, 0, ⟨0, 0, 0⟩⟩

variable (chain : Chain)

def _setImplementation (proxy : Proxy) (newImplementation : Address) : Result Proxy := do
  require (chain.isContract newImplementation)
    "Cannot set a proxy implementation to a non-contract address"
  pure { proxy with _implementation := newImplementation }

def delegateInitialize (proxy : Proxy) (implementation provider lendingPool : Address) :
    Result Proxy :=
  if chain.isContract implementation then
    match chain.code implementation with
    | some code => do
      let storage ← code.initializeWith provider lendingPool proxy.storage
      pure { proxy with storage }
    | none => .error noMessage
  else .ok proxy

-- `require(success)` after a low-level call keeps no message.
def orRevert {α : Type} (called : Result α) : Result α :=
  match called with
  | .ok a => .ok a
  | .error _ => .error noMessage

-- `InitializableUpgradeabilityProxy.initialize`, which anybody may call while there is no
-- implementation.
def initializeProxy (proxy : Proxy) (_logic provider lendingPool : Address) : Result Proxy := do
  require (proxy._implementation = 0) noMessage
  let proxy ← proxy._setImplementation chain _logic
  orRevert (proxy.delegateInitialize chain _logic provider lendingPool)

-- From anybody else it falls through to the implementation, which has no such function.
def upgradeTo (msgSender : Address) (proxy : Proxy) (newImplementation : Address) :
    Result Proxy := do
  require (msgSender = proxy.ADMIN) noMessage
  proxy._setImplementation chain newImplementation

def upgradeToAndCall (msgSender : Address) (proxy : Proxy)
    (newImplementation provider lendingPool : Address) : Result Proxy := do
  require (msgSender = proxy.ADMIN) noMessage
  let proxy ← proxy._setImplementation chain newImplementation
  orRevert (proxy.delegateInitialize chain newImplementation provider lendingPool)

def fallback (msgSender : Address) (proxy : Proxy) (provider lendingPool : Address) :
    Result Proxy := do
  require (msgSender ≠ proxy.ADMIN) "Cannot call fallback function from the proxy admin"
  proxy.delegateInitialize chain proxy._implementation provider lendingPool

variable {chain} {proxy after : Proxy} {implementation provider lendingPool msgSender : Address}

@[simp]
theorem orRevert_ok {α : Type} {called : Result α} {a : α} :
    orRevert called = .ok a ↔ called = .ok a := by
  cases called <;> simp [orRevert]

structure Initialized (chain : Chain) (proxy : Proxy)
    (implementation provider lendingPool : Address) (code : Code) (after : Proxy) : Prop where
  deployed : chain.code implementation = some code
  newer : proxy.storage.lastInitializedRevision < code.getRevision
  admin : after.ADMIN = proxy.ADMIN
  runs : after._implementation = implementation
  revision : after.storage.lastInitializedRevision = code.getRevision
  provider : after.storage.addressesProvider = provider
  pool : after.storage.pool = match code.component with
    | .lendingPool => proxy.storage.pool
    | .lendingPoolConfigurator => lendingPool

theorem setImplementation_initialized
    (computed : (proxy._setImplementation chain implementation >>= fun proxy =>
      orRevert (proxy.delegateInitialize chain implementation provider lendingPool)) = .ok after) :
    ∃ code, Initialized chain proxy implementation provider lendingPool code after := by
  simp only [_setImplementation, bind_eq_ok, require_eq_ok, exists_const, pure_eq_ok, orRevert_ok,
    delegateInitialize] at computed
  obtain ⟨_, ⟨contract, rfl⟩, computed⟩ := computed
  rw [if_pos contract] at computed
  cases deployed : chain.code implementation with
  | none => simp [deployed] at computed
  | some code =>
      simp only [deployed, Code.initializeWith, VersionedInitializable.initializer, bind_eq_ok,
        require_eq_ok, exists_const, pure_eq_ok] at computed
      obtain ⟨_, ⟨newer, rfl⟩, rfl⟩ := computed
      refine ⟨code, deployed, newer, rfl, rfl, ?_, ?_, ?_⟩
      all_goals cases code.component <;> rfl

theorem initializeProxy_ok
    (computed : proxy.initializeProxy chain implementation provider lendingPool = .ok after) :
    proxy._implementation = 0 ∧
      ∃ code, Initialized chain proxy implementation provider lendingPool code after := by
  simp only [initializeProxy, bind_eq_ok, require_eq_ok, exists_const] at computed
  obtain ⟨fresh, run⟩ := computed
  exact ⟨fresh, setImplementation_initialized (bind_eq_ok.2 run)⟩

theorem upgradeToAndCall_ok
    (computed : proxy.upgradeToAndCall chain msgSender implementation provider lendingPool =
      .ok after) :
    msgSender = proxy.ADMIN ∧
      ∃ code, Initialized chain proxy implementation provider lendingPool code after := by
  simp only [upgradeToAndCall, bind_eq_ok, require_eq_ok, exists_const] at computed
  obtain ⟨admin, run⟩ := computed
  exact ⟨admin, setImplementation_initialized (bind_eq_ok.2 run)⟩

-- Once a proxy runs code that has initialized it, nobody gets that initializer to run again.
theorem delegateInitialize_spent {code : Code} (deployed : chain.code implementation = some code)
    (spent : proxy.storage.lastInitializedRevision = code.getRevision) :
    proxy.delegateInitialize chain implementation provider lendingPool ≠ .ok after := by
  intro computed
  rw [delegateInitialize, if_pos (chain.code_isContract _ _ deployed)] at computed
  simp only [deployed, Code.initializeWith, VersionedInitializable.initializer, bind_eq_ok,
    require_eq_ok, exists_const] at computed
  obtain ⟨_, ⟨newer, _⟩, _⟩ := computed
  omega

end Proxy

end PalmyProtocol
