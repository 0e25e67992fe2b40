import PalmyProtocol.Library.Runs
import PalmyProtocol.Oracles.PalmyOracle

set_option autoImplicit false

namespace PalmyProtocol

open Checked Runs

inductive PriceCall where
  | updateState (store : Address) (data : List UInt8)
  | updateStateByKey (store : Address) (data : List UInt8) (key : Nat)
  | updateStateBulk (store : Address) (data : List (List UInt8)) (keys : List Nat)
  | setAssetSources (assets oracleAddresses senders : List Address) (keys : List Nat)
  | authorizeSybil (sybil : Address)
  | unauthorizeSybil (sybil : Address)
  | submitPrices (assets : List Address) (prices : List Nat)

structure PriceEvent where
  msgSender : Address
  number : Nat
  now : Nat
  call : PriceCall

structure PriceFeeds where
  oracle : PalmyOracle
  clock : Nat

namespace PriceFeeds

variable (feeds : PriceFeeds)

def updateStore (address : Address) (change : ChainsightOracle → Result ChainsightOracle) :
    Result PalmyOracle :=
  match feeds.oracle.deployed address with
  | none => .error ""
  | some store => do
    let store ← change store
    pure { feeds.oracle with deployed := Function.update feeds.oracle.deployed address (some store) }

def execute (event : PriceEvent) : Result PalmyOracle :=
  match event.call with
  | .updateState store data =>
      feeds.updateStore store fun store => .ok (store.updateState event.now event.msgSender data)
  | .updateStateByKey store data key => feeds.updateStore store fun store =>
      .ok (store.updateStateByKey event.now event.msgSender data key)
  | .updateStateBulk store data keys => feeds.updateStore store fun store =>
      store.updateStateBulk event.now event.msgSender data keys
  | .setAssetSources assets oracleAddresses senders keys => do
      let adapter ← feeds.oracle.adapter.setAssetSources event.msgSender assets oracleAddresses
        senders keys
      pure { feeds.oracle with adapter }
  | .authorizeSybil sybil => do
      let fallbackOracle ← feeds.oracle.fallbackOracle.authorizeSybil event.msgSender sybil
      pure { feeds.oracle with fallbackOracle }
  | .unauthorizeSybil sybil => do
      let fallbackOracle ← feeds.oracle.fallbackOracle.unauthorizeSybil event.msgSender sybil
      pure { feeds.oracle with fallbackOracle }
  | .submitPrices assets prices => do
      let fallbackOracle ← feeds.oracle.fallbackOracle.submitPrices event.number event.now
        event.msgSender assets prices
      pure { feeds.oracle with fallbackOracle }

-- Time does not run backwards, and the clock has passed its first hour.
def step (event : PriceEvent) : Result PriceFeeds := do
  require (feeds.clock ≤ event.now ∧ 3600 ≤ event.now ∧ event.now < 2 ^ 256) ""
  let oracle ← feeds.execute event
  pure ⟨oracle, event.now⟩

structure Deployed : Prop where
  stores : ∀ address store, feeds.oracle.deployed address = some store → store = .empty
  sources : ∀ asset, feeds.oracle.adapter.oracles asset = ⟨0, 0, 0⟩
  sybils : ∀ sybil, feeds.oracle.fallbackOracle.sybils sybil = false
  prices : ∀ asset, feeds.oracle.fallbackOracle.prices asset = ⟨0, 0, 0⟩

end PriceFeeds

namespace PriceEvent

def Writes (event : PriceEvent) (address : Address) (key : Nat) (data : List UInt8) : Prop :=
  match event.call with
  | .updateState store written => store = address ∧ key = ChainsightOracle.DEFAULT_KEY ∧
      written = data
  | .updateStateByKey store written slot => store = address ∧ slot = key ∧ written = data
  | .updateStateBulk store written slots => store = address ∧ (data, key) ∈ written.zip slots
  | _ => False

def Submits (event : PriceEvent) (asset : Address) (price : Nat) : Prop :=
  match event.call with
  | .submitPrices assets prices => (asset, price) ∈ assets.zip prices
  | _ => False

end PriceEvent

namespace PriceFeeds

variable {feeds after : PriceFeeds} {event : PriceEvent}

theorem step_ok (taken : feeds.step event = .ok after) :
    feeds.clock ≤ event.now ∧ 3600 ≤ event.now ∧ event.now < 2 ^ 256 ∧ after.clock = event.now ∧
      feeds.execute event = .ok after.oracle := by
  simp only [step, bind_eq_ok, require_eq_ok, exists_const, pure_eq_ok] at taken
  obtain ⟨⟨order, hour, word⟩, _, executed, rfl⟩ := taken
  exact ⟨order, hour, word, rfl, executed⟩

theorem updateStore_ok {address : Address} {change : ChainsightOracle → Result ChainsightOracle}
    {oracle : PalmyOracle} (computed : feeds.updateStore address change = .ok oracle) :
    ∃ store changed, feeds.oracle.deployed address = some store ∧ change store = .ok changed ∧
      oracle = { feeds.oracle with
        deployed := Function.update feeds.oracle.deployed address (some changed) } := by
  rw [updateStore] at computed
  cases found : feeds.oracle.deployed address with
  | none => simp [found] at computed
  | some store =>
      simp only [found, bind_eq_ok, pure_eq_ok] at computed
      obtain ⟨changed, written, rfl⟩ := computed
      exact ⟨store, changed, rfl, written, rfl⟩

end PriceFeeds

namespace ChainsightOracle

variable {store : ChainsightOracle} {now : Nat} {msgSender : Address} {data : List UInt8} {key : Nat}

theorem updateStateByKey_read (store : ChainsightOracle) (now : Nat) (msgSender : Address)
    (data : List UInt8) (key : Nat) (sender : Address) (slot : Nat) :
    (store.updateStateByKey now msgSender data key).data sender slot = store.data sender slot ∨
      (msgSender = sender ∧ key = slot ∧
        (store.updateStateByKey now msgSender data key).data sender slot =
          ⟨data, now % 2 ^ 64⟩) := by
  by_cases same : sender = msgSender
  · subst same
    by_cases here : slot = key
    · subst here
      refine .inr ⟨rfl, rfl, ?_⟩
      simp [updateStateByKey]
    · left
      simp [updateStateByKey, here]
  · left
    simp [updateStateByKey, same]

theorem updateStateBulk_read {written : List (List UInt8)} {keys : List Nat}
    {after : ChainsightOracle}
    (computed : store.updateStateBulk now msgSender written keys = .ok after) (sender : Address)
    (slot : Nat) : after.data sender slot = store.data sender slot ∨
      (msgSender = sender ∧ ∃ data, (data, slot) ∈ written.zip keys ∧
        after.data sender slot = ⟨data, now % 2 ^ 64⟩) := by
  simp only [updateStateBulk, bind_eq_ok, require_eq_ok, exists_const, pure_eq_ok] at computed
  obtain ⟨_, rfl⟩ := computed
  have last := foldl_read
    (fun store => ChainsightOracle.data store sender slot)
    (fun write value => msgSender = sender ∧ write.2 = slot ∧ value = ⟨write.1, now % 2 ^ 64⟩)
    (fun store write => updateStateByKey_read store now msgSender write.1 write.2 sender slot)
    store (written.zip keys)
  rcases last with kept | ⟨⟨data, key⟩, member, same, rfl, value⟩
  · exact .inl kept
  · exact .inr ⟨same, data, member, value⟩

end ChainsightOracle

namespace PalmyFallbackOracle

variable {fallback after : PalmyFallbackOracle} {number now : Nat} {msgSender : Address}

theorem write_price (asset : Address) (number now : Nat)
    (stored : Address → FallbackOracle.Price) (submitted : Address × Nat) :
    Function.update stored submitted.1 ⟨number, now, submitted.2⟩ asset = stored asset ∨
      (submitted.1 = asset ∧
        Function.update stored submitted.1 ⟨number, now, submitted.2⟩ asset =
          ⟨number, now, submitted.2⟩) := by
  by_cases here : submitted.1 = asset
  · subst here
    exact .inr ⟨rfl, Function.update_self ..⟩
  · exact .inl (Function.update_of_ne (Ne.symm here) _ _)

theorem submitPrices_read {assets : List Address} {prices : List Nat}
    (computed : fallback.submitPrices number now msgSender assets prices = .ok after)
    (asset : Address) : after.prices asset = fallback.prices asset ∨
      (fallback.sybils msgSender = true ∧ (asset, (after.prices asset).price) ∈ assets.zip prices ∧
        (after.prices asset).blockTimestamp = now % 2 ^ 64) := by
  simp only [submitPrices, bind_eq_ok, require_eq_ok, exists_const, pure_eq_ok] at computed
  obtain ⟨authorised, _, rfl⟩ := computed
  have last := foldl_read
    (fun stored : Address → FallbackOracle.Price => stored asset)
    (fun submitted price => submitted.1 = asset ∧
      price = ⟨number % 2 ^ 64, now % 2 ^ 64, submitted.2⟩)
    (write_price asset _ _) fallback.prices (assets.zip prices)
  rcases last with same | ⟨⟨_, price⟩, member, rfl, stored⟩
  · exact .inl same
  · refine .inr ⟨authorised, ?_, ?_⟩
    · simpa only [stored] using member
    · simp only [stored]

end PalmyFallbackOracle

namespace PriceFeeds

variable {feeds after : PriceFeeds} {event : PriceEvent} {oracle : PalmyOracle}

theorem updateStore_read {target : Address}
    {change : ChainsightOracle → Result ChainsightOracle}
    (Wrote : Address → Nat → Chainsight.Value → Prop)
    (computed : feeds.updateStore target change = .ok oracle)
    (each : ∀ store changed, change store = .ok changed → ∀ sender key,
      changed.data sender key = store.data sender key ∨ Wrote sender key (changed.data sender key))
    {address : Address} {store : ChainsightOracle}
    (found : oracle.deployed address = some store) :
    ∃ earlier, feeds.oracle.deployed address = some earlier ∧ ∀ sender key,
      store.data sender key = earlier.data sender key ∨
        (target = address ∧ Wrote sender key (store.data sender key)) := by
  obtain ⟨earlier, changed, there, written, rfl⟩ := updateStore_ok computed
  by_cases here : address = target
  · subst here
    simp only [Function.update_self, Option.some.injEq] at found
    subst found
    refine ⟨earlier, there, fun sender key => ?_⟩
    rcases each earlier changed written sender key with same | wrote
    · exact .inl same
    · exact .inr ⟨rfl, wrote⟩
  · have same : feeds.oracle.deployed address = some store :=
      (Function.update_of_ne here _ _).symm.trans found
    exact ⟨store, same, fun _ _ => .inl rfl⟩

theorem stores_execute (executed : feeds.execute event = .ok oracle) {address : Address}
    {store : ChainsightOracle} (found : oracle.deployed address = some store) :
    ∃ earlier, feeds.oracle.deployed address = some earlier ∧ ∀ sender key,
      store.data sender key = earlier.data sender key ∨
        (event.msgSender = sender ∧ event.Writes address key (store.data sender key).data ∧
          (store.data sender key).timestamp = event.now % 2 ^ 64) := by
  obtain ⟨msgSender, number, now, call⟩ := event
  cases call with
  | updateState target data =>
      obtain ⟨earlier, there, each⟩ := updateStore_read
        (fun sender key value => msgSender = sender ∧ ChainsightOracle.DEFAULT_KEY = key ∧
          value = ⟨data, now % 2 ^ 64⟩) executed
        (fun store changed written sender key => by
          cases written
          exact ChainsightOracle.updateStateByKey_read store now msgSender data _ sender key) found
      refine ⟨earlier, there, fun sender key => ?_⟩
      rcases each sender key with same | ⟨rfl, rfl, rfl, value⟩
      · exact .inl same
      · rw [value]
        exact .inr ⟨rfl, ⟨rfl, rfl, rfl⟩, rfl⟩
  | updateStateByKey target data slot =>
      obtain ⟨earlier, there, each⟩ := updateStore_read
        (fun sender key value => msgSender = sender ∧ slot = key ∧
          value = ⟨data, now % 2 ^ 64⟩) executed
        (fun store changed written sender key => by
          cases written
          exact ChainsightOracle.updateStateByKey_read store now msgSender data _ sender key) found
      refine ⟨earlier, there, fun sender key => ?_⟩
      rcases each sender key with same | ⟨rfl, rfl, rfl, value⟩
      · exact .inl same
      · rw [value]
        exact .inr ⟨rfl, ⟨rfl, rfl, rfl⟩, rfl⟩
  | updateStateBulk target written keys =>
      obtain ⟨earlier, there, each⟩ := updateStore_read
        (fun sender key value => msgSender = sender ∧ ∃ data, (data, key) ∈ written.zip keys ∧
          value = ⟨data, now % 2 ^ 64⟩) executed
        (fun store changed computed sender key =>
          ChainsightOracle.updateStateBulk_read computed sender key) found
      refine ⟨earlier, there, fun sender key => ?_⟩
      rcases each sender key with same | ⟨rfl, rfl, data, member, value⟩
      · exact .inl same
      · rw [value]
        exact .inr ⟨rfl, ⟨rfl, member⟩, rfl⟩
  | setAssetSources assets oracleAddresses senders keys
  | authorizeSybil sybil
  | unauthorizeSybil sybil
  | submitPrices assets prices =>
      simp only [execute, bind_eq_ok, pure_eq_ok] at executed
      obtain ⟨_, _, rfl⟩ := executed
      exact ⟨store, found, fun _ _ => .inl rfl⟩

theorem prices_execute (executed : feeds.execute event = .ok oracle) (asset : Address) :
    oracle.fallbackOracle.prices asset = feeds.oracle.fallbackOracle.prices asset ∨
      (feeds.oracle.fallbackOracle.sybils event.msgSender = true ∧
        event.Submits asset (oracle.fallbackOracle.prices asset).price ∧
        (oracle.fallbackOracle.prices asset).blockTimestamp = event.now % 2 ^ 64) := by
  obtain ⟨msgSender, number, now, call⟩ := event
  cases call with
  | updateState target data
  | updateStateByKey target data slot
  | updateStateBulk target written keys =>
      obtain ⟨_, _, _, _, rfl⟩ := updateStore_ok executed
      exact .inl rfl
  | setAssetSources assets oracleAddresses senders keys =>
      simp only [execute, bind_eq_ok, pure_eq_ok] at executed
      obtain ⟨_, _, rfl⟩ := executed
      exact .inl rfl
  | authorizeSybil sybil =>
      simp only [execute, PalmyFallbackOracle.authorizeSybil, bind_eq_ok, require_eq_ok,
        exists_const, pure_eq_ok] at executed
      obtain ⟨_, ⟨_, rfl⟩, rfl⟩ := executed
      exact .inl rfl
  | unauthorizeSybil sybil =>
      simp only [execute, PalmyFallbackOracle.unauthorizeSybil, bind_eq_ok, require_eq_ok,
        exists_const, pure_eq_ok] at executed
      obtain ⟨_, ⟨_, rfl⟩, rfl⟩ := executed
      exact .inl rfl
  | submitPrices assets prices =>
      simp only [execute, bind_eq_ok, pure_eq_ok] at executed
      obtain ⟨_, submitted, rfl⟩ := executed
      exact PalmyFallbackOracle.submitPrices_read submitted asset

end PriceFeeds

end PalmyProtocol
