import PalmyProtocol.System.PriceFeeds
import PalmyProtocol.Proofs.FallbackPrice

set_option autoImplicit false

namespace PalmyProtocol

open Checked Runs

namespace PriceFeeds

def SlotRecorded (history : List PriceEvent) (address sender : Address) (key : Nat)
    (value : Chainsight.Value) : Prop :=
  value.data = [] ∨ ∃ event ∈ history, event.msgSender = sender ∧
    event.Writes address key value.data ∧ value.timestamp = event.now % 2 ^ 64

def PriceRecorded (start : PriceFeeds) (history : List PriceEvent) (asset : Address)
    (stored : FallbackOracle.Price) : Prop :=
  stored.blockTimestamp = 0 ∨ ∃ before event rest feeds, history = before ++ event :: rest ∧
    run step start before = .ok feeds ∧
    feeds.oracle.fallbackOracle.sybils event.msgSender = true ∧
    event.Submits asset stored.price ∧ stored.blockTimestamp = event.now % 2 ^ 64

structure Recorded (start : PriceFeeds) (history : List PriceEvent) (feeds : PriceFeeds) :
    Prop where
  slots : ∀ address store, feeds.oracle.deployed address = some store → ∀ sender key,
    SlotRecorded history address sender key (store.data sender key)
  prices : ∀ asset, PriceRecorded start history asset (feeds.oracle.fallbackOracle.prices asset)
  past : ∀ event ∈ history, event.now ≤ feeds.clock

variable {start feeds after : PriceFeeds} {event : PriceEvent} {history events : List PriceEvent}

theorem SlotRecorded.later {address sender : Address} {key : Nat} {value : Chainsight.Value}
    (recorded : SlotRecorded history address sender key value) (event : PriceEvent) :
    SlotRecorded (history ++ [event]) address sender key value := by
  rcases recorded with empty | ⟨earlier, member, rest⟩
  · exact .inl empty
  · exact .inr ⟨earlier, List.mem_append_left _ member, rest⟩

theorem PriceRecorded.later {asset : Address} {stored : FallbackOracle.Price}
    (recorded : PriceRecorded start history asset stored) (event : PriceEvent) :
    PriceRecorded start (history ++ [event]) asset stored := by
  rcases recorded with none | ⟨before, earlier, rest, feeds, split, facts⟩
  · exact .inl none
  · refine .inr ⟨before, earlier, rest ++ [event], feeds, ?_, facts⟩
    rw [split, List.append_assoc, List.cons_append]

theorem recorded_step (ran : run step start history = .ok feeds)
    (recorded : Recorded start history feeds) (taken : feeds.step event = .ok after) :
    Recorded start (history ++ [event]) after := by
  obtain ⟨order, _, _, clock, executed⟩ := step_ok taken
  refine ⟨fun address store found sender key => ?_, fun asset => ?_, fun earlier member => ?_⟩
  · obtain ⟨before, there, each⟩ := stores_execute executed found
    rcases each sender key with same | ⟨wrote⟩
    · rw [same]
      exact (recorded.slots address before there sender key).later event
    · exact .inr ⟨event, List.mem_append_right _ (List.mem_singleton_self _), wrote⟩
  · rcases prices_execute executed asset with same | submitted
    · rw [same]
      exact (recorded.prices asset).later event
    · exact .inr ⟨history, event, [], feeds, rfl, ran, submitted⟩
  · rw [clock]
    rcases List.mem_append.1 member with inside | last
    · exact le_trans (recorded.past earlier inside) order
    · rw [List.mem_singleton.1 last]

theorem recorded_run (deployed : start.Deployed) (ran : run step start events = .ok feeds) :
    Recorded start events feeds := by
  apply run_history (fun _ _ _ _ => recorded_step) _ ran
  refine ⟨fun address store found sender key => .inl ?_, fun asset => .inl ?_, fun _ none => ?_⟩
  · rw [deployed.stores address store found]
    rfl
  · rw [deployed.prices asset]
  · cases none

-- The price comes from the asset's store: its configured sender wrote it there under the configured
-- key within the last hour.
def FromStore (events : List PriceEvent) (source : PriceAggregator.Oracle) (now price : Nat) :
    Prop :=
  ∃ event data, event ∈ events ∧ event.msgSender = source.sender ∧
    event.Writes source.oracle source.key data ∧ decodeUint256 data = .ok price ∧
    event.now ≤ now ∧ now ≤ event.now + 3600

-- The price was submitted less than an hour ago by one who was an authorised sybil then.
def FromSybil (start : PriceFeeds) (events : List PriceEvent) (asset : Address)
    (now price : Nat) : Prop :=
  ∃ before event rest feeds, events = before ++ event :: rest ∧
    run step start before = .ok feeds ∧
    feeds.oracle.fallbackOracle.sybils event.msgSender = true ∧
    event.Submits asset price ∧ event.now ≤ now ∧ now < event.now + 3600

variable {asset : Address} {now price : Nat}

open PriceAggregatorAdapterChainsightImpl in
theorem Recorded.fromStore (recorded : Recorded start events feeds) (later : feeds.clock ≤ now)
    {source : PriceAggregator.Oracle} (fresh : Fresh feeds.oracle.deployed source now price) :
    FromStore events source now price := by
  obtain ⟨store, there, decoded, past, recent⟩ := fresh.readable
  rcases recorded.slots _ store there source.sender source.key with
    empty | ⟨event, member, sender, wrote, time⟩
  · rw [empty] at decoded
    cases decoded
  · have order := le_trans (recorded.past event member) later
    have word : event.now % 2 ^ 64 ≤ event.now := Nat.mod_le _ _
    rw [time, PRICE_DATA_FRESHNESS_THRESHOLD] at recent
    exact ⟨event, _, member, sender, wrote, decoded, order, by omega⟩

theorem Recorded.fromSybil (recorded : Recorded start events feeds) (later : feeds.clock ≤ now)
    (hour : 3600 ≤ now) (word : now < 2 ^ 256)
    (read : feeds.oracle.fallbackOracle.getAssetPrice now asset = .ok price) :
    FromSybil start events asset now price := by
  simp only [PalmyFallbackOracle.getAssetPrice, PalmyFallbackOracle.requirePriceIsFresh,
    bind_eq_ok, require_eq_ok, exists_const, pure_eq_ok] at read
  obtain ⟨fresh, rfl⟩ := read
  have unwrapped : (now + 2 ^ 256 - 3600) % 2 ^ 256 = now - 3600 := by omega
  rw [unwrapped] at fresh
  rcases recorded.prices asset with none | ⟨before, event, rest, earlier, split, ran, sybil,
    submits, time⟩
  · omega
  · have member : event ∈ events := by simp [split]
    have order := le_trans (recorded.past event member) later
    have truncated : event.now % 2 ^ 64 ≤ event.now := Nat.mod_le _ _
    exact ⟨before, event, rest, earlier, split, ran, sybil, submits, order, by omega⟩

/-- From freshly deployed feeds, whatever is called and in whatever order: a price that is given
for an asset is positive, and is a word of the configured sender in the configured slot that is at
most an hour old, or one that an authorised sybil submitted less than an hour ago. -/
theorem price_authorised (deployed : start.Deployed) (ran : run step start events = .ok feeds)
    (later : feeds.clock ≤ now) (hour : 3600 ≤ now) (word : now < 2 ^ 256)
    (priced : asset ≠ feeds.oracle.BASE_CURRENCY)
    (read : feeds.oracle.getAssetPrice now asset = .ok price) :
    0 < price ∧ (FromStore events (feeds.oracle.adapter.oracles asset) now price ∨
      FromSybil start events asset now price) := by
  have recorded := recorded_run deployed ran
  simp only [PalmyOracle.getAssetPrice, priced, if_false, bind_eq_ok, ite_eq_ok, require_eq_ok,
    exists_const, pure_eq_ok] at read
  obtain ⟨answer, asked, ⟨gain, rfl⟩ | ⟨_, fallback, submitted, positive, rfl⟩⟩ := read
  · refine ⟨by omega, .inl ?_⟩
    by_cases set : (feeds.oracle.adapter.oracles asset).oracle = 0
    · rw [PriceAggregatorAdapterChainsightImpl.currentPrice_unset set] at asked
      cases asked
      omega
    · obtain ⟨price, fresh, rfl⟩ :=
        (PriceAggregatorAdapterChainsightImpl.currentPrice_eq_ok set).1 asked
      obtain ⟨_, _, decoded, _⟩ := fresh.readable
      rw [int256_toNat (ChainsightOracle.decodeUint256_lt decoded) gain]
      exact recorded.fromStore later fresh
  · exact ⟨positive, .inr (recorded.fromSybil later hour word submitted)⟩

def launched : PriceFeeds where
  oracle :=
    { BASE_CURRENCY := 0
      BASE_CURRENCY_UNIT := WAD
      adapter := ⟨1, fun _ => ⟨0, 0, 0⟩⟩
      fallbackOracle := ⟨1, fun _ => false, fun _ => ⟨0, 0, 0⟩⟩
      deployed := fun address => if address = 50 then some .empty else none }
  clock := 0

def fed : List PriceEvent :=
  [⟨1, 1, 4000, .setAssetSources [7] [50] [70] [3]⟩, ⟨1, 1, 4000, .authorizeSybil 60⟩,
    ⟨70, 2, 4001, .updateStateBulk 50 [List.replicate 32 0, List.replicate 31 0 ++ [9]] [3, 3]⟩,
    ⟨60, 2, 4001, .submitPrices [7, 8, 8] [1, 2, 5]⟩, ⟨1, 3, 5000, .unauthorizeSybil 60⟩]

theorem launched_deployed : launched.Deployed where
  stores := by
    intro address store found
    simp only [launched] at found
    split_ifs at found
    exact (Option.some.inj found).symm
  sources _ := rfl
  sybils _ := rfl
  prices _ := rfl

theorem price_authorised_fed : ∃ feeds, run step launched fed = .ok feeds ∧
    (0 < 9 ∧ (FromStore fed (feeds.oracle.adapter.oracles 7) 7000 9 ∨
      FromSybil launched fed 7 7000 9)) ∧
    0 < 5 ∧ (FromStore fed (feeds.oracle.adapter.oracles 8) 7000 5 ∨
      FromSybil launched fed 8 7000 5) := by
  have outcome : yields (run step launched fed) (fun feeds =>
      decide (feeds.clock ≤ 7000) && (decide (feeds.oracle.BASE_CURRENCY = 0) &&
        decide (feeds.oracle.getAssetPrice 7000 7 = .ok 9 ∧
          feeds.oracle.getAssetPrice 7000 8 = .ok 5))) := by decide +kernel
  obtain ⟨feeds, ran, facts⟩ := yields_iff.1 outcome
  simp only [Bool.and_eq_true, decide_eq_true_eq] at facts
  obtain ⟨later, base, fromStore, fromSybil⟩ := facts
  refine ⟨feeds, ran, ?_, ?_⟩
  · exact price_authorised launched_deployed ran later (by decide) (by decide)
      (by rw [base]; decide) fromStore
  · exact price_authorised launched_deployed ran later (by decide) (by decide)
      (by rw [base]; decide) fromSybil

end PriceFeeds

end PalmyProtocol
