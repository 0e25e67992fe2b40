import PalmyProtocol.Oracles.PalmyOracle
import PalmyProtocol.Pool.Operations

set_option autoImplicit false

namespace PalmyProtocol

open Checked

variable {oracle : PalmyOracle} {asset : Address} {now price : Nat}

namespace PriceAggregatorAdapterChainsightImpl

variable {adapter : PriceAggregatorAdapterChainsightImpl}
variable {deployed : Address → Option ChainsightOracle}

structure Fresh (deployed : Address → Option ChainsightOracle) (source : PriceAggregator.Oracle)
    (now price : Nat) : Prop where
  readable : ∃ store, deployed source.oracle = some store ∧
    decodeUint256 (store.data source.sender source.key).data = .ok price ∧
    (store.data source.sender source.key).timestamp ≤ now ∧
    now - (store.data source.sender source.key).timestamp ≤ PRICE_DATA_FRESHNESS_THRESHOLD

theorem currentPrice_unset (unset : (adapter.oracles asset).oracle = 0) :
    adapter.currentPrice deployed now asset = .ok 0 := by
  simp [currentPrice, unset]

theorem currentPrice_eq_ok {answer : Int} (set : (adapter.oracles asset).oracle ≠ 0) :
    adapter.currentPrice deployed now asset = .ok answer ↔
      ∃ price, Fresh deployed (adapter.oracles asset) now price ∧ int256 price = answer := by
  simp only [currentPrice, set, if_false]
  cases found : deployed (adapter.oracles asset).oracle with
  | none =>
      simp only [reduceCtorEq, false_iff]
      rintro ⟨price, ⟨store, there, _⟩, _⟩
      rw [found] at there
      cases there
  | some store =>
      simp only [bind_eq_ok, Prod.exists, SafeMath.sub_eq_ok, require_eq_ok, exists_const,
        pure_eq_ok, ChainsightOracle.readAsUint256WithTimestamp_eq_ok]
      constructor
      · rintro ⟨price, _, ⟨decoded, rfl⟩, _, ⟨past, rfl⟩, recent, answered⟩
        exact ⟨price, ⟨store, found, decoded, past, recent⟩, answered⟩
      · rintro ⟨price, ⟨store', there, decoded, past, recent⟩, answered⟩
        rw [found] at there
        cases there
        exact ⟨price, _, ⟨decoded, rfl⟩, _, ⟨past, rfl⟩, recent, answered⟩

end PriceAggregatorAdapterChainsightImpl

namespace PalmyFallbackOracle

variable {fallback : PalmyFallbackOracle}

theorem getAssetPrice_recent (recent : now < (fallback.prices asset).blockTimestamp + 3600)
    (hour : 3600 ≤ now) (word : now < 2 ^ 256) :
    fallback.getAssetPrice now asset = .ok (fallback.prices asset).price := by
  have unwrapped : (now + 2 ^ 256 - 3600) % 2 ^ 256 = now - 3600 := by omega
  have fresh : now - 3600 < (fallback.prices asset).blockTimestamp := by omega
  simp only [getAssetPrice, requirePriceIsFresh, bind_eq_ok, require_eq_ok, exists_const,
    pure_eq_ok, and_true]
  rwa [unwrapped]

end PalmyFallbackOracle

namespace PalmyOracle

open PriceAggregatorAdapterChainsightImpl

/-- With a recent positive price in the fallback oracle: it is the answer where the asset has no
source or the source's fresh word is not positive as a signed number, and a source whose word is
missing, malformed or not fresh makes the whole query revert. -/
theorem getAssetPrice_with_fallback (priced : asset ≠ oracle.BASE_CURRENCY)
    (positive : 0 < (oracle.fallbackOracle.prices asset).price)
    (recent : now < (oracle.fallbackOracle.prices asset).blockTimestamp + 3600)
    (hour : 3600 ≤ now) (word : now < 2 ^ 256) :
    ((oracle.adapter.oracles asset).oracle = 0 →
      oracle.getAssetPrice now asset = .ok (oracle.fallbackOracle.prices asset).price) ∧
    (∀ price, (oracle.adapter.oracles asset).oracle ≠ 0 →
      Fresh oracle.deployed (oracle.adapter.oracles asset) now price →
      oracle.getAssetPrice now asset = .ok
        (if 0 < int256 price then price else (oracle.fallbackOracle.prices asset).price)) ∧
    ((oracle.adapter.oracles asset).oracle ≠ 0 →
      (¬∃ price, Fresh oracle.deployed (oracle.adapter.oracles asset) now price) →
      ∃ message, oracle.getAssetPrice now asset = .error message) := by
  have fallback := PalmyFallbackOracle.getAssetPrice_recent recent hour word
  refine ⟨?_, ?_, ?_⟩
  · intro unset
    simp only [getAssetPrice, priced, if_false, currentPrice_unset unset, fallback, ok_bind]
    simp [require, positive]
  · intro price set fresh
    have answered := (currentPrice_eq_ok set).2 ⟨price, fresh, rfl⟩
    obtain ⟨_, _, decoded, _⟩ := fresh.readable
    have small := ChainsightOracle.decodeUint256_lt decoded
    simp only [getAssetPrice, priced, if_false, answered, fallback, ok_bind]
    by_cases gain : 0 < int256 price
    · rw [if_pos gain, if_pos gain, int256_toNat small gain]
      rfl
    · rw [if_neg gain, if_neg gain]
      simp [require, positive]
  · intro set stale
    cases answered : oracle.adapter.currentPrice oracle.deployed now asset with
    | error message =>
        refine ⟨message, ?_⟩
        simp only [getAssetPrice, priced, if_false, answered, error_bind]
    | ok answer =>
        obtain ⟨price, fresh, _⟩ := (currentPrice_eq_ok set).1 answered
        exact absurd ⟨price, fresh⟩ stale

-- Asset 7 is fed by the store at 50; asset 8 has no source; both have a recent fallback price.
def staleFeed : PalmyOracle where
  BASE_CURRENCY := 0
  BASE_CURRENCY_UNIT := WAD
  adapter := ⟨1, fun asset => if asset = 7 then ⟨50, 60, 0⟩ else ⟨0, 0, 0⟩⟩
  fallbackOracle := ⟨1, fun _ => false, fun _ => ⟨1, 9000, 5⟩⟩
  deployed address := if address = 50 then
    some (ChainsightOracle.empty.updateStateByKey 1000 60 (List.replicate 31 0 ++ [4]) 0) else none

theorem staleFeed_reverts :
    0 < (staleFeed.fallbackOracle.prices 7).price ∧
      (staleFeed.fallbackOracle.prices 7).blockTimestamp ≤ 10000 ∧
      10000 < (staleFeed.fallbackOracle.prices 7).blockTimestamp + 3600 ∧
      staleFeed.getAssetPrice 10000 7 = .error "STALE_DATA" := by
  refine ⟨by decide, by decide, by decide, rfl⟩

theorem getAssetPrice_with_fallback_staleFeed :
    staleFeed.getAssetPrice 10000 8 = .ok 5 ∧
      ∃ message, staleFeed.getAssetPrice 10000 7 = .error message := by
  constructor
  · exact (getAssetPrice_with_fallback (by decide) (by decide) (by decide) (by decide)
      (by decide)).1 rfl
  · refine (getAssetPrice_with_fallback (by decide) (by decide) (by decide) (by decide)
      (by decide)).2.2 (by decide) ?_
    rintro ⟨price, ⟨store, there, _, _, recent⟩⟩
    cases there
    revert recent
    decide

end PalmyOracle

def Env.priced (env : Env) (oracle : PalmyOracle) : Env :=
  { env with getAssetPrice := oracle.getAssetPrice env.timestamp }

-- Whatever the fallback oracle knows, nobody borrows an asset whose source is not fresh.
theorem LendingPool.executeBorrow_fresh {env : Env} {pool after : LendingPool}
    {vars : ExecuteBorrowParams} (priced : vars.asset ≠ oracle.BASE_CURRENCY)
    (computed : pool.executeBorrow (env.priced oracle) vars = .ok after) :
    (oracle.adapter.oracles vars.asset).oracle = 0 ∨
      ∃ price, PriceAggregatorAdapterChainsightImpl.Fresh oracle.deployed
        (oracle.adapter.oracles vars.asset) env.timestamp price := by
  obtain ⟨_, _, _, _, _, _, _, _, run⟩ := LendingPool.executeBorrow_ok computed
  by_cases set : (oracle.adapter.oracles vars.asset).oracle = 0
  · exact .inl set
  · have value := run.value
    simp only [valueInETH, Env.priced, PalmyOracle.getAssetPrice, priced, if_false,
      bind_eq_ok] at value
    obtain ⟨_, ⟨_, answered, _⟩, _⟩ := value
    obtain ⟨price, fresh, _⟩ :=
      (PriceAggregatorAdapterChainsightImpl.currentPrice_eq_ok set).1 answered
    exact .inr ⟨price, fresh⟩

end PalmyProtocol
