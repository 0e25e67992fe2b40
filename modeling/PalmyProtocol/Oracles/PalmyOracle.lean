import PalmyProtocol.Oracles.ChainsightOracle
import Mathlib.Tactic.Common

set_option autoImplicit false

namespace PalmyProtocol

open Checked

-- `int256(word)`: from 2^255 on the value is negative.
def int256 (word : Nat) : Int := (BitVec.ofNat 256 word).toInt

theorem int256_toNat {word : Nat} (small : word < 2 ^ 256) (positive : 0 < int256 word) :
    (int256 word).toNat = word := by
  have exact : (BitVec.ofNat 256 word).toNat = word := by
    rw [BitVec.toNat_ofNat, Nat.mod_eq_of_lt small]
  rw [int256, BitVec.toInt_eq_toNat_cond, exact] at positive ⊢
  split_ifs at positive ⊢ <;> omega

namespace PriceAggregator

structure Oracle where
  oracle : Address
  sender : Address
  key : Nat

end PriceAggregator

structure PriceAggregatorAdapterChainsightImpl where
  owner : Address
  oracles : Address → PriceAggregator.Oracle

namespace PriceAggregatorAdapterChainsightImpl

variable (adapter : PriceAggregatorAdapterChainsightImpl)

def PRICE_DATA_FRESHNESS_THRESHOLD : Nat := 3600

def setAssetSources (msgSender : Address) (assets oracleAddresses senders : List Address)
    (keys : List Nat) : Result PriceAggregatorAdapterChainsightImpl := do
  require (adapter.owner = msgSender) "Ownable: caller is not the owner"
  require (assets.length = oracleAddresses.length) "INCONSISTENT_PARAMS_LENGTH"
  require (assets.length = senders.length) "INCONSISTENT_PARAMS_LENGTH"
  require (assets.length = keys.length) "INCONSISTENT_PARAMS_LENGTH"
  let sources := assets.zip (oracleAddresses.zip (senders.zip keys))
  pure { adapter with
    oracles := sources.foldl (fun oracles source =>
      Function.update oracles source.1 ⟨source.2.1, source.2.2.1, source.2.2.2⟩) adapter.oracles }

def currentPrice (deployed : Address → Option ChainsightOracle) (now : Nat) (asset : Address) :
    Result Int :=
  let oracle := adapter.oracles asset
  if oracle.oracle = 0 then .ok 0 else
    match deployed oracle.oracle with
    | none => .error ""
    | some store => do
      let (price, timestamp) ← store.readAsUint256WithTimestamp oracle.sender oracle.key
      let age ← SafeMath.sub now timestamp
      require (age ≤ PRICE_DATA_FRESHNESS_THRESHOLD) "STALE_DATA"
      pure (int256 price)

end PriceAggregatorAdapterChainsightImpl

namespace FallbackOracle

structure Price where
  blockNumber : Nat
  blockTimestamp : Nat
  price : Nat

end FallbackOracle

structure PalmyFallbackOracle where
  owner : Address
  sybils : Address → Bool
  prices : Address → FallbackOracle.Price

namespace PalmyFallbackOracle

variable (oracle : PalmyFallbackOracle)

def authorizeSybil (msgSender sybil : Address) : Result PalmyFallbackOracle := do
  require (oracle.owner = msgSender) "Ownable: caller is not the owner"
  pure { oracle with sybils := Function.update oracle.sybils sybil true }

def unauthorizeSybil (msgSender sybil : Address) : Result PalmyFallbackOracle := do
  require (oracle.owner = msgSender) "Ownable: caller is not the owner"
  pure { oracle with sybils := Function.update oracle.sybils sybil false }

def submitPrices (number now : Nat) (msgSender : Address) (assets : List Address)
    (prices : List Nat) : Result PalmyFallbackOracle := do
  require (oracle.sybils msgSender) "INVALID_SYBIL"
  require (assets.length = prices.length) "INCONSISTENT_PARAMS_LENGTH"
  pure { oracle with
    prices := (assets.zip prices).foldl (fun stored submitted =>
      Function.update stored submitted.1 ⟨number % 2 ^ 64, now % 2 ^ 64, submitted.2⟩)
      oracle.prices }

-- The subtraction is unchecked: in the first hour of the clock it wraps around.
def requirePriceIsFresh (now : Nat) (price : FallbackOracle.Price) : Result Unit :=
  require ((now + 2 ^ 256 - 3600) % 2 ^ 256 < price.blockTimestamp) "STALE_PRICE"

def getAssetPrice (now : Nat) (asset : Address) : Result Nat := do
  requirePriceIsFresh now (oracle.prices asset)
  pure (oracle.prices asset).price

end PalmyFallbackOracle

structure PalmyOracle where
  BASE_CURRENCY : Address
  BASE_CURRENCY_UNIT : Nat
  adapter : PriceAggregatorAdapterChainsightImpl
  fallbackOracle : PalmyFallbackOracle
  deployed : Address → Option ChainsightOracle

namespace PalmyOracle

def getAssetPrice (oracle : PalmyOracle) (now : Nat) (asset : Address) : Result Nat :=
  if asset = oracle.BASE_CURRENCY then .ok oracle.BASE_CURRENCY_UNIT else do
    let price ← oracle.adapter.currentPrice oracle.deployed now asset
    if 0 < price then pure price.toNat
    else do
      let fallbackPrice ← oracle.fallbackOracle.getAssetPrice now asset
      require (0 < fallbackPrice) "PalmyOracle: price not available"
      pure fallbackPrice

end PalmyOracle

end PalmyProtocol
