import PalmyProtocol.Math.SafeMath

set_option autoImplicit false

namespace PalmyProtocol

open Checked

namespace Chainsight

structure Value where
  data : List UInt8
  timestamp : Nat

end Chainsight

-- `abi.decode(data, (uint256))`: the first 32 bytes, most significant first.
def decodeUint256 (data : List UInt8) : Result Nat := do
  require (32 ≤ data.length) ""
  pure ((data.take 32).foldl (fun word byte => word * 256 + byte.toNat) 0)

-- A sender's values by key; a slot that was never written is empty and has timestamp zero.
structure ChainsightOracle where
  data : Address → Nat → Chainsight.Value

namespace ChainsightOracle

variable (store : ChainsightOracle)

def empty : ChainsightOracle := ⟨fun _ _ => ⟨[], 0⟩⟩

def updateStateByKey (now : Nat) (msgSender : Address) (data : List UInt8) (key : Nat) :
    ChainsightOracle :=
  ⟨Function.update store.data msgSender
    (Function.update (store.data msgSender) key ⟨data, now % 2 ^ 64⟩)⟩

def DEFAULT_KEY : Nat := 0

def updateState (now : Nat) (msgSender : Address) (data : List UInt8) : ChainsightOracle :=
  store.updateStateByKey now msgSender data DEFAULT_KEY

def updateStateBulk (now : Nat) (msgSender : Address) (data : List (List UInt8))
    (keys : List Nat) : Result ChainsightOracle := do
  require (data.length = keys.length) "data and keys length mismatch"
  pure ((data.zip keys).foldl
    (fun store write => store.updateStateByKey now msgSender write.1 write.2) store)

def readAsUint256WithTimestamp (sender : Address) (key : Nat) : Result (Nat × Nat) := do
  let value := store.data sender key
  let word ← decodeUint256 value.data
  pure (word, value.timestamp)

variable {store} {sender : Address} {key word timestamp : Nat}

theorem decodeUint256_eq_ok {data : List UInt8} : decodeUint256 data = .ok word ↔
    32 ≤ data.length ∧
      (data.take 32).foldl (fun word byte => word * 256 + byte.toNat) 0 = word := by
  simp only [decodeUint256, bind_eq_ok, require_eq_ok, exists_const, pure_eq_ok]

theorem bigEndian_lt (bytes : List UInt8) {start bound : Nat} (small : start < bound) :
    bytes.foldl (fun word byte => word * 256 + byte.toNat) start < bound * 256 ^ bytes.length := by
  induction bytes generalizing start bound with
  | nil => simpa using small
  | cons first rest ih =>
      have byte := first.toNat_lt
      have next : start * 256 + first.toNat < bound * 256 := by omega
      have all := ih next
      rw [List.foldl_cons, List.length_cons, Nat.pow_succ, Nat.mul_comm (256 ^ rest.length),
        ← Nat.mul_assoc]
      exact all

theorem decodeUint256_lt {data : List UInt8} (decoded : decodeUint256 data = .ok word) :
    word < 2 ^ 256 := by
  obtain ⟨long, rfl⟩ := decodeUint256_eq_ok.1 decoded
  have bound := bigEndian_lt (data.take 32) Nat.zero_lt_one
  rw [List.length_take, Nat.min_eq_left long] at bound
  exact Nat.lt_of_lt_of_eq bound (by decide)

theorem readAsUint256WithTimestamp_eq_ok :
    store.readAsUint256WithTimestamp sender key = .ok (word, timestamp) ↔
      decodeUint256 (store.data sender key).data = .ok word ∧
        (store.data sender key).timestamp = timestamp := by
  simp only [readAsUint256WithTimestamp, bind_eq_ok, pure_eq_ok, Prod.mk.injEq]
  constructor
  · rintro ⟨_, decoded, rfl, time⟩
    exact ⟨decoded, time⟩
  · rintro ⟨decoded, time⟩
    exact ⟨word, decoded, rfl, time⟩

end ChainsightOracle

end PalmyProtocol
