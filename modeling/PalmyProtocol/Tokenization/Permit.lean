import PalmyProtocol.Library.Words
import PalmyProtocol.Tokenization.ERC20

set_option autoImplicit false

namespace PalmyProtocol

open Checked Words

-- What the machine gives a contract that checks signatures. `ecrecover` answers the zero address to
-- a signature that is none.
structure Machine where
  keccak256 : List UInt8 → Nat
  keccak256_lt : ∀ bytes, keccak256 bytes < 2 ^ 256
  ecrecover : Nat → Nat → Nat → Nat → Address
  chainid : Nat
  chainid_lt : chainid < 2 ^ 256

def Machine.CollisionFree (machine : Machine) (texts : List (List UInt8)) : Prop :=
  ∀ x ∈ texts, ∀ y ∈ texts, machine.keccak256 x = machine.keccak256 y → x = y

instance (machine : Machine) (texts : List (List UInt8)) :
    Decidable (machine.CollisionFree texts) :=
  inferInstanceAs (Decidable (∀ x ∈ texts, ∀ y ∈ texts, _))

structure Permit where
  owner : Address
  spender : Address
  value : Nat
  deadline : Nat
  v : Nat
  r : Nat
  s : Nat
  owner_lt : owner < 2 ^ 160
  spender_lt : spender < 2 ^ 160
  value_lt : value < 2 ^ 256
  deadline_lt : deadline < 2 ^ 256

def bytesOf (text : String) : List UInt8 := text.toUTF8.data.toList

namespace LToken

def EIP712_REVISION : List UInt8 := bytesOf "1"

section

variable (machine : Machine)

def EIP712_DOMAIN : Nat := machine.keccak256 (bytesOf
  "EIP712Domain(string name,string version,uint256 chainId,address verifyingContract)")

def PERMIT_TYPEHASH : Nat := machine.keccak256 (bytesOf
  "Permit(address owner,address spender,uint256 value,uint256 nonce,uint256 deadline)")

def domainWords (name : List UInt8) (contract : Address) : List Nat :=
  [EIP712_DOMAIN machine, machine.keccak256 name, machine.keccak256 EIP712_REVISION,
    machine.chainid, contract]

def permitWords (p : Permit) (currentValidNonce : Nat) : List Nat :=
  [PERMIT_TYPEHASH machine, p.owner, p.spender, p.value, currentValidNonce, p.deadline]

def digestWords (name : List UInt8) (contract : Address) (p : Permit) (currentValidNonce : Nat) :
    List Nat :=
  [machine.keccak256 (encode (domainWords machine name contract)),
    machine.keccak256 (encode (permitWords machine p currentValidNonce))]

def digestBytes (name : List UInt8) (contract : Address) (p : Permit) (currentValidNonce : Nat) :
    List UInt8 :=
  [0x19, 0x01] ++ encode (digestWords machine name contract p currentValidNonce)

def digest (name : List UInt8) (contract : Address) (p : Permit) (currentValidNonce : Nat) : Nat :=
  machine.keccak256 (digestBytes machine name contract p currentValidNonce)

def permit (timestamp : Nat) (name : List UInt8) (contract : Address) (_nonces : Address → Nat)
    (base : ERC20) (p : Permit) : Result (ERC20 × (Address → Nat)) := do
  require (p.owner ≠ 0) "INVALID_OWNER"
  require (timestamp ≤ p.deadline) "INVALID_EXPIRATION"
  let currentValidNonce := _nonces p.owner
  let digest := digest machine name contract p currentValidNonce
  require (p.owner = machine.ecrecover digest p.v p.r p.s) "INVALID_SIGNATURE"
  let nextNonce ← SafeMath.add currentValidNonce 1
  let base ← base.approve p.owner p.spender p.value
  pure (base, Function.update _nonces p.owner nextNonce)

end

variable {machine : Machine} {timestamp nonce nonce' : Nat} {name name' : List UInt8}
  {contract contract' : Address} {_nonces nonces' : Address → Nat} {base base' : ERC20}
  {p p' : Permit}

structure Permitted (machine : Machine) (timestamp : Nat) (name : List UInt8) (contract : Address)
    (_nonces : Address → Nat) (base : ERC20) (p : Permit) (base' : ERC20)
    (nonces' : Address → Nat) : Prop where
  owner : p.owner ≠ 0
  unexpired : timestamp ≤ p.deadline
  signed : machine.ecrecover (digest machine name contract p (_nonces p.owner)) p.v p.r p.s =
    p.owner
  room : _nonces p.owner + 1 ≤ maxUint256
  approved : base.approve p.owner p.spender p.value = .ok base'
  nonces : nonces' = Function.update _nonces p.owner (_nonces p.owner + 1)

theorem permit_ok
    (computed : permit machine timestamp name contract _nonces base p = .ok (base', nonces')) :
    Permitted machine timestamp name contract _nonces base p base' nonces' := by
  simp only [permit, bind_eq_ok, require_eq_ok, exists_const, SafeMath.add_eq_ok, pure_eq_ok,
    Prod.mk.injEq] at computed
  obtain ⟨owner, unexpired, signed, _, ⟨room, rfl⟩, _, approved, rfl, rfl⟩ := computed
  exact ⟨owner, unexpired, signed.symm, room, approved, rfl⟩

structure Message where
  verifyingContract : Address
  owner : Address
  spender : Address
  value : Nat
  nonce : Nat
  deadline : Nat
  deriving DecidableEq

def message (contract : Address) (p : Permit) (nonce : Nat) : Message :=
  ⟨contract, p.owner, p.spender, p.value, nonce, p.deadline⟩

def preimages (machine : Machine) (name : List UInt8) (contract : Address) (p : Permit)
    (nonce : Nat) : List (List UInt8) :=
  [encode (domainWords machine name contract), encode (permitWords machine p nonce),
    digestBytes machine name contract p nonce]

theorem address_lt {a : Address} (small : a < 2 ^ 160) : a < 2 ^ 256 :=
  Nat.lt_of_lt_of_le small (Nat.pow_le_pow_right (by decide) (by decide))

theorem domainWords_lt (small : contract < 2 ^ 160) :
    ∀ n ∈ domainWords machine name contract, n < 2 ^ 256 := by
  simp only [domainWords, EIP712_DOMAIN, List.forall_mem_cons, List.not_mem_nil, false_implies,
    implies_true, and_true]
  exact ⟨machine.keccak256_lt _, machine.keccak256_lt _, machine.keccak256_lt _,
    machine.chainid_lt, address_lt small⟩

theorem permitWords_lt (room : nonce < 2 ^ 256) :
    ∀ n ∈ permitWords machine p nonce, n < 2 ^ 256 := by
  simp only [permitWords, PERMIT_TYPEHASH, List.forall_mem_cons, List.not_mem_nil, false_implies,
    implies_true, and_true]
  exact ⟨machine.keccak256_lt _, address_lt p.owner_lt, address_lt p.spender_lt, p.value_lt, room,
    p.deadline_lt⟩

theorem digestWords_lt : ∀ n ∈ digestWords machine name contract p nonce, n < 2 ^ 256 := by
  simp only [digestWords, List.forall_mem_cons, List.not_mem_nil, false_implies, implies_true,
    and_true]
  exact ⟨machine.keccak256_lt _, machine.keccak256_lt _⟩

theorem digest_injective {hashed : List (List UInt8)}
    (collisionFree : machine.CollisionFree hashed)
    (texts : preimages machine name contract p nonce ⊆ hashed)
    (texts' : preimages machine name' contract' p' nonce' ⊆ hashed)
    (small : contract < 2 ^ 160) (small' : contract' < 2 ^ 160) (room : nonce < 2 ^ 256)
    (room' : nonce' < 2 ^ 256)
    (same : digest machine name contract p nonce = digest machine name' contract' p' nonce') :
    message contract p nonce = message contract' p' nonce' := by
  simp only [preimages, List.cons_subset] at texts texts'
  obtain ⟨domain, permitted, final, _⟩ := texts
  obtain ⟨domain', permitted', final', _⟩ := texts'
  have bytes := collisionFree _ final _ final' same
  rw [digestBytes, digestBytes, List.append_cancel_left_eq] at bytes
  have hashes := encode_injective (by simp [digestWords]) digestWords_lt digestWords_lt bytes
  simp only [digestWords, List.cons.injEq] at hashes
  have domains := encode_injective (by simp [domainWords]) (domainWords_lt small)
    (domainWords_lt small')
    (collisionFree _ domain _ domain' hashes.1)
  have permits := encode_injective (by simp [permitWords]) (permitWords_lt room)
    (permitWords_lt room')
    (collisionFree _ permitted _ permitted' hashes.2.1)
  simp only [domainWords, List.cons.injEq] at domains
  simp only [permitWords, List.cons.injEq] at permits
  obtain ⟨_, _, _, _, contract, _⟩ := domains
  obtain ⟨_, owner, spender, value, nonce, deadline, _⟩ := permits
  rw [message, message, contract, owner, spender, value, nonce, deadline]

end LToken

end PalmyProtocol
