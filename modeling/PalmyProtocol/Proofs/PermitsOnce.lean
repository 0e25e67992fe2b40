import PalmyProtocol.System.Permits

set_option autoImplicit false

namespace PalmyProtocol

open Checked Runs

def Machine.Keyless (machine : Machine) (pool : LendingPool) : Prop :=
  ∀ digest v r s, machine.ecrecover digest v r s ≠ 0 →
    ¬pool.IsProtocol (machine.ecrecover digest v r s)

namespace PermitWorld

variable {machine : Machine} {names : Address → List UInt8} {start next : PermitWorld}
  {events : List PermitEvent}

def used (machine : Machine) (names : Address → List UInt8) (start : PermitWorld)
    (events : List PermitEvent) : List Used :=
  trace (step machine names) accepts start events

/-- Permits reach nothing that approvals do not: a run with permits is, for the pool and all its
tokens, the run in which every owner calls `approve` itself. -/
theorem permits_as_approvals
    (keyless : ∀ before after middle, events = before ++ after →
      run (step machine names) start before = .ok middle → machine.Keyless middle.world.pool)
    (ran : run (step machine names) start events = .ok next) :
    run World.step start.world (events.map plain) = .ok next.world := by
  refine run_translate world plain (fun state _ => machine.Keyless state.world.pool)
    (fun _ _ _ keyless taken => step_plain keyless taken) ?_ ran
  intro before event after middle split reached
  exact keyless before (event :: after) middle split reached

theorem used_signed (ran : run (step machine names) start events = .ok next) :
    ∀ used ∈ start.used machine names events, used.nonce + 1 ≤ maxUint256 ∧
      used.permit.owner ≠ 0 ∧ machine.ecrecover (used.digest machine names) used.permit.v
        used.permit.r used.permit.s = used.permit.owner := by
  refine trace_forall (fun _ => True) _ (fun _ _ _ _ _ => trivial) ?_ trivial ran
  intro state event next _ taken used member
  cases event with
  | event => cases member
  | permit asset p =>
      obtain ⟨base, nonces, accepted⟩ := step_permit taken
      obtain rfl := List.mem_singleton.1 member
      exact ⟨accepted.permitted.room, accepted.permitted.owner, accepted.permitted.signed⟩

/-- Every accepted permit carries its owner's signature, and none is accepted twice: over a run, on
all lTokens together, no two accepted permits share the digest that was signed, and the counters of
each owner are used up one by one. -/
theorem permits_once
    (collisionFree : machine.CollisionFree
      ((start.used machine names events).flatMap (Used.preimages machine names)))
    (addresses : ∀ used ∈ start.used machine names events, used.contract < 2 ^ 160)
    (ran : run (step machine names) start events = .ok next) :
    ((start.used machine names events).map (Used.digest machine names)).Nodup ∧
      (∀ used ∈ start.used machine names events, used.permit.owner ≠ 0 ∧
        machine.ecrecover (used.digest machine names) used.permit.v used.permit.r used.permit.s =
          used.permit.owner) ∧
      ∀ contract owner, ((start.used machine names events).filter fun used =>
          used.counter = (contract, owner)).map (·.nonce) =
        List.range' (start._nonces contract owner)
          (next._nonces contract owner - start._nonces contract owner) := by
  refine ⟨?_, fun used member => (used_signed ran used member).2, ?_⟩
  · refine consumes.nodup_map ran _ ?_
    intro used here other there same
    have texts : ∀ used ∈ start.used machine names events, used.preimages machine names ⊆
        (start.used machine names events).flatMap (Used.preimages machine names) :=
      fun used member text hashed => List.mem_flatMap.2 ⟨used, member, hashed⟩
    have room : ∀ used ∈ start.used machine names events, used.nonce < 2 ^ 256 := by
      intro used member
      have below := (used_signed ran used member).1
      rw [maxUint256] at below
      omega
    have message := LToken.digest_injective collisionFree (texts used here) (texts other there)
      (addresses used here) (addresses other there) (room used here) (room other there) same
    simp only [LToken.message, LToken.Message.mk.injEq] at message
    obtain ⟨contract, owner, _, _, nonce, _⟩ := message
    exact ⟨Prod.ext contract owner, nonce⟩
  · intro contract owner
    obtain ⟨total, values⟩ := consumes.range ran (contract, owner)
    change next._nonces contract owner = start._nonces contract owner + _ at total
    rw [total, Nat.add_sub_cancel_left]
    exact values

def signer : Address := 0xc783df8a850f42e7f7e57013759c285caa701eb6

def nameOf (_ : Address) : List UInt8 := bytesOf "Palmy interest bearing DAI"

theorem signer_lt : signer < 2 ^ 160 := by decide +kernel

def granting : Permit where
  owner := signer
  spender := 104
  value := 2 * WAD
  deadline := maxUint256
  v := 27
  r := 0x205598d3444b76dcdab10b55a002b298cf469adb5ab74ed6420b6528d5835a76
  s := 0x7a51e4426770c43ea3ed0e5a86fa6c5273bccf315f625770e1029c947c18dc1
  owner_lt := signer_lt
  spender_lt := by decide +kernel
  value_lt := by decide +kernel
  deadline_lt := by decide +kernel

def cancelling : Permit where
  owner := signer
  spender := 104
  value := 0
  deadline := maxUint256
  v := 28
  r := 0x730c39165596df27b6676d5d9abe50de31b894cad2612c751abc08608bd4b8f6
  s := 0x1d19ddae56e3ddb6450c3083fb4cb34e48e67563c494fcb74f96574c916d342b
  owner_lt := signer_lt
  spender_lt := by decide +kernel
  value_lt := by decide +kernel
  deadline_lt := by decide +kernel

-- What the machine computes on everything that the two permits ask of it.
def hashes : List (List UInt8 × Nat) :=
  let domain := 0x8b73c3c69bb8fe3d512ecc4cf759cc79239f7b179b0ffacaa9a75d522b39400f
  let typehash := 0x6e71edae12b1b97f4d1f60370fef10105fa2faae0126114a169c64845d6126c9
  let name := 0xdb38b4a213edbf9930d1187271054d69152e4b8d302b3edf5e0d2815d3d21118
  let revision := 0xc89efdaa54c0f20c7adf612882df0950f5a951637e0307cdcb4c672f298b8bc6
  let separator := 0x20e181cb13c4db9009dd6d36d8d5fc85e34a38cd4ef3b49666fbbe402a33dca6
  let granted := 0xf6e6a84ec6adeb621004d2d973ab75e7f836840062bd03701628ce56e3519a52
  let cancelled := 0x7abd145bd5ef6459600878be7fa41fa773cda67692a6afdfcc46839b30acfc17
  [(bytesOf "EIP712Domain(string name,string version,uint256 chainId,address verifyingContract)",
      domain),
    (bytesOf "Permit(address owner,address spender,uint256 value,uint256 nonce,uint256 deadline)",
      typehash),
    (bytesOf "Palmy interest bearing DAI", name), (bytesOf "1", revision),
    (Words.encode [domain, name, revision, 31337, 11], separator),
    (Words.encode [typehash, signer, 104, 2 * WAD, 0, maxUint256], granted),
    (Words.encode [typehash, signer, 104, 0, 1, maxUint256], cancelled),
    ([0x19, 0x01] ++ Words.encode [separator, granted],
      0x3f8574215c9d9b9e0902e53b140b0fcaf07d8726573db335d16e42dda6287419),
    ([0x19, 0x01] ++ Words.encode [separator, cancelled],
      0x626fe77f52495bf71386ef1da8e400ce68a8758a04acab1a4a0858f978f6338a)]

def signatures : List (Nat × Nat × Nat × Nat) :=
  [(0x3f8574215c9d9b9e0902e53b140b0fcaf07d8726573db335d16e42dda6287419, granting.v, granting.r,
      granting.s),
    (0x626fe77f52495bf71386ef1da8e400ce68a8758a04acab1a4a0858f978f6338a, cancelling.v,
      cancelling.r, cancelling.s)]

def tabled : Machine where
  keccak256 bytes := ((hashes.lookup bytes).getD 0) % 2 ^ 256
  keccak256_lt _ := Nat.mod_lt _ (Nat.two_pow_pos 256)
  ecrecover digest v r s := if (digest, v, r, s) ∈ signatures then signer else 0
  chainid := 31337
  chainid_lt := by decide +kernel

theorem tabled_keyless {pool : LendingPool} (outside : ¬pool.IsProtocol signer) :
    tabled.Keyless pool := by
  intro digest v r s some
  simp only [tabled] at some ⊢
  split_ifs at some ⊢
  · exact outside
  · exact absurd rfl some

def unsigned (world : World) : PermitWorld := ⟨world, fun _ _ => 0⟩

def signed : List PermitEvent := [.permit 10 granting, .permit 10 cancelling]

theorem permits_once_signed : ∃ start next : PermitWorld,
    run World.step Market.start (Market.opening 10 Market.strategy) = .ok start.world ∧
      run (step tabled nameOf) start signed = .ok next ∧
      (start.used tabled nameOf signed).length = 2 ∧
      ((start.used tabled nameOf signed).map (Used.digest tabled nameOf)).Nodup := by
  have outcome : yields (run World.step Market.start (Market.opening 10 Market.strategy))
      (fun world =>
        ((unsigned world).used tabled nameOf signed).length = 2 ∧
          tabled.CollisionFree (((unsigned world).used tabled nameOf signed).flatMap
            (Used.preimages tabled nameOf)) ∧
          (∀ used ∈ (unsigned world).used tabled nameOf signed, used.contract < 2 ^ 160) ∧
          yields (run (step tabled nameOf) (unsigned world) signed) (fun _ => true)) := by
    decide +kernel
  obtain ⟨world, opened, facts⟩ := yields_iff.1 outcome
  obtain ⟨two, collisionFree, addresses, later⟩ := of_decide_eq_true facts
  obtain ⟨next, ran, _⟩ := yields_iff.1 later
  exact ⟨unsigned world, next, opened, ran, two,
    (permits_once collisionFree addresses ran).1⟩

theorem permits_as_approvals_signed : ∃ start next : PermitWorld,
    run World.step Market.start (Market.opening 10 Market.strategy) = .ok start.world ∧
      run (step tabled nameOf) start signed = .ok next ∧
      run World.step start.world [.call signer (.approve 10 104 (2 * WAD)),
        .call signer (.approve 10 104 0)] = .ok next.world := by
  have outcome : yields (run World.step Market.start (Market.opening 10 Market.strategy))
      (fun world =>
        (∀ n ∈ List.range 3, yields (run (step tabled nameOf) (unsigned world) (signed.take n))
          (fun middle => ¬middle.world.pool.IsProtocol signer)) ∧
          yields (run (step tabled nameOf) (unsigned world) signed) (fun _ => true)) := by
    decide +kernel
  obtain ⟨world, opened, facts⟩ := yields_iff.1 outcome
  obtain ⟨outside, later⟩ := of_decide_eq_true facts
  obtain ⟨next, ran, _⟩ := yields_iff.1 later
  refine ⟨unsigned world, next, opened, ran, permits_as_approvals ?_ ran⟩
  intro before after middle split reached
  have few : before.length < 3 := by
    have length := congrArg List.length split
    rw [List.length_append] at length
    change 2 = _ at length
    omega
  have start := outside before.length (List.mem_range.2 few)
  rw [split, List.take_left, reached] at start
  exact tabled_keyless (of_decide_eq_true start)

end PermitWorld

end PalmyProtocol
