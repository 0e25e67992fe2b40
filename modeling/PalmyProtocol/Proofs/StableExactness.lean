import PalmyProtocol.Proofs.StableAggregate

set_option autoImplicit false

namespace PalmyProtocol

open Checked Rounding Runs MathUtils

namespace StableDebtToken

variable {token middle after once : StableDebtToken} {now amount rate c : Nat}
  {user onBehalfOf : Address}

theorem calculateBalanceIncrease_reads {principal balance increase : Nat}
    (computed : token.calculateBalanceIncrease now user = .ok (principal, balance, increase)) :
    token.balanceOf now user = .ok balance := by
  simp only [calculateBalanceIncrease, ite_eq_ok, bind_eq_ok, SafeMath.sub_eq_ok,
    SafeMath.add_eq_ok, pure_eq_ok, Except.ok.injEq, Prod.mk.injEq] at computed
  rcases computed with ⟨none, _, rfl, _⟩ | ⟨_, shown, read, _, ⟨grown, rfl⟩, _, ⟨_, rfl⟩, _, rfl, _⟩
  · rw [balanceOf, if_pos none]
  · rw [read, Nat.add_sub_cancel' grown]

def Readable (token : StableDebtToken) (now : Nat) (user : Address) : Prop :=
  token.balanceOf now user = .ok (token.debt now user) ∧
    token.totalSupply now = .ok (token.supply now)

theorem readable_of {principal balance increase supplied : Nat}
    (increased : token.calculateBalanceIncrease now user = .ok (principal, balance, increase))
    (read : token.totalSupply now = .ok supplied) : token.Readable now user := by
  have shown := calculateBalanceIncrease_reads increased
  rw [(balanceOf_ok shown).1] at shown
  rw [totalSupply_ok read] at read
  exact ⟨shown, read⟩

theorem mint_readable {result : StableDebtToken × Bool × Emitted}
    (computed : token.mint now user onBehalfOf amount rate = .ok result) :
    token.Readable now onBehalfOf := by
  simp only [mint, bind_eq_ok, Prod.exists] at computed
  obtain ⟨_, _, _, _, _, increased, _, supplied, _⟩ := computed
  exact readable_of increased supplied

theorem burn_readable {result : StableDebtToken × Emitted}
    (computed : token.burn now user amount = .ok result) : token.Readable now user := by
  simp only [burn, bind_eq_ok, Prod.exists] at computed
  obtain ⟨_, _, _, increased, _, supplied, _⟩ := computed
  exact readable_of increased supplied

def Stamped (token : StableDebtToken) : Prop :=
  ∀ a, token.timestamps a = 0 ↔ token.principalBalanceOf a = 0

structure Changes (token : StableDebtToken) (now : Nat) (user : Address) (after : StableDebtToken)
    (balance supply : Nat → Nat → Prop) : Prop where
  balance : ∃ b, token.balanceOf now user = .ok b ∧
    ∀ b', after.balanceOf now user = .ok b' → balance b b'
  supply : ∃ s, token.totalSupply now = .ok s ∧
    ∀ s', after.totalSupply now = .ok s' → supply s s'
  others : ∀ other, other ≠ user →
    after.balanceOf now other = token.balanceOf now other ∧
      after.usersStableRate other = token.usersStableRate other ∧
      after.timestamps other = token.timestamps other

theorem balanceOf_current
    (current : token.base.balances user ≠ 0 → token.timestamps user = now) :
    token.balanceOf now user = rayMul (token.base.balances user) RAY := by
  rw [balanceOf]
  split_ifs with none
  · rw [none]
    rfl
  · rw [current none, calculateCompoundedInterest, SafeMath.sub, SafeMath.subOr,
      if_pos (Nat.le_refl now)]
    simp

theorem rayMul_unit {shown : Nat} (read : rayMul c RAY = .ok shown) : shown = c := by
  rw [← (rayMul_eq_ok.1 read).2, rayMul_RAY]

variable {first : Bool}

theorem Minted.current (minted : Minted token now user onBehalfOf amount rate after first)
    (bounded : now < 2 ^ 40) : after.timestamps onBehalfOf = now := by
  rw [minted.timestamps, Function.update_self, uint40_of_lt bounded]

theorem Minted.balanceOf (minted : Minted token now user onBehalfOf amount rate after first)
    (bounded : now < 2 ^ 40) :
    after.balanceOf now onBehalfOf = rayMul (token.debt now onBehalfOf + amount) RAY := by
  rw [balanceOf_current fun _ => minted.current bounded, minted.balances, if_pos rfl]

theorem Burned.balanceOf (burned : Burned token now user amount after) (bounded : now < 2 ^ 40) :
    after.balanceOf now user = rayMul (token.debt now user - amount) RAY := by
  have current : after.base.balances user ≠ 0 → after.timestamps user = now := by
    rw [burned.balances, if_pos rfl]
    intro left
    have partly : amount ≠ token.debt now user := by omega
    rw [burned.timestamps, Function.update_self, if_neg partly, uint40_of_lt bounded]
  rw [balanceOf_current current, burned.balances, if_pos rfl]

theorem supply_current (stamped : token.totalSupplyTimestamp = uint40 now) (bounded : now < 2 ^ 40)
    (read : token.totalSupply now = .ok c) : c = token.base.totalSupply := by
  rw [uint40_of_lt bounded] at stamped
  rw [totalSupply_ok read, supply_at_timestamp stamped]

theorem mint_changes {event : Emitted} (bounded : now < 2 ^ 40)
    (computed : token.mint now user onBehalfOf amount rate = .ok (after, first, event)) :
    token.Changes now onBehalfOf after (fun b b' => b' = b + amount)
      (fun s s' => s' = s + amount) := by
  obtain ⟨shown, supplied⟩ := mint_readable computed
  have minted := mint_ok computed
  refine ⟨⟨_, shown, fun b' read => ?_⟩, ⟨_, supplied, fun s' read => ?_⟩, fun other different => ?_⟩
  · rw [minted.balanceOf bounded] at read
    exact rayMul_unit read
  · rw [supply_current minted.totalSupplyTimestamp bounded read, minted.totalSupply]
  · have stamp : after.timestamps other = token.timestamps other := by
      rw [minted.timestamps, Function.update_of_ne different]
    have rated := minted.otherRates other different
    refine ⟨?_, rated, stamp⟩
    rw [StableDebtToken.balanceOf, StableDebtToken.balanceOf, minted.balances, if_neg different,
      rated, stamp]

theorem burnSupply_exact {previousSupply userStableRate supply average reported : Nat}
    (computed : token.burnSupply previousSupply userStableRate amount =
      .ok (supply, average, reported)) : supply + amount = previousSupply ∨ supply = 0 := by
  simp only [burnSupply, ite_eq_ok, bind_eq_ok, SafeMath.sub_eq_ok, pure_eq_ok, Prod.mk.injEq,
    Except.ok.injEq] at computed
  rcases computed with ⟨_, rfl, _⟩ | ⟨_, _, ⟨enough, rfl⟩, _, _, _, _, _, _, _, _, branch⟩
  · exact .inr rfl
  · rcases branch with ⟨_, rfl, _⟩ | ⟨_, _, _, _, _, _, _, rfl, _⟩
    · exact .inr rfl
    · exact .inl (Nat.sub_add_cancel enough)

theorem burn_changes {event : Emitted} (bounded : now < 2 ^ 40)
    (computed : token.burn now user amount = .ok (after, event)) :
    token.Changes now user after (fun b b' => b' + amount = b)
      (fun s s' => s' + amount = s ∨ s' = 0) := by
  obtain ⟨shown, supplied⟩ := burn_readable computed
  have burned := burn_ok computed
  refine ⟨⟨_, shown, fun b' read => ?_⟩, ⟨_, supplied, fun s' read => ?_⟩, fun other different => ?_⟩
  · rw [burned.balanceOf bounded] at read
    have enough := burned.enough
    rw [rayMul_unit read]
    omega
  · rw [supply_current burned.totalSupplyTimestamp bounded read]
    obtain ⟨reported, aggregates⟩ := burned.aggregates
    exact burnSupply_exact aggregates
  · have stamp : after.timestamps other = token.timestamps other := by
      rw [burned.timestamps, Function.update_of_ne different]
    have rated : after.usersStableRate other = token.usersStableRate other := by
      rw [burned.usersStableRate, Function.update_of_ne different]
    refine ⟨?_, rated, stamp⟩
    rw [StableDebtToken.balanceOf, StableDebtToken.balanceOf, burned.balances, if_neg different,
      rated, stamp]

theorem Minted.stamped (minted : Minted token now user onBehalfOf amount rate after first)
    (bounded : now < 2 ^ 40) (mined : 0 < now) (stamped : token.Stamped) : after.Stamped := by
  intro a
  by_cases owes : a = onBehalfOf
  · subst owes
    have joint := (weightedRate_ok minted.userRate).1
    rw [minted.current bounded, principalBalanceOf, minted.balances, if_pos rfl]
    omega
  · rw [minted.timestamps, Function.update_of_ne owes, principalBalanceOf, minted.balances,
      if_neg owes]
    exact stamped a

theorem Burned.stamped (burned : Burned token now user amount after) (bounded : now < 2 ^ 40)
    (mined : 0 < now) (stamped : token.Stamped) : after.Stamped := by
  intro a
  by_cases repays : a = user
  · subst repays
    have enough := burned.enough
    rw [burned.timestamps, Function.update_self, principalBalanceOf, burned.balances, if_pos rfl]
    split_ifs with full
    · simp [full]
    · rw [uint40_of_lt bounded]
      omega
  · rw [burned.timestamps, Function.update_of_ne repays, principalBalanceOf, burned.balances,
      if_neg repays]
    exact stamped a

theorem stamped_step {state next : Clocked} {event : TimedCall} (mined : 0 < event.now)
    (stamped : state.token.Stamped) (taken : state.step event = .ok next) :
    next.token.Stamped := by
  obtain ⟨now, bounded, call⟩ := event
  cases call with
  | mint user onBehalfOf amount rate =>
      simp only [Clocked.step, bind_eq_ok, Prod.exists, pure_eq_ok] at taken
      obtain ⟨_, _, token, _, _, minted, rfl⟩ := taken
      exact (mint_ok minted).stamped bounded mined stamped
  | burn user amount =>
      simp only [Clocked.step, bind_eq_ok, Prod.exists, pure_eq_ok] at taken
      obtain ⟨_, _, token, _, burned, rfl⟩ := taken
      exact (burn_ok burned).stamped bounded mined stamped

theorem stamped_run {events : List TimedCall} {state : Clocked}
    (mined : ∀ event ∈ events, 0 < event.now) (ran : run Clocked.step .start events = .ok state) :
    state.token.Stamped := by
  apply run_invariant_of (fun state => state.token.Stamped) (fun _ event => 0 < event.now) _ _ _ ran
  · intro state event next stamped mined taken
    exact stamped_step mined stamped taken
  · intro a
    exact Iff.rfl
  · intro before event rest _ split _
    exact mined event (by simp [split])

def ChangesExactly (token : StableDebtToken) (event : TimedCall) (after : StableDebtToken) : Prop :=
  match event.call with
  | .mint _ onBehalfOf amount _ => token.Changes event.now onBehalfOf after
      (fun b b' => b' = b + amount) (fun s s' => s' = s + amount)
  | .burn user amount => token.Changes event.now user after
      (fun b b' => b' + amount = b) (fun s s' => s' + amount = s ∨ s' = 0)

theorem changes_step {state next : Clocked} {event : TimedCall}
    (taken : state.step event = .ok next) : state.token.ChangesExactly event next.token := by
  obtain ⟨now, bounded, call⟩ := event
  cases call with
  | mint user onBehalfOf amount rate =>
      simp only [Clocked.step, bind_eq_ok, Prod.exists, pure_eq_ok] at taken
      obtain ⟨_, _, token, _, _, minted, rfl⟩ := taken
      exact mint_changes bounded minted
  | burn user amount =>
      simp only [Clocked.step, bind_eq_ok, Prod.exists, pure_eq_ok] at taken
      obtain ⟨_, _, token, _, burned, rfl⟩ := taken
      exact burn_changes bounded burned

variable {x y : Nat}

-- Who calls and at which rate does not matter for what is owed in this block.
theorem mint_split {user' user'' : Address} {rate' rate'' : Nat} {first' first'' : Bool}
    (bounded : now < 2 ^ 40) (part : Minted token now user onBehalfOf x rate middle first)
    (rest : Minted middle now user' onBehalfOf y rate' after first')
    (whole : Minted token now user'' onBehalfOf (x + y) rate'' once first'') :
    after.balanceOf now onBehalfOf = once.balanceOf now onBehalfOf := by
  rw [rest.balanceOf bounded, whole.balanceOf bounded, debt_at_timestamp (part.current bounded),
    part.balances, if_pos rfl, Nat.add_assoc]

theorem Burned.debt (burned : Burned token now user amount after) (bounded : now < 2 ^ 40) :
    after.debt now user = token.debt now user - amount := by
  by_cases full : amount = token.debt now user
  · rw [full, Nat.sub_self]
    apply debt_of_no_principal
    rw [burned.balances, if_pos rfl, full, Nat.sub_self]
  · have current : after.timestamps user = now := by
      rw [burned.timestamps, Function.update_self, if_neg full, uint40_of_lt bounded]
    rw [debt_at_timestamp current, burned.balances, if_pos rfl]

theorem burn_split (bounded : now < 2 ^ 40) (part : Burned token now user x middle)
    (rest : Burned middle now user y after) (whole : Burned token now user (x + y) once) :
    after.balanceOf now user = once.balanceOf now user := by
  rw [rest.balanceOf bounded, whole.balanceOf bounded, part.debt bounded, Nat.sub_sub]

structure Splits (token : StableDebtToken) (now : Nat) : Prop where
  mint : ∀ user user' user'' onBehalfOf x y rate rate' rate'' middle after once result result'
    result'', token.mint now user onBehalfOf x rate = .ok (middle, result) →
      middle.mint now user' onBehalfOf y rate' = .ok (after, result') →
      token.mint now user'' onBehalfOf (x + y) rate'' = .ok (once, result'') →
      after.balanceOf now onBehalfOf = once.balanceOf now onBehalfOf
  burn : ∀ user x y middle after once event event' event'',
    token.burn now user x = .ok (middle, event) → middle.burn now user y = .ok (after, event') →
      token.burn now user (x + y) = .ok (once, event'') →
      after.balanceOf now user = once.balanceOf now user

theorem splits (token : StableDebtToken) (bounded : now < 2 ^ 40) : token.Splits now where
  mint := by
    intro _ _ _ _ _ _ _ _ _ _ _ _ result result' result'' part rest whole
    exact mint_split bounded (mint_ok part) (mint_ok rest) (mint_ok whole)
  burn := by
    intro _ _ _ _ _ _ _ _ _ part rest whole
    exact burn_split bounded (burn_ok part) (burn_ok rest) (burn_ok whole)

/-- In every reachable state a mint or burn changes the user's balance, read in its block, by
exactly its amount and nobody else's, split or not, and timestamps are zero exactly where no
principal is left. -/
theorem stable_debt_exact {events : List TimedCall} {state : Clocked}
    (mined : ∀ event ∈ events, 0 < event.now)
    (ran : run Clocked.step .start events = .ok state) :
    state.token.Stamped ∧ (∀ now, now < 2 ^ 40 → state.token.Splits now) ∧
      ∀ event next, state.step event = .ok next → state.token.ChangesExactly event next.token ∧
        (0 < event.now → next.token.Stamped) := by
  have stamped := stamped_run mined ran
  refine ⟨stamped, fun now bounded => splits state.token bounded, fun event next taken => ?_⟩
  exact ⟨changes_step taken, fun later => stamped_step later stamped taken⟩

theorem afterYear_bounded : 1 + year < 2 ^ 40 := by decide

-- The second borrower burns less than a year's interest, so that the token mints.
theorem stable_debt_exact_uneven : ∃ state next,
    run Clocked.step .start unevenBorrowers = .ok state ∧
      state.step ⟨1 + year, afterYear_bounded, .burn 8 (WAD / 2)⟩ = .ok next ∧
      state.token.principalBalanceOf 8 < next.token.principalBalanceOf 8 ∧
      state.token.Stamped ∧ (∀ now, now < 2 ^ 40 → state.token.Splits now) ∧
      ∀ event next, state.step event = .ok next → state.token.ChangesExactly event next.token ∧
        (0 < event.now → next.token.Stamped) := by
  have outcome : yields (run Clocked.step .start unevenBorrowers) (fun state =>
      yields (state.step ⟨1 + year, afterYear_bounded, .burn 8 (WAD / 2)⟩) (fun next =>
        state.token.principalBalanceOf 8 < next.token.principalBalanceOf 8)) := by
    decide +kernel
  obtain ⟨state, ran, taken⟩ := yields_iff.1 outcome
  obtain ⟨next, burned, grown⟩ := yields_iff.1 taken
  exact ⟨state, next, ran, burned, of_decide_eq_true grown, stable_debt_exact (by decide) ran⟩

end StableDebtToken

end PalmyProtocol
