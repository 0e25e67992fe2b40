import PalmyProtocol.System.DebtConsent

set_option autoImplicit false

namespace PalmyProtocol

open Checked Rounding LendingPool

namespace Call

variable {env : Env} {pool after : LendingPool} {msgSender : Address}

def delegation (asset : Address) (rateMode : Nat) (delegatee : Address) (amount : Nat) : Call :=
  if rateMode = 1 then approveStableDelegation asset delegatee amount
  else approveVariableDelegation asset delegatee amount

theorem debt_of_setReserve {asset : Address} {changed : Reserve} {now : Nat}
    (same : ∀ user, changed.debt now user = (pool.reserves asset).debt now user) (user : Address)
    (other : Address) : ((pool.setReserve asset changed).reserves other).debt now user =
      (pool.reserves other).debt now user := by
  by_cases written : other = asset
  · rw [written, setReserve_same]
    exact same user
  · rw [setReserve_other written]

theorem delegation_ok {asset delegatee : Address} {rateMode amount : Nat}
    (computed : (delegation asset rateMode delegatee amount).execute env pool msgSender =
      .ok after) :
    (∀ asset' rateMode', after.borrowAllowance asset' rateMode' =
      if asset' = asset ∧ (rateMode' = 1 ↔ rateMode = 1) then
        setAllowance (pool.borrowAllowance asset' rateMode') msgSender delegatee amount
      else pool.borrowAllowance asset' rateMode') ∧
    ∀ user asset', (after.reserves asset').debt env.timestamp user =
      (pool.reserves asset').debt env.timestamp user := by
  by_cases stable : rateMode = 1
  · simp only [delegation, stable, if_true, execute, LendingPool.approveStableDelegation,
      bind_eq_ok, pure_eq_ok] at computed
    obtain ⟨_, _, rfl⟩ := computed
    constructor
    · intro asset' rateMode'
      by_cases same : asset' = asset
      · subst same
        by_cases stable' : rateMode' = 1 <;>
          simp [LendingPool.borrowAllowance, stable, stable', DebtTokenBase.approveDelegation]
      · simp [LendingPool.borrowAllowance, same]
    · exact debt_of_setReserve fun _ => rfl
  · simp only [delegation, stable, if_false, execute, LendingPool.approveVariableDelegation,
      bind_eq_ok, pure_eq_ok] at computed
    obtain ⟨_, _, rfl⟩ := computed
    constructor
    · intro asset' rateMode'
      by_cases same : asset' = asset
      · subst same
        by_cases stable' : rateMode' = 1 <;>
          simp [LendingPool.borrowAllowance, stable, stable', DebtTokenBase.approveDelegation]
      · simp [LendingPool.borrowAllowance, same]
    · exact debt_of_setReserve fun _ => rfl

end Call

structure LendingPool.Within (env : Env) (user : Address) (pool after : LendingPool) : Prop where
  debt : ∀ asset, (after.reserves asset).debt env.timestamp user ≤
    (pool.reserves asset).debt env.timestamp user
  credit : ∀ asset rateMode fromUser toUser, after.borrowAllowance asset rateMode fromUser toUser ≤
    pool.borrowAllowance asset rateMode fromUser toUser

namespace LendingPool

variable {env : Env} {pool middle after : LendingPool} {user bystander asset : Address}

theorem Within.refl (pool : LendingPool) : Within env user pool pool :=
  ⟨fun _ => le_refl _, fun _ _ _ _ => le_refl _⟩

theorem Within.trans (first : Within env user pool middle) (second : Within env user middle after) :
    Within env user pool after :=
  ⟨fun asset => le_trans (second.debt asset) (first.debt asset),
    fun asset rateMode fromUser toUser =>
      le_trans (second.credit asset rateMode fromUser toUser)
        (first.credit asset rateMode fromUser toUser)⟩

theorem Spares.within (spares : Spares env user pool after) : Within env user pool after :=
  ⟨fun asset => (spares asset).toNoNewDebt.debt_le,
    fun asset rateMode _ _ => by rw [spares.borrowAllowance asset rateMode]⟩

-- A listing replaces the tokens of an asset that nobody could owe yet by empty ones.
theorem within_listing {input : InitReserveInput} {configuration : ReserveConfigurationMap}
    (listed : Listed env pool input configuration after) : Within env user pool after := by
  have fresh : after.reserves input.underlyingAsset = listedReserve pool input configuration := by
    rw [listed.result]
    simp [setReserve]
  have others : ∀ a, a ≠ input.underlyingAsset → after.reserves a = pool.reserves a := by
    intro a different
    rw [listed.result]
    simp [setReserve, different]
  constructor
  · intro asset
    by_cases same : asset = input.underlyingAsset
    · subst same
      rw [fresh, Reserve.debt_of_not_owes]
      · exact Nat.zero_le _
      · exact fun owing => owing.elim (fun some => some rfl) (fun some => some rfl)
    · rw [others asset same]
  · intro asset rateMode fromUser toUser
    by_cases same : asset = input.underlyingAsset
    · subst same
      have none : after.borrowAllowance input.underlyingAsset rateMode fromUser toUser = 0 := by
        rw [borrowAllowance, fresh]
        split_ifs <;> rfl
      rw [none]
      exact Nat.zero_le _
    · rw [borrowAllowance, borrowAllowance, others asset same]

theorem administered_within (registered : Registered pool)
    (administered : Administered env pool after) : Within env user pool after := by
  cases administered with
  | listed computed =>
      exact (listings_induction (fun later => Within env user pool later)
        (fun _ _ _ _ _ within listed => within.trans (within_listing listed)) registered
        (.refl _) computed).2
  | configured admitted =>
      apply Spares.within
      apply spares_setReserve
      exact Reserve.spares_of_same ⟨rfl, rfl⟩ (le_refl _)
  | chosen asset strategy =>
      apply Spares.within
      apply spares_setReserve
      exact Reserve.spares_of_same ⟨rfl, rfl⟩ (le_refl _)
  | paused paused =>
      apply Spares.within
      exact spares_sameReserves rfl

end LendingPool

structure Borrowing where
  caller : Address
  onBehalfOf : Address
  asset : Address
  rateMode : Nat
  amount : Nat

namespace World

variable (world : World)

-- A flash loan borrows when an entry is settled in a mode other than zero.
def borrowing : Event → Option Borrowing
  | .call msgSender (.borrow asset amount rateMode onBehalfOf) =>
    some ⟨msgSender, onBehalfOf, asset, rateMode, amount⟩
  | .settle =>
    match world.frames with
    | [] => none
    | frame :: _ =>
      match frame.pending with
      | [] => none
      | entry :: _ =>
        match entry.mode with
        | none | some 0 => none
        | some rateMode =>
          some ⟨frame.msgSender, frame.onBehalfOf, entry.asset, rateMode, entry.amount⟩
  | _ => none

def caller : Event → Option Address
  | .call msgSender _ | .admin msgSender _ | .flashLoan msgSender _ _ _ _ _ => some msgSender
  | .settle => world.frames.head?.map Frame.msgSender
  | _ => none

def borrowedFor (asset : Address) (rateMode : Nat) (caller onBehalfOf : Address)
    (world : World) (event : Event) : Nat :=
  match world.borrowing event with
  | some b =>
    if b.asset = asset ∧ b.rateMode = rateMode ∧ b.caller = caller ∧ b.onBehalfOf = onBehalfOf then
      b.amount
    else 0
  | none => 0

variable {world} {next : World}

theorem call_borrows {call : Call} {msgSender : Address} {pool : LendingPool}
    (executed : call.execute world.env world.pool msgSender = .ok pool) :
    (∃ asset amount rateMode onBehalfOf, call = .borrow asset amount rateMode onBehalfOf) ∨
    world.borrowing (.call msgSender call) = none ∧
      ((∃ asset rateMode delegatee amount, call = .delegation asset rateMode delegatee amount) ∨
        ∀ user, user ≠ msgSender → Within world.env user world.pool pool) := by
  by_cases borrows : ∃ asset amount rateMode onBehalfOf,
      call = .borrow asset amount rateMode onBehalfOf
  · exact .inl borrows
  · have nothing : world.borrowing (.call msgSender call) = none := by
      cases call with
      | borrow asset amount rateMode onBehalfOf => exact absurd ⟨_, _, _, _, rfl⟩ borrows
      | _ => rfl
    refine .inr ⟨nothing, ?_⟩
    rcases Call.execute_spares executed with ⟨_, _, _, _, named, _⟩ |
      ⟨asset, delegatee, amount, _, _, named, _⟩ | ⟨asset, delegatee, amount, _, _, named, _⟩ | spares
    · exact absurd ⟨_, _, _, _, named⟩ borrows
    · exact .inl ⟨asset, 1, delegatee, amount, named⟩
    · exact .inl ⟨asset, 2, delegatee, amount, named⟩
    · exact .inr fun user different => (spares user fun _ _ _ => different).within

theorem borrowing_settle {frame : Frame} {rest : List Frame} {entry : FlashLoanEntry}
    {pending : List FlashLoanEntry} {pool : LendingPool}
    (run : Settled world frame rest entry pending pool next) :
    world.borrowing .settle = match entry.mode with
      | none | some 0 => none
      | some rateMode =>
        some ⟨frame.msgSender, frame.onBehalfOf, entry.asset, rateMode, entry.amount⟩ := by
  simp only [borrowing, run.stack, run.queue]

-- An event borrows through `executeBorrow`, or delegates, or leaves all debts and credits of
-- everybody but its caller within what they were.
theorem step_borrows {event : Event} (registered : world.pool.Registered)
    (taken : world.step event = .ok next) :
    (∃ b address releasing, world.borrowing event = some b ∧ world.caller event = some b.caller ∧
      world.pool.executeBorrow world.env
        ⟨b.asset, b.caller, b.onBehalfOf, b.amount, b.rateMode, address, releasing⟩ =
          .ok next.pool) ∨
    world.borrowing event = none ∧
      ((∃ msgSender asset rateMode delegatee amount,
        event = .call msgSender (.delegation asset rateMode delegatee amount) ∧
        (Call.delegation asset rateMode delegatee amount).execute world.env world.pool msgSender =
          .ok next.pool) ∨
      ∀ user, world.caller event ≠ some user → Within world.env user world.pool next.pool) := by
  cases event with
  | call msgSender call =>
      obtain ⟨_, _, pool, executed, rfl⟩ := step_call taken
      rcases call_borrows executed with ⟨asset, amount, rateMode, onBehalfOf, rfl⟩ |
        ⟨nothing, ⟨asset, rateMode, delegatee, amount, rfl⟩ | within⟩
      · simp only [Call.execute, LendingPool.borrow, bind_eq_ok] at executed
        obtain ⟨_, _, executed⟩ := executed
        exact .inl ⟨_, _, true, rfl, rfl, executed⟩
      · exact .inr ⟨nothing, .inl ⟨msgSender, asset, rateMode, delegatee, amount, rfl, executed⟩⟩
      · refine .inr ⟨nothing, .inr fun user different => within user ?_⟩
        rintro rfl
        exact different rfl
  | admin =>
      obtain ⟨pool, administered, rfl⟩ := step_admin taken
      exact .inr ⟨rfl, .inr fun _ _ => administered_within registered administered⟩
  | flashLoan =>
      obtain ⟨pool, pending, run⟩ := step_flashLoan taken
      rw [run.result]
      exact .inr ⟨rfl, .inr fun _ _ => (openFlashLoan_spares run.opened).within⟩
  | executed =>
      obtain ⟨_, _, _, _, rfl⟩ := step_executed taken
      exact .inr ⟨rfl, .inr fun _ _ => .refl _⟩
  | settle =>
      obtain ⟨frame, rest, entry, pending, pool, run⟩ := step_settle taken
      have named := borrowing_settle run
      have called : world.caller .settle = some frame.msgSender := by simp [caller, run.stack]
      obtain ⟨rateMode, mode, entered, chosen, settled⟩ := settleFlashLoan_ok run.settle
      rw [entered] at named
      rw [run.result]
      rcases settled with ⟨rfl, _, _, _, _, _, repaid⟩ | ⟨borrows, borrowed⟩
      · rw [eq_zero_of_none chosen] at named
        exact .inr ⟨named, .inr fun _ _ => (repaying_spares repaid).within⟩
      · have nonzero : rateMode ≠ 0 := by
          rintro rfl
          cases chosen
          exact borrows rfl
        refine .inl ⟨⟨frame.msgSender, frame.onBehalfOf, entry.asset, rateMode, entry.amount⟩,
          entry.lTokenAddress, false, named.trans ?_, called, borrowed⟩
        split
        · rename_i impossible
          cases impossible
        · rename_i impossible
          cases impossible
          exact absurd rfl nonzero
        · rename_i named
          cases named
          rfl
  | finish =>
      obtain ⟨_, _, _, _, rfl⟩ := step_finish taken
      exact .inr ⟨rfl, .inr fun _ _ => .refl _⟩
  | ledger =>
      obtain ⟨_, rfl⟩ := step_ledger taken
      refine .inr ⟨rfl, .inr fun user _ => ?_⟩
      apply Spares.within
      apply spares_setReserve
      exact Reserve.spares_of_same ⟨rfl, rfl⟩ (le_refl _)
  | observe =>
      obtain ⟨_, _, rfl⟩ := step_observe taken
      exact .inr ⟨rfl, .inr fun _ _ => .refl _⟩

theorem executeBorrow_credit {b : Borrowing} {address : Address} {releasing : Bool}
    {pool after : LendingPool} {env : Env} (delegated : b.onBehalfOf ≠ b.caller)
    (computed : pool.executeBorrow env
      ⟨b.asset, b.caller, b.onBehalfOf, b.amount, b.rateMode, address, releasing⟩ = .ok after) :
    b.amount ≤ pool.borrowAllowance b.asset b.rateMode b.onBehalfOf b.caller ∧
      after.borrowAllowance b.asset b.rateMode = setAllowance
        (pool.borrowAllowance b.asset b.rateMode) b.onBehalfOf b.caller
        (pool.borrowAllowance b.asset b.rateMode b.onBehalfOf b.caller - b.amount) := by
  have consumed := (executeBorrow_allowances computed b.asset b.rateMode).2
  rw [if_pos ⟨rfl, Iff.rfl⟩] at consumed
  rcases DebtTokenBase.consumeDelegation_ok consumed with ⟨own, _⟩ | ⟨_, enough, same⟩
  · exact absurd own.symm delegated
  · exact ⟨enough, same⟩

-- No borrow raises a credit, and one that is drawn on this credit lowers it by its amount.
theorem executeBorrow_draws {b : Borrowing} {address asset caller user : Address} {rateMode : Nat}
    {releasing : Bool} {pool after : LendingPool} {env : Env} (different : user ≠ caller)
    (computed : pool.executeBorrow env
      ⟨b.asset, b.caller, b.onBehalfOf, b.amount, b.rateMode, address, releasing⟩ = .ok after) :
    after.borrowAllowance asset rateMode user caller +
        (if b.asset = asset ∧ b.rateMode = rateMode ∧ b.caller = caller ∧ b.onBehalfOf = user then
          b.amount else 0) ≤
      pool.borrowAllowance asset rateMode user caller := by
  by_cases drawn : b.asset = asset ∧ b.rateMode = rateMode ∧ b.caller = caller ∧ b.onBehalfOf = user
  · rw [if_pos drawn]
    obtain ⟨rfl, rfl, rfl, rfl⟩ := drawn
    obtain ⟨enough, same⟩ := executeBorrow_credit different computed
    rw [same, ERC20.setAllowance_same]
    omega
  · rw [if_neg drawn, Nat.add_zero]
    have consumed := (executeBorrow_allowances computed asset rateMode).2
    split_ifs at consumed
    · rcases DebtTokenBase.consumeDelegation_ok consumed with ⟨_, same⟩ | ⟨_, _, same⟩
      · rw [same]
      · rw [same]
        by_cases here : user = b.onBehalfOf ∧ caller = b.caller
        · obtain ⟨rfl, rfl⟩ := here
          rw [ERC20.setAllowance_same]
          exact Nat.sub_le _ _
        · rw [ERC20.setAllowance_other here]
    · rw [consumed]

theorem step_draws {event : Event} {asset caller user : Address} {rateMode : Nat}
    (registered : world.pool.Registered) (different : user ≠ caller)
    (undelegated : ∀ amount, event ≠ .call user (.delegation asset rateMode caller amount))
    (taken : world.step event = .ok next) :
    next.pool.borrowAllowance asset rateMode user caller +
        borrowedFor asset rateMode caller user world event ≤
      world.pool.borrowAllowance asset rateMode user caller := by
  rcases step_borrows registered taken with ⟨b, _, _, named, _, borrowed⟩ |
    ⟨nothing, ⟨msgSender, asset', rateMode', delegatee, amount, rfl, executed⟩ | within⟩
  · simp only [borrowedFor, named]
    exact executeBorrow_draws different borrowed
  · rw [borrowedFor, nothing, Nat.add_zero, (Call.delegation_ok executed).1]
    split_ifs with here
    · obtain ⟨rfl, kind⟩ := here
      rw [ERC20.setAllowance_other]
      rintro ⟨rfl, rfl⟩
      -- the same token, the same two accounts: this is the excluded call
      have same : Call.delegation asset rateMode' caller amount =
          .delegation asset rateMode caller amount := by
        simp only [Call.delegation, kind]
      exact undelegated amount (by rw [same])
    · exact le_refl _
  · rw [borrowedFor, nothing, Nat.add_zero]
    by_cases own : world.caller event = some user
    · have other : world.caller event ≠ some caller := by
        rw [own]
        exact fun same => different (Option.some.inj same)
      exact (within caller other).credit asset rateMode user caller
    · exact (within user own).credit asset rateMode user caller

-- A caller leaves the debts of everybody else no larger, but for the borrows it is trusted with:
-- those spend the credit it was given, by exactly the amount.
theorem step_consented {event : Event} {caller user : Address} (registered : world.pool.Registered)
    (called : world.caller event = some caller) (different : user ≠ caller)
    (taken : world.step event = .ok next) :
    ((∀ b, world.borrowing event = some b → b.onBehalfOf ≠ user) →
      ∀ asset, (next.pool.reserves asset).debt world.env.timestamp user ≤
        (world.pool.reserves asset).debt world.env.timestamp user) ∧
    ∀ b, world.borrowing event = some b → b.onBehalfOf = user →
      b.amount ≤ world.pool.borrowAllowance b.asset b.rateMode user caller ∧
      next.pool.borrowAllowance b.asset b.rateMode user caller =
        world.pool.borrowAllowance b.asset b.rateMode user caller - b.amount := by
  rcases step_borrows registered taken with ⟨b, _, _, named, by_, borrowed⟩ |
    ⟨nothing, ⟨msgSender, _, _, _, _, rfl, executed⟩ | within⟩
  · have who : b.caller = caller := Option.some.inj (by_.symm.trans called)
    constructor
    · intro unnamed asset
      exact (executeBorrow_noNewDebt (Ne.symm (unnamed b named)) borrowed asset).debt_le
    · intro b' named' debtor
      obtain rfl := Option.some.inj (named.symm.trans named')
      subst who debtor
      obtain ⟨enough, same⟩ := executeBorrow_credit different borrowed
      exact ⟨enough, by rw [same, ERC20.setAllowance_same]⟩
  · refine ⟨fun _ asset => ?_, fun b named => ?_⟩
    · rw [(Call.delegation_ok executed).2]
    · rw [nothing] at named
      cases named
  · refine ⟨fun _ asset => ?_, fun b named => ?_⟩
    · refine (within user ?_).debt asset
      rw [called]
      exact fun same => different (Option.some.inj same).symm
    · rw [nothing] at named
      cases named

/-- Nobody is put in debt without consent: other people's calls raise no debt, but for borrows on
the credit that was delegated, and over a run these stay within what was delegated. -/
theorem Reachable.debt_needs_consent (reached : world.Reachable) :
    (∀ event next caller user, world.caller event = some caller → user ≠ caller →
      world.step event = .ok next →
      ((∀ b, world.borrowing event = some b → b.onBehalfOf ≠ user) →
        ∀ asset stableDebt variableDebt stableDebt' variableDebt',
          (world.pool.reserves asset).getUserCurrentDebt world.env.timestamp user =
            .ok (stableDebt, variableDebt) →
          (next.pool.reserves asset).getUserCurrentDebt world.env.timestamp user =
            .ok (stableDebt', variableDebt') →
          stableDebt' + variableDebt' ≤ stableDebt + variableDebt) ∧
      ∀ b, world.borrowing event = some b → b.onBehalfOf = user →
        b.amount ≤ world.pool.borrowAllowance b.asset b.rateMode user caller ∧
        next.pool.borrowAllowance b.asset b.rateMode user caller =
          world.pool.borrowAllowance b.asset b.rateMode user caller - b.amount) ∧
    ∀ user caller asset rateMode delegated next events final, user ≠ caller →
      world.step (.call user (.delegation asset rateMode caller delegated)) = .ok next →
      (∀ event ∈ events, ∀ amount,
        event ≠ .call user (.delegation asset rateMode caller amount)) →
      Runs.run step next events = .ok final →
      Runs.cost step (borrowedFor asset rateMode caller user) next events ≤ delegated := by
  have registered := reached.registered
  constructor
  · intro event next caller user called different taken
    obtain ⟨debts, credit⟩ := step_consented registered called different taken
    refine ⟨fun unnamed asset _ _ _ _ before after => ?_, credit⟩
    rw [← Reserve.debt_of_views before, ← Reserve.debt_of_views after]
    exact debts unnamed asset
  · intro user caller asset rateMode delegated next events final different approved undelegated ran
    have registered' := registered_step registered approved
    have paid := Runs.run_budget (fun w : World => w.pool.Registered)
      (fun event => ∀ amount, event ≠ .call user (.delegation asset rateMode caller amount))
      (borrowedFor asset rateMode caller user)
      (fun w => w.pool.borrowAllowance asset rateMode user caller)
      (fun _ _ _ registered taken => registered_step registered taken)
      (fun _ _ _ registered undelegated taken =>
        step_draws registered different undelegated taken) registered' undelegated ran
    obtain ⟨_, _, pool, executed, rfl⟩ := step_call approved
    have credit : pool.borrowAllowance asset rateMode user caller = delegated := by
      rw [(Call.delegation_ok executed).1, if_pos ⟨rfl, Iff.rfl⟩, ERC20.setAllowance_same]
    change _ ≤ pool.borrowAllowance asset rateMode user caller at paid
    rw [credit] at paid
    exact le_trans (Nat.le_add_left _ _) paid

-- 101 pledges an asset and lets 104 borrow another in its name.
def pledged : List Event :=
  Market.opening 10 Market.strategy ++ Market.opening 20 Market.strategy ++
    [.call 100 (.deposit 10 (100 * WAD) 100), .call 101 (.deposit 20 (100 * WAD) 101)]

def trusting : Event := .call 101 (.delegation 10 2 104 (20 * WAD))
def trusted : Event := .call 104 (.borrow 10 (15 * WAD) 2 101)
def poking : Event := .call 100 (.deposit 10 WAD 100)

theorem debt_needs_consent_pledged :
    ∃ world approved lent poked : World, Runs.run step Market.start pledged = .ok world ∧
      world.step trusting = .ok approved ∧ approved.step trusted = .ok lent ∧
      lent.step poking = .ok poked ∧
      approved.pool.borrowAllowance 10 2 101 104 = 20 * WAD ∧
      lent.pool.borrowAllowance 10 2 101 104 = 20 * WAD - 15 * WAD ∧
      (∃ before after, (lent.pool.reserves 10).getUserCurrentDebt lent.env.timestamp 101 =
          .ok before ∧
        (poked.pool.reserves 10).getUserCurrentDebt lent.env.timestamp 101 = .ok after ∧
        after.1 + after.2 ≤ before.1 + before.2) ∧
      Runs.cost step (borrowedFor 10 2 104 101) approved [trusted, poking] ≤ 20 * WAD := by
  have outcome : yields (Runs.run step Market.start pledged) (fun world =>
      yields (world.step trusting) (fun approved =>
        approved.pool.borrowAllowance 10 2 101 104 = 20 * WAD &&
        yields (approved.step trusted) (fun lent =>
          yields ((lent.pool.reserves 10).getUserCurrentDebt lent.env.timestamp 101)
            (fun _ => true) &&
          yields (lent.step poking) (fun poked =>
            yields ((poked.pool.reserves 10).getUserCurrentDebt lent.env.timestamp 101)
              (fun _ => true))))) := by
    decide +kernel
  obtain ⟨world, ran, facts⟩ := yields_iff.1 outcome
  obtain ⟨approved, approval, facts⟩ := yields_iff.1 facts
  obtain ⟨credit, facts⟩ := (Bool.and_eq_true _ _).mp facts
  obtain ⟨lent, loan, facts⟩ := yields_iff.1 facts
  obtain ⟨viewed, facts⟩ := (Bool.and_eq_true _ _).mp facts
  obtain ⟨poked, poke, viewed'⟩ := yields_iff.1 facts
  obtain ⟨before, shown, _⟩ := yields_iff.1 viewed
  obtain ⟨after, shown', _⟩ := yields_iff.1 viewed'
  have reached := Market.reachable_of_run ran
  have reached' := reached.next approval
  obtain ⟨_, budget⟩ := Reachable.debt_needs_consent reached
  obtain ⟨consented, _⟩ := Reachable.debt_needs_consent reached'
  obtain ⟨spared, _⟩ := Reachable.debt_needs_consent (Runs.Reachable.next reached' loan)
  have credit := of_decide_eq_true credit
  have spent := ((consented trusted lent 104 101 rfl (by decide) loan).2
    ⟨104, 101, 10, 2, 15 * WAD⟩ rfl rfl).2
  rw [credit] at spent
  refine ⟨world, approved, lent, poked, ran, approval, loan, poke, credit, spent,
    ⟨before, after, shown, shown', ?_⟩, ?_⟩
  · refine (spared poking poked 100 101 rfl (by decide) poke).1 ?_ 10 _ _ _ _ shown shown'
    intro b named
    cases named
  · refine budget 101 104 10 2 (20 * WAD) approved [trusted, poking] poked (by decide) approval ?_
      (Runs.run_cons_ok.2 ⟨lent, loan, Runs.run_cons_ok.2 ⟨poked, poke, rfl⟩⟩)
    intro event member amount
    rcases List.mem_pair.1 member with rfl | rfl <;> exact fun same => by cases same

end World

end PalmyProtocol
