import PalmyProtocol.Pool.ReserveDebts
import PalmyProtocol.System.RestingReserves

set_option autoImplicit false

namespace PalmyProtocol

open Checked Rounding LendingPool ValidationLogic

namespace Reserve

variable {env env' : Env} {reserve after : Reserve} {now ratio ratio' : Nat}

def totalDebt (reserve : Reserve) (now : Nat) : Nat :=
  reserve.stableDebtToken.supply now +
    divHalfUp (reserve.variableDebtToken.base.totalSupply * reserve.normalizedDebt now) RAY

theorem usageRatio_ok (computed : ValidationLogic.usageRatio env reserve = .ok ratio) :
    (reserve.totalDebt env.timestamp = 0 ∧ ratio = 0) ∨ (reserve.totalDebt env.timestamp ≠ 0 ∧
      ratio = divHalfUp (reserve.totalDebt env.timestamp * WAD_RAY_RATIO * RAY)
        (reserve.availableLiquidity * WAD_RAY_RATIO +
          reserve.totalDebt env.timestamp * WAD_RAY_RATIO)) := by
  simp only [ValidationLogic.usageRatio, VariableDebtToken.totalSupply, bind_eq_ok, rayMul_eq_ok,
    SafeMath.add_eq_ok, wadToRay_eq_ok, ite_eq_ok, pure_eq_ok] at computed
  obtain ⟨_, stable, _, ⟨_, viewed, _, rfl⟩, _, ⟨_, rfl⟩, _, ⟨_, rfl⟩, _, ⟨_, rfl⟩, divided⟩ :=
    computed
  obtain rfl := StableDebtToken.totalSupply_ok stable
  obtain ⟨rfl, _⟩ := ReserveData.getNormalizedDebt_ok viewed
  have ratioPos : WAD_RAY_RATIO ≠ 0 := by decide
  rcases divided with ⟨none, rfl⟩ | ⟨some, _, ⟨_, rfl⟩, quotient⟩
  · exact .inl ⟨(Nat.mul_eq_zero.1 none).resolve_right ratioPos, rfl⟩
  · refine .inr ⟨fun none => some ?_, (rayDiv_ok quotient).2.symm⟩
    rw [totalDebt] at none
    rw [none, Nat.zero_mul]

theorem usageRatio_mono (clock : env'.timestamp = env.timestamp)
    (debt : after.totalDebt env.timestamp ≤ reserve.totalDebt env.timestamp)
    (cash : reserve.availableLiquidity ≤ after.availableLiquidity)
    (before : ValidationLogic.usageRatio env reserve = .ok ratio)
    (later : ValidationLogic.usageRatio env' after = .ok ratio') : ratio' ≤ ratio := by
  rcases usageRatio_ok later with ⟨_, rfl⟩ | ⟨owed', shape'⟩
  · exact Nat.zero_le _
  · rw [clock] at owed' shape'
    rcases usageRatio_ok before with ⟨none, _⟩ | ⟨owed, shape⟩
    · omega
    · rw [shape, shape']
      have ratioPos : 0 < WAD_RAY_RATIO := by decide
      apply divHalfUp_fraction_mono
      · have := Nat.mul_pos (Nat.pos_of_ne_zero owed') ratioPos
        omega
      · have := Nat.mul_pos (Nat.pos_of_ne_zero owed) ratioPos
        omega
      · have cross : after.totalDebt env.timestamp * reserve.availableLiquidity ≤
            reserve.totalDebt env.timestamp * after.availableLiquidity :=
          Nat.mul_le_mul debt cash
        generalize after.totalDebt env.timestamp = d' at cross ⊢
        generalize reserve.totalDebt env.timestamp = d at cross ⊢
        generalize after.availableLiquidity = c' at cross ⊢
        generalize reserve.availableLiquidity = c at cross ⊢
        have scaled := Nat.mul_le_mul_right (RAY * WAD_RAY_RATIO * WAD_RAY_RATIO) cross
        linarith

end Reserve

def Event.Rebalances (asset : Address) (event : Event) : Prop :=
  ∃ msgSender user, event = .call msgSender (.rebalanceStableBorrowRate asset user)

namespace World

variable {world next : World} {asset : Address} {start : Reserve} {now : Nat}

structure Undrained (asset : Address) (start : Reserve) (now : Nat) (world : World) : Prop where
  clock : world.env.timestamp = now
  address : (world.pool.reserves asset).lTokenAddress = start.lTokenAddress
  stable : ∃ borrowAllowances, (world.pool.reserves asset).stableDebtToken =
    { start.stableDebtToken with borrowAllowances }
  floating : (world.pool.reserves asset).variableDebtToken.base = start.variableDebtToken.base
  view : (world.pool.reserves asset).normalizedDebt now ≤ start.normalizedDebt now
  cash : start.availableLiquidity ≤
    (world.pool.reserves asset).availableLiquidity + world.outstanding asset
  modes : ∀ frame ∈ world.frames, ∀ entry ∈ frame.pending, entry.asset = asset →
    entry.mode = some 0

theorem Undrained.totalDebt (undrained : Undrained asset start now world) :
    (world.pool.reserves asset).totalDebt now ≤ start.totalDebt now := by
  obtain ⟨_, stable⟩ := undrained.stable
  apply Nat.add_le_add
  · rw [stable]
    exact le_refl _
  · rw [undrained.floating]
    exact rayMul_mono (le_refl _) undrained.view

theorem Undrained.usersStableRate (undrained : Undrained asset start now world) :
    (world.pool.reserves asset).stableDebtToken.usersStableRate =
      start.stableDebtToken.usersStableRate := by
  obtain ⟨_, stable⟩ := undrained.stable
  rw [stable]

theorem Undrained.rests (undrained : Undrained asset start now world)
    (rests : Reserve.Rests (world.pool.reserves asset) (next.pool.reserves asset))
    (frames : next.frames = world.frames) (clock : next.env = world.env) :
    Undrained asset start now next := by
  obtain ⟨_, stable⟩ := undrained.stable
  obtain ⟨_, stable'⟩ := rests.stable
  rw [stable] at stable'
  refine ⟨?_, ?_, ⟨_, stable'⟩, rests.floating.trans undrained.floating, ?_, ?_, ?_⟩
  · rw [clock, undrained.clock]
  · rw [rests.data, undrained.address]
  · rw [rests.data]
    exact undrained.view
  · rw [outstanding, frames, rests.cash]
    exact undrained.cash
  · rw [frames]
    exact undrained.modes

theorem Undrained.flashLoan {msgSender receiverAddress onBehalfOf : Address}
    {assets : List Address} {amounts modes : List Nat} {pool : LendingPool}
    {pending : List FlashLoanEntry} (registered : world.pool.Registered)
    (undrained : Undrained asset start now world) (listed : start.lTokenAddress ≠ 0)
    (repaid : ∀ request ∈ flashLoanRequests assets amounts modes, request.1 = asset →
      request.2.2 = some 0)
    (run : Lent world msgSender receiverAddress assets amounts modes onBehalfOf pool pending next) :
    Undrained asset start now next := by
  have here : (world.pool.reserves asset).lTokenAddress ≠ 0 := by rwa [undrained.address]
  have apart := registered.apart run.receiver asset here
  obtain ⟨books, _, cash⟩ := openFlashLoan_reserve apart run.opened
  obtain ⟨requested, _⟩ := openFlashLoan_entries run.opened
  obtain ⟨allowances, stable⟩ := undrained.stable
  have shape := run.result
  subst shape
  refine ⟨undrained.clock, ?_, ⟨allowances, ?_⟩, ?_, ?_, ?_, ?_⟩
  · exact (congrArg ReserveData.lTokenAddress books.data).trans undrained.address
  · exact books.stable.trans stable
  · rw [books.floating]
    exact undrained.floating
  · rw [books.data]
    exact undrained.view
  · have before := undrained.cash
    rw [outstanding] at before
    rw [outstanding_cons rfl]
    dsimp only
    omega
  · intro frame member entry waiting named
    rcases List.mem_cons.1 member with rfl | member
    · refine repaid (entry.asset, entry.amount, entry.mode) ?_ named
      rw [← requested]
      exact List.mem_map_of_mem waiting
    · exact undrained.modes frame member entry waiting named

-- The clock stands still, so the poke of a repayment can only take away from the shown debt.
theorem repaying_undrained {receiverAddress : Address} {entry : FlashLoanEntry} {totalSupply : Nat}
    {accrued rated funded : Reserve} {data : ReserveData} {env : Env} {pool after : LendingPool}
    (address : entry.lTokenAddress = (pool.reserves entry.asset).lTokenAddress)
    (apart : receiverAddress ≠ (pool.reserves entry.asset).lTokenAddress)
    (run : Repaying env pool receiverAddress entry totalSupply accrued data rated funded after) :
    Reserve.SameDebts (pool.reserves entry.asset) (after.reserves entry.asset) ∧
      (after.reserves entry.asset).lTokenAddress = (pool.reserves entry.asset).lTokenAddress ∧
      (after.reserves entry.asset).normalizedDebt env.timestamp ≤
        (pool.reserves entry.asset).normalizedDebt env.timestamp ∧
      (after.reserves entry.asset).availableLiquidity =
        (pool.reserves entry.asset).availableLiquidity + (entry.amount + entry.premium) := by
  have poked := (Reserve.updateState_poked run.accrue).income run.income
  obtain ⟨same, cash⟩ := poked.cash run.rate
  have fund := run.fund
  rw [address, ← same] at fund
  rw [← same] at apart
  obtain ⟨books, _, funds⟩ := Reserve.transferUnderlyingFrom_cash apart fund
  have accrue := Reserve.updateState_sameDebts run.accrue
  have rate := Reserve.updateInterestRates_sameDebts run.rate
  obtain ⟨_, _, index, state⟩ := Reserve.updateState_ok run.accrue
  obtain ⟨_, _, _, _, priced⟩ := Reserve.updateInterestRates_ok run.rate
  obtain ⟨_, _, _, cumulated⟩ := ReserveData.cumulateToLiquidityIndex_ok run.income
  have stored : (after.reserves entry.asset).normalizedDebt env.timestamp = index := by
    rw [run.result, setReserve_same, books.data, priced.result, cumulated, state.result]
    simp [ReserveData.normalizedDebt]
  rw [stored, run.result, setReserve_same]
  refine ⟨⟨?_, ?_⟩, ?_, ?_, ?_⟩
  · rw [books.stable, rate.stable, accrue.stable]
  · rw [books.floating, rate.floating, accrue.floating]
  · rw [books.data, same]
  · rw [state.floating]
    exact ReserveData.accruedVariableBorrowIndex_le env.timestamp_lt _
  · omega

theorem Undrained.settle {frame : Frame} {rest : List Frame} {entry : FlashLoanEntry}
    {pending : List FlashLoanEntry} {pool : LendingPool} (sound : world.FramesSound)
    (undrained : Undrained asset start now world)
    (run : Settled world frame rest entry pending pool next) : Undrained asset start now next := by
  obtain ⟨allowances, stable⟩ := undrained.stable
  have member : frame ∈ world.frames := by simp [run.stack]
  have waiting : entry ∈ frame.pending := by simp [run.queue]
  obtain ⟨_, address, apart⟩ := sound frame member entry waiting
  have before := undrained.cash
  rw [outstanding_cons run.stack, run.queue] at before
  have shape := run.result
  subst shape
  have modes : ∀ frame' ∈ { frame with pending } :: rest, ∀ entry' ∈ frame'.pending,
      entry'.asset = asset → entry'.mode = some 0 := by
    intro frame' member' entry' waiting'
    rcases List.mem_cons.1 member' with rfl | member'
    · exact undrained.modes frame member entry' (by
        rw [run.queue]
        exact List.mem_cons_of_mem _ waiting')
    · exact undrained.modes frame' (by simp [run.stack, member']) entry' waiting'
  by_cases same : entry.asset = asset
  · obtain ⟨rateMode, mode, entered, chosen, settled⟩ := settleFlashLoan_ok run.settle
    have zero := undrained.modes frame member entry waiting same
    rw [entered] at zero
    cases zero
    cases chosen
    rcases settled with ⟨_, _, _, _, _, _, repaid⟩ | ⟨borrows, _⟩
    · obtain ⟨debts, kept, view, cash⟩ := repaying_undrained address apart repaid
      rw [same] at debts kept view cash
      refine ⟨undrained.clock, kept.trans undrained.address, ⟨allowances, debts.stable.trans stable⟩,
        ?_, ?_, ?_, modes⟩
      · rw [debts.floating]
        exact undrained.floating
      · rw [undrained.clock] at view
        exact le_trans view undrained.view
      · rw [outstanding_cons rfl]
        simp only [LendingPool.outstanding, same, if_true] at before
        dsimp only
        omega
    · exact absurd rfl borrows
  · have untouched := settleFlashLoan_other (Ne.symm same) run.settle
    refine ⟨undrained.clock, ?_, ⟨allowances, ?_⟩, ?_, ?_, ?_, modes⟩
    · exact (congrArg (fun r => r.lTokenAddress) untouched).trans undrained.address
    · exact (congrArg Reserve.stableDebtToken untouched).trans stable
    · rw [untouched]
      exact undrained.floating
    · rw [untouched]
      exact undrained.view
    · rw [outstanding_cons rfl, untouched]
      simp only [LendingPool.outstanding, same, if_false, Nat.zero_add] at before
      exact before

-- With nothing out on loan the reserve is used no more than at the start, so the guard holds.
theorem Undrained.guarded {env : Env} {msgSender user : Address} {ratio : Nat}
    (undrained : Undrained asset start now world) (clock : env.timestamp = now)
    (used : ValidationLogic.usageRatio env start = .ok ratio)
    (below : ratio < REBALANCE_UP_USAGE_RATIO_THRESHOLD) (home : world.outstanding asset = 0) :
    world.step (.call msgSender (.rebalanceStableBorrowRate asset user)) ≠ .ok next := by
  intro taken
  obtain ⟨_, _, pool, executed, _⟩ := step_call taken
  obtain ⟨_, _, _, _, _, _, run⟩ := rebalanceStableBorrowRate_ok executed
  have valid := run.valid
  simp only [ValidationLogic.validateRebalanceStableBorrowRate, bind_eq_ok, require_eq_ok,
    exists_const] at valid
  obtain ⟨_, ratio', later, valid⟩ := valid
  have high : REBALANCE_UP_USAGE_RATIO_THRESHOLD ≤ ratio' := by
    split at valid
    · cases valid
    · simp only [bind_eq_ok, require_eq_ok] at valid
      obtain ⟨_, _, _, _, high, _⟩ := valid
      exact high
  have cash := undrained.cash
  rw [home, Nat.add_zero] at cash
  have debt := undrained.totalDebt
  rw [← clock] at debt
  have same : world.env.timestamp = env.timestamp := by rw [undrained.clock, clock]
  have low : ratio' ≤ ratio := Reserve.usageRatio_mono same debt cash used later
  omega

-- One case for each event; only a repaid flash loan moves cash, and it settles what it took.
theorem Undrained.step {event : Event} (registered : world.pool.Registered)
    (sound : world.FramesSound) (listed : start.lTokenAddress ≠ 0)
    (undrained : Undrained asset start now world) (leaves : event.Leaves asset)
    (unchanged : ¬event.Rebalances asset) (still : next.env.timestamp = now)
    (taken : world.step event = .ok next) : Undrained asset start now next := by
  cases event with
  | call msgSender made =>
      obtain ⟨_, _, pool, executed, rfl⟩ := step_call taken
      have idle : ∀ user, made ≠ .rebalanceStableBorrowRate asset user := by
        rintro user rfl
        exact unchanged ⟨_, _, rfl⟩
      exact undrained.rests (Call.execute_rests leaves idle executed) rfl rfl
  | admin =>
      obtain ⟨pool, administered, rfl⟩ := step_admin taken
      have here : (world.pool.reserves asset).lTokenAddress ≠ 0 := by rwa [undrained.address]
      obtain ⟨configuration, strategy, shape⟩ := administered_listed registered here administered
      refine ⟨undrained.clock, ?_, ?_, ?_, ?_, ?_, undrained.modes⟩
      all_goals simp only [withPool, shape]
      · exact undrained.address
      · exact undrained.stable
      · exact undrained.floating
      · exact undrained.view
      · exact undrained.cash
  | flashLoan =>
      obtain ⟨pool, pending, run⟩ := step_flashLoan taken
      exact undrained.flashLoan registered listed leaves run
  | executed =>
      obtain ⟨frame, rest, stack, _, rfl⟩ := step_executed taken
      refine ⟨undrained.clock, undrained.address, undrained.stable, undrained.floating,
        undrained.view, ?_, ?_⟩
      · have before := undrained.cash
        rw [outstanding_cons stack] at before
        rw [outstanding_cons rfl]
        exact before
      · intro frame' member
        rcases List.mem_cons.1 member with rfl | member
        · exact undrained.modes frame (by simp [stack])
        · exact undrained.modes frame' (by simp [stack, member])
  | settle =>
      obtain ⟨_, _, _, _, _, run⟩ := step_settle taken
      exact undrained.settle sound run
  | finish =>
      obtain ⟨frame, rest, stack, empty, rfl⟩ := step_finish taken
      refine ⟨undrained.clock, undrained.address, undrained.stable, undrained.floating,
        undrained.view, ?_, ?_⟩
      · have before := undrained.cash
        rw [outstanding_cons stack, empty, LendingPool.outstanding, Nat.zero_add] at before
        exact before
      · exact fun frame' member => undrained.modes frame' (by simp [stack, member])
  | ledger changed underlying =>
      obtain ⟨kept, rfl⟩ := step_ledger taken
      by_cases same : asset = changed
      · subst same
        refine ⟨undrained.clock, ?_, ?_, ?_, ?_, ?_, undrained.modes⟩
        all_goals simp only [withPool, setReserve_same]
        · exact undrained.address
        · exact undrained.stable
        · exact undrained.floating
        · exact undrained.view
        · exact le_trans undrained.cash (Nat.add_le_add_right kept _)
      · refine undrained.rests ?_ rfl rfl
        rw [withPool, setReserve_other same]
        exact .refl _
  | observe env =>
      obtain ⟨_, _, rfl⟩ := step_observe taken
      exact { undrained with clock := still }

theorem run_clock {events : List Event} {final : World}
    (ran : Runs.run World.step world events = .ok final) :
    world.env.timestamp ≤ final.env.timestamp := by
  have clock : ∀ (w : World) (event : Event) (w' : World),
      world.env.timestamp ≤ w.env.timestamp → World.step w event = .ok w' →
      world.env.timestamp ≤ w'.env.timestamp :=
    fun _ _ _ order taken => le_trans order (step_clock taken)
  exact Runs.run_invariant clock (le_refl _) ran

-- By induction on the transaction: it stays undrained, so the next rebalancing would fail too.
theorem Undrained.run {events : List Event} {final : World} {env : Env} {ratio : Nat}
    (registered : world.pool.Registered) (sound : world.FramesSound)
    (listed : start.lTokenAddress ≠ 0) (undrained : Undrained asset start now world)
    (clock : env.timestamp = now) (used : ValidationLogic.usageRatio env start = .ok ratio)
    (below : ratio < REBALANCE_UP_USAGE_RATIO_THRESHOLD)
    (leaves : ∀ event ∈ events, event.Leaves asset) (still : final.env.timestamp = now)
    (home : ∀ before event after middle, events = before ++ event :: after →
      Runs.run World.step world before = .ok middle → event.Rebalances asset →
        middle.outstanding asset = 0)
    (ran : Runs.run World.step world events = .ok final) :
    Undrained asset start now final ∧ ∀ event ∈ events, ¬event.Rebalances asset := by
  induction events generalizing world with
  | nil =>
      cases ran
      exact ⟨undrained, by simp⟩
  | cons event rest ih =>
      obtain ⟨middle, taken, later⟩ := Runs.run_cons_ok.1 ran
      have unchanged : ¬event.Rebalances asset := by
        intro rebalances
        have settled := home [] event rest world rfl rfl rebalances
        obtain ⟨msgSender, user, rfl⟩ := rebalances
        exact undrained.guarded clock used below settled taken
      have middleClock : middle.env.timestamp = now := by
        have first := step_clock taken
        have last := run_clock later
        have begun := undrained.clock
        omega
      have next := undrained.step registered sound listed (leaves event (by simp)) unchanged
        middleClock taken
      obtain ⟨done, none⟩ := ih (registered_step registered taken)
        (framesSound_step registered sound taken) next
        (fun event' member => leaves event' (List.mem_cons_of_mem _ member))
        (fun before event' after later' split reached =>
          home (event :: before) event' after later' (by rw [split, List.cons_append])
            (Runs.run_cons_ok.2 ⟨middle, taken, reached⟩))
        later
      exact ⟨done, List.forall_mem_cons.2 ⟨unchanged, none⟩⟩

theorem undrained_start (between : world.frames = []) :
    Undrained asset (world.pool.reserves asset) world.env.timestamp world where
  clock := rfl
  address := rfl
  stable := ⟨_, rfl⟩
  floating := rfl
  view := le_refl _
  cash := Nat.le_add_right _ _
  modes := by
    rw [between]
    exact fun frame member => absurd member (by simp)

/-- In a transaction that starts with a reserve below the threshold and otherwise leaves it alone,
nothing is rebalanced exactly when nothing is rebalanced while the asset is out on loan. -/
theorem Reachable.rebalances_guarded {events : List Event} {final : World} {ratio : Nat}
    (reached : world.Reachable) (between : world.frames = [])
    (listed : (world.pool.reserves asset).lTokenAddress ≠ 0)
    (used : ValidationLogic.usageRatio world.env (world.pool.reserves asset) = .ok ratio)
    (below : ratio < REBALANCE_UP_USAGE_RATIO_THRESHOLD)
    (leaves : ∀ event ∈ events, event.Leaves asset)
    (ran : Runs.run World.step world events = .ok final)
    (transaction : final.env.timestamp = world.env.timestamp) :
    ((∀ event ∈ events, ¬event.Rebalances asset) ∧
        (final.pool.reserves asset).stableDebtToken.usersStableRate =
          (world.pool.reserves asset).stableDebtToken.usersStableRate) ↔
      ∀ before event after middle, events = before ++ event :: after →
        Runs.run World.step world before = .ok middle → event.Rebalances asset →
          middle.outstanding asset = 0 := by
  constructor
  · intro guarded before event after middle split _ rebalances
    have member : event ∈ events := by simp [split]
    exact absurd rebalances (guarded.1 event member)
  · intro home
    obtain ⟨undrained, none⟩ := (undrained_start between).run reached.registered
      reached.framesSound listed rfl used below leaves transaction home ran
    exact ⟨none, undrained.usersStableRate⟩

-- A fifth of the deposits is lent out at a stable rate.
def lentOut : List Event :=
  Market.opening 10 Market.strategy ++ Market.opening 20 Market.strategy ++
    [.call 100 (.deposit 10 (100 * WAD) 100), .call 101 (.deposit 20 (100 * WAD) 101),
      .call 101 (.borrow 10 (20 * WAD) 1 101)]

-- Almost all the rest goes out for a moment; meanwhile the receiver makes one event happen.
def emptied (meanwhile : Event) : List Event :=
  .flashLoan 102 103 [10] [79 * WAD] [0] 102 :: meanwhile :: settlement 1

def hidden : Event := .call 103 (.rebalanceStableBorrowRate 10 101)

theorem emptied_leaves {meanwhile : Event} (leaves : meanwhile.Leaves 10) :
    ∀ event ∈ emptied meanwhile, event.Leaves 10 := by
  intro event member
  simp only [emptied, settlement, List.replicate, List.cons_append, List.nil_append, List.mem_cons,
    List.not_mem_nil, or_false] at member
  rcases member with rfl | rfl | rfl | rfl | rfl
  · simp [Event.Leaves, flashLoanRequests]
  · exact leaves
  all_goals exact trivial

theorem rebalances_guarded_emptied :
    ∃ world final : World, Runs.run World.step Market.start lentOut = .ok world ∧
      Runs.run World.step world (emptied (.call 103 (.transfer 10 100 0))) = .ok final ∧
      (final.pool.reserves 10).stableDebtToken.usersStableRate =
        (world.pool.reserves 10).stableDebtToken.usersStableRate := by
  have outcome : yields (Runs.run World.step Market.start lentOut) (fun world =>
      (world.frames.isEmpty && (world.pool.reserves 10).lTokenAddress ≠ 0) &&
        yields (usageRatio world.env (world.pool.reserves 10)) (fun ratio =>
          ratio < REBALANCE_UP_USAGE_RATIO_THRESHOLD &&
            yields (Runs.run World.step world (emptied (.call 103 (.transfer 10 100 0))))
              (fun final => final.env.timestamp = world.env.timestamp))) := by
    decide +kernel
  obtain ⟨world, opened, facts⟩ := yields_iff.1 outcome
  obtain ⟨start, later⟩ := (Bool.and_eq_true _ _).mp facts
  obtain ⟨quiet, listed⟩ := (Bool.and_eq_true _ _).mp start
  obtain ⟨ratio, used, later⟩ := yields_iff.1 later
  obtain ⟨below, later⟩ := (Bool.and_eq_true _ _).mp later
  obtain ⟨final, ran, clock⟩ := yields_iff.1 later
  have harmless : ∀ event ∈ emptied (.call 103 (.transfer 10 100 0)), ¬event.Rebalances 10 := by
    simp [emptied, settlement, Event.Rebalances]
  have leaves : Event.Leaves 10 (.call 103 (.transfer 10 100 0)) := trivial
  refine ⟨world, final, opened, ran, ?_⟩
  refine ((Reachable.rebalances_guarded (Market.reachable_of_run opened)
    (List.isEmpty_iff.1 quiet) (of_decide_eq_true listed) used (of_decide_eq_true below)
    (emptied_leaves leaves) ran (of_decide_eq_true clock)).2 ?_).2
  intro before event after middle split _ rebalances
  exact absurd rebalances (harmless event (by rw [split]; simp))

-- With the cash out on loan the reserve looks used up, though it never was.
theorem rebalanced_while_emptied :
    ¬∀ (world final : World) (events : List Event) (asset : Address) (before after : Nat),
      world.Reachable → world.frames = [] → final.frames = [] →
      (world.pool.reserves asset).lTokenAddress ≠ 0 →
      usageRatio world.env (world.pool.reserves asset) = .ok before →
      before < REBALANCE_UP_USAGE_RATIO_THRESHOLD →
      usageRatio final.env (final.pool.reserves asset) = .ok after →
      after < REBALANCE_UP_USAGE_RATIO_THRESHOLD →
      (∀ event ∈ events, event.Leaves asset) →
      Runs.run World.step world events = .ok final →
      final.env.timestamp = world.env.timestamp →
      (∀ event ∈ events, ¬event.Rebalances asset) ∧
        (final.pool.reserves asset).stableDebtToken.usersStableRate =
          (world.pool.reserves asset).stableDebtToken.usersStableRate := by
  intro every
  have outcome : yields (Runs.run World.step Market.start lentOut) (fun world =>
      (world.frames.isEmpty && (world.pool.reserves 10).lTokenAddress ≠ 0) &&
        yields (usageRatio world.env (world.pool.reserves 10)) (fun before =>
          before < REBALANCE_UP_USAGE_RATIO_THRESHOLD &&
            yields (Runs.run World.step world (emptied hidden)) (fun final =>
              (final.frames.isEmpty && final.env.timestamp = world.env.timestamp) &&
                yields (usageRatio final.env (final.pool.reserves 10)) (fun after =>
                  after < REBALANCE_UP_USAGE_RATIO_THRESHOLD &&
                    (final.pool.reserves 10).stableDebtToken.usersStableRate 101 ≠
                      (world.pool.reserves 10).stableDebtToken.usersStableRate 101)))) := by
    decide +kernel
  obtain ⟨world, opened, facts⟩ := yields_iff.1 outcome
  obtain ⟨start, later⟩ := (Bool.and_eq_true _ _).mp facts
  obtain ⟨quiet, listed⟩ := (Bool.and_eq_true _ _).mp start
  obtain ⟨before, used, later⟩ := yields_iff.1 later
  obtain ⟨below, later⟩ := (Bool.and_eq_true _ _).mp later
  obtain ⟨final, ran, later⟩ := yields_iff.1 later
  obtain ⟨ended, later⟩ := (Bool.and_eq_true _ _).mp later
  obtain ⟨done, clock⟩ := (Bool.and_eq_true _ _).mp ended
  obtain ⟨after, usedAfter, changed⟩ := yields_iff.1 later
  obtain ⟨belowAfter, moved⟩ := (Bool.and_eq_true _ _).mp changed
  have leaves : Event.Leaves 10 hidden := trivial
  have guarded := every world final (emptied hidden) 10 before after (Market.reachable_of_run opened)
    (List.isEmpty_iff.1 quiet) (List.isEmpty_iff.1 done) (of_decide_eq_true listed) used
    (of_decide_eq_true below) usedAfter (of_decide_eq_true belowAfter)
    (emptied_leaves leaves) ran (of_decide_eq_true clock)
  exact of_decide_eq_true moved (congrFun guarded.2 101)

end World

end PalmyProtocol
