import PalmyProtocol.System.CashFlows

set_option autoImplicit false

namespace PalmyProtocol

open Checked LendingPool Runs

namespace World

variable {world next : World} {asset : Address}

structure Booked (asset : Address) (world : World) : Prop where
  registered : world.pool.Registered
  sound : world.FramesSound
  listed : (world.pool.reserves asset).lTokenAddress ≠ 0

theorem Booked.step {event : Event} (booked : Booked asset world)
    (taken : world.step event = .ok next) : Booked asset next where
  registered := registered_step booked.registered taken
  sound := framesSound_step booked.registered booked.sound taken
  listed := by
    rw [step_address booked.registered booked.listed taken]
    exact booked.listed

theorem settle_liquidity {frame : Frame} {rest : List Frame} {entry : FlashLoanEntry}
    {pending : List FlashLoanEntry} {pool : LendingPool} (sound : world.FramesSound)
    (run : Settled world frame rest entry pending pool next) :
    (next.liquidity asset : Int) =
      world.liquidity asset + ((world.settlePostings asset).map Posting.cash).sum := by
  have member : frame ∈ world.frames := by simp [run.stack]
  have waiting : entry ∈ frame.pending := by simp [run.queue]
  obtain ⟨_, address, apart⟩ := sound frame member entry waiting
  have out : world.outstanding asset = LendingPool.outstanding asset frame.pending +
      (rest.map fun frame => LendingPool.outstanding asset frame.pending).sum :=
    outstanding_cons run.stack
  rw [run.queue, LendingPool.outstanding] at out
  have shape := run.result
  subst shape
  rw [liquidity, liquidity, outstanding_cons rfl]
  simp only [settlePostings, run.stack, run.queue]
  by_cases same : entry.asset = asset
  · subst same
    rw [if_pos rfl] at out ⊢
    obtain ⟨rateMode, mode, entered, chosen, settled⟩ := settleFlashLoan_ok run.settle
    rcases settled with ⟨none, _, _, _, _, _, repaid⟩ | ⟨some, borrowed⟩
    · subst none
      rw [if_pos (by rw [entered, eq_zero_of_none chosen])]
      have cash := repaid.cash address apart
      rw [repaid.result, setReserve_same]
      simp only [List.map_cons, List.map_nil, List.sum_singleton, Posting.cash]
      omega
    · have mode_ne : entry.mode ≠ Option.some 0 := by
        rw [entered]
        rintro ⟨⟩
        cases chosen
        exact some rfl
      rw [if_neg mode_ne]
      obtain ⟨_, _, _, _, _, _, _, _, lent⟩ := executeBorrow_ok borrowed
      have cash := lent.cash fun releases => absurd releases Bool.false_ne_true
      rw [lent.result, setUserConfig_reserves, setReserve_same]
      simp only [List.map_cons, List.map_nil, List.sum_singleton, Posting.cash]
      simp only [Bool.false_eq_true, if_false, Nat.add_zero] at cash
      omega
  · rw [if_neg same, Nat.zero_add] at out
    rw [if_neg same, settleFlashLoan_other (Ne.symm same) run.settle]
    simp only [List.map_nil, List.sum_nil]
    omega

-- One case for each event: what it posts is what the cash and the loans change by.
theorem step_liquidity {event : Event} (booked : Booked asset world)
    (taken : world.step event = .ok next) :
    (next.liquidity asset : Int) =
      world.liquidity asset + ((postings asset world event next).map Posting.cash).sum := by
  have same : next.liquidity asset = world.liquidity asset →
      postings asset world event next = [] → (next.liquidity asset : Int) =
        world.liquidity asset + ((postings asset world event next).map Posting.cash).sum := by
    intro kept none
    rw [kept, none]
    simp
  cases event with
  | call msgSender made =>
      obtain ⟨_, outside, pool, executed, rfl⟩ := step_call taken
      have moved := call_cash booked.registered booked.listed outside executed
      simp only [liquidity, postings, withPool, outstanding]
      push_cast
      omega
  | admin =>
      obtain ⟨pool, administered, rfl⟩ := step_admin taken
      obtain ⟨_, _, shape⟩ := administered_listed booked.registered booked.listed administered
      refine same ?_ rfl
      simp only [liquidity, withPool, outstanding, shape]
      rfl
  | flashLoan =>
      obtain ⟨pool, pending, run⟩ := step_flashLoan taken
      have apart := booked.registered.apart run.receiver asset booked.listed
      obtain ⟨_, _, cash⟩ := openFlashLoan_reserve apart run.opened
      have shape := run.result
      subst shape
      refine same ?_ rfl
      rw [liquidity, liquidity, outstanding_cons rfl, ← cash, outstanding]
      dsimp only
      omega
  | executed =>
      obtain ⟨frame, rest, stack, _, rfl⟩ := step_executed taken
      refine same ?_ rfl
      rw [liquidity, liquidity, outstanding_cons stack, outstanding_cons rfl]
  | settle =>
      obtain ⟨_, _, _, _, _, run⟩ := step_settle taken
      exact settle_liquidity booked.sound run
  | finish =>
      obtain ⟨frame, rest, stack, empty, rfl⟩ := step_finish taken
      refine same ?_ rfl
      rw [liquidity, liquidity, outstanding_cons stack, empty, LendingPool.outstanding,
        Nat.zero_add, outstanding]
  | ledger changed underlying =>
      obtain ⟨kept, rfl⟩ := step_ledger taken
      by_cases named : changed = asset
      · subst named
        simp only [liquidity, postings, if_true, withPool, setReserve_same, outstanding,
          List.map_cons, List.map_nil, List.sum_singleton, Posting.cash]
        change ((underlying.balances (world.pool.reserves changed).lTokenAddress + _ : Nat) : Int) =
          _
        push_cast
        omega
      · refine same ?_ (if_neg named)
        simp only [liquidity, withPool, outstanding, setReserve_other (Ne.symm named)]
  | observe =>
      obtain ⟨_, _, rfl⟩ := step_observe taken
      exact same rfl rfl

/-- Over any run the cash of a reserve, with what flash loans have out of it, moves by what the
cash book says: deposits, repayments, premiums and gifts in, withdrawals, loans and seizures out,
and nothing else. -/
theorem Reachable.cash_accounted (reached : world.Reachable)
    (listed : (world.pool.reserves asset).lTokenAddress ≠ 0) {events : List Event}
    (ran : run step world events = .ok next) :
    (next.liquidity asset : Int) =
      world.liquidity asset + ((world.cashBook asset events).map Posting.cash).sum := by
  have booked : Booked asset world := ⟨reached.registered, reached.framesSound, listed⟩
  refine trace_sum (Booked asset) (fun _ => True) (fun world => (world.liquidity asset : Int))
    Posting.cash (fun _ _ _ booked taken => booked.step taken) ?_ booked (fun _ _ => trivial) ran
  intro world event next booked taken _
  exact step_liquidity booked taken

def busyDay : List Event :=
  [.call 100 (.deposit 10 (100 * WAD) 100), .call 101 (.deposit 10 (50 * WAD) 101),
    .call 101 (.borrow 10 (10 * WAD) 2 101), .flashLoan 102 103 [10] [5 * WAD] [0] 102, .executed,
    .settle, .finish, .call 101 (.repay 10 (4 * WAD) 2 101), .call 100 (.withdraw 10 (20 * WAD) 100)]

theorem cash_accounted_busy : ∃ world next,
    run step Market.start (Market.opening 10 Market.strategy) = .ok world ∧
      run step world busyDay = .ok next ∧ (world.cashBook 10 busyDay).length = 6 ∧
      (next.liquidity 10 : Int) =
        world.liquidity 10 + ((world.cashBook 10 busyDay).map Posting.cash).sum := by
  have opened : yields (run step Market.start (Market.opening 10 Market.strategy)) (fun world =>
      (world.pool.reserves 10).lTokenAddress ≠ 0 ∧
        yields (run step world busyDay) (fun _ => (world.cashBook 10 busyDay).length = 6)) := by
    decide +kernel
  obtain ⟨world, ran, facts⟩ := yields_iff.1 opened
  obtain ⟨listed, later⟩ := of_decide_eq_true facts
  obtain ⟨next, traded, posted⟩ := yields_iff.1 later
  exact ⟨world, next, ran, traded, of_decide_eq_true posted,
    Reachable.cash_accounted (Market.reachable_of_run ran) listed traded⟩

end World

end PalmyProtocol
