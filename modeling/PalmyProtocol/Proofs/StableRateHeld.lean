import PalmyProtocol.Proofs.Bystanders
import PalmyProtocol.System.FlagMoves

set_option autoImplicit false

namespace PalmyProtocol

open Checked Footprint LendingPool Runs

namespace Reserve

variable {reserve middle after : Reserve} {user : Address} {cells : List Cell}

def RateHeld (user : Address) (reserve after : Reserve) : Prop :=
  after.cell (.stableDebt user) ≠ 0 →
    reserve.cell (.stableDebt user) ≠ 0 ∧
      after.cell (.stableRate user) = reserve.cell (.stableRate user)

theorem RateHeld.trans (first : RateHeld user reserve middle)
    (second : RateHeld user middle after) : RateHeld user reserve after := by
  intro debt
  obtain ⟨debt', rate'⟩ := second debt
  obtain ⟨debt'', rate''⟩ := first debt'
  exact ⟨debt'', rate'.trans rate''⟩

theorem RateHeld.of_touchesOnly (touches : TouchesOnly cells reserve after)
    (debt : Cell.stableDebt user ∉ cells) (rate : Cell.stableRate user ∉ cells) :
    RateHeld user reserve after := by
  intro owed
  rw [touches _ trivial debt] at owed
  exact ⟨owed, touches _ trivial rate⟩

-- The rate of a position is forgotten with the last of its debt, and not before.
theorem burnStableDebt_rateHeld {now amount : Nat} {borrower : Address}
    (computed : reserve.burnStableDebt now borrower amount = .ok after) :
    RateHeld user reserve after := by
  by_cases same : user = borrower
  · subst same
    obtain ⟨token, burned, rfl⟩ := burnStableDebt_ok computed
    intro owed
    have left := burned.balances user
    rw [if_pos rfl] at left
    change token.base.balances user ≠ 0 at owed
    have partly : amount ≠ reserve.stableDebtToken.debt now user := by omega
    constructor
    · intro none
      have nothing := (reserve.debt_eq_zero_iff now user).2 none
      omega
    · change token.usersStableRate user = _
      rw [burned.usersStableRate, if_neg partly, Function.update_self]
      rfl
  · refine .of_touchesOnly (burnStableDebt_touchesOnly computed) ?_ ?_
    all_goals simp [Cell.stablePosition, same]

end Reserve

namespace LendingPool

variable {env : Env} {pool middle after : LendingPool} {msgSender asset user : Address}
  {keys : List Key}

def RateHeld (asset user : Address) (pool after : LendingPool) : Prop :=
  Reserve.RateHeld user (pool.reserves asset) (after.reserves asset)

theorem RateHeld.of_touchesOnly (touches : TouchesOnly keys pool after)
    (debt : Key.cell asset (.stableDebt user) ∉ keys)
    (rate : Key.cell asset (.stableRate user) ∉ keys) : RateHeld asset user pool after := by
  intro owed
  have debts := touches (.cell asset (.stableDebt user)) trivial debt
  have rates := touches (.cell asset (.stableRate user)) trivial rate
  simp only [read] at debts rates
  rw [debts] at owed
  exact ⟨owed, rates⟩

theorem repay_rateHeld {amount rateMode payback : Nat} {onBehalfOf : Address}
    (computed : pool.repay env msgSender asset amount rateMode onBehalfOf = .ok (after, payback)) :
    RateHeld asset user pool after := by
  obtain ⟨_, _, _, accrued, burned, _, _, _, _, run⟩ := repay_ok computed
  have burn := run.burn
  have debt : Reserve.RateHeld user accrued burned := by
    split_ifs at burn
    · exact Reserve.burnStableDebt_rateHeld burn
    · exact .of_touchesOnly (Reserve.burnVariableDebt_touchesOnly burn) (by simp) (by simp)
  have reserve : Reserve.RateHeld user _ _ := (((Reserve.RateHeld.of_touchesOnly
    (Reserve.updateState_touchesOnly run.accrue) (by simp) (by simp)).trans debt).trans
    (.of_touchesOnly (Reserve.updateInterestRates_touchesOnly run.rate) (by simp) (by simp))).trans
    (.of_touchesOnly (Reserve.transferUnderlyingFrom_touchesOnly run.fund) (by simp) (by simp))
  rw [RateHeld, run.result, setUserConfig_reserves, setReserve_same]
  exact reserve

theorem swapBorrowRateMode_rateHeld
    (computed : pool.swapBorrowRateMode env msgSender asset 1 = .ok after) :
    RateHeld asset user pool after := by
  obtain ⟨mode, _, _, accrued, burned, minted, rated, _, chosen, run⟩ :=
    swapBorrowRateMode_ok computed
  obtain rfl : mode = .STABLE := (stable_iff chosen).2 rfl
  have burn := run.burn
  have mint := run.mint
  rw [if_pos rfl] at burn mint
  have reserve : Reserve.RateHeld user _ _ := (((Reserve.RateHeld.of_touchesOnly
    (Reserve.updateState_touchesOnly run.accrue) (by simp) (by simp)).trans
    (Reserve.burnStableDebt_rateHeld burn)).trans
    (.of_touchesOnly (Reserve.mintVariableDebt_touchesOnly mint) (by simp [Cell.variableMinted])
      (by simp [Cell.variableMinted]))).trans
    (.of_touchesOnly (Reserve.updateInterestRates_touchesOnly run.rate) (by simp) (by simp))
  rw [RateHeld, run.result, setReserve_same]
  exact reserve

theorem RateHeld.trans (first : RateHeld asset user pool middle)
    (second : RateHeld asset user middle after) : RateHeld asset user pool after :=
  Reserve.RateHeld.trans first second

open LendingPoolCollateralManager in
theorem repayDebt_rateHeld {debtAsset borrower : Address} {actual userVariableDebt : Nat}
    (computed : repayDebt env pool debtAsset borrower actual userVariableDebt = .ok after) :
    RateHeld asset user pool after := by
  by_cases same : asset = debtAsset
  · subst same
    obtain ⟨accrued, burned, _, run⟩ := repayDebt_ok computed
    have debt : Reserve.RateHeld user accrued burned := by
      rcases burnDebt_ok run.burn with ⟨_, burn⟩ | ⟨_, floating, first, second⟩
      · exact .of_touchesOnly (Reserve.burnVariableDebt_touchesOnly burn) (by simp) (by simp)
      · have floats : Reserve.RateHeld user accrued floating := by
          split_ifs at first
          · exact .of_touchesOnly (Reserve.burnVariableDebt_touchesOnly first) (by simp) (by simp)
          · cases first
            exact .of_touchesOnly (.refl [] _) (by simp) (by simp)
        exact floats.trans (Reserve.burnStableDebt_rateHeld second)
    have reserve : Reserve.RateHeld user _ _ := ((Reserve.RateHeld.of_touchesOnly
      (Reserve.updateState_touchesOnly run.accrue) (by simp) (by simp)).trans debt).trans
      (.of_touchesOnly (Reserve.updateInterestRates_touchesOnly run.rate) (by simp) (by simp))
    rw [RateHeld, run.result, setReserve_same]
    exact reserve
  · refine .of_touchesOnly (repayDebt_touchesOnly computed) ?_ ?_
    all_goals simp [treasuryKey, Ne.symm same]

open LendingPoolCollateralManager in
theorem liquidationCall_rateHeld {collateralAsset debtAsset borrower : Address} {debtToCover : Nat}
    {receiveLToken : Bool}
    (computed : pool.liquidationCall env msgSender collateralAsset debtAsset borrower debtToCover
      receiveLToken = .ok after) : RateHeld asset user pool after := by
  obtain ⟨_, _, _, _, _, _, _, run⟩ := LendingPool.liquidationCall_ok computed
  obtain ⟨repaid, seized, config, funded, exec⟩ := executeLiquidation_ok run.execute
  have fund : TouchesOnly ([].map (.cell debtAsset)) (seized.setUserConfig borrower config)
      after := by
    rw [exec.result]
    exact touches_setReserve (Reserve.transferUnderlyingFrom_touchesOnly exec.fund)
  have rest := ((seize_touchesOnly exec.seize).append (touches_setUserConfig config)).append fund
  refine (repayDebt_rateHeld exec.repay).trans (.of_touchesOnly rest ?_ ?_)
  all_goals split_ifs <;> simp [treasuryKey]

variable {onBehalfOf : Address}

def borrowRepriced (asset : Address) (interestRateMode : Nat) (onBehalfOf : Address) :
    List (Address × Address) :=
  if interestRateMode = 1 then [(asset, onBehalfOf)] else []

theorem borrow_rateHeld {named : Address} {interestRateMode : Nat}
    (unnamed : (asset, user) ∉ borrowRepriced named interestRateMode onBehalfOf)
    (touches : TouchesOnly (pool.borrowFootprint named interestRateMode msgSender onBehalfOf) pool
      after) : RateHeld asset user pool after := by
  have apart : ∀ cell, cell = .stableDebt user ∨ cell = .stableRate user →
      .cell asset cell ∉ pool.borrowFootprint named interestRateMode msgSender onBehalfOf := by
    rintro cell stable member
    apply unnamed
    rcases stable with rfl | rfl
    all_goals
      by_cases loan : interestRateMode = 1
      · simpa [borrowFootprint, borrowRepriced, treasuryKey, loan, Cell.stableMinted,
          Cell.stablePosition, eq_comm, and_comm] using member
      · simp [borrowFootprint, treasuryKey, loan, Cell.variableMinted] at member
  exact .of_touchesOnly touches (apart _ (.inl rfl)) (apart _ (.inr rfl))

end LendingPool

def Call.repriced (msgSender : Address) : Call → List (Address × Address)
  | borrow asset _ interestRateMode onBehalfOf => borrowRepriced asset interestRateMode onBehalfOf
  | swapBorrowRateMode asset rateMode => if rateMode = 1 then [] else [(asset, msgSender)]
  | rebalanceStableBorrowRate asset user => [(asset, user)]
  | _ => []

theorem Call.execute_rateHeld {env : Env} {pool after : LendingPool}
    {msgSender asset user : Address} {call : Call}
    (unnamed : (asset, user) ∉ call.repriced msgSender)
    (computed : call.execute env pool msgSender = .ok after) : RateHeld asset user pool after := by
  have touches := Call.execute_touchesOnly computed
  cases call with
  | repay named =>
      simp only [execute, bind_eq_ok, Prod.exists, pure_eq_ok] at computed
      obtain ⟨_, _, computed, rfl⟩ := computed
      by_cases same : named = asset
      · subst same
        exact repay_rateHeld computed
      · refine .of_touchesOnly touches ?_ ?_
        all_goals simp [footprint, treasuryKey, same]
  | liquidationCall => exact liquidationCall_rateHeld computed
  | borrow => exact borrow_rateHeld unnamed touches
  | swapBorrowRateMode named rateMode =>
      by_cases same : named = asset
      · subst same
        by_cases stable : rateMode = 1
        · subst stable
          exact swapBorrowRateMode_rateHeld computed
        · have other : user ≠ msgSender := by simpa [repriced, stable] using unnamed
          refine .of_touchesOnly touches ?_ ?_
          all_goals simp [footprint, treasuryKey, Cell.stablePosition, other]
      · refine .of_touchesOnly touches ?_ ?_
        all_goals simp [footprint, treasuryKey, same]
  | rebalanceStableBorrowRate named rebalanced =>
      refine .of_touchesOnly touches ?_ ?_
      all_goals
        intro member
        apply unnamed
        simpa [footprint, treasuryKey, Cell.stablePosition, repriced, eq_comm, and_comm]
          using member
  | _ =>
      refine .of_touchesOnly touches ?_ ?_
      all_goals simp [footprint, treasuryKey]

def Event.repriced (world : World) : Event → List (Address × Address)
  | .call msgSender made => made.repriced msgSender
  | .settle =>
    match world.frames with
    | [] => []
    | frame :: _ =>
      match frame.pending with
      | [] => []
      | entry :: _ => borrowRepriced entry.asset (entry.mode.getD 0) frame.onBehalfOf
  | _ => []

namespace World

variable {world next : World} {asset user : Address}

-- A position is two keys, and what is not a call writes neither.
theorem rateHeld_of_writes {keys : List Key}
    (writes : Writes World.read (Key.Listed world.pool) keys world next)
    (listed : (world.pool.reserves asset).lTokenAddress ≠ 0)
    (debt : Key.cell asset (.stableDebt user) ∉ keys)
    (rate : Key.cell asset (.stableRate user) ∉ keys) :
    LendingPool.RateHeld asset user world.pool next.pool := by
  intro owed
  have debts := writes (.cell asset (.stableDebt user)) listed debt
  have rates := writes (.cell asset (.stableRate user)) listed rate
  simp only [read, LendingPool.read] at debts rates
  rw [debts] at owed
  exact ⟨owed, rates⟩

theorem step_rateHeld {event : Event} (registered : world.pool.Registered)
    (listed : (world.pool.reserves asset).lTokenAddress ≠ 0)
    (unnamed : (asset, user) ∉ event.repriced world) (taken : world.step event = .ok next) :
    LendingPool.RateHeld asset user world.pool next.pool := by
  have writes := step_writes registered taken
  cases event with
  | call =>
      obtain ⟨_, _, pool, executed, rfl⟩ := step_call taken
      exact Call.execute_rateHeld unnamed executed
  | settle =>
      obtain ⟨frame, rest, entry, pending, pool, run⟩ := step_settle taken
      simp only [Event.repriced, run.stack, run.queue] at unnamed
      have touches := settleFlashLoan_touchesOnly run.settle
      rw [run.result]
      by_cases repaid : entry.mode = some 0
      · rw [settleFootprint, if_pos repaid] at touches
        exact .of_touchesOnly touches (by simp [treasuryKey]) (by simp [treasuryKey])
      · rw [settleFootprint, if_neg repaid] at touches
        exact borrow_rateHeld unnamed touches
  | _ => exact rateHeld_of_writes writes listed List.not_mem_nil List.not_mem_nil

def repriced (world : World) (events : List Event) : List (Address × Address) :=
  trace World.step (fun world event _ => event.repriced world) world events

/-- A stable rate is a promise: whatever others do, and whatever of the debt is repaid, liquidated
or swapped away, a position that is open in the end was open in the beginning, at the same rate,
unless a loan or a swap went on top of it, or somebody rebalanced it. -/
theorem Reachable.stable_rate_promise (reached : world.Reachable)
    (listed : (world.pool.reserves asset).lTokenAddress ≠ 0) {events : List Event}
    (ran : run step world events = .ok next) (unnamed : (asset, user) ∉ world.repriced events)
    (owed : (next.pool.reserves asset).stableDebtToken.principalBalanceOf user ≠ 0) :
    (world.pool.reserves asset).stableDebtToken.principalBalanceOf user ≠ 0 ∧
      (next.pool.reserves asset).stableDebtToken.usersStableRate user =
        (world.pool.reserves asset).stableDebtToken.usersStableRate user := by
  have held := run_relates
    (fun later => later.pool.Registered ∧ (later.pool.reserves asset).lTokenAddress ≠ 0)
    (fun (key : Address × Address) world next => key.1 = asset →
      LendingPool.RateHeld asset key.2 world.pool next.pool)
    (fun _ _ _ owed => ⟨owed, rfl⟩) ?_ ?_ ?_ ⟨reached.registered, listed⟩ ran unnamed rfl
  · exact held owed
  · intro key before later after first second here
    exact (first here).trans (second here)
  · rintro later event after ⟨registered, here⟩ taken
    refine ⟨registered_step registered taken, ?_⟩
    rw [step_address registered here taken]
    exact here
  · rintro ⟨_, borrower⟩ later event after ⟨registered, here⟩ taken elsewhere rfl
    exact step_rateHeld registered here elsewhere taken

def stableLoan : List Event :=
  Market.opening 10 Market.strategy ++ Market.opening 20 Market.strategy ++
    [.call 100 (.deposit 10 (100 * WAD) 100), .call 101 (.deposit 20 (100 * WAD) 101),
      .call 101 (.borrow 10 (10 * WAD) 1 101)]

def stableYear : List Event :=
  [.call 102 (.deposit 10 (50 * WAD) 102), .observe (Market.env 31536001 Market.year_in_time),
    .call 101 (.repay 10 (5 * WAD) 1 101), .call 100 (.withdraw 10 (50 * WAD) 100),
    .call 101 (.borrow 10 (5 * WAD) 2 101)]

theorem stable_rate_promise_year : ∃ world next, run step Market.start stableLoan = .ok world ∧
    run step world stableYear = .ok next ∧
    (world.pool.reserves 10).stableDebtToken.principalBalanceOf 101 ≠ 0 ∧
    (next.pool.reserves 10).stableDebtToken.usersStableRate 101 =
      (world.pool.reserves 10).stableDebtToken.usersStableRate 101 := by
  have outcome : yields (run step Market.start stableLoan) (fun world =>
      (world.pool.reserves 10).lTokenAddress ≠ 0 ∧ (10, 101) ∉ world.repriced stableYear ∧
        yields (run step world stableYear) (fun next =>
          (next.pool.reserves 10).stableDebtToken.principalBalanceOf 101 ≠ 0)) := by
    decide +kernel
  obtain ⟨world, opened, facts⟩ := yields_iff.1 outcome
  obtain ⟨listed, unnamed, later⟩ := of_decide_eq_true facts
  obtain ⟨next, ran, owed⟩ := yields_iff.1 later
  exact ⟨world, next, opened, ran,
    Reachable.stable_rate_promise (Market.reachable_of_run opened) listed ran unnamed
      (of_decide_eq_true owed)⟩

end World

end PalmyProtocol
