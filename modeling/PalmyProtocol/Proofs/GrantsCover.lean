import PalmyProtocol.Proofs.Bystanders

set_option autoImplicit false

namespace PalmyProtocol

open Checked Footprint LendingPool Runs

def Cell.IsGrant : Cell → Prop
  | allowance _ _ | stableDelegation _ _ | variableDelegation _ _ => True
  | _ => False

def Key.IsGrant : Key → Prop
  | .cell _ held => held.IsGrant
  | .config _ => False

def borrowDraw (asset : Address) (interestRateMode : Nat) (user onBehalfOf : Address) : List Key :=
  if user = onBehalfOf then []
  else if interestRateMode = 1 then [.cell asset (.stableDelegation onBehalfOf user)]
  else [.cell asset (.variableDelegation onBehalfOf user)]

namespace Call

def grants (msgSender : Address) : Call → List (Key × Nat)
  | approve asset spender amount => [(.cell asset (.allowance msgSender spender), amount)]
  | increaseAllowance asset spender addedValue =>
    [(.cell asset (.allowance msgSender spender), addedValue)]
  | approveStableDelegation asset delegatee amount =>
    [(.cell asset (.stableDelegation msgSender delegatee), amount)]
  | approveVariableDelegation asset delegatee amount =>
    [(.cell asset (.variableDelegation msgSender delegatee), amount)]
  | _ => []

def draws (msgSender : Address) : Call → List (Key × Nat)
  | transferFrom asset sender _ amount => [(.cell asset (.allowance sender msgSender), amount)]
  | borrow asset amount interestRateMode onBehalfOf =>
    (borrowDraw asset interestRateMode msgSender onBehalfOf).map (·, amount)
  | _ => []

end Call

def amountFor (key : Key) (entries : List (Key × Nat)) : Nat :=
  ((entries.filter fun entry => entry.1 = key).map Prod.snd).sum

@[simp]
theorem amountFor_nil (key : Key) : amountFor key [] = 0 := rfl

@[simp]
theorem amountFor_singleton (key named : Key) (amount : Nat) :
    amountFor key [(named, amount)] = if named = key then amount else 0 := by
  by_cases same : named = key <;> simp [amountFor, same]

def Covers (key : Key) (grants draws : List (Key × Nat)) (pool after : LendingPool) : Prop :=
  after.read key + amountFor key draws ≤ pool.read key + amountFor key grants

namespace Covers

variable {key : Key} {keys : List Key} {pool after : LendingPool}
  {grants draws : List (Key × Nat)}

theorem of_touchesOnly (touches : TouchesOnly keys pool after) (grant : key.IsGrant)
    (none : ∀ other ∈ keys, ¬other.IsGrant) : Covers key [] [] pool after := by
  have same := touches key trivial fun member => none key member grant
  rw [Covers, same]

theorem of_one (named : Key) (touches : TouchesOnly keys pool after) (grant : key.IsGrant)
    (only : ∀ other ∈ keys, other.IsGrant → other = named)
    (away : ∀ other, other ≠ named → amountFor other draws = 0)
    (covered : Covers named grants draws pool after) : Covers key grants draws pool after := by
  by_cases same : key = named
  · subst same
    exact covered
  · have untouched := touches key trivial fun member => same (only key member grant)
    rw [Covers, untouched, away key same]
    omega

end Covers

namespace LendingPool

variable {env : Env} {pool after : LendingPool} {msgSender asset owner spender : Address}
  {amount : Nat}

theorem updateAllowance_read {change : ERC20 → Result ERC20}
    (computed : pool.updateAllowance asset change = .ok after) :
    ∃ base, change (pool.reserves asset).lToken.base = .ok base ∧
      after.read (.cell asset (.allowance owner spender)) = base.allowances owner spender := by
  obtain ⟨_, base, changed, rfl⟩ := updateAllowance_ok computed
  refine ⟨base, changed, ?_⟩
  rw [read, setReserve_same]
  rfl

theorem delegation_spent {before later : DebtTokenBase.BorrowAllowances} {user onBehalfOf : Address}
    (other : user ≠ onBehalfOf)
    (consumed : DebtTokenBase.consumeDelegation before user onBehalfOf amount = .ok later) :
    later onBehalfOf user + amount = before onBehalfOf user := by
  rcases DebtTokenBase.consumeDelegation_ok consumed with ⟨own, _⟩ | ⟨_, enough, rfl⟩
  · exact absurd own other
  · rw [ERC20.setAllowance_same]
    omega

theorem executeBorrow_spends {vars : ExecuteBorrowParams} {key : Key}
    (drawn : key ∈ borrowDraw vars.asset vars.interestRateMode vars.user vars.onBehalfOf)
    (computed : pool.executeBorrow env vars = .ok after) :
    after.read key + vars.amount = pool.read key := by
  obtain ⟨_, accrued, minted, rated, released, mode, _, _, run⟩ := executeBorrow_ok computed
  have mint := run.mint
  have release := run.release
  have paid : Reserve.TouchesOnly [] rated released := by
    split_ifs at release
    · exact Reserve.transferUnderlyingTo_touchesOnly release
    · cases release
      exact .refl _ _
  have later := (Reserve.updateInterestRates_touchesOnly run.rate).append paid
  have earlier := Reserve.updateState_touchesOnly run.accrue
  by_cases own : vars.user = vars.onBehalfOf
  · simp [borrowDraw, own] at drawn
  simp only [stable_iff run.chosen] at mint
  by_cases stable : vars.interestRateMode = 1
  · rw [if_pos stable] at mint
    obtain rfl : key = _ := by simpa [borrowDraw, own, stable] using drawn
    obtain ⟨token, minting, rfl⟩ := Reserve.mintStableDebt_ok mint
    rw [read, run.result, setUserConfig_reserves, setReserve_same, later _ trivial (by simp), read,
      ← earlier (.stableDelegation vars.onBehalfOf vars.user) trivial (by simp)]
    exact delegation_spent own minting.delegation
  · rw [if_neg stable] at mint
    obtain rfl : key = _ := by simpa [borrowDraw, own, stable] using drawn
    obtain ⟨token, minting, rfl⟩ := Reserve.mintVariableDebt_ok mint
    rw [read, run.result, setUserConfig_reserves, setReserve_same, later _ trivial (by simp), read,
      ← earlier (.variableDelegation vars.onBehalfOf vars.user) trivial (by simp)]
    exact delegation_spent own minting.delegation

theorem borrowFootprint_grants {interestRateMode : Nat} {user onBehalfOf : Address} {key : Key}
    (member : key ∈ pool.borrowFootprint asset interestRateMode user onBehalfOf)
    (grant : key.IsGrant) : key ∈ borrowDraw asset interestRateMode user onBehalfOf := by
  rcases List.mem_cons.1 member with rfl | later
  · cases grant
  rcases List.mem_append.1 later with minted | flag
  · obtain ⟨cell, inside, rfl⟩ := List.mem_map.1 minted
    by_cases stable : interestRateMode = 1
    · rw [if_pos stable, Cell.stableMinted, List.mem_append] at inside
      rcases inside with position | delegated
      · simp only [Cell.stablePosition, List.mem_cons, List.not_mem_nil, or_false] at position
        rcases position with rfl | rfl | rfl <;> cases grant
      · split_ifs at delegated with own
        · cases delegated
        · obtain rfl := List.mem_singleton.1 delegated
          simp [borrowDraw, own, stable]
    · rw [if_neg stable, Cell.variableMinted, List.mem_cons] at inside
      rcases inside with rfl | delegated
      · cases grant
      · split_ifs at delegated with own
        · cases delegated
        · obtain rfl := List.mem_singleton.1 delegated
          simp [borrowDraw, own, stable]
  · obtain rfl := List.mem_singleton.1 flag
    cases grant

theorem borrowDraw_cases (asset : Address) (interestRateMode : Nat) (user onBehalfOf : Address) :
    borrowDraw asset interestRateMode user onBehalfOf = [] ∨
      ∃ named, borrowDraw asset interestRateMode user onBehalfOf = [named] := by
  rw [borrowDraw]
  split_ifs
  · exact .inl rfl
  · exact .inr ⟨_, rfl⟩
  · exact .inr ⟨_, rfl⟩

theorem borrow_covers {interestRateMode : Nat} {user onBehalfOf : Address} {key : Key}
    (grant : key.IsGrant)
    (touches : TouchesOnly (pool.borrowFootprint asset interestRateMode user onBehalfOf) pool after)
    (spent : ∀ key ∈ borrowDraw asset interestRateMode user onBehalfOf,
      after.read key + amount = pool.read key) :
    Covers key [] ((borrowDraw asset interestRateMode user onBehalfOf).map (·, amount)) pool
      after := by
  rcases borrowDraw_cases asset interestRateMode user onBehalfOf with none | ⟨named, one⟩
  · rw [none]
    refine .of_touchesOnly touches grant fun other member given => ?_
    have drawn := borrowFootprint_grants member given
    rw [none] at drawn
    cases drawn
  · rw [one] at spent ⊢
    refine .of_one named touches grant (fun other member given => ?_) (fun other different => ?_) ?_
    · have drawn := borrowFootprint_grants member given
      rw [one] at drawn
      exact List.mem_singleton.1 drawn
    · simp [Ne.symm different]
    · have covered := spent named (List.mem_singleton.2 rfl)
      simp only [Covers, List.map_cons, List.map_nil, amountFor_singleton, if_true]
      exact covered.le

end LendingPool

theorem Call.execute_covers {env : Env} {pool after : LendingPool} {msgSender : Address}
    {call : Call} {key : Key} (grant : key.IsGrant)
    (computed : call.execute env pool msgSender = .ok after) :
    Covers key (call.grants msgSender) (call.draws msgSender) pool after := by
  have touches := Call.execute_touchesOnly computed
  cases call with
  | borrow asset amount interestRateMode onBehalfOf =>
      simp only [execute, LendingPool.borrow, bind_eq_ok] at computed
      obtain ⟨_, _, computed⟩ := computed
      exact borrow_covers grant touches fun key drawn => executeBorrow_spends drawn computed
  | transferFrom asset sender recipient amount =>
      refine .of_one (.cell asset (.allowance sender msgSender)) touches grant ?_
        (fun other different => by simp [draws, Ne.symm different]) ?_
      · intro other member given
        simp only [footprint, List.mem_cons, List.not_mem_nil, or_false] at member
        rcases member with rfl | rfl | rfl | rfl | rfl
        any_goals cases given
        rfl
      · simp only [execute, LendingPool.transferFrom, bind_eq_ok] at computed
        obtain ⟨moved, transferred, allowed⟩ := computed
        obtain ⟨base, spent, allowance⟩ := updateAllowance_read allowed
        obtain ⟨enough, _, _, shape⟩ := ERC20.spendAllowance_ok spent
        have kept := moveLTokens_touchesOnly transferred (.cell asset (.allowance sender msgSender))
          trivial (by simp)
        rw [Covers, allowance, shape, ERC20.setAllowance_same, ← kept]
        simp only [draws, grants, amountFor_singleton, if_true, amountFor_nil]
        exact (Nat.sub_add_cancel enough).le
  | approve asset spender amount =>
      refine .of_one _ touches grant (fun _ member _ => List.mem_singleton.1 member)
        (fun _ _ => rfl) ?_
      simp only [execute, LendingPool.approve] at computed
      obtain ⟨base, approved, allowance⟩ := updateAllowance_read computed
      rw [Covers, allowance, ERC20.approve_allowance approved]
      simp [grants, draws]
  | increaseAllowance asset spender addedValue =>
      refine .of_one _ touches grant (fun _ member _ => List.mem_singleton.1 member)
        (fun _ _ => rfl) ?_
      simp only [execute, LendingPool.increaseAllowance] at computed
      obtain ⟨base, increased, allowance⟩ := updateAllowance_read computed
      simp only [ERC20.increaseAllowance, bind_eq_ok, SafeMath.add_eq_ok] at increased
      obtain ⟨_, ⟨_, rfl⟩, approved⟩ := increased
      rw [Covers, allowance, ERC20.approve_allowance approved]
      simp [grants, draws, LendingPool.read, Reserve.cell]
  | decreaseAllowance asset spender subtractedValue =>
      refine .of_one _ touches grant (fun _ member _ => List.mem_singleton.1 member)
        (fun _ _ => rfl) ?_
      simp only [execute, LendingPool.decreaseAllowance] at computed
      obtain ⟨base, decreased, allowance⟩ := updateAllowance_read computed
      simp only [ERC20.decreaseAllowance, bind_eq_ok, SafeMath.subOr_eq_ok] at decreased
      obtain ⟨_, ⟨_, rfl⟩, approved⟩ := decreased
      rw [Covers, allowance, ERC20.approve_allowance approved]
      exact Nat.sub_le _ _
  | approveStableDelegation asset delegatee amount =>
      refine .of_one _ touches grant (fun _ member _ => List.mem_singleton.1 member)
        (fun _ _ => rfl) ?_
      simp only [execute, LendingPool.approveStableDelegation, bind_eq_ok, pure_eq_ok] at computed
      obtain ⟨_, _, rfl⟩ := computed
      rw [Covers, LendingPool.read, setReserve_same]
      simp [grants, draws, Reserve.cell, DebtTokenBase.approveDelegation]
  | approveVariableDelegation asset delegatee amount =>
      refine .of_one _ touches grant (fun _ member _ => List.mem_singleton.1 member)
        (fun _ _ => rfl) ?_
      simp only [execute, LendingPool.approveVariableDelegation, bind_eq_ok, pure_eq_ok] at computed
      obtain ⟨_, _, rfl⟩ := computed
      rw [Covers, LendingPool.read, setReserve_same]
      simp [grants, draws, Reserve.cell, DebtTokenBase.approveDelegation]
  | repay _ _ rateMode =>
      refine .of_touchesOnly touches grant ?_
      rw [footprint]
      split_ifs <;> simp [treasuryKey, Cell.stablePosition, Key.IsGrant, Cell.IsGrant]
  | liquidationCall =>
      refine .of_touchesOnly touches grant ?_
      rw [footprint]
      split_ifs <;> simp [treasuryKey, Cell.stablePosition, Key.IsGrant, Cell.IsGrant]
  | _ =>
      refine .of_touchesOnly touches grant ?_
      simp [footprint, treasuryKey, Cell.stablePosition, Key.IsGrant, Cell.IsGrant]

namespace Event

def grants : Event → List (Key × Nat)
  | .call msgSender made => made.grants msgSender
  | _ => []

-- An entry that a flash loan turns into a debt of another is drawn like a loan.
def draws (world : World) : Event → List (Key × Nat)
  | .call msgSender made => made.draws msgSender
  | .settle =>
    match world.frames with
    | [] => []
    | frame :: _ =>
      match frame.pending with
      | [] => []
      | entry :: _ =>
        if entry.mode = some 0 then []
        else (borrowDraw entry.asset (entry.mode.getD 0) frame.msgSender frame.onBehalfOf).map
          (·, entry.amount)
  | _ => []

end Event

namespace World

variable {world next : World} {key : Key}

theorem settle_covers {frame : Frame} {rest : List Frame} {entry : FlashLoanEntry}
    {pending : List FlashLoanEntry} {pool : LendingPool} (grant : key.IsGrant)
    (run : Settled world frame rest entry pending pool next) :
    Covers key [] (Event.settle.draws world) world.pool next.pool := by
  have touches := settleFlashLoan_touchesOnly run.settle
  simp only [Event.draws, run.stack, run.queue]
  rw [run.result]
  obtain ⟨rateMode, mode, entered, chosen, settled⟩ := settleFlashLoan_ok run.settle
  by_cases repaid : entry.mode = some 0
  · rw [settleFootprint, if_pos repaid] at touches
    rw [if_pos repaid]
    exact .of_touchesOnly touches grant (by simp [treasuryKey, Key.IsGrant, Cell.IsGrant])
  · rw [settleFootprint, if_neg repaid] at touches
    rw [if_neg repaid]
    rcases settled with ⟨none, _⟩ | ⟨_, borrowed⟩
    · subst none
      exact absurd (by rw [entered, eq_zero_of_none chosen]) repaid
    · refine borrow_covers grant touches fun key drawn => ?_
      rw [entered] at drawn
      exact executeBorrow_spends drawn borrowed

theorem step_covers {event : Event} (registered : world.pool.Registered)
    (listed : key.Listed world.pool) (grant : key.IsGrant) (taken : world.step event = .ok next) :
    Covers key event.grants (event.draws world) world.pool next.pool := by
  have writes := step_writes registered taken
  cases event with
  | call =>
      obtain ⟨_, _, pool, executed, rfl⟩ := step_call taken
      exact Call.execute_covers grant executed
  | settle =>
      obtain ⟨_, _, _, _, _, run⟩ := step_settle taken
      exact settle_covers grant run
  | _ => exact (writes key listed List.not_mem_nil).le

def drawn (world : World) (key : Key) (events : List Event) : Nat :=
  cost World.step (fun world event => amountFor key (event.draws world)) world events

def granted (world : World) (key : Key) (events : List Event) : Nat :=
  cost World.step (fun _ event => amountFor key event.grants) world events

/-- Over any run, what a spender moves of an owner's lTokens, and what a delegatee borrows on a
delegator's behalf, is covered by what was granted before and in the run. -/
theorem Reachable.grants_cover (reached : world.Reachable) (listed : key.Listed world.pool)
    (grant : key.IsGrant) {events : List Event} (ran : run step world events = .ok next) :
    next.read key + world.drawn key events ≤ world.read key + world.granted key events := by
  have account := run_account (Continues world) (fun _ => True)
    (fun _ event => amountFor key event.grants)
    (fun world event => amountFor key (event.draws world)) (fun world => (world.read key : Int))
    (fun _ _ _ continues _ taken => continues.step taken) ?_
    ⟨reached.registered, fun _ listed => listed⟩ (fun _ _ => trivial) ran
  · rw [drawn, granted]
    exact_mod_cast account
  · intro later event after continues _ taken
    have covered := step_covers continues.1 (continues.2 key listed) grant taken
    change (after.pool.read key : Int) + _ ≤ later.pool.read key + _
    rw [Covers] at covered
    omega

def lending : List Event :=
  [.call 101 (.approve 10 104 (150 * WAD)),
    .call 101 (.approveVariableDelegation 10 104 (50 * WAD)),
    .call 104 (.transferFrom 10 101 105 (100 * WAD)), .call 104 (.borrow 10 (20 * WAD) 2 101)]

theorem grants_cover_lending : ∃ world next,
    run step Market.start (Market.opening 10 Market.strategy ++
      [.call 101 (.deposit 10 (200 * WAD) 101)]) = .ok world ∧
      run step world lending = .ok next ∧
      world.drawn (.cell 10 (.variableDelegation 101 104)) lending = 20 * WAD ∧
      next.read (.cell 10 (.allowance 101 104)) +
          world.drawn (.cell 10 (.allowance 101 104)) lending ≤
        world.read (.cell 10 (.allowance 101 104)) +
          world.granted (.cell 10 (.allowance 101 104)) lending := by
  have outcome : yields (run step Market.start (Market.opening 10 Market.strategy ++
      [.call 101 (.deposit 10 (200 * WAD) 101)])) (fun world =>
        (world.pool.reserves 10).lTokenAddress ≠ 0 ∧
          world.drawn (.cell 10 (.variableDelegation 101 104)) lending = 20 * WAD ∧
          yields (run step world lending) (fun _ => true)) := by
    decide +kernel
  obtain ⟨world, opened, facts⟩ := yields_iff.1 outcome
  obtain ⟨listed, drawn, later⟩ := of_decide_eq_true facts
  obtain ⟨next, ran, _⟩ := yields_iff.1 later
  have here : Key.Listed world.pool (.cell 10 (.allowance 101 104)) := listed
  exact ⟨world, next, opened, ran, drawn,
    Reachable.grants_cover (Market.reachable_of_run opened) here trivial ran⟩

end World

end PalmyProtocol
