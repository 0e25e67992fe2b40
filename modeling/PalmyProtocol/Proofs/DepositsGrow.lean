import PalmyProtocol.Proofs.Bystanders
import PalmyProtocol.System.SharePrices

set_option autoImplicit false

namespace PalmyProtocol

open Checked Rounding LendingPool Runs

namespace World

variable {world next : World} {asset user : Address}

def income (world : World) (asset : Address) : Nat :=
  (world.pool.reserves asset).normalizedIncome world.env.timestamp

theorem step_income {event : Event} (registered : world.pool.Registered)
    (listed : (world.pool.reserves asset).lTokenAddress ≠ 0)
    (taken : world.step event = .ok next) : world.income asset ≤ next.income asset := by
  have firm := step_firm registered listed taken
  have earned : (next.pool.reserves asset).normalizedIncome world.env.timestamp ≤
      next.income asset :=
    ReserveData.normalizedIncome_mono (step_clock taken) world.env.timestamp_lt
      next.env.timestamp_lt
  exact le_trans firm.income earned

structure Earning (start : World) (asset : Address) (world : World) : Prop where
  registered : world.pool.Registered
  listed : (world.pool.reserves asset).lTokenAddress ≠ 0
  grown : start.income asset ≤ world.income asset

theorem Earning.step {start : World} {event : Event} (earning : Earning start asset world)
    (taken : world.step event = .ok next) : Earning start asset next where
  registered := registered_step earning.registered taken
  listed := by
    rw [step_address earning.registered earning.listed taken]
    exact earning.listed
  grown := le_trans earning.grown (step_income earning.registered earning.listed taken)

/-- A deposit that no event of a run is about only grows: whatever the others do, and whatever the
administrators, the flash loans and the clock do, its owner is shown no less at the end. -/
theorem Reachable.deposits_grow (reached : world.Reachable) {events : List Event}
    (ran : run step world events = .ok next)
    (unnamed : .cell asset (.lTokens user) ∉ world.footprint events) {before later : Nat}
    (shown : (world.pool.reserves asset).lTokenBalanceOf world.env.timestamp user = .ok before)
    (shown' : (next.pool.reserves asset).lTokenBalanceOf next.env.timestamp user = .ok later) :
    before ≤ later := by
  obtain ⟨listed, rfl⟩ := Reserve.lTokenBalanceOf_ok shown
  obtain ⟨_, rfl⟩ := Reserve.lTokenBalanceOf_ok shown'
  have same : next.read (.cell asset (.lTokens user)) = world.read (.cell asset (.lTokens user)) :=
    reached.bystanders ran listed unnamed
  have earning : Earning world asset next :=
    run_invariant (fun _ _ _ earning taken => earning.step taken)
      ⟨reached.registered, listed, le_refl _⟩ ran
  change (next.pool.reserves asset).lToken.base.balances user = _ at same
  rw [same]
  exact divHalfUp_mono (Nat.mul_le_mul_left _ earning.grown) RAY

def busyYear : List Event :=
  [.call 101 (.deposit 10 (50 * WAD) 101), .call 101 (.borrow 10 (10 * WAD) 2 101),
    .observe (Market.env 31536001 Market.year_in_time),
    .flashLoan 102 103 [10] [5 * WAD] [0] 102, .executed, .settle, .finish,
    .admin 3 (.setReserveInterestRateStrategyAddress 10 (some Market.strategy)),
    .call 101 (.repay 10 (4 * WAD) 2 101)]

theorem deposits_grow_busyYear : ∃ world next before later,
    run step Market.start (Market.opening 10 Market.strategy ++
      [.call 100 (.deposit 10 (100 * WAD) 100)]) = .ok world ∧
      run step world busyYear = .ok next ∧
      (world.pool.reserves 10).lTokenBalanceOf world.env.timestamp 100 = .ok before ∧
      (next.pool.reserves 10).lTokenBalanceOf next.env.timestamp 100 = .ok later ∧
      before ≠ 0 ∧ before ≤ later := by
  have outcome : yields (run step Market.start (Market.opening 10 Market.strategy ++
      [.call 100 (.deposit 10 (100 * WAD) 100)])) (fun world =>
        .cell 10 (.lTokens 100) ∉ world.footprint busyYear ∧
          yields ((world.pool.reserves 10).lTokenBalanceOf world.env.timestamp 100)
            (fun before => before ≠ 0) ∧
          yields (run step world busyYear) (fun next =>
            yields ((next.pool.reserves 10).lTokenBalanceOf next.env.timestamp 100)
              (fun _ => true))) := by
    decide +kernel
  obtain ⟨world, opened, facts⟩ := yields_iff.1 outcome
  obtain ⟨unnamed, held, later⟩ := of_decide_eq_true facts
  obtain ⟨before, shown, nonzero⟩ := yields_iff.1 held
  obtain ⟨next, ran, viewed⟩ := yields_iff.1 later
  obtain ⟨later, shown', _⟩ := yields_iff.1 viewed
  exact ⟨world, next, before, later, opened, ran, shown, shown', of_decide_eq_true nonzero,
    Reachable.deposits_grow (Market.reachable_of_run opened) ran unnamed shown shown'⟩

end World

end PalmyProtocol
