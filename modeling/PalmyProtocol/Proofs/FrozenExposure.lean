import PalmyProtocol.System.DebtConsent
import PalmyProtocol.System.FrozenFlag
import PalmyProtocol.System.LTokenMoves

set_option autoImplicit false

namespace PalmyProtocol

open Checked Rounding LendingPool

namespace LendingPool

variable {env : Env} {pool after : LendingPool} {msgSender asset user onBehalfOf : Address}
variable {amount : Nat}

theorem deposit_frozen (frozen : (pool.reserves asset).configuration.getFrozen = true)
    (computed : pool.deposit env msgSender asset amount onBehalfOf = .ok after) : False := by
  obtain ⟨_, _, _, _, _, _, run⟩ := deposit_ok computed
  have valid := run.valid
  simp only [ValidationLogic.validateDeposit, bind_eq_ok, require_eq_ok, exists_const] at valid
  have thawed : (pool.reserves asset).configuration.getFrozen = false := valid.2.2
  rw [frozen] at thawed
  cases thawed

theorem executeBorrow_frozen {vars : ExecuteBorrowParams}
    (frozen : (pool.reserves vars.asset).configuration.getFrozen = true)
    (computed : pool.executeBorrow env vars = .ok after) : False := by
  obtain ⟨_, _, _, _, _, _, _, _, run⟩ := executeBorrow_ok computed
  have valid := run.valid
  simp only [ValidationLogic.validateBorrow, bind_eq_ok, require_eq_ok, exists_const] at valid
  have thawed : (pool.reserves vars.asset).configuration.getFrozen = false := valid.2.1
  rw [frozen] at thawed
  cases thawed

theorem swapBorrowRateMode_frozen {rateMode : Nat}
    (frozen : (pool.reserves asset).configuration.getFrozen = true)
    (computed : pool.swapBorrowRateMode env msgSender asset rateMode = .ok after) : False := by
  obtain ⟨_, _, _, _, _, _, _, _, _, run⟩ := swapBorrowRateMode_ok computed
  have valid := run.valid
  simp only [ValidationLogic.validateSwapRateMode, bind_eq_ok, require_eq_ok, exists_const] at valid
  have thawed : (pool.reserves asset).configuration.getFrozen = false := valid.2.1
  rw [frozen] at thawed
  cases thawed

end LendingPool

namespace Call

variable {env : Env} {pool after : LendingPool} {msgSender asset : Address}

def Exposes (asset : Address) (call : Call) : Prop :=
  (∃ amount onBehalfOf, call = deposit asset amount onBehalfOf) ∨
  (∃ amount rateMode onBehalfOf, call = borrow asset amount rateMode onBehalfOf) ∨
  ∃ rateMode, call = swapBorrowRateMode asset rateMode

theorem execute_frozen {call : Call}
    (frozen : (pool.reserves asset).configuration.getFrozen = true)
    (computed : call.execute env pool msgSender = .ok after) : ¬call.Exposes asset := by
  rintro (⟨_, _, rfl⟩ | ⟨_, _, _, rfl⟩ | ⟨_, rfl⟩)
  · exact deposit_frozen frozen computed
  · simp only [execute, LendingPool.borrow, bind_eq_ok] at computed
    obtain ⟨_, _, computed⟩ := computed
    exact executeBorrow_frozen frozen computed
  · exact swapBorrowRateMode_frozen frozen computed

theorem execute_frozen_debt {call : Call}
    (frozen : (pool.reserves asset).configuration.getFrozen = true)
    (computed : call.execute env pool msgSender = .ok after) (user : Address) :
    Reserve.NoNewDebt env user (pool.reserves asset) (after.reserves asset) := by
  have closed := execute_frozen frozen computed
  by_cases touched : asset ∈ call.assets
  · rcases execute_spares computed with ⟨_, _, _, _, rfl, _⟩ | ⟨_, _, _, _, _, rfl, rfl⟩ |
      ⟨_, _, _, _, _, rfl, rfl⟩ | spares
    · obtain rfl := List.mem_singleton.1 touched
      exact absurd (.inr (.inl ⟨_, _, _, rfl⟩)) closed
    · obtain rfl := List.mem_singleton.1 touched
      rw [setReserve_same]
      exact ⟨le_refl _, le_refl _, le_refl _⟩
    · obtain rfl := List.mem_singleton.1 touched
      rw [setReserve_same]
      exact ⟨le_refl _, le_refl _, le_refl _⟩
    · refine (spares user ?_ asset).toNoNewDebt
      rintro _ rateMode rfl
      obtain rfl := List.mem_singleton.1 touched
      exact absurd (.inr (.inr ⟨rateMode, rfl⟩)) closed
  · rw [execute_other touched computed]
    exact (Reserve.Spares.refl _).toNoNewDebt

def windsDown : Call → Bool
  | withdraw _ _ _ | repay _ _ _ _ | liquidationCall _ _ _ _ _ => true
  | _ => false

theorem execute_reconfigure {change : Address → ReserveConfigurationMap → ReserveConfigurationMap}
    (freezes : ∀ asset, FreezesOnly (change asset)) {call : Call} (down : call.windsDown = true) :
    call.execute env (pool.reconfigure change) msgSender =
      LendingPool.reconfigure change <$> call.execute env pool msgSender := by
  cases call with
  | withdraw =>
      simp only [execute, withdraw_reconfigure freezes, bind_map_left, map_bind, map_pure]
  | repay =>
      simp only [execute, repay_reconfigure freezes, bind_map_left, map_bind, map_pure]
  | liquidationCall => exact liquidationCall_reconfigure freezes env pool ..
  | _ => cases down

end Call

namespace LendingPool

def withFrozen (pool : LendingPool) (asset : Address) (flag : Bool) : LendingPool :=
  pool.setReserve asset { pool.reserves asset with
    configuration := (pool.reserves asset).configuration.setFrozen flag }

def freezing (asset : Address) (flag : Bool) (other : Address)
    (config : ReserveConfigurationMap) : ReserveConfigurationMap :=
  if other = asset then config.setFrozen flag else config

theorem freezing_freezes (asset : Address) (flag : Bool) (other : Address) :
    FreezesOnly (freezing asset flag other) := by
  intro config
  rw [freezing]
  split_ifs
  · exact ReserveConfigurationMap.rewrites_setFlag .frozen (by simp) (by decide)
  · exact .refl

theorem withFrozen_reconfigure (pool : LendingPool) (asset : Address) (flag : Bool) :
    pool.withFrozen asset flag = pool.reconfigure (freezing asset flag) := by
  simp only [withFrozen, setReserve, reconfigure, LendingPool.mk.injEq, true_and, and_true]
  funext other
  by_cases same : other = asset
  · subst same
    simp [Reserve.reconfigure, freezing]
  · simp [Reserve.reconfigure, freezing, same]

end LendingPool

namespace World

variable {start world next final : World} {asset : Address}

structure Contained (asset : Address) (world : World) (event : Event) (next : World) : Prop where
  closed : ∀ msgSender call, event = .call msgSender call → ¬call.Exposes asset
  lTokens : ∃ sender recipient sent received, received ≤ sent ∧
    Reserve.Moves (world.pool.reserves asset) (next.pool.reserves asset) sender recipient sent
      received
  debts : ∀ user stableDebt variableDebt stableDebt' variableDebt',
    (world.pool.reserves asset).getUserCurrentDebt world.env.timestamp user =
      .ok (stableDebt, variableDebt) →
    (next.pool.reserves asset).getUserCurrentDebt world.env.timestamp user =
      .ok (stableDebt', variableDebt') →
    stableDebt' ≤ stableDebt ∧ variableDebt' ≤ variableDebt

theorem step_frozen_debt {event : Event} (registered : world.pool.Registered)
    (listed : (world.pool.reserves asset).lTokenAddress ≠ 0)
    (frozen : (world.pool.reserves asset).configuration.getFrozen = true)
    (taken : world.step event = .ok next) (user : Address) :
    Reserve.NoNewDebt world.env user (world.pool.reserves asset) (next.pool.reserves asset) := by
  cases event with
  | call msgSender call =>
      obtain ⟨_, _, pool, executed, rfl⟩ := step_call taken
      exact Call.execute_frozen_debt frozen executed user
  | admin =>
      obtain ⟨pool, administered, rfl⟩ := step_admin taken
      obtain ⟨_, _, shape⟩ := administered_listed registered listed administered
      have same : (world.withPool pool).pool.reserves asset = pool.reserves asset := rfl
      rw [same, shape]
      exact ⟨le_refl _, le_refl _, le_refl _⟩
  | flashLoan =>
      obtain ⟨_, _, run⟩ := step_flashLoan taken
      rw [run.result]
      exact (openFlashLoan_spares run.opened asset).toNoNewDebt
  | executed =>
      obtain ⟨_, _, _, _, rfl⟩ := step_executed taken
      exact (Reserve.Spares.refl _).toNoNewDebt
  | settle =>
      obtain ⟨_, _, entry, _, pool, run⟩ := step_settle taken
      have settled : Reserve.NoNewDebt world.env user (world.pool.reserves asset)
          (pool.reserves asset) := by
        by_cases named : asset = entry.asset
        · subst named
          obtain ⟨_, _, _, _, ⟨_, _, _, _, _, _, paid⟩ | ⟨_, borrowed⟩⟩ :=
            settleFlashLoan_ok run.settle
          · exact (repaying_spares paid entry.asset).toNoNewDebt
          · exact absurd borrowed (executeBorrow_frozen frozen)
        · rw [settleFlashLoan_other named run.settle]
          exact (Reserve.Spares.refl _).toNoNewDebt
      rw [run.result]
      exact settled
  | finish =>
      obtain ⟨_, _, _, _, rfl⟩ := step_finish taken
      exact (Reserve.Spares.refl _).toNoNewDebt
  | @ledger other underlying =>
      obtain ⟨_, rfl⟩ := step_ledger taken
      have books : Reserve.SameBooks (world.pool.reserves other)
          { world.pool.reserves other with underlying } := ⟨rfl, rfl, rfl⟩
      exact (spares_setReserve books.spares asset).toNoNewDebt
  | observe =>
      obtain ⟨_, _, rfl⟩ := step_observe taken
      exact (Reserve.Spares.refl _).toNoNewDebt

theorem step_frozen {event : Event} (registered : world.pool.Registered)
    (listed : (world.pool.reserves asset).lTokenAddress ≠ 0)
    (frozen : (world.pool.reserves asset).configuration.getFrozen = true)
    (taken : world.step event = .ok next) : Contained asset world event next := by
  have closed : ∀ msgSender call, event = .call msgSender call → ¬call.Exposes asset := by
    rintro msgSender call rfl
    obtain ⟨_, _, _, executed, _⟩ := step_call taken
    exact Call.execute_frozen frozen executed
  refine ⟨closed, ?_, ?_⟩
  · rcases step_lTokens registered listed taken with
      ⟨msgSender, call, sender, recipient, sent, received, named, lTokens⟩ | quiet
    · refine ⟨sender, recipient, sent, received, ?_, lTokens.moves⟩
      by_contra more
      obtain ⟨amount, deposited⟩ := lTokens.deposit (Nat.lt_of_not_le more)
      exact closed msgSender call named (.inl ⟨amount, recipient, deposited⟩)
    · exact ⟨0, 0, 0, 0, le_refl 0, quiet.moves 0 0⟩
  · intro user _ _ _ _ before after
    have kept := step_frozen_debt registered listed frozen taken user
    obtain ⟨stable, floating⟩ := Reserve.getUserCurrentDebt_ok before
    obtain ⟨stable', floating'⟩ := Reserve.getUserCurrentDebt_ok after
    obtain ⟨_, rfl⟩ := Reserve.stableDebtBalanceOf_ok stable
    obtain ⟨_, rfl⟩ := Reserve.stableDebtBalanceOf_ok stable'
    obtain ⟨_, rfl⟩ := Reserve.variableDebtBalanceOf_ok floating
    obtain ⟨_, rfl⟩ := Reserve.variableDebtBalanceOf_ok floating'
    exact ⟨kept.stable, divHalfUp_mono (Nat.mul_le_mul kept.scaled kept.view) RAY⟩

/-- While a reserve stays frozen, nobody takes on new exposure to it, whatever is tried; and who
winds a position down is answered as if the flag were not there. -/
theorem Reachable.frozen_contained (reached : start.Reachable) {events : List Event}
    (listed : (start.pool.reserves asset).lTokenAddress ≠ 0)
    (ran : Runs.run step start events = .ok final)
    (frozen : ∀ before rest s, events = before ++ rest → Runs.run step start before = .ok s →
      (s.pool.reserves asset).configuration.getFrozen = true) :
    (∀ before event rest s next, events = before ++ event :: rest →
      Runs.run step start before = .ok s → s.step event = .ok next →
      Contained asset s event next) ∧
    (∀ user, (final.pool.reserves asset).variableDebtToken.scaledBalanceOf user ≤
      (start.pool.reserves asset).variableDebtToken.scaledBalanceOf user) ∧
    ∀ (env : Env) (pool : LendingPool) (msgSender : Address) (call : Call) (flag : Bool),
      call.windsDown = true →
      call.execute env (pool.withFrozen asset flag) msgSender =
        (fun after => after.withFrozen asset flag) <$> call.execute env pool msgSender := by
  have carried : ∀ s event next, s.pool.Registered ∧ (s.pool.reserves asset).lTokenAddress ≠ 0 →
      step s event = .ok next →
      next.pool.Registered ∧ (next.pool.reserves asset).lTokenAddress ≠ 0 := by
    intro s event next sound taken
    refine ⟨registered_step sound.1 taken, ?_⟩
    rw [step_address sound.1 sound.2 taken]
    exact sound.2
  refine ⟨?_, fun user => ?_, ?_⟩
  · intro before event rest s next split reached' taken
    have sound := Runs.run_invariant carried ⟨reached.registered, listed⟩ reached'
    exact step_frozen sound.1 sound.2 (frozen before (event :: rest) s split reached') taken
  · refine (Runs.run_invariant_of (fun s => (s.pool.Registered ∧
        (s.pool.reserves asset).lTokenAddress ≠ 0) ∧
        (s.pool.reserves asset).variableDebtToken.scaledBalanceOf user ≤
          (start.pool.reserves asset).variableDebtToken.scaledBalanceOf user)
      (fun s _ => (s.pool.reserves asset).configuration.getFrozen = true) ?_
      ⟨⟨reached.registered, listed⟩, le_refl _⟩
      (fun before event rest s split => frozen before (event :: rest) s split) ran).2
    intro s event next sound frozen' taken
    have kept := step_frozen_debt sound.1.1 sound.1.2 frozen' taken user
    exact ⟨carried s event next sound.1 taken, le_trans kept.scaled sound.2⟩
  · intro env pool msgSender call flag down
    simp only [withFrozen_reconfigure]
    exact Call.execute_reconfigure (freezing_freezes asset flag) down

def frosting : List Event :=
  Market.opening 10 Market.strategy ++ Market.opening 20 Market.strategy ++
    [.call 100 (.deposit 10 (100 * WAD) 100), .call 101 (.deposit 20 (100 * WAD) 101),
      .call 101 (.borrow 10 (15 * WAD) 2 101), .admin 3 (.freezeReserve 10)]

def thinning : List Event :=
  [.observe (Market.env 31536001 Market.year_in_time), .call 101 (.repay 10 WAD 2 101),
    .call 100 (.withdraw 10 WAD 100)]

theorem frozen_contained_thinning :
    ∃ start final : World, Runs.run step Market.start frosting = .ok start ∧
      Runs.run step start thinning = .ok final ∧
      (∀ before event rest s next, thinning = before ++ event :: rest →
        Runs.run step start before = .ok s → s.step event = .ok next →
        Contained 10 s event next) ∧
      (final.pool.reserves 10).variableDebtToken.scaledBalanceOf 101 ≤
        (start.pool.reserves 10).variableDebtToken.scaledBalanceOf 101 := by
  have outcome : yields (Runs.run step Market.start frosting) (fun start =>
      decide ((start.pool.reserves 10).lTokenAddress ≠ 0) &&
      yields (Runs.run step start thinning) (fun _ => true) &&
      thinning.inits.all (fun before => yields (Runs.run step start before)
        fun s => (s.pool.reserves 10).configuration.getFrozen)) := by
    decide +kernel
  obtain ⟨start, ran, facts⟩ := yields_iff.1 outcome
  obtain ⟨facts, watched⟩ := (Bool.and_eq_true _ _).mp facts
  obtain ⟨listed, later⟩ := (Bool.and_eq_true _ _).mp facts
  obtain ⟨final, ran', _⟩ := yields_iff.1 later
  have frozen : ∀ before rest s, thinning = before ++ rest → Runs.run step start before = .ok s →
      (s.pool.reserves 10).configuration.getFrozen = true := by
    intro before rest s split reached
    have early : before ∈ thinning.inits := (List.mem_inits _ _).2 ⟨rest, split.symm⟩
    obtain ⟨_, reached', flag⟩ := yields_iff.1 (List.all_eq_true.1 watched before early)
    rw [reached] at reached'
    cases reached'
    exact flag
  obtain ⟨contained, scaled, _⟩ := Reachable.frozen_contained (Market.reachable_of_run ran)
    (of_decide_eq_true listed) ran' frozen
  exact ⟨start, final, ran, ran', contained, scaled 101⟩

end World

end PalmyProtocol
