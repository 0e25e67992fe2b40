import PalmyProtocol.Proofs.FactorChange
import PalmyProtocol.System.StateUpdates

set_option autoImplicit false

namespace PalmyProtocol

open Checked Rounding Runs

namespace Reserve

variable {reserve after : Reserve} {now total : Nat}

theorem updateState_standing (small : now < 2 ^ 40)
    (computed : reserve.updateState now = .ok after)
    (accrued : reserve.accruedInterest now = .ok total) :
    ∃ previousStable previousVariable, reserve.previousStableDebt = .ok previousStable ∧
      reserve.previousVariableDebt = .ok previousVariable ∧
      reserve.standingDebt = previousStable + previousVariable ∧
      after.standingDebt = reserve.standingDebt + total := by
  obtain ⟨lToken, liquidityIndex, variableBorrowIndex, run⟩ := updateState_ok computed
  obtain ⟨previousStable, currentStable, recomputed, supplied, held, balance⟩ :=
    accruedDebt_ok accrued
  have before := StableDebtToken.totalSupply_ok (previousStableDebt_ok recomputed)
  have standing : reserve.standingDebt = previousStable +
      divHalfUp (reserve.variableDebtToken.scaledTotalSupply * reserve.variableBorrowIndex) RAY := by
    rw [before]
    rfl
  refine ⟨previousStable, _, recomputed, held, standing, ?_⟩
  have later : after.standingDebt = currentStable +
      divHalfUp (reserve.variableDebtToken.scaledTotalSupply * variableBorrowIndex) RAY := by
    rw [StableDebtToken.totalSupply_ok supplied, run.result, standingDebt, uint40_of_lt small]
    rfl
  have index : variableBorrowIndex = reserve.accruedVariableBorrowIndex now
    reserve.variableDebtToken.scaledTotalSupply := run.floating
  rw [← index] at balance
  omega

end Reserve

-- A call of `updateState`: the reserve it finds, and the one that its operation leaves in the end.
structure StateUpdate where
  before : Reserve
  now : Nat
  closed : Reserve

namespace StateUpdate

variable (update : StateUpdate)

def accrued : Reserve :=
  match update.before.updateState update.now with
  | .ok accrued => accrued
  | .error _ => update.before

def totalDebtAccrued : Nat :=
  match update.before.accruedInterest update.now with
  | .ok total => total
  | .error _ => 0

def lent : Int := update.closed.standingDebt - update.accrued.standingDebt

def Taxes : Prop := update.before.configuration.getReserveFactor ≠ 0

instance : Decidable update.Taxes := inferInstanceAs (Decidable (_ ≠ _))

structure Charged : Prop where
  made : update.before.updateState update.now = .ok update.accrued
  closed_at : update.closed.lastUpdateTimestamp = update.now
  recomputed : update.Taxes → ∃ previousStable previousVariable,
    update.before.accruedInterest update.now = .ok update.totalDebtAccrued ∧
    update.before.previousStableDebt = .ok previousStable ∧
    update.before.previousVariableDebt = .ok previousVariable ∧
    update.accrued.standingDebt = previousStable + previousVariable + update.totalDebtAccrued
  bounded : update.before.configuration.getReserveFactor ≤ PERCENTAGE_FACTOR →
    ∀ amountToMint, percentMul update.totalDebtAccrued
      update.before.configuration.getReserveFactor = .ok amountToMint →
      amountToMint ≤ update.totalDebtAccrued

variable {update} {prior : StateUpdate}

theorem Charged.standing (charged : update.Charged) (small : update.now < 2 ^ 40)
    (taxes : update.Taxes) :
    update.accrued.standingDebt = update.before.standingDebt + update.totalDebtAccrued := by
  obtain ⟨_, _, interest, _⟩ := charged.recomputed taxes
  obtain ⟨_, _, _, _, _, grown⟩ := Reserve.updateState_standing small charged.made interest
  exact grown

-- What is taxed and what is lent make up what the operation does to the standing debt.
theorem Charged.moved (charged : update.Charged) (small : update.now < 2 ^ 40)
    (taxes : update.Taxes) : (update.totalDebtAccrued : Int) + update.lent =
      update.closed.standingDebt - update.before.standingDebt := by
  have grown := charged.standing small taxes
  rw [lent, grown]
  generalize update.before.standingDebt = before
  generalize update.totalDebtAccrued = total
  push_cast
  omega

structure Leaves (prior : StateUpdate) (reserve : Reserve) : Prop where
  debts : reserve.openDebts = prior.closed.openDebts
  stamp : prior.closed.lastUpdateTimestamp = prior.now
  index : prior.closed.variableBorrowIndex = prior.accrued.variableBorrowIndex

end StateUpdate

namespace World

variable {world next : World} {asset : Address}

def standingDebt (asset : Address) (world : World) : Nat := (world.pool.reserves asset).standingDebt

structure Opened (asset : Address) (world : World) : Prop where
  registered : world.pool.Registered
  unlisted : (world.pool.reserves asset).lTokenAddress = 0 → world.standingDebt asset = 0

theorem Opened.step {event : Event} (opened : world.Opened asset)
    (taken : world.step event = .ok next) : next.Opened asset := by
  refine ⟨registered_step opened.registered taken, fun vacant => ?_⟩
  have before : (world.pool.reserves asset).lTokenAddress = 0 := by
    by_contra listed
    rw [step_address opened.registered listed taken] at vacant
    exact listed vacant
  have unlisted : ∀ accrued, (world.pool.reserves asset).updateState world.env.timestamp ≠
      .ok accrued := fun accrued computed => opened.registered.updateState_listed computed before
  rcases step_turns asset opened.registered taken with turns | ⟨_, _, fresh⟩
  · generalize world.updated asset event = updated at turns
    cases turns with
    | rest same =>
        rw [standingDebt, Reserve.standingDebt_congr same]
        exact opened.unlisted before
    | once work | twice work => exact absurd work.accrue (unlisted _)
  · exact fresh

theorem Reachable.opened (reached : world.Reachable) : world.Opened asset := by
  refine Reachable.invariant (fun w => w.Opened asset) reached ?_
    (fun _ _ _ opened taken => opened.step taken)
  rintro s ⟨_, self, provider, ledgers, start⟩
  refine ⟨?_, fun _ => ?_⟩
  · rw [start]
    exact LendingPool.registered_initialized self provider ledgers
  · rw [standingDebt, start]
    simp [LendingPool.initialized, Reserve.unlisted, Reserve.standingDebt, StableDebtToken.supply,
      StableDebtToken.empty, VariableDebtToken.empty, ERC20.empty]

end World

end PalmyProtocol
