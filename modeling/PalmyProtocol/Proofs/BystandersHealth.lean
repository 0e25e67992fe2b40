import PalmyProtocol.Proofs.Bystanders
import PalmyProtocol.System.SharePrices

set_option autoImplicit false

namespace PalmyProtocol

open Checked Rounding LendingPool GenericLogic Runs Finset

def Cell.ofAccount (user : Address) : List Cell :=
  lTokens user :: variableDebt user :: stablePosition user

def Key.About (user : Address) : Key → Prop
  | .cell _ entry => entry ∈ Cell.ofAccount user
  | .config owner => owner = user

instance (user : Address) : DecidablePred (Key.About user)
  | .cell _ entry => inferInstanceAs (Decidable (entry ∈ Cell.ofAccount user))
  | .config owner => inferInstanceAs (Decidable (owner = user))

def Event.still : Event → Bool
  | .admin _ _ | .observe _ => false
  | _ => true

namespace LendingPool

structure SameSettings (pool after : LendingPool) : Prop where
  list : after.reservesList = pool.reservesList
  count : after.reservesCount = pool.reservesCount
  configuration : ∀ a, (after.reserves a).configuration = (pool.reserves a).configuration

variable {env : Env} {pool middle after : LendingPool}

theorem SameSettings.refl (pool : LendingPool) : SameSettings pool pool :=
  ⟨rfl, rfl, fun _ => rfl⟩

theorem SameSettings.trans (first : SameSettings pool middle) (second : SameSettings middle after) :
    SameSettings pool after where
  list := second.list.trans first.list
  count := second.count.trans first.count
  configuration a := (second.configuration a).trans (first.configuration a)

theorem Operates.sameSettings (operates : Operates env pool after) : SameSettings pool after where
  list := operates.registry.reservesList
  count := operates.registry.reservesCount
  configuration a := (operates.operations a).settings.configuration

end LendingPool

namespace World

variable {world next : World} {user : Address}

theorem step_still {event : Event} (still : event.still = true)
    (taken : world.step event = .ok next) :
    next.env = world.env ∧ SameSettings world.pool next.pool := by
  cases event with
  | call =>
      obtain ⟨_, _, _, executed, rfl⟩ := step_call taken
      exact ⟨rfl, (Call.execute_operates executed).sameSettings⟩
  | flashLoan =>
      obtain ⟨_, _, run⟩ := step_flashLoan taken
      have opened : Operates world.env _ _ := openFlashLoan_operates run.opened
      rw [run.result]
      exact ⟨rfl, opened.sameSettings⟩
  | executed =>
      obtain ⟨_, _, _, _, rfl⟩ := step_executed taken
      exact ⟨rfl, .refl _⟩
  | settle =>
      obtain ⟨_, _, _, _, _, run⟩ := step_settle taken
      rw [run.result]
      exact ⟨rfl, (settleFlashLoan_operates run.settle).sameSettings⟩
  | finish =>
      obtain ⟨_, _, _, _, rfl⟩ := step_finish taken
      exact ⟨rfl, .refl _⟩
  | ledger asset underlying =>
      obtain ⟨_, rfl⟩ := step_ledger taken
      refine ⟨rfl, rfl, rfl, fun a => ?_⟩
      by_cases same : a = asset
      · subst same
        rw [withPool, setReserve_same]
      · rw [withPool, setReserve_other same]
  | admin | observe => cases still

structure SameMoment (start world : World) : Prop where
  env : world.env = start.env
  registered : world.pool.Registered
  settings : SameSettings start.pool world.pool
  firm : ∀ a, (start.pool.reserves a).lTokenAddress ≠ 0 →
    (world.pool.reserves a).lTokenAddress ≠ 0 ∧
      Reserve.Firm start.env (start.pool.reserves a) (world.pool.reserves a)

theorem SameMoment.step {start : World} {event : Event} (moment : SameMoment start world)
    (still : event.still = true) (taken : world.step event = .ok next) : SameMoment start next := by
  obtain ⟨env, settings⟩ := step_still still taken
  refine ⟨env.trans moment.env, registered_step moment.registered taken,
    moment.settings.trans settings, fun a listed => ?_⟩
  obtain ⟨there, firm⟩ := moment.firm a listed
  have later := step_firm moment.registered there taken
  rw [moment.env] at later
  rw [step_address moment.registered there taken]
  exact ⟨there, firm.trans later⟩

end World

namespace LendingPool

variable {env : Env} {pool after : LendingPool} {user asset : Address}

structure SameAccount (user : Address) (pool after : LendingPool) : Prop where
  config : after.usersConfig user = pool.usersConfig user
  cells : ∀ a, (pool.reserves a).lTokenAddress ≠ 0 →
    ∀ entry ∈ Cell.ofAccount user, (after.reserves a).cell entry = (pool.reserves a).cell entry

theorem collateralInETH_firm (settings : SameSettings pool after)
    (account : SameAccount user pool after) (listed : (pool.reserves asset).lTokenAddress ≠ 0)
    (firm : Reserve.Firm env (pool.reserves asset) (after.reserves asset)) :
    collateralInETH env pool user asset ≤ collateralInETH env after user asset := by
  have held : (after.reserves asset).lToken.base.balances user =
      (pool.reserves asset).lToken.base.balances user :=
    account.cells asset listed (.lTokens user) (by simp [Cell.ofAccount])
  rw [collateralInETH, collateralInETH, Reserve.unit, Reserve.unit, settings.configuration,
    Reserve.lTokenBalance, Reserve.lTokenBalance, held]
  have share := divHalfUp_mono (Nat.mul_le_mul_left
    ((pool.reserves asset).lToken.base.balances user) firm.income) RAY
  exact Nat.div_le_div_right (Nat.mul_le_mul_left _ share)

theorem debtInETH_firm (settings : SameSettings pool after)
    (account : SameAccount user pool after) (listed : (pool.reserves asset).lTokenAddress ≠ 0)
    (firm : Reserve.Firm env (pool.reserves asset) (after.reserves asset)) :
    debtInETH env after user asset ≤ debtInETH env pool user asset := by
  have cells := account.cells asset listed
  have scaled : (after.reserves asset).variableDebtToken.base.balances user =
      (pool.reserves asset).variableDebtToken.base.balances user :=
    cells (.variableDebt user) (by simp [Cell.ofAccount])
  have principal : (after.reserves asset).stableDebtToken.base.balances user =
      (pool.reserves asset).stableDebtToken.base.balances user :=
    cells (.stableDebt user) (by simp [Cell.ofAccount, Cell.stablePosition])
  have rate : (after.reserves asset).stableDebtToken.usersStableRate user =
      (pool.reserves asset).stableDebtToken.usersStableRate user :=
    cells (.stableRate user) (by simp [Cell.ofAccount, Cell.stablePosition])
  have stamp : (after.reserves asset).stableDebtToken.timestamps user =
      (pool.reserves asset).stableDebtToken.timestamps user :=
    cells (.stableTimestamp user) (by simp [Cell.ofAccount, Cell.stablePosition])
  rw [debtInETH, debtInETH, Reserve.unit, Reserve.unit, settings.configuration, Reserve.debt,
    Reserve.debt, StableDebtToken.debt, StableDebtToken.debt, principal, rate, stamp,
    Reserve.variableDebt, Reserve.variableDebt, scaled]
  have share := divHalfUp_mono (Nat.mul_le_mul_left
    ((pool.reserves asset).variableDebtToken.base.balances user) firm.debt) RAY
  exact Nat.div_le_div_right (Nat.mul_le_mul_left _ (Nat.add_le_add_left share _))

structure Sheltered (env : Env) (user : Address) (pool after : LendingPool) : Prop where
  registered : Registered pool
  settings : SameSettings pool after
  account : SameAccount user pool after
  firm : ∀ a, (pool.reserves a).lTokenAddress ≠ 0 →
    Reserve.Firm env (pool.reserves a) (after.reserves a)

namespace Sheltered

variable {i : Nat}

theorem collateralAt_le (sheltered : Sheltered env user pool after)
    (inside : i < pool.reservesCount) :
    collateralAt env pool user (pool.usersConfig user) i ≤
      collateralAt env after user (after.usersConfig user) i := by
  have listed := (sheltered.registered.members i inside).1
  have counts : after.countsAsCollateral (after.usersConfig user) i ↔
      pool.countsAsCollateral (pool.usersConfig user) i := by
    rw [countsAsCollateral, countsAsCollateral, sheltered.account.config, sheltered.settings.list,
      sheltered.settings.configuration]
  by_cases counted : pool.countsAsCollateral (pool.usersConfig user) i
  · rw [collateralAt, collateralAt, if_pos counted, if_pos (counts.2 counted),
      sheltered.settings.list]
    exact collateralInETH_firm sheltered.settings sheltered.account listed (sheltered.firm _ listed)
  · rw [collateralAt, if_neg counted]
    exact Nat.zero_le _

theorem debtAt_le (sheltered : Sheltered env user pool after) (inside : i < pool.reservesCount) :
    debtAt env after user (after.usersConfig user) i ≤
      debtAt env pool user (pool.usersConfig user) i := by
  have listed := (sheltered.registered.members i inside).1
  rw [debtAt, debtAt, sheltered.account.config, sheltered.settings.list]
  split_ifs
  · exact debtInETH_firm sheltered.settings sheltered.account listed (sheltered.firm _ listed)
  · exact le_refl _

theorem thresholdAt_eq (sheltered : Sheltered env user pool after) (i : Nat) :
    thresholdAt after i = thresholdAt pool i := by
  rw [thresholdAt, thresholdAt, sheltered.settings.list, sheltered.settings.configuration]

variable {account account' : UserAccountData}

theorem collateral_le (sheltered : Sheltered env user pool after)
    (before : Account env pool user (pool.usersConfig user) account)
    (later : Account env after user (after.usersConfig user) account') :
    account.totalCollateralInETH ≤ account'.totalCollateralInETH := by
  rw [before.collateral, later.collateral, sheltered.settings.count]
  exact sum_le_sum fun i member => sheltered.collateralAt_le (mem_range.1 member)

theorem debt_le (sheltered : Sheltered env user pool after)
    (before : Account env pool user (pool.usersConfig user) account)
    (later : Account env after user (after.usersConfig user) account') :
    account'.totalDebtInETH ≤ account.totalDebtInETH := by
  rw [before.debt, later.debt, sheltered.settings.count]
  exact sum_le_sum fun i member => sheltered.debtAt_le (mem_range.1 member)

theorem weighted_le (sheltered : Sheltered env user pool after) :
    weightedCollateral env pool user ≤ weightedCollateral env after user := by
  rw [weightedCollateral, weightedCollateral, sheltered.settings.count]
  refine sum_le_sum fun i member => ?_
  rw [sheltered.thresholdAt_eq]
  exact Nat.mul_le_mul_right _ (sheltered.collateralAt_le (mem_range.1 member))

end Sheltered

end LendingPool

namespace World

variable {world next : World} {user : Address}

theorem Reachable.sheltered (reached : world.Reachable) {events : List Event}
    (ran : run step world events = .ok next) (still : ∀ event ∈ events, event.still = true)
    (unnamed : ∀ key ∈ world.footprint events, ¬key.About user) :
    next.env = world.env ∧ Sheltered world.env user world.pool next.pool := by
  have moment : SameMoment world next := by
    refine run_invariant_of (SameMoment world) (fun _ event => event.still = true)
      (fun _ _ _ moment still taken => moment.step still taken)
      ⟨rfl, reached.registered, .refl _, fun a listed => ⟨listed, .refl _⟩⟩ ?_ ran
    rintro before event rest _ rfl _
    exact still event (by simp)
  have config : next.read (.config user) = world.read (.config user) :=
    reached.bystanders ran trivial fun named => unnamed _ named rfl
  have cells : ∀ a, (world.pool.reserves a).lTokenAddress ≠ 0 → ∀ entry ∈ Cell.ofAccount user,
      next.read (.cell a entry) = world.read (.cell a entry) := by
    intro a listed entry member
    exact reached.bystanders ran listed fun named => unnamed _ named member
  refine ⟨moment.env, reached.registered, moment.settings, ⟨?_, cells⟩,
    fun a listed => (moment.firm a listed).2⟩
  exact congrArg UserConfigurationMap.mk (BitVec.eq_of_toNat_eq config)

/-- Nobody else can push an account towards liquidation: while clock, prices and settings stand
still, whatever the others do leaves an account that no event is about no less collateral and no
more debt. -/
theorem Reachable.bystanders_health (reached : world.Reachable) {events : List Event}
    (ran : run step world events = .ok next) (still : ∀ event ∈ events, event.still = true)
    (unnamed : ∀ key ∈ world.footprint events, ¬key.About user)
    {account account' : UserAccountData}
    (before : calculateUserAccountData world.env world.pool user (world.pool.usersConfig user) =
      .ok account)
    (later : calculateUserAccountData next.env next.pool user (next.pool.usersConfig user) =
      .ok account') :
    account.totalCollateralInETH ≤ account'.totalCollateralInETH ∧
      account'.totalDebtInETH ≤ account.totalDebtInETH ∧
      (∀ healthFactor, calculateHealthFactorFromBalances account'.totalCollateralInETH
        account'.totalDebtInETH (account'.avgLiquidationThreshold + 1) = .ok healthFactor →
          account.healthFactor ≤ healthFactor) ∧
      (account'.totalCollateralInETH = account.totalCollateralInETH →
        account.healthFactor ≤ account'.healthFactor) := by
  obtain ⟨env, sheltered⟩ := reached.sheltered ran still unnamed
  rw [env] at later
  have count : next.pool.reservesCount ≤ 128 := by
    rw [sheltered.settings.count]
    exact reached.registered.count
  have start := calculateUserAccountData_ok reached.registered.count before
  have finish := calculateUserAccountData_ok count later
  have collateral := sheltered.collateral_le start finish
  have debt := sheltered.debt_le start finish
  have weights := sheltered.weighted_le
  refine ⟨collateral, debt, ?_, ?_⟩
  · intro healthFactor raised
    refine healthFactor_mono start.healthFactor raised ?_ debt
    rw [start.threshold, finish.threshold]
    exact weighted_of_sum weights collateral
  · intro same
    refine healthFactor_mono start.healthFactor finish.healthFactor ?_ debt
    rw [start.threshold, finish.threshold, same]
    exact Nat.mul_le_mul_left _ (Nat.div_le_div_right weights)

def visitors : List Event :=
  [.call 102 (.deposit 10 (50 * WAD) 102), .call 102 (.borrow 10 (10 * WAD) 2 102),
    .flashLoan 104 103 [10] [5 * WAD] [0] 104, .call 102 (.repay 10 (4 * WAD) 2 102), .executed,
    .settle, .finish, .call 102 (.withdraw 10 (20 * WAD) 102)]

theorem bystanders_health_visitors : ∃ world next account account',
    run step Market.start (Market.opening 10 Market.strategy ++
      [.call 101 (.deposit 10 (100 * WAD) 101), .call 101 (.borrow 10 (60 * WAD) 2 101)]) =
      .ok world ∧ run step world visitors = .ok next ∧
      calculateUserAccountData world.env world.pool 101 (world.pool.usersConfig 101) =
        .ok account ∧
      calculateUserAccountData next.env next.pool 101 (next.pool.usersConfig 101) = .ok account' ∧
      account.totalDebtInETH ≠ 0 ∧
      account.totalCollateralInETH ≤ account'.totalCollateralInETH ∧
      account'.totalDebtInETH ≤ account.totalDebtInETH := by
  have outcome : yields (run step Market.start (Market.opening 10 Market.strategy ++
      [.call 101 (.deposit 10 (100 * WAD) 101), .call 101 (.borrow 10 (60 * WAD) 2 101)]))
      (fun world => (∀ event ∈ visitors, event.still = true) ∧
        (∀ key ∈ world.footprint visitors, ¬key.About 101) ∧
        yields (calculateUserAccountData world.env world.pool 101 (world.pool.usersConfig 101))
          (fun account => account.totalDebtInETH ≠ 0) ∧
        yields (run step world visitors) (fun next =>
          yields (calculateUserAccountData next.env next.pool 101 (next.pool.usersConfig 101))
            (fun _ => true))) := by
    decide +kernel
  obtain ⟨world, opened, facts⟩ := yields_iff.1 outcome
  obtain ⟨still, unnamed, early, late⟩ := of_decide_eq_true facts
  obtain ⟨account, before, owes⟩ := yields_iff.1 early
  obtain ⟨next, ran, viewed⟩ := yields_iff.1 late
  obtain ⟨account', later, _⟩ := yields_iff.1 viewed
  have kept := Reachable.bystanders_health (Market.reachable_of_run opened) ran still unnamed
    before later
  exact ⟨world, next, account, account', opened, ran, before, later, of_decide_eq_true owes,
    kept.1, kept.2.1⟩

end World

end PalmyProtocol
