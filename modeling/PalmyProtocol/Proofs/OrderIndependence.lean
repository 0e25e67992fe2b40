import PalmyProtocol.Proofs.DebtsCounted
import PalmyProtocol.System.OwnOperations

set_option autoImplicit false

namespace PalmyProtocol

open Checked Rounding LendingPool

structure SameEnd (asset : Address) (left right : LendingPool) : Prop where
  data : (left.reserves asset).toReserveData = (right.reserves asset).toReserveData
  lTokens : (left.reserves asset).lToken.base.balances = (right.reserves asset).lToken.base.balances
  lTokenSupply : (left.reserves asset).lToken.base.totalSupply =
    (right.reserves asset).lToken.base.totalSupply
  debts : (left.reserves asset).variableDebtToken.base.balances =
    (right.reserves asset).variableDebtToken.base.balances
  debtSupply : (left.reserves asset).variableDebtToken.base.totalSupply =
    (right.reserves asset).variableDebtToken.base.totalSupply
  underlying : (left.reserves asset).underlying.balances =
    (right.reserves asset).underlying.balances
  usersConfig : left.usersConfig = right.usersConfig

theorem SameEnd.symm {asset : Address} {left right : LendingPool}
    (same : SameEnd asset left right) : SameEnd asset right left :=
  ⟨same.data.symm, same.lTokens.symm, same.lTokenSupply.symm, same.debts.symm, same.debtSupply.symm,
    same.underlying.symm, same.usersConfig.symm⟩

def OwnOperation.Settles (terms : Terms) : OwnOperation → Prop
  | repay amount => terms.shownDebt = terms.chargedDebt ∨ amount < terms.chargedDebt ∨
      (amount = terms.chargedDebt ∧ terms.stableDebt ≠ 0)
  | _ => True

namespace OwnOperation

variable {operation : OwnOperation} {terms : Terms} {config settled : UserConfigurationMap}

theorem Settles.movement (settles : operation.Settles terms)
    (order : terms.chargedDebt ≤ terms.shownDebt) :
    operation.movement terms.settled = operation.movement terms := by
  cases operation with
  | deposit | withdraw | borrow => rfl
  | repay amount =>
      have same : min amount terms.settled.shownDebt = min amount terms.shownDebt := by
        change min amount terms.chargedDebt = min amount terms.shownDebt
        rcases settles with agree | below | ⟨meets, _⟩
        · rw [agree]
        · omega
        · omega
      rw [OwnOperation.movement, OwnOperation.movement, same]
      rfl

theorem Settles.flagged (settles : operation.Settles terms)
    (order : terms.chargedDebt ≤ terms.shownDebt) :
    operation.flagged terms.settled = operation.flagged terms := by
  cases operation with
  | deposit | withdraw | borrow => rfl
  | repay amount =>
      have same : terms.stableDebt + terms.chargedDebt - min amount terms.chargedDebt = 0 ↔
          terms.stableDebt + terms.shownDebt - min amount terms.shownDebt = 0 := by
        rcases settles with agree | below | ⟨meets, stable⟩
        · rw [agree]
        · omega
        · omega
      change (if terms.stableDebt + terms.chargedDebt - min amount terms.chargedDebt = 0 then
        terms.config.setBorrowing terms.id false else .ok terms.config) = _
      by_cases paid : terms.stableDebt + terms.shownDebt - min amount terms.shownDebt = 0
      · rw [OwnOperation.flagged, if_pos paid, if_pos (same.2 paid)]
      · rw [OwnOperation.flagged, if_neg paid, if_neg (fun both => paid (same.1 both))]

theorem settled_cashOut :
    (operation.movement terms.settled).cashOut = (operation.movement terms).cashOut := by
  cases operation <;> rfl

theorem settles_of_same (order : terms.chargedDebt ≤ terms.shownDebt)
    (borrows : terms.scaledDebt ≠ 0 → terms.config.borrows terms.id = true)
    (before : operation.flagged terms = .ok config)
    (after : operation.flagged terms.settled = .ok settled) (same : config = settled)
    (paid : (operation.movement terms).cashIn = (operation.movement terms.settled).cashIn) :
    operation.Settles terms := by
  cases operation with
  | deposit | withdraw | borrow => trivial
  | repay amount =>
      change min amount terms.shownDebt = min amount terms.chargedDebt at paid
      by_cases agree : terms.shownDebt = terms.chargedDebt
      · exact .inl agree
      by_cases below : amount < terms.chargedDebt
      · exact .inr (.inl below)
      have meets : amount = terms.chargedDebt := by omega
      refine .inr (.inr ⟨meets, fun none => ?_⟩)
      have owing : terms.scaledDebt ≠ 0 := by
        intro nothing
        have shown : terms.shownDebt = terms.chargedDebt := by
          rw [Terms.shownDebt, Terms.chargedDebt, nothing, Nat.zero_mul, Nat.zero_mul]
        exact agree shown
      change (if terms.stableDebt + terms.chargedDebt - min amount terms.chargedDebt = 0 then
        terms.config.setBorrowing terms.id false else .ok terms.config) = .ok settled at after
      rw [OwnOperation.flagged, if_neg (by omega)] at before
      rw [if_pos (by omega)] at after
      cases before
      obtain ⟨_, bits, _⟩ := UserConfigurationMap.setBorrowing_ok after
      have cleared := bits terms.id
      rw [if_pos rfl, ← same, borrows owing] at cleared
      exact absurd cleared (by decide)

end OwnOperation

theorem Shifted.meet {start left right leftEnd rightEnd : Address → Nat} {first second : Address}
    {out received out' received' : Nat} (leftFirst : Shifted start left first out received)
    (leftSecond : Shifted left leftEnd second out' received')
    (rightFirst : Shifted start right second out' received')
    (rightSecond : Shifted right rightEnd first out received) : leftEnd = rightEnd := by
  funext a
  have := leftFirst a
  have := leftSecond a
  have := rightFirst a
  have := rightSecond a
  omega

namespace Reserve

variable {env : Env} {asset first second : Address} {reserve left right leftEnd rightEnd : Reserve}
variable {movement movement' : Movement}

-- The strategy is asked about the totals, the cash and the settings, and about nothing else.
theorem RatesMatch.determined (leftMatch : RatesMatch env asset leftEnd)
    (rightMatch : RatesMatch env asset rightEnd)
    (current : rightEnd.lastUpdateTimestamp = env.timestamp)
    (data : leftEnd.toReserveData = { rightEnd.toReserveData with
      currentLiquidityRate := leftEnd.currentLiquidityRate
      currentVariableBorrowRate := leftEnd.currentVariableBorrowRate
      currentStableBorrowRate := leftEnd.currentStableBorrowRate })
    (stable : leftEnd.stableDebtToken = rightEnd.stableDebtToken)
    (supply : leftEnd.variableDebtToken.base.totalSupply =
      rightEnd.variableDebtToken.base.totalSupply)
    (underlying : leftEnd.underlying.balances = rightEnd.underlying.balances) :
    leftEnd.toReserveData = rightEnd.toReserveData := by
  have stamp := uint40_of_lt env.timestamp_lt
  have view : leftEnd.getNormalizedDebt env.timestamp = rightEnd.getNormalizedDebt env.timestamp := by
    rw [data]
    simp [ReserveData.getNormalizedDebt, current, stamp]
  have same : leftEnd.ratesNow env asset = rightEnd.ratesNow env asset := by
    have strategy : leftEnd.interestRateStrategyAddress = rightEnd.interestRateStrategyAddress := by
      rw [data]
    have configuration : leftEnd.configuration = rightEnd.configuration := by
      rw [data]
    have address : leftEnd.lTokenAddress = rightEnd.lTokenAddress := by
      rw [data]
    rw [ratesNow, ratesNow, view, VariableDebtToken.totalSupply, VariableDebtToken.totalSupply,
      availableLiquidity, availableLiquidity, stable, supply, underlying, strategy, configuration,
      address]
  rw [RatesMatch, same, rightMatch, Except.ok.injEq, Prod.mk.injEq, Prod.mk.injEq] at leftMatch
  obtain ⟨liquidity, stableRate, variableRate⟩ := leftMatch
  rw [data, ← liquidity, ← stableRate, ← variableRate]

end Reserve

namespace Performed

variable {env : Env} {asset first second : Address} {pool left right leftEnd rightEnd : LendingPool}
variable {movement movement' : Movement} {config config' : UserConfigurationMap}
variable {accrued accruedLeft accruedRight : Reserve}

theorem rest {after : LendingPool} {other : Address} {accrued' : Reserve}
    (before : Performed env asset first movement config accrued pool left)
    (later : Performed env asset other movement' config' accrued' left after) :
    accrued' = left.reserves asset :=
  Reserve.updateState_again before.current env.timestamp_lt later.accrue

theorem meet (distinct : first ≠ second)
    (leftFirst : Performed env asset first movement config accrued pool left)
    (leftSecond : Performed env asset second movement' config' accruedLeft left leftEnd)
    (rightFirst : Performed env asset second movement' config' accrued pool right)
    (rightSecond : Performed env asset first movement config accruedRight right rightEnd) :
    SameEnd asset leftEnd rightEnd := by
  obtain rfl := leftFirst.rest leftSecond
  obtain rfl := rightFirst.rest rightSecond
  have one := leftFirst.turned
  have two := leftSecond.turned
  have three := rightFirst.turned
  have four := rightSecond.turned
  have lTokenSupply : (leftEnd.reserves asset).lToken.base.totalSupply =
      (rightEnd.reserves asset).lToken.base.totalSupply := by
    have := one.lTokenSupply
    have := two.lTokenSupply
    have := three.lTokenSupply
    have := four.lTokenSupply
    omega
  have debtSupply : (leftEnd.reserves asset).variableDebtToken.base.totalSupply =
      (rightEnd.reserves asset).variableDebtToken.base.totalSupply := by
    have := one.debtSupply
    have := two.debtSupply
    have := three.debtSupply
    have := four.debtSupply
    omega
  have underlying : (leftEnd.reserves asset).underlying.balances =
      (rightEnd.reserves asset).underlying.balances := by
    have here : (left.reserves asset).lTokenAddress = accrued.lTokenAddress := by rw [one.data]
    have there : (right.reserves asset).lTokenAddress = accrued.lTokenAddress := by rw [three.data]
    funext a
    have start := one.underlying a
    have finish := two.underlying a
    have start' := three.underlying a
    have finish' := four.underlying a
    rw [here] at finish
    rw [there] at finish'
    omega
  have stable : (leftEnd.reserves asset).stableDebtToken =
      (rightEnd.reserves asset).stableDebtToken := by
    rw [two.stable, one.stable, four.stable, three.stable]
  refine ⟨?_, one.lTokens.meet two.lTokens three.lTokens four.lTokens, lTokenSupply,
    one.debts.meet two.debts three.debts four.debts, debtSupply, underlying, ?_⟩
  · refine leftSecond.rates.determined rightSecond.rates rightSecond.current ?_ stable debtSupply
      underlying
    rw [two.data, one.data, four.data, three.data]
  · rw [leftSecond.usersConfig, leftFirst.usersConfig, rightSecond.usersConfig,
      rightFirst.usersConfig, Function.update_comm distinct]

-- Read backwards for the user who came first on the left: it got the same flags and paid the same.
theorem apart {movementSettled : Movement} {configSettled : UserConfigurationMap}
    (distinct : first ≠ second) (outside : first ≠ accrued.lTokenAddress)
    (kept : movementSettled.cashOut = movement.cashOut)
    (leftFirst : Performed env asset first movement config accrued pool left)
    (leftSecond : Performed env asset second movement' config' accruedLeft left leftEnd)
    {other : Movement} {otherConfig : UserConfigurationMap}
    (rightFirst : Performed env asset second other otherConfig accrued pool right)
    (rightSecond : Performed env asset first movementSettled configSettled accruedRight right
      rightEnd) (same : SameEnd asset leftEnd rightEnd) :
    config = configSettled ∧ movement.cashIn = movementSettled.cashIn := by
  obtain rfl := leftFirst.rest leftSecond
  obtain rfl := rightFirst.rest rightSecond
  have usersConfig := congrFun same.usersConfig first
  have cash := congrFun same.underlying first
  constructor
  · rw [leftSecond.usersConfig, leftFirst.usersConfig, rightSecond.usersConfig,
      Function.update_of_ne distinct, Function.update_self, Function.update_self] at usersConfig
    exact usersConfig
  · have here : (left.reserves asset).lTokenAddress = accrued.lTokenAddress := by
      rw [leftFirst.turned.data]
    have there : (right.reserves asset).lTokenAddress = accrued.lTokenAddress := by
      rw [rightFirst.turned.data]
    have one := leftFirst.turned.underlying first
    have two := leftSecond.turned.underlying first
    have three := rightFirst.turned.underlying first
    have four := rightSecond.turned.underlying first
    rw [here] at two
    rw [there] at four
    simp only [if_neg distinct, if_neg outside, if_true, Nat.add_zero] at one two three four
    omega

end Performed

namespace LendingPool

variable {env : Env} {pool left right leftEnd rightEnd : LendingPool}
variable {asset first second : Address} {one other : OwnOperation}

theorem chargedDebt_le_shownDebt (env : Env) (pool : LendingPool) (asset user : Address) :
    (pool.terms env asset user).chargedDebt ≤ (pool.terms env asset user).shownDebt :=
  divHalfUp_mono (Nat.mul_le_mul_left _
    (ReserveData.accruedVariableBorrowIndex_le env.timestamp_lt _)) RAY

theorem sameEnd_iff (registered : Registered pool) (flagged : DebtFlagged pool)
    (distinct : first ≠ second) (customerFirst : Customer pool asset first)
    (customerSecond : Customer pool asset second)
    (leftFirst : (one.call asset first).execute env pool first = .ok left)
    (leftSecond : (other.call asset second).execute env left second = .ok leftEnd)
    (rightFirst : (other.call asset second).execute env pool second = .ok right)
    (rightSecond : (one.call asset first).execute env right first = .ok rightEnd) :
    SameEnd asset leftEnd rightEnd ↔ one.Settles (pool.terms env asset first) ∧
      other.Settles (pool.terms env asset second) := by
  have movedLeft := Call.execute_operates leftFirst
  have movedRight := Call.execute_operates rightFirst
  obtain ⟨accrued, config, flag, one'⟩ := customerFirst.performed registered leftFirst
  obtain ⟨accruedLeft, configLate, flagLate, otherLate⟩ :=
    (customerSecond.operates movedLeft).performed (registered.evolves movedLeft.evolves) leftSecond
  obtain ⟨accruedAgain, config', flag', other'⟩ := customerSecond.performed registered rightFirst
  obtain ⟨accruedRight, configLate', flagLate', oneLate⟩ :=
    (customerFirst.operates movedRight).performed (registered.evolves movedRight.evolves) rightSecond
  obtain rfl : accrued = accruedAgain := Except.ok.inj (one'.accrue.symm.trans other'.accrue)
  rw [one'.terms (Ne.symm distinct) customerSecond.own] at flagLate otherLate
  rw [other'.terms distinct customerFirst.own] at flagLate' oneLate
  have orderFirst := chargedDebt_le_shownDebt env pool asset first
  have orderSecond := chargedDebt_le_shownDebt env pool asset second
  have listed := registered.updateState_listed one'.accrue
  have borrows : ∀ user, (pool.terms env asset user).scaledDebt ≠ 0 →
      (pool.terms env asset user).config.borrows (pool.terms env asset user).id = true :=
    fun user owing => flagged user asset listed (.inr owing)
  have address := (Reserve.updateState_for customerFirst.own one'.accrue).address
  have outside : ∀ user, Apart pool user → user ≠ accrued.lTokenAddress := by
    intro user away
    rw [address]
    exact away asset listed
  constructor
  · intro same
    obtain ⟨flagsFirst, paidFirst⟩ := one'.apart distinct (outside first customerFirst.apart)
      OwnOperation.settled_cashOut otherLate other' oneLate same
    obtain ⟨flagsSecond, paidSecond⟩ := other'.apart (Ne.symm distinct)
      (outside second customerSecond.apart) OwnOperation.settled_cashOut oneLate one' otherLate
      same.symm
    exact ⟨OwnOperation.settles_of_same orderFirst (borrows first) flag flagLate' flagsFirst paidFirst,
      OwnOperation.settles_of_same orderSecond (borrows second) flag' flagLate flagsSecond paidSecond⟩
  · rintro ⟨settlesFirst, settlesSecond⟩
    rw [settlesFirst.movement orderFirst] at oneLate
    rw [settlesFirst.flagged orderFirst, flag] at flagLate'
    rw [settlesSecond.movement orderSecond] at otherLate
    rw [settlesSecond.flagged orderSecond, flag'] at flagLate
    cases flagLate
    cases flagLate'
    exact one'.meet distinct otherLate other' oneLate

end LendingPool

namespace World

variable {world left right : World} {asset first second : Address} {one other : OwnOperation}

def inTurn (asset first second : Address) (one other : OwnOperation) : List Event :=
  [.call first (one.call asset first), .call second (other.call asset second)]

theorem inTurn_ok (ran : Runs.run step world (inTurn asset first second one other) = .ok left) :
    ∃ middle last, (one.call asset first).execute world.env world.pool first = .ok middle ∧
      (other.call asset second).execute world.env middle second = .ok last ∧
      left = world.withPool last ∧ ¬world.pool.IsProtocol first := by
  obtain ⟨middle, taken, rest⟩ := Runs.run_cons_ok.1 ran
  obtain ⟨after, later, done⟩ := Runs.run_cons_ok.1 rest
  cases done
  obtain ⟨_, outside, pool, executed, rfl⟩ := step_call taken
  obtain ⟨_, _, last, finished, rfl⟩ := step_call later
  exact ⟨pool, last, executed, finished, rfl, outside⟩

/-- In any reachable state, two users' operations on one reserve at one time end alike in both
orders just when neither is a repayment caught between the debt that is shown and the one that is
charged. -/
theorem Reachable.order_independent (reached : world.Reachable) (distinct : first ≠ second)
    (firstOwn : first ≠ (world.pool.reserves asset).lToken.treasury)
    (secondOwn : second ≠ (world.pool.reserves asset).lToken.treasury)
    (leftRun : Runs.run step world (inTurn asset first second one other) = .ok left)
    (rightRun : Runs.run step world (inTurn asset second first other one) = .ok right) :
    SameEnd asset left.pool right.pool ↔
      one.Settles (world.pool.terms world.env asset first) ∧
        other.Settles (world.pool.terms world.env asset second) := by
  have registered := reached.registered
  obtain ⟨_, _, leftFirst, leftSecond, rfl, firstOutside⟩ := inTurn_ok leftRun
  obtain ⟨_, _, rightFirst, rightSecond, rfl, secondOutside⟩ := inTurn_ok rightRun
  have customerFirst : Customer world.pool asset first :=
    ⟨registered.apart firstOutside, firstOwn⟩
  have customerSecond : Customer world.pool asset second :=
    ⟨registered.apart secondOutside, secondOwn⟩
  exact sameEnd_iff registered reached.flagged distinct customerFirst customerSecond leftFirst
    leftSecond rightFirst rightSecond

-- A year after a variable debt of 100 was taken; with the whole income going to the treasury or not.
def indebted (reserveFactor : Nat) : List Event :=
  Market.opening 10 Market.strategy ++ Market.opening 20 Market.strategy ++
    [.admin 3 (.setReserveFactor 10 reserveFactor), .call 100 (.deposit 10 (1000 * WAD) 100),
      .call 101 (.deposit 20 (1000 * WAD) 101), .call 101 (.borrow 10 (100 * WAD) 2 101),
      .observe (Market.env 31536001 Market.year_in_time)]

theorem order_independent_indebted :
    ∃ world left right : World, Runs.run step Market.start (indebted 1000) = .ok world ∧
      Runs.run step world (inTurn 10 101 100 (.repay (40 * WAD)) (.deposit WAD)) = .ok left ∧
      Runs.run step world (inTurn 10 100 101 (.deposit WAD) (.repay (40 * WAD))) = .ok right ∧
      (SameEnd 10 left.pool right.pool ↔
        (OwnOperation.repay (40 * WAD)).Settles (world.pool.terms world.env 10 101) ∧
          (OwnOperation.deposit WAD).Settles (world.pool.terms world.env 10 100)) := by
  have outcome : yields (Runs.run step Market.start (indebted 1000)) (fun world =>
      (world.pool.reserves 10).lToken.treasury = 99 &&
        (yields (Runs.run step world (inTurn 10 101 100 (.repay (40 * WAD)) (.deposit WAD)))
          (fun _ => true) &&
        yields (Runs.run step world (inTurn 10 100 101 (.deposit WAD) (.repay (40 * WAD))))
          (fun _ => true))) := by
    decide +kernel
  obtain ⟨world, ran, facts⟩ := yields_iff.1 outcome
  obtain ⟨treasury, both⟩ := (Bool.and_eq_true _ _).mp facts
  obtain ⟨leftRuns, rightRuns⟩ := (Bool.and_eq_true _ _).mp both
  obtain ⟨left, leftRun, _⟩ := yields_iff.1 leftRuns
  obtain ⟨right, rightRun, _⟩ := yields_iff.1 rightRuns
  have treasury := of_decide_eq_true treasury
  refine ⟨world, left, right, ran, leftRun, rightRun, ?_⟩
  refine Reachable.order_independent (Market.reachable_of_run ran) (by decide) ?_ ?_ leftRun rightRun
  · rw [treasury]
    decide
  · rw [treasury]
    decide

-- The suppliers earn nothing, so the debt that is shown was never stored: the one who pays all that
-- is charged keeps the flag of a borrower, unless somebody else comes first.
theorem order_dependent_indebted :
    ¬∀ (world left right : World) (asset first second : Address) (one other : OwnOperation),
      world.Reachable → first ≠ second →
      first ≠ (world.pool.reserves asset).lToken.treasury →
      second ≠ (world.pool.reserves asset).lToken.treasury →
      Runs.run step world (inTurn asset first second one other) = .ok left →
      Runs.run step world (inTurn asset second first other one) = .ok right →
      SameEnd asset left.pool right.pool := by
  intro every
  have outcome : yields (Runs.run step Market.start (indebted 10000)) (fun world =>
      (world.pool.reserves 10).lToken.treasury = 99 &&
        (yields (Runs.run step world (inTurn 10 101 100 (.repay (100 * WAD)) (.deposit WAD)))
          (fun left => (left.pool.usersConfig 101).borrows 0) &&
        yields (Runs.run step world (inTurn 10 100 101 (.deposit WAD) (.repay (100 * WAD))))
          (fun right => !(right.pool.usersConfig 101).borrows 0))) := by
    decide +kernel
  obtain ⟨world, ran, facts⟩ := yields_iff.1 outcome
  obtain ⟨treasury, both⟩ := (Bool.and_eq_true _ _).mp facts
  obtain ⟨leftRuns, rightRuns⟩ := (Bool.and_eq_true _ _).mp both
  obtain ⟨left, leftRun, kept⟩ := yields_iff.1 leftRuns
  obtain ⟨right, rightRun, cleared⟩ := yields_iff.1 rightRuns
  have treasury := of_decide_eq_true treasury
  have same := every world left right 10 101 100 (.repay (100 * WAD)) (.deposit WAD)
    (Market.reachable_of_run ran) (by decide) (by rw [treasury]; decide) (by rw [treasury]; decide)
    leftRun rightRun
  rw [← same.usersConfig, kept] at cleared
  exact absurd cleared (by decide)

end World

end PalmyProtocol
