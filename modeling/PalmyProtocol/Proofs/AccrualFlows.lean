import PalmyProtocol.System.Registry

set_option autoImplicit false

namespace PalmyProtocol

open Checked Rounding MathUtils

def Overflow (message : String) : Prop :=
  message ∈ ["SafeMath: addition overflow", "SafeMath: multiplication overflow",
    Errors.MATH_MULTIPLICATION_OVERFLOW, Errors.RL_LIQUIDITY_INDEX_OVERFLOW,
    Errors.RL_VARIABLE_BORROW_INDEX_OVERFLOW]

theorem Overflow.ne_subtraction {message : String} (overflow : Overflow message) :
    message ≠ "SafeMath: subtraction overflow" := by
  rintro rfl
  revert overflow
  simp [Overflow, Errors.MATH_MULTIPLICATION_OVERFLOW, Errors.RL_LIQUIDITY_INDEX_OVERFLOW,
    Errors.RL_VARIABLE_BORROW_INDEX_OVERFLOW]

variable {a b : Nat}

theorem add_overflows : FailsWith Overflow (SafeMath.add a b) :=
  failsWith_ite (fun _ => failsWith_ok _) fun _ => failsWith_error (by simp [Overflow])

theorem mul_overflows : FailsWith Overflow (SafeMath.mul a b) :=
  failsWith_ite (fun _ => failsWith_ok _) fun _ =>
    failsWith_ite (fun _ => failsWith_ok _) fun _ => failsWith_error (by simp [Overflow])

theorem sub_never_fails (order : b ≤ a) : FailsWith Overflow (SafeMath.sub a b) :=
  failsWith_ite (fun _ => failsWith_ok _) fun above => absurd order above

theorem mulRounded_overflows {unit half : Nat} : FailsWith Overflow (mulRounded unit half a b) :=
  failsWith_ite (fun _ => failsWith_ok _) fun _ =>
    failsWith_bind (failsWith_require fun _ => by simp [Overflow]) fun _ _ => failsWith_pure _

theorem rayMul_overflows : FailsWith Overflow (rayMul a b) := mulRounded_overflows

theorem percentMul_overflows : FailsWith Overflow (percentMul a b) := mulRounded_overflows

theorem rayDiv_overflows (nonzero : b ≠ 0) : FailsWith Overflow (rayDiv a b) :=
  failsWith_bind (failsWith_require fun zero => absurd nonzero zero) fun _ _ =>
    failsWith_bind (failsWith_require fun _ => by simp [Overflow]) fun _ _ => failsWith_pure _

namespace MathUtils

variable {rate last now : Nat}

theorem calculateLinearInterest_overflows (order : last ≤ now) :
    FailsWith Overflow (calculateLinearInterest rate last now) :=
  failsWith_bind (sub_never_fails order) fun _ _ =>
    failsWith_bind mul_overflows fun _ _ => add_overflows

theorem calculateCompoundedInterest_overflows (order : last ≤ now) :
    FailsWith Overflow (calculateCompoundedInterest rate last now) := by
  refine failsWith_bind (sub_never_fails order) fun exp _ => ?_
  refine failsWith_ite (fun _ => failsWith_pure _) fun _ => ?_
  refine failsWith_bind rayMul_overflows fun _ _ => ?_
  refine failsWith_bind rayMul_overflows fun _ _ => ?_
  refine failsWith_bind mul_overflows fun _ _ => ?_
  refine failsWith_bind mul_overflows fun _ _ => ?_
  refine failsWith_bind mul_overflows fun _ _ => ?_
  refine failsWith_bind mul_overflows fun _ _ => ?_
  refine failsWith_bind mul_overflows fun _ _ => ?_
  refine failsWith_bind add_overflows fun _ _ => ?_
  exact failsWith_bind add_overflows fun _ _ => add_overflows

end MathUtils

theorem StableDebtToken.calcTotalSupply_overflows {token : StableDebtToken} {now avgRate : Nat}
    (order : token.totalSupplyTimestamp ≤ now) :
    FailsWith Overflow (token.calcTotalSupply now avgRate) :=
  failsWith_ite (fun _ => failsWith_ok _) fun _ =>
    failsWith_bind (calculateCompoundedInterest_overflows order) fun _ _ => rayMul_overflows

theorem ReserveData.updateIndexes_overflows {reserve : ReserveData} {now scaledVariableDebt : Nat}
    (order : reserve.lastUpdateTimestamp ≤ now) :
    FailsWith Overflow (reserve.updateIndexes now scaledVariableDebt) := by
  refine failsWith_bind (failsWith_ite (fun _ => ?_) fun _ => failsWith_pure _) fun _ _ =>
    failsWith_pure _
  refine failsWith_bind (calculateLinearInterest_overflows order) fun _ _ => ?_
  refine failsWith_bind rayMul_overflows fun _ _ => ?_
  refine failsWith_bind (failsWith_require fun _ => by simp [Overflow]) fun _ _ => ?_
  refine failsWith_ite (fun _ => ?_) fun _ => failsWith_pure _
  refine failsWith_bind (calculateCompoundedInterest_overflows order) fun _ _ => ?_
  refine failsWith_bind rayMul_overflows fun _ _ => ?_
  exact failsWith_bind (failsWith_require fun _ => by simp [Overflow]) fun _ _ => failsWith_pure _

theorem ERC20.mint_overflows {token : ERC20} {account : Address} {amount : Nat}
    (account_ne : account ≠ 0) : FailsWith Overflow (token.mint account amount) :=
  failsWith_bind (failsWith_require fun zero => absurd account_ne zero) fun _ _ =>
    failsWith_bind add_overflows fun _ _ =>
      failsWith_bind add_overflows fun _ _ => failsWith_pure _

theorem LToken.mintToTreasury_overflows {token : LToken} {amount index : Nat}
    (treasury : token.treasury ≠ 0) (nonzero : index ≠ 0) :
    FailsWith Overflow (token.mintToTreasury amount index) :=
  failsWith_ite (fun _ => failsWith_ok _) fun _ =>
    failsWith_bind (rayDiv_overflows nonzero) fun _ _ =>
      failsWith_bind (ERC20.mint_overflows treasury) fun _ _ => failsWith_pure _

namespace Reserve

variable {env : Env} {reserve after : Reserve} {now : Nat}

structure OnTime (reserve : Reserve) (now : Nat) : Prop where
  aggregate : reserve.stableDebtToken.totalSupplyTimestamp ≤ reserve.lastUpdateTimestamp
  stamped : reserve.lastUpdateTimestamp ≤ now

theorem accruedDebt_overflows {scaled previous next : Nat} (onTime : OnTime reserve now)
    (grown : previous ≤ next) :
    FailsWith Overflow (reserve.accruedDebt now scaled previous next
      reserve.lastUpdateTimestamp) := by
  have aggregate := onTime.aggregate
  have order := le_trans aggregate onTime.stamped
  refine failsWith_bind (failsWith_bind (StableDebtToken.calcTotalSupply_overflows order)
    fun _ _ => failsWith_pure _) ?_
  rintro ⟨principal, current, avgRate, stamp⟩ viewed
  simp only [StableDebtToken.getSupplyData, bind_eq_ok, pure_eq_ok, Prod.mk.injEq] at viewed
  obtain ⟨supply, supplied, rfl, rfl, rfl, rfl⟩ := viewed
  have stable := StableDebtToken.totalSupply_ok supplied
  refine failsWith_bind rayMul_overflows fun previousVariable before => ?_
  refine failsWith_bind rayMul_overflows fun currentVariable later => ?_
  refine failsWith_bind (calculateCompoundedInterest_overflows aggregate) fun interest compounded => ?_
  refine failsWith_bind rayMul_overflows fun previousStable held => ?_
  refine failsWith_bind add_overflows fun total summed => ?_
  obtain ⟨_, rfl⟩ := rayMul_eq_ok.1 before
  obtain ⟨_, rfl⟩ := rayMul_eq_ok.1 later
  obtain ⟨_, rfl⟩ := rayMul_eq_ok.1 held
  obtain ⟨_, rfl⟩ := SafeMath.add_eq_ok.1 summed
  obtain ⟨_, rfl⟩ := calculateCompoundedInterest_ok compounded
  have floating : divHalfUp (scaled * previous) RAY ≤ divHalfUp (scaled * next) RAY :=
    divHalfUp_mono (Nat.mul_le_mul_left scaled grown) RAY
  have elapsed : reserve.lastUpdateTimestamp - reserve.stableDebtToken.totalSupplyTimestamp ≤
      now - reserve.stableDebtToken.totalSupplyTimestamp :=
    Nat.sub_le_sub_right onTime.stamped _
  have fixed : divHalfUp (reserve.stableDebtToken.base.totalSupply *
      compoundedInterest reserve.stableDebtToken.avgStableRate
        (reserve.lastUpdateTimestamp - reserve.stableDebtToken.totalSupplyTimestamp)) RAY ≤
      supply := by
    rw [stable, StableDebtToken.supply]
    exact divHalfUp_mono (Nat.mul_le_mul_left _ (compoundedInterest_mono le_rfl elapsed)) RAY
  refine failsWith_bind (sub_never_fails (by omega)) fun _ share => sub_never_fails ?_
  obtain ⟨_, rfl⟩ := SafeMath.sub_eq_ok.1 share
  omega

theorem mintToTreasury_overflows {scaled previous liquidity next : Nat}
    (onTime : OnTime reserve now) (grown : previous ≤ next)
    (treasury : reserve.lToken.treasury ≠ 0) (nonzero : liquidity ≠ 0) :
    FailsWith Overflow (reserve.mintToTreasury now scaled previous liquidity next
      reserve.lastUpdateTimestamp) :=
  failsWith_ite (fun _ => failsWith_ok _) fun _ =>
    failsWith_bind (accruedDebt_overflows onTime grown) fun _ _ =>
      failsWith_bind percentMul_overflows fun _ _ =>
        failsWith_ite (fun _ => LToken.mintToTreasury_overflows treasury nonzero)
          fun _ => failsWith_pure _

-- Only a number too large for its word stops the accrual: no subtraction does.
theorem updateState_overflows (onTime : OnTime reserve now)
    (listed : reserve.variableDebtTokenAddress ≠ 0) (treasury : reserve.lToken.treasury ≠ 0)
    (index : RAY ≤ reserve.liquidityIndex) : FailsWith Overflow (reserve.updateState now) := by
  refine failsWith_bind (failsWith_require fun unlisted => absurd listed unlisted) fun _ _ => ?_
  refine failsWith_bind (ReserveData.updateIndexes_overflows onTime.stamped) ?_
  rintro ⟨liquidityIndex, variableBorrowIndex, data⟩ indexes
  obtain ⟨liquidity, floating, _, _⟩ := ReserveData.updateIndexes_ok indexes
  have grown : reserve.variableBorrowIndex ≤ variableBorrowIndex := by
    rw [floating]
    exact ReserveData.le_accruedVariableBorrowIndex now _
  have nonzero : liquidityIndex ≠ 0 := by
    have more : reserve.liquidityIndex ≤ liquidityIndex := by
      rw [liquidity]
      exact ReserveData.le_accruedLiquidityIndex now
    have one : 0 < RAY := RAY_pos
    omega
  exact failsWith_bind (mintToTreasury_overflows onTime grown treasury nonzero) fun _ _ =>
    failsWith_pure _

theorem OnTime.later {time : Nat} (onTime : OnTime reserve now) (later : now ≤ time) :
    OnTime reserve time :=
  ⟨onTime.aggregate, le_trans onTime.stamped later⟩

theorem OnTime.of_same (onTime : OnTime reserve now)
    (updated : after.lastUpdateTimestamp = reserve.lastUpdateTimestamp)
    (stamp : after.stableDebtToken.totalSupplyTimestamp =
      reserve.stableDebtToken.totalSupplyTimestamp) : OnTime after now := by
  refine ⟨?_, ?_⟩
  · rw [stamp, updated]
    exact onTime.aggregate
  · rw [updated]
    exact onTime.stamped

-- The stable aggregate is stamped only by a mint or a burn, and both follow an accrual.
theorem OnTime.operation (onTime : OnTime reserve env.timestamp)
    (operation : Reserve.Operation env reserve after) : OnTime after env.timestamp := by
  cases operation.moved with
  | accrue computed =>
      have stamp := updateState_timestamp computed
      obtain ⟨_, _, _, run⟩ := updateState_ok computed
      refine ⟨?_, Nat.le_of_eq stamp⟩
      rw [stamp, run.result]
      exact le_trans onTime.aggregate onTime.stamped
  | rate data stable => exact onTime.of_same (by rw [data]) (by rw [stable])
  | income computed stable =>
      obtain ⟨_, _, _, data⟩ := ReserveData.cumulateToLiquidityIndex_ok computed
      exact onTime.of_same (by rw [data]) (by rw [stable])
  | keep data stamp =>
      have updated : after.lastUpdateTimestamp = reserve.lastUpdateTimestamp := by rw [data]
      rcases stamp with same | ⟨current, stamp⟩
      · exact onTime.of_same updated same
      · refine ⟨?_, ?_⟩
        · rw [stamp, updated, current]
        · rw [updated]
          exact onTime.stamped

theorem OnTime.steps (onTime : OnTime reserve env.timestamp)
    (steps : Reserve.Steps env reserve after) : OnTime after env.timestamp := by
  induction steps with
  | refl => exact onTime
  | tail _ last ih =>
      cases last with
      | operation operation => exact ih.operation operation
      | ledger | configure | choose => exact ⟨ih.aggregate, ih.stamped⟩

end Reserve

namespace World

variable {world next : World}

structure Accruable (world : World) : Prop where
  registered : world.pool.Registered
  onTime : ∀ a, (world.pool.reserves a).OnTime world.env.timestamp
  treasury : ∀ a, (world.pool.reserves a).lTokenAddress ≠ 0 →
    (world.pool.reserves a).lToken.treasury ≠ 0

theorem Accruable.step {event : Event} (accruable : world.Accruable)
    (taken : world.step event = .ok next) : next.Accruable := by
  have clock := step_clock taken
  have registered := registered_step accruable.registered taken
  rcases step_evolves taken with ⟨input, _, _, computed⟩ | evolves
  · have both := (LendingPool.listings_induction (fun p => ∀ a,
      (p.reserves a).OnTime world.env.timestamp ∧
        ((p.reserves a).lTokenAddress ≠ 0 → (p.reserves a).lToken.treasury ≠ 0)) ?_
      accruable.registered (fun a => ⟨accruable.onTime a, accruable.treasury a⟩) computed).2
    · exact ⟨registered, fun a => (both a).1.later clock, fun a => (both a).2⟩
    · intro p p' listing configuration _ before listed a
      by_cases same : a = listing.underlyingAsset
      · subst same
        rw [listed.result]
        simp only [LendingPool.setReserve, Function.update_self]
        exact ⟨⟨Nat.zero_le _, (before listing.underlyingAsset).1.stamped⟩,
          fun _ => listed.treasury⟩
      · rw [listed.appended.others a same]
        exact before a
  · refine ⟨registered, fun a => ?_, fun a listed => ?_⟩
    · exact ((accruable.onTime a).steps (evolves.steps a)).later clock
    · have keeps := evolves.keeps a
      rw [keeps.lTokenAddress] at listed
      rw [keeps.treasury]
      exact accruable.treasury a listed

theorem Reachable.accruable (reached : world.Reachable) : world.Accruable := by
  refine Runs.Reachable.invariant (fun w => w.Accruable) reached ?_
    (fun _ _ _ accruable taken => accruable.step taken)
  rintro s ⟨_, self, provider, ledgers, start⟩
  refine ⟨?_, fun a => ?_, fun a => ?_⟩ <;> rw [start]
  · exact LendingPool.registered_initialized self provider ledgers
  · exact ⟨le_refl 0, Nat.zero_le _⟩
  · exact fun listed => absurd rfl listed

-- No event lowers an index of a listed reserve; a listing concerns other assets.
theorem step_indexes {event : Event} (registered : world.pool.Registered)
    (taken : world.step event = .ok next) {asset : Address}
    (listed : (world.pool.reserves asset).lTokenAddress ≠ 0) :
    (world.pool.reserves asset).liquidityIndex ≤ (next.pool.reserves asset).liquidityIndex ∧
      (world.pool.reserves asset).variableBorrowIndex ≤
        (next.pool.reserves asset).variableBorrowIndex := by
  rcases step_evolves taken with ⟨input, _, _, computed⟩ | evolves
  · have same := (LendingPool.listings_induction
      (fun p => p.reserves asset = world.pool.reserves asset) ?_ registered rfl computed).2
    · rw [same]
      exact ⟨le_refl _, le_refl _⟩
    · intro p p' listing configuration _ before entered
      have other : asset ≠ listing.underlyingAsset := by
        intro itself
        apply listed
        rw [← before, itself]
        exact entered.vacant
      rw [entered.appended.others asset other, before]
  · exact ⟨(evolves.keeps asset).liquidityIndex, (evolves.keeps asset).variableBorrowIndex⟩

/-- Accrual is monotone, its stamps are in order, and no subtraction can ever stop it. -/
theorem Reachable.accrual_flows (reached : world.Reachable) {asset : Address}
    (listed : (world.pool.reserves asset).lTokenAddress ≠ 0) :
    RAY ≤ (world.pool.reserves asset).liquidityIndex ∧
      RAY ≤ (world.pool.reserves asset).variableBorrowIndex ∧
      (world.pool.reserves asset).stableDebtToken.totalSupplyTimestamp ≤
        (world.pool.reserves asset).lastUpdateTimestamp ∧
      (world.pool.reserves asset).lastUpdateTimestamp ≤ world.env.timestamp ∧
      (∀ event next, world.step event = .ok next →
        (world.pool.reserves asset).liquidityIndex ≤ (next.pool.reserves asset).liquidityIndex ∧
        (world.pool.reserves asset).variableBorrowIndex ≤
          (next.pool.reserves asset).variableBorrowIndex) ∧
      ∀ now, world.env.timestamp ≤ now → ∀ message,
        (world.pool.reserves asset).updateState now = .error message →
          Overflow message ∧ message ≠ "SafeMath: subtraction overflow" := by
  have accruable := reached.accruable
  have registered := accruable.registered
  have onTime := accruable.onTime asset
  have index := (registered.sound asset).liquidityIndex listed
  refine ⟨index, (registered.sound asset).variableBorrowIndex listed, onTime.aggregate,
    onTime.stamped, fun event next taken => step_indexes registered taken listed, ?_⟩
  intro now later message failed
  have overflow := Reserve.updateState_overflows (onTime.later later)
    ((registered.together asset).1.2 listed) (accruable.treasury asset listed) index message failed
  exact ⟨overflow, overflow.ne_subtraction⟩

def bothModes : List Event :=
  Market.opening 10 Market.strategy ++ Market.opening 20 Market.strategy ++
    [.call 100 (.deposit 10 (100 * WAD) 100), .call 101 (.deposit 20 (100 * WAD) 101),
      .call 101 (.borrow 10 (10 * WAD) 2 101), .call 101 (.borrow 10 (10 * WAD) 1 101),
      .observe (Market.env 3601 (by decide)), .call 100 (.deposit 10 WAD 100)]

theorem accrual_flows_bothModes :
    ∃ world : World, Runs.run step Market.start bothModes = .ok world ∧
      RAY < (world.pool.reserves 10).liquidityIndex ∧
      (world.pool.reserves 10).lastUpdateTimestamp ≤ world.env.timestamp ∧
      ∀ now, world.env.timestamp ≤ now → ∀ message,
        (world.pool.reserves 10).updateState now = .error message →
          message ≠ "SafeMath: subtraction overflow" := by
  have outcome : yields (Runs.run step Market.start bothModes) (fun world =>
      (world.pool.reserves 10).lTokenAddress ≠ 0 ∧
        RAY < (world.pool.reserves 10).liquidityIndex) := by
    decide +kernel
  obtain ⟨world, ran, facts⟩ := yields_iff.1 outcome
  obtain ⟨listed, earned⟩ := of_decide_eq_true facts
  obtain ⟨_, _, _, stamped, _, stuck⟩ :=
    Reachable.accrual_flows (Market.reachable_of_run ran) listed
  exact ⟨world, ran, earned, stamped, fun now later message failed =>
    (stuck now later message failed).2⟩

end World

end PalmyProtocol
