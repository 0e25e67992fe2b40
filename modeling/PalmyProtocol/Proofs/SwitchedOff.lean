import PalmyProtocol.Proofs.CashAccounted
import PalmyProtocol.Proofs.ScaledTokens
import PalmyProtocol.System.QuotedRates

set_option autoImplicit false

namespace PalmyProtocol

open Checked Rounding Holdings LendingPool Runs

theorem ERC20.Counted.totalSupply_eq_zero {token : ERC20} (counted : token.Counted) :
    token.totalSupply = 0 ↔ ∀ account, token.balances account = 0 := by
  constructor
  · intro none account
    exact Nat.le_zero.1 (none ▸ Total.le counted account)
  · intro none
    obtain ⟨holders, _, sum⟩ := counted
    rw [← sum]
    exact Finset.sum_eq_zero fun account _ => none account

namespace Reserve

variable {env : Env} {reserve after : Reserve}

theorem Operation.counted (operation : Operation env reserve after)
    (counted : reserve.lToken.base.Counted) : after.lToken.base.Counted := by
  cases operation with
  | accrue computed =>
      obtain ⟨_, _, _, run⟩ := updateState_ok computed
      rw [run.result]
      rcases mintToTreasury_ok run.treasury with same | ⟨_, balances, supply, _, _⟩
      · rw [same]
        exact counted
      · exact counted.minted balances supply
  | rate computed =>
      obtain ⟨_, _, _, _, run⟩ := updateInterestRates_ok computed
      rw [run.result]
      exact counted
  | fund computed =>
      obtain ⟨_, _, rfl⟩ := transferUnderlyingFrom_ok computed
      exact counted
  | release computed =>
      obtain ⟨_, _, _, rfl⟩ := transferUnderlyingTo_ok computed
      exact counted
  | mintLToken computed =>
      obtain ⟨_, minted, rfl⟩ := mintLToken_ok computed
      exact counted.minted minted.balances minted.totalSupply
  | burnLToken computed =>
      obtain ⟨_, _, burned, _, rfl⟩ := burnLToken_ok computed
      exact counted.burned burned.balances burned.totalSupply
  | moveLTokens computed =>
      obtain ⟨_, _, moved⟩ := LToken.transfer_ok computed
      exact LToken.counted_transferred counted moved
  | allow balances supply =>
      rw [ERC20.Counted, balances, supply]
      exact counted
  | mintStableDebt _ computed =>
      obtain ⟨_, _, rfl⟩ := mintStableDebt_ok computed
      exact counted
  | burnStableDebt _ computed =>
      obtain ⟨_, _, rfl⟩ := burnStableDebt_ok computed
      exact counted
  | mintVariableDebt _ computed =>
      obtain ⟨_, _, rfl⟩ := mintVariableDebt_ok computed
      exact counted
  | burnVariableDebt _ computed =>
      obtain ⟨_, _, rfl⟩ := burnVariableDebt_ok computed
      exact counted
  | income | delegateStable | delegateVariable => exact counted

theorem Steps.counted (steps : Steps env reserve after) (counted : reserve.lToken.base.Counted) :
    after.lToken.base.Counted := by
  induction steps with
  | refl => exact counted
  | tail _ last ih =>
      cases last with
      | operation operation => exact operation.counted ih
      | ledger | configure | choose => exact ih

theorem lTokenTotalSupply_eq_zero {now : Nat} (listed : reserve.lTokenAddress ≠ 0)
    (sound : reserve.Sound) :
    reserve.lTokenTotalSupply now = .ok 0 ↔ reserve.lToken.scaledTotalSupply = 0 := by
  simp only [lTokenTotalSupply, bind_eq_ok, require_eq_ok, exists_const]
  constructor
  · rintro ⟨_, read⟩
    rcases LToken.totalSupply_ok read with ⟨none, _⟩ | ⟨some, index, viewed, zero⟩
    · exact none
    · obtain ⟨rfl, _⟩ := ReserveData.getNormalizedIncome_ok viewed
      have grown : RAY ≤ reserve.normalizedIncome now :=
        le_trans (sound.liquidityIndex listed) (ReserveData.le_normalizedIncome now)
      have shares : reserve.lToken.base.totalSupply ≤
          divHalfUp (reserve.lToken.base.totalSupply * reserve.normalizedIncome now) RAY :=
        le_rayMul grown
      omega
  · intro none
    refine ⟨listed, ?_⟩
    rw [LToken.totalSupply]
    exact if_pos none

end Reserve

namespace LendingPool

variable {pool after : LendingPool} {asset msgSender : Address}

def SwitchesOff (pool : LendingPool) (msgSender asset : Address) (after : LendingPool) : Prop :=
  LendingPoolConfigurator.deactivateReserve pool msgSender asset = .ok after ∨
    LendingPoolConfigurator.configureReserveAsCollateral pool msgSender asset 0 0 0 = .ok after

open LendingPoolConfigurator in
theorem SwitchesOff.checked (off : SwitchesOff pool msgSender asset after) :
    checkNoLiquidity pool asset = .ok () ∧ ∃ configuration,
      after = pool.setReserve asset { pool.reserves asset with configuration } := by
  rcases off with deactivated | configured
  · obtain ⟨configuration, changed, rfl⟩ := updateConfiguration_ok deactivated
    simp only [bind_eq_ok] at changed
    exact ⟨changed.choose_spec.1, configuration, rfl⟩
  · obtain ⟨configuration, changed, rfl⟩ := updateConfiguration_ok configured
    simp only [checkCollateral, bind_eq_ok, ite_eq_ok, ne_eq, not_true, false_and, false_or,
      not_false_eq_true, true_and] at changed
    obtain ⟨_, ⟨_, _, _, _, checked⟩, _⟩ := changed
    exact ⟨checked, configuration, rfl⟩

open LendingPoolConfigurator in
theorem switchesOff_of_checked (checked : checkNoLiquidity pool asset = .ok ()) :
    ∃ after, SwitchesOff pool pool.addressesProvider.poolAdmin asset after := by
  refine ⟨pool.setReserve asset { pool.reserves asset with
    configuration := (pool.reserves asset).configuration.setActive false }, .inl ?_⟩
  simp only [deactivateReserve, updateConfiguration, onlyPoolAdmin,
    LendingPoolConfigurator.setConfiguration, setConfiguration, onlyLendingPoolConfigurator,
    bind_eq_ok, require_eq_ok, exists_const, pure_eq_ok]
  exact ⟨trivial, _, ⟨(), checked, rfl⟩, trivial, rfl⟩

end LendingPool

namespace World

variable {world next : World} {asset : Address}

theorem counted_step {event : Event} (registered : world.pool.Registered)
    (counted : ∀ a, (world.pool.reserves a).lToken.base.Counted)
    (taken : world.step event = .ok next) : ∀ a, (next.pool.reserves a).lToken.base.Counted := by
  rcases step_evolves taken with ⟨input, _, _, listed⟩ | evolves
  · refine (LendingPool.listings_induction
      (fun pool => ∀ a, (pool.reserves a).lToken.base.Counted) ?_ registered counted listed).2
    intro pool after input configuration _ before listed a
    by_cases same : a = input.underlyingAsset
    · subst same
      rw [listed.result]
      simp only [LendingPool.setReserve, Function.update_self]
      exact ERC20.counted_empty
    · rw [listed.appended.others a same]
      exact before a
  · exact fun a => Reserve.Steps.counted (evolves.steps a) (counted a)

theorem Reachable.counted (reached : world.Reachable) (asset : Address) :
    (world.pool.reserves asset).lToken.base.Counted := by
  have both := Runs.Reachable.invariant
    (fun w : World => w.pool.Registered ∧ ∀ a, (w.pool.reserves a).lToken.base.Counted)
    reached ?_ ?_
  · exact both.2 asset
  · rintro s ⟨_, self, provider, ledgers, start⟩
    rw [start]
    exact ⟨LendingPool.registered_initialized self provider ledgers, fun _ => ERC20.counted_empty⟩
  · exact fun s event s' invariant taken =>
      ⟨registered_step invariant.1 taken, counted_step invariant.1 invariant.2 taken⟩

def factors (asset : Address) (world : World) (event : Event) (_ : World) : List Nat :=
  (world.updated asset event).map fun before => before.configuration.getReserveFactor

-- An event that does not update the reserve leaves its quote and its supply, and takes no cash.
theorem quiet_step {event : Event} (booked : Booked asset world)
    (taken : world.step event = .ok next) (quiet : world.updated asset event = []) :
    Reserve.SameQuote (world.pool.reserves asset) (next.pool.reserves asset) ∧
      (next.pool.reserves asset).lToken.base.totalSupply =
        (world.pool.reserves asset).lToken.base.totalSupply ∧
      world.liquidity asset ≤ next.liquidity asset := by
  have cash := step_liquidity booked taken
  have still : postings asset world event next = [] →
      world.liquidity asset ≤ next.liquidity asset := by
    intro none
    rw [none] at cash
    simp only [List.map_nil, List.sum_nil] at cash
    omega
  cases event with
  | call msgSender made =>
      obtain ⟨_, _, pool, executed, rfl⟩ := step_call taken
      obtain ⟨leaves, idle⟩ := Call.leaves_of_quiet executed quiet
      have rests := Call.execute_rests leaves idle executed
      refine ⟨⟨?_, ?_, rests.openDebts⟩, rests.supply, ?_⟩
      · rw [withPool, rests.data]
      · rw [withPool, rests.data]
      · rw [liquidity, liquidity, withPool, rests.cash]
        exact le_refl _
  | admin =>
      obtain ⟨pool, administered, rfl⟩ := step_admin taken
      obtain ⟨_, _, shape⟩ := administered_listed booked.registered booked.listed administered
      refine ⟨?_, ?_, still rfl⟩
      · rw [withPool, shape]
        exact ⟨rfl, rfl, rfl⟩
      · rw [withPool, shape]
  | flashLoan =>
      obtain ⟨pool, pending, run⟩ := step_flashLoan taken
      have apart := booked.registered.apart run.receiver asset booked.listed
      obtain ⟨books, lTokens, _⟩ := openFlashLoan_reserve apart run.opened
      refine ⟨?_, ?_, still rfl⟩
      · rw [run.result]
        exact .of_books books
      · rw [run.result, lTokens]
  | executed =>
      obtain ⟨_, _, _, _, rfl⟩ := step_executed taken
      exact ⟨⟨rfl, rfl, rfl⟩, rfl, still rfl⟩
  | settle =>
      obtain ⟨frame, rest, entry, pending, pool, run⟩ := step_settle taken
      simp only [updated, run.stack, run.queue, ite_eq_right_iff, List.cons_ne_nil, imp_false]
        at quiet
      have none : world.settlePostings asset = [] := by
        simp only [settlePostings, run.stack, run.queue, if_neg quiet]
      have kept := settleFlashLoan_other (Ne.symm quiet) run.settle
      refine ⟨?_, ?_, still none⟩
      · rw [run.result, kept]
        exact ⟨rfl, rfl, rfl⟩
      · rw [run.result, kept]
  | finish =>
      obtain ⟨_, _, _, _, rfl⟩ := step_finish taken
      exact ⟨⟨rfl, rfl, rfl⟩, rfl, still rfl⟩
  | ledger changed underlying =>
      obtain ⟨_, rfl⟩ := step_ledger taken
      have gift : (0 : Int) ≤ ((postings asset world (.ledger changed underlying)
          (world.withPool (world.pool.setReserve changed
            { world.pool.reserves changed with underlying }))).map Posting.cash).sum := by
        simp only [postings]
        split_ifs <;> simp [Posting.cash]
      have rests : Reserve.SameQuote (world.pool.reserves asset) ((world.pool.setReserve changed
          { world.pool.reserves changed with underlying }).reserves asset) ∧
          ((world.pool.setReserve changed { world.pool.reserves changed with underlying }).reserves
            asset).lToken = (world.pool.reserves asset).lToken := by
        by_cases named : asset = changed
        · subst named
          rw [setReserve_same]
          exact ⟨⟨rfl, rfl, rfl⟩, rfl⟩
        · rw [setReserve_other named]
          exact ⟨⟨rfl, rfl, rfl⟩, rfl⟩
      refine ⟨rests.1, ?_, by omega⟩
      rw [withPool, rests.2]
  | observe =>
      obtain ⟨_, _, rfl⟩ := step_observe taken
      exact ⟨⟨rfl, rfl, rfl⟩, rfl, still rfl⟩

-- What a run has made of a reserve since it was listed: nothing was ever supplied, or its liquidity
-- rate is the quote of the last update, for no more cash than it now has and has out.
structure LastQuote (asset : Address) (factor : Option Nat) (world : World) : Prop where
  registered : world.pool.Registered
  sound : world.FramesSound
  quote : (world.pool.reserves asset).lTokenAddress ≠ 0 →
    (world.pool.reserves asset).lToken.base.totalSupply = 0 ∨
      ∃ cash ≤ world.liquidity asset, ∃ last, factor = some last ∧
        (world.pool.reserves asset).Quoted last cash

-- Whatever updates the reserve reads the factor it had before, and leaves the quote of it.
theorem update_quotes {event : Event} (booked : Booked asset world)
    (taken : world.step event = .ok next) (updates : world.updated asset event ≠ []) :
    (factors asset world event next).getLast? =
        some (world.pool.reserves asset).configuration.getReserveFactor ∧
      (next.pool.reserves asset).configuration = (world.pool.reserves asset).configuration ∧
      (next.pool.reserves asset).Requoted := by
  have read : (factors asset world event next).getLast? =
      some (world.pool.reserves asset).configuration.getReserveFactor := by
    rw [factors]
    rcases step_turns asset booked.registered taken with turns | ⟨none, _⟩
    · generalize world.updated asset event = updated at turns updates
      cases turns with
      | rest => exact absurd rfl updates
      | once => rfl
      | twice work =>
          have settings := Reserve.Operations.settings (.head (.accrue work.accrue) work.operations)
          simp [settings.configuration]
    · exact absurd none updates
  refine ⟨read, ?_⟩
  cases event with
  | call msgSender made =>
      obtain ⟨_, outside, pool, executed, rfl⟩ := step_call taken
      refine ⟨((Call.execute_operates executed).operations asset).settings.configuration, ?_⟩
      exact call_requoted booked.registered booked.listed outside executed updates
  | settle =>
      obtain ⟨frame, rest, entry, pending, pool, run⟩ := step_settle taken
      have member : frame ∈ world.frames := by simp [run.stack]
      have waiting : entry ∈ frame.pending := by simp [run.queue]
      obtain ⟨_, address, apart⟩ := booked.sound frame member entry waiting
      simp only [updated, run.stack, run.queue] at updates
      obtain rfl : entry.asset = asset := of_not_not fun other => updates (if_neg other)
      rw [run.result]
      refine ⟨((settleFlashLoan_operates run.settle).operations _).settings.configuration, ?_⟩
      obtain ⟨_, _, _, _, ⟨_, _, _, _, _, _, repaid⟩ | ⟨_, borrowed⟩⟩ :=
        settleFlashLoan_ok run.settle
      · rw [repaid.result, setReserve_same]
        exact repaid.requoted address apart
      · obtain ⟨_, _, _, _, _, _, _, _, lent⟩ := executeBorrow_ok borrowed
        rw [lent.result, setUserConfig_reserves, setReserve_same]
        exact lent.requoted address fun releases => absurd releases Bool.false_ne_true
  | admin | flashLoan | executed | finish | ledger | observe => exact absurd rfl updates

theorem LastQuote.step {event : Event} {factor : Option Nat}
    (priced : LastQuote asset factor world) (taken : world.step event = .ok next) :
    LastQuote asset ((factors asset world event next).getLast?.or factor) next := by
  refine ⟨registered_step priced.registered taken,
    framesSound_step priced.registered priced.sound taken, fun listed' => ?_⟩
  by_cases listed : (world.pool.reserves asset).lTokenAddress = 0
  · left
    rcases step_evolves taken with ⟨input, _, _, computed⟩ | evolves
    · have fresh := (listings_induction (fun pool => (pool.reserves asset).lTokenAddress = 0 ∨
        (pool.reserves asset).lToken.base.totalSupply = 0) ?_ priced.registered (.inl listed)
        computed).2
      · exact fresh.resolve_left listed'
      · intro pool after listing configuration _ before entered
        by_cases same : asset = listing.underlyingAsset
        · subst same
          right
          rw [entered.result]
          simp only [setReserve, listedReserve, Function.update_self]
          rfl
        · rw [entered.appended.others asset same]
          exact before
    · rw [(evolves.keeps asset).lTokenAddress] at listed'
      exact absurd listed listed'
  · have booked : Booked asset world := ⟨priced.registered, priced.sound, listed⟩
    by_cases quiet : world.updated asset event = []
    · obtain ⟨same, supply, more⟩ := quiet_step booked taken quiet
      rw [factors, quiet, supply]
      rcases priced.quote listed with none | ⟨cash, within, last, known, quoted⟩
      · exact .inl none
      · exact .inr ⟨cash, le_trans within more, last, known, quoted.kept same⟩
    · obtain ⟨read, kept, cash, within, quoted⟩ := update_quotes booked taken quiet
      rw [read]
      rw [kept] at quoted
      exact .inr ⟨cash, le_trans within (Nat.le_add_right _ _), _, rfl, quoted⟩

def lastFactor (asset : Address) (start : World) (events : List Event) : Nat :=
  (trace step (factors asset) start events).getLast?.getD 0

-- As long as anybody holds lTokens there is cash, or what the borrowers pay on the debts of the
-- last update is a rate for the suppliers after the reserve factor.
def SuppliersPaid (asset : Address) (factor : Nat) (world : World) : Prop :=
  (∃ account, (world.pool.reserves asset).lToken.scaledBalanceOf account ≠ 0) →
    (world.pool.reserves asset).availableLiquidity ≠ 0 ∨
      PERCENTAGE_FACTOR ≤ 2 * ((world.pool.reserves asset).supplyRate (world.liquidity asset) *
        (PERCENTAGE_FACTOR - factor))

def EmptyWhenOff (asset : Address) (world : World) : Prop :=
  ∀ msgSender after, world.pool.SwitchesOff msgSender asset after →
    (after.reserves asset).lTokenTotalSupply world.env.timestamp = .ok 0

theorem lastQuote (asset : Address) {start : World} {events : List Event}
    (initial : start.Initial)
    (ran : run step start events = .ok world) :
    LastQuote asset (trace step (factors asset) start events).getLast? world := by
  have reached : start.Reachable := ⟨start, [], initial, rfl⟩
  have opened : LastQuote asset none start := by
    refine ⟨reached.registered, reached.framesSound, fun listed => ?_⟩
    obtain ⟨_, self, provider, ledgers, fresh⟩ := initial
    rw [fresh] at listed
    exact absurd rfl listed
  have kept : ∀ (before : World) (e : Event) (after : World) (last : Option Nat),
      LastQuote asset last before → step before e = .ok after →
        LastQuote asset ((factors asset before e after).getLast?.or last) after :=
    fun _ _ _ _ priced taken => priced.step taken
  have held := trace_last (LastQuote asset) kept opened ran
  rwa [Option.or_none] at held

/-- The check is passed with no cash and no liquidity rate, which is what suppliers are left with
when everything is lent out and what the borrowers pay goes to the treasury or is rounded away. -/
theorem switched_off_empty {start : World} {events : List Event} (initial : start.Initial)
    (ran : run step start events = .ok world)
    (listed : (world.pool.reserves asset).lTokenAddress ≠ 0) :
    (SuppliersPaid asset (lastFactor asset start events) world → EmptyWhenOff asset world) ∧
      (world.outstanding asset = 0 → EmptyWhenOff asset world →
        SuppliersPaid asset (lastFactor asset start events) world) := by
  have reached : world.Reachable := ⟨start, events, initial, ran⟩
  have sound := reached.registered.sound asset
  have counted := (reached.counted asset).totalSupply_eq_zero
  have quote := (lastQuote asset initial ran).quote listed
  have supply : ∀ configuration : ReserveConfigurationMap,
      { world.pool.reserves asset with configuration }.lTokenTotalSupply world.env.timestamp =
          .ok 0 ↔ (world.pool.reserves asset).lToken.scaledTotalSupply = 0 :=
    fun _ => Reserve.lTokenTotalSupply_eq_zero listed ⟨sound.1, sound.2⟩
  constructor
  · intro paid msgSender after off
    obtain ⟨checked, configuration, rfl⟩ := off.checked
    rw [LendingPoolConfigurator.checkNoLiquidity, require_eq_ok] at checked
    rw [setReserve_same, supply]
    by_contra some
    rcases quote with none | ⟨cash, within, last, known, quoted⟩
    · exact some none
    have held : ∃ account, (world.pool.reserves asset).lToken.scaledBalanceOf account ≠ 0 :=
      not_forall.1 fun all => some (counted.2 all)
    rcases paid held with cash | rate
    · exact cash checked.1
    · rw [lastFactor, known, Option.getD_some] at rate
      refine quoted.rate_ne_zero_iff.2 (le_trans rate ?_) checked.2
      exact Nat.mul_le_mul_left _ (Nat.mul_le_mul_right _ (Reserve.supplyRate_anti within))
  · intro back emptied held
    by_contra unpaid
    rw [not_or, not_not] at unpaid
    obtain ⟨none, unrated⟩ := unpaid
    obtain ⟨account, holds⟩ := held
    have some : (world.pool.reserves asset).lToken.scaledTotalSupply ≠ 0 :=
      fun empty => holds (counted.1 empty account)
    rcases quote with empty | ⟨cash, within, last, known, quoted⟩
    · exact some empty
    have empty : world.liquidity asset = 0 := by rw [liquidity, none, back]
    obtain rfl : cash = 0 := by omega
    rw [lastFactor, known, Option.getD_some, empty, ← quoted.rate_ne_zero_iff, not_not] at unrated
    have checked : LendingPoolConfigurator.checkNoLiquidity world.pool asset = .ok () := by
      rw [LendingPoolConfigurator.checkNoLiquidity, require_eq_ok]
      exact ⟨none, unrated⟩
    obtain ⟨after, off⟩ := switchesOff_of_checked checked
    obtain ⟨_, configuration, rfl⟩ := off.checked
    have nothing := emptied _ _ off
    rw [setReserve_same, supply] at nothing
    exact some nothing

-- All of a deposit is borrowed, and a tenth of the interest goes to the treasury.
def allEarning : List Event :=
  Market.opening 10 Market.strategy ++ Market.opening 20 Market.strategy ++
    [.call 100 (.deposit 10 100 100), .call 101 (.deposit 20 1000 101),
      .admin 3 (.setReserveFactor 10 1000), .call 101 (.borrow 10 100 2 101)]

theorem switched_off_empty_earning :
    ∃ world : World, run step Market.start allEarning = .ok world ∧
      (world.pool.reserves 10).lTokenTotalSupply world.env.timestamp = .ok 100 ∧
      (world.pool.reserves 10).availableLiquidity = 0 ∧ EmptyWhenOff 10 world ∧
      SuppliersPaid 10 (lastFactor 10 Market.start allEarning) world := by
  have outcome : yields (run step Market.start allEarning) (fun world =>
      ((world.pool.reserves 10).lTokenAddress ≠ 0 ∧
        (world.pool.reserves 10).lTokenTotalSupply world.env.timestamp = .ok 100 ∧
        (world.pool.reserves 10).availableLiquidity = 0 ∧ world.outstanding 10 = 0) ∧
      PERCENTAGE_FACTOR ≤ 2 * ((world.pool.reserves 10).supplyRate (world.liquidity 10) *
        (PERCENTAGE_FACTOR - lastFactor 10 Market.start allEarning))) := by
    decide +kernel
  obtain ⟨world, ran, facts⟩ := yields_iff.1 outcome
  obtain ⟨⟨listed, supplied, cash, back⟩, rate⟩ := of_decide_eq_true facts
  obtain ⟨enough, needed⟩ := switched_off_empty Market.start_initial ran listed
  have emptied := enough fun _ => .inr rate
  exact ⟨world, ran, supplied, cash, emptied, needed back emptied⟩

-- All of a deposit is borrowed while the treasury takes the whole of the interest.
def allLentOut : List Event :=
  Market.opening 10 Market.strategy ++ Market.opening 20 Market.strategy ++
    [.call 100 (.deposit 10 100 100), .call 101 (.deposit 20 1000 101),
      .admin 3 (.setReserveFactor 10 10000), .call 101 (.borrow 10 100 2 101)]

-- The supplier of a hundred units is left with a reserve that no longer lets anybody withdraw.
theorem switched_off_allLentOut :
    ∃ world : World, ∃ after collateral : LendingPool,
      Runs.run step Market.start allLentOut = .ok world ∧
      LendingPoolConfigurator.deactivateReserve world.pool 3 10 = .ok after ∧
      LendingPoolConfigurator.configureReserveAsCollateral world.pool 3 10 0 0 0 = .ok collateral ∧
      (after.reserves 10).lTokenTotalSupply world.env.timestamp = .ok 100 ∧
      (collateral.reserves 10).lTokenTotalSupply world.env.timestamp = .ok 100 := by
  have outcome : yields (Runs.run step Market.start allLentOut) (fun world =>
      yields (LendingPoolConfigurator.deactivateReserve world.pool 3 10) (fun after =>
        yields ((after.reserves 10).lTokenTotalSupply world.env.timestamp) (· = 100)) &&
      yields (LendingPoolConfigurator.configureReserveAsCollateral world.pool 3 10 0 0 0)
        (fun after =>
          yields ((after.reserves 10).lTokenTotalSupply world.env.timestamp) (· = 100))) := by
    decide +kernel
  obtain ⟨world, ran, both⟩ := yields_iff.1 outcome
  obtain ⟨first, second⟩ := (Bool.and_eq_true _ _).mp both
  obtain ⟨after, deactivated, shown⟩ := yields_iff.1 first
  obtain ⟨collateral, configured, shown'⟩ := yields_iff.1 second
  obtain ⟨supply, read, hundred⟩ := yields_iff.1 shown
  obtain ⟨supply', read', hundred'⟩ := yields_iff.1 shown'
  obtain rfl := of_decide_eq_true hundred
  obtain rfl := of_decide_eq_true hundred'
  exact ⟨world, after, collateral, ran, deactivated, configured, read, read'⟩

end World

end PalmyProtocol
