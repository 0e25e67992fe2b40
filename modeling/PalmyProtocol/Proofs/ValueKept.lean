import PalmyProtocol.Proofs.CashAccounted
import PalmyProtocol.System.NetClaims

set_option autoImplicit false

namespace PalmyProtocol

open Checked LendingPool Runs Reserve

namespace LendingPool

variable {env : Env} {pool after : LendingPool} {msgSender asset user onBehalfOf : Address}
  {amount : Nat}

theorem Deposited.drifts {accrued rated funded minted : Reserve} {first : Bool}
    {config : UserConfigurationMap} (standing : Standing env.timestamp (pool.reserves asset))
    (run : Deposited env pool msgSender asset amount onBehalfOf accrued rated funded minted first
      config after) : Drifts env.timestamp (-amount) 1 (pool.reserves asset) minted := by
  have accrues := Drifts.accrue standing run.accrue
  have rates := accrues.trans (.rate accrues.standing run.rate)
  have funds := rates.trans (.fund rates.standing run.fund)
  have mints := funds.trans (.mintLToken funds.standing run.mint)
  exact mints.weaken (by simp) (by simp)

theorem Withdrawn.drifts {recipient : Address} {userBalance : Nat} {accrued rated burned : Reserve}
    {config : UserConfigurationMap} (standing : Standing env.timestamp (pool.reserves asset))
    (run : Withdrawn env pool msgSender asset recipient amount userBalance accrued rated burned
      config after) : Drifts env.timestamp amount 1 (pool.reserves asset) burned := by
  have accrues := Drifts.accrue standing run.accrue
  have rates := accrues.trans (.rate accrues.standing run.rate)
  have burns := rates.trans (.burnLToken rates.standing run.burn)
  exact burns.weaken (by simp) (by simp)

theorem Borrowed.drifts {vars : ExecuteBorrowParams} {amountInETH : Nat}
    {accrued minted rated released : Reserve} {mode : InterestRateMode} {first : Bool}
    {config : UserConfigurationMap}
    (standing : Standing env.timestamp (pool.reserves vars.asset))
    (run : Borrowed env pool vars amountInETH accrued minted rated released mode first config
      after) : Drifts env.timestamp vars.amount 1 (pool.reserves vars.asset) released := by
  have mint := run.mint
  have release := run.release
  have accrues := Drifts.accrue standing run.accrue
  have lends : Drifts env.timestamp vars.amount 1 accrued minted := by
    split_ifs at mint
    · exact (Drifts.mintStableDebt accrues.standing mint).weaken (le_refl _) (by simp)
    · exact .mintVariableDebt accrues.standing mint
  have rates := lends.trans (.rate lends.standing run.rate)
  have releases : Drifts env.timestamp 0 0 rated released := by
    split_ifs at release
    · exact .release rates.standing release
    · cases release
      exact .refl rates.standing
  exact (accrues.trans (rates.trans releases)).weaken (by simp) (by simp)

theorem Repaid.drifts {mode : InterestRateMode} {stableDebt variableDebt payback : Nat}
    {accrued burned rated funded : Reserve} {config : UserConfigurationMap}
    (standing : Standing env.timestamp (pool.reserves asset))
    (run : Repaid env pool msgSender asset amount mode onBehalfOf stableDebt variableDebt payback
      accrued burned rated funded config after) :
    Drifts env.timestamp (-payback) 1 (pool.reserves asset) funded := by
  have burn := run.burn
  have accrues := Drifts.accrue standing run.accrue
  have pays : Drifts env.timestamp (-payback) 1 accrued burned := by
    split_ifs at burn
    · exact (Drifts.burnStableDebt accrues.standing burn).weaken (le_refl _) (by simp)
    · exact .burnVariableDebt accrues.standing burn
  have rates := pays.trans (.rate pays.standing run.rate)
  have funds := rates.trans (.fund rates.standing run.fund)
  exact (accrues.trans funds).weaken (by simp) (by simp)

theorem Swapped.drifts {mode : InterestRateMode} {stableDebt variableDebt : Nat}
    {accrued burned minted rated : Reserve} {first : Bool}
    (standing : Standing env.timestamp (pool.reserves asset))
    (run : Swapped env pool msgSender asset mode stableDebt variableDebt accrued burned minted rated
      first after) : Drifts env.timestamp 0 1 (pool.reserves asset) rated := by
  have burn := run.burn
  have mint := run.mint
  have accrues := Drifts.accrue standing run.accrue
  have swaps : Drifts env.timestamp 0 1 accrued minted := by
    split_ifs at burn mint
    · have burns := Drifts.burnStableDebt accrues.standing burn
      exact (burns.trans (.mintVariableDebt burns.standing mint)).weaken (by simp) (by simp)
    · have burns := Drifts.burnVariableDebt accrues.standing burn
      exact (burns.trans (.mintStableDebt burns.standing mint)).weaken (by simp) (by simp)
  have rates := swaps.trans (.rate swaps.standing run.rate)
  exact (accrues.trans rates).weaken (by simp) (by simp)

theorem Rebalanced.drifts {stableDebt : Nat} {accrued burned minted rated : Reserve} {first : Bool}
    (standing : Standing env.timestamp (pool.reserves asset))
    (run : Rebalanced env pool asset user stableDebt accrued burned minted rated first after) :
    Drifts env.timestamp 0 0 (pool.reserves asset) rated := by
  have accrues := Drifts.accrue standing run.accrue
  have burns := accrues.trans (.burnStableDebt accrues.standing run.burn)
  have mints := burns.trans (.mintStableDebt burns.standing run.mint)
  exact (mints.trans (.rate mints.standing run.rate)).weaken (by simp) (by simp)

theorem drifts_setReserve {other : Address} {reserve : Reserve} {shift : ℚ} {grains : Nat}
    (standing : Standing env.timestamp (pool.reserves asset))
    (drifts : Standing env.timestamp (pool.reserves other) →
      Drifts env.timestamp shift grains (pool.reserves other) reserve) :
    Drifts env.timestamp (if other = asset then shift else 0)
      (if other = asset then grains else 0) (pool.reserves asset)
      ((pool.setReserve other reserve).reserves asset) := by
  split_ifs with same
  · subst same
    rw [setReserve_same]
    exact drifts standing
  · rw [setReserve_other (Ne.symm same)]
    exact .refl standing

end LendingPool

namespace LendingPoolCollateralManager

variable {env : Env} {pool repaid seized after : LendingPool}
  {asset msgSender collateralAsset debtAsset user : Address} {amount : Nat} {receiveLToken : Bool}

theorem burnDebt_drifts {reserve burned : Reserve} {actual userVariableDebt : Nat}
    (standing : Standing env.timestamp reserve)
    (computed : burnDebt env reserve user actual userVariableDebt = .ok burned) :
    Drifts env.timestamp (-actual) 1 reserve burned := by
  rcases burnDebt_ok computed with ⟨_, burn⟩ | ⟨more, floating, first, second⟩
  · exact .burnVariableDebt standing burn
  · have floats : Drifts env.timestamp (-userVariableDebt) 1 reserve floating := by
      split_ifs at first with some
      · exact .burnVariableDebt standing first
      · obtain rfl : userVariableDebt = 0 := Nat.eq_zero_of_not_pos some
        cases first
        exact (Drifts.refl standing).weaken (by simp) (by simp)
    have burns := floats.trans (.burnStableDebt floats.standing second)
    refine burns.weaken (le_of_eq ?_) (by simp)
    rw [Nat.cast_sub (Nat.le_of_lt more)]
    ring

theorem repayDebt_drifts {actual userVariableDebt : Nat}
    (standing : Standing env.timestamp (pool.reserves asset))
    (computed : repayDebt env pool debtAsset user actual userVariableDebt = .ok after) :
    Drifts env.timestamp (if debtAsset = asset then -(actual : ℚ) else 0)
      (if debtAsset = asset then 1 else 0) (pool.reserves asset) (after.reserves asset) := by
  obtain ⟨_, _, _, run⟩ := repayDebt_ok computed
  rw [run.result]
  apply drifts_setReserve standing
  intro here
  have accrues := Drifts.accrue here run.accrue
  have burns := accrues.trans (burnDebt_drifts accrues.standing run.burn)
  exact (burns.trans (.rate burns.standing run.rate)).weaken (by simp) (by simp)

theorem seize_drifts (standing : Standing env.timestamp (pool.reserves asset))
    (computed : (if receiveLToken then seizeLTokens env pool msgSender collateralAsset user amount
      else seizeUnderlying env pool msgSender collateralAsset user amount) = .ok after) :
    Drifts env.timestamp (if collateralAsset = asset ∧ receiveLToken = false then amount else 0)
      (if collateralAsset = asset ∧ receiveLToken = false then 1 else 0) (pool.reserves asset)
      (after.reserves asset) := by
  split_ifs at computed with receiving
  · obtain ⟨_, _, _, lToken, _, leg⟩ := seizeLTokens_ok computed
    obtain ⟨_, _, moved⟩ := LToken.transfer_ok leg.transfer
    rw [leg.result, setUserConfig_reserves, if_neg (by simp [receiving])]
    have moves : Drifts env.timestamp (if collateralAsset = asset then 0 else 0)
        (if collateralAsset = asset then 0 else 0) (pool.reserves asset)
        ((pool.setReserve collateralAsset
          { pool.reserves collateralAsset with lToken }).reserves asset) :=
      drifts_setReserve standing fun here =>
        .of_same here rfl rfl rfl moved.totalSupply ⟨_, rfl⟩ rfl
    exact moves.weaken (by simp) (by simp)
  · obtain ⟨_, _, _, leg⟩ := seizeUnderlying_ok computed
    rw [leg.result]
    have takes : Drifts env.timestamp (if collateralAsset = asset then (amount : ℚ) else 0)
        (if collateralAsset = asset then 1 else 0) (pool.reserves asset)
        ((pool.setReserve collateralAsset _).reserves asset) :=
      drifts_setReserve standing fun here => by
        have accrues := Drifts.accrue here leg.accrue
        have rates := accrues.trans (.rate accrues.standing leg.rate)
        exact (rates.trans (.burnLToken rates.standing leg.burn)).weaken (by simp) (by simp)
    exact takes.weaken (by simp [receiving]) (by simp [receiving])

theorem Executed.drifts {actual userVariableDebt collateral collateralBalance : Nat}
    {config : UserConfigurationMap} {funded : Reserve}
    (standing : Standing env.timestamp (pool.reserves asset))
    (exec : Executed env pool msgSender collateralAsset debtAsset user actual userVariableDebt
      collateral collateralBalance receiveLToken repaid seized config funded after) :
    Drifts env.timestamp ((if debtAsset = asset then -(actual : ℚ) else 0) +
        if collateralAsset = asset ∧ receiveLToken = false then collateral else 0)
      ((if debtAsset = asset then 1 else 0) +
        if collateralAsset = asset ∧ receiveLToken = false then 1 else 0)
      (pool.reserves asset) (after.reserves asset) := by
  have repays := repayDebt_drifts standing exec.repay
  have seizes := repays.trans (seize_drifts repays.standing exec.seize)
  have funds : Drifts env.timestamp (if debtAsset = asset then 0 else 0)
      (if debtAsset = asset then 0 else 0) (seized.reserves asset)
      (((seized.setUserConfig user config).setReserve debtAsset funded).reserves asset) :=
    drifts_setReserve seizes.standing fun here => .fund here exec.fund
  rw [exec.result]
  exact (seizes.trans funds).weaken (by simp) (by simp)

end LendingPoolCollateralManager

def cashOf (postings : List Posting) : ℚ := ((postings.map Posting.cash).sum : Int)

namespace Call

-- How often a call makes shares of an amount of the asset, for the depositors or for a debt.
def grains (asset : Address) : Call → Nat
  | .deposit a _ _ | .withdraw a _ _ | .borrow a _ _ _ | .repay a _ _ _
  | .swapBorrowRateMode a _ => if a = asset then 1 else 0
  | .liquidationCall collateralAsset debtAsset _ _ receiveLToken =>
      (if debtAsset = asset then 1 else 0) +
        if collateralAsset = asset ∧ receiveLToken = false then 1 else 0
  | _ => 0

variable {env : Env} {pool after : LendingPool} {msgSender asset : Address}

-- One case for each call that posts something: the claims move against the cash.
theorem execute_drifts {call : Call} (standing : Standing env.timestamp (pool.reserves asset))
    (executed : call.execute env pool msgSender = .ok after) :
    Drifts env.timestamp (-cashOf (call.postings env pool asset msgSender)) (call.grains asset)
      (pool.reserves asset) (after.reserves asset) := by
  have elsewhere : asset ∉ call.assets → call.postings env pool asset msgSender = [] →
      Drifts env.timestamp (-cashOf (call.postings env pool asset msgSender)) (call.grains asset)
        (pool.reserves asset) (after.reserves asset) := by
    intro untouched none
    rw [none, execute_other untouched executed]
    exact (Drifts.refl standing).weaken (by simp [cashOf]) (by simp)
  cases call with
  | deposit a amount onBehalfOf =>
      by_cases same : a = asset
      · subst same
        obtain ⟨_, _, _, _, _, _, run⟩ := deposit_ok executed
        rw [run.result, setUserConfig_reserves, setReserve_same]
        exact (run.drifts standing).weaken (by simp [cashOf, postings, Posting.cash])
          (by simp [grains])
      · exact elsewhere (by simpa [assets] using Ne.symm same) (if_neg same)
  | withdraw a amount recipient =>
      by_cases same : a = asset
      · subst same
        simp only [execute, bind_eq_ok, Prod.exists, pure_eq_ok] at executed
        obtain ⟨_, taken, executed, rfl⟩ := executed
        simp only [postings, true_and, executed]
        obtain ⟨_, _, _, _, _, _, run⟩ := withdraw_ok executed
        rw [run.result, setUserConfig_reserves, setReserve_same]
        refine (run.drifts standing).weaken ?_ (by simp [grains])
        split_ifs <;> simp [cashOf, Posting.cash]
      · exact elsewhere (by simpa [assets] using Ne.symm same) (if_neg fun both => same both.1)
  | borrow a amount mode onBehalfOf =>
      by_cases same : a = asset
      · subst same
        simp only [execute, LendingPool.borrow, bind_eq_ok] at executed
        obtain ⟨_, _, computed⟩ := executed
        obtain ⟨_, _, _, _, _, _, _, _, run⟩ := executeBorrow_ok computed
        rw [run.result, setUserConfig_reserves, setReserve_same]
        exact (run.drifts standing).weaken (by simp [cashOf, postings, Posting.cash])
          (by simp [grains])
      · exact elsewhere (by simpa [assets] using Ne.symm same) (if_neg same)
  | repay a amount rateMode onBehalfOf =>
      by_cases same : a = asset
      · subst same
        simp only [execute, bind_eq_ok, Prod.exists, pure_eq_ok] at executed
        obtain ⟨_, _, executed, rfl⟩ := executed
        simp only [postings, if_true, executed]
        obtain ⟨_, _, _, _, _, _, _, _, _, run⟩ := repay_ok executed
        rw [run.result, setUserConfig_reserves, setReserve_same]
        exact (run.drifts standing).weaken (by simp [cashOf, Posting.cash]) (by simp [grains])
      · exact elsewhere (by simpa [assets] using Ne.symm same) (if_neg same)
  | liquidationCall collateralAsset debtAsset user debtToCover receiveLToken =>
      obtain ⟨_, _, _, _, _, _, _, run⟩ := liquidationCall_ok executed
      obtain ⟨_, _, _, _, exec⟩ :=
        LendingPoolCollateralManager.executeLiquidation_ok run.execute
      have amounts := LendingPoolCollateralManager.Liquidated.settled run
      refine (exec.drifts standing).weaken (le_of_eq ?_) (le_refl _)
      simp only [postings, amounts, cashOf]
      split_ifs <;> simp [Posting.cash, add_comm]
  | swapBorrowRateMode a rateMode =>
      by_cases same : a = asset
      · subst same
        obtain ⟨_, _, _, _, _, _, _, _, _, run⟩ := swapBorrowRateMode_ok executed
        rw [run.result, setReserve_same]
        exact (run.drifts standing).weaken (by simp [cashOf, postings]) (by simp [grains])
      · exact elsewhere (by simpa [assets] using Ne.symm same) rfl
  | rebalanceStableBorrowRate a user =>
      by_cases same : a = asset
      · subst same
        obtain ⟨_, _, _, _, _, _, run⟩ := rebalanceStableBorrowRate_ok executed
        rw [run.result, setReserve_same]
        exact (run.drifts standing).weaken (by simp [cashOf, postings]) (by simp [grains])
      · exact elsewhere (by simpa [assets] using Ne.symm same) rfl
  | _ =>
      have rests : Rests (pool.reserves asset) (after.reserves asset) :=
        execute_rests (by simp [Leaves]) (by simp) executed
      refine (Drifts.of_same standing ?_ ?_ ?_ rests.supply rests.stable rests.floating).weaken
        (by simp [cashOf, postings]) (by simp)
      all_goals rw [rests.data]

end Call

def Event.AtOnce (now : Nat) : Event → Prop
  | .observe env => env.timestamp = now
  | _ => True

namespace World

variable {world next : World} {asset : Address} {now : Nat}

-- What a reserve has in cash, out in flash loans and owed by its borrowers, less what its
-- depositors own.
noncomputable def value (asset : Address) (world : World) : ℚ :=
  world.liquidity asset + (world.pool.reserves asset).net world.env.timestamp

def roundings (asset : Address) (world : World) (event : Event) (next : World) : List ℚ :=
  match event with
  | .call _ made => [made.grains asset * (world.pool.reserves asset).grain]
  | .settle => (world.settlePostings asset).map fun _ =>
      (next.pool.reserves asset).grain + (world.pool.reserves asset).dust
  | _ => []

structure InBlock (now : Nat) (asset : Address) (world : World) : Prop where
  clock : world.env.timestamp = now
  booked : Booked asset world
  standing : Standing now (world.pool.reserves asset)

-- A premium goes to the depositors, and a loan that is kept becomes a debt.
theorem settle_net {frame : Frame} {rest : List Frame} {entry : FlashLoanEntry}
    {pending : List FlashLoanEntry} {pool : LendingPool}
    (standing : Standing world.env.timestamp (world.pool.reserves asset))
    (run : Settled world frame rest entry pending pool next) :
    Standing world.env.timestamp (next.pool.reserves asset) ∧
      (world.pool.reserves asset).net world.env.timestamp ≤
        (next.pool.reserves asset).net world.env.timestamp +
          cashOf (world.settlePostings asset) + ((world.settlePostings asset).map fun _ =>
            (next.pool.reserves asset).grain + (world.pool.reserves asset).dust).sum := by
  have dust : 0 ≤ (world.pool.reserves asset).dust := by
    rw [Reserve.dust]
    positivity
  have shape := run.result
  subst shape
  simp only [settlePostings, run.stack, run.queue]
  by_cases same : entry.asset = asset
  · subst same
    rw [if_pos rfl]
    obtain ⟨rateMode, mode, entered, chosen, settled⟩ := settleFlashLoan_ok run.settle
    rcases settled with ⟨none, totalSupply, accrued, data, rated, funded, repaid⟩ | ⟨some, borrowed⟩
    · subst none
      rw [if_pos (by rw [entered, eq_zero_of_none chosen])]
      have supply := repaid.supply
      have income := repaid.income
      have rate := repaid.rate
      have again := updateState_again standing.current world.env.timestamp_lt repaid.accrue
      rw [again] at supply income rate
      obtain ⟨raised, spread⟩ := income_net standing world.env.timestamp_lt supply income
      have rates := Drifts.rate raised rate
      have funds := rates.trans (.fund rates.standing repaid.fund)
      have later := funds.net
      have same : funded.grain =
          Reserve.grain { world.pool.reserves entry.asset with toReserveData := data } := by
        rw [Reserve.grain, funds.liquidityIndex, funds.variableBorrowIndex, Reserve.grain]
      rw [repaid.result, setReserve_same]
      refine ⟨funds.standing, ?_⟩
      simp only [cashOf, List.map_cons, List.map_nil, List.sum_singleton, Posting.cash]
      push_cast at later ⊢
      linarith
    · have mode_ne : entry.mode ≠ Option.some 0 := by
        rw [entered]
        rintro ⟨⟩
        cases chosen
        exact some rfl
      rw [if_neg mode_ne]
      obtain ⟨_, _, _, _, released, _, _, _, lent⟩ := executeBorrow_ok borrowed
      have drifts := lent.drifts standing
      have later := drifts.net
      have same : released.grain = (world.pool.reserves entry.asset).grain := by
        rw [Reserve.grain, drifts.liquidityIndex, drifts.variableBorrowIndex, Reserve.grain]
      rw [lent.result, setUserConfig_reserves, setReserve_same]
      refine ⟨drifts.standing, ?_⟩
      simp only [cashOf, List.map_cons, List.map_nil, List.sum_singleton, Posting.cash]
      push_cast at later ⊢
      linarith
  · rw [if_neg same, settleFlashLoan_other (Ne.symm same) run.settle]
    refine ⟨standing, ?_⟩
    simp only [cashOf, List.map_nil, List.sum_nil, Int.cast_zero]
    linarith

-- One case for each event: what the claims lose the cash has gained, but for the roundings.
theorem step_net {event : Event} (block : InBlock now asset world)
    (taken : world.step event = .ok next) :
    Standing now (next.pool.reserves asset) ∧ (world.pool.reserves asset).net now ≤
      (next.pool.reserves asset).net now + cashOf (postings asset world event next) +
        (roundings asset world event next).sum := by
  have clock := block.clock
  subst clock
  have standing := block.standing
  have still : Drifts world.env.timestamp 0 0 (world.pool.reserves asset)
      (next.pool.reserves asset) → 0 ≤ cashOf (postings asset world event next) →
      roundings asset world event next = [] →
      Standing world.env.timestamp (next.pool.reserves asset) ∧
        (world.pool.reserves asset).net world.env.timestamp ≤
          (next.pool.reserves asset).net world.env.timestamp +
            cashOf (postings asset world event next) + (roundings asset world event next).sum := by
    intro drifts gained exact
    have later := drifts.net
    rw [exact]
    refine ⟨drifts.standing, ?_⟩
    push_cast at later
    simp only [List.sum_nil]
    linarith
  cases event with
  | call msgSender made =>
      obtain ⟨_, _, pool, executed, rfl⟩ := step_call taken
      have drifts := Call.execute_drifts standing executed
      have later := drifts.net
      refine ⟨drifts.standing, ?_⟩
      simp only [postings, roundings, withPool, List.sum_singleton]
      linarith
  | admin =>
      obtain ⟨pool, administered, rfl⟩ := step_admin taken
      obtain ⟨_, _, shape⟩ :=
        administered_listed block.booked.registered block.booked.listed administered
      refine still ?_ (by simp [cashOf, postings]) rfl
      rw [withPool, shape]
      exact .of_same standing rfl rfl rfl rfl ⟨_, rfl⟩ rfl
  | flashLoan =>
      obtain ⟨pool, pending, run⟩ := step_flashLoan taken
      have apart := block.booked.registered.apart run.receiver asset block.booked.listed
      obtain ⟨books, lTokens, _⟩ := openFlashLoan_reserve apart run.opened
      refine still ?_ (by simp [cashOf, postings]) rfl
      rw [run.result]
      exact .of_same standing (by rw [books.data]) (by rw [books.data]) (by rw [books.data])
        (by rw [lTokens]) ⟨_, books.stable⟩ (by rw [books.floating])
  | executed =>
      obtain ⟨frame, rest, stack, _, rfl⟩ := step_executed taken
      exact still (.refl standing) (by simp [cashOf, postings]) rfl
  | settle =>
      obtain ⟨_, _, _, _, _, run⟩ := step_settle taken
      obtain ⟨later, net⟩ := settle_net standing run
      refine ⟨later, ?_⟩
      simpa only [postings, roundings] using net
  | finish =>
      obtain ⟨frame, rest, stack, empty, rfl⟩ := step_finish taken
      exact still (.refl standing) (by simp [cashOf, postings]) rfl
  | ledger changed underlying =>
      obtain ⟨kept, rfl⟩ := step_ledger taken
      refine still ?_ ?_ rfl
      · by_cases named : asset = changed
        · subst named
          rw [withPool, setReserve_same]
          exact .of_same standing rfl rfl rfl rfl ⟨_, rfl⟩ rfl
        · rw [withPool, setReserve_other named]
          exact .refl standing
      · simp only [postings]
        split_ifs <;> simp [cashOf, Posting.cash]
  | observe =>
      obtain ⟨_, _, rfl⟩ := step_observe taken
      exact still (.refl standing) (by simp [cashOf, postings]) rfl

theorem InBlock.step {event : Event} (block : InBlock now asset world) (once : event.AtOnce now)
    (taken : world.step event = .ok next) : InBlock now asset next where
  clock := by
    rcases step_time taken with same | ⟨env, rfl, rfl⟩
    · rw [same]
      exact block.clock
    · exact once
  booked := block.booked.step taken
  standing := (step_net block taken).1

theorem InBlock.value_le {event : Event} (block : InBlock now asset world) (once : event.AtOnce now)
    (taken : world.step event = .ok next) :
    world.value asset ≤ next.value asset + (roundings asset world event next).sum := by
  have cash := step_liquidity block.booked taken
  have net := (step_net block taken).2
  have later := (block.step once taken).clock
  have cash : (next.liquidity asset : ℚ) =
      world.liquidity asset + cashOf (postings asset world event next) := by
    rw [cashOf]
    exact_mod_cast cash
  rw [value, value, block.clock, later, cash]
  linarith

/-- Within a block nothing takes value out of a reserve: whatever is deposited, withdrawn,
borrowed, repaid, swapped, rebalanced, liquidated and lent in flash loans, by whomever and in
whatever order, what the reserve has and is owed, less what its depositors own, falls by the
roundings at most. -/
theorem Reachable.value_kept (reached : world.Reachable) {events : List Event}
    (listed : (world.pool.reserves asset).lTokenAddress ≠ 0)
    (current : (world.pool.reserves asset).lastUpdateTimestamp = world.env.timestamp)
    (once : ∀ event ∈ events, event.AtOnce world.env.timestamp)
    (ran : run step world events = .ok next) :
    world.value asset ≤ next.value asset + (trace step (roundings asset) world events).sum := by
  have sound := reached.registered.sound asset
  have block : InBlock world.env.timestamp asset world :=
    ⟨rfl, ⟨reached.registered, reached.framesSound, listed⟩, current, sound.liquidityIndex listed,
      sound.variableBorrowIndex listed, reached.fewBorrowers asset⟩
  exact trace_lowers (InBlock world.env.timestamp asset) (Event.AtOnce world.env.timestamp)
    (value asset) (fun _ _ _ block once taken => block.step once taken)
    (fun _ _ _ block once taken => block.value_le once taken) block once ran

def busyBlock : List Event :=
  [.call 101 (.borrow 10 (10 * WAD) 2 101), .call 101 (.borrow 10 (5 * WAD) 1 101),
    .flashLoan 102 103 [10] [5 * WAD] [0] 102, .executed, .settle, .finish,
    .call 101 (.swapBorrowRateMode 10 1), .call 101 (.repay 10 (4 * WAD) 2 101),
    .call 100 (.withdraw 10 (20 * WAD) 100)]

theorem value_kept_busyBlock : ∃ world next,
    run step Market.start (Market.opening 10 Market.strategy ++ Market.opening 20 Market.strategy ++
      [.call 100 (.deposit 10 (100 * WAD) 100), .call 101 (.deposit 20 (100 * WAD) 101)]) =
      .ok world ∧
      run step world busyBlock = .ok next ∧
      (trace step (roundings 10) world busyBlock).length = 6 ∧
      world.value 10 ≤ next.value 10 + (trace step (roundings 10) world busyBlock).sum := by
  have outcome : yields (run step Market.start (Market.opening 10 Market.strategy ++
      Market.opening 20 Market.strategy ++ [.call 100 (.deposit 10 (100 * WAD) 100),
        .call 101 (.deposit 20 (100 * WAD) 101)])) (fun world =>
      (world.pool.reserves 10).lTokenAddress ≠ 0 ∧
        (world.pool.reserves 10).lastUpdateTimestamp = world.env.timestamp ∧
        yields (run step world busyBlock)
          (fun _ => (trace step (roundings 10) world busyBlock).length = 6)) := by
    decide +kernel
  obtain ⟨world, opened, facts⟩ := yields_iff.1 outcome
  obtain ⟨listed, current, later⟩ := of_decide_eq_true facts
  obtain ⟨next, ran, counted⟩ := yields_iff.1 later
  have once : ∀ event ∈ busyBlock, event.AtOnce world.env.timestamp := by
    simp [busyBlock, Event.AtOnce]
  exact ⟨world, next, opened, ran, of_decide_eq_true counted,
    Reachable.value_kept (Market.reachable_of_run opened) listed current once ran⟩

end World

end PalmyProtocol
