import PalmyProtocol.Library.Holdings
import PalmyProtocol.Pool.StandingDebts
import PalmyProtocol.System.FlagMoves

set_option autoImplicit false

namespace PalmyProtocol

open Checked Rounding LendingPool

namespace Reserve

variable {env : Env} {reserve middle after : Reserve} {user : Address} {amount now : Nat}

noncomputable def stableOwed (now : Nat) (reserve : Reserve) : Nat :=
  ∑ᶠ user, reserve.stableDebtToken.debt now user

def worth (shares index : Nat) : ℚ := shares * index / RAY

noncomputable def net (now : Nat) (reserve : Reserve) : ℚ :=
  reserve.stableOwed now +
    worth reserve.variableDebtToken.base.totalSupply reserve.variableBorrowIndex -
    worth reserve.lToken.base.totalSupply reserve.liquidityIndex

def grain (reserve : Reserve) : ℚ :=
  (reserve.liquidityIndex + reserve.variableBorrowIndex) / (2 * RAY)

theorem worth_add (shares shares' index : Nat) :
    worth (shares + shares') index = worth shares index + worth shares' index := by
  simp only [worth, Nat.cast_add]
  ring

theorem worth_near (amount : Nat) {index : Nat} (whole : RAY ≤ index) :
    |worth (divHalfUp (amount * RAY) index) index - amount| ≤ index / (2 * RAY) := by
  have unit : (0 : ℚ) < RAY := by norm_num [RAY]
  have positive : 0 < index := lt_of_lt_of_le RAY_pos whole
  have priced : (0 : ℚ) < index := by exact_mod_cast positive
  have upper := divHalfUp_le_add_half (K := ℚ) (n := amount * RAY) positive
  have lower := div_le_divHalfUp_add_half (K := ℚ) (n := amount * RAY) positive
  rw [worth]
  generalize (divHalfUp (amount * RAY) index : ℚ) = shares at *
  rw [Nat.cast_mul] at upper lower
  have exact : (amount : ℚ) = amount * RAY / index * (index / RAY) := by field_simp
  have half : (index : ℚ) / (2 * RAY) = 1 / 2 * (index / RAY) := by ring
  have share : shares * (index : ℚ) / RAY = shares * (index / RAY) := by ring
  have price : (0 : ℚ) ≤ index / RAY := by positivity
  rw [exact, half, share, ← sub_mul, abs_mul, abs_of_nonneg price]
  apply mul_le_mul_of_nonneg_right _ price
  exact abs_le.2 ⟨by linarith, by linarith⟩

theorem liquidity_le_grain (reserve : Reserve) :
    (reserve.liquidityIndex : ℚ) / (2 * RAY) ≤ reserve.grain := by
  rw [grain]
  gcongr
  exact le_add_of_nonneg_right (Nat.cast_nonneg _)

theorem variable_le_grain (reserve : Reserve) :
    (reserve.variableBorrowIndex : ℚ) / (2 * RAY) ≤ reserve.grain := by
  rw [grain]
  gcongr
  exact le_add_of_nonneg_left (Nat.cast_nonneg _)

structure Standing (now : Nat) (reserve : Reserve) : Prop where
  current : reserve.lastUpdateTimestamp = now
  liquidityIndex : RAY ≤ reserve.liquidityIndex
  variableBorrowIndex : RAY ≤ reserve.variableBorrowIndex
  borrowers : (Function.support reserve.stableDebtToken.base.balances).Finite

theorem Standing.owing (standing : Standing now reserve) :
    (Function.support (reserve.stableDebtToken.debt now)).Finite := by
  apply standing.borrowers.subset
  intro user owes
  rw [Function.mem_support] at owes ⊢
  exact fun none => owes (StableDebtToken.debt_of_no_principal none)

structure Drifts (now : Nat) (shift : ℚ) (grains : Nat) (reserve after : Reserve) : Prop where
  standing : Standing now after
  liquidityIndex : after.liquidityIndex = reserve.liquidityIndex
  variableBorrowIndex : after.variableBorrowIndex = reserve.variableBorrowIndex
  net : reserve.net now + shift - grains * reserve.grain ≤ after.net now

namespace Drifts

variable {shift shift' : ℚ} {grains grains' : Nat}

theorem refl (standing : Standing now reserve) : Drifts now 0 0 reserve reserve :=
  ⟨standing, rfl, rfl, by simp⟩

theorem trans (first : Drifts now shift grains reserve middle)
    (second : Drifts now shift' grains' middle after) :
    Drifts now (shift + shift') (grains + grains') reserve after where
  standing := second.standing
  liquidityIndex := second.liquidityIndex.trans first.liquidityIndex
  variableBorrowIndex := second.variableBorrowIndex.trans first.variableBorrowIndex
  net := by
    have net := first.net
    have net' := second.net
    have same : middle.grain = reserve.grain := by
      rw [grain, grain, first.liquidityIndex, first.variableBorrowIndex]
    rw [same] at net'
    push_cast
    linarith

theorem weaken (drifts : Drifts now shift grains reserve after) (fewer : shift' ≤ shift)
    (more : grains ≤ grains') : Drifts now shift' grains' reserve after where
  standing := drifts.standing
  liquidityIndex := drifts.liquidityIndex
  variableBorrowIndex := drifts.variableBorrowIndex
  net := by
    have net := drifts.net
    have positive : 0 ≤ reserve.grain := by
      rw [grain]
      positivity
    have counted : (grains : ℚ) * reserve.grain ≤ grains' * reserve.grain := by gcongr
    linarith

theorem of_same (standing : Standing now reserve)
    (stamp : after.lastUpdateTimestamp = reserve.lastUpdateTimestamp)
    (liquidityIndex : after.liquidityIndex = reserve.liquidityIndex)
    (variableBorrowIndex : after.variableBorrowIndex = reserve.variableBorrowIndex)
    (lTokens : after.lToken.base.totalSupply = reserve.lToken.base.totalSupply)
    (stable : ∃ borrowAllowances,
      after.stableDebtToken = { reserve.stableDebtToken with borrowAllowances })
    (floating : after.variableDebtToken.base = reserve.variableDebtToken.base) :
    Drifts now 0 0 reserve after := by
  obtain ⟨_, stable⟩ := stable
  refine ⟨⟨stamp.trans standing.current, ?_, ?_, ?_⟩, liquidityIndex, variableBorrowIndex, ?_⟩
  · rw [liquidityIndex]
    exact standing.liquidityIndex
  · rw [variableBorrowIndex]
    exact standing.variableBorrowIndex
  · rw [stable]
    exact standing.borrowers
  · have owed : after.stableOwed now = reserve.stableOwed now := by
      rw [stableOwed, stable]
      rfl
    simp only [Reserve.net, owed, liquidityIndex, variableBorrowIndex, lTokens, floating]
    simp

theorem mintLToken {first : Bool} (standing : Standing now reserve)
    (computed : reserve.mintLToken user amount = .ok (after, first)) :
    Drifts now (-amount) 1 reserve after := by
  obtain ⟨lToken, minted, rfl⟩ := mintLToken_ok computed
  refine ⟨⟨standing.current, standing.liquidityIndex, standing.variableBorrowIndex,
    standing.borrowers⟩, rfl, rfl, ?_⟩
  have near := abs_le.1 (worth_near amount standing.liquidityIndex)
  have small := reserve.liquidity_le_grain
  simp only [Reserve.net, stableOwed, minted.totalSupply, worth_add, Nat.cast_one]
  linarith

theorem burnLToken {receiver : Address} (standing : Standing now reserve)
    (computed : reserve.burnLToken user receiver amount = .ok after) :
    Drifts now amount 1 reserve after := by
  obtain ⟨lToken, _, burned, _, rfl⟩ := burnLToken_ok computed
  refine ⟨⟨standing.current, standing.liquidityIndex, standing.variableBorrowIndex,
    standing.borrowers⟩, rfl, rfl, ?_⟩
  have near := abs_le.1 (worth_near amount standing.liquidityIndex)
  have small := reserve.liquidity_le_grain
  simp only [Reserve.net, stableOwed, ← burned.totalSupply, worth_add, Nat.cast_one]
  linarith

theorem mintVariableDebt {onBehalfOf : Address} {first : Bool} (standing : Standing now reserve)
    (computed : reserve.mintVariableDebt user onBehalfOf amount = .ok (after, first)) :
    Drifts now amount 1 reserve after := by
  obtain ⟨token, minted, rfl⟩ := mintVariableDebt_ok computed
  refine ⟨⟨standing.current, standing.liquidityIndex, standing.variableBorrowIndex,
    standing.borrowers⟩, rfl, rfl, ?_⟩
  have near := abs_le.1 (worth_near amount standing.variableBorrowIndex)
  have small := reserve.variable_le_grain
  simp only [Reserve.net, stableOwed, minted.totalSupply, worth_add, Nat.cast_one]
  linarith

theorem burnVariableDebt (standing : Standing now reserve)
    (computed : reserve.burnVariableDebt user amount = .ok after) :
    Drifts now (-amount) 1 reserve after := by
  obtain ⟨token, burned, rfl⟩ := burnVariableDebt_ok computed
  refine ⟨⟨standing.current, standing.liquidityIndex, standing.variableBorrowIndex,
    standing.borrowers⟩, rfl, rfl, ?_⟩
  have near := abs_le.1 (worth_near amount standing.variableBorrowIndex)
  have small := reserve.variable_le_grain
  simp only [Reserve.net, stableOwed, ← burned.totalSupply, worth_add, Nat.cast_one]
  linarith

theorem stable_moved {token : StableDebtToken} {position : Nat} (standing : Standing now reserve)
    (balances : ∀ a, token.base.balances a =
      if a = user then position else reserve.stableDebtToken.base.balances a)
    (rates : ∀ a, a ≠ user → token.usersStableRate a = reserve.stableDebtToken.usersStableRate a)
    (stamps : ∀ a, a ≠ user → token.timestamps a = reserve.stableDebtToken.timestamps a)
    (written : position ≠ 0 → token.timestamps user = now)
    {shift : ℚ} (moved : (position : ℚ) = reserve.stableDebtToken.debt now user + shift) :
    Drifts now shift 0 reserve { reserve with stableDebtToken := token } := by
  have others : ∀ a, a ≠ user → token.debt now a = reserve.stableDebtToken.debt now a := by
    intro a other
    simp only [StableDebtToken.debt, balances, if_neg other, rates a other, stamps a other]
  have shown : token.debt now user = position := by
    by_cases none : position = 0
    · rw [none]
      apply StableDebtToken.debt_of_no_principal
      rw [balances, if_pos rfl, none]
    · rw [StableDebtToken.debt_at_timestamp (written none), balances, if_pos rfl]
  refine ⟨⟨standing.current, standing.liquidityIndex, standing.variableBorrowIndex, ?_⟩, rfl, rfl,
    ?_⟩
  · refine Holdings.finite_moved standing.borrowers (a := user) fun a other => ?_
    rw [balances, if_neg other]
  · have sum := Holdings.finsum_moved standing.owing others
    rw [shown] at sum
    have sum : ((∑ᶠ a, token.debt now a : Nat) : ℚ) + reserve.stableDebtToken.debt now user =
        (∑ᶠ a, reserve.stableDebtToken.debt now a : Nat) + position := by exact_mod_cast sum
    simp only [Reserve.net, stableOwed, Nat.cast_zero, zero_mul]
    linarith

theorem mintStableDebt {onBehalfOf : Address} {rate : Nat} {first : Bool}
    (standing : Standing env.timestamp reserve)
    (computed : reserve.mintStableDebt env.timestamp user onBehalfOf amount rate =
      .ok (after, first)) : Drifts env.timestamp amount 0 reserve after := by
  obtain ⟨token, minted, rfl⟩ := mintStableDebt_ok computed
  apply stable_moved standing minted.balances minted.otherRates
  · intro a other
    rw [minted.timestamps, Function.update_of_ne other]
  · intro _
    rw [minted.timestamps, Function.update_self, uint40_of_lt env.timestamp_lt]
  · push_cast
    rfl

theorem burnStableDebt (standing : Standing env.timestamp reserve)
    (computed : reserve.burnStableDebt env.timestamp user amount = .ok after) :
    Drifts env.timestamp (-amount) 0 reserve after := by
  obtain ⟨token, burned, rfl⟩ := burnStableDebt_ok computed
  have enough := burned.enough
  apply stable_moved standing burned.balances
  · intro a other
    rw [burned.usersStableRate, Function.update_of_ne other]
  · intro a other
    rw [burned.timestamps, Function.update_of_ne other]
  · intro left
    have partly : amount ≠ reserve.stableDebtToken.debt env.timestamp user := by omega
    rw [burned.timestamps, Function.update_self, if_neg partly, uint40_of_lt env.timestamp_lt]
  · rw [Nat.cast_sub enough]
    ring

theorem accrue (standing : Standing env.timestamp reserve)
    (computed : reserve.updateState env.timestamp = .ok after) :
    Drifts env.timestamp 0 0 reserve after := by
  rw [updateState_again standing.current env.timestamp_lt computed]
  exact refl standing

theorem rate {asset lTokenAddress : Address} {liquidityAdded liquidityTaken : Nat}
    (standing : Standing now reserve)
    (computed : reserve.updateInterestRates env asset lTokenAddress liquidityAdded liquidityTaken =
      .ok after) : Drifts now 0 0 reserve after := by
  obtain ⟨_, _, _, _, run⟩ := updateInterestRates_ok computed
  rw [run.result]
  exact of_same standing rfl rfl rfl rfl ⟨_, rfl⟩ rfl

theorem fund {spender sender recipient : Address} (standing : Standing now reserve)
    (computed : reserve.transferUnderlyingFrom spender sender recipient amount = .ok after) :
    Drifts now 0 0 reserve after := by
  obtain ⟨_, _, rfl⟩ := transferUnderlyingFrom_ok computed
  exact of_same standing rfl rfl rfl rfl ⟨_, rfl⟩ rfl

theorem release {target : Address} (standing : Standing now reserve)
    (computed : reserve.transferUnderlyingTo target amount = .ok after) :
    Drifts now 0 0 reserve after := by
  obtain ⟨_, _, _, rfl⟩ := transferUnderlyingTo_ok computed
  exact of_same standing rfl rfl rfl rfl ⟨_, rfl⟩ rfl

end Drifts

-- Half a ray for every lToken, as it is scaled and as it is shown.
def dust (reserve : Reserve) : ℚ :=
  (reserve.lToken.base.totalSupply +
    divHalfUp (reserve.lToken.base.totalSupply * reserve.liquidityIndex) RAY : Nat) / (2 * RAY)

-- The roundings of the total, of the ratio and of the new index, in the order they are made.
theorem premium_worth {shares index total ratio index' premium : Nat} (whole : RAY ≤ index)
    (priced : total = divHalfUp (shares * index) RAY) (some : 0 < total)
    (shared : ratio = divHalfUp (premium * RAY) total)
    (grown : index' = divHalfUp ((ratio + RAY) * index) RAY) :
    worth shares index' ≤ worth shares index + premium + index' / (2 * RAY) +
      (shares + total : Nat) / (2 * RAY) := by
  have unit : (0 : ℚ) < RAY := by norm_num [RAY]
  have backed : (0 : ℚ) < total := by exact_mod_cast some
  have held := div_le_divHalfUp_add_half (K := ℚ) (n := shares * index) RAY_pos
  have part := divHalfUp_le_add_half (K := ℚ) (n := premium * RAY) some
  have raised := divHalfUp_le_add_half (K := ℚ) (n := (ratio + RAY) * index) RAY_pos
  have above : ratio ≤ index' := by
    rw [grown]
    exact le_trans (Nat.le_add_right _ _) (le_rayMul whole)
  have above : (ratio : ℚ) ≤ index' := by exact_mod_cast above
  rw [← priced] at held
  rw [← shared] at part
  rw [← grown] at raised
  push_cast at held part raised ⊢
  have spread : (total : ℚ) * ratio ≤ premium * RAY + total * (1 / 2) := by
    calc (total : ℚ) * ratio ≤ total * (premium * RAY / total + 1 / 2) := by gcongr
      _ = premium * RAY + total * (1 / 2) := by field_simp
  have shares_nonneg : (0 : ℚ) ≤ shares := Nat.cast_nonneg shares
  calc (shares : ℚ) * index' / RAY
      ≤ shares * ((ratio + RAY) * index / RAY + 1 / 2) / RAY := by gcongr
    _ = shares * index / RAY * (ratio / RAY) + shares * index / RAY + shares / (2 * RAY) := by
      field_simp
    _ ≤ (total + 1 / 2) * (ratio / RAY) + shares * index / RAY + shares / (2 * RAY) := by gcongr
    _ = total * ratio / RAY + ratio / (2 * RAY) + shares * index / RAY + shares / (2 * RAY) := by
      ring
    _ ≤ (premium * RAY + total * (1 / 2)) / RAY + index' / (2 * RAY) + shares * index / RAY +
          shares / (2 * RAY) := by gcongr
    _ = shares * index / RAY + premium + index' / (2 * RAY) + (shares + total) / (2 * RAY) := by
      field_simp
      ring

theorem income_net {totalSupply premium : Nat} {data : ReserveData}
    (standing : Standing now reserve)
    (small : now < 2 ^ 40) (supplied : reserve.lTokenTotalSupply now = .ok totalSupply)
    (computed : reserve.toReserveData.cumulateToLiquidityIndex totalSupply premium = .ok data) :
    Standing now { reserve with toReserveData := data } ∧
      reserve.net now - premium ≤
        Reserve.net now { reserve with toReserveData := data } +
          (Reserve.grain { reserve with toReserveData := data } + reserve.dust) := by
  obtain ⟨_, shown⟩ := lTokenTotalSupply_ok supplied
  rw [ReserveData.normalizedIncome, uint40_of_lt small, if_pos standing.current] at shown
  obtain ⟨some, index, grown, rfl⟩ := ReserveData.cumulateToLiquidityIndex_ok computed
  have scaled : divHalfUp (premium * WAD_RAY_RATIO * RAY) (totalSupply * WAD_RAY_RATIO) =
      divHalfUp (premium * RAY) totalSupply := by
    rw [Nat.mul_right_comm, divHalfUp_scale (Nat.pos_of_ne_zero some) (by decide)]
  have raised : reserve.liquidityIndex ≤ index := by
    rw [grown]
    exact ReserveData.le_cumulated _ _
  refine ⟨⟨standing.current, le_trans standing.liquidityIndex raised,
    standing.variableBorrowIndex, standing.borrowers⟩, ?_⟩
  rw [scaled] at grown
  have worth := premium_worth standing.liquidityIndex shown (Nat.pos_of_ne_zero some) rfl grown
  have whole := liquidity_le_grain { reserve with liquidityIndex := index }
  rw [shown] at worth
  simp only [net, stableOwed, dust] at worth whole ⊢
  linarith

theorem Operation.borrowers (operation : Reserve.Operation env reserve after)
    (finite : (Function.support reserve.stableDebtToken.base.balances).Finite) :
    (Function.support after.stableDebtToken.base.balances).Finite := by
  cases operation with
  | accrue computed =>
      obtain ⟨_, _, _, run⟩ := updateState_ok computed
      rwa [run.result]
  | rate computed =>
      obtain ⟨_, _, _, _, run⟩ := updateInterestRates_ok computed
      rwa [run.result]
  | fund computed =>
      obtain ⟨_, _, rfl⟩ := transferUnderlyingFrom_ok computed
      exact finite
  | release computed =>
      obtain ⟨_, _, _, rfl⟩ := transferUnderlyingTo_ok computed
      exact finite
  | mintLToken computed =>
      obtain ⟨_, _, rfl⟩ := mintLToken_ok computed
      exact finite
  | burnLToken computed =>
      obtain ⟨_, _, _, _, rfl⟩ := burnLToken_ok computed
      exact finite
  | mintStableDebt _ computed =>
      obtain ⟨_, minted, rfl⟩ := mintStableDebt_ok computed
      exact Holdings.finite_moved finite fun a other => (minted.balances a).trans (if_neg other)
  | burnStableDebt _ computed =>
      obtain ⟨_, burned, rfl⟩ := burnStableDebt_ok computed
      exact Holdings.finite_moved finite fun a other => (burned.balances a).trans (if_neg other)
  | mintVariableDebt _ computed =>
      obtain ⟨_, _, rfl⟩ := mintVariableDebt_ok computed
      exact finite
  | burnVariableDebt _ computed =>
      obtain ⟨_, _, rfl⟩ := burnVariableDebt_ok computed
      exact finite
  | income | moveLTokens | allow | delegateStable | delegateVariable => exact finite

theorem Steps.borrowers (steps : Reserve.Steps env reserve after)
    (finite : (Function.support reserve.stableDebtToken.base.balances).Finite) :
    (Function.support after.stableDebtToken.base.balances).Finite := by
  induction steps with
  | refl => exact finite
  | tail _ last ih =>
      cases last with
      | operation operation => exact operation.borrowers ih
      | ledger | configure | choose => exact ih

end Reserve

namespace World

variable {world next : World}

theorem no_borrowers : (Function.support StableDebtToken.empty.base.balances).Finite := by
  have none : Function.support StableDebtToken.empty.base.balances = ∅ :=
    Function.support_eq_empty_iff.2 rfl
  rw [none]
  exact Set.finite_empty

def FewBorrowers (world : World) : Prop :=
  ∀ a, (Function.support (world.pool.reserves a).stableDebtToken.base.balances).Finite

theorem FewBorrowers.step {event : Event} (registered : world.pool.Registered)
    (few : world.FewBorrowers) (taken : world.step event = .ok next) : next.FewBorrowers := by
  rcases step_evolves taken with ⟨input, _, _, computed⟩ | evolves
  · refine (listings_induction (fun pool => ∀ a,
      (Function.support (pool.reserves a).stableDebtToken.base.balances).Finite) ?_ registered few
      computed).2
    intro pool after listing configuration _ before listed a
    by_cases same : a = listing.underlyingAsset
    · subst same
      rw [listed.result]
      simp only [setReserve, listedReserve, Function.update_self]
      exact no_borrowers
    · rw [listed.appended.others a same]
      exact before a
  · exact fun a => (evolves.steps a).borrowers (few a)

theorem Reachable.fewBorrowers (reached : world.Reachable) : world.FewBorrowers := by
  have both : world.pool.Registered ∧ world.FewBorrowers := by
    refine Runs.Reachable.invariant (fun w : World => w.pool.Registered ∧ w.FewBorrowers) reached ?_
      ?_
    · rintro s ⟨_, self, provider, ledgers, start⟩
      refine ⟨?_, fun a => ?_⟩ <;> rw [start]
      · exact LendingPool.registered_initialized self provider ledgers
      · exact no_borrowers
    · rintro s event s' ⟨registered, few⟩ taken
      exact ⟨registered_step registered taken, few.step registered taken⟩
  exact both.2

end World

end PalmyProtocol
