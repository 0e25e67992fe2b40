import PalmyProtocol.Library.Traces
import PalmyProtocol.Pool.StandingDebts
import PalmyProtocol.System.RestingReserves

set_option autoImplicit false

namespace PalmyProtocol

open Checked Rounding LendingPool

namespace LendingPoolCollateralManager

variable (env : Env) (pool : LendingPool)

def repaidPool (collateralAsset debtAsset user : Address) (debtToCover : Nat) :
    Result LendingPool := do
  let (userStableDebt, userVariableDebt) ←
    (pool.reserves debtAsset).getUserCurrentDebt env.timestamp user
  let userCollateralBalance ← (pool.reserves collateralAsset).lTokenBalanceOf env.timestamp user
  let requestedDebt := min debtToCover (divHalfUp ((userStableDebt + userVariableDebt) *
    LIQUIDATION_CLOSE_FACTOR_PERCENT) PERCENTAGE_FACTOR)
  let (_, debtAmountNeeded) ← calculateAvailableCollateralToLiquidate env
    (pool.reserves collateralAsset) (pool.reserves debtAsset) collateralAsset debtAsset
    requestedDebt userCollateralBalance
  repayDebt env pool debtAsset user (min debtAmountNeeded requestedDebt) userVariableDebt

end LendingPoolCollateralManager

def Call.updated (env : Env) (pool : LendingPool) (asset : Address) : Call → List Reserve
  | deposit a _ _ | withdraw a _ _ | borrow a _ _ _ | repay a _ _ _ | swapBorrowRateMode a _
  | rebalanceStableBorrowRate a _ => if a = asset then [pool.reserves asset] else []
  | liquidationCall collateralAsset debtAsset user debtToCover receiveLToken =>
    (if debtAsset = asset then [pool.reserves asset] else []) ++
      if collateralAsset = asset ∧ receiveLToken = false then
        match LendingPoolCollateralManager.repaidPool env pool collateralAsset debtAsset user
          debtToCover with
        | .ok repaid => [repaid.reserves asset]
        | .error _ => []
      else []
  | _ => []

def World.updated (asset : Address) (world : World) : Event → List Reserve
  | .call _ call => call.updated world.env world.pool asset
  | .settle =>
    match world.frames with
    | [] => []
    | frame :: _ =>
      match frame.pending with
      | [] => []
      | entry :: _ => if entry.asset = asset then [world.pool.reserves asset] else []
  | _ => []

-- What an event makes of a reserve: the debts stay open as they are, or are updated once, or by
-- both halves of a liquidation.
inductive Reserve.Turns (env : Env) (reserve : Reserve) : List Reserve → Reserve → Prop
  | rest {after : Reserve} (same : after.openDebts = reserve.openDebts) : Turns env reserve [] after
  | once {accrued worked after : Reserve} (work : Reserve.Worked env reserve accrued worked)
      (same : after.openDebts = worked.openDebts) : Turns env reserve [reserve] after
  | twice {accrued worked again after : Reserve} (work : Reserve.Worked env reserve accrued worked)
      (update : worked.updateState env.timestamp = .ok again)
      (same : after.openDebts = worked.openDebts) : Turns env reserve [reserve, worked] after

namespace Reserve

variable {env : Env} {reserve after : Reserve}

theorem Rests.openDebts (rests : Rests reserve after) : after.openDebts = reserve.openDebts := by
  obtain ⟨_, stable⟩ := rests.stable
  rw [Reserve.openDebts, Reserve.openDebts, rests.data, stable, rests.floating]

end Reserve

namespace LendingPool

variable {env : Env} {pool after : LendingPool} {asset other : Address} {reserve : Reserve}

theorem openDebts_setReserve (same : reserve.openDebts = (pool.reserves other).openDebts) :
    ((pool.setReserve other reserve).reserves asset).openDebts = (pool.reserves asset).openDebts := by
  by_cases named : asset = other
  · subst named
    rw [setReserve_same, same]
  · rw [setReserve_other named]

theorem turns_setReserve {accrued : Reserve}
    (work : Reserve.Worked env (pool.reserves other) accrued reserve) :
    Reserve.Turns env (pool.reserves asset) (if other = asset then [pool.reserves asset] else [])
      ((pool.setReserve other reserve).reserves asset) := by
  split_ifs with named
  · subst named
    rw [setReserve_same]
    exact .once work rfl
  · rw [setReserve_other (Ne.symm named)]
    exact .rest rfl

theorem executeBorrow_turns {vars : ExecuteBorrowParams}
    (computed : pool.executeBorrow env vars = .ok after) :
    Reserve.Turns env (pool.reserves asset)
      (if vars.asset = asset then [pool.reserves asset] else []) (after.reserves asset) := by
  obtain ⟨_, _, _, _, _, _, _, _, run⟩ := executeBorrow_ok computed
  rw [run.result, setUserConfig_reserves]
  exact turns_setReserve run.works

theorem settleFlashLoan_turns {receiverAddress msgSender onBehalfOf : Address}
    {entry : FlashLoanEntry}
    (computed : pool.settleFlashLoan env receiverAddress msgSender onBehalfOf entry = .ok after) :
    Reserve.Turns env (pool.reserves asset)
      (if entry.asset = asset then [pool.reserves asset] else []) (after.reserves asset) := by
  obtain ⟨_, _, _, _, ⟨_, _, _, _, _, _, run⟩ | ⟨_, borrowed⟩⟩ := settleFlashLoan_ok computed
  · rw [run.result]
    exact turns_setReserve run.works
  · exact executeBorrow_turns borrowed

theorem openFlashLoan_openDebts {receiverAddress : Address}
    {requests : List (Address × Nat × Option Nat)} {entries : List FlashLoanEntry}
    (computed : openFlashLoan receiverAddress pool requests = .ok (after, entries)) :
    (after.reserves asset).openDebts = (pool.reserves asset).openDebts := by
  induction requests generalizing pool entries with
  | nil =>
      cases computed
      rfl
  | cons request rest ih =>
      obtain ⟨named, amount, mode⟩ := request
      obtain ⟨lent, later, sent, opened, rfl⟩ := openFlashLoan_cons computed
      obtain ⟨_, _, _, rfl⟩ := Reserve.transferUnderlyingTo_ok sent
      rw [ih opened]
      exact openDebts_setReserve rfl

end LendingPool

namespace LendingPoolCollateralManager

variable {env : Env} {pool after : LendingPool} {asset msgSender collateralAsset debtAsset user : Address}
  {debtToCover : Nat} {receiveLToken : Bool}

theorem Liquidated.repaidPool {account : UserAccountData}
    {userStableDebt userVariableDebt collateral collateralBalance needed : Nat}
    (run : Liquidated env pool msgSender collateralAsset debtAsset user debtToCover receiveLToken
      account userStableDebt userVariableDebt collateral collateralBalance needed after) :
    ∃ repaid seized config funded actual, repaidPool env pool collateralAsset debtAsset user
        debtToCover = .ok repaid ∧
      Executed env pool msgSender collateralAsset debtAsset user actual userVariableDebt collateral
        collateralBalance receiveLToken repaid seized config funded after := by
  obtain ⟨repaid, seized, config, funded, exec⟩ := executeLiquidation_ok run.execute
  refine ⟨repaid, seized, config, funded, _, ?_, exec⟩
  simp only [LendingPoolCollateralManager.repaidPool, run.debts, run.balance, ok_bind, run.amounts]
  exact exec.repay

-- Seizing in kind, or in another asset, leaves the debts of the reserve as the repayment left them.
theorem seized_openDebts {amount : Nat} (apart : collateralAsset = asset → receiveLToken = true)
    (computed : (if receiveLToken then seizeLTokens env pool msgSender collateralAsset user amount
      else seizeUnderlying env pool msgSender collateralAsset user amount) = .ok after) :
    (after.reserves asset).openDebts = (pool.reserves asset).openDebts := by
  split_ifs at computed with receiving
  · obtain ⟨_, _, _, lToken, _, leg⟩ := seizeLTokens_ok computed
    rw [leg.result, setUserConfig_reserves]
    exact openDebts_setReserve rfl
  · obtain ⟨_, _, _, leg⟩ := seizeUnderlying_ok computed
    have elsewhere : asset ≠ collateralAsset := fun same => receiving (apart same.symm)
    rw [leg.result, setReserve_other elsewhere]

theorem underlyingSeized_openDebts {amount : Nat} {accrued rated burned : Reserve}
    (leg : UnderlyingSeized env pool msgSender collateralAsset user amount accrued rated burned
      after) : burned.openDebts = accrued.openDebts := by
  obtain ⟨_, _, _, _, rate⟩ := Reserve.updateInterestRates_ok leg.rate
  obtain ⟨_, _, _, _, rfl⟩ := Reserve.burnLToken_ok leg.burn
  rw [rate.result]
  rfl

theorem executed_openDebts {actual userVariableDebt collateral collateralBalance : Nat}
    {repaid seized : LendingPool} {config : UserConfigurationMap} {funded : Reserve}
    (exec : Executed env pool msgSender collateralAsset debtAsset user actual userVariableDebt
      collateral collateralBalance receiveLToken repaid seized config funded after) :
    (after.reserves asset).openDebts = (seized.reserves asset).openDebts := by
  obtain ⟨_, _, rfl⟩ := Reserve.transferUnderlyingFrom_ok exec.fund
  rw [exec.result]
  exact openDebts_setReserve rfl

theorem liquidationCall_turns (computed : pool.liquidationCall env msgSender collateralAsset
      debtAsset user debtToCover receiveLToken = .ok after) :
    Reserve.Turns env (pool.reserves asset)
      ((Call.liquidationCall collateralAsset debtAsset user debtToCover receiveLToken).updated env
        pool asset) (after.reserves asset) := by
  obtain ⟨_, _, _, _, _, _, _, run⟩ := LendingPool.liquidationCall_ok computed
  obtain ⟨repaid, seized, config, funded, actual, middle, exec⟩ := run.repaidPool
  obtain ⟨accrued, burned, rated, leg⟩ := repayDebt_ok exec.repay
  have work := debtRepaid_works leg
  have seize := exec.seize
  have settled : (after.reserves asset).openDebts = (seized.reserves asset).openDebts :=
    executed_openDebts exec
  simp only [Call.updated, middle]
  by_cases pays : debtAsset = asset
  · subst pays
    have owed : repaid.reserves debtAsset = rated := by rw [leg.result, setReserve_same]
    rw [if_pos rfl]
    by_cases both : collateralAsset = debtAsset ∧ receiveLToken = false
    · -- the second half finds the reserve as the first half left it, in the same block
      obtain ⟨rfl, underlying⟩ := both
      rw [if_pos ⟨rfl, underlying⟩, owed]
      rw [underlying, if_neg Bool.false_ne_true] at seize
      obtain ⟨again, _, paid, taken⟩ := seizeUnderlying_ok seize
      have update := taken.accrue
      rw [owed] at update
      have unmoved := Reserve.updateState_again work.current.1 env.timestamp_lt update
      refine .twice work update ?_
      rw [settled, taken.result, setReserve_same, underlyingSeized_openDebts taken, unmoved]
    · rw [if_neg both, List.append_nil]
      refine .once work ?_
      rw [settled, seized_openDebts (fun same => ?_) seize, owed]
      exact eq_true_of_ne_false fun underlying => both ⟨same, underlying⟩
  · rw [if_neg pays, List.nil_append]
    have untouched := repayDebt_other (Ne.symm pays) exec.repay
    by_cases taken : collateralAsset = asset ∧ receiveLToken = false
    · obtain ⟨rfl, underlying⟩ := taken
      rw [if_pos ⟨rfl, underlying⟩, untouched]
      rw [underlying, if_neg Bool.false_ne_true] at seize
      obtain ⟨_, _, paid, taken⟩ := seizeUnderlying_ok seize
      have work := underlyingSeized_works taken
      rw [untouched] at work
      refine .once work ?_
      rw [settled, taken.result, setReserve_same]
    · rw [if_neg taken]
      refine .rest ?_
      rw [settled, seized_openDebts (fun same => ?_) seize, untouched]
      exact eq_true_of_ne_false fun underlying => taken ⟨same, underlying⟩

end LendingPoolCollateralManager

theorem Call.execute_turns {env : Env} {pool after : LendingPool} {msgSender asset : Address}
    {call : Call} (computed : call.execute env pool msgSender = .ok after) :
    Reserve.Turns env (pool.reserves asset) (call.updated env pool asset) (after.reserves asset) := by
  cases call with
  | deposit =>
      obtain ⟨_, _, _, _, _, _, run⟩ := deposit_ok computed
      rw [run.result, setUserConfig_reserves]
      exact turns_setReserve run.works
  | withdraw =>
      simp only [execute, bind_eq_ok, Prod.exists, pure_eq_ok] at computed
      obtain ⟨_, _, computed, rfl⟩ := computed
      obtain ⟨_, _, _, _, _, _, run⟩ := withdraw_ok computed
      rw [run.result, setUserConfig_reserves]
      exact turns_setReserve run.works
  | borrow =>
      simp only [execute, LendingPool.borrow, bind_eq_ok] at computed
      obtain ⟨_, _, computed⟩ := computed
      exact executeBorrow_turns computed
  | repay =>
      simp only [execute, bind_eq_ok, Prod.exists, pure_eq_ok] at computed
      obtain ⟨_, _, computed, rfl⟩ := computed
      obtain ⟨_, _, _, _, _, _, _, _, _, run⟩ := repay_ok computed
      rw [run.result, setUserConfig_reserves]
      exact turns_setReserve run.works
  | swapBorrowRateMode =>
      obtain ⟨_, _, _, _, _, _, _, _, _, run⟩ := swapBorrowRateMode_ok computed
      rw [run.result]
      exact turns_setReserve run.works
  | rebalanceStableBorrowRate =>
      obtain ⟨_, _, _, _, _, _, run⟩ := rebalanceStableBorrowRate_ok computed
      rw [run.result]
      exact turns_setReserve run.works
  | liquidationCall => exact LendingPoolCollateralManager.liquidationCall_turns computed
  | setUserUseReserveAsCollateral | transfer | transferFrom | approve | increaseAllowance
  | decreaseAllowance | approveStableDelegation | approveVariableDelegation =>
      refine .rest (Reserve.Rests.openDebts (execute_rests ?_ ?_ computed))
      · trivial
      · simp

namespace LendingPool

variable {env : Env} {pool after : LendingPool} {asset : Address}

theorem listings_openDebts {input : List InitReserveInput} (registered : Registered pool)
    (computed : input.foldlM (LendingPoolConfigurator.initReserve env) pool = .ok after) :
    after.reserves asset = pool.reserves asset ∨
      ((pool.reserves asset).lTokenAddress = 0 ∧ (after.reserves asset).standingDebt = 0) := by
  refine (listings_induction (fun p => p.reserves asset = pool.reserves asset ∨
    ((pool.reserves asset).lTokenAddress = 0 ∧ (p.reserves asset).standingDebt = 0)) ?_ registered
    (.inl rfl) computed).2
  intro before later entry configuration _ known listed
  by_cases same : asset = entry.underlyingAsset
  · subst same
    right
    constructor
    · rcases known with kept | ⟨vacant, _⟩
      · rw [← kept]
        exact listed.vacant
      · exact vacant
    · rw [listed.result]
      simp [setReserve, listedReserve, Reserve.standingDebt, StableDebtToken.supply,
        StableDebtToken.empty, VariableDebtToken.empty, ERC20.empty]
  · rw [listed.appended.others asset same]
    exact known

end LendingPool

namespace World

variable {world next : World}

theorem step_turns (asset : Address) {event : Event} (registered : world.pool.Registered)
    (taken : world.step event = .ok next) :
    Reserve.Turns world.env (world.pool.reserves asset) (world.updated asset event)
        (next.pool.reserves asset) ∨
      (world.updated asset event = [] ∧ (world.pool.reserves asset).lTokenAddress = 0 ∧
        (next.pool.reserves asset).standingDebt = 0) := by
  cases event with
  | call msgSender call =>
      obtain ⟨_, _, pool, executed, rfl⟩ := step_call taken
      exact .inl (Call.execute_turns executed)
  | admin msgSender call =>
      obtain ⟨pool, administered, rfl⟩ := step_admin taken
      cases administered with
      | listed computed =>
          have known : pool.reserves asset = world.pool.reserves asset ∨ _ :=
            listings_openDebts registered computed
          rcases known with kept | entered
          · refine .inl (.rest ?_)
            rw [withPool, kept]
          · exact .inr ⟨rfl, entered⟩
      | configured | chosen => exact .inl (.rest (openDebts_setReserve rfl))
      | paused => exact .inl (.rest rfl)
  | flashLoan =>
      obtain ⟨pool, pending, run⟩ := step_flashLoan taken
      rw [run.result]
      exact .inl (.rest (openFlashLoan_openDebts run.opened))
  | executed =>
      obtain ⟨_, _, _, _, rfl⟩ := step_executed taken
      exact .inl (.rest rfl)
  | settle =>
      obtain ⟨frame, rest, entry, pending, pool, run⟩ := step_settle taken
      rw [run.result]
      simp only [updated, run.stack, run.queue]
      exact .inl (settleFlashLoan_turns run.settle)
  | finish =>
      obtain ⟨_, _, _, _, rfl⟩ := step_finish taken
      exact .inl (.rest rfl)
  | ledger =>
      obtain ⟨_, rfl⟩ := step_ledger taken
      exact .inl (.rest (openDebts_setReserve rfl))
  | observe =>
      obtain ⟨_, _, rfl⟩ := step_observe taken
      exact .inl (.rest rfl)

end World

end PalmyProtocol
