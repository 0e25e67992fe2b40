import PalmyProtocol.Pool.ReserveCells
import PalmyProtocol.System.ReserveFrame

set_option autoImplicit false

namespace PalmyProtocol

open Checked Footprint LendingPool

inductive Key where
  | cell (asset : Address) (cell : Cell)
  | config (user : Address)
  deriving DecidableEq

namespace LendingPool

def read (pool : LendingPool) : Key → Nat
  | .cell asset cell => (pool.reserves asset).cell cell
  | .config user => (pool.usersConfig user).data.toNat

abbrev TouchesOnly (keys : List Key) (pool after : LendingPool) : Prop :=
  Writes read (fun _ => True) keys pool after

variable (pool : LendingPool)

def treasuryKey (asset : Address) : Key :=
  .cell asset (.lTokens (pool.reserves asset).lToken.treasury)

def borrowFootprint (asset : Address) (interestRateMode : Nat) (user onBehalfOf : Address) :
    List Key :=
  pool.treasuryKey asset ::
    ((if interestRateMode = 1 then Cell.stableMinted user onBehalfOf
      else Cell.variableMinted user onBehalfOf).map (.cell asset) ++ [.config onBehalfOf])

end LendingPool

def Call.footprint (pool : LendingPool) (msgSender : Address) : Call → List Key
  | deposit asset _ onBehalfOf =>
    [pool.treasuryKey asset, .cell asset (.lTokens onBehalfOf), .config onBehalfOf]
  | withdraw asset _ _ =>
    [pool.treasuryKey asset, .cell asset (.lTokens msgSender), .config msgSender]
  | borrow asset _ interestRateMode onBehalfOf =>
    pool.borrowFootprint asset interestRateMode msgSender onBehalfOf
  | repay asset _ rateMode onBehalfOf =>
    pool.treasuryKey asset ::
      ((if rateMode = 1 then Cell.stablePosition onBehalfOf
        else [.variableDebt onBehalfOf]).map (.cell asset) ++ [.config onBehalfOf])
  | swapBorrowRateMode asset _ =>
    pool.treasuryKey asset ::
      (.variableDebt msgSender :: Cell.stablePosition msgSender).map (.cell asset)
  | rebalanceStableBorrowRate asset user =>
    pool.treasuryKey asset :: (Cell.stablePosition user).map (.cell asset)
  | setUserUseReserveAsCollateral _ _ => [.config msgSender]
  | liquidationCall collateralAsset debtAsset user _ receiveLToken =>
    pool.treasuryKey debtAsset ::
      ((.variableDebt user :: Cell.stablePosition user).map (.cell debtAsset) ++
        (if receiveLToken then [.cell collateralAsset (.lTokens msgSender), .config msgSender]
          else [pool.treasuryKey collateralAsset]) ++
        [.cell collateralAsset (.lTokens user), .config user])
  | transfer asset recipient _ =>
    [.cell asset (.lTokens msgSender), .cell asset (.lTokens recipient), .config msgSender,
      .config recipient]
  | transferFrom asset sender recipient _ =>
    [.cell asset (.lTokens sender), .cell asset (.lTokens recipient), .config sender,
      .config recipient, .cell asset (.allowance sender msgSender)]
  | approve asset spender _ | increaseAllowance asset spender _
  | decreaseAllowance asset spender _ => [.cell asset (.allowance msgSender spender)]
  | approveStableDelegation asset delegatee _ =>
    [.cell asset (.stableDelegation msgSender delegatee)]
  | approveVariableDelegation asset delegatee _ =>
    [.cell asset (.variableDelegation msgSender delegatee)]

namespace LendingPool

variable {env : Env} {pool after : LendingPool} {msgSender asset user onBehalfOf : Address}
  {amount : Nat} {cells : List Cell}

theorem touches_setReserve {reserve : Reserve}
    (touches : Reserve.TouchesOnly cells (pool.reserves asset) reserve) :
    TouchesOnly (cells.map (.cell asset)) pool (pool.setReserve asset reserve) := by
  rintro (⟨other, cell⟩ | user) _ untouched
  · by_cases same : other = asset
    · subst same
      rw [read, setReserve_same]
      exact touches cell trivial fun member => untouched (List.mem_map_of_mem member)
    · rw [read, setReserve_other same, read]
  · rfl

theorem touches_setUserConfig (config : UserConfigurationMap) :
    TouchesOnly [.config user] pool (pool.setUserConfig user config) := by
  rintro (_ | other) _ untouched
  · rfl
  · have different : other ≠ user := by simpa using untouched
    rw [read, setUserConfig_other different, read]

theorem deposit_touchesOnly
    (computed : pool.deposit env msgSender asset amount onBehalfOf = .ok after) :
    TouchesOnly ((Call.deposit asset amount onBehalfOf).footprint pool msgSender) pool after := by
  obtain ⟨_, _, _, _, _, _, run⟩ := deposit_ok computed
  have reserve := (((Reserve.updateState_touchesOnly run.accrue).append
    (Reserve.updateInterestRates_touchesOnly run.rate)).append
    (Reserve.transferUnderlyingFrom_touchesOnly run.fund)).append
    (Reserve.mintLToken_touchesOnly run.mint)
  rw [run.result]
  exact (touches_setReserve reserve).append (touches_setUserConfig _)

theorem withdraw_touchesOnly {recipient : Address} {withdrawn : Nat}
    (computed : pool.withdraw env msgSender asset amount recipient = .ok (after, withdrawn)) :
    TouchesOnly ((Call.withdraw asset amount recipient).footprint pool msgSender) pool after := by
  obtain ⟨_, _, _, _, _, _, run⟩ := withdraw_ok computed
  have reserve := ((Reserve.updateState_touchesOnly run.accrue).append
    (Reserve.updateInterestRates_touchesOnly run.rate)).append
    (Reserve.burnLToken_touchesOnly run.burn)
  rw [run.result]
  exact (touches_setReserve reserve).append (touches_setUserConfig _)

-- The modes that the number names: 1 for a stable loan, and a variable one otherwise.
theorem stable_iff {rateMode : Nat} {mode : InterestRateMode}
    (chosen : toInterestRateMode rateMode = .ok mode) : mode = .STABLE ↔ rateMode = 1 := by
  rcases toInterestRateMode_ok chosen with ⟨rfl, rfl⟩ | ⟨rfl, rfl⟩ | ⟨rfl, rfl⟩ <;> simp

theorem executeBorrow_touchesOnly {vars : ExecuteBorrowParams}
    (computed : pool.executeBorrow env vars = .ok after) :
    TouchesOnly (pool.borrowFootprint vars.asset vars.interestRateMode vars.user vars.onBehalfOf)
      pool after := by
  obtain ⟨_, accrued, minted, rated, released, mode, _, _, run⟩ := executeBorrow_ok computed
  have mint := run.mint
  have release := run.release
  have debt : Reserve.TouchesOnly (if vars.interestRateMode = 1 then
      Cell.stableMinted vars.user vars.onBehalfOf
    else Cell.variableMinted vars.user vars.onBehalfOf) accrued minted := by
    simp only [stable_iff run.chosen] at mint
    split_ifs at mint ⊢
    · exact Reserve.mintStableDebt_touchesOnly mint
    · exact Reserve.mintVariableDebt_touchesOnly mint
  have paid : Reserve.TouchesOnly [] rated released := by
    split_ifs at release
    · exact Reserve.transferUnderlyingTo_touchesOnly release
    · cases release
      exact .refl _ _
  have reserve := (((Reserve.updateState_touchesOnly run.accrue).append debt).append
    (Reserve.updateInterestRates_touchesOnly run.rate)).append paid
  rw [run.result]
  refine ((touches_setReserve reserve).append (touches_setUserConfig _)).mono ?_
  rw [List.append_nil, List.append_nil]
  exact List.Subset.refl _

theorem repay_touchesOnly {rateMode payback : Nat}
    (computed : pool.repay env msgSender asset amount rateMode onBehalfOf = .ok (after, payback)) :
    TouchesOnly ((Call.repay asset amount rateMode onBehalfOf).footprint pool msgSender) pool
      after := by
  obtain ⟨_, _, _, accrued, burned, _, _, _, chosen, run⟩ := repay_ok computed
  have burn := run.burn
  have debt : Reserve.TouchesOnly (if rateMode = 1 then Cell.stablePosition onBehalfOf
      else [.variableDebt onBehalfOf]) accrued burned := by
    simp only [stable_iff chosen] at burn
    split_ifs at burn ⊢
    · exact Reserve.burnStableDebt_touchesOnly burn
    · exact Reserve.burnVariableDebt_touchesOnly burn
  have reserve := (((Reserve.updateState_touchesOnly run.accrue).append debt).append
    (Reserve.updateInterestRates_touchesOnly run.rate)).append
    (Reserve.transferUnderlyingFrom_touchesOnly run.fund)
  rw [run.result]
  refine ((touches_setReserve reserve).append (touches_setUserConfig _)).mono ?_
  rw [List.append_nil, List.append_nil]
  exact List.Subset.refl _

theorem swapBorrowRateMode_touchesOnly {rateMode : Nat}
    (computed : pool.swapBorrowRateMode env msgSender asset rateMode = .ok after) :
    TouchesOnly ((Call.swapBorrowRateMode asset rateMode).footprint pool msgSender) pool after := by
  obtain ⟨mode, _, _, accrued, burned, minted, rated, _, _, run⟩ := swapBorrowRateMode_ok computed
  have burn := run.burn
  have mint := run.mint
  have debt : Reserve.TouchesOnly (.variableDebt msgSender :: Cell.stablePosition msgSender) accrued
      minted := by
    split_ifs at burn mint
    · refine ((Reserve.burnStableDebt_touchesOnly burn).append
        (Reserve.mintVariableDebt_touchesOnly mint)).mono ?_
      simp [Cell.stablePosition, Cell.variableMinted]
    · refine ((Reserve.burnVariableDebt_touchesOnly burn).append
        (Reserve.mintStableDebt_touchesOnly mint)).mono ?_
      simp [Cell.stablePosition, Cell.stableMinted]
  have reserve := ((Reserve.updateState_touchesOnly run.accrue).append debt).append
    (Reserve.updateInterestRates_touchesOnly run.rate)
  rw [List.append_nil] at reserve
  rw [run.result]
  exact touches_setReserve reserve

theorem rebalanceStableBorrowRate_touchesOnly
    (computed : pool.rebalanceStableBorrowRate env asset user = .ok after) :
    TouchesOnly ((Call.rebalanceStableBorrowRate asset user).footprint pool msgSender) pool
      after := by
  obtain ⟨_, accrued, burned, minted, _, _, run⟩ := rebalanceStableBorrowRate_ok computed
  have debt : Reserve.TouchesOnly (Cell.stablePosition user) accrued minted := by
    refine ((Reserve.burnStableDebt_touchesOnly run.burn).append
      (Reserve.mintStableDebt_touchesOnly run.mint)).mono ?_
    simp [Cell.stablePosition, Cell.stableMinted]
  have reserve := ((Reserve.updateState_touchesOnly run.accrue).append debt).append
    (Reserve.updateInterestRates_touchesOnly run.rate)
  rw [List.append_nil] at reserve
  rw [run.result]
  exact touches_setReserve reserve

end LendingPool

namespace LendingPoolCollateralManager

variable {env : Env} {pool repaid after : LendingPool}
  {msgSender collateralAsset debtAsset user : Address}
  {amount : Nat} {receiveLToken : Bool}

theorem burnDebt_touchesOnly {reserve burned : Reserve} {actual userVariableDebt : Nat}
    (computed : burnDebt env reserve user actual userVariableDebt = .ok burned) :
    Reserve.TouchesOnly (.variableDebt user :: Cell.stablePosition user) reserve burned := by
  rcases burnDebt_ok computed with ⟨_, burn⟩ | ⟨_, floating, first, second⟩
  · exact (Reserve.burnVariableDebt_touchesOnly burn).mono (by simp)
  · have floats : Reserve.TouchesOnly [.variableDebt user] reserve floating := by
      split_ifs at first
      · exact Reserve.burnVariableDebt_touchesOnly first
      · cases first
        exact .refl _ _
    exact floats.append (Reserve.burnStableDebt_touchesOnly second)

theorem repayDebt_touchesOnly {actual userVariableDebt : Nat}
    (computed : repayDebt env pool debtAsset user actual userVariableDebt = .ok after) :
    LendingPool.TouchesOnly (pool.treasuryKey debtAsset ::
      (.variableDebt user :: Cell.stablePosition user).map (.cell debtAsset)) pool after := by
  obtain ⟨_, _, _, run⟩ := repayDebt_ok computed
  have reserve := ((Reserve.updateState_touchesOnly run.accrue).append
    (burnDebt_touchesOnly run.burn)).append (Reserve.updateInterestRates_touchesOnly run.rate)
  rw [List.append_nil] at reserve
  rw [run.result]
  exact touches_setReserve reserve

theorem lToken_transfer_touchesOnly {reserve : Reserve} {lToken : LToken} {income : Result Nat}
    {sender recipient : Address} {fromBefore toBefore : Nat}
    (moved : reserve.lToken.transfer income sender recipient amount =
      .ok (lToken, fromBefore, toBefore)) :
    Reserve.TouchesOnly [.lTokens sender, .lTokens recipient] reserve { reserve with lToken } := by
  obtain ⟨_, _, run⟩ := LToken.transfer_ok moved
  have lTokens : Reserve.TouchesOnly ([sender, recipient].map .lTokens) reserve
      { reserve with lToken } := by
    refine Reserve.touches_lToken run.allowances fun a other => ?_
    simp only [List.mem_cons, List.not_mem_nil, or_false, not_or] at other
    have balance := run.balances a
    rwa [if_neg other.1, if_neg other.2, Nat.add_zero, Nat.add_zero] at balance
  exact lTokens

theorem seize_touchesOnly
    (computed : (if receiveLToken then seizeLTokens env pool msgSender collateralAsset user amount
      else seizeUnderlying env pool msgSender collateralAsset user amount) = .ok after) :
    LendingPool.TouchesOnly ((if receiveLToken then
        [.cell collateralAsset (.lTokens msgSender), .config msgSender]
      else [pool.treasuryKey collateralAsset]) ++ [.cell collateralAsset (.lTokens user)]) pool
      after := by
  split_ifs at computed with receiving
  · obtain ⟨_, _, _, lToken, _, leg⟩ := seizeLTokens_ok computed
    rw [leg.result, if_pos receiving]
    refine ((touches_setReserve (lToken_transfer_touchesOnly leg.transfer)).append
      (touches_setUserConfig _)).mono ?_
    intro key
    simp
    tauto
  · obtain ⟨_, _, _, leg⟩ := seizeUnderlying_ok computed
    have reserve := ((Reserve.updateState_touchesOnly leg.accrue).append
      (Reserve.updateInterestRates_touchesOnly leg.rate)).append
      (Reserve.burnLToken_touchesOnly leg.burn)
    rw [leg.result, if_neg receiving]
    exact touches_setReserve reserve

theorem repayDebt_treasury {actual userVariableDebt : Nat} {asset : Address}
    (computed : repayDebt env pool debtAsset user actual userVariableDebt = .ok repaid) :
    repaid.treasuryKey asset = pool.treasuryKey asset := by
  have kept := (repayDebt_operates computed).evolves.keeps asset
  rw [treasuryKey, treasuryKey, kept.treasury]

theorem liquidationCall_touchesOnly {debtToCover : Nat}
    (computed : pool.liquidationCall env msgSender collateralAsset debtAsset user debtToCover
      receiveLToken = .ok after) :
    LendingPool.TouchesOnly ((Call.liquidationCall collateralAsset debtAsset user debtToCover
      receiveLToken).footprint pool msgSender) pool after := by
  obtain ⟨_, _, _, _, _, _, _, run⟩ := LendingPool.liquidationCall_ok computed
  obtain ⟨repaid, seized, config, funded, exec⟩ := executeLiquidation_ok run.execute
  have seize := seize_touchesOnly exec.seize
  rw [repayDebt_treasury exec.repay] at seize
  have fund : LendingPool.TouchesOnly ([].map (.cell debtAsset)) (seized.setUserConfig user config)
      after := by
    rw [exec.result]
    exact touches_setReserve (Reserve.transferUnderlyingFrom_touchesOnly exec.fund)
  have all := (((repayDebt_touchesOnly exec.repay).append seize).append
    (touches_setUserConfig config)).append fund
  refine all.mono ?_
  intro key
  simp only [Call.footprint, List.mem_append, List.mem_cons, List.map_nil, List.not_mem_nil,
    or_false]
  tauto

end LendingPoolCollateralManager

namespace LendingPool

variable {env : Env} {pool after : LendingPool} {msgSender asset : Address} {amount : Nat}

open LendingPoolCollateralManager in
theorem moveLTokens_touchesOnly {sender recipient : Address}
    (computed : pool.moveLTokens env asset sender recipient amount = .ok after) :
    TouchesOnly [.cell asset (.lTokens sender), .cell asset (.lTokens recipient), .config sender,
      .config recipient] pool after := by
  obtain ⟨lToken, _, _, run⟩ := moveLTokens_ok computed
  have moved := touches_setReserve (lToken_transfer_touchesOnly run.transfer)
  rcases run.finalize.result with ⟨_, rfl⟩ | ⟨_, _, fromConfig, toConfig, _, _, rfl⟩
  · exact moved.mono (by simp)
  · exact (moved.append (touches_setUserConfig fromConfig)).append
      (touches_setUserConfig toConfig)

theorem updateAllowance_touchesOnly {change : ERC20 → Result ERC20} {owner spender : Address}
    (set : ∀ base base', change base = .ok base' → ∃ allowance,
      base' = { base with allowances := setAllowance base.allowances owner spender allowance })
    (computed : pool.updateAllowance asset change = .ok after) :
    TouchesOnly [.cell asset (.allowance owner spender)] pool after := by
  obtain ⟨_, base, changed, rfl⟩ := updateAllowance_ok computed
  obtain ⟨allowance, rfl⟩ := set _ _ changed
  have allowances : Reserve.TouchesOnly [.allowance owner spender] (pool.reserves asset)
      { pool.reserves asset with lToken := { (pool.reserves asset).lToken with
        base := { (pool.reserves asset).lToken.base with
          allowances := setAllowance (pool.reserves asset).lToken.base.allowances owner spender
            allowance } } } := by
    rintro (_ | ⟨owner', spender'⟩ | _ | _ | _ | _ | _ | _) _ untouched
    all_goals try rfl
    exact ERC20.setAllowance_other (by simpa using untouched)
  exact touches_setReserve allowances

theorem delegation_touchesOnly {cell : Cell} {reserve : Reserve}
    (others : ∀ other, other ≠ cell → reserve.cell other = (pool.reserves asset).cell other) :
    TouchesOnly [.cell asset cell] pool (pool.setReserve asset reserve) := by
  have one : Reserve.TouchesOnly [cell] (pool.reserves asset) reserve :=
    fun other _ untouched => others other (by simpa using untouched)
  exact touches_setReserve one

end LendingPool

namespace ERC20

variable {token after : ERC20} {owner spender : Address} {amount : Nat}

theorem approve_allowance (computed : token.approve owner spender amount = .ok after) :
    after.allowances owner spender = amount := by
  rw [approve_ok computed]
  exact setAllowance_same _ _ _ _

theorem increaseAllowance_sets
    (computed : token.increaseAllowance owner spender amount = .ok after) :
    ∃ allowance, after =
      { token with allowances := setAllowance token.allowances owner spender allowance } := by
  simp only [increaseAllowance, bind_eq_ok] at computed
  obtain ⟨allowance, _, approved⟩ := computed
  exact ⟨allowance, approve_ok approved⟩

theorem decreaseAllowance_sets
    (computed : token.decreaseAllowance owner spender amount = .ok after) :
    ∃ allowance, after =
      { token with allowances := setAllowance token.allowances owner spender allowance } := by
  simp only [decreaseAllowance, bind_eq_ok] at computed
  obtain ⟨allowance, _, approved⟩ := computed
  exact ⟨allowance, approve_ok approved⟩

theorem spendAllowance_sets
    (computed : token.spendAllowance owner spender amount = .ok after) :
    ∃ allowance, after =
      { token with allowances := setAllowance token.allowances owner spender allowance } := by
  simp only [spendAllowance, bind_eq_ok] at computed
  obtain ⟨allowance, _, approved⟩ := computed
  exact ⟨allowance, approve_ok approved⟩

end ERC20

theorem Call.execute_touchesOnly {env : Env} {pool after : LendingPool} {msgSender : Address}
    {call : Call} (computed : call.execute env pool msgSender = .ok after) :
    LendingPool.TouchesOnly (call.footprint pool msgSender) pool after := by
  cases call with
  | deposit => exact deposit_touchesOnly computed
  | withdraw =>
      simp only [execute, bind_eq_ok, Prod.exists, pure_eq_ok] at computed
      obtain ⟨_, _, computed, rfl⟩ := computed
      exact withdraw_touchesOnly computed
  | borrow =>
      simp only [execute, LendingPool.borrow, bind_eq_ok] at computed
      obtain ⟨_, _, computed⟩ := computed
      exact executeBorrow_touchesOnly computed
  | repay =>
      simp only [execute, bind_eq_ok, Prod.exists, pure_eq_ok] at computed
      obtain ⟨_, _, computed, rfl⟩ := computed
      exact repay_touchesOnly computed
  | swapBorrowRateMode => exact swapBorrowRateMode_touchesOnly computed
  | rebalanceStableBorrowRate =>
      exact rebalanceStableBorrowRate_touchesOnly computed
  | setUserUseReserveAsCollateral =>
      obtain ⟨_, _, _, rfl⟩ := setUserUseReserveAsCollateral_ok computed
      exact touches_setUserConfig _
  | liquidationCall => exact LendingPoolCollateralManager.liquidationCall_touchesOnly computed
  | transfer => exact moveLTokens_touchesOnly computed
  | transferFrom =>
      simp only [execute, LendingPool.transferFrom, bind_eq_ok] at computed
      obtain ⟨_, moved, allowed⟩ := computed
      exact (moveLTokens_touchesOnly moved).append
        (updateAllowance_touchesOnly (fun _ _ => ERC20.spendAllowance_sets) allowed)
  | approve =>
      exact updateAllowance_touchesOnly (fun _ _ approved => ⟨_, ERC20.approve_ok approved⟩)
        computed
  | increaseAllowance =>
      exact updateAllowance_touchesOnly (fun _ _ => ERC20.increaseAllowance_sets) computed
  | decreaseAllowance =>
      exact updateAllowance_touchesOnly (fun _ _ => ERC20.decreaseAllowance_sets) computed
  | approveStableDelegation =>
      simp only [execute, LendingPool.approveStableDelegation, bind_eq_ok, pure_eq_ok] at computed
      obtain ⟨_, _, rfl⟩ := computed
      refine delegation_touchesOnly ?_
      rintro (_ | _ | _ | _ | _ | ⟨delegator, delegatee⟩ | _ | _) other
      all_goals try rfl
      exact ERC20.setAllowance_other (by simpa using other)
  | approveVariableDelegation =>
      simp only [execute, LendingPool.approveVariableDelegation, bind_eq_ok, pure_eq_ok] at computed
      obtain ⟨_, _, rfl⟩ := computed
      refine delegation_touchesOnly ?_
      rintro (_ | _ | _ | _ | _ | _ | _ | ⟨delegator, delegatee⟩) other
      all_goals try rfl
      exact ERC20.setAllowance_other (by simpa using other)

end PalmyProtocol
