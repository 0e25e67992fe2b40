import PalmyProtocol.System.Footprints
import PalmyProtocol.System.ShareBooks

set_option autoImplicit false

namespace PalmyProtocol

open Checked Rounding LendingPool

namespace Reserve

variable {reserve middle after : Reserve} {user holder payer : Address} {shift shift' : Int}
  {amount : Nat}

def DebtShifts (user : Address) (shift : Int) (reserve after : Reserve) : Prop :=
  (after.variableDebtToken.base.balances user : Int) =
    reserve.variableDebtToken.base.balances user + shift

theorem DebtShifts.of_same (same : after.variableDebtToken = reserve.variableDebtToken) :
    DebtShifts user 0 reserve after := by
  rw [DebtShifts, same, Int.add_zero]

theorem DebtShifts.within {first last : Reserve} (shifts : DebtShifts user shift middle after)
    (before : middle.variableDebtToken = first.variableDebtToken)
    (later : last.variableDebtToken = after.variableDebtToken) :
    DebtShifts user shift first last := by
  rwa [DebtShifts, later, ← before]

theorem mintVariableDebt_shifts {first : Bool}
    (computed : reserve.mintVariableDebt payer holder amount = .ok (after, first)) :
    DebtShifts user (Share.moved user [.given holder amount reserve.variableBorrowIndex])
      reserve after := by
  obtain ⟨token, minted, rfl⟩ := mintVariableDebt_ok computed
  have balance := minted.balances user
  simp only [Share.moved_cons, Share.moved_nil, Share.account, Share.scaled, eq_comm (a := holder)]
  change (token.base.balances user : Int) = _
  rw [balance]
  split_ifs <;> push_cast <;> omega

theorem burnVariableDebt_shifts (computed : reserve.burnVariableDebt holder amount = .ok after) :
    DebtShifts user (Share.moved user [.taken holder amount reserve.variableBorrowIndex])
      reserve after := by
  obtain ⟨token, burned, rfl⟩ := burnVariableDebt_ok computed
  have balance := burned.balances user
  simp only [Share.moved_cons, Share.moved_nil, Share.account, Share.scaled, eq_comm (a := holder)]
  change (token.base.balances user : Int) = _
  rw [← balance]
  split_ifs <;> push_cast <;> omega

end Reserve

namespace LendingPool

def debtIndex (env : Env) (pool : LendingPool) (asset : Address) : Nat :=
  (pool.reserves asset).accruedVariableBorrowIndex env.timestamp
    (pool.reserves asset).variableDebtToken.base.totalSupply

end LendingPool

def Call.debtShares (env : Env) (pool : LendingPool) (asset msgSender : Address) :
    Call → List Share
  | borrow a amount interestRateMode onBehalfOf =>
    if a = asset ∧ interestRateMode ≠ 1 then
      [.given onBehalfOf amount (pool.debtIndex env asset)]
    else []
  | repay a amount rateMode onBehalfOf =>
    if a = asset ∧ rateMode ≠ 1 then
      match pool.repay env msgSender a amount rateMode onBehalfOf with
      | .ok (_, paybackAmount) => [.taken onBehalfOf paybackAmount (pool.debtIndex env asset)]
      | .error _ => []
    else []
  | swapBorrowRateMode a rateMode =>
    if a = asset then
      match (pool.reserves asset).getUserCurrentDebt env.timestamp msgSender with
      | .ok (stableDebt, variableDebt) =>
        if rateMode = 1 then [.given msgSender stableDebt (pool.debtIndex env asset)]
        else [.taken msgSender variableDebt (pool.debtIndex env asset)]
      | .error _ => []
    else []
  | liquidationCall collateralAsset debtAsset user debtToCover _ =>
    if debtAsset = asset then
      match LendingPoolCollateralManager.liquidationAmounts env pool collateralAsset debtAsset user
          debtToCover, (pool.reserves asset).getUserCurrentDebt env.timestamp user with
      | .ok (actualDebtToLiquidate, _), .ok (_, userVariableDebt) =>
        if userVariableDebt = 0 then []
        else [.taken user (min actualDebtToLiquidate userVariableDebt) (pool.debtIndex env asset)]
      | _, _ => []
    else []
  | _ => []

namespace LendingPool

variable {env : Env} {pool after : LendingPool} {msgSender asset user onBehalfOf : Address}
  {amount : Nat}

abbrev DebtShifts (asset user : Address) (shift : Int) (pool after : LendingPool) : Prop :=
  Reserve.DebtShifts user shift (pool.reserves asset) (after.reserves asset)

theorem executeBorrow_debtShifts {vars : ExecuteBorrowParams}
    (computed : pool.executeBorrow env vars = .ok after) :
    DebtShifts vars.asset user (Share.moved user (if vars.interestRateMode = 1 then []
      else [.given vars.onBehalfOf vars.amount (pool.debtIndex env vars.asset)])) pool after := by
  obtain ⟨_, accrued, minted, rated, released, mode, _, _, run⟩ := executeBorrow_ok computed
  have index := Reserve.updateState_variableBorrowIndex run.accrue
  have before := (Reserve.updateState_sameDebts run.accrue).floating
  have mint := run.mint
  simp only [stable_iff run.chosen] at mint
  have debt : Reserve.DebtShifts user (Share.moved user (if vars.interestRateMode = 1 then []
      else [.given vars.onBehalfOf vars.amount (pool.debtIndex env vars.asset)]))
      accrued minted := by
    split_ifs at mint ⊢
    · obtain ⟨_, _, rfl⟩ := Reserve.mintStableDebt_ok mint
      exact .of_same rfl
    · rw [debtIndex, ← index]
      exact Reserve.mintVariableDebt_shifts mint
  obtain ⟨_, release⟩ := run.released_eq
  have later : released.variableDebtToken = minted.variableDebtToken := by
    rw [release]
    exact (Reserve.updateInterestRates_sameDebts run.rate).floating
  rw [DebtShifts, run.result, setUserConfig_reserves, setReserve_same]
  exact debt.within before later

theorem repay_debtShifts {rateMode payback : Nat}
    (computed : pool.repay env msgSender asset amount rateMode onBehalfOf = .ok (after, payback)) :
    DebtShifts asset user (Share.moved user (if rateMode = 1 then []
      else [.taken onBehalfOf payback (pool.debtIndex env asset)])) pool after := by
  obtain ⟨mode, _, _, accrued, burned, rated, funded, _, chosen, run⟩ := repay_ok computed
  have index := Reserve.updateState_variableBorrowIndex run.accrue
  have before := (Reserve.updateState_sameDebts run.accrue).floating
  have burn := run.burn
  simp only [stable_iff chosen] at burn
  have debt : Reserve.DebtShifts user (Share.moved user (if rateMode = 1 then []
      else [.taken onBehalfOf payback (pool.debtIndex env asset)])) accrued burned := by
    split_ifs at burn ⊢
    · obtain ⟨_, _, rfl⟩ := Reserve.burnStableDebt_ok burn
      exact .of_same rfl
    · rw [debtIndex, ← index]
      exact Reserve.burnVariableDebt_shifts burn
  have later := ((Reserve.updateInterestRates_sameDebts run.rate).trans
    (Reserve.transferUnderlyingFrom_sameDebts run.fund)).floating
  rw [DebtShifts, run.result, setUserConfig_reserves, setReserve_same]
  exact debt.within before later

theorem swapBorrowRateMode_debtShifts {rateMode : Nat}
    (computed : pool.swapBorrowRateMode env msgSender asset rateMode = .ok after) :
    DebtShifts asset user (Share.moved user (Call.debtShares env pool asset msgSender
      (.swapBorrowRateMode asset rateMode))) pool after := by
  obtain ⟨mode, _, _, accrued, burned, minted, rated, _, chosen, run⟩ :=
    swapBorrowRateMode_ok computed
  have index := Reserve.updateState_variableBorrowIndex run.accrue
  have before := (Reserve.updateState_sameDebts run.accrue).floating
  have later := (Reserve.updateInterestRates_sameDebts run.rate).floating
  have burn := run.burn
  have mint := run.mint
  simp only [stable_iff chosen] at burn mint
  simp only [Call.debtShares, if_true, run.debts]
  rw [debtIndex, ← index, DebtShifts, run.result, setReserve_same]
  split_ifs at burn mint ⊢
  · obtain ⟨_, _, rfl⟩ := Reserve.burnStableDebt_ok burn
    exact (Reserve.mintVariableDebt_shifts mint).within before later
  · obtain ⟨_, _, shape⟩ := Reserve.mintStableDebt_ok mint
    exact (Reserve.burnVariableDebt_shifts burn).within before (later.trans (by rw [shape]))

open LendingPoolCollateralManager in
theorem burnDebt_shifts {reserve burned : Reserve} {actual userVariableDebt : Nat}
    (computed : burnDebt env reserve onBehalfOf actual userVariableDebt = .ok burned) :
    Reserve.DebtShifts user (Share.moved user (if userVariableDebt = 0 then []
      else [.taken onBehalfOf (min actual userVariableDebt) reserve.variableBorrowIndex]))
      reserve burned := by
  rcases burnDebt_ok computed with ⟨covered, burn⟩ | ⟨short, floating, first, second⟩
  · have paid : actual ≠ 0 := by
      rintro rfl
      obtain ⟨_, burned, _⟩ := Reserve.burnVariableDebt_ok burn
      exact burned.scaled_ne_zero (by simp)
    rw [if_neg (by omega), min_eq_left covered]
    exact Reserve.burnVariableDebt_shifts burn
  · obtain ⟨_, _, rfl⟩ := Reserve.burnStableDebt_ok second
    by_cases none : userVariableDebt = 0
    · rw [if_neg (by omega)] at first
      cases first
      rw [if_pos none]
      exact .of_same rfl
    · rw [if_pos (by omega)] at first
      rw [if_neg none, min_eq_right (Nat.le_of_lt short)]
      exact (Reserve.burnVariableDebt_shifts first).within rfl rfl

open LendingPoolCollateralManager in
theorem seize_sameDebts {collateralAsset borrower : Address} {receiveLToken : Bool}
    (asset : Address)
    (computed : (if receiveLToken then
        seizeLTokens env pool msgSender collateralAsset borrower amount
      else seizeUnderlying env pool msgSender collateralAsset borrower amount) = .ok after) :
    Reserve.SameDebts (pool.reserves asset) (after.reserves asset) := by
  by_cases same : asset = collateralAsset
  · subst same
    split_ifs at computed
    · obtain ⟨_, _, _, _, _, leg⟩ := seizeLTokens_ok computed
      rw [leg.result, setUserConfig_reserves, setReserve_same]
      exact ⟨rfl, rfl⟩
    · obtain ⟨_, _, _, leg⟩ := seizeUnderlying_ok computed
      rw [leg.result, setReserve_same]
      exact ((Reserve.updateState_sameDebts leg.accrue).trans
        (Reserve.updateInterestRates_sameDebts leg.rate)).trans
          (Reserve.burnLToken_sameDebts leg.burn)
  · split_ifs at computed
    · obtain ⟨_, _, _, _, _, leg⟩ := seizeLTokens_ok computed
      rw [leg.result, setUserConfig_reserves, setReserve_other same]
      exact .refl _
    · obtain ⟨_, _, _, leg⟩ := seizeUnderlying_ok computed
      rw [leg.result, setReserve_other same]
      exact .refl _

open LendingPoolCollateralManager in
theorem liquidationCall_debtShifts {collateralAsset debtAsset borrower : Address}
    {debtToCover : Nat} {receiveLToken : Bool}
    (computed : pool.liquidationCall env msgSender collateralAsset debtAsset borrower debtToCover
      receiveLToken = .ok after) :
    DebtShifts debtAsset user (Share.moved user (Call.debtShares env pool debtAsset msgSender
      (.liquidationCall collateralAsset debtAsset borrower debtToCover receiveLToken)))
      pool after := by
  obtain ⟨_, _, _, _, _, _, _, run⟩ := liquidationCall_ok computed
  obtain ⟨repaid, seized, _, _, exec⟩ := executeLiquidation_ok run.execute
  obtain ⟨accrued, burned, rated, leg⟩ := repayDebt_ok exec.repay
  have index := Reserve.updateState_variableBorrowIndex leg.accrue
  have before := (Reserve.updateState_sameDebts leg.accrue).floating
  have rate := (Reserve.updateInterestRates_sameDebts leg.rate).floating
  have kept := (seize_sameDebts debtAsset exec.seize).trans (executed_tokens exec debtAsset).2
  have later := kept.floating
  rw [leg.result, setReserve_same, rate] at later
  simp only [Call.debtShares, if_true, run.settled, run.debts]
  rw [debtIndex, ← index]
  exact (burnDebt_shifts leg.burn).within before later

end LendingPool

end PalmyProtocol
