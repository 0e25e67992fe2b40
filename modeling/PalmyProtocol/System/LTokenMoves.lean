import PalmyProtocol.System.ReserveFrame

set_option autoImplicit false

namespace PalmyProtocol

open Checked Rounding LendingPool

namespace Reserve

variable {env : Env} {reserve middle after : Reserve} {sender recipient user : Address}
variable {sent received amount : Nat}

def Quiet (reserve after : Reserve) : Prop :=
  after.lToken.treasury = reserve.lToken.treasury ∧ ∃ minted,
    (∀ a, after.lToken.base.balances a =
      reserve.lToken.base.balances a + if a = reserve.lToken.treasury then minted else 0) ∧
    after.lToken.base.totalSupply = reserve.lToken.base.totalSupply + minted

def Moves (reserve after : Reserve) (sender recipient : Address) (sent received : Nat) : Prop :=
  ∃ minted,
    (∀ a, after.lToken.base.balances a + (if a = sender then sent else 0) =
      reserve.lToken.base.balances a + (if a = recipient then received else 0) +
        if a = reserve.lToken.treasury then minted else 0) ∧
    after.lToken.base.totalSupply + sent = reserve.lToken.base.totalSupply + received + minted

theorem Quiet.refl (reserve : Reserve) : Quiet reserve reserve :=
  ⟨rfl, 0, fun a => by simp, rfl⟩

theorem quiet_of_same (same : after.lToken = reserve.lToken) : Quiet reserve after := by
  rw [Quiet, same]
  exact Quiet.refl reserve

theorem Quiet.trans (first : Quiet reserve middle) (second : Quiet middle after) :
    Quiet reserve after := by
  obtain ⟨treasury, minted, balances, supply⟩ := first
  obtain ⟨treasury', minted', balances', supply'⟩ := second
  refine ⟨treasury'.trans treasury, minted + minted', fun a => ?_, by omega⟩
  rw [balances', balances, treasury]
  split_ifs <;> omega

theorem Quiet.then_moves (first : Quiet reserve middle)
    (second : Moves middle after sender recipient sent received) :
    Moves reserve after sender recipient sent received := by
  obtain ⟨treasury, minted, balances, supply⟩ := first
  obtain ⟨minted', balances', supply'⟩ := second
  refine ⟨minted + minted', fun a => ?_, by omega⟩
  rw [balances' a, balances, treasury]
  split_ifs <;> omega

theorem Quiet.moves (quiet : Quiet reserve after) (sender recipient : Address) :
    Moves reserve after sender recipient 0 0 := by
  obtain ⟨_, minted, balances, supply⟩ := quiet
  exact ⟨minted, fun a => by simp [balances], by omega⟩

theorem Moves.of_holdings {later : Reserve}
    (moves : Moves reserve after sender recipient sent received)
    (same : ERC20.SameHoldings after.lToken.base later.lToken.base) :
    Moves reserve later sender recipient sent received := by
  rw [Moves, same.balances, same.totalSupply]
  exact moves

theorem Moves.of_same {later : Reserve} (moves : Moves reserve after sender recipient sent received)
    (same : later.lToken = after.lToken) :
    Moves reserve later sender recipient sent received :=
  moves.of_holdings ⟨by rw [same], by rw [same]⟩

theorem updateState_quiet {now : Nat} (computed : reserve.updateState now = .ok after) :
    Quiet reserve after := by
  obtain ⟨lToken, _, _, run⟩ := updateState_ok computed
  rw [run.result]
  rcases mintToTreasury_ok run.treasury with same | ⟨minted, balances, supply, _, treasury⟩
  · exact quiet_of_same same
  · exact ⟨treasury, minted, balances, supply⟩

theorem updateInterestRates_quiet {asset lTokenAddress : Address} {added taken : Nat}
    (computed : reserve.updateInterestRates env asset lTokenAddress added taken = .ok after) :
    Quiet reserve after := by
  obtain ⟨_, _, _, _, run⟩ := updateInterestRates_ok computed
  rw [run.result]
  exact quiet_of_same rfl

theorem transferUnderlyingFrom_quiet {spender : Address}
    (computed : reserve.transferUnderlyingFrom spender sender recipient amount = .ok after) :
    Quiet reserve after := by
  obtain ⟨_, _, rfl⟩ := transferUnderlyingFrom_ok computed
  exact quiet_of_same rfl

theorem transferUnderlyingTo_quiet (computed : reserve.transferUnderlyingTo recipient amount =
    .ok after) : Quiet reserve after := by
  obtain ⟨_, _, _, rfl⟩ := transferUnderlyingTo_ok computed
  exact quiet_of_same rfl

theorem mintStableDebt_quiet {now rate : Nat} {first : Bool}
    (computed : reserve.mintStableDebt now sender user amount rate = .ok (after, first)) :
    Quiet reserve after := by
  obtain ⟨_, _, rfl⟩ := mintStableDebt_ok computed
  exact quiet_of_same rfl

theorem burnStableDebt_quiet {now : Nat}
    (computed : reserve.burnStableDebt now user amount = .ok after) : Quiet reserve after := by
  obtain ⟨_, _, rfl⟩ := burnStableDebt_ok computed
  exact quiet_of_same rfl

theorem mintVariableDebt_quiet {first : Bool}
    (computed : reserve.mintVariableDebt sender user amount = .ok (after, first)) :
    Quiet reserve after := by
  obtain ⟨_, _, rfl⟩ := mintVariableDebt_ok computed
  exact quiet_of_same rfl

theorem burnVariableDebt_quiet (computed : reserve.burnVariableDebt user amount = .ok after) :
    Quiet reserve after := by
  obtain ⟨_, _, rfl⟩ := burnVariableDebt_ok computed
  exact quiet_of_same rfl

-- The scaled amounts stay variables: the sums around them are not to be computed.
theorem mintLToken_moves {first : Bool}
    (computed : reserve.mintLToken user amount = .ok (after, first)) :
    ∃ received, Moves reserve after user user 0 received := by
  obtain ⟨lToken, minted, shape⟩ := mintLToken_ok computed
  obtain ⟨received, balances, supply⟩ : ∃ received,
      (∀ a, lToken.base.balances a =
        reserve.lToken.base.balances a + if a = user then received else 0) ∧
      lToken.base.totalSupply = reserve.lToken.base.totalSupply + received :=
    ⟨_, minted.balances, minted.totalSupply⟩
  have same : after.lToken = lToken := by rw [shape]
  refine ⟨received, 0, fun a => ?_, ?_⟩
  · rw [same, balances]
    simp
  · rw [same, supply]

theorem burnLToken_moves {receiver : Address} (recipient : Address)
    (computed : reserve.burnLToken user receiver amount = .ok after) :
    ∃ sent, Moves reserve after user recipient sent 0 := by
  obtain ⟨lToken, _, burned, _, shape⟩ := burnLToken_ok computed
  obtain ⟨sent, balances, supply⟩ : ∃ sent,
      (∀ a, lToken.base.balances a + (if a = user then sent else 0) =
        reserve.lToken.base.balances a) ∧
      lToken.base.totalSupply + sent = reserve.lToken.base.totalSupply :=
    ⟨_, burned.balances, burned.totalSupply⟩
  have same : after.lToken = lToken := by rw [shape]
  refine ⟨sent, 0, fun a => ?_, ?_⟩
  · rw [same, balances]
    simp
  · rw [same, supply, Nat.add_zero]

theorem transfer_moves {lToken : LToken} {fromBefore toBefore index : Nat}
    (moved : LToken.Transferred reserve.lToken index sender recipient amount lToken fromBefore
      toBefore) (same : after.lToken = lToken) :
    ∃ sent, Moves reserve after sender recipient sent sent := by
  obtain ⟨sent, balances⟩ : ∃ sent, ∀ a,
      lToken.base.balances a + (if a = sender then sent else 0) =
        reserve.lToken.base.balances a + if a = recipient then sent else 0 :=
    ⟨_, moved.balances⟩
  refine ⟨sent, 0, fun a => ?_, ?_⟩
  · rw [same, balances]
    simp
  · rw [same, moved.totalSupply, Nat.add_zero]

theorem transfer_self_quiet {lToken : LToken} {fromBefore toBefore index : Nat}
    (moved : LToken.Transferred reserve.lToken index user user amount lToken fromBefore toBefore)
    (same : after.lToken = lToken) : Quiet reserve after := by
  rw [Quiet, same]
  refine ⟨moved.treasury, 0, fun a => ?_, moved.totalSupply⟩
  have balance := moved.balances a
  split_ifs at balance ⊢ <;> omega

theorem Moves.less (moves : Moves reserve after sender recipient sent received)
    (less : after.lToken.base.balances user < reserve.lToken.base.balances user) :
    user = sender ∧ sent ≠ 0 := by
  obtain ⟨minted, balances, _⟩ := moves
  have balance := balances user
  by_cases gave : user = sender
  · rw [if_pos gave] at balance
    refine ⟨gave, ?_⟩
    rintro rfl
    omega
  · rw [if_neg gave] at balance
    omega

end Reserve

namespace Call

def source (asset msgSender : Address) : Call → Option Address
  | withdraw named _ _ => if named = asset then some msgSender else none
  | transfer named recipient _ =>
    if named = asset ∧ msgSender ≠ recipient then some msgSender else none
  | transferFrom named sender recipient _ =>
    if named = asset ∧ sender ≠ recipient then some sender else none
  | liquidationCall collateralAsset _ user _ _ =>
    if collateralAsset = asset then some user else none
  | _ => none

end Call

namespace LendingPool

variable {env : Env} {pool after : LendingPool} {msgSender asset user onBehalfOf : Address}
variable {amount : Nat}

theorem executeBorrow_quiet {vars : ExecuteBorrowParams}
    (computed : pool.executeBorrow env vars = .ok after) :
    Reserve.Quiet (pool.reserves asset) (after.reserves asset) := by
  by_cases same : asset = vars.asset
  · subst same
    obtain ⟨_, accrued, minted, rated, released, mode, first, config, run⟩ :=
      executeBorrow_ok computed
    rw [run.result, setUserConfig_reserves, setReserve_same]
    have mint := run.mint
    have lent : Reserve.Quiet accrued minted := by
      split_ifs at mint
      · exact Reserve.mintStableDebt_quiet mint
      · exact Reserve.mintVariableDebt_quiet mint
    have paid : Reserve.Quiet rated released := by
      obtain ⟨_, shape⟩ := run.released_eq
      rw [shape]
      exact Reserve.quiet_of_same rfl
    exact (((Reserve.updateState_quiet run.accrue).trans lent).trans
      (Reserve.updateInterestRates_quiet run.rate)).trans paid
  · rw [executeBorrow_other same computed]
    exact .refl _

theorem moveLTokens_moves {sender recipient : Address}
    (computed : pool.moveLTokens env asset sender recipient amount = .ok after) :
    ∃ sent, Reserve.Moves (pool.reserves asset) (after.reserves asset) sender recipient sent sent ∧
      (sender = recipient → sent = 0) := by
  obtain ⟨lToken, _, _, run⟩ := moveLTokens_ok computed
  obtain ⟨_, _, moved⟩ := LToken.transfer_ok run.transfer
  have same : (after.reserves asset).lToken = lToken := by
    rcases run.finalize.result with ⟨_, rfl⟩ | ⟨_, _, _, _, _, _, rfl⟩ <;> simp
  by_cases self : sender = recipient
  · subst self
    exact ⟨0, (Reserve.transfer_self_quiet moved same).moves sender sender, fun _ => rfl⟩
  · obtain ⟨sent, moves⟩ := Reserve.transfer_moves moved same
    exact ⟨sent, moves, fun equal => absurd equal self⟩

theorem burnDebt_quiet {reserve burned : Reserve} {actual userVariableDebt : Nat}
    (computed : LendingPoolCollateralManager.burnDebt env reserve user actual userVariableDebt =
      .ok burned) : Reserve.Quiet reserve burned := by
  rcases LendingPoolCollateralManager.burnDebt_ok computed with
    ⟨_, burn⟩ | ⟨_, floating, first, second⟩
  · exact Reserve.burnVariableDebt_quiet burn
  · split_ifs at first
    · exact (Reserve.burnVariableDebt_quiet first).trans (Reserve.burnStableDebt_quiet second)
    · cases first
      exact Reserve.burnStableDebt_quiet second

theorem quiet_setReserve {reserve : Reserve} {other : Address}
    (quiet : Reserve.Quiet (pool.reserves asset) reserve) :
    Reserve.Quiet (pool.reserves other) ((pool.setReserve asset reserve).reserves other) := by
  by_cases same : other = asset
  · subst same
    rwa [setReserve_same]
  · rw [setReserve_other same]
    exact .refl _

theorem repayDebt_quiet {debtAsset : Address} {actual userVariableDebt : Nat}
    (computed : LendingPoolCollateralManager.repayDebt env pool debtAsset user actual
      userVariableDebt = .ok after) :
    Reserve.Quiet (pool.reserves asset) (after.reserves asset) := by
  obtain ⟨_, _, _, leg⟩ := LendingPoolCollateralManager.repayDebt_ok computed
  rw [leg.result]
  exact quiet_setReserve (((Reserve.updateState_quiet leg.accrue).trans
    (burnDebt_quiet leg.burn)).trans (Reserve.updateInterestRates_quiet leg.rate))

theorem liquidationCall_moves {collateralAsset debtAsset : Address} {debtToCover : Nat}
    {receiveLToken : Bool}
    (computed : pool.liquidationCall env msgSender collateralAsset debtAsset user debtToCover
      receiveLToken = .ok after) :
    ∃ sent received, received ≤ sent ∧ (collateralAsset ≠ asset → sent = 0) ∧
      Reserve.Moves (pool.reserves asset) (after.reserves asset) user msgSender sent received := by
  obtain ⟨_, _, _, _, _, _, _, run⟩ := liquidationCall_ok computed
  obtain ⟨repaid, seized, config, funded, exec⟩ :=
    LendingPoolCollateralManager.executeLiquidation_ok run.execute
  have paid : Reserve.Quiet (pool.reserves asset) (repaid.reserves asset) :=
    repayDebt_quiet exec.repay
  have last : (after.reserves asset).lToken = (seized.reserves asset).lToken := by
    obtain ⟨_, _, shape⟩ := Reserve.transferUnderlyingFrom_ok exec.fund
    rw [exec.result]
    by_cases same : asset = debtAsset
    · subst same
      rw [setReserve_same, shape]
    · rw [setReserve_other same, setUserConfig_reserves]
  have seize := exec.seize
  by_cases taken : asset = collateralAsset
  · subst taken
    split_ifs at seize
    · obtain ⟨_, _, _, lToken, _, leg⟩ := LendingPoolCollateralManager.seizeLTokens_ok seize
      obtain ⟨_, _, moved⟩ := LToken.transfer_ok leg.transfer
      have here : (seized.reserves asset).lToken = lToken := by simp [leg.result]
      obtain ⟨sent, moves⟩ := Reserve.transfer_moves moved (last.trans here)
      exact ⟨sent, sent, le_refl _, fun apart => absurd rfl apart, paid.then_moves moves⟩
    · obtain ⟨_, _, burned, leg⟩ := LendingPoolCollateralManager.seizeUnderlying_ok seize
      have here : (seized.reserves asset).lToken = burned.lToken := by simp [leg.result]
      have accrued := (Reserve.updateState_quiet leg.accrue).trans
        (Reserve.updateInterestRates_quiet leg.rate)
      obtain ⟨sent, moves⟩ := Reserve.burnLToken_moves msgSender leg.burn
      exact ⟨sent, 0, Nat.zero_le _, fun apart => absurd rfl apart,
        ((paid.trans accrued).then_moves moves).of_same (last.trans here)⟩
  · have kept : (seized.reserves asset).lToken = (repaid.reserves asset).lToken := by
      split_ifs at seize
      · obtain ⟨_, _, _, _, _, leg⟩ := LendingPoolCollateralManager.seizeLTokens_ok seize
        rw [leg.result, setUserConfig_reserves, setReserve_other taken]
      · obtain ⟨_, _, _, leg⟩ := LendingPoolCollateralManager.seizeUnderlying_ok seize
        rw [leg.result, setReserve_other taken]
    exact ⟨0, 0, le_refl _, fun _ => rfl, (paid.moves user msgSender).of_same (last.trans kept)⟩

theorem openFlashLoan_quiet {receiverAddress : Address}
    {requests : List (Address × Nat × Option Nat)} {entries : List FlashLoanEntry}
    (computed : openFlashLoan receiverAddress pool requests = .ok (after, entries)) :
    Reserve.Quiet (pool.reserves asset) (after.reserves asset) := by
  induction requests generalizing pool entries with
  | nil =>
      cases computed
      exact .refl _
  | cons request rest ih =>
      obtain ⟨named, amount, mode⟩ := request
      obtain ⟨_, _, sent, opened, _⟩ := openFlashLoan_cons computed
      exact (quiet_setReserve (Reserve.transferUnderlyingTo_quiet sent)).trans (ih opened)

theorem settleFlashLoan_quiet {receiverAddress : Address} {entry : FlashLoanEntry}
    (computed : pool.settleFlashLoan env receiverAddress msgSender onBehalfOf entry = .ok after) :
    Reserve.Quiet (pool.reserves asset) (after.reserves asset) := by
  obtain ⟨_, _, _, _, ⟨_, _, accrued, data, rated, funded, run⟩ | ⟨_, borrowed⟩⟩ :=
    settleFlashLoan_ok computed
  · have earned : Reserve.Quiet accrued { accrued with toReserveData := data } :=
      Reserve.quiet_of_same rfl
    rw [run.result]
    exact quiet_setReserve ((((Reserve.updateState_quiet run.accrue).trans earned).trans
      (Reserve.updateInterestRates_quiet run.rate)).trans
        (Reserve.transferUnderlyingFrom_quiet run.fund))
  · exact executeBorrow_quiet borrowed

theorem setUserUseReserveAsCollateral_quiet {useAsCollateral : Bool} {other : Address}
    (computed : pool.setUserUseReserveAsCollateral env msgSender other useAsCollateral = .ok after) :
    Reserve.Quiet (pool.reserves asset) (after.reserves asset) := by
  obtain ⟨_, _, _, rfl⟩ := setUserUseReserveAsCollateral_ok computed
  exact .refl _

theorem repay_quiet {rateMode payback : Nat} {other : Address}
    (computed : pool.repay env msgSender other amount rateMode onBehalfOf = .ok (after, payback)) :
    Reserve.Quiet (pool.reserves asset) (after.reserves asset) := by
  obtain ⟨_, _, _, accrued, burned, _, _, _, _, run⟩ := repay_ok computed
  have returned : Reserve.Quiet accrued burned := by
    have burn := run.burn
    split_ifs at burn
    · exact Reserve.burnStableDebt_quiet burn
    · exact Reserve.burnVariableDebt_quiet burn
  rw [run.result, setUserConfig_reserves]
  exact quiet_setReserve ((((Reserve.updateState_quiet run.accrue).trans returned).trans
    (Reserve.updateInterestRates_quiet run.rate)).trans
      (Reserve.transferUnderlyingFrom_quiet run.fund))

theorem swapBorrowRateMode_quiet {rateMode : Nat} {other : Address}
    (computed : pool.swapBorrowRateMode env msgSender other rateMode = .ok after) :
    Reserve.Quiet (pool.reserves asset) (after.reserves asset) := by
  obtain ⟨_, _, _, accrued, _, minted, _, _, _, run⟩ := swapBorrowRateMode_ok computed
  have exchanged : Reserve.Quiet accrued minted := by
    have burn := run.burn
    have mint := run.mint
    split_ifs at burn mint
    · exact (Reserve.burnStableDebt_quiet burn).trans (Reserve.mintVariableDebt_quiet mint)
    · exact (Reserve.burnVariableDebt_quiet burn).trans (Reserve.mintStableDebt_quiet mint)
  rw [run.result]
  exact quiet_setReserve (((Reserve.updateState_quiet run.accrue).trans exchanged).trans
    (Reserve.updateInterestRates_quiet run.rate))

theorem rebalanceStableBorrowRate_quiet {other : Address}
    (computed : pool.rebalanceStableBorrowRate env other user = .ok after) :
    Reserve.Quiet (pool.reserves asset) (after.reserves asset) := by
  obtain ⟨_, _, _, _, _, _, run⟩ := rebalanceStableBorrowRate_ok computed
  rw [run.result]
  exact quiet_setReserve ((((Reserve.updateState_quiet run.accrue).trans
    (Reserve.burnStableDebt_quiet run.burn)).trans (Reserve.mintStableDebt_quiet run.mint)).trans
      (Reserve.updateInterestRates_quiet run.rate))

theorem updateAllowance_holdings {change : ERC20 → Result ERC20}
    (kept : ∀ base base', change base = .ok base' → ERC20.SameHoldings base base')
    (computed : pool.updateAllowance asset change = .ok after) :
    ERC20.SameHoldings (pool.reserves asset).lToken.base (after.reserves asset).lToken.base := by
  obtain ⟨_, base, changed, rfl⟩ := updateAllowance_ok computed
  rw [setReserve_same]
  exact kept _ _ changed

theorem updateAllowance_quiet {change : ERC20 → Result ERC20} {other : Address}
    (kept : ∀ base base', change base = .ok base' → ERC20.SameHoldings base base')
    (computed : pool.updateAllowance other change = .ok after) :
    Reserve.Quiet (pool.reserves asset) (after.reserves asset) := by
  obtain ⟨_, base, changed, rfl⟩ := updateAllowance_ok computed
  have same := kept _ _ changed
  exact quiet_setReserve ⟨rfl, 0, fun a => by simp [same.balances], by simp [same.totalSupply]⟩

theorem deposit_moves
    (computed : pool.deposit env msgSender asset amount onBehalfOf = .ok after) :
    ∃ received,
      Reserve.Moves (pool.reserves asset) (after.reserves asset) onBehalfOf onBehalfOf 0 received := by
  obtain ⟨_, _, _, _, _, _, run⟩ := deposit_ok computed
  obtain ⟨received, moves⟩ := Reserve.mintLToken_moves run.mint
  have accrued := ((Reserve.updateState_quiet run.accrue).trans
    (Reserve.updateInterestRates_quiet run.rate)).trans
      (Reserve.transferUnderlyingFrom_quiet run.fund)
  rw [run.result, setUserConfig_reserves, setReserve_same]
  exact ⟨received, accrued.then_moves moves⟩

theorem withdraw_moves {recipient : Address} {withdrawn : Nat}
    (computed : pool.withdraw env msgSender asset amount recipient = .ok (after, withdrawn)) :
    ∃ sent,
      Reserve.Moves (pool.reserves asset) (after.reserves asset) msgSender msgSender sent 0 := by
  obtain ⟨_, _, _, _, _, _, run⟩ := withdraw_ok computed
  obtain ⟨sent, moves⟩ := Reserve.burnLToken_moves msgSender run.burn
  have accrued := (Reserve.updateState_quiet run.accrue).trans
    (Reserve.updateInterestRates_quiet run.rate)
  rw [run.result, setUserConfig_reserves, setReserve_same]
  exact ⟨sent, accrued.then_moves moves⟩

end LendingPool

-- What a call does to the lTokens of one asset: it takes them only from its source, and gives out
-- more than it takes only as a deposit.
structure Call.LTokens (call : Call) (pool after : LendingPool) (msgSender asset sender recipient :
    Address) (sent received : Nat) : Prop where
  moves : Reserve.Moves (pool.reserves asset) (after.reserves asset) sender recipient sent received
  source : sent ≠ 0 → call.source asset msgSender = some sender
  deposit : sent < received → ∃ amount, call = .deposit asset amount recipient

namespace Call

variable {env : Env} {pool after : LendingPool} {msgSender : Address}

theorem lTokens_quiet {call : Call} {asset : Address}
    (quiet : Reserve.Quiet (pool.reserves asset) (after.reserves asset)) :
    ∃ sender recipient sent received,
      LTokens call pool after msgSender asset sender recipient sent received :=
  ⟨0, 0, 0, 0, quiet.moves 0 0, fun some => absurd rfl some, fun less => absurd less (lt_irrefl 0)⟩

theorem execute_lTokens {call : Call} (computed : call.execute env pool msgSender = .ok after)
    (asset : Address) :
    ∃ sender recipient sent received,
      LTokens call pool after msgSender asset sender recipient sent received := by
  by_cases touched : asset ∈ call.assets
  · cases call with
    | deposit named amount onBehalfOf =>
        obtain rfl := List.mem_singleton.1 touched
        obtain ⟨received, moves⟩ := deposit_moves computed
        exact ⟨_, _, 0, received, moves, fun some => absurd rfl some, fun _ => ⟨amount, rfl⟩⟩
    | withdraw named =>
        obtain rfl := List.mem_singleton.1 touched
        simp only [execute, bind_eq_ok, Prod.exists, pure_eq_ok] at computed
        obtain ⟨_, _, computed, rfl⟩ := computed
        obtain ⟨sent, moves⟩ := withdraw_moves computed
        exact ⟨_, _, sent, 0, moves, fun _ => if_pos rfl, fun less => absurd less (Nat.not_lt_zero _)⟩
    | borrow =>
        simp only [execute, LendingPool.borrow, bind_eq_ok] at computed
        obtain ⟨_, _, computed⟩ := computed
        exact lTokens_quiet (executeBorrow_quiet computed)
    | repay =>
        simp only [execute, bind_eq_ok, Prod.exists, pure_eq_ok] at computed
        obtain ⟨_, _, computed, rfl⟩ := computed
        exact lTokens_quiet (repay_quiet computed)
    | swapBorrowRateMode => exact lTokens_quiet (swapBorrowRateMode_quiet computed)
    | rebalanceStableBorrowRate => exact lTokens_quiet (rebalanceStableBorrowRate_quiet computed)
    | setUserUseReserveAsCollateral =>
        exact lTokens_quiet (setUserUseReserveAsCollateral_quiet computed)
    | liquidationCall =>
        obtain ⟨sent, received, order, only, moves⟩ := liquidationCall_moves computed
        refine ⟨_, _, sent, received, moves, fun some => if_pos ?_, fun less => by omega⟩
        by_contra apart
        exact some (only apart)
    | transfer named recipient =>
        obtain rfl := List.mem_singleton.1 touched
        obtain ⟨sent, moves, self⟩ := moveLTokens_moves computed
        exact ⟨_, _, sent, sent, moves, fun some => if_pos ⟨rfl, fun same => some (self same)⟩,
          fun less => absurd less (lt_irrefl _)⟩
    | transferFrom named sender recipient =>
        obtain rfl := List.mem_singleton.1 touched
        simp only [execute, LendingPool.transferFrom, bind_eq_ok] at computed
        obtain ⟨moved, move, allowed⟩ := computed
        obtain ⟨sent, moves, self⟩ := moveLTokens_moves move
        have spent := updateAllowance_holdings (fun _ _ => ERC20.spendAllowance_holdings) allowed
        exact ⟨_, _, sent, sent, moves.of_holdings spent,
          fun some => if_pos ⟨rfl, fun same => some (self same)⟩,
          fun less => absurd less (lt_irrefl _)⟩
    | approve =>
        exact lTokens_quiet (updateAllowance_quiet (fun _ _ => ERC20.approve_holdings) computed)
    | increaseAllowance =>
        exact lTokens_quiet
          (updateAllowance_quiet (fun _ _ => ERC20.increaseAllowance_holdings) computed)
    | decreaseAllowance =>
        exact lTokens_quiet
          (updateAllowance_quiet (fun _ _ => ERC20.decreaseAllowance_holdings) computed)
    | approveStableDelegation | approveVariableDelegation =>
        simp only [execute, LendingPool.approveStableDelegation,
          LendingPool.approveVariableDelegation, bind_eq_ok, pure_eq_ok] at computed
        obtain ⟨_, _, rfl⟩ := computed
        exact lTokens_quiet (quiet_setReserve (Reserve.quiet_of_same rfl))
  · apply lTokens_quiet
    rw [execute_other touched computed]
    exact .refl _

end Call

namespace World

variable {world next : World}

theorem step_lTokens {event : Event} {asset : Address} (registered : world.pool.Registered)
    (listed : (world.pool.reserves asset).lTokenAddress ≠ 0)
    (taken : world.step event = .ok next) :
    (∃ msgSender call sender recipient sent received, event = .call msgSender call ∧
      Call.LTokens call world.pool next.pool msgSender asset sender recipient sent received) ∨
    Reserve.Quiet (world.pool.reserves asset) (next.pool.reserves asset) := by
  cases event with
  | call msgSender call =>
      obtain ⟨_, _, pool, executed, rfl⟩ := step_call taken
      obtain ⟨sender, recipient, sent, received, moved⟩ := Call.execute_lTokens executed asset
      exact .inl ⟨msgSender, call, sender, recipient, sent, received, rfl, moved⟩
  | admin =>
      obtain ⟨pool, administered, rfl⟩ := step_admin taken
      obtain ⟨_, _, shape⟩ := administered_listed registered listed administered
      have same : (pool.reserves asset).lToken = (world.pool.reserves asset).lToken := by rw [shape]
      exact .inr (Reserve.quiet_of_same same)
  | flashLoan =>
      obtain ⟨_, _, run⟩ := step_flashLoan taken
      rw [run.result]
      exact .inr (openFlashLoan_quiet run.opened)
  | executed =>
      obtain ⟨_, _, _, _, rfl⟩ := step_executed taken
      exact .inr (.refl _)
  | settle =>
      obtain ⟨_, _, _, _, _, run⟩ := step_settle taken
      rw [run.result]
      exact .inr (settleFlashLoan_quiet run.settle)
  | finish =>
      obtain ⟨_, _, _, _, rfl⟩ := step_finish taken
      exact .inr (.refl _)
  | ledger =>
      obtain ⟨_, rfl⟩ := step_ledger taken
      exact .inr (quiet_setReserve (Reserve.quiet_of_same rfl))
  | observe =>
      obtain ⟨_, _, rfl⟩ := step_observe taken
      exact .inr (.refl _)

end World

end PalmyProtocol
