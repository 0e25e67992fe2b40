import PalmyProtocol.System.FlashLoans

set_option autoImplicit false

namespace PalmyProtocol

open Checked LendingPool

namespace Call

def assets : Call → List Address
  | deposit asset _ _ | withdraw asset _ _ | borrow asset _ _ _ | repay asset _ _ _
  | swapBorrowRateMode asset _ | rebalanceStableBorrowRate asset _ | transfer asset _ _
  | transferFrom asset _ _ _ | approve asset _ _ | increaseAllowance asset _ _
  | decreaseAllowance asset _ _ | approveStableDelegation asset _ _
  | approveVariableDelegation asset _ _ => [asset]
  | setUserUseReserveAsCollateral _ _ => []
  | liquidationCall collateralAsset debtAsset _ _ _ => [collateralAsset, debtAsset]

end Call

namespace LendingPool

variable {env : Env} {pool after : LendingPool} {msgSender asset other user onBehalfOf : Address}
variable {amount : Nat}

theorem executeBorrow_other {vars : ExecuteBorrowParams} (different : other ≠ vars.asset)
    (computed : pool.executeBorrow env vars = .ok after) :
    after.reserves other = pool.reserves other := by
  obtain ⟨_, _, _, _, _, _, _, _, run⟩ := executeBorrow_ok computed
  rw [run.result, setUserConfig_reserves, setReserve_other different]

theorem updateAllowance_other {change : ERC20 → Result ERC20} (different : other ≠ asset)
    (computed : pool.updateAllowance asset change = .ok after) :
    after.reserves other = pool.reserves other := by
  obtain ⟨_, _, _, rfl⟩ := updateAllowance_ok computed
  rw [setReserve_other different]

theorem moveLTokens_reserves {sender recipient : Address}
    (computed : pool.moveLTokens env asset sender recipient amount = .ok after) :
    ∃ lToken, lToken.base.totalSupply = (pool.reserves asset).lToken.base.totalSupply ∧
      after.reserves = (pool.setReserve asset { pool.reserves asset with lToken }).reserves := by
  obtain ⟨lToken, _, _, run⟩ := moveLTokens_ok computed
  obtain ⟨_, _, moved⟩ := LToken.transfer_ok run.transfer
  refine ⟨lToken, moved.totalSupply, ?_⟩
  rcases run.finalize.result with ⟨_, rfl⟩ | ⟨_, _, _, _, _, _, rfl⟩
  · rfl
  · rfl

theorem moveLTokens_other {sender recipient : Address} (different : other ≠ asset)
    (computed : pool.moveLTokens env asset sender recipient amount = .ok after) :
    after.reserves other = pool.reserves other := by
  obtain ⟨_, _, same⟩ := moveLTokens_reserves computed
  rw [same, setReserve_other different]

open LendingPoolCollateralManager in
theorem repayDebt_other {debtAsset : Address} {actual userVariableDebt : Nat}
    (different : other ≠ debtAsset)
    (computed : repayDebt env pool debtAsset user actual userVariableDebt = .ok after) :
    after.reserves other = pool.reserves other := by
  obtain ⟨_, _, _, run⟩ := repayDebt_ok computed
  rw [run.result, setReserve_other different]

theorem liquidationCall_collateral {collateralAsset debtAsset : Address} {debtToCover : Nat}
    {receiveLToken : Bool} (different : other ≠ debtAsset)
    (inKind : other = collateralAsset → receiveLToken = true)
    (computed : pool.liquidationCall env msgSender collateralAsset debtAsset user debtToCover
      receiveLToken = .ok after) :
    ∃ lToken, after.reserves other = { pool.reserves other with lToken } ∧
      lToken.base.totalSupply = (pool.reserves other).lToken.base.totalSupply ∧
      (other ≠ collateralAsset → lToken = (pool.reserves other).lToken) := by
  obtain ⟨_, _, _, _, _, _, _, run⟩ := liquidationCall_ok computed
  obtain ⟨repaid, seized, config, funded, exec⟩ :=
    LendingPoolCollateralManager.executeLiquidation_ok run.execute
  have paid := repayDebt_other different exec.repay
  have seize := exec.seize
  rw [exec.result, setReserve_other different, setUserConfig_reserves]
  split_ifs at seize with receiving
  · obtain ⟨_, _, _, lToken, _, leg⟩ := LendingPoolCollateralManager.seizeLTokens_ok seize
    rw [leg.result, setUserConfig_reserves]
    by_cases same : other = collateralAsset
    · subst same
      obtain ⟨_, _, moved⟩ := LToken.transfer_ok leg.transfer
      rw [setReserve_same, paid]
      exact ⟨lToken, rfl, by rw [moved.totalSupply, paid], fun not => absurd rfl not⟩
    · rw [setReserve_other same, paid]
      exact ⟨_, rfl, rfl, fun _ => rfl⟩
  · obtain ⟨_, _, _, leg⟩ := LendingPoolCollateralManager.seizeUnderlying_ok seize
    have apart : other ≠ collateralAsset := fun same => receiving (inKind same)
    rw [leg.result, setReserve_other apart, paid]
    exact ⟨_, rfl, rfl, fun _ => rfl⟩

end LendingPool

namespace Call

variable {env : Env} {pool after : LendingPool} {msgSender other : Address}

theorem execute_other {call : Call} (untouched : other ∉ call.assets)
    (computed : call.execute env pool msgSender = .ok after) :
    after.reserves other = pool.reserves other := by
  cases call with
  | deposit =>
      obtain ⟨_, _, _, _, _, _, run⟩ := deposit_ok computed
      rw [run.result, setUserConfig_reserves, setReserve_other (by simpa [assets] using untouched)]
  | withdraw =>
      simp only [execute, bind_eq_ok, Prod.exists, pure_eq_ok] at computed
      obtain ⟨_, _, computed, rfl⟩ := computed
      obtain ⟨_, _, _, _, _, _, run⟩ := withdraw_ok computed
      rw [run.result, setUserConfig_reserves, setReserve_other (by simpa [assets] using untouched)]
  | borrow =>
      simp only [execute, LendingPool.borrow, bind_eq_ok] at computed
      obtain ⟨_, _, computed⟩ := computed
      exact executeBorrow_other (by simpa [assets] using untouched) computed
  | repay =>
      simp only [execute, bind_eq_ok, Prod.exists, pure_eq_ok] at computed
      obtain ⟨_, _, computed, rfl⟩ := computed
      obtain ⟨_, _, _, _, _, _, _, _, _, run⟩ := repay_ok computed
      rw [run.result, setUserConfig_reserves, setReserve_other (by simpa [assets] using untouched)]
  | swapBorrowRateMode =>
      obtain ⟨_, _, _, _, _, _, _, _, _, run⟩ := swapBorrowRateMode_ok computed
      rw [run.result, setReserve_other (by simpa [assets] using untouched)]
  | rebalanceStableBorrowRate =>
      obtain ⟨_, _, _, _, _, _, run⟩ := rebalanceStableBorrowRate_ok computed
      rw [run.result, setReserve_other (by simpa [assets] using untouched)]
  | setUserUseReserveAsCollateral =>
      obtain ⟨_, _, _, rfl⟩ := setUserUseReserveAsCollateral_ok computed
      rfl
  | liquidationCall collateralAsset debtAsset user debtToCover receiveLToken =>
      simp only [assets, List.mem_cons, List.not_mem_nil, or_false, not_or] at untouched
      obtain ⟨lToken, shape, _, same⟩ := liquidationCall_collateral untouched.2
        (fun named => absurd named untouched.1) computed
      rw [shape, same untouched.1]
  | transfer => exact moveLTokens_other (by simpa [assets] using untouched) computed
  | transferFrom =>
      simp only [execute, LendingPool.transferFrom, bind_eq_ok] at computed
      obtain ⟨_, moved, allowed⟩ := computed
      rw [updateAllowance_other (by simpa [assets] using untouched) allowed,
        moveLTokens_other (by simpa [assets] using untouched) moved]
  | approve | increaseAllowance | decreaseAllowance =>
      simp only [execute, LendingPool.approve, LendingPool.increaseAllowance,
        LendingPool.decreaseAllowance] at computed
      exact updateAllowance_other (by simpa [assets] using untouched) computed
  | approveStableDelegation | approveVariableDelegation =>
      simp only [execute, LendingPool.approveStableDelegation,
        LendingPool.approveVariableDelegation, bind_eq_ok, pure_eq_ok] at computed
      obtain ⟨_, _, rfl⟩ := computed
      rw [setReserve_other (by simpa [assets] using untouched)]

end Call

namespace LendingPool

variable {env : Env} {pool after : LendingPool} {asset : Address}

theorem administered_listed (registered : Registered pool)
    (listed : (pool.reserves asset).lTokenAddress ≠ 0) (administered : Administered env pool after) :
    ∃ configuration interestRateStrategyAddress, after.reserves asset =
      { pool.reserves asset with configuration, interestRateStrategyAddress } := by
  cases administered with
  | @listed input _ computed =>
      have both := listings_induction
        (fun later => later.reserves asset = pool.reserves asset) ?_ registered rfl computed
      · rw [both.2]
        exact ⟨_, _, rfl⟩
      · intro before later entry configuration _ same entered
        have different : asset ≠ entry.underlyingAsset := by
          rintro rfl
          have vacant := entered.vacant
          rw [same] at vacant
          exact listed vacant
        rw [entered.result]
        exact (setReserve_other different).trans same
  | @configured changed configuration _ =>
      by_cases same : asset = changed
      · subst same
        rw [setReserve_same]
        exact ⟨configuration, _, rfl⟩
      · rw [setReserve_other same]
        exact ⟨_, _, rfl⟩
  | chosen changed strategy =>
      by_cases same : asset = changed
      · subst same
        rw [setReserve_same]
        exact ⟨_, strategy, rfl⟩
      · rw [setReserve_other same]
        exact ⟨_, _, rfl⟩
  | paused => exact ⟨_, _, rfl⟩

def outstanding (asset : Address) : List FlashLoanEntry → Nat
  | [] => 0
  | entry :: rest => (if entry.asset = asset then entry.amount else 0) + outstanding asset rest

theorem openFlashLoan_reserve {receiverAddress : Address}
    {requests : List (Address × Nat × Option Nat)} {entries : List FlashLoanEntry}
    (apart : receiverAddress ≠ (pool.reserves asset).lTokenAddress)
    (computed : openFlashLoan receiverAddress pool requests = .ok (after, entries)) :
    Reserve.SameBooks (pool.reserves asset) (after.reserves asset) ∧
      (after.reserves asset).lToken = (pool.reserves asset).lToken ∧
      (after.reserves asset).availableLiquidity + outstanding asset entries =
        (pool.reserves asset).availableLiquidity := by
  induction requests generalizing pool entries with
  | nil =>
      cases computed
      exact ⟨.refl _, rfl, rfl⟩
  | cons request rest ih =>
      obtain ⟨named, amount, mode⟩ := request
      obtain ⟨lent, later, sent, opened, rfl⟩ := openFlashLoan_cons computed
      by_cases same : named = asset
      · subst same
        obtain ⟨books, lTokens, cash⟩ := Reserve.transferUnderlyingTo_cash apart sent
        have still : receiverAddress ≠ lent.lTokenAddress := by rwa [books.data]
        obtain ⟨laterBooks, laterLTokens, laterCash⟩ := ih (by rwa [setReserve_same]) opened
        rw [setReserve_same] at laterBooks laterLTokens laterCash
        refine ⟨books.trans laterBooks, laterLTokens.trans lTokens, ?_⟩
        simp only [outstanding, if_true]
        omega
      · have different : asset ≠ named := Ne.symm same
        obtain ⟨laterBooks, laterLTokens, laterCash⟩ :=
          ih (by rwa [setReserve_other different]) opened
        rw [setReserve_other different] at laterBooks laterLTokens laterCash
        refine ⟨laterBooks, laterLTokens, ?_⟩
        rw [outstanding, if_neg same, Nat.zero_add, laterCash]

theorem settleFlashLoan_other {receiverAddress msgSender onBehalfOf : Address}
    {entry : FlashLoanEntry} (different : asset ≠ entry.asset)
    (computed : pool.settleFlashLoan env receiverAddress msgSender onBehalfOf entry = .ok after) :
    after.reserves asset = pool.reserves asset := by
  obtain ⟨_, _, _, _, ⟨_, _, _, _, _, _, run⟩ | ⟨_, borrowed⟩⟩ := settleFlashLoan_ok computed
  · rw [run.result, setReserve_other different]
  · exact executeBorrow_other different borrowed

end LendingPool

namespace World

variable {world next : World}

def outstanding (asset : Address) (world : World) : Nat :=
  (world.frames.map fun frame => LendingPool.outstanding asset frame.pending).sum

def FramesSound (world : World) : Prop :=
  ∀ frame ∈ world.frames, ∀ entry ∈ frame.pending,
    (world.pool.reserves entry.asset).lTokenAddress ≠ 0 ∧
    entry.lTokenAddress = (world.pool.reserves entry.asset).lTokenAddress ∧
    frame.receiverAddress ≠ (world.pool.reserves entry.asset).lTokenAddress

theorem listings_address {env : Env} {pool after : LendingPool} {input : List InitReserveInput}
    {asset : Address} (registered : pool.Registered)
    (listed : (pool.reserves asset).lTokenAddress ≠ 0)
    (computed : input.foldlM (LendingPoolConfigurator.initReserve env) pool = .ok after) :
    (after.reserves asset).lTokenAddress = (pool.reserves asset).lTokenAddress := by
  obtain ⟨_, _, shape⟩ := administered_listed registered listed (.listed computed)
  rw [shape]

theorem step_address {event : Event} {asset : Address} (registered : world.pool.Registered)
    (listed : (world.pool.reserves asset).lTokenAddress ≠ 0)
    (taken : world.step event = .ok next) :
    (next.pool.reserves asset).lTokenAddress = (world.pool.reserves asset).lTokenAddress := by
  rcases step_evolves taken with ⟨_, _, _, computed⟩ | evolves
  · exact listings_address registered listed computed
  · exact (evolves.keeps asset).lTokenAddress

theorem openFlashLoan_listed {receiverAddress : Address} {pool after : LendingPool}
    {requests : List (Address × Nat × Option Nat)} {entries : List FlashLoanEntry}
    (computed : openFlashLoan receiverAddress pool requests = .ok (after, entries)) :
    ∀ entry ∈ entries, (pool.reserves entry.asset).lTokenAddress ≠ 0 := by
  induction requests generalizing pool entries with
  | nil =>
      cases computed
      simp
  | cons request rest ih =>
      obtain ⟨asset, amount, mode⟩ := request
      obtain ⟨lent, later, sent, opened, rfl⟩ := openFlashLoan_cons computed
      obtain ⟨listed, _, _, shape⟩ := Reserve.transferUnderlyingTo_ok sent
      intro entry member
      rcases List.mem_cons.1 member with rfl | member
      · exact listed
      · have present := ih opened entry member
        by_cases same : entry.asset = asset
        · rwa [same]
        · rwa [setReserve_other same] at present

theorem framesSound_step {event : Event} (registered : world.pool.Registered)
    (sound : world.FramesSound) (taken : world.step event = .ok next) : next.FramesSound := by
  have carried : ∀ frame ∈ world.frames, ∀ entry ∈ frame.pending,
      (next.pool.reserves entry.asset).lTokenAddress ≠ 0 ∧
      entry.lTokenAddress = (next.pool.reserves entry.asset).lTokenAddress ∧
      frame.receiverAddress ≠ (next.pool.reserves entry.asset).lTokenAddress := by
    intro frame member entry pending
    have old := sound frame member entry pending
    rw [step_address registered old.1 taken]
    exact old
  cases event with
  | call | admin =>
      first
        | obtain ⟨_, _, pool, _, rfl⟩ := step_call taken
        | obtain ⟨pool, _, rfl⟩ := step_admin taken
      exact carried
  | flashLoan =>
      obtain ⟨pool, pending, run⟩ := step_flashLoan taken
      have opened := run.opened
      have shape := run.result
      subst shape
      intro frame member entry waiting
      rcases List.mem_cons.1 member with rfl | member
      · have listed := openFlashLoan_listed opened entry waiting
        rw [step_address registered listed taken]
        exact ⟨listed, (openFlashLoan_entries opened).2 entry waiting,
          registered.apart run.receiver _ listed⟩
      · exact carried frame member entry waiting
  | executed =>
      obtain ⟨frame, rest, stack, _, rfl⟩ := step_executed taken
      intro frame' member entry waiting
      rcases List.mem_cons.1 member with rfl | member
      · exact carried frame (by simp [stack]) entry waiting
      · exact carried frame' (by simp [stack, member]) entry waiting
  | settle =>
      obtain ⟨frame, rest, settled, pending, pool, run⟩ := step_settle taken
      have shape := run.result
      subst shape
      intro frame' member entry waiting
      rcases List.mem_cons.1 member with rfl | member
      · exact carried frame (by simp [run.stack]) entry (by
          rw [run.queue]
          exact List.mem_cons_of_mem _ waiting)
      · exact carried frame' (by simp [run.stack, member]) entry waiting
  | finish =>
      obtain ⟨frame, rest, stack, _, rfl⟩ := step_finish taken
      exact fun frame' member => carried frame' (by simp [stack, member])
  | ledger =>
      obtain ⟨_, rfl⟩ := step_ledger taken
      exact carried
  | observe =>
      obtain ⟨_, _, rfl⟩ := step_observe taken
      exact carried

theorem Reachable.framesSound (reached : world.Reachable) : world.FramesSound := by
  have both : world.pool.Registered ∧ world.FramesSound := by
    refine Runs.Reachable.invariant (fun w : World => w.pool.Registered ∧ w.FramesSound)
      reached ?_ ?_
    · rintro s ⟨quiet, self, provider, ledgers, start⟩
      refine ⟨?_, fun frame member => ?_⟩
      · rw [start]
        exact registered_initialized self provider ledgers
      · rw [quiet] at member
        cases member
    · rintro s event s' ⟨registered, sound⟩ taken
      exact ⟨registered_step registered taken, framesSound_step registered sound taken⟩
  exact both.2

end World

end PalmyProtocol
