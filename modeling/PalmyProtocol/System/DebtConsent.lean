import PalmyProtocol.Pool.AccountData
import PalmyProtocol.Pool.ReserveCash
import PalmyProtocol.System.FlashLoans

set_option autoImplicit false

namespace PalmyProtocol

open Checked Rounding LendingPool

namespace Reserve

variable {env : Env} {reserve middle after : Reserve} {user other asset lTokenAddress : Address}
variable {amount added taken : Nat}

structure NoNewDebt (env : Env) (user : Address) (reserve after : Reserve) : Prop where
  stable : after.stableDebtToken.debt env.timestamp user ≤
    reserve.stableDebtToken.debt env.timestamp user
  scaled : after.variableDebtToken.base.balances user ≤ reserve.variableDebtToken.base.balances user
  view : after.normalizedDebt env.timestamp ≤ reserve.normalizedDebt env.timestamp

structure Spares (env : Env) (user : Address) (reserve after : Reserve) : Prop
    extends NoNewDebt env user reserve after where
  stableAllowances :
    after.stableDebtToken.borrowAllowances = reserve.stableDebtToken.borrowAllowances
  variableAllowances :
    after.variableDebtToken.borrowAllowances = reserve.variableDebtToken.borrowAllowances

theorem NoNewDebt.trans (first : NoNewDebt env user reserve middle)
    (second : NoNewDebt env user middle after) : NoNewDebt env user reserve after :=
  ⟨le_trans second.stable first.stable, le_trans second.scaled first.scaled,
    le_trans second.view first.view⟩

theorem NoNewDebt.debt_le (kept : NoNewDebt env user reserve after) :
    after.debt env.timestamp user ≤ reserve.debt env.timestamp user :=
  Nat.add_le_add kept.stable (divHalfUp_mono (Nat.mul_le_mul kept.scaled kept.view) RAY)

theorem Spares.refl (reserve : Reserve) : Spares env user reserve reserve :=
  ⟨⟨le_refl _, le_refl _, le_refl _⟩, rfl, rfl⟩

theorem Spares.trans (first : Spares env user reserve middle)
    (second : Spares env user middle after) : Spares env user reserve after :=
  ⟨first.toNoNewDebt.trans second.toNoNewDebt,
    second.stableAllowances.trans first.stableAllowances,
    second.variableAllowances.trans first.variableAllowances⟩

theorem spares_of_same (same : SameDebts reserve after)
    (view : after.normalizedDebt env.timestamp ≤ reserve.normalizedDebt env.timestamp) :
    Spares env user reserve after := by
  refine ⟨⟨?_, ?_, view⟩, ?_, ?_⟩
  · rw [same.stable]
  · rw [same.floating]
  · rw [same.stable]
  · rw [same.floating]

theorem SameBooks.spares (books : SameBooks reserve after) : Spares env user reserve after :=
  spares_of_same ⟨books.stable, books.floating⟩ (by rw [books.data])

-- A poke may show less debt than the view did, never more.
theorem updateState_spares (computed : reserve.updateState env.timestamp = .ok after) :
    Spares env user reserve after := by
  refine spares_of_same (updateState_sameDebts computed) ?_
  obtain ⟨_, _, index, run⟩ := updateState_ok computed
  have stored : after.normalizedDebt env.timestamp = index := by
    rw [run.result]
    simp [ReserveData.normalizedDebt]
  rw [stored, run.floating]
  exact ReserveData.accruedVariableBorrowIndex_le env.timestamp_lt _

-- A new rate counts from now on only because the reserve was poked before it was set.
theorem updateInterestRates_spares (current : reserve.lastUpdateTimestamp = uint40 env.timestamp)
    (computed : reserve.updateInterestRates env asset lTokenAddress added taken = .ok after) :
    Spares env user reserve after := by
  refine spares_of_same (updateInterestRates_sameDebts computed) ?_
  obtain ⟨_, _, _, _, run⟩ := updateInterestRates_ok computed
  rw [run.result]
  simp [ReserveData.normalizedDebt, current]

theorem stableDebt_after (token : StableDebtToken) (account : Address)
    (now : token.timestamps account = env.timestamp ∨ token.base.balances account = 0) :
    token.debt env.timestamp account = token.base.balances account := by
  rcases now with current | none
  · exact StableDebtToken.debt_at_timestamp current
  · rw [none]
    exact StableDebtToken.debt_of_no_principal none

theorem burned_debt {token burned : StableDebtToken}
    (burn : StableDebtToken.Burned token env.timestamp other amount burned) (account : Address) :
    burned.debt env.timestamp account =
      if account = other then token.debt env.timestamp other - amount
      else token.debt env.timestamp account := by
  by_cases same : account = other
  · subst same
    rw [if_pos rfl, stableDebt_after, burn.balances, if_pos rfl]
    by_cases full : amount = token.debt env.timestamp account
    · right
      rw [burn.balances, if_pos rfl, ← full, Nat.sub_self]
    · left
      rw [burn.timestamps, Function.update_self, if_neg full, uint40_of_lt env.timestamp_lt]
  · rw [if_neg same, StableDebtToken.debt, StableDebtToken.debt, burn.balances, if_neg same,
      burn.timestamps, burn.usersStableRate, Function.update_of_ne same, Function.update_of_ne same]

theorem minted_debt {token minted : StableDebtToken} {payer : Address} {rate : Nat} {first : Bool}
    (mint : StableDebtToken.Minted token env.timestamp payer other amount rate minted first)
    (account : Address) :
    minted.debt env.timestamp account =
      if account = other then token.debt env.timestamp other + amount
      else token.debt env.timestamp account := by
  by_cases same : account = other
  · subst same
    rw [if_pos rfl, stableDebt_after, mint.balances, if_pos rfl]
    left
    rw [mint.timestamps, Function.update_self, uint40_of_lt env.timestamp_lt]
  · rw [if_neg same, StableDebtToken.debt, StableDebtToken.debt, mint.balances, if_neg same,
      mint.timestamps, mint.otherRates account same, Function.update_of_ne same]

theorem burnStableDebt_spares (computed : reserve.burnStableDebt env.timestamp other amount =
    .ok after) : Spares env user reserve after := by
  obtain ⟨token, burned, rfl⟩ := burnStableDebt_ok computed
  refine ⟨⟨?_, le_refl _, le_refl _⟩, burned.allowances, rfl⟩
  change token.debt env.timestamp user ≤ reserve.stableDebtToken.debt env.timestamp user
  rw [burned_debt burned]
  split_ifs with same
  · rw [same]
    exact Nat.sub_le _ _
  · exact le_refl _

theorem burnVariableDebt_spares (computed : reserve.burnVariableDebt other amount = .ok after) :
    Spares env user reserve after := by
  obtain ⟨token, burned, rfl⟩ := burnVariableDebt_ok computed
  refine ⟨⟨le_refl _, ?_, le_refl _⟩, rfl, burned.allowances⟩
  change token.base.balances user ≤ reserve.variableDebtToken.base.balances user
  rw [← burned.balances user]
  exact Nat.le_add_right _ _

theorem mintStableDebt_noNewDebt {payer : Address} {rate : Nat} {first : Bool}
    (different : user ≠ other)
    (computed : reserve.mintStableDebt env.timestamp payer other amount rate = .ok (after, first)) :
    NoNewDebt env user reserve after := by
  obtain ⟨token, minted, rfl⟩ := mintStableDebt_ok computed
  refine ⟨?_, le_refl _, le_refl _⟩
  change token.debt env.timestamp user ≤ reserve.stableDebtToken.debt env.timestamp user
  rw [minted_debt minted, if_neg different]

theorem mintVariableDebt_noNewDebt {payer : Address} {first : Bool} (different : user ≠ other)
    (computed : reserve.mintVariableDebt payer other amount = .ok (after, first)) :
    NoNewDebt env user reserve after := by
  obtain ⟨token, minted, rfl⟩ := mintVariableDebt_ok computed
  refine ⟨le_refl _, ?_, le_refl _⟩
  change token.base.balances user ≤ reserve.variableDebtToken.base.balances user
  rw [minted.balances, if_neg different, Nat.add_zero]

theorem mintStableDebt_own {rate : Nat} {first : Bool}
    (computed : reserve.mintStableDebt env.timestamp other other amount rate = .ok (after, first)) :
    after.stableDebtToken.borrowAllowances = reserve.stableDebtToken.borrowAllowances ∧
      after.variableDebtToken = reserve.variableDebtToken := by
  obtain ⟨token, minted, rfl⟩ := mintStableDebt_ok computed
  rcases DebtTokenBase.consumeDelegation_ok minted.delegation with ⟨_, same⟩ | ⟨delegated, _⟩
  · exact ⟨same, rfl⟩
  · exact absurd rfl delegated

theorem mintVariableDebt_own {first : Bool}
    (computed : reserve.mintVariableDebt other other amount = .ok (after, first)) :
    after.variableDebtToken.borrowAllowances = reserve.variableDebtToken.borrowAllowances ∧
      after.stableDebtToken = reserve.stableDebtToken := by
  obtain ⟨token, minted, rfl⟩ := mintVariableDebt_ok computed
  rcases DebtTokenBase.consumeDelegation_ok minted.delegation with ⟨_, same⟩ | ⟨delegated, _⟩
  · exact ⟨same, rfl⟩
  · exact absurd rfl delegated

end Reserve

namespace LendingPool

variable {env : Env} {pool middle after : LendingPool}
variable {msgSender asset user bystander onBehalfOf : Address} {amount : Nat}

def Spares (env : Env) (bystander : Address) (pool after : LendingPool) : Prop :=
  ∀ asset, Reserve.Spares env bystander (pool.reserves asset) (after.reserves asset)

theorem Spares.trans (first : Spares env bystander pool middle)
    (second : Spares env bystander middle after) : Spares env bystander pool after :=
  fun asset => (first asset).trans (second asset)

theorem spares_setReserve {reserve : Reserve}
    (spares : Reserve.Spares env bystander (pool.reserves asset) reserve) :
    Spares env bystander pool (pool.setReserve asset reserve) := by
  intro other
  by_cases same : other = asset
  · subst same
    rwa [setReserve_same]
  · rw [setReserve_other same]
    exact .refl _

theorem spares_sameReserves (same : after.reserves = pool.reserves) :
    Spares env bystander pool after := by
  intro asset
  rw [same]
  exact .refl _

theorem deposit_spares (computed : pool.deposit env msgSender asset amount onBehalfOf = .ok after) :
    Spares env bystander pool after := by
  obtain ⟨accrued, rated, funded, minted, first, config, run⟩ := deposit_ok computed
  have poked := Reserve.updateState_poked run.accrue
  obtain ⟨_, _, rfl⟩ := Reserve.transferUnderlyingFrom_ok run.fund
  obtain ⟨_, _, shape⟩ := Reserve.mintLToken_ok run.mint
  have books : Reserve.SameBooks rated minted := by
    rw [shape]
    exact ⟨rfl, rfl, rfl⟩
  rw [run.result]
  exact spares_setReserve (((Reserve.updateState_spares run.accrue).trans
    (Reserve.updateInterestRates_spares poked.current run.rate)).trans books.spares)

theorem withdraw_spares {recipient : Address} {withdrawn : Nat}
    (computed : pool.withdraw env msgSender asset amount recipient = .ok (after, withdrawn)) :
    Spares env bystander pool after := by
  obtain ⟨_, accrued, rated, burned, config, _, run⟩ := withdraw_ok computed
  have poked := Reserve.updateState_poked run.accrue
  obtain ⟨_, _, _, _, shape⟩ := Reserve.burnLToken_ok run.burn
  have books : Reserve.SameBooks rated burned := by
    rw [shape]
    exact ⟨rfl, rfl, rfl⟩
  rw [run.result]
  exact spares_setReserve (((Reserve.updateState_spares run.accrue).trans
    (Reserve.updateInterestRates_spares poked.current run.rate)).trans books.spares)

theorem repay_spares {rateMode payback : Nat}
    (computed : pool.repay env msgSender asset amount rateMode onBehalfOf = .ok (after, payback)) :
    Spares env bystander pool after := by
  obtain ⟨mode, _, _, accrued, burned, rated, funded, config, _, run⟩ := repay_ok computed
  have returned : Reserve.Spares env bystander accrued burned := by
    have burn := run.burn
    split_ifs at burn
    · exact Reserve.burnStableDebt_spares burn
    · exact Reserve.burnVariableDebt_spares burn
  obtain ⟨_, _, shape⟩ := Reserve.transferUnderlyingFrom_ok run.fund
  have books : Reserve.SameBooks rated funded := by
    rw [shape]
    exact ⟨rfl, rfl, rfl⟩
  rw [run.result]
  exact spares_setReserve ((((Reserve.updateState_spares run.accrue).trans returned).trans
    (Reserve.updateInterestRates_spares run.poked.current run.rate)).trans books.spares)

theorem swapBorrowRateMode_spares {rateMode : Nat} (different : bystander ≠ msgSender)
    (computed : pool.swapBorrowRateMode env msgSender asset rateMode = .ok after) :
    Spares env bystander pool after := by
  obtain ⟨mode, _, _, accrued, burned, minted, rated, first, _, run⟩ :=
    swapBorrowRateMode_ok computed
  have swapped : Reserve.Spares env bystander accrued minted := by
    have burn := run.burn
    have mint := run.mint
    split_ifs at burn mint
    · obtain ⟨allowances, stable⟩ := Reserve.mintVariableDebt_own mint
      have kept : Reserve.Spares env bystander burned minted :=
        ⟨Reserve.mintVariableDebt_noNewDebt different mint, by rw [stable], allowances⟩
      exact (Reserve.burnStableDebt_spares burn).trans kept
    · obtain ⟨allowances, floating⟩ := Reserve.mintStableDebt_own mint
      have kept : Reserve.Spares env bystander burned minted :=
        ⟨Reserve.mintStableDebt_noNewDebt different mint, allowances, by rw [floating]⟩
      exact (Reserve.burnVariableDebt_spares burn).trans kept
  rw [run.result]
  exact spares_setReserve (((Reserve.updateState_spares run.accrue).trans swapped).trans
    (Reserve.updateInterestRates_spares run.poked.current run.rate))

-- The user's whole stable debt is burned and minted again, at the moment it is read.
theorem rebalanceStableBorrowRate_spares
    (computed : pool.rebalanceStableBorrowRate env asset user = .ok after) :
    Spares env bystander pool after := by
  obtain ⟨stableDebt, accrued, burned, minted, rated, first, run⟩ :=
    rebalanceStableBorrowRate_ok computed
  have poked := Reserve.updateState_poked run.accrue
  have same := Reserve.updateState_sameDebts run.accrue
  obtain ⟨_, viewed⟩ := Reserve.stableDebtBalanceOf_ok run.debt
  rw [← same.stable] at viewed
  obtain ⟨token, burn, burnShape⟩ := Reserve.burnStableDebt_ok run.burn
  obtain ⟨token', mint, mintShape⟩ := Reserve.mintStableDebt_ok run.mint
  obtain ⟨allowances, floating⟩ := Reserve.mintStableDebt_own run.mint
  have exchanged : Reserve.Spares env bystander accrued minted := by
    refine ⟨⟨?_, ?_, ?_⟩, ?_, ?_⟩
    · rw [mintShape]
      change token'.debt env.timestamp bystander ≤ _
      rw [Reserve.minted_debt mint, burnShape]
      change (if bystander = user then token.debt env.timestamp user + stableDebt
        else token.debt env.timestamp bystander) ≤ _
      rw [Reserve.burned_debt burn, Reserve.burned_debt burn, if_pos rfl, viewed]
      split_ifs with same
      · rw [same]
        omega
      · exact le_refl _
    · rw [floating, burnShape]
    · rw [mintShape, burnShape]
    · rw [allowances, burnShape]
      exact burn.allowances
    · rw [floating, burnShape]
  have current := ((poked.burnStableDebt run.burn).mintStableDebt run.mint).current
  rw [run.result]
  exact spares_setReserve (((Reserve.updateState_spares run.accrue).trans exchanged).trans
    (Reserve.updateInterestRates_spares current run.rate))

open LendingPoolCollateralManager in
theorem liquidationCall_spares {collateralAsset debtAsset : Address} {debtToCover : Nat}
    {receiveLToken : Bool}
    (computed : pool.liquidationCall env msgSender collateralAsset debtAsset user debtToCover
      receiveLToken = .ok after) : Spares env bystander pool after := by
  obtain ⟨_, _, _, _, _, _, _, run⟩ := liquidationCall_ok computed
  obtain ⟨repaid, seized, config, funded, exec⟩ := executeLiquidation_ok run.execute
  have paid : Spares env bystander pool repaid := by
    obtain ⟨accrued, burned, rated, leg⟩ := repayDebt_ok exec.repay
    have returned : Reserve.Spares env bystander accrued burned := by
      rcases burnDebt_ok leg.burn with ⟨_, burn⟩ | ⟨_, floating, first, second⟩
      · exact Reserve.burnVariableDebt_spares burn
      · split_ifs at first
        · exact (Reserve.burnVariableDebt_spares first).trans (Reserve.burnStableDebt_spares second)
        · cases first
          exact Reserve.burnStableDebt_spares second
    rw [leg.result]
    exact spares_setReserve (((Reserve.updateState_spares leg.accrue).trans returned).trans
      (Reserve.updateInterestRates_spares leg.poked.current leg.rate))
  have taken : Spares env bystander repaid seized := by
    have seize := exec.seize
    split_ifs at seize
    · obtain ⟨_, _, _, lToken, _, leg⟩ := seizeLTokens_ok seize
      have books : Reserve.SameBooks (repaid.reserves collateralAsset)
          { repaid.reserves collateralAsset with lToken } := ⟨rfl, rfl, rfl⟩
      rw [leg.result]
      exact spares_setReserve books.spares
    · obtain ⟨accrued, rated, burned, leg⟩ := seizeUnderlying_ok seize
      have poked := Reserve.updateState_poked leg.accrue
      obtain ⟨_, _, _, _, shape⟩ := Reserve.burnLToken_ok leg.burn
      have books : Reserve.SameBooks rated burned := by
        rw [shape]
        exact ⟨rfl, rfl, rfl⟩
      rw [leg.result]
      exact spares_setReserve (((Reserve.updateState_spares leg.accrue).trans
        (Reserve.updateInterestRates_spares poked.current leg.rate)).trans books.spares)
  have covered : Spares env bystander seized after := by
    obtain ⟨_, _, shape⟩ := Reserve.transferUnderlyingFrom_ok exec.fund
    have books : Reserve.SameBooks (seized.reserves debtAsset) funded := by
      rw [shape]
      exact ⟨rfl, rfl, rfl⟩
    rw [exec.result]
    apply spares_setReserve
    exact books.spares
  exact (paid.trans taken).trans covered

theorem openFlashLoan_spares {receiverAddress : Address}
    {requests : List (Address × Nat × Option Nat)} {entries : List FlashLoanEntry}
    (computed : openFlashLoan receiverAddress pool requests = .ok (after, entries)) :
    Spares env bystander pool after := by
  induction requests generalizing pool entries with
  | nil =>
      cases computed
      exact fun _ => .refl _
  | cons request rest ih =>
      obtain ⟨asset, amount, mode⟩ := request
      obtain ⟨lent, later, sent, opened, _⟩ := openFlashLoan_cons computed
      obtain ⟨_, _, _, shape⟩ := Reserve.transferUnderlyingTo_ok sent
      have books : Reserve.SameBooks (pool.reserves asset) lent := by
        rw [shape]
        exact ⟨rfl, rfl, rfl⟩
      exact (spares_setReserve books.spares).trans (ih opened)

theorem repaying_spares {receiverAddress : Address} {entry : FlashLoanEntry} {totalSupply : Nat}
    {accrued rated funded : Reserve} {data : ReserveData}
    (run : Repaying env pool receiverAddress entry totalSupply accrued data rated funded after) :
    Spares env bystander pool after := by
  have poked := (Reserve.updateState_poked run.accrue).income run.income
  have earned : Reserve.Spares env bystander accrued { accrued with toReserveData := data } := by
    obtain ⟨_, _, _, rfl⟩ := ReserveData.cumulateToLiquidityIndex_ok run.income
    exact Reserve.spares_of_same ⟨rfl, rfl⟩ (le_refl _)
  obtain ⟨_, _, shape⟩ := Reserve.transferUnderlyingFrom_ok run.fund
  have books : Reserve.SameBooks rated funded := by
    rw [shape]
    exact ⟨rfl, rfl, rfl⟩
  rw [run.result]
  exact spares_setReserve ((((Reserve.updateState_spares run.accrue).trans earned).trans
    (Reserve.updateInterestRates_spares poked.current run.rate)).trans books.spares)

theorem finalized_reserves {sender recipient : Address} {fromBefore toBefore : Nat}
    (finalized : Finalized env pool asset sender recipient amount fromBefore toBefore after) :
    after.reserves = pool.reserves := by
  rcases finalized.result with ⟨_, rfl⟩ | ⟨_, _, _, _, _, _, rfl⟩
  · rfl
  · rfl

theorem moveLTokens_spares {sender recipient : Address}
    (computed : pool.moveLTokens env asset sender recipient amount = .ok after) :
    Spares env bystander pool after := by
  obtain ⟨lToken, _, _, run⟩ := moveLTokens_ok computed
  have books : Reserve.SameBooks (pool.reserves asset) { pool.reserves asset with lToken } :=
    ⟨rfl, rfl, rfl⟩
  exact (spares_setReserve books.spares).trans (spares_sameReserves (finalized_reserves run.finalize))

theorem updateAllowance_spares {change : ERC20 → Result ERC20}
    (computed : pool.updateAllowance asset change = .ok after) : Spares env bystander pool after := by
  obtain ⟨_, base, _, rfl⟩ := updateAllowance_ok computed
  have books : Reserve.SameBooks (pool.reserves asset)
      { pool.reserves asset with lToken := { (pool.reserves asset).lToken with base } } :=
    ⟨rfl, rfl, rfl⟩
  exact spares_setReserve books.spares

def borrowAllowance (pool : LendingPool) (asset : Address) (rateMode : Nat) :
    DebtTokenBase.BorrowAllowances :=
  if rateMode = 1 then (pool.reserves asset).stableDebtToken.borrowAllowances
  else (pool.reserves asset).variableDebtToken.borrowAllowances

theorem Spares.borrowAllowance (spares : Spares env bystander pool after) (asset : Address)
    (rateMode : Nat) :
    after.borrowAllowance asset rateMode = pool.borrowAllowance asset rateMode := by
  rw [LendingPool.borrowAllowance, LendingPool.borrowAllowance, (spares asset).stableAllowances,
    (spares asset).variableAllowances]

theorem executeBorrow_noNewDebt {vars : ExecuteBorrowParams} (different : bystander ≠ vars.onBehalfOf)
    (computed : pool.executeBorrow env vars = .ok after) (asset : Address) :
    Reserve.NoNewDebt env bystander (pool.reserves asset) (after.reserves asset) := by
  obtain ⟨_, accrued, minted, rated, released, mode, first, config, run⟩ :=
    executeBorrow_ok computed
  have lent : Reserve.NoNewDebt env bystander accrued minted := by
    have mint := run.mint
    split_ifs at mint
    · exact Reserve.mintStableDebt_noNewDebt different mint
    · exact Reserve.mintVariableDebt_noNewDebt different mint
  have books : Reserve.SameBooks rated released := by
    obtain ⟨_, shape⟩ := run.released_eq
    rw [shape]
    exact ⟨rfl, rfl, rfl⟩
  rw [run.result, setUserConfig_reserves]
  by_cases same : asset = vars.asset
  · subst same
    rw [setReserve_same]
    exact ((((Reserve.updateState_spares run.accrue).toNoNewDebt.trans lent).trans
      (Reserve.updateInterestRates_spares run.poked.current run.rate).toNoNewDebt)).trans
      books.spares.toNoNewDebt
  · rw [setReserve_other same]
    exact (Reserve.Spares.refl _).toNoNewDebt

theorem borrowMode_ok {vars : ExecuteBorrowParams} {amountInETH : Nat} {mode : InterestRateMode}
    (valid : ValidationLogic.validateBorrow env pool vars.asset vars.onBehalfOf vars.amount
      amountInETH vars.interestRateMode = .ok ())
    (chosen : toInterestRateMode vars.interestRateMode = .ok mode) :
    (vars.interestRateMode = 1 ∧ mode = .STABLE) ∨
      (vars.interestRateMode = 2 ∧ mode = .VARIABLE) := by
  simp only [ValidationLogic.validateBorrow, bind_eq_ok, require_eq_ok, exists_const] at valid
  obtain ⟨_, _, _, _, named, _⟩ := valid
  rcases named with two | one
  · rw [two] at chosen
    cases chosen
    exact .inr ⟨two, rfl⟩
  · rw [one] at chosen
    cases chosen
    exact .inl ⟨one, rfl⟩

theorem executeBorrow_allowances {vars : ExecuteBorrowParams}
    (computed : pool.executeBorrow env vars = .ok after) (asset : Address) (rateMode : Nat) :
    (vars.interestRateMode = 1 ∨ vars.interestRateMode = 2) ∧
      if asset = vars.asset ∧ (rateMode = 1 ↔ vars.interestRateMode = 1) then
        DebtTokenBase.consumeDelegation (pool.borrowAllowance asset rateMode) vars.user
          vars.onBehalfOf vars.amount = .ok (after.borrowAllowance asset rateMode)
      else after.borrowAllowance asset rateMode = pool.borrowAllowance asset rateMode := by
  obtain ⟨_, accrued, minted, rated, released, mode, first, config, run⟩ :=
    executeBorrow_ok computed
  have accrue := Reserve.updateState_sameDebts run.accrue
  have rate := Reserve.updateInterestRates_sameDebts run.rate
  have release : Reserve.SameDebts rated released := by
    obtain ⟨_, shape⟩ := run.released_eq
    rw [shape]
    exact ⟨rfl, rfl⟩
  have kept := rate.trans release
  have mint := run.mint
  rw [run.result]
  by_cases same : asset = vars.asset
  · subst same
    rcases borrowMode_ok run.valid run.chosen with ⟨one, rfl⟩ | ⟨two, rfl⟩
    · refine ⟨.inl one, ?_⟩
      rw [if_pos rfl] at mint
      obtain ⟨token, issued, shape⟩ := Reserve.mintStableDebt_ok mint
      have delegation := issued.delegation
      rw [accrue.stable] at delegation
      by_cases stable : rateMode = 1
      · rw [if_pos ⟨rfl, iff_of_true stable one⟩]
        simpa only [borrowAllowance, stable, if_true, setUserConfig_reserves, setReserve_same,
          kept.stable, shape] using delegation
      · rw [if_neg fun both => stable (both.2.2 one)]
        simp only [borrowAllowance, stable, if_false, setUserConfig_reserves, setReserve_same,
          kept.floating, shape, accrue.floating]
    · refine ⟨.inr two, ?_⟩
      rw [if_neg (by simp)] at mint
      obtain ⟨token, issued, shape⟩ := Reserve.mintVariableDebt_ok mint
      have delegation := issued.delegation
      rw [accrue.floating] at delegation
      by_cases stable : rateMode = 1
      · have other : ¬vars.interestRateMode = 1 := by omega
        rw [if_neg fun both => other (both.2.1 stable)]
        simp only [borrowAllowance, stable, if_true, setUserConfig_reserves, setReserve_same,
          kept.stable, shape, accrue.stable]
      · rw [if_pos ⟨rfl, iff_of_false stable (by omega)⟩]
        simpa only [borrowAllowance, stable, if_false, setUserConfig_reserves, setReserve_same,
          kept.floating, shape] using delegation
  · rw [if_neg fun both => same both.1]
    refine ⟨(borrowMode_ok run.valid run.chosen).imp And.left And.left, ?_⟩
    simp only [borrowAllowance, setUserConfig_reserves, setReserve_other same]

end LendingPool

namespace Call

variable {env : Env} {pool after : LendingPool} {msgSender : Address}

theorem execute_spares {call : Call} (computed : call.execute env pool msgSender = .ok after) :
    (∃ asset amount rateMode onBehalfOf, call = borrow asset amount rateMode onBehalfOf ∧
      pool.executeBorrow env ⟨asset, msgSender, onBehalfOf, amount, rateMode,
        (pool.reserves asset).lTokenAddress, true⟩ = .ok after) ∨
    (∃ asset delegatee amount borrowAllowances,
      borrowAllowances = setAllowance (pool.reserves asset).stableDebtToken.borrowAllowances
        msgSender delegatee amount ∧
      call = approveStableDelegation asset delegatee amount ∧
      after = pool.setReserve asset { pool.reserves asset with
        stableDebtToken := { (pool.reserves asset).stableDebtToken with borrowAllowances } }) ∨
    (∃ asset delegatee amount borrowAllowances,
      borrowAllowances = setAllowance (pool.reserves asset).variableDebtToken.borrowAllowances
        msgSender delegatee amount ∧
      call = approveVariableDelegation asset delegatee amount ∧
      after = pool.setReserve asset { pool.reserves asset with
        variableDebtToken := { (pool.reserves asset).variableDebtToken with borrowAllowances } }) ∨
    ∀ bystander, (∀ asset rateMode, call = swapBorrowRateMode asset rateMode →
      bystander ≠ msgSender) → Spares env bystander pool after := by
  cases call with
  | borrow asset amount rateMode onBehalfOf =>
      simp only [execute, LendingPool.borrow, bind_eq_ok] at computed
      obtain ⟨_, _, computed⟩ := computed
      exact .inl ⟨asset, amount, rateMode, onBehalfOf, rfl, computed⟩
  | approveStableDelegation asset delegatee amount =>
      simp only [execute, LendingPool.approveStableDelegation, bind_eq_ok, pure_eq_ok] at computed
      obtain ⟨_, _, rfl⟩ := computed
      exact .inr (.inl ⟨asset, delegatee, amount, _, rfl, rfl, rfl⟩)
  | approveVariableDelegation asset delegatee amount =>
      simp only [execute, LendingPool.approveVariableDelegation, bind_eq_ok, pure_eq_ok] at computed
      obtain ⟨_, _, rfl⟩ := computed
      exact .inr (.inr (.inl ⟨asset, delegatee, amount, _, rfl, rfl, rfl⟩))
  | deposit => exact .inr (.inr (.inr fun _ _ => deposit_spares computed))
  | withdraw =>
      simp only [execute, bind_eq_ok, Prod.exists, pure_eq_ok] at computed
      obtain ⟨_, _, computed, rfl⟩ := computed
      exact .inr (.inr (.inr fun _ _ => withdraw_spares computed))
  | repay =>
      simp only [execute, bind_eq_ok, Prod.exists, pure_eq_ok] at computed
      obtain ⟨_, _, computed, rfl⟩ := computed
      exact .inr (.inr (.inr fun _ _ => repay_spares computed))
  | swapBorrowRateMode asset rateMode =>
      exact .inr (.inr (.inr fun _ different =>
        swapBorrowRateMode_spares (different asset rateMode rfl) computed))
  | rebalanceStableBorrowRate =>
      exact .inr (.inr (.inr fun _ _ => rebalanceStableBorrowRate_spares computed))
  | setUserUseReserveAsCollateral =>
      obtain ⟨_, _, _, rfl⟩ := setUserUseReserveAsCollateral_ok computed
      exact .inr (.inr (.inr fun _ _ => spares_sameReserves rfl))
  | liquidationCall => exact .inr (.inr (.inr fun _ _ => liquidationCall_spares computed))
  | transfer => exact .inr (.inr (.inr fun _ _ => moveLTokens_spares computed))
  | transferFrom =>
      simp only [execute, LendingPool.transferFrom, bind_eq_ok] at computed
      obtain ⟨_, moved, allowed⟩ := computed
      exact .inr (.inr (.inr fun _ _ =>
        (moveLTokens_spares moved).trans (updateAllowance_spares allowed)))
  | approve | increaseAllowance | decreaseAllowance =>
      simp only [execute, LendingPool.approve, LendingPool.increaseAllowance,
        LendingPool.decreaseAllowance] at computed
      exact .inr (.inr (.inr fun _ _ => updateAllowance_spares computed))

end Call

end PalmyProtocol
