import PalmyProtocol.Pool.AccountData
import PalmyProtocol.Proofs.StableExactness
import PalmyProtocol.System.FlashLoans
import PalmyProtocol.System.OwnOperations

set_option autoImplicit false

namespace PalmyProtocol

open Checked Rounding LendingPool

def FlashLoanEntry.request (entry : FlashLoanEntry) : Address × Nat × Option Nat :=
  (entry.asset, entry.amount, entry.mode)

namespace LendingPool

variable {env : Env} {pool after : LendingPool} {msgSender receiverAddress onBehalfOf : Address}
variable {entry : FlashLoanEntry} {asset user : Address}

structure EntrySettled (env : Env) (onBehalfOf : Address) (entry : FlashLoanEntry)
    (pool after : LendingPool) : Prop where
  mode : entry.mode = some 0 ∨ entry.mode = some 1 ∨ entry.mode = some 2
  elsewhere : ∀ a, a ≠ entry.asset → after.reserves a = pool.reserves a
  cash : (after.reserves entry.asset).availableLiquidity =
    (pool.reserves entry.asset).availableLiquidity +
      if entry.mode = some 0 then entry.amount + entry.premium else 0
  timestamp : (after.reserves entry.asset).lastUpdateTimestamp = env.timestamp
  index : (after.reserves entry.asset).variableBorrowIndex =
    (pool.reserves entry.asset).accruedVariableBorrowIndex env.timestamp
      (pool.reserves entry.asset).variableDebtToken.base.totalSupply
  stable : (after.reserves entry.asset).stableDebtToken.debt env.timestamp onBehalfOf =
    (pool.reserves entry.asset).stableDebtToken.debt env.timestamp onBehalfOf +
      if entry.mode = some 1 then entry.amount else 0
  floating : (after.reserves entry.asset).variableDebtToken.base.balances onBehalfOf =
    (pool.reserves entry.asset).variableDebtToken.base.balances onBehalfOf +
      if entry.mode = some 2 then divHalfUp (entry.amount * RAY)
        ((pool.reserves entry.asset).accruedVariableBorrowIndex env.timestamp
          (pool.reserves entry.asset).variableDebtToken.base.totalSupply) else 0

theorem repaying_settled {totalSupply : Nat} {accrued : Reserve} {data : ReserveData}
    {rated funded : Reserve} (apart : Apart pool receiverAddress)
    (address : entry.lTokenAddress = (pool.reserves entry.asset).lTokenAddress)
    (listed : (pool.reserves entry.asset).lTokenAddress ≠ 0) (chosen : entry.mode = some 0)
    (run : Repaying env pool receiverAddress entry totalSupply accrued data rated funded after) :
    EntrySettled env onBehalfOf entry pool after := by
  have debts := Reserve.updateState_sameDebts run.accrue
  have poked := (Reserve.updateState_poked run.accrue).income run.income
  obtain ⟨place, liquidity⟩ := poked.cash run.rate
  have funding := run.fund
  rw [address, ← place] at funding
  have outside : receiverAddress ≠ rated.lTokenAddress := by
    rw [place]
    exact apart entry.asset listed
  obtain ⟨books, _, received⟩ := Reserve.transferUnderlyingFrom_cash outside funding
  obtain ⟨_, liquidityIndex, _, grown⟩ := ReserveData.cumulateToLiquidityIndex_ok run.income
  obtain ⟨_, _, _, _, rate⟩ := Reserve.updateInterestRates_ok run.rate
  have reserve : after.reserves entry.asset = funded := by rw [run.result, setReserve_same]
  have stamp : funded.lastUpdateTimestamp = accrued.lastUpdateTimestamp ∧
      funded.variableBorrowIndex = accrued.variableBorrowIndex := by
    rw [books.data, rate.result, grown]
    exact ⟨rfl, rfl⟩
  have tokens : funded.stableDebtToken = accrued.stableDebtToken ∧
      funded.variableDebtToken = accrued.variableDebtToken := by
    rw [books.stable, books.floating, rate.result]
    exact ⟨rfl, rfl⟩
  refine ⟨.inl chosen, fun a different => ?_, ?_, ?_, ?_, ?_, ?_⟩
  · rw [run.result, setReserve_other different]
  · rw [reserve, received, liquidity, chosen, if_pos rfl]
  · rw [reserve, stamp.1, Reserve.updateState_timestamp run.accrue]
  · rw [reserve, stamp.2, Reserve.updateState_variableBorrowIndex run.accrue]
  · rw [reserve, tokens.1, debts.stable, chosen]
    simp
  · rw [reserve, tokens.2, debts.floating, chosen]
    simp

theorem kept_books {vars : ExecuteBorrowParams} {amountInETH : Nat}
    {accrued minted rated released : Reserve} {mode : InterestRateMode} {first : Bool}
    {config : UserConfigurationMap} (keeps : vars.releaseUnderlying = false)
    (run : Borrowed env pool vars amountInETH accrued minted rated released mode first config
      after) :
    after.reserves vars.asset = rated ∧
      (∀ a, a ≠ vars.asset → after.reserves a = pool.reserves a) ∧
      rated.availableLiquidity = (pool.reserves vars.asset).availableLiquidity ∧
      rated.lastUpdateTimestamp = env.timestamp ∧
      rated.variableBorrowIndex = (pool.reserves vars.asset).accruedVariableBorrowIndex
        env.timestamp (pool.reserves vars.asset).variableDebtToken.base.totalSupply := by
  have release := run.release
  simp only [keeps, Bool.false_eq_true, if_false, Except.ok.injEq] at release
  subst release
  have same := (Reserve.mint_debtsOnly run.mint).data
  obtain ⟨_, _, _, _, rate⟩ := Reserve.updateInterestRates_ok run.rate
  refine ⟨?_, fun a different => ?_, ?_, ?_, ?_⟩
  · rw [run.result, setUserConfig_reserves, setReserve_same]
  · rw [run.result, setUserConfig_reserves, setReserve_other different]
  · exact (run.poked.cash run.rate).2
  · rw [rate.result, ← Reserve.updateState_timestamp run.accrue, ← same]
  · rw [rate.result, ← Reserve.updateState_variableBorrowIndex run.accrue, ← same]

theorem kept_settled {rateMode : Nat} {mode : InterestRateMode} (chosen : entry.mode = some rateMode)
    (converted : toInterestRateMode rateMode = .ok mode) (borrows : mode ≠ .NONE)
    (computed : pool.executeBorrow env ⟨entry.asset, msgSender, onBehalfOf, entry.amount, rateMode,
      entry.lTokenAddress, false⟩ = .ok after) :
    EntrySettled env onBehalfOf entry pool after := by
  obtain ⟨_, accrued, minted, rated, released, mode', first, config, run⟩ := executeBorrow_ok computed
  obtain ⟨reserve, elsewhere, cash, stamped, indexed⟩ := kept_books rfl run
  have debts := Reserve.updateState_sameDebts run.accrue
  have rates := Reserve.updateInterestRates_sameDebts run.rate
  have asked : toInterestRateMode rateMode = .ok mode' := run.chosen
  rw [converted] at asked
  cases asked
  have mint := run.mint
  rcases toInterestRateMode_ok converted with ⟨_, none⟩ | ⟨rfl, rfl⟩ | ⟨rfl, rfl⟩
  · exact absurd none borrows
  · rw [if_pos rfl] at mint
    obtain ⟨token, lent, shape⟩ := Reserve.mintStableDebt_ok mint
    refine ⟨.inr (.inl chosen), elsewhere, ?_, ?_, ?_, ?_, ?_⟩
    · rw [reserve, cash, chosen]
      simp
    · rw [reserve, stamped]
    · rw [reserve, indexed]
    · rw [reserve, rates.stable, shape, chosen, if_pos rfl,
        StableDebtToken.debt_at_timestamp (lent.current env.timestamp_lt), lent.balances, if_pos rfl,
        debts.stable]
    · rw [reserve, rates.floating, shape, chosen, ← debts.floating]
      simp
  · rw [if_neg (by decide)] at mint
    obtain ⟨token, lent, shape⟩ := Reserve.mintVariableDebt_ok mint
    refine ⟨.inr (.inr chosen), elsewhere, ?_, ?_, ?_, ?_, ?_⟩
    · rw [reserve, cash, chosen]
      simp
    · rw [reserve, stamped]
    · rw [reserve, indexed]
    · rw [reserve, rates.stable, shape, chosen, ← debts.stable]
      simp
    · rw [reserve, rates.floating, shape, chosen, if_pos rfl, lent.balances, if_pos rfl,
        debts.floating, Reserve.updateState_variableBorrowIndex run.accrue]

theorem settleFlashLoan_settled (apart : Apart pool receiverAddress)
    (address : entry.lTokenAddress = (pool.reserves entry.asset).lTokenAddress)
    (listed : (pool.reserves entry.asset).lTokenAddress ≠ 0)
    (computed : pool.settleFlashLoan env receiverAddress msgSender onBehalfOf entry = .ok after) :
    EntrySettled env onBehalfOf entry pool after := by
  obtain ⟨rateMode, mode, chosen, converted, outcome⟩ := settleFlashLoan_ok computed
  rcases outcome with ⟨rfl, _, _, _, _, _, run⟩ | ⟨borrows, borrowed⟩
  · have none := eq_zero_of_none converted
    subst none
    exact repaying_settled apart address listed chosen run
  · exact kept_settled chosen converted borrows borrowed

structure Bystands (pool after : LendingPool) : Prop where
  reserves : ∀ a, ∃ underlying fixed floating,
    after.reserves a = { pool.reserves a with
      underlying
      stableDebtToken := { (pool.reserves a).stableDebtToken with borrowAllowances := fixed }
      variableDebtToken := { (pool.reserves a).variableDebtToken with
        borrowAllowances := floating } } ∧
    underlying.balances (pool.reserves a).lTokenAddress = (pool.reserves a).availableLiquidity
  rest : after = { pool with reserves := after.reserves }

def lentOf (asset : Address) : Address × Nat × Option Nat → Nat
  | (a, amount, _) => if a = asset then amount else 0

def keptOf (asset : Address) : Address × Nat × Option Nat → Nat
  | (a, amount, mode) => if a = asset ∧ (mode = some 1 ∨ mode = some 2) then amount else 0

def premiumOf (premiumTotal : Nat) (asset : Address) : Address × Nat × Option Nat → Nat
  | (a, amount, mode) => if a = asset ∧ mode = some 0 then amount * premiumTotal / 10000 else 0

def stableOf (asset : Address) : Address × Nat × Option Nat → Nat
  | (a, amount, mode) => if a = asset ∧ mode = some 1 then amount else 0

structure Quoted (pool : LendingPool) (premiumTotal : Nat) (entry : FlashLoanEntry) : Prop where
  listed : (pool.reserves entry.asset).lTokenAddress ≠ 0
  address : entry.lTokenAddress = (pool.reserves entry.asset).lTokenAddress
  premium : entry.premium = entry.amount * premiumTotal / 10000

theorem Quoted.of_same {premiumTotal : Nat} (quoted : Quoted pool premiumTotal entry)
    (same : ∀ a, (after.reserves a).lTokenAddress = (pool.reserves a).lTokenAddress) :
    Quoted after premiumTotal entry :=
  ⟨by rw [same]; exact quoted.listed, by rw [same]; exact quoted.address, quoted.premium⟩

structure Opened (pool : LendingPool) (requests : List (Address × Nat × Option Nat))
    (opened : LendingPool) (entries : List FlashLoanEntry) : Prop where
  books : ∀ a, ∃ underlying, opened.reserves a = { pool.reserves a with underlying }
  cash : ∀ a, (opened.reserves a).availableLiquidity + (requests.map (lentOf a)).sum =
    (pool.reserves a).availableLiquidity
  requested : entries.map FlashLoanEntry.request = requests
  quoted : ∀ entry ∈ entries, Quoted pool pool.flashLoanPremiumTotal entry

theorem openFlashLoan_opened {requests : List (Address × Nat × Option Nat)}
    {entries : List FlashLoanEntry} (apart : Apart pool receiverAddress)
    (computed : openFlashLoan receiverAddress pool requests = .ok (after, entries)) :
    Opened pool requests after entries := by
  induction requests generalizing pool entries with
  | nil =>
      cases computed
      exact ⟨fun a => ⟨_, rfl⟩, fun _ => rfl, rfl, by simp⟩
  | cons request rest ih =>
      obtain ⟨asset, amount, mode⟩ := request
      obtain ⟨lent, later, sent, opened, rfl⟩ := openFlashLoan_cons computed
      obtain ⟨listed, underlying, _, shape⟩ := Reserve.transferUnderlyingTo_ok sent
      obtain ⟨_, _, spent⟩ := Reserve.transferUnderlyingTo_cash (apart asset listed) sent
      have books : ∀ a, ∃ underlying,
          (pool.setReserve asset lent).reserves a = { pool.reserves a with underlying } := by
        intro a
        by_cases same : a = asset
        · subst same
          exact ⟨underlying, by rw [setReserve_same, shape]⟩
        · exact ⟨_, setReserve_other same⟩
      have places : ∀ a, ((pool.setReserve asset lent).reserves a).lTokenAddress =
          (pool.reserves a).lTokenAddress := by
        intro a
        obtain ⟨_, same⟩ := books a
        rw [same]
      have apart' : Apart (pool.setReserve asset lent) receiverAddress := by
        intro a here
        rw [places] at here ⊢
        exact apart a here
      have tail := ih apart' opened
      refine ⟨fun a => ?_, fun a => ?_, ?_, ?_⟩
      · obtain ⟨_, first⟩ := books a
        obtain ⟨later, second⟩ := tail.books a
        exact ⟨later, by rw [second, first]⟩
      · have cash := tail.cash a
        rw [List.map_cons, List.sum_cons, lentOf]
        by_cases same : a = asset
        · subst same
          rw [setReserve_same] at cash
          rw [if_pos rfl]
          omega
        · rw [setReserve_other same] at cash
          rw [if_neg (Ne.symm same)]
          omega
      · rw [List.map_cons, tail.requested, FlashLoanEntry.request]
      · rintro entry member
        rcases List.mem_cons.1 member with rfl | member
        · exact ⟨listed, rfl, rfl⟩
        · exact (tail.quoted entry member).of_same fun a => (places a).symm

structure Placed (pool after : LendingPool) : Prop where
  addresses : ∀ a, (after.reserves a).lTokenAddress = (pool.reserves a).lTokenAddress
  indexes : ∀ a, (pool.reserves a).variableBorrowIndex ≤ (after.reserves a).variableBorrowIndex

theorem Placed.refl (pool : LendingPool) : Placed pool pool := ⟨fun _ => rfl, fun _ => le_refl _⟩

structure Settleable (pool : LendingPool) (receiverAddress : Address) (premiumTotal : Nat)
    (entries : List FlashLoanEntry) : Prop where
  apart : Apart pool receiverAddress
  priced : ∀ a, (pool.reserves a).lTokenAddress ≠ 0 → 0 < (pool.reserves a).variableBorrowIndex
  quoted : ∀ entry ∈ entries, Quoted pool premiumTotal entry

variable {entries earlier later : List FlashLoanEntry} {before between : LendingPool}
variable {premiumTotal : Nat}

theorem Settleable.turn (settleable : Settleable pool receiverAddress premiumTotal entries)
    (member : entry ∈ entries) (placed : Placed pool before)
    (computed : before.settleFlashLoan env receiverAddress msgSender onBehalfOf entry =
      .ok between) :
    Placed pool between ∧ EntrySettled env onBehalfOf entry before between := by
  have quoted := (settleable.quoted entry member).of_same placed.addresses
  have apart : Apart before receiverAddress := by
    intro a there
    rw [placed.addresses] at there ⊢
    exact settleable.apart a there
  have settled := settleFlashLoan_settled apart quoted.address quoted.listed computed
  refine ⟨⟨fun a => ?_, fun a => le_trans (placed.indexes a) ?_⟩, settled⟩
  · rw [((settleFlashLoan_operates computed).evolves.keeps a).lTokenAddress, placed.addresses]
  · by_cases same : a = entry.asset
    · rw [same, settled.index]
      exact ReserveData.le_accruedVariableBorrowIndex _ _
    · rw [settled.elsewhere a same]

theorem Settleable.placed (settleable : Settleable pool receiverAddress premiumTotal entries)
    (some : ∀ item ∈ earlier, item ∈ entries)
    (computed : pool.settleFlashLoans env receiverAddress msgSender onBehalfOf earlier =
      .ok before) : Placed pool before :=
  foldlM_invariant (Placed pool)
    (fun _ item _ member placed settled => (settleable.turn (some item member) placed settled).1)
    (Placed.refl pool) computed

theorem Settleable.cash (settleable : Settleable pool receiverAddress premiumTotal entries)
    (asset : Address) (computed : pool.settleFlashLoans env receiverAddress msgSender onBehalfOf entries =
      .ok after) :
    (after.reserves asset).availableLiquidity +
        (entries.map fun entry => keptOf asset entry.request).sum =
      (pool.reserves asset).availableLiquidity + (entries.map fun entry =>
        lentOf asset entry.request + premiumOf premiumTotal asset entry.request).sum := by
  refine foldlM_account (Placed pool) (fun pool => (pool.reserves asset).availableLiquidity)
    _ _ (fun before item between member placed settle => ?_) (Placed.refl pool) computed
  obtain ⟨next, settled⟩ := settleable.turn member placed settle
  refine ⟨next, ?_⟩
  have premium := (settleable.quoted item member).premium
  by_cases same : item.asset = asset
  · subst same
    have cash := settled.cash
    rcases settled.mode with mode | mode | mode <;>
      simp only [keptOf, lentOf, premiumOf, FlashLoanEntry.request, mode, ← premium, cash,
        Option.some.injEq, if_true, true_and] <;> simp
  · have cash := settled.elsewhere asset (Ne.symm same)
    simp only [keptOf, lentOf, premiumOf, FlashLoanEntry.request, same, false_and, if_false, cash]

theorem Settleable.stable (settleable : Settleable pool receiverAddress premiumTotal entries)
    (computed : pool.settleFlashLoans env receiverAddress msgSender onBehalfOf entries =
      .ok after) :
    (after.reserves asset).stableDebtToken.debt env.timestamp onBehalfOf =
      (pool.reserves asset).stableDebtToken.debt env.timestamp onBehalfOf +
        (entries.map fun entry => stableOf asset entry.request).sum := by
  have account := foldlM_account (Placed pool)
    (fun pool => (pool.reserves asset).stableDebtToken.debt env.timestamp onBehalfOf)
    (fun entry => stableOf asset entry.request) (fun _ => 0)
    (fun before item between member placed settle => ?_) (Placed.refl pool) computed
  · rwa [List.map_const', List.sum_replicate_nat, Nat.mul_zero, Nat.add_zero] at account
  · obtain ⟨next, settled⟩ := settleable.turn member placed settle
    refine ⟨next, ?_⟩
    by_cases same : item.asset = asset
    · subst same
      simp only [stableOf, FlashLoanEntry.request, true_and, settled.stable, Nat.add_zero]
    · have debts := settled.elsewhere asset (Ne.symm same)
      simp only [stableOf, FlashLoanEntry.request, same, false_and, if_false, debts]

-- An asset whose turn has come was accrued in this block, and no other was touched.
theorem Settleable.accrued (settleable : Settleable pool receiverAddress premiumTotal entries)
    (some : ∀ item ∈ earlier, item ∈ entries)
    (computed : pool.settleFlashLoans env receiverAddress msgSender onBehalfOf earlier =
      .ok before) (here : ∃ item ∈ earlier, item.asset = asset) :
    (before.reserves asset).lastUpdateTimestamp = env.timestamp := by
  refine foldlM_marks (Placed pool)
    (fun pool => (pool.reserves asset).lastUpdateTimestamp = env.timestamp)
    (fun item => item.asset = asset) (fun between item next member placed settle => ?_)
    (Placed.refl pool) computed (.inl here)
  obtain ⟨placed, settled⟩ := settleable.turn (some item member) placed settle
  refine ⟨placed, fun marked => ?_⟩
  by_cases same : item.asset = asset
  · rw [← same, settled.timestamp]
  · rw [settled.elsewhere asset (Ne.symm same)]
    exact marked.resolve_left same

theorem Settleable.untouched (settleable : Settleable pool receiverAddress premiumTotal entries)
    (some : ∀ item ∈ earlier, item ∈ entries)
    (computed : pool.settleFlashLoans env receiverAddress msgSender onBehalfOf earlier =
      .ok before) (nowhere : ∀ item ∈ earlier, item.asset ≠ asset) :
    before.reserves asset = pool.reserves asset := by
  refine (foldlM_invariant
    (fun between => Placed pool between ∧ between.reserves asset = pool.reserves asset)
    (fun between item next member kept settle => ?_) ⟨Placed.refl pool, rfl⟩ computed).2
  obtain ⟨placed, settled⟩ := settleable.turn (some item member) kept.1 settle
  exact ⟨placed, (settled.elsewhere asset (nowhere item member).symm).trans kept.2⟩

end LendingPool

namespace Reserve

variable {env : Env} {reserve later : Reserve} {onBehalfOf : Address} {amount : Nat}

theorem variableDebt_eq (reserve : Reserve) (env : Env) (user : Address) :
    reserve.variableDebt env.timestamp user =
      divHalfUp (reserve.variableDebtToken.base.balances user *
        reserve.accruedVariableBorrowIndex env.timestamp
          reserve.variableDebtToken.base.totalSupply) RAY +
      reserve.forgottenDebt env.timestamp user := by
  have grown : reserve.accruedVariableBorrowIndex env.timestamp
      reserve.variableDebtToken.base.totalSupply ≤ reserve.normalizedDebt env.timestamp :=
    ReserveData.accruedVariableBorrowIndex_le env.timestamp_lt _
  have shown := divHalfUp_mono
    (Nat.mul_le_mul_left (reserve.variableDebtToken.base.balances user) grown) RAY
  rw [forgottenDebt, debt, storedDebt, Nat.add_sub_add_left]
  exact (Nat.add_sub_of_le shown).symm

def borrowRounding (index scaledDebt amount : Nat) : Int :=
  divHalfUp ((scaledDebt + divHalfUp (amount * RAY) index) * index) RAY -
    divHalfUp (scaledDebt * index) RAY - amount

def HidesForgotten (env : Env) (reserve : Reserve) (user : Address) (amount : Nat) : Prop :=
  2 * (RAY : Int) * |borrowRounding
      (reserve.accruedVariableBorrowIndex env.timestamp reserve.variableDebtToken.base.totalSupply)
      (reserve.variableDebtToken.base.balances user) amount -
    reserve.forgottenDebt env.timestamp user| ≤
      reserve.accruedVariableBorrowIndex env.timestamp reserve.variableDebtToken.base.totalSupply +
        2 * RAY

theorem hidesForgotten_of_none (priced : 0 < reserve.variableBorrowIndex)
    (none : reserve.forgottenDebt env.timestamp onBehalfOf = 0) :
    reserve.HidesForgotten env onBehalfOf amount := by
  have positive : 0 < reserve.accruedVariableBorrowIndex env.timestamp
      reserve.variableDebtToken.base.totalSupply :=
    Nat.lt_of_lt_of_le priced (ReserveData.le_accruedVariableBorrowIndex _ _)
  rw [HidesForgotten, none, Nat.cast_zero, sub_zero, borrowRounding]
  exact divHalfUp_share RAY_pos positive _ _

theorem forgottenDebt_current (current : reserve.lastUpdateTimestamp = env.timestamp) :
    reserve.forgottenDebt env.timestamp onBehalfOf = 0 := by
  rw [forgottenDebt, debt, storedDebt, variableDebt, ReserveData.normalizedDebt,
    uint40_of_lt env.timestamp_lt, if_pos current,
    ReserveData.accruedVariableBorrowIndex_current current, Nat.sub_self]

end Reserve

namespace LendingPool

variable {env : Env} {pool opened called before between after : LendingPool}
variable {msgSender receiverAddress onBehalfOf asset user : Address} {amount : Nat}
variable {assets : List Address} {amounts modes : List Nat}
variable {executeOperation : LendingPool → Result (LendingPool × Bool)}
variable {requests : List (Address × Nat × Option Nat)} {entry : FlashLoanEntry}
variable {entries earlier later : List FlashLoanEntry}

def GrewWithin (env : Env) (asset user : Address) (amount : Nat)
    (before after : LendingPool) : Prop :=
  2 * (RAY : Int) * |((after.reserves asset).variableDebt env.timestamp user : Int) -
      (before.reserves asset).variableDebt env.timestamp user - amount| ≤
    (after.reserves asset).variableBorrowIndex + 2 * RAY

instance (env : Env) (asset user : Address) (amount : Nat) (before after : LendingPool) :
    Decidable (GrewWithin env asset user amount before after) :=
  inferInstanceAs (Decidable (_ ≤ _))

theorem EntrySettled.grewWithin_iff (settled : EntrySettled env onBehalfOf entry before between)
    (chosen : entry.mode = some 2) :
    GrewWithin env entry.asset onBehalfOf entry.amount before between ↔
      (before.reserves entry.asset).HidesForgotten env onBehalfOf entry.amount := by
  have shown : (between.reserves entry.asset).normalizedDebt env.timestamp =
      (between.reserves entry.asset).variableBorrowIndex := by
    rw [ReserveData.normalizedDebt, uint40_of_lt env.timestamp_lt, if_pos settled.timestamp]
  have debt := settled.floating
  rw [if_pos chosen] at debt
  rw [GrewWithin, Reserve.HidesForgotten, Reserve.variableDebt, shown, debt, settled.index,
    Reserve.variableDebt_eq, Reserve.borrowRounding]
  push_cast
  rw [sub_add_eq_sub_sub, sub_right_comm _ _ (entry.amount : Int)]

structure Called (pool : LendingPool) (requests : List (Address × Nat × Option Nat))
    (called : LendingPool) : Prop where
  data : ∀ a, (called.reserves a).toReserveData = (pool.reserves a).toReserveData
  cash : ∀ a, (called.reserves a).availableLiquidity + (requests.map (lentOf a)).sum =
    (pool.reserves a).availableLiquidity
  stable : ∀ a, (called.reserves a).stableDebtToken.debt = (pool.reserves a).stableDebtToken.debt
  floating : ∀ a, (called.reserves a).variableDebtToken.base =
    (pool.reserves a).variableDebtToken.base

theorem Opened.calls (opens : Opened pool requests opened entries)
    (bystands : Bystands opened called) : Called pool requests called := by
  refine ⟨fun a => ?_, fun a => ?_, fun a => ?_, fun a => ?_⟩ <;>
    obtain ⟨_, first⟩ := opens.books a <;>
    obtain ⟨underlying, _, _, second, kept⟩ := bystands.reserves a
  · rw [second, first]
  · have cash := opens.cash a
    have address : (called.reserves a).lTokenAddress = (opened.reserves a).lTokenAddress := by
      rw [second]
    have same : (called.reserves a).availableLiquidity = (opened.reserves a).availableLiquidity := by
      rw [← kept, Reserve.availableLiquidity, address, second]
    rw [same, cash]
  · rw [second, first]
    rfl
  · rw [second, first]

theorem Called.settleable (calls : Called pool requests called)
    (opens : Opened pool requests opened entries) (registered : Registered pool)
    (apart : Apart pool receiverAddress) :
    Settleable called receiverAddress pool.flashLoanPremiumTotal entries := by
  refine ⟨fun a => ?_, fun a => ?_, fun entry member => ?_⟩
  · rw [calls.data]
    exact apart a
  · rw [calls.data]
    exact fun listed => Nat.lt_of_lt_of_le RAY_pos
      ((registered.sound a).variableBorrowIndex listed)
  · exact (opens.quoted entry member).of_same fun a => by rw [calls.data]

theorem Called.hidesForgotten_iff (calls : Called pool requests called) :
    (called.reserves asset).HidesForgotten env user amount ↔
      (pool.reserves asset).HidesForgotten env user amount := by
  rw [Reserve.HidesForgotten, Reserve.HidesForgotten, Reserve.forgottenDebt,
    Reserve.forgottenDebt, Reserve.debt, Reserve.debt, Reserve.storedDebt, Reserve.storedDebt,
    Reserve.variableDebt, Reserve.variableDebt, calls.data, calls.stable, calls.floating]

def Turn (env : Env) (pool : LendingPool) (msgSender receiverAddress onBehalfOf : Address)
    (requests : List (Address × Nat × Option Nat))
    (executeOperation : LendingPool → Result (LendingPool × Bool))
    (earlier : List FlashLoanEntry) (entry : FlashLoanEntry) (later : List FlashLoanEntry)
    (before between : LendingPool) : Prop :=
  ∃ opened called,
    openFlashLoan receiverAddress pool requests = .ok (opened, earlier ++ entry :: later) ∧
    executeOperation opened = .ok (called, true) ∧
    called.settleFlashLoans env receiverAddress msgSender onBehalfOf earlier = .ok before ∧
    before.settleFlashLoan env receiverAddress msgSender onBehalfOf entry = .ok between

def ForgetsNone (env : Env) (pool : LendingPool) (onBehalfOf : Address)
    (requests : List (Address × Nat × Option Nat)) : Prop :=
  ∀ earlier later asset amount, requests = earlier ++ (asset, amount, some 2) :: later →
    (∀ request ∈ earlier, request.1 ≠ asset) →
    (pool.reserves asset).HidesForgotten env onBehalfOf amount

structure Accounted (env : Env) (pool : LendingPool) (msgSender receiverAddress : Address)
    (requests : List (Address × Nat × Option Nat)) (onBehalfOf : Address)
    (executeOperation : LendingPool → Result (LendingPool × Bool)) (after : LendingPool) :
    Prop where
  cash : ∀ asset, (after.reserves asset).availableLiquidity + (requests.map (keptOf asset)).sum =
    (pool.reserves asset).availableLiquidity +
      (requests.map (premiumOf pool.flashLoanPremiumTotal asset)).sum
  stable : ∀ asset, (after.reserves asset).stableDebtToken.debt env.timestamp onBehalfOf =
    (pool.reserves asset).stableDebtToken.debt env.timestamp onBehalfOf +
      (requests.map (stableOf asset)).sum
  stableTurns : ∀ earlier entry later before between, Turn env pool msgSender receiverAddress
      onBehalfOf requests executeOperation earlier entry later before between →
    entry.mode = some 1 →
    (between.reserves entry.asset).stableDebtToken.debt env.timestamp onBehalfOf =
      (before.reserves entry.asset).stableDebtToken.debt env.timestamp onBehalfOf + entry.amount
  variableTurns : (∀ earlier entry later before between, Turn env pool msgSender receiverAddress
      onBehalfOf requests executeOperation earlier entry later before between →
    entry.mode = some 2 → GrewWithin env entry.asset onBehalfOf entry.amount before between) ↔
    ForgetsNone env pool onBehalfOf requests

theorem flashLoan_ok (computed : pool.flashLoan env msgSender receiverAddress assets amounts modes
      onBehalfOf executeOperation = .ok after) :
    ∃ opened entries called,
      openFlashLoan receiverAddress pool (flashLoanRequests assets amounts modes) =
        .ok (opened, entries) ∧ executeOperation opened = .ok (called, true) ∧
      called.settleFlashLoans env receiverAddress msgSender onBehalfOf entries = .ok after := by
  simp only [flashLoan, bind_eq_ok, require_eq_ok, exists_const, Prod.exists] at computed
  obtain ⟨_, _, _, _, opened, entries, opens, called, _, executed, rfl, settled⟩ := computed
  exact ⟨opened, entries, called, opens, executed, settled⟩

variable (registered : Registered pool) (apart : Apart pool receiverAddress)
variable (bystander : ∀ opened called returned, executeOperation opened = .ok (called, returned) →
  Bystands opened called)

include registered apart bystander

theorem Turn.settleable (turn : Turn env pool msgSender receiverAddress onBehalfOf requests
      executeOperation earlier entry later before between) :
    earlier.map FlashLoanEntry.request ++ entry.request :: later.map FlashLoanEntry.request =
        requests ∧
      ∃ called, Called pool requests called ∧
        Settleable called receiverAddress pool.flashLoanPremiumTotal (earlier ++ entry :: later) ∧
        called.settleFlashLoans env receiverAddress msgSender onBehalfOf earlier = .ok before ∧
        before.settleFlashLoan env receiverAddress msgSender onBehalfOf entry = .ok between := by
  obtain ⟨opened, called, opening, executed, ran, settle⟩ := turn
  have opens := openFlashLoan_opened apart opening
  have calls := opens.calls (bystander opened called true executed)
  refine ⟨?_, called, calls, calls.settleable opens registered apart, ran, settle⟩
  rw [← opens.requested, List.map_append, List.map_cons]

theorem Turn.settled (turn : Turn env pool msgSender receiverAddress onBehalfOf requests
      executeOperation earlier entry later before between) :
    EntrySettled env onBehalfOf entry before between := by
  obtain ⟨_, called, _, settleable, ran, settle⟩ := turn.settleable registered apart bystander
  have placed := settleable.placed (fun _ member => List.mem_append_left _ member) ran
  exact (settleable.turn (by simp) placed settle).2

-- An entry finds the assets of the entries before it current,
theorem Turn.hides_again (turn : Turn env pool msgSender receiverAddress onBehalfOf requests
      executeOperation earlier entry later before between)
    (again : ∃ item ∈ earlier, item.asset = entry.asset) :
    (before.reserves entry.asset).HidesForgotten env onBehalfOf entry.amount := by
  obtain ⟨_, called, _, settleable, ran, _⟩ := turn.settleable registered apart bystander
  have some : ∀ item ∈ earlier, item ∈ earlier ++ entry :: later :=
    fun _ member => List.mem_append_left _ member
  have priced := Nat.lt_of_lt_of_le (settleable.priced _ (settleable.quoted entry (by simp)).listed)
    ((settleable.placed some ran).indexes entry.asset)
  exact Reserve.hidesForgotten_of_none priced
    (Reserve.forgottenDebt_current (settleable.accrued some ran again))

-- and every other as it was.
theorem Turn.hides_first (turn : Turn env pool msgSender receiverAddress onBehalfOf requests
      executeOperation earlier entry later before between)
    (first : ∀ item ∈ earlier, item.asset ≠ entry.asset) :
    (before.reserves entry.asset).HidesForgotten env onBehalfOf entry.amount ↔
      (pool.reserves entry.asset).HidesForgotten env onBehalfOf entry.amount := by
  obtain ⟨_, called, calls, settleable, ran, _⟩ := turn.settleable registered apart bystander
  rw [settleable.untouched (fun _ member => List.mem_append_left _ member) ran first]
  exact calls.hidesForgotten_iff

theorem turns_grow_iff
    (computed : pool.flashLoan env msgSender receiverAddress assets amounts modes onBehalfOf
      executeOperation = .ok after) :
    (∀ earlier entry later before between, Turn env pool msgSender receiverAddress onBehalfOf
        (flashLoanRequests assets amounts modes) executeOperation earlier entry later before between →
      entry.mode = some 2 → GrewWithin env entry.asset onBehalfOf entry.amount before between) ↔
      ForgetsNone env pool onBehalfOf (flashLoanRequests assets amounts modes) := by
  constructor
  · intro grows requested rest asset amount split nowhere
    obtain ⟨opened, entries, called, opening, executed, ran⟩ := flashLoan_ok computed
    have requests := (openFlashLoan_opened apart opening).requested
    rw [split, List.map_eq_append_iff] at requests
    obtain ⟨earlier, tail, rfl, rfl, shape⟩ := requests
    obtain ⟨⟨a, n, premium, address, mode⟩, later, rfl, request, rfl⟩ := List.map_eq_cons_iff.1 shape
    cases request
    simp only [settleFlashLoans, List.foldlM_append, List.foldlM_cons, bind_eq_ok] at ran
    obtain ⟨before, ran, between, settle, _⟩ := ran
    have turn : Turn env pool msgSender receiverAddress onBehalfOf
        (flashLoanRequests assets amounts modes) executeOperation earlier
        ⟨a, n, premium, address, some 2⟩ later before between :=
      ⟨opened, called, opening, executed, ran, settle⟩
    have grown := grows _ _ _ _ _ turn rfl
    rw [(turn.settled registered apart bystander).grewWithin_iff rfl] at grown
    exact (turn.hides_first registered apart bystander fun item inside =>
      nowhere _ (List.mem_map_of_mem inside)).1 grown
  · intro stored earlier entry later before between turn chosen
    rw [(turn.settled registered apart bystander).grewWithin_iff chosen]
    by_cases again : ∃ item ∈ earlier, item.asset = entry.asset
    · exact turn.hides_again registered apart bystander again
    · have first : ∀ item ∈ earlier, item.asset ≠ entry.asset :=
        fun item inside same => again ⟨item, inside, same⟩
      have split := (turn.settleable registered apart bystander).1.symm
      rw [FlashLoanEntry.request, chosen] at split
      refine (turn.hides_first registered apart bystander first).2
        (stored _ _ entry.asset entry.amount split ?_)
      rintro request inside
      obtain ⟨item, member, rfl⟩ := List.mem_map.1 inside
      exact first item member

theorem flashLoan_cash
    (computed : pool.flashLoan env msgSender receiverAddress assets amounts modes onBehalfOf
      executeOperation = .ok after) :
    (after.reserves asset).availableLiquidity +
        ((flashLoanRequests assets amounts modes).map (keptOf asset)).sum =
      (pool.reserves asset).availableLiquidity + ((flashLoanRequests assets amounts modes).map
        (premiumOf pool.flashLoanPremiumTotal asset)).sum := by
  obtain ⟨opened, entries, called, opening, executed, ran⟩ := flashLoan_ok computed
  have opens := openFlashLoan_opened apart opening
  have calls := opens.calls (bystander opened called true executed)
  have settled := (calls.settleable opens registered apart).cash asset ran
  have lent := calls.cash asset
  rw [← opens.requested] at lent ⊢
  simp only [List.map_map, Function.comp_def, List.sum_map_add] at settled lent ⊢
  omega

theorem flashLoan_stable
    (computed : pool.flashLoan env msgSender receiverAddress assets amounts modes onBehalfOf
      executeOperation = .ok after) :
    (after.reserves asset).stableDebtToken.debt env.timestamp onBehalfOf =
      (pool.reserves asset).stableDebtToken.debt env.timestamp onBehalfOf +
        ((flashLoanRequests assets amounts modes).map (stableOf asset)).sum := by
  obtain ⟨opened, entries, called, opening, executed, ran⟩ := flashLoan_ok computed
  have opens := openFlashLoan_opened apart opening
  have calls := opens.calls (bystander opened called true executed)
  rw [(calls.settleable opens registered apart).stable ran, calls.stable, ← opens.requested,
    List.map_map]
  rfl

end LendingPool

namespace World

variable {world : World} {msgSender receiverAddress onBehalfOf : Address}
variable {assets : List Address} {amounts modes : List Nat} {after : LendingPool}
variable {executeOperation : LendingPool → Result (LendingPool × Bool)}

theorem Reachable.flashLoan_accounts (reached : world.Reachable)
    (outside : ¬world.pool.IsProtocol receiverAddress)
    (bystander : ∀ opened called returned, executeOperation opened = .ok (called, returned) →
      Bystands opened called)
    (computed : world.pool.flashLoan world.env msgSender receiverAddress assets amounts modes
      onBehalfOf executeOperation = .ok after) :
    Accounted world.env world.pool msgSender receiverAddress
      (flashLoanRequests assets amounts modes) onBehalfOf executeOperation after := by
  have registered := reached.registered
  have apart := registered.apart outside
  refine ⟨fun _ => flashLoan_cash registered apart bystander computed,
    fun _ => flashLoan_stable registered apart bystander computed,
    fun earlier entry later before between turn chosen => ?_,
    turns_grow_iff registered apart bystander computed⟩
  have settled := turn.settled registered apart bystander
  rw [settled.stable, if_pos chosen]

-- All interest of asset 10 is the treasury's, and a year of it is owed.
def overdue : List Event :=
  Market.opening 10 Market.strategy ++ Market.opening 20 Market.strategy ++
    [.admin 3 (.setReserveFactor 10 10000), .call 100 (.deposit 10 (1000 * WAD) 100),
      .call 101 (.deposit 20 (1000 * WAD) 101), .call 101 (.borrow 10 (50 * WAD) 2 101),
      .observe (Market.env 31536001 Market.year_in_time)]

def returnTrue (pool : LendingPool) : Result (LendingPool × Bool) := .ok (pool, true)

theorem returnTrue_bystands (opened called : LendingPool) (returned : Bool)
    (computed : returnTrue opened = .ok (called, returned)) : Bystands opened called := by
  cases computed
  exact ⟨fun a => ⟨_, _, _, rfl, rfl⟩, rfl⟩

theorem flashLoan_accounts_overdue :
    ∃ (world : World) (after : LendingPool), Runs.run step Market.start overdue = .ok world ∧
      world.pool.flashLoan world.env 101 102 [10, 20, 10, 10] [3 * WAD, WAD, 2 * WAD, WAD]
        [0, 2, 1, 2] 101 returnTrue = .ok after ∧
      Accounted world.env world.pool 101 102
        (flashLoanRequests [10, 20, 10, 10] [3 * WAD, WAD, 2 * WAD, WAD] [0, 2, 1, 2]) 101
        returnTrue after := by
  have outcome : yields (Runs.run step Market.start overdue) (fun world =>
      decide (¬world.pool.IsProtocol 102) &&
      yields (world.pool.flashLoan world.env 101 102 [10, 20, 10, 10] [3 * WAD, WAD, 2 * WAD, WAD]
        [0, 2, 1, 2] 101 returnTrue) (fun _ => true)) := by
    decide +kernel
  obtain ⟨world, ran, facts⟩ := yields_iff.1 outcome
  rw [Bool.and_eq_true, decide_eq_true_eq] at facts
  obtain ⟨outside, facts⟩ := facts
  obtain ⟨after, computed, _⟩ := yields_iff.1 facts
  exact ⟨world, after, ran, computed, Reachable.flashLoan_accounts (Market.reachable_of_run ran)
    outside returnTrue_bystands computed⟩

-- Borrowing one token through a flash loan, the year's interest is gone from the debt.
theorem flashLoan_forgets_overdue :
    ¬∀ (world : World) (msgSender receiverAddress onBehalfOf : Address) (assets : List Address)
      (amounts modes : List Nat) (executeOperation : LendingPool → Result (LendingPool × Bool))
      (after : LendingPool), world.Reachable → ¬world.pool.IsProtocol receiverAddress →
      (∀ opened called returned, executeOperation opened = .ok (called, returned) →
        Bystands opened called) →
      world.pool.flashLoan world.env msgSender receiverAddress assets amounts modes onBehalfOf
        executeOperation = .ok after →
      ∀ earlier entry later before between, Turn world.env world.pool msgSender receiverAddress
          onBehalfOf (flashLoanRequests assets amounts modes) executeOperation earlier entry later
          before between → entry.mode = some 2 →
        GrewWithin world.env entry.asset onBehalfOf entry.amount before between := by
  intro every
  have outcome : yields (Runs.run step Market.start overdue) (fun world =>
      decide (¬world.pool.IsProtocol 102) &&
      yields (world.pool.flashLoan world.env 101 102 [10] [WAD] [2] 101 returnTrue) (fun _ => true) &&
      yields (openFlashLoan 102 world.pool (flashLoanRequests [10] [WAD] [2])) (fun opening =>
        decide (opening.2 = [⟨10, WAD, WAD * 9 / 10000, 11, some 2⟩]) &&
        yields (opening.1.settleFlashLoan world.env 102 101 101
            ⟨10, WAD, WAD * 9 / 10000, 11, some 2⟩) (fun between =>
          decide (¬GrewWithin world.env 10 101 WAD opening.1 between)))) := by
    decide +kernel
  obtain ⟨world, ran, facts⟩ := yields_iff.1 outcome
  simp only [Bool.and_eq_true, decide_eq_true_eq] at facts
  obtain ⟨⟨outside, lent⟩, facts⟩ := facts
  obtain ⟨after, computed, _⟩ := yields_iff.1 lent
  obtain ⟨⟨opened, entries⟩, opening, facts⟩ := yields_iff.1 facts
  simp only [Bool.and_eq_true, decide_eq_true_eq] at facts
  obtain ⟨rfl, facts⟩ := facts
  obtain ⟨between, settle, shrunk⟩ := yields_iff.1 facts
  have turn : Turn world.env world.pool 101 102 101 (flashLoanRequests [10] [WAD] [2]) returnTrue []
      ⟨10, WAD, WAD * 9 / 10000, 11, some 2⟩ [] opened between :=
    ⟨opened, opened, opening, rfl, rfl, settle⟩
  have grown := every world 101 102 101 [10] [WAD] [2] returnTrue after
    (Market.reachable_of_run ran) outside returnTrue_bystands computed [] _ [] opened between turn
    rfl
  rw [decide_eq_true_eq] at shrunk
  exact shrunk grown

end World

end PalmyProtocol
