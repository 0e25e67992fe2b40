import PalmyProtocol.System.FlagMoves

set_option autoImplicit false

namespace PalmyProtocol

open Checked Rounding

-- The operations that take nothing from anybody: a flag they put on has something under it.
namespace LendingPool

variable {env : Env} {pool middle after : LendingPool} {msgSender asset user onBehalfOf : Address}
variable {amount : Nat} {reserve : Reserve}

structure Backed (pool after : LendingPool) : Prop where
  listed : ∀ a, (after.reserves a).lTokenAddress = (pool.reserves a).lTokenAddress
  held : ∀ a u, after.held a u = 0 → pool.held a u = 0
  owes : ∀ a u, (pool.reserves a).Owes u → (after.reserves a).Owes u
  uses : ∀ a u, (pool.reserves a).lTokenAddress ≠ 0 → after.uses a u = true →
    pool.uses a u = true ∨ after.held a u ≠ 0
  borrows : ∀ a u, (pool.reserves a).lTokenAddress ≠ 0 → after.borrows a u = true →
    pool.borrows a u = true ∨ (after.reserves a).Owes u

theorem Backed.refl (pool : LendingPool) : Backed pool pool :=
  ⟨fun _ => rfl, fun _ _ none => none, fun _ _ owing => owing, fun _ _ _ on => .inl on,
    fun _ _ _ on => .inl on⟩

theorem Backed.trans (first : Backed pool middle) (second : Backed middle after) :
    Backed pool after where
  listed a := (second.listed a).trans (first.listed a)
  held a u none := first.held a u (second.held a u none)
  owes a u owing := second.owes a u (first.owes a u owing)
  uses a u here on := by
    rcases second.uses a u (by rwa [first.listed]) on with before | some
    · rcases first.uses a u here before with set | held
      · exact .inl set
      · exact .inr fun none => held (second.held a u none)
    · exact .inr some
  borrows a u here on := by
    rcases second.borrows a u (by rwa [first.listed]) on with before | owing
    · rcases first.borrows a u here before with set | owed
      · exact .inl set
      · exact .inr (second.owes a u owed)
    · exact .inr owing

theorem backed_setReserve (keeps : Reserve.Keeps (pool.reserves asset) reserve)
    (held : ∀ u, pool.held asset u ≤ reserve.lToken.base.balances u)
    (owes : ∀ u, (pool.reserves asset).Owes u → reserve.Owes u) :
    Backed pool (pool.setReserve asset reserve) := by
  have place : ∀ a, ((pool.setReserve asset reserve).reserves a).id = (pool.reserves a).id := by
    intro a
    by_cases same : a = asset
    · rw [same, setReserve_same, keeps.id]
    · rw [setReserve_other same]
  refine ⟨fun a => ?_, fun a u none => ?_, fun a u owing => ?_, fun a u _ on => ?_,
    fun a u _ on => ?_⟩
  · by_cases same : a = asset
    · rw [same, setReserve_same, keeps.lTokenAddress]
    · rw [setReserve_other same]
  · rw [held_setReserve] at none
    split_ifs at none with same
    · have kept := held u
      rw [same]
      omega
    · exact none
  · by_cases same : a = asset
    · subst same
      rw [setReserve_same]
      exact owes u owing
    · rwa [setReserve_other same]
  · rw [uses, place] at on
    exact .inl on
  · rw [borrows, place] at on
    exact .inl on

theorem backed_sameDebts (keeps : Reserve.Keeps (pool.reserves asset) reserve)
    (held : ∀ u, pool.held asset u ≤ reserve.lToken.base.balances u)
    (same : Reserve.SameDebts (pool.reserves asset) reserve) :
    Backed pool (pool.setReserve asset reserve) :=
  backed_setReserve keeps held fun u => (same.owes u).2

theorem backed_collateral {config : UserConfigurationMap} {condition : Prop} [Decidable condition]
    {value : Bool} (registered : Registered pool)
    (here : (pool.reserves asset).lTokenAddress ≠ 0)
    (flag : (if condition then
        (pool.usersConfig user).setUsingAsCollateral (pool.reserves asset).id value
      else .ok (pool.usersConfig user)) = .ok config) (some : pool.held asset user ≠ 0) :
    Backed pool (pool.setUserConfig user config) := by
  refine ⟨fun _ => rfl, fun _ _ none => none, fun _ _ owing => owing, fun a u listed on => ?_,
    fun a u _ on => ?_⟩
  · rw [uses, setUserConfig_reserves, uses_written registered listed here flag] at on
    split_ifs at on with all
    · obtain ⟨⟨_, rfl⟩, rfl⟩ := all
      exact .inr some
    · exact .inl on
  · left
    rwa [borrows, setUserConfig_reserves,
      setUserConfig_borrows (collateral_borrows flag _)] at on

theorem backed_borrowing {config : UserConfigurationMap} {condition : Prop} [Decidable condition]
    (registered : Registered pool) (here : (pool.reserves asset).lTokenAddress ≠ 0)
    (flag : (if condition then (pool.usersConfig user).setBorrowing (pool.reserves asset).id true
      else .ok (pool.usersConfig user)) = .ok config) (some : (pool.reserves asset).Owes user) :
    Backed pool (pool.setUserConfig user config) := by
  refine ⟨fun _ => rfl, fun _ _ none => none, fun _ _ owing => owing, fun a u _ on => ?_,
    fun a u listed on => ?_⟩
  · left
    rwa [uses, setUserConfig_reserves,
      setUserConfig_collateralises (borrowing_uses flag _)] at on
  · rw [borrows, setUserConfig_reserves, borrows_written registered listed here flag] at on
    split_ifs at on with all
    · obtain ⟨⟨_, rfl⟩, rfl⟩ := all
      exact .inr some
    · exact .inl on

theorem held_accrued {accrued : Reserve}
    (computed : (pool.reserves asset).updateState env.timestamp = .ok accrued) (u : Address) :
    pool.held asset u ≤ accrued.lToken.base.balances u := by
  have grown := le_held_accrued (a := asset) (u := u) computed
  rwa [held_setReserve, if_pos rfl] at grown

theorem deposit_backed (registered : Registered pool)
    (computed : pool.deposit env msgSender asset amount onBehalfOf = .ok after) :
    Backed pool after := by
  have operates := deposit_operates computed
  obtain ⟨accrued, rated, funded, minted, first, config, run⟩ := deposit_ok computed
  have listed := registered.updateState_listed run.accrue
  obtain ⟨_, _, _, _, rate⟩ := Reserve.updateInterestRates_ok run.rate
  obtain ⟨_, _, fund⟩ := Reserve.transferUnderlyingFrom_ok run.fund
  obtain ⟨lToken, mint, shape⟩ := Reserve.mintLToken_ok run.mint
  have debts := ((Reserve.updateState_sameDebts run.accrue).trans
    (Reserve.updateInterestRates_sameDebts run.rate)).trans
    ((Reserve.transferUnderlyingFrom_sameDebts run.fund).trans (Reserve.mintLToken_sameDebts run.mint))
  have operations := operates.operations asset
  rw [run.result, setUserConfig_reserves, setReserve_same] at operations
  have keeps := Reserve.Keeps.of_operations operations
  have moved : Operates env pool (pool.setReserve asset minted) := operates_setReserve operations
  have balances : ∀ u, minted.lToken.base.balances u = accrued.lToken.base.balances u +
      if u = onBehalfOf then divHalfUp (amount * RAY) funded.liquidityIndex else 0 := by
    intro u
    have received := mint.balances u
    rw [fund, rate.result] at received ⊢
    rw [shape]
    exact received
  have backed : Backed pool (pool.setReserve asset minted) := by
    refine backed_sameDebts keeps (fun u => ?_) debts
    rw [balances]
    exact le_trans (held_accrued run.accrue u) (Nat.le_add_right _ _)
  rw [run.result]
  refine backed.trans ?_
  have here : ((pool.setReserve asset minted).reserves asset).lTokenAddress ≠ 0 := by
    rwa [setReserve_same, keeps.lTokenAddress]
  have flag : (if first = true then ((pool.setReserve asset minted).usersConfig
      onBehalfOf).setUsingAsCollateral ((pool.setReserve asset minted).reserves asset).id true
      else .ok ((pool.setReserve asset minted).usersConfig onBehalfOf)) = .ok config := by
    rw [setReserve_same]
    exact run.flag
  refine backed_collateral (registered.evolves moved.evolves) here flag ?_
  have some := mint.scaled_ne_zero
  rw [held_setReserve, if_pos rfl, balances, if_pos rfl]
  omega

theorem executeBorrow_backed {vars : ExecuteBorrowParams} (registered : Registered pool)
    (computed : pool.executeBorrow env vars = .ok after) : Backed pool after := by
  have operates := executeBorrow_operates computed
  obtain ⟨_, accrued, minted, rated, released, mode, first, config, run⟩ := executeBorrow_ok computed
  have listed := registered.updateState_listed run.accrue
  have accrue := Reserve.updateState_sameDebts run.accrue
  obtain ⟨_, _, _, _, rate⟩ := Reserve.updateInterestRates_ok run.rate
  have release : released.lToken = rated.lToken ∧ released.id = rated.id ∧
      Reserve.SameDebts rated released := by
    obtain ⟨_, shape⟩ := run.released_eq
    rw [shape]
    exact ⟨rfl, rfl, rfl, rfl⟩
  have debts := (Reserve.updateInterestRates_sameDebts run.rate).trans release.2.2
  have owes : ∀ u, u = vars.onBehalfOf ∨ (pool.reserves vars.asset).Owes u → minted.Owes u := by
    intro u owing
    rw [← accrue.owes] at owing
    have mint := run.mint
    split_ifs at mint
    · exact Reserve.owes_mintStableDebt mint u owing
    · exact Reserve.owes_mintVariableDebt mint u owing
  have operations := operates.operations vars.asset
  rw [run.result, setUserConfig_reserves, setReserve_same] at operations
  have keeps := Reserve.Keeps.of_operations operations
  have same : minted.id = released.id := by rw [release.2.1, rate.result]
  have backed : Backed pool (pool.setReserve vars.asset released) := by
    refine backed_setReserve keeps (fun u => ?_) (fun u owing => ?_)
    · rw [release.1, rate.result, (Reserve.mint_debtsOnly run.mint).lToken]
      exact held_accrued run.accrue u
    · rw [debts.owes]
      exact owes u (.inr owing)
  rw [run.result]
  refine backed.trans ?_
  have moved : Operates env pool (pool.setReserve vars.asset released) :=
    operates_setReserve operations
  have here : ((pool.setReserve vars.asset released).reserves vars.asset).lTokenAddress ≠ 0 := by
    rwa [setReserve_same, keeps.lTokenAddress]
  have flag : (if first = true then ((pool.setReserve vars.asset released).usersConfig
      vars.onBehalfOf).setBorrowing ((pool.setReserve vars.asset released).reserves vars.asset).id
        true else .ok ((pool.setReserve vars.asset released).usersConfig vars.onBehalfOf)) =
          .ok config := by
    rw [setReserve_same, ← same]
    exact run.flag
  refine backed_borrowing (registered.evolves moved.evolves) here flag ?_
  rw [setReserve_same, debts.owes]
  exact owes _ (.inl rfl)

theorem swapBorrowRateMode_backed {rateMode : Nat}
    (computed : pool.swapBorrowRateMode env msgSender asset rateMode = .ok after) :
    Backed pool after := by
  have operates := swapBorrowRateMode_operates computed
  obtain ⟨mode, _, _, accrued, burned, minted, rated, first, _, run⟩ :=
    swapBorrowRateMode_ok computed
  obtain ⟨_, _, _, _, rate⟩ := Reserve.updateInterestRates_ok run.rate
  have accrue := Reserve.updateState_sameDebts run.accrue
  have keeps := operates.evolves.keeps asset
  rw [run.result, setReserve_same] at keeps
  have turned : minted.lToken = accrued.lToken ∧ ∀ u, accrued.Owes u → minted.Owes u := by
    have burn := run.burn
    have mint := run.mint
    split_ifs at burn mint
    · refine ⟨((Reserve.burnStableDebt_debtsOnly burn).trans
        (Reserve.mintVariableDebt_debtsOnly mint)).lToken,
        fun u owing => Reserve.owes_mintVariableDebt mint u ?_⟩
      by_cases same : u = msgSender
      · exact .inl same
      · right
        rwa [Reserve.burnStableDebt_left burn, if_neg same]
    · refine ⟨((Reserve.burnVariableDebt_debtsOnly burn).trans
        (Reserve.mintStableDebt_debtsOnly mint)).lToken,
        fun u owing => Reserve.owes_mintStableDebt mint u ?_⟩
      by_cases same : u = msgSender
      · exact .inl same
      · right
        rwa [Reserve.burnVariableDebt_left burn, if_neg same]
  rw [run.result]
  refine backed_setReserve keeps (fun u => ?_) (fun u owing => ?_)
  · rw [rate.result, turned.1]
    exact held_accrued run.accrue u
  · rw [(Reserve.updateInterestRates_sameDebts run.rate).owes]
    exact turned.2 u ((accrue.owes u).2 owing)

theorem rebalanceStableBorrowRate_backed
    (computed : pool.rebalanceStableBorrowRate env asset user = .ok after) : Backed pool after := by
  have operates := rebalanceStableBorrowRate_operates computed
  obtain ⟨_, accrued, burned, minted, rated, first, run⟩ := rebalanceStableBorrowRate_ok computed
  obtain ⟨_, _, _, _, rate⟩ := Reserve.updateInterestRates_ok run.rate
  have turned := (Reserve.burnStableDebt_debtsOnly run.burn).trans
    (Reserve.mintStableDebt_debtsOnly run.mint)
  have accrue := Reserve.updateState_sameDebts run.accrue
  have keeps := operates.evolves.keeps asset
  rw [run.result, setReserve_same] at keeps
  rw [run.result]
  refine backed_setReserve keeps (fun u => ?_) (fun u owing => ?_)
  · rw [rate.result, turned.lToken]
    exact held_accrued run.accrue u
  · rw [(Reserve.updateInterestRates_sameDebts run.rate).owes]
    refine Reserve.owes_mintStableDebt run.mint u ?_
    by_cases same : u = user
    · exact .inl same
    · right
      rw [Reserve.burnStableDebt_left run.burn, if_neg same, accrue.owes]
      exact owing

theorem setUserUseReserveAsCollateral_backed {useAsCollateral : Bool} (registered : Registered pool)
    (computed : pool.setUserUseReserveAsCollateral env msgSender asset useAsCollateral = .ok after) :
    Backed pool after := by
  obtain ⟨config, valid, flag, rfl⟩ := setUserUseReserveAsCollateral_ok computed
  simp only [ValidationLogic.validateSetUseReserveAsCollateral, bind_eq_ok, require_eq_ok] at valid
  obtain ⟨balance, read, _, some, _⟩ := valid
  obtain ⟨listed, owned⟩ := Reserve.lTokenBalanceOf_ok read
  have holds : pool.held asset msgSender ≠ 0 := by
    intro none
    rw [← balance_eq_zero_iff env msgSender registered listed, Reserve.lTokenBalance, ← owned] at none
    omega
  have flag : (if True then
      (pool.usersConfig msgSender).setUsingAsCollateral (pool.reserves asset).id useAsCollateral
      else .ok (pool.usersConfig msgSender)) = .ok config := by rwa [if_pos trivial]
  exact backed_collateral registered listed flag holds

theorem backed_aside (keeps : Reserve.Keeps (pool.reserves asset) reserve)
    (balances : reserve.lToken.base.balances = (pool.reserves asset).lToken.base.balances)
    (owes : ∀ u, (pool.reserves asset).Owes u → reserve.Owes u) :
    Backed pool (pool.setReserve asset reserve) :=
  backed_setReserve keeps (fun u => by rw [balances]; exact le_refl _) owes

theorem updateAllowance_backed {change : ERC20 → Result ERC20}
    (holdings : ∀ base base', change base = .ok base' → ERC20.SameHoldings base base')
    (computed : pool.updateAllowance asset change = .ok after) : Backed pool after := by
  obtain ⟨_, base, changed, rfl⟩ := updateAllowance_ok computed
  exact backed_aside ⟨rfl, rfl, rfl, rfl, rfl, le_refl _, le_refl _⟩ (holdings _ _ changed).balances
    fun _ owing => owing

theorem openFlashLoan_backed {receiverAddress : Address}
    {requests : List (Address × Nat × Option Nat)} {entries : List FlashLoanEntry}
    (computed : openFlashLoan receiverAddress pool requests = .ok (after, entries)) :
    Backed pool after := by
  induction requests generalizing pool entries with
  | nil =>
      cases computed
      exact .refl _
  | cons request rest ih =>
      obtain ⟨asset, amount, mode⟩ := request
      obtain ⟨lent, later, sent, opened, _⟩ := openFlashLoan_cons computed
      obtain ⟨_, _, _, shape⟩ := Reserve.transferUnderlyingTo_ok sent
      have debts := Reserve.transferUnderlyingTo_sameDebts sent
      refine (backed_aside ?_ (by rw [shape]) fun u => (debts.owes u).2).trans (ih opened)
      rw [shape]
      exact ⟨rfl, rfl, rfl, rfl, rfl, le_refl _, le_refl _⟩

theorem settleFlashLoan_backed {receiverAddress : Address} {entry : FlashLoanEntry}
    (registered : Registered pool)
    (computed : pool.settleFlashLoan env receiverAddress msgSender onBehalfOf entry = .ok after) :
    Backed pool after := by
  have operates := settleFlashLoan_operates computed
  obtain ⟨_, _, _, _, ⟨_, _, accrued, _, _, funded, run⟩ | ⟨_, borrowed⟩⟩ :=
    settleFlashLoan_ok computed
  · have keeps := operates.evolves.keeps entry.asset
    rw [run.result, setReserve_same] at keeps
    obtain ⟨_, _, _, _, rate⟩ := Reserve.updateInterestRates_ok run.rate
    obtain ⟨_, _, fund⟩ := Reserve.transferUnderlyingFrom_ok run.fund
    have rates := Reserve.updateInterestRates_sameDebts run.rate
    have debts := (Reserve.updateState_sameDebts run.accrue).trans
      (Reserve.SameDebts.trans ⟨rates.stable, rates.floating⟩
        (Reserve.transferUnderlyingFrom_sameDebts run.fund))
    rw [run.result]
    refine backed_sameDebts keeps (fun u => ?_) debts
    rw [fund, rate.result]
    exact held_accrued run.accrue u
  · exact executeBorrow_backed registered borrowed

end LendingPool

-- The flags of ids that no asset has yet: no operation writes them, so an asset is listed clear.
namespace LendingPool

variable {env : Env} {pool middle after : LendingPool} {msgSender asset user onBehalfOf : Address}
variable {amount : Nat} {config config' : UserConfigurationMap}

def Unused (pool : LendingPool) : Prop :=
  ∀ u i, pool.reservesCount ≤ i →
    (pool.usersConfig u).collateralises i = false ∧ (pool.usersConfig u).borrows i = false

def SameFrom (count : Nat) (config config' : UserConfigurationMap) : Prop :=
  ∀ i, count ≤ i → config'.collateralises i = config.collateralises i ∧
    config'.borrows i = config.borrows i

def Spared (pool after : LendingPool) : Prop :=
  ∀ u, SameFrom pool.reservesCount (pool.usersConfig u) (after.usersConfig u)

theorem Spared.refl (pool : LendingPool) : Spared pool pool := fun _ _ _ => ⟨rfl, rfl⟩

theorem Spared.trans (first : Spared pool middle)
    (count : middle.reservesCount = pool.reservesCount) (second : Spared middle after) :
    Spared pool after := by
  intro u i beyond
  obtain ⟨collateralises, borrows⟩ := first u i beyond
  obtain ⟨collateralises', borrows'⟩ := second u i (by rwa [count])
  exact ⟨collateralises'.trans collateralises, borrows'.trans borrows⟩

theorem Spared.unused (spared : Spared pool after) (unused : Unused pool)
    (count : after.reservesCount = pool.reservesCount) : Unused after := by
  intro u i beyond
  rw [count] at beyond
  obtain ⟨collateralises, borrows⟩ := spared u i beyond
  rw [collateralises, borrows]
  exact unused u i beyond

theorem spared_setUserConfig
    (same : SameFrom pool.reservesCount (pool.usersConfig user) config) :
    Spared pool (pool.setUserConfig user config) := by
  intro u
  by_cases here : u = user
  · subst here
    rwa [setUserConfig_same]
  · rw [setUserConfig_other here]
    exact fun _ _ => ⟨rfl, rfl⟩

theorem collateral_sameFrom {condition : Prop} [Decidable condition] {count id : Nat} {flag : Bool}
    (inside : id < count)
    (computed : (if condition then config.setUsingAsCollateral id flag else .ok config) =
      .ok config') : SameFrom count config config' := by
  intro i beyond
  split_ifs at computed
  · obtain ⟨_, borrows, collateralises⟩ := UserConfigurationMap.setUsingAsCollateral_ok computed
    have other : i ≠ id := by omega
    rw [collateralises, if_neg other]
    exact ⟨rfl, borrows i⟩
  · cases computed
    exact ⟨rfl, rfl⟩

theorem borrowing_sameFrom {condition : Prop} [Decidable condition] {count id : Nat} {flag : Bool}
    (inside : id < count)
    (computed : (if condition then config.setBorrowing id flag else .ok config) = .ok config') :
    SameFrom count config config' := by
  intro i beyond
  split_ifs at computed
  · obtain ⟨_, borrows, collateralises⟩ := UserConfigurationMap.setBorrowing_ok computed
    have other : i ≠ id := by omega
    rw [borrows, if_neg other]
    exact ⟨collateralises i, rfl⟩
  · cases computed
    exact ⟨rfl, rfl⟩

theorem Registered.id_inside (registered : Registered pool)
    (listed : (pool.reserves asset).lTokenAddress ≠ 0) :
    (pool.reserves asset).id < pool.reservesCount := (registered.listed asset listed).1

theorem deposit_spared (registered : Registered pool)
    (computed : pool.deposit env msgSender asset amount onBehalfOf = .ok after) :
    Spared pool after := by
  have keeps := (deposit_operates computed).evolves.keeps asset
  obtain ⟨accrued, rated, funded, minted, first, config, run⟩ := deposit_ok computed
  rw [run.result, setUserConfig_reserves, setReserve_same] at keeps
  have flag := run.flag
  rw [keeps.id] at flag
  rw [run.result]
  exact spared_setUserConfig
    (collateral_sameFrom (registered.id_inside (registered.updateState_listed run.accrue)) flag)

theorem withdraw_spared {recipient : Address} {withdrawn : Nat} (registered : Registered pool)
    (computed : pool.withdraw env msgSender asset amount recipient = .ok (after, withdrawn)) :
    Spared pool after := by
  obtain ⟨balance, accrued, rated, burned, config, sum, run⟩ := withdraw_ok computed
  obtain ⟨_, _, _, _, rate⟩ := Reserve.updateInterestRates_ok run.rate
  have flag := run.flag
  rw [rate.result] at flag
  change (if _ then (pool.usersConfig msgSender).setUsingAsCollateral accrued.id false else _) = _
    at flag
  rw [(Reserve.Keeps.of_operation (.accrue run.accrue)).id] at flag
  rw [run.result]
  exact spared_setUserConfig
    (collateral_sameFrom (registered.id_inside (registered.updateState_listed run.accrue)) flag)

theorem executeBorrow_spared {vars : ExecuteBorrowParams} (registered : Registered pool)
    (computed : pool.executeBorrow env vars = .ok after) : Spared pool after := by
  obtain ⟨_, accrued, minted, rated, released, mode, first, config, run⟩ := executeBorrow_ok computed
  have flag := run.flag
  rw [(Reserve.mint_debtsOnly run.mint).data, (Reserve.Keeps.of_operation (.accrue run.accrue)).id] at flag
  rw [run.result]
  exact spared_setUserConfig
    (borrowing_sameFrom (registered.id_inside (registered.updateState_listed run.accrue)) flag)

theorem repay_spared {rateMode payback : Nat} (registered : Registered pool)
    (computed : pool.repay env msgSender asset amount rateMode onBehalfOf = .ok (after, payback)) :
    Spared pool after := by
  obtain ⟨mode, stableDebt, variableDebt, accrued, burned, rated, funded, config, chosen, run⟩ :=
    repay_ok computed
  obtain ⟨_, _, _, _, rate⟩ := Reserve.updateInterestRates_ok run.rate
  have same : rated.id = accrued.id := by
    rw [rate.result, (Reserve.burn_debtsOnly run.burn).data]
  have flag := run.flag
  rw [same, (Reserve.Keeps.of_operation (.accrue run.accrue)).id] at flag
  rw [run.result]
  exact spared_setUserConfig
    (borrowing_sameFrom (registered.id_inside (registered.updateState_listed run.accrue)) flag)

theorem moveLTokens_spared {sender recipient : Address} (registered : Registered pool)
    (computed : pool.moveLTokens env asset sender recipient amount = .ok after) :
    Spared pool after := by
  obtain ⟨lToken, fromBefore, toBefore, run⟩ := moveLTokens_ok computed
  have inside := registered.id_inside run.listed
  rcases run.finalize.result with ⟨_, rfl⟩ | ⟨apart, _, fromConfig, toConfig, sent, received, rfl⟩
  · exact Spared.refl _
  · simp only [setReserve_same, setReserve_usersConfig] at sent received
    have first : Spared pool (pool.setUserConfig sender fromConfig) :=
      spared_setUserConfig (collateral_sameFrom inside sent)
    refine first.trans rfl ?_
    have second : SameFrom pool.reservesCount
        ((pool.setUserConfig sender fromConfig).usersConfig recipient) toConfig := by
      rw [setUserConfig_other (Ne.symm apart)]
      exact collateral_sameFrom inside received
    exact spared_setUserConfig second

theorem liquidationCall_spared {collateralAsset debtAsset : Address} {debtToCover : Nat}
    {receiveLToken : Bool} (registered : Registered pool)
    (computed : pool.liquidationCall env msgSender collateralAsset debtAsset user debtToCover
      receiveLToken = .ok after) : Spared pool after := by
  obtain ⟨_, _, _, _, _, _, _, run⟩ := liquidationCall_ok computed
  obtain ⟨repaid, seized, config, funded, exec⟩ :=
    LendingPoolCollateralManager.executeLiquidation_ok run.execute
  have repays : Operates env pool repaid :=
    LendingPool.repayDebt_operates exec.repay
  have operates : Operates env pool seized := repays.trans (seize_operates exec.seize)
  have inside := registered.id_inside (Reserve.lTokenBalanceOf_ok run.balance).1
  have paid : repaid.usersConfig = pool.usersConfig := by
    obtain ⟨_, _, _, leg⟩ := LendingPoolCollateralManager.repayDebt_ok exec.repay
    rw [leg.result, setReserve_usersConfig]
  have taken : Spared pool seized := by
    have seize := exec.seize
    split_ifs at seize
    · obtain ⟨_, _, _, _, written, leg⟩ := LendingPoolCollateralManager.seizeLTokens_ok seize
      have flag := leg.flag
      rw [paid, (repays.evolves.keeps collateralAsset).id] at flag
      have marked := spared_setUserConfig (collateral_sameFrom inside flag)
      rw [leg.result]
      intro u
      rw [setUserConfig, setReserve_usersConfig, paid]
      exact marked u
    · obtain ⟨_, _, _, leg⟩ := LendingPoolCollateralManager.seizeUnderlying_ok seize
      rw [leg.result]
      intro u
      rw [setReserve_usersConfig, paid]
      exact fun _ _ => ⟨rfl, rfl⟩
  have flag := exec.flag
  rw [(operates.evolves.keeps collateralAsset).id] at flag
  rw [exec.result]
  refine taken.trans operates.evolves.registry.reservesCount ?_
  rw [← operates.evolves.registry.reservesCount] at inside
  exact spared_setUserConfig (collateral_sameFrom inside flag)

theorem setUserUseReserveAsCollateral_spared {useAsCollateral : Bool} (registered : Registered pool)
    (computed : pool.setUserUseReserveAsCollateral env msgSender asset useAsCollateral = .ok after) :
    Spared pool after := by
  obtain ⟨config, valid, flag, rfl⟩ := setUserUseReserveAsCollateral_ok computed
  simp only [ValidationLogic.validateSetUseReserveAsCollateral, bind_eq_ok] at valid
  obtain ⟨_, read, _⟩ := valid
  have inside := registered.id_inside (Reserve.lTokenBalanceOf_ok read).1
  have written : (if True then
      (pool.usersConfig msgSender).setUsingAsCollateral (pool.reserves asset).id useAsCollateral
      else .ok (pool.usersConfig msgSender)) = .ok config := by rwa [if_pos trivial]
  exact spared_setUserConfig (collateral_sameFrom inside written)

theorem settleFlashLoan_spared {receiverAddress : Address} {entry : FlashLoanEntry}
    (registered : Registered pool)
    (computed : pool.settleFlashLoan env receiverAddress msgSender onBehalfOf entry = .ok after) :
    Spared pool after := by
  obtain ⟨_, _, _, _, ⟨_, _, _, _, _, _, run⟩ | ⟨_, borrowed⟩⟩ := settleFlashLoan_ok computed
  · rw [run.result]
    exact fun _ _ _ => ⟨rfl, rfl⟩
  · exact executeBorrow_spared registered borrowed

end LendingPool

end PalmyProtocol
