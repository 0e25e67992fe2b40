import PalmyProtocol.Library.SharePool
import PalmyProtocol.System.RestingReserves

set_option autoImplicit false

namespace PalmyProtocol

open Checked Rounding LendingPool

namespace Reserve

variable {env : Env} {reserve accrued rated after : Reserve} {asset lTokenAddress : Address}
variable {now added taken : Nat}

structure Unborrowed (reserve : Reserve) : Prop where
  stable : reserve.stableDebtToken.base.totalSupply = 0
  floating : reserve.variableDebtToken.base.totalSupply = 0
  liquidityRate : reserve.currentLiquidityRate = 0

-- Without debt nothing accrued, so the treasury gets no share of it.
theorem Unborrowed.mintToTreasury {previous liquidity current timestamp : Nat} {lToken : LToken}
    (unborrowed : Unborrowed reserve)
    (computed : reserve.mintToTreasury now reserve.variableDebtToken.base.totalSupply previous
      liquidity current timestamp = .ok lToken) : lToken = reserve.lToken := by
  simp only [Reserve.mintToTreasury, accruedDebt, StableDebtToken.getSupplyData,
    StableDebtToken.calcTotalSupply, unborrowed.stable, unborrowed.floating, ite_eq_ok, bind_eq_ok,
    Prod.exists, pure_eq_ok, Prod.mk.injEq, rayMul_eq_ok, SafeMath.add_eq_ok, SafeMath.sub_eq_ok,
    percentMul_eq_ok, Except.ok.injEq] at computed
  rcases computed with ⟨_, rfl⟩ | ⟨_, _, accrues, amount, ⟨_, rfl⟩, shared⟩
  · rfl
  · obtain ⟨_, _, _, _, ⟨_, supplied, rfl, rfl, _, _⟩, _, ⟨_, rfl⟩, _, ⟨_, rfl⟩, _, _, _, ⟨_, rfl⟩,
      _, ⟨_, rfl⟩, _, ⟨_, rfl⟩, _, rfl⟩ := accrues
    rcases supplied with ⟨_, rfl⟩ | ⟨positive, _⟩
    · rcases shared with ⟨positive, _⟩ | ⟨_, rfl⟩
      · simp at positive
      · rfl
    · exact absurd trivial positive

theorem Unborrowed.updateState (unborrowed : Unborrowed reserve)
    (computed : reserve.updateState now = .ok accrued) :
    accrued = { reserve with lastUpdateTimestamp := uint40 now } := by
  obtain ⟨lToken, liquidityIndex, variableBorrowIndex, run⟩ := updateState_ok computed
  have idle : ¬0 < reserve.currentLiquidityRate := by
    rw [unborrowed.liquidityRate]
    exact Nat.lt_irrefl 0
  obtain rfl := unborrowed.mintToTreasury run.treasury
  have liquidity := run.liquidity
  rw [ReserveData.accruedLiquidityIndex, if_neg idle] at liquidity
  have floating := run.floating
  rw [ReserveData.accruedVariableBorrowIndex, if_neg (fun both => idle both.1)] at floating
  rw [run.result, liquidity, floating]

theorem Unborrowed.poked (unborrowed : Unborrowed reserve)
    (computed : reserve.updateState now = .ok accrued) : Unborrowed accrued := by
  rw [unborrowed.updateState computed]
  exact ⟨unborrowed.stable, unborrowed.floating, unborrowed.liquidityRate⟩

structure Idled (reserve after : Reserve) : Prop where
  unborrowed : after.Unborrowed
  lToken : after.lToken = reserve.lToken
  liquidityIndex : after.liquidityIndex = reserve.liquidityIndex
  lTokenAddress : after.lTokenAddress = reserve.lTokenAddress
  cash : after.availableLiquidity = reserve.availableLiquidity

theorem Unborrowed.updateInterestRates (unborrowed : Unborrowed reserve)
    (computed : reserve.updateInterestRates env asset lTokenAddress added taken = .ok rated) :
    Idled reserve rated := by
  obtain ⟨strategy, liquidityRate, stableRate, variableRate, run⟩ := updateInterestRates_ok computed
  have supply : reserve.stableDebtToken.supply env.timestamp = 0 := by
    rw [StableDebtToken.supply, unborrowed.stable, Nat.zero_mul, divHalfUp_zero]
  have rates := run.rates
  rw [supply, unborrowed.floating, Nat.zero_mul, divHalfUp_zero] at rates
  obtain ⟨_, rates⟩ := DefaultReserveInterestRateStrategy.calculateInterestRatesAfter_ok rates
  have idle := DefaultReserveInterestRateStrategy.liquidityRate_of_no_debt rates
  rw [run.result]
  exact ⟨⟨unborrowed.stable, unborrowed.floating, idle⟩, rfl, rfl, rfl, rfl⟩

theorem Unborrowed.idled (unborrowed : Unborrowed reserve)
    (accrue : reserve.updateState env.timestamp = .ok accrued)
    (rate : accrued.updateInterestRates env asset lTokenAddress added taken = .ok rated) :
    Idled reserve rated := by
  have idled := (unborrowed.poked accrue).updateInterestRates rate
  rw [unborrowed.updateState accrue] at idled
  exact ⟨idled.unborrowed, idled.lToken, idled.liquidityIndex, idled.lTokenAddress, idled.cash⟩

theorem Unborrowed.books (unborrowed : Unborrowed reserve) (books : SameBooks reserve after) :
    Unborrowed after := by
  constructor
  · rw [books.stable]
    exact unborrowed.stable
  · rw [books.floating]
    exact unborrowed.floating
  · rw [books.data]
    exact unborrowed.liquidityRate

theorem Unborrowed.normalizedIncome (unborrowed : Unborrowed reserve) (now : Nat) :
    reserve.normalizedIncome now = reserve.liquidityIndex := by
  rw [ReserveData.normalizedIncome]
  split_ifs
  · rfl
  · rw [unborrowed.liquidityRate]
    simp [Nat.mul_comm RAY, rayMul_RAY]

theorem Unborrowed.rests (unborrowed : Unborrowed reserve) (rests : Rests reserve after) :
    Unborrowed after := by
  obtain ⟨_, stable⟩ := rests.stable
  constructor
  · rw [stable]
    exact unborrowed.stable
  · rw [rests.floating]
    exact unborrowed.floating
  · rw [rests.data]
    exact unborrowed.liquidityRate

-- The reserve as a pool of shares: what is out on flash loans still belongs to its suppliers.
def sharePool (reserve : Reserve) (outstanding : Nat) : SharePool :=
  ⟨reserve.availableLiquidity + outstanding, reserve.lToken.base.totalSupply,
    reserve.liquidityIndex⟩

theorem Rests.sharePool (rests : Rests reserve after) (outstanding : Nat) :
    after.sharePool outstanding = reserve.sharePool outstanding := by
  rw [Reserve.sharePool, Reserve.sharePool, rests.cash, rests.supply, rests.data]

end Reserve

namespace LendingPool

variable {env : Env} {pool after : LendingPool} {msgSender asset : Address} {amount out : Nat}

theorem deposit_sharePool {onBehalfOf : Address} {accrued rated funded minted : Reserve}
    {first : Bool} {config : UserConfigurationMap}
    (unborrowed : (pool.reserves asset).Unborrowed)
    (apart : msgSender ≠ (pool.reserves asset).lTokenAddress)
    (run : Deposited env pool msgSender asset amount onBehalfOf accrued rated funded minted first
      config after) :
    (after.reserves asset).Unborrowed ∧ SharePool.Step RAY ((pool.reserves asset).sharePool out)
      (.join amount) ((after.reserves asset).sharePool out) := by
  have idled := unborrowed.idled run.accrue run.rate
  have fund := run.fund
  rw [← idled.lTokenAddress] at fund apart
  obtain ⟨books, lToken, cash⟩ := Reserve.transferUnderlyingFrom_cash apart fund
  obtain ⟨token, mint, shape⟩ := Reserve.mintLToken_ok run.mint
  have landed : after.reserves asset = { funded with lToken := token } := by
    rw [run.result, setUserConfig_reserves, setReserve_same, shape]
  have index : funded.liquidityIndex = (pool.reserves asset).liquidityIndex := by
    rw [books.data, idled.liquidityIndex]
  have supply := mint.totalSupply
  rw [lToken, idled.lToken, index] at supply
  rw [idled.cash] at cash
  have still := idled.unborrowed.books books
  rw [landed]
  refine ⟨⟨still.stable, still.floating, still.liquidityRate⟩, .join ?_ supply index⟩
  change funded.availableLiquidity + out = (pool.reserves asset).availableLiquidity + out + amount
  omega

theorem withdraw_sharePool {recipient : Address} {userBalance : Nat}
    {accrued rated burned : Reserve} {config : UserConfigurationMap}
    (unborrowed : (pool.reserves asset).Unborrowed)
    (run : Withdrawn env pool msgSender asset recipient amount userBalance accrued rated burned
      config after) :
    (after.reserves asset).Unborrowed ∧ SharePool.Step RAY ((pool.reserves asset).sharePool out)
      (if recipient = (pool.reserves asset).lTokenAddress then .forfeit amount else .leave amount)
      ((after.reserves asset).sharePool out) := by
  have idled := unborrowed.idled run.accrue run.rate
  obtain ⟨token, underlying, burnt, moved, shape⟩ := Reserve.burnLToken_ok run.burn
  have landed : after.reserves asset = burned := by
    rw [run.result, setUserConfig_reserves, setReserve_same]
  have supply := burnt.totalSupply
  rw [idled.lToken, idled.liquidityIndex] at supply
  have before : rated.underlying.balances rated.lTokenAddress =
      (pool.reserves asset).availableLiquidity := idled.cash
  have still := idled.unborrowed
  rw [landed, shape, ← idled.lTokenAddress]
  refine ⟨⟨still.stable, still.floating, still.liquidityRate⟩, ?_⟩
  split_ifs with inward
  · refine .forfeit ?_ supply idled.liquidityIndex
    obtain ⟨_, _, _, balances⟩ := ERC20.transfer_ok moved
    have balance := balances rated.lTokenAddress
    rw [inward] at balance
    change underlying.balances rated.lTokenAddress + out =
      (pool.reserves asset).availableLiquidity + out
    omega
  · refine .leave ?_ supply idled.liquidityIndex
    have left := Reserve.spent inward moved
    change underlying.balances rated.lTokenAddress + out + amount =
      (pool.reserves asset).availableLiquidity + out
    omega

theorem repaying_sharePool {receiverAddress : Address} {entry : FlashLoanEntry}
    {totalSupply : Nat} {accrued rated funded : Reserve} {data : ReserveData}
    (unborrowed : (pool.reserves entry.asset).Unborrowed)
    (address : entry.lTokenAddress = (pool.reserves entry.asset).lTokenAddress)
    (apart : receiverAddress ≠ (pool.reserves entry.asset).lTokenAddress)
    (run : Repaying env pool receiverAddress entry totalSupply accrued data rated funded after) :
    (after.reserves entry.asset).Unborrowed ∧
      SharePool.Step RAY ((pool.reserves entry.asset).sharePool (entry.amount + out))
        (.reward entry.premium) ((after.reserves entry.asset).sharePool out) := by
  have poked := unborrowed.poked run.accrue
  have accrue := unborrowed.updateState run.accrue
  obtain ⟨positive, index, priced, cumulated⟩ := ReserveData.cumulateToLiquidityIndex_ok run.income
  have rewarded : Reserve.Unborrowed { accrued with toReserveData := data } := by
    rw [cumulated]
    exact ⟨poked.stable, poked.floating, poked.liquidityRate⟩
  have idled := rewarded.updateInterestRates run.rate
  have kept : rated.lTokenAddress = (pool.reserves entry.asset).lTokenAddress := by
    rw [idled.lTokenAddress, cumulated, accrue]
  have before : rated.availableLiquidity = (pool.reserves entry.asset).availableLiquidity := by
    rw [idled.cash, cumulated, accrue]
    rfl
  obtain ⟨_, worth⟩ := Reserve.lTokenTotalSupply_ok run.supply
  have shown : totalSupply = ((pool.reserves entry.asset).sharePool out).worth RAY := by
    rw [worth, poked.normalizedIncome, accrue]
    rfl
  have fund := run.fund
  rw [address, ← kept] at fund
  rw [← kept] at apart
  obtain ⟨books, lToken, cash⟩ := Reserve.transferUnderlyingFrom_cash apart fund
  have landed : after.reserves entry.asset = funded := by rw [run.result, setReserve_same]
  have ratioPos : 0 < WAD_RAY_RATIO := by decide
  rw [Nat.mul_right_comm entry.premium, divHalfUp_scale (Nat.pos_of_ne_zero positive) ratioPos,
    shown] at priced
  rw [shown] at positive
  rw [landed]
  refine ⟨idled.unborrowed.books books, .reward positive ?_ ?_ ?_⟩
  · change funded.availableLiquidity + out =
      (pool.reserves entry.asset).availableLiquidity + (entry.amount + out) + entry.premium
    omega
  · change funded.lToken.base.totalSupply = (pool.reserves entry.asset).lToken.base.totalSupply
    rw [lToken, idled.lToken, accrue]
  · change funded.liquidityIndex = _
    rw [books.data, idled.liquidityIndex, cumulated, priced, accrue]
    rfl

end LendingPool

def Call.Supplies (asset : Address) : Call → Prop
  | .deposit _ _ _ | .withdraw _ _ _ => True
  | .rebalanceStableBorrowRate a _ => a ≠ asset
  | .liquidationCall collateralAsset debtAsset _ _ _ => collateralAsset ≠ asset ∧ debtAsset ≠ asset
  | made => made.Leaves asset

def Event.Supplies (asset : Address) : Event → Prop
  | .call _ made => made.Supplies asset
  | event => event.Leaves asset

namespace World

variable {world next : World} {asset msgSender : Address}

def sharePool (asset : Address) (world : World) : SharePool :=
  (world.pool.reserves asset).sharePool (world.outstanding asset)

def withdrawn (asset msgSender : Address) (amount : Nat) (world : World) : Nat :=
  if amount = maxUint256 then
    divHalfUp ((world.pool.reserves asset).lToken.base.balances msgSender *
      (world.pool.reserves asset).normalizedIncome world.env.timestamp) RAY
  else amount

def move (asset : Address) (world : World) : Event → SharePool.Move
  | .call _ (.deposit a amount _) => if a = asset then .join amount else .rest
  | .call msgSender (.withdraw a amount recipient) =>
    if a ≠ asset then .rest
    else if recipient = (world.pool.reserves asset).lTokenAddress then
      .forfeit (world.withdrawn asset msgSender amount)
    else .leave (world.withdrawn asset msgSender amount)
  | .settle =>
    match world.frames with
    | [] => .rest
    | frame :: _ =>
      match frame.pending with
      | [] => .rest
      | entry :: _ => if entry.asset = asset then .reward entry.premium else .rest
  | .ledger a underlying =>
    if a = asset then .gift (underlying.balances (world.pool.reserves asset).lTokenAddress -
      (world.pool.reserves asset).availableLiquidity)
    else .rest
  | _ => .rest

structure Debtless (asset : Address) (world : World) : Prop where
  listed : (world.pool.reserves asset).lTokenAddress ≠ 0
  unborrowed : (world.pool.reserves asset).Unborrowed
  modes : ∀ frame ∈ world.frames, ∀ entry ∈ frame.pending, entry.asset = asset →
    entry.mode = some 0

theorem move_rests (rests : Reserve.Rests (world.pool.reserves asset) (next.pool.reserves asset))
    (frames : next.frames = world.frames) : next.sharePool asset = world.sharePool asset := by
  rw [sharePool, sharePool, outstanding, outstanding, frames, rests.sharePool]

theorem Debtless.call {made : Call} {pool : LendingPool} (registered : world.pool.Registered)
    (debtless : Debtless asset world) (supplies : made.Supplies asset)
    (outside : ¬world.pool.IsProtocol msgSender)
    (executed : made.execute world.env world.pool msgSender = .ok pool) :
    (pool.reserves asset).Unborrowed ∧ SharePool.Step RAY (world.sharePool asset)
      (world.move asset (.call msgSender made)) ((world.withPool pool).sharePool asset) := by
  have resting : made.Leaves asset → (∀ user, made ≠ .rebalanceStableBorrowRate asset user) →
      world.move asset (.call msgSender made) = .rest →
      (pool.reserves asset).Unborrowed ∧ SharePool.Step RAY (world.sharePool asset)
        (world.move asset (.call msgSender made)) ((world.withPool pool).sharePool asset) := by
    intro leaves idle still
    have rests := Call.execute_rests leaves idle executed
    have same : (world.withPool pool).sharePool asset = world.sharePool asset :=
      move_rests rests rfl
    rw [still]
    exact ⟨debtless.unborrowed.rests rests, .rest same⟩
  cases made with
  | deposit a amount onBehalfOf =>
      by_cases same : a = asset
      · subst same
        obtain ⟨_, _, _, _, _, _, run⟩ := deposit_ok executed
        rw [move, if_pos rfl]
        exact deposit_sharePool debtless.unborrowed (registered.apart outside a debtless.listed) run
      · exact resting same (by simp) (by rw [move, if_neg same])
  | withdraw a amount recipient =>
      by_cases same : a = asset
      · subst same
        simp only [Call.execute, bind_eq_ok, Prod.exists, pure_eq_ok] at executed
        obtain ⟨_, taken, executed, rfl⟩ := executed
        obtain ⟨userBalance, _, _, _, _, shape, run⟩ := withdraw_ok executed
        obtain ⟨_, balance⟩ := Reserve.lTokenBalanceOf_ok run.balance
        have amounts : taken = world.withdrawn a msgSender amount := by
          rw [shape, withdrawn, balance]
        rw [amounts] at run
        rw [move, if_neg (not_not.2 rfl)]
        exact withdraw_sharePool debtless.unborrowed run
      · exact resting same (by simp) (by rw [move, if_pos same])
  | rebalanceStableBorrowRate a user =>
      refine resting trivial ?_ rfl
      rintro user' shape
      cases shape
      exact supplies rfl
  | liquidationCall =>
      obtain ⟨collateral, debt⟩ := supplies
      exact resting ⟨debt, fun same => absurd same collateral⟩ (by simp) rfl
  | borrow | repay | swapBorrowRateMode => exact resting supplies (by simp) rfl
  | setUserUseReserveAsCollateral | transfer | transferFrom | approve | increaseAllowance
  | decreaseAllowance | approveStableDelegation | approveVariableDelegation =>
      exact resting trivial (by simp) rfl

theorem Debtless.settle {frame : Frame} {rest : List Frame} {entry : FlashLoanEntry}
    {pending : List FlashLoanEntry} {pool : LendingPool} (sound : world.FramesSound)
    (debtless : Debtless asset world)
    (run : Settled world frame rest entry pending pool next) :
    (next.pool.reserves asset).Unborrowed ∧ SharePool.Step RAY (world.sharePool asset)
      (world.move asset .settle) (next.sharePool asset) := by
  have member : frame ∈ world.frames := by simp [run.stack]
  have waiting : entry ∈ frame.pending := by simp [run.queue]
  obtain ⟨_, address, apart⟩ := sound frame member entry waiting
  have out : world.outstanding asset = LendingPool.outstanding asset frame.pending +
      (rest.map fun frame => LendingPool.outstanding asset frame.pending).sum :=
    outstanding_cons run.stack
  rw [run.queue] at out
  have shape := run.result
  subst shape
  simp only [move, run.stack, run.queue]
  by_cases same : entry.asset = asset
  · subst same
    obtain ⟨rateMode, mode, entered, chosen, settled⟩ := settleFlashLoan_ok run.settle
    have zero := debtless.modes frame member entry waiting rfl
    rw [entered] at zero
    cases zero
    cases chosen
    rcases settled with ⟨_, _, _, _, _, _, repaid⟩ | ⟨borrows, _⟩
    · rw [LendingPool.outstanding, if_pos rfl, Nat.add_assoc] at out
      rw [if_pos rfl, sharePool, out, sharePool, outstanding_cons rfl]
      exact repaying_sharePool debtless.unborrowed address apart repaid
    · exact absurd rfl borrows
  · have untouched := settleFlashLoan_other (Ne.symm same) run.settle
    rw [LendingPool.outstanding, if_neg same, Nat.zero_add] at out
    rw [if_neg same, sharePool, out, sharePool, outstanding_cons rfl]
    dsimp only
    rw [untouched]
    exact ⟨debtless.unborrowed, .rest rfl⟩

theorem Debtless.flashLoan {receiverAddress onBehalfOf : Address} {assets : List Address}
    {amounts modes : List Nat} {pool : LendingPool} {pending : List FlashLoanEntry}
    (registered : world.pool.Registered) (debtless : Debtless asset world)
    (run : Lent world msgSender receiverAddress assets amounts modes onBehalfOf pool pending next) :
    (next.pool.reserves asset).Unborrowed ∧ next.sharePool asset = world.sharePool asset := by
  have apart := registered.apart run.receiver asset debtless.listed
  obtain ⟨books, lToken, cash⟩ := openFlashLoan_reserve apart run.opened
  have shape := run.result
  subst shape
  refine ⟨debtless.unborrowed.books books, ?_⟩
  rw [sharePool, sharePool, Reserve.sharePool, Reserve.sharePool, outstanding_cons rfl, outstanding,
    ← cash]
  dsimp only
  rw [lToken, books.data, Nat.add_assoc]

-- One case for each event; the moves of the pool of shares are what the events come to.
theorem Debtless.move {event : Event} (registered : world.pool.Registered)
    (sound : world.FramesSound) (debtless : Debtless asset world) (supplies : event.Supplies asset)
    (taken : world.step event = .ok next) :
    (next.pool.reserves asset).Unborrowed ∧ SharePool.Step RAY (world.sharePool asset)
      (world.move asset event) (next.sharePool asset) := by
  cases event with
  | call msgSender made =>
      obtain ⟨_, outside, pool, executed, rfl⟩ := step_call taken
      exact debtless.call registered supplies outside executed
  | admin =>
      obtain ⟨pool, administered, rfl⟩ := step_admin taken
      obtain ⟨configuration, strategy, shape⟩ :=
        administered_listed registered debtless.listed administered
      have still := debtless.unborrowed
      simp only [withPool, World.sharePool, World.move, shape]
      exact ⟨⟨still.stable, still.floating, still.liquidityRate⟩, .rest rfl⟩
  | flashLoan =>
      obtain ⟨pool, pending, run⟩ := step_flashLoan taken
      obtain ⟨still, same⟩ := debtless.flashLoan registered run
      exact ⟨still, .rest same⟩
  | executed =>
      obtain ⟨frame, rest, stack, _, rfl⟩ := step_executed taken
      refine ⟨debtless.unborrowed, .rest ?_⟩
      rw [World.sharePool, World.sharePool, outstanding_cons stack, outstanding_cons rfl]
  | settle =>
      obtain ⟨_, _, _, _, _, run⟩ := step_settle taken
      exact debtless.settle sound run
  | finish =>
      obtain ⟨frame, rest, stack, empty, rfl⟩ := step_finish taken
      refine ⟨debtless.unborrowed, .rest ?_⟩
      rw [World.sharePool, World.sharePool, outstanding_cons stack, empty, LendingPool.outstanding,
        Nat.zero_add, outstanding]
  | ledger changed underlying =>
      obtain ⟨kept, rfl⟩ := step_ledger taken
      have still := debtless.unborrowed
      by_cases same : changed = asset
      · subst same
        simp only [withPool, World.sharePool, World.move, setReserve_same, if_pos]
        refine ⟨⟨still.stable, still.floating, still.liquidityRate⟩, .gift ?_ rfl rfl⟩
        change underlying.balances (world.pool.reserves changed).lTokenAddress + _ =
          (world.pool.reserves changed).availableLiquidity + _ + _
        dsimp only [outstanding]
        omega
      · simp only [withPool, World.sharePool, World.move, setReserve_other (Ne.symm same), if_neg same]
        exact ⟨still, .rest rfl⟩
  | observe =>
      obtain ⟨_, _, rfl⟩ := step_observe taken
      exact ⟨debtless.unborrowed, .rest rfl⟩

theorem modes_step {event : Event} (leaves : event.Supplies asset)
    (modes : ∀ frame ∈ world.frames, ∀ entry ∈ frame.pending, entry.asset = asset →
      entry.mode = some 0)
    (taken : world.step event = .ok next) :
    ∀ frame ∈ next.frames, ∀ entry ∈ frame.pending, entry.asset = asset →
      entry.mode = some 0 := by
  cases event with
  | call =>
      obtain ⟨_, _, _, _, rfl⟩ := step_call taken
      exact modes
  | admin =>
      obtain ⟨_, _, rfl⟩ := step_admin taken
      exact modes
  | flashLoan =>
      obtain ⟨pool, pending, run⟩ := step_flashLoan taken
      obtain ⟨requested, _⟩ := openFlashLoan_entries run.opened
      rw [run.result]
      intro frame member entry waiting named
      rcases List.mem_cons.1 member with rfl | member
      · refine leaves (entry.asset, entry.amount, entry.mode) ?_ named
        rw [← requested]
        exact List.mem_map_of_mem waiting
      · exact modes frame member entry waiting named
  | executed =>
      obtain ⟨frame, rest, stack, _, rfl⟩ := step_executed taken
      intro frame' member
      rcases List.mem_cons.1 member with rfl | member
      · exact modes frame (by simp [stack])
      · exact modes frame' (by simp [stack, member])
  | settle =>
      obtain ⟨frame, rest, settled, pending, pool, run⟩ := step_settle taken
      rw [run.result]
      intro frame' member entry waiting
      rcases List.mem_cons.1 member with rfl | member
      · refine modes frame (by simp [run.stack]) entry ?_
        rw [run.queue]
        exact List.mem_cons_of_mem _ waiting
      · exact modes frame' (by simp [run.stack, member]) entry waiting
  | finish =>
      obtain ⟨frame, rest, stack, _, rfl⟩ := step_finish taken
      exact fun frame' member => modes frame' (by simp [stack, member])
  | ledger =>
      obtain ⟨_, rfl⟩ := step_ledger taken
      exact modes
  | observe =>
      obtain ⟨_, _, rfl⟩ := step_observe taken
      exact modes

structure Supplying (asset : Address) (world : World) : Prop where
  registered : world.pool.Registered
  sound : world.FramesSound
  debtless : Debtless asset world
  priced : RAY ≤ (world.pool.reserves asset).liquidityIndex

theorem Supplying.move {event : Event} (supplying : Supplying asset world)
    (supplies : event.Supplies asset) (taken : world.step event = .ok next) :
    SharePool.Step RAY (world.sharePool asset) (world.move asset event) (next.sharePool asset) :=
  (supplying.debtless.move supplying.registered supplying.sound supplies taken).2

theorem Supplying.step {event : Event} (supplying : Supplying asset world)
    (supplies : event.Supplies asset) (taken : world.step event = .ok next) :
    Supplying asset next where
  registered := registered_step supplying.registered taken
  sound := framesSound_step supplying.registered supplying.sound taken
  debtless := {
    listed := by
      rw [step_address supplying.registered supplying.debtless.listed taken]
      exact supplying.debtless.listed
    unborrowed :=
      (supplying.debtless.move supplying.registered supplying.sound supplies taken).1
    modes := modes_step supplies supplying.debtless.modes taken }
  priced := le_trans supplying.priced ((supplying.move supplies taken).price_le RAY_pos)

def slack (asset : Address) (world : World) (event : Event) : Nat :=
  SharePool.slack RAY (world.sharePool asset) (world.move asset event)

def paidIn (asset : Address) (world : World) (event : Event) : Nat :=
  (world.move asset event).paid

def takenOut (asset : Address) (world : World) (event : Event) : Nat :=
  (world.move asset event).taken

structure Fresh (asset : Address) (world : World) : Prop where
  between : world.frames = []
  listed : (world.pool.reserves asset).lTokenAddress ≠ 0
  liquidityIndex : (world.pool.reserves asset).liquidityIndex = RAY
  unsupplied : (world.pool.reserves asset).lToken.base.totalSupply = 0
  unborrowed : (world.pool.reserves asset).Unborrowed
  unfunded : (world.pool.reserves asset).availableLiquidity = 0

theorem Fresh.supplying (reached : world.Reachable) (fresh : Fresh asset world) :
    Supplying asset world where
  registered := reached.registered
  sound := reached.framesSound
  debtless := {
    listed := fresh.listed
    unborrowed := fresh.unborrowed
    modes := by
      rw [fresh.between]
      simp }
  priced := by rw [fresh.liquidityIndex]

theorem Fresh.sharePool (fresh : Fresh asset world) : world.sharePool asset = ⟨0, 0, RAY⟩ := by
  rw [World.sharePool, Reserve.sharePool, fresh.unfunded, fresh.unsupplied, fresh.liquidityIndex,
    outstanding, fresh.between]
  rfl

variable {events : List Event} {final : World}

theorem Supplying.run (supplying : Supplying asset world)
    (supplies : ∀ event ∈ events, event.Supplies asset)
    (ran : Runs.run World.step world events = .ok final) : Supplying asset final := by
  refine Runs.run_invariant_of (Supplying asset) (fun _ event => event.Supplies asset) ?_ supplying
    ?_ ran
  · exact fun _ _ _ still supplies taken => still.step supplies taken
  · exact fun _ event _ _ split _ => supplies event (by simp [split])

theorem Supplying.run_excess (supplying : Supplying asset world)
    (supplies : ∀ event ∈ events, event.Supplies asset)
    (ran : Runs.run World.step world events = .ok final) :
    (final.sharePool asset).excess RAY ≤ (world.sharePool asset).excess RAY +
      Runs.cost World.step (slack asset) world events := by
  have account : (final.sharePool asset).excess RAY +
      Runs.cost World.step (fun _ _ => 0) world events ≤ (world.sharePool asset).excess RAY +
        Runs.cost World.step (slack asset) world events :=
    Runs.run_account (Supplying asset) (fun event => event.Supplies asset)
      (slack asset) (fun _ _ => 0) (fun w => (w.sharePool asset).excess RAY)
      (fun _ _ _ still supplies taken => still.step supplies taken)
      (fun s event s' still supplies taken => by
        have priced : 0 < (s.sharePool asset).price := Nat.lt_of_lt_of_le RAY_pos still.priced
        have moved := (still.move supplies taken).excess_le RAY_pos priced
        rw [slack]
        push_cast
        omega)
      supplying supplies ran
  rw [Runs.cost_zero] at account
  push_cast at account
  omega

theorem Supplying.run_assets (supplying : Supplying asset world)
    (supplies : ∀ event ∈ events, event.Supplies asset)
    (ran : Runs.run World.step world events = .ok final) :
    (final.sharePool asset).assets + Runs.cost World.step (takenOut asset) world events ≤
      (world.sharePool asset).assets + Runs.cost World.step (paidIn asset) world events := by
  have account : ((final.sharePool asset).assets : Int) +
      Runs.cost World.step (takenOut asset) world events ≤ (world.sharePool asset).assets +
        Runs.cost World.step (paidIn asset) world events :=
    Runs.run_account (Supplying asset) (fun event => event.Supplies asset)
      (paidIn asset) (takenOut asset) (fun w => ((w.sharePool asset).assets : Int))
      (fun _ _ _ still supplies taken => still.step supplies taken)
      (fun s event s' still supplies taken => by
        have moved := (still.move supplies taken).assets
        rw [takenOut, paidIn]
        omega)
      supplying supplies ran
  omega

-- At par there is one share for each asset, and a price that left par does not come back.
theorem Supplying.run_par (supplying : Supplying asset world)
    (supplies : ∀ event ∈ events, event.Supplies asset)
    (covered : (world.sharePool asset).shares ≤ (world.sharePool asset).assets)
    (ran : Runs.run World.step world events = .ok final)
    (par : (final.sharePool asset).price = RAY) :
    (final.sharePool asset).shares ≤ (final.sharePool asset).assets := by
  induction events generalizing world with
  | nil =>
      cases ran
      exact covered
  | cons event rest ih =>
      obtain ⟨middle, taken, later⟩ := Runs.run_cons_ok.1 ran
      have here := supplies event (List.mem_cons_self ..)
      have next := supplying.step here taken
      have there : ∀ event ∈ rest, event.Supplies asset :=
        fun event member => supplies event (List.mem_cons_of_mem _ member)
      apply ih next there _ later
      have moved := supplying.move here taken
      have middlePar : (middle.sharePool asset).price = RAY := by
        have grown : (middle.sharePool asset).price ≤ (final.sharePool asset).price := by
          refine Runs.run_invariant_of
            (fun w => Supplying asset w ∧ (middle.sharePool asset).price ≤ (w.sharePool asset).price)
            (fun _ event => event.Supplies asset) ?_ ⟨next, le_refl _⟩ ?_ later |>.2
          · exact fun _ _ _ still supplies taken => ⟨still.1.step supplies taken,
              le_trans still.2 ((still.1.move supplies taken).price_le RAY_pos)⟩
          · exact fun _ event _ _ split _ => there event (by simp [split])
        have bound : RAY ≤ (middle.sharePool asset).price := next.priced
        omega
      have members := moved.par RAY_pos supplying.priced middlePar
      have assets := moved.assets
      omega

/-- Without borrowers the lTokens are worth no more than the cash, what is out on loan and the
rounding of the moves that were made; not even that while no premium was paid out. -/
theorem Reachable.supply_backed {supply : Nat} (reached : world.Reachable)
    (fresh : Fresh asset world) (supplies : ∀ event ∈ events, event.Supplies asset)
    (ran : Runs.run World.step world events = .ok final)
    (shown : (final.pool.reserves asset).lTokenTotalSupply final.env.timestamp = .ok supply) :
    2 * (RAY * supply) ≤ 2 * (RAY * ((final.pool.reserves asset).availableLiquidity +
        final.outstanding asset)) + RAY + Runs.cost World.step (slack asset) world events ∧
      ((final.pool.reserves asset).liquidityIndex = RAY →
        supply ≤ (final.pool.reserves asset).availableLiquidity + final.outstanding asset) ∧
      Runs.cost World.step (takenOut asset) world events ≤
        Runs.cost World.step (paidIn asset) world events := by
  have supplying := fresh.supplying reached
  have last := supplying.run supplies ran
  have excess := supplying.run_excess supplies ran
  have assets := supplying.run_assets supplies ran
  obtain ⟨_, viewed⟩ := Reserve.lTokenTotalSupply_ok shown
  rw [last.debtless.unborrowed.normalizedIncome] at viewed
  have worth : supply = (final.sharePool asset).worth RAY := viewed
  rw [fresh.sharePool] at excess assets
  refine ⟨?_, fun par => ?_, ?_⟩
  · have bound := SharePool.worth_le RAY_pos (final.sharePool asset)
    have none : (SharePool.excess RAY ⟨0, 0, RAY⟩) = 0 := by simp [SharePool.excess]
    have shape : (final.sharePool asset).assets =
      (final.pool.reserves asset).availableLiquidity + final.outstanding asset := rfl
    rw [worth, ← shape]
    omega
  · have covered := supplying.run_par supplies (by rw [fresh.sharePool]) ran par
    rw [viewed, par, rayMul_RAY]
    exact covered
  · have start : (SharePool.mk 0 0 RAY).assets = 0 := rfl
    omega

-- The premium of one unit lifts the index off par; then every deposit may round up.
def rewarded : List Event :=
  .call 100 (.deposit 10 1113 100) :: .flashLoan 102 103 [10] [1112] [0] 102 :: settlement 1 ++
    [.call 101 (.deposit 10 557 101)]

theorem rewarded_supplies : ∀ event ∈ rewarded, event.Supplies 10 := by
  intro event member
  simp only [rewarded, settlement, List.replicate, List.cons_append, List.nil_append, List.mem_cons,
    List.not_mem_nil, or_false] at member
  rcases member with rfl | rfl | rfl | rfl | rfl | rfl
  case inr.inl => simp [Event.Supplies, Event.Leaves, flashLoanRequests]
  all_goals exact trivial

def isFresh (asset : Address) (world : World) : Bool :=
  let reserve := world.pool.reserves asset
  world.frames.isEmpty && (reserve.lTokenAddress ≠ 0 ∧ reserve.liquidityIndex = RAY ∧
    reserve.lToken.base.totalSupply = 0 ∧ reserve.stableDebtToken.base.totalSupply = 0 ∧
    reserve.variableDebtToken.base.totalSupply = 0 ∧ reserve.currentLiquidityRate = 0 ∧
    reserve.availableLiquidity = 0)

theorem fresh_of_isFresh (tested : isFresh asset world = true) : Fresh asset world := by
  obtain ⟨quiet, facts⟩ := (Bool.and_eq_true _ _).mp tested
  obtain ⟨listed, liquidityIndex, unsupplied, stable, floating, idle, unfunded⟩ :=
    of_decide_eq_true facts
  exact ⟨List.isEmpty_iff.1 quiet, listed, liquidityIndex, unsupplied, ⟨stable, floating, idle⟩,
    unfunded⟩

theorem supply_backed_rewarded :
    ∃ world final : World, ∃ supply,
      Runs.run World.step Market.start (Market.opening 10 Market.strategy) = .ok world ∧
      Runs.run World.step world rewarded = .ok final ∧
      (final.pool.reserves 10).lTokenTotalSupply final.env.timestamp = .ok supply ∧
      2 * (RAY * supply) ≤ 2 * (RAY * ((final.pool.reserves 10).availableLiquidity +
        final.outstanding 10)) + RAY + Runs.cost World.step (slack 10) world rewarded := by
  have outcome : yields (Runs.run World.step Market.start (Market.opening 10 Market.strategy))
      (fun world => isFresh 10 world && yields (Runs.run World.step world rewarded) (fun final =>
        yields ((final.pool.reserves 10).lTokenTotalSupply final.env.timestamp)
          (fun _ => true))) := by
    decide +kernel
  obtain ⟨world, opened, later⟩ := yields_iff.1 outcome
  obtain ⟨fresh, later⟩ := (Bool.and_eq_true _ _).mp later
  obtain ⟨final, ran, later⟩ := yields_iff.1 later
  obtain ⟨supply, shown, _⟩ := yields_iff.1 later
  exact ⟨world, final, supply, opened, ran, shown,
    (Reachable.supply_backed (Market.reachable_of_run opened) (fresh_of_isFresh fresh)
      rewarded_supplies ran shown).1⟩

-- Two roundings in the suppliers' favour, and their lTokens come to more than there is.
theorem supply_exceeds_rewarded :
    ¬∀ (world final : World) (asset : Address) (events : List Event) (supply : Nat),
      world.Reachable → Fresh asset world → (∀ event ∈ events, event.Supplies asset) →
      Runs.run World.step world events = .ok final → final.frames = [] →
      (final.pool.reserves asset).lTokenTotalSupply final.env.timestamp = .ok supply →
      supply ≤ (final.pool.reserves asset).availableLiquidity := by
  intro every
  have outcome : yields (Runs.run World.step Market.start (Market.opening 10 Market.strategy))
      (fun world => isFresh 10 world && yields (Runs.run World.step world rewarded) (fun final =>
        final.frames.isEmpty &&
          yields ((final.pool.reserves 10).lTokenTotalSupply final.env.timestamp) (fun supply =>
            ¬supply ≤ (final.pool.reserves 10).availableLiquidity))) := by
    decide +kernel
  obtain ⟨world, opened, later⟩ := yields_iff.1 outcome
  obtain ⟨fresh, later⟩ := (Bool.and_eq_true _ _).mp later
  obtain ⟨final, ran, later⟩ := yields_iff.1 later
  obtain ⟨done, later⟩ := (Bool.and_eq_true _ _).mp later
  obtain ⟨supply, shown, beyond⟩ := yields_iff.1 later
  exact of_decide_eq_true beyond (every world final 10 rewarded supply
    (Market.reachable_of_run opened) (fresh_of_isFresh fresh) rewarded_supplies ran
    (List.isEmpty_iff.1 done) shown)

end World

end PalmyProtocol
