import PalmyProtocol.Misc.WETHGateway
import PalmyProtocol.Pool.ReserveCash
import PalmyProtocol.System.DebtlessTransfers

set_option autoImplicit false

namespace PalmyProtocol

open Checked Rounding

structure LToken.Held (token lToken : LToken) (holder : Address) : Prop where
  totalSupply : lToken.base.totalSupply = token.base.totalSupply
  treasury : lToken.treasury = token.treasury
  others : ∀ a, a ≠ holder → lToken.base.balances a ≤ token.base.balances a

namespace ERC20

variable {token other after : ERC20} {account holder : Address} {amount : Nat}

theorem mint_elsewhere (supply : other.totalSupply = token.totalSupply)
    (less : other.balances account ≤ token.balances account)
    (computed : token.mint account amount = .ok after) :
    ∃ after', other.mint account amount = .ok after' ∧ after'.totalSupply = after.totalSupply ∧
      ∀ a, a ≠ account → after'.balances a = other.balances a := by
  simp only [mint, bind_eq_ok, require_eq_ok, exists_const, SafeMath.add_eq_ok,
    pure_eq_ok] at computed ⊢
  obtain ⟨given, _, ⟨fits, rfl⟩, _, ⟨held, rfl⟩, rfl⟩ := computed
  rw [← supply] at fits ⊢
  refine ⟨_, ⟨given, _, ⟨fits, rfl⟩, _, ⟨by omega, rfl⟩, rfl⟩, rfl, fun a different => ?_⟩
  simp only [Function.update_of_ne different]

theorem burn_whole (supply : other.totalSupply = token.totalSupply) (given : holder ≠ 0)
    (computed : token.burn account amount = .ok after) (held : other.balances holder = amount) :
    ∃ after', other.burn holder amount = .ok after' ∧ after'.balances holder = 0 := by
  simp only [burn, bind_eq_ok, require_eq_ok, exists_const, SafeMath.sub_eq_ok,
    SafeMath.subOr_eq_ok, pure_eq_ok] at computed ⊢
  obtain ⟨_, _, ⟨supplied, rfl⟩, _⟩ := computed
  rw [← supply] at supplied
  refine ⟨_, ⟨given, _, ⟨supplied, rfl⟩, _, ⟨le_of_eq held.symm, rfl⟩, rfl⟩, ?_⟩
  simp only [Function.update_self, held, Nat.sub_self]

end ERC20

theorem LToken.mintToTreasury_held {token lToken minted : LToken} {holder : Address}
    {amount index : Nat} (held : LToken.Held token lToken holder) (apart : holder ≠ token.treasury)
    (computed : token.mintToTreasury amount index = .ok minted) :
    ∃ minted', lToken.mintToTreasury amount index = .ok minted' ∧
      minted'.base.totalSupply = minted.base.totalSupply ∧
      minted'.base.balances holder = lToken.base.balances holder := by
  simp only [LToken.mintToTreasury] at computed ⊢
  split_ifs at computed ⊢ with none
  · cases computed
    exact ⟨lToken, rfl, held.totalSupply, rfl⟩
  · simp only [bind_eq_ok, pure_eq_ok] at computed ⊢
    obtain ⟨scaled, scales, base, mint, rfl⟩ := computed
    rw [← held.treasury] at mint apart
    have less := held.others lToken.treasury (Ne.symm apart)
    obtain ⟨base', mint', supply, others⟩ := ERC20.mint_elsewhere held.totalSupply less mint
    exact ⟨{ lToken with base := base' }, ⟨scaled, scales, base', mint', rfl⟩, supply,
      others holder apart⟩

namespace Reserve

variable {env : Env} {reserve accrued rated : Reserve} {lToken : LToken}
variable {asset lTokenAddress holder : Address} {now added taken : Nat}

theorem mintToTreasury_held {scaled previous liquidity variableIndex timestamp : Nat}
    {minted : LToken} (held : LToken.Held reserve.lToken lToken holder)
    (apart : holder ≠ reserve.lToken.treasury)
    (computed : reserve.mintToTreasury now scaled previous liquidity variableIndex timestamp =
      .ok minted) :
    ∃ minted', Reserve.mintToTreasury { reserve with lToken } now scaled previous liquidity
        variableIndex timestamp = .ok minted' ∧
      minted'.base.totalSupply = minted.base.totalSupply ∧
      minted'.base.balances holder = lToken.base.balances holder := by
  have debts : Reserve.accruedDebt { reserve with lToken } now scaled previous variableIndex
      timestamp = reserve.accruedDebt now scaled previous variableIndex timestamp := rfl
  simp only [mintToTreasury, debts] at computed ⊢
  split_ifs at computed ⊢ with untaxed
  · cases computed
    exact ⟨lToken, rfl, held.totalSupply, rfl⟩
  · simp only [bind_eq_ok] at computed ⊢
    obtain ⟨accrued, owed, amount, share, computed⟩ := computed
    split_ifs at computed with some
    · obtain ⟨minted', mint, supply, kept⟩ := LToken.mintToTreasury_held held apart computed
      exact ⟨minted', ⟨accrued, owed, amount, share, by rw [if_pos some]; exact mint⟩, supply, kept⟩
    · cases computed
      exact ⟨lToken, ⟨accrued, owed, amount, share, by rw [if_neg some]; rfl⟩, held.totalSupply, rfl⟩

theorem updateState_held (held : LToken.Held reserve.lToken lToken holder)
    (apart : holder ≠ reserve.lToken.treasury) (computed : reserve.updateState now = .ok accrued) :
    ∃ minted, Reserve.updateState { reserve with lToken } now =
        .ok { accrued with lToken := minted } ∧
      minted.base.totalSupply = accrued.lToken.base.totalSupply ∧
      minted.base.balances holder = lToken.base.balances holder := by
  simp only [updateState, bind_eq_ok, require_eq_ok, exists_const, Prod.exists,
    pure_eq_ok] at computed ⊢
  obtain ⟨listed, liquidityIndex, variableBorrowIndex, data, indexes, minted, mint, rfl⟩ := computed
  obtain ⟨minted', mint', supply, kept⟩ := mintToTreasury_held held apart mint
  exact ⟨minted', ⟨listed, liquidityIndex, variableBorrowIndex, data, indexes, minted', mint', rfl⟩,
    supply, kept⟩

theorem updateInterestRates_held (lToken : LToken)
    (computed : reserve.updateInterestRates env asset lTokenAddress added taken = .ok rated) :
    Reserve.updateInterestRates { reserve with lToken } env asset lTokenAddress added taken =
      .ok { rated with lToken } := by
  simp only [updateInterestRates, bind_eq_ok, Prod.exists] at computed ⊢
  obtain ⟨stable, average, viewed, floating, owed, rates⟩ := computed
  refine ⟨stable, average, viewed, floating, owed, ?_⟩
  cases chosen : reserve.interestRateStrategyAddress with
  | none => simp [chosen] at rates
  | some strategy =>
      simp only [chosen, bind_eq_ok, Prod.exists, require_eq_ok, exists_const, pure_eq_ok] at rates ⊢
      obtain ⟨liquidityRate, stableRate, variableRate, calculated, first, second, third, rfl⟩ :=
        rates
      exact ⟨liquidityRate, stableRate, variableRate, calculated, first, second, third, rfl⟩

theorem burnLToken_held {user recipient : Address} {amount : Nat} {burned : Reserve}
    (supply : lToken.base.totalSupply = reserve.lToken.base.totalSupply) (given : holder ≠ 0)
    (whole : lToken.base.balances holder = divHalfUp (amount * RAY) reserve.liquidityIndex)
    (computed : reserve.burnLToken user recipient amount = .ok burned) :
    ∃ emptied, Reserve.burnLToken { reserve with lToken } holder recipient amount =
        .ok { burned with lToken := emptied } ∧ emptied.base.balances holder = 0 := by
  simp only [burnLToken, LToken.burn, bind_eq_ok, require_eq_ok, exists_const,
    pure_eq_ok] at computed ⊢
  obtain ⟨_, ⟨scaled, scales, nonzero, base, burn, rfl⟩, underlying, moved, rfl⟩ := computed
  rw [(rayDiv_ok scales).2] at whole
  obtain ⟨base', burn', none⟩ := ERC20.burn_whole supply given burn whole
  exact ⟨{ lToken with base := base' }, ⟨_, ⟨scaled, scales, nonzero, base', burn', rfl⟩, underlying,
    moved, rfl⟩, none⟩

end Reserve

namespace LendingPool

variable {env : Env} {pool after later : LendingPool} {lToken : LToken}
variable {asset user holder recipient : Address} {amount withdrawn : Nat}

def readBack (env : Env) (pool : LendingPool) (asset : Address) (amount : Nat) : Nat :=
  divHalfUp (divHalfUp (amount * RAY) ((pool.reserves asset).normalizedIncome env.timestamp) *
    (pool.reserves asset).normalizedIncome env.timestamp) RAY

-- Scaling the largest word overflows, so nobody burns shares for it.
theorem lt_of_rayDiv {index scaled : Nat} (computed : rayDiv amount index = .ok scaled) :
    amount < maxUint256 := by
  simp only [rayDiv, divRounded, bind_eq_ok, require_eq_ok, exists_const] at computed
  obtain ⟨_, guard, _⟩ := computed
  have small : (maxUint256 - index / 2) / RAY ≤ maxUint256 / RAY :=
    Nat.div_le_div_right (Nat.sub_le _ _)
  have below : maxUint256 / RAY < maxUint256 := by decide
  omega

theorem Withdrawn.index {userBalance : Nat} {accrued rated burned : Reserve}
    {config : UserConfigurationMap}
    (run : Withdrawn env pool user asset recipient amount userBalance accrued rated burned config
      later) : rated.liquidityIndex = (pool.reserves asset).normalizedIncome env.timestamp := by
  obtain ⟨_, _, _, accrual⟩ := Reserve.updateState_ok run.accrue
  obtain ⟨_, _, _, _, rating⟩ := Reserve.updateInterestRates_ok run.rate
  rw [rating.result, accrual.result]
  exact accrual.liquidity.trans (ReserveData.accruedLiquidityIndex_eq env.timestamp_lt)

theorem HandedOver.held (handed : HandedOver env pool asset holder amount lToken after) :
    LToken.Held (pool.reserves asset).lToken lToken holder :=
  ⟨handed.totalSupply, handed.treasury, handed.others⟩

theorem HandedOver.clear (handed : HandedOver env pool asset holder amount lToken after)
    (clear : (pool.usersConfig holder).isBorrowingAny = false) :
    (after.usersConfig holder).isBorrowingAny = false := by
  rw [← Bool.not_eq_true, UserConfigurationMap.isBorrowingAny_iff] at clear ⊢
  simpa only [handed.borrows] using clear

theorem HandedOver.balance (handed : HandedOver env pool asset holder amount lToken after)
    (listed : (pool.reserves asset).lTokenAddress ≠ 0) {income : Nat}
    (answered : (pool.reserves asset).getNormalizedIncome env.timestamp = .ok income)
    (fits : divHalfUp (amount * RAY) income * income + halfRAY ≤ maxUint256) :
    (after.reserves asset).lTokenBalanceOf env.timestamp holder =
      .ok (readBack env pool asset amount) := by
  obtain ⟨rfl, _⟩ := ReserveData.getNormalizedIncome_ok answered
  rw [handed.reserve]
  simp only [Reserve.lTokenBalanceOf, LToken.balanceOf, bind_eq_ok, require_eq_ok, exists_const,
    rayMul_eq_ok, handed.received]
  exact ⟨listed, _, answered, fits, rfl⟩

theorem handed_covered
    (read : (after.reserves asset).lTokenBalanceOf env.timestamp holder =
      .ok (readBack env pool asset amount)) (explicit : amount ≠ maxUint256)
    (computed : after.withdraw env holder asset amount recipient = .ok (later, withdrawn)) :
    amount ≤ readBack env pool asset amount := by
  obtain ⟨_, _, _, _, _, rfl, run⟩ := withdraw_ok computed
  obtain rfl := Except.ok.inj (read.symm.trans run.balance)
  have valid := run.valid
  rw [if_neg explicit] at valid
  simp only [ValidationLogic.validateWithdraw, bind_eq_ok, require_eq_ok, exists_const] at valid
  exact valid.2.1

theorem withdraw_handed (handed : HandedOver env pool asset holder amount lToken after)
    (read : (after.reserves asset).lTokenBalanceOf env.timestamp holder =
      .ok (readBack env pool asset amount)) (explicit : amount ≠ maxUint256)
    (given : holder ≠ 0) (apart : holder ≠ (pool.reserves asset).lToken.treasury)
    (clear : (pool.usersConfig holder).isBorrowingAny = false)
    (member : (pool.reserves asset).id < 128)
    (covered : amount ≤ readBack env pool asset amount)
    (direct : pool.withdraw env user asset amount recipient = .ok (later, amount)) :
    ∃ final emptied, after.withdraw env holder asset amount recipient = .ok (final, amount) ∧
      final.reserves asset = { later.reserves asset with lToken := emptied } ∧
      emptied.base.balances holder = 0 := by
  obtain ⟨userBalance, accrued, rated, burned, config, _, run⟩ := withdraw_ok direct
  obtain ⟨minted, accrue, supply, kept⟩ := Reserve.updateState_held handed.held apart run.accrue
  have rate := Reserve.updateInterestRates_held minted run.rate
  obtain ⟨_, _, _, _, rating⟩ := Reserve.updateInterestRates_ok run.rate
  have ratedSupply : minted.base.totalSupply = rated.lToken.base.totalSupply := by
    rw [rating.result]
    exact supply
  have ratedId : rated.id < 128 := by
    obtain ⟨_, _, _, accrual⟩ := Reserve.updateState_ok run.accrue
    rw [rating.result, accrual.result]
    exact member
  have whole : minted.base.balances holder = divHalfUp (amount * RAY) rated.liquidityIndex := by
    rw [kept, handed.received, run.index]
  obtain ⟨emptied, burn, none⟩ := Reserve.burnLToken_held ratedSupply given whole run.burn
  have valid : ValidationLogic.validateWithdraw env after holder asset amount
      (readBack env pool asset amount) = .ok () := by
    have checked := run.valid
    simp only [ValidationLogic.validateWithdraw, bind_eq_ok, require_eq_ok,
      exists_const] at checked ⊢
    obtain ⟨positive, _, active, _⟩ := checked
    refine ⟨positive, covered, ?_, true, ?_, rfl⟩
    · rw [handed.reserve]
      exact active
    · rw [GenericLogic.balanceDecreaseAllowed, if_pos (handed.clear clear)]
  have flagged : ∃ config, (if amount = readBack env pool asset amount then
        (after.usersConfig holder).setUsingAsCollateral rated.id false
      else .ok (after.usersConfig holder)) = .ok config := by
    split_ifs
    · exact UserConfigurationMap.setUsingAsCollateral_defined ratedId false
    · exact ⟨_, rfl⟩
  obtain ⟨config', flag⟩ := flagged
  rw [handed.reserve] at read
  refine ⟨(after.setReserve asset { burned with lToken := emptied }).setUserConfig holder config',
    emptied, ?_, ?_, none⟩
  · simp only [withdraw, whenNotPaused, handed.reserve, read, ok_bind, explicit, if_false, valid,
      accrue, rate, bind_eq_ok, require_eq_ok, exists_const, pure_eq_ok]
    exact ⟨handed.unpaused, config', flag, _, burn, rfl⟩
  · rw [setUserConfig_reserves, setReserve_same, run.result, setUserConfig_reserves,
      setReserve_same]

theorem withdraw_receives (apart : recipient ≠ (pool.reserves asset).lTokenAddress)
    (computed : pool.withdraw env user asset amount recipient = .ok (after, withdrawn)) :
    (after.reserves asset).underlying.balances recipient =
      (pool.reserves asset).underlying.balances recipient + withdrawn := by
  obtain ⟨_, accrued, rated, burned, _, _, run⟩ := withdraw_ok computed
  have poked := Reserve.updateState_poked run.accrue
  obtain ⟨address, ledger⟩ := Reserve.updateInterestRates_kept run.rate
  obtain ⟨_, _, _, moved, paid⟩ := Reserve.burnLToken_ok run.burn
  rw [address, ledger, poked.lTokenAddress, poked.underlying] at moved
  rw [run.result, setUserConfig_reserves, setReserve_same, paid]
  exact Reserve.received (Ne.symm apart) moved

end LendingPool

namespace WETHGateway

open LendingPool

variable {gateway : WETHGateway} {env : Env} {world : EtherWorld} {acceptsEther : Address → Bool}
variable {user recipient : Address} {amount : Nat}

structure Affordable (gateway : WETHGateway) (env : Env) (world : EtherWorld) (user : Address)
    (amount : Nat) : Prop where
  direct : ∃ later, world.pool.withdraw env user gateway.weth amount gateway.self =
    .ok (later, amount)
  account : ∃ account, GenericLogic.calculateUserAccountData env world.pool user
    (world.pool.usersConfig user) = .ok account ∧ account.totalDebtInETH = 0
  allowance : amount ≤ (world.pool.reserves gateway.weth).lToken.base.allowances user gateway.self
  grown : RAY ≤ (world.pool.reserves gateway.weth).normalizedIncome env.timestamp
  member : (world.pool.reserves gateway.weth).id < 128
  empty : (world.pool.reserves gateway.weth).lToken.base.balances gateway.self = 0
  clear : (world.pool.usersConfig gateway.self).isBorrowingAny = false
  other : user ≠ gateway.self
  treasury : gateway.self ≠ (world.pool.reserves gateway.weth).lToken.treasury
  lToken : gateway.self ≠ (world.pool.reserves gateway.weth).lTokenAddress
  wrapper : gateway.self ≠ gateway.weth
  backed : amount ≤ world.ether gateway.weth

structure PaidOut (gateway : WETHGateway) (world : EtherWorld) (recipient : Address) (amount : Nat)
    (after : EtherWorld) : Prop where
  ether : EtherMoved world.ether after.ether gateway.weth recipient amount
  emptied : (after.pool.reserves gateway.weth).lToken.scaledBalanceOf gateway.self = 0

theorem Affordable.handable (affordable : Affordable gateway env world user amount) :
    Handable env world.pool gateway.weth user gateway.self amount := by
  obtain ⟨later, direct⟩ := affordable.direct
  obtain ⟨balance, accrued, rated, burned, config, _, run⟩ := withdraw_ok direct
  have burn := run.burn
  simp only [Reserve.burnLToken, LToken.burn, ERC20.burn, ERC20.transfer, bind_eq_ok, require_eq_ok,
    exists_const] at burn
  obtain ⟨_, ⟨scaled, scales, _, _, ⟨giver, _⟩, _⟩, _, ⟨_, receiver, _⟩, _⟩ := burn
  rw [run.index] at scales
  have valid := run.valid
  simp only [ValidationLogic.validateWithdraw, bind_eq_ok, require_eq_ok, exists_const] at valid
  exact ⟨run.unpaused, affordable.member, giver, receiver, affordable.other, affordable.empty,
    affordable.grown, ⟨balance, run.balance, valid.2.1⟩, ⟨scaled, scales⟩, affordable.account⟩

theorem Affordable.handed (affordable : Affordable gateway env world user amount) :
    ∃ moved lToken, world.pool.transferFrom env gateway.self gateway.weth user gateway.self amount =
        .ok moved ∧
      HandedOver env world.pool gateway.weth gateway.self amount lToken moved ∧
      (moved.reserves gateway.weth).lTokenBalanceOf env.timestamp gateway.self =
        .ok (readBack env world.pool gateway.weth amount) := by
  have handable := affordable.handable
  obtain ⟨moved, lToken, transfer, handed⟩ :=
    transferFrom_handed handable handable.receiver affordable.allowance
  refine ⟨moved, lToken, transfer, handed, ?_⟩
  obtain ⟨balance, read, enough⟩ := handable.balance
  simp only [Reserve.lTokenBalanceOf, LToken.balanceOf, bind_eq_ok, require_eq_ok, exists_const,
    rayMul_eq_ok] at read
  obtain ⟨listed, index, answered, fits, rfl⟩ := read
  obtain ⟨rfl, _⟩ := ReserveData.getNormalizedIncome_ok answered
  have product := Nat.mul_le_mul_right
    ((world.pool.reserves gateway.weth).normalizedIncome env.timestamp)
    (shares_covered handable.grown enough)
  exact handed.balance listed answered (by omega)

theorem withdrawETH_affordable_iff (affordable : Affordable gateway env world user amount)
    (takes : gateway.Takes acceptsEther recipient) :
    (∃ after, gateway.withdrawETH env world acceptsEther user amount recipient = .ok after ∧
      PaidOut gateway world recipient amount after) ↔
        amount ≤ readBack env world.pool gateway.weth amount := by
  have handable := affordable.handable
  obtain ⟨moved, lToken, transfer, handed, read⟩ := affordable.handed
  obtain ⟨balance, userBalance, _⟩ := handable.balance
  obtain ⟨_, scales⟩ := handable.scaled
  have word := lt_of_rayDiv scales
  have explicit : amount ≠ maxUint256 := Nat.ne_of_lt word
  simp only [withdrawETH, userBalance, ok_bind, explicit, if_false, transfer]
  constructor
  · rintro ⟨after, computed, _⟩
    simp only [bind_eq_ok, Prod.exists] at computed
    obtain ⟨_, _, withdrawn, _⟩ := computed
    exact handed_covered read explicit withdrawn
  · intro covered
    obtain ⟨later, direct⟩ := affordable.direct
    obtain ⟨final, emptied, withdrawn, reserve, none⟩ := withdraw_handed handed read explicit
      handable.receiver affordable.treasury affordable.clear affordable.member covered direct
    have held : amount ≤ (gateway.underlying final).balances gateway.self := by
      rw [WETHGateway.underlying, reserve, withdraw_receives affordable.lToken direct]
      exact Nat.le_add_left amount _
    obtain ⟨unwrapped, unwrap, came, sameTokens⟩ :=
      unwrap_paid ⟨final, world.ether⟩ held affordable.backed
    have arrived := came.arrived (Ne.symm affordable.wrapper)
    simp only at arrived
    have enough : amount ≤ unwrapped.ether gateway.self := by omega
    obtain ⟨after, sent, left, stillTokens⟩ :=
      safeTransferETH_taken unwrapped takes enough
    refine ⟨after, ?_, came.trans left, ?_⟩
    · have consistent : amount ≤
          (unwrapped.ether gateway.self + 2 ^ 256 - world.ether gateway.self) % 2 ^ 256 := by
        unfold maxUint256 at word
        omega
      simp only [withdrawn, ok_bind, unwrap, bind_eq_ok, require_eq_ok, exists_const]
      exact ⟨consistent, sent⟩
    · rw [stillTokens, sameTokens, reserve]
      exact none

end WETHGateway

def World.mostlyLent : List Event :=
  Market.opening 10 Market.strategy ++ Market.opening 20 Market.strategy ++
    [.call 100 (.deposit 10 (100 * WAD) 100), .call 101 (.deposit 20 (200 * WAD) 101),
      .call 101 (.borrow 10 (90 * WAD) 2 101), .call 100 (.approve 10 50 maxUint256),
      .observe (Market.env 31536001 Market.year_in_time)]

namespace WETHGateway

open LendingPool

def Answers (world : World) (amount : Nat) : Prop :=
  yields (world.pool.withdraw world.env 100 10 amount 50) (fun paid => paid.2 = amount) ∧
  yields (GenericLogic.calculateUserAccountData world.env world.pool 100
    (world.pool.usersConfig 100)) (fun account => account.totalDebtInETH = 0) ∧
  amount ≤ (world.pool.reserves 10).lToken.base.allowances 100 50 ∧
  RAY ≤ (world.pool.reserves 10).normalizedIncome world.env.timestamp ∧
  (world.pool.reserves 10).id < 128 ∧
  (world.pool.reserves 10).lToken.base.balances 50 = 0 ∧
  (world.pool.usersConfig 50).isBorrowingAny = false ∧
  50 ≠ (world.pool.reserves 10).lToken.treasury ∧
  50 ≠ (world.pool.reserves 10).lTokenAddress ∧
  amount ≤ 100 * WAD

instance (world : World) (amount : Nat) : Decidable (Answers world amount) :=
  inferInstanceAs (Decidable (_ ∧ _))

theorem Answers.affordable {world : World} {amount : Nat} (answers : Answers world amount) :
    Affordable ofMarket world.env (etherAt world.pool) 100 amount := by
  obtain ⟨paid, viewed, allowance, grown, member, empty, clear, treasury, lToken, backed⟩ := answers
  obtain ⟨⟨later, withdrawn⟩, direct, same⟩ := yields_iff.1 paid
  obtain rfl : withdrawn = amount := of_decide_eq_true same
  obtain ⟨account, computed, debtless⟩ := yields_iff.1 viewed
  exact ⟨⟨later, direct⟩, ⟨account, computed, of_decide_eq_true debtless⟩, allowance, grown, member,
    empty, clear, (by decide : 100 ≠ 50), treasury, lToken, (by decide : 50 ≠ 10), backed⟩

theorem withdrawETH_affordable_iff_mostlyLent :
    ∃ world after, Runs.run World.step Market.start World.mostlyLent = .ok world ∧
      RAY < (world.pool.reserves 10).normalizedIncome world.env.timestamp ∧
      ofMarket.withdrawETH world.env (etherAt world.pool) (fun _ => true) 100 WAD 100 = .ok after ∧
      PaidOut ofMarket (etherAt world.pool) 100 WAD after := by
  have outcome : yields (Runs.run World.step Market.start World.mostlyLent) (fun world =>
      Answers world WAD ∧ RAY < (world.pool.reserves 10).normalizedIncome world.env.timestamp ∧
      WAD ≤ readBack world.env world.pool 10 WAD) := by
    decide +kernel
  obtain ⟨world, ran, facts⟩ := yields_iff.1 outcome
  obtain ⟨answers, grown, covered⟩ := of_decide_eq_true facts
  have takes : ofMarket.Takes (fun _ => true) 100 := .inr ⟨by decide, rfl⟩
  obtain ⟨after, sent, exactly⟩ := (withdrawETH_affordable_iff answers.affordable takes).2 covered
  exact ⟨world, after, ran, grown, sent, exactly⟩

theorem withdrawETH_refused_mostlyLent :
    ∃ world, Runs.run World.step Market.start World.mostlyLent = .ok world ∧
      Affordable ofMarket world.env (etherAt world.pool) 100 (WAD + 2) ∧
      ofMarket.Takes (fun _ => true) 100 ∧
      readBack world.env world.pool 10 (WAD + 2) = WAD + 1 ∧
      ¬∃ after, ofMarket.withdrawETH world.env (etherAt world.pool) (fun _ => true) 100 (WAD + 2)
        100 = .ok after := by
  have outcome : yields (Runs.run World.step Market.start World.mostlyLent) (fun world =>
      Answers world (WAD + 2) ∧ readBack world.env world.pool 10 (WAD + 2) = WAD + 1 ∧
      ¬yields (ofMarket.withdrawETH world.env (etherAt world.pool) (fun _ => true) 100 (WAD + 2) 100)
        (fun _ => true)) := by
    decide +kernel
  obtain ⟨world, ran, facts⟩ := yields_iff.1 outcome
  obtain ⟨answers, short, refused⟩ := of_decide_eq_true facts
  refine ⟨world, ran, answers.affordable, .inr ⟨by decide, rfl⟩, short, ?_⟩
  rintro ⟨after, sent⟩
  exact refused (yields_iff.2 ⟨after, sent, rfl⟩)

end WETHGateway

end PalmyProtocol
