import PalmyProtocol.Pool.LighterAccounts
import PalmyProtocol.System.TokenCalls

set_option autoImplicit false

namespace PalmyProtocol

open Checked Rounding

namespace GenericLogic

variable {env : Env} {pool after : LendingPool} {user : Address} {config : UserConfigurationMap}

theorem calculateUserAccountData_lighter {account : UserAccountData}
    (lightened : Lightened env user pool config after config)
    (computed : calculateUserAccountData env pool user config = .ok account)
    (debtless : account.totalDebtInETH = 0) :
    ∃ account', calculateUserAccountData env after user config = .ok account' ∧
      account'.healthFactor = maxUint256 := by
  by_cases empty : config.isEmpty = true
  · exact ⟨⟨⟨0, 0, 0, 0⟩, maxUint256⟩, by rw [calculateUserAccountData, if_pos empty], rfl⟩
  · simp only [calculateUserAccountData, empty, if_false, bind_eq_ok, Bool.false_eq_true,
      pure_eq_ok] at computed ⊢
    obtain ⟨totals, summed, _, _, _, _, _, _, rfl⟩ := computed
    obtain ⟨lighter, loop, related⟩ := foldlM_lighter lightened summed
    rw [← lightened.count] at loop
    have none : lighter.totalDebtInETH = 0 := related.debt.trans debtless
    have health : ∀ threshold, calculateHealthFactorFromBalances lighter.totalCollateralInETH
        lighter.totalDebtInETH threshold = .ok maxUint256 := fun threshold => by
      rw [calculateHealthFactorFromBalances, if_pos none]
    exact ⟨_, ⟨lighter, loop, _, average_fits _ _, _, average_fits _ _, maxUint256, health _, rfl⟩,
      rfl⟩

end GenericLogic

namespace LendingPool

variable {env : Env} {pool after : LendingPool} {asset sender recipient spender : Address}
variable {amount index scaled balance : Nat}

structure Handable (env : Env) (pool : LendingPool) (asset sender recipient : Address)
    (amount : Nat) : Prop where
  unpaused : pool.paused = false
  member : (pool.reserves asset).id < 128
  giver : sender ≠ 0
  receiver : recipient ≠ 0
  apart : sender ≠ recipient
  empty : (pool.reserves asset).lToken.base.balances recipient = 0
  grown : RAY ≤ (pool.reserves asset).normalizedIncome env.timestamp
  balance : ∃ balance,
    (pool.reserves asset).lTokenBalanceOf env.timestamp sender = .ok balance ∧ amount ≤ balance
  scaled : ∃ scaled,
    rayDiv amount ((pool.reserves asset).normalizedIncome env.timestamp) = .ok scaled
  account : ∃ account, GenericLogic.calculateUserAccountData env pool sender
    (pool.usersConfig sender) = .ok account ∧ account.totalDebtInETH = 0

theorem shares_covered {shares : Nat} (grown : RAY ≤ index)
    (enough : amount ≤ divHalfUp (shares * index) RAY) :
    divHalfUp (amount * RAY) index ≤ shares := by
  calc divHalfUp (amount * RAY) index
      ≤ divHalfUp (divHalfUp (shares * index) RAY * RAY) index :=
        divHalfUp_mono (Nat.mul_le_mul_right RAY enough) index
    _ = shares := rayDiv_rayMul grown

theorem lightened_setReserve {lToken : LToken}
    (less : lToken.base.balances sender ≤ (pool.reserves asset).lToken.base.balances sender) :
    GenericLogic.Lightened env sender pool (pool.usersConfig sender)
      (pool.setReserve asset { pool.reserves asset with lToken }) (pool.usersConfig sender) := by
  refine ⟨rfl, rfl, fun _ => rfl, fun _ => id, fun a => ?_, fun a balance read => ?_,
    fun a => ?_⟩ <;> by_cases same : a = asset
  · rw [same, setReserve_same]
  · rw [setReserve_other same]
  · subst same
    simp only [Reserve.lTokenBalanceOf, LToken.balanceOf, bind_eq_ok, require_eq_ok, exists_const,
      rayMul_eq_ok] at read
    obtain ⟨listed, index, income, fits, rfl⟩ := read
    have product := Nat.mul_le_mul_right index less
    refine ⟨_, divHalfUp_mono product RAY, ?_⟩
    rw [setReserve_same]
    simp only [Reserve.lTokenBalanceOf, LToken.balanceOf, bind_eq_ok, require_eq_ok, exists_const,
      rayMul_eq_ok]
    exact ⟨listed, index, income, by omega, rfl⟩
  · rw [setReserve_other same]
    exact ⟨balance, le_refl balance, read⟩
  · rw [same, setReserve_same]
    rfl
  · rw [setReserve_other same]

theorem lToken_transfer_handable (handable : Handable env pool asset sender recipient amount) :
    ∃ lToken fromBefore toBefore, (pool.reserves asset).lToken.transfer
      ((pool.reserves asset).getNormalizedIncome env.timestamp) sender recipient amount =
        .ok (lToken, fromBefore, toBefore) := by
  obtain ⟨balance, read, enough⟩ := handable.balance
  obtain ⟨scaled, scales⟩ := handable.scaled
  simp only [Reserve.lTokenBalanceOf, LToken.balanceOf, bind_eq_ok, require_eq_ok, exists_const,
    rayMul_eq_ok] at read
  obtain ⟨_, index, income, fits, rfl⟩ := read
  obtain ⟨rfl, _⟩ := ReserveData.getNormalizedIncome_ok income
  have covered := shares_covered handable.grown enough
  obtain ⟨_, rfl⟩ := rayDiv_ok scales
  have shares := Nat.le_mul_of_pos_right ((pool.reserves asset).lToken.base.balances sender)
    (Nat.lt_of_lt_of_le RAY_pos handable.grown)
  have small : 0 + divHalfUp (amount * RAY)
      ((pool.reserves asset).normalizedIncome env.timestamp) ≤ maxUint256 := by omega
  have other : Function.update (pool.reserves asset).lToken.base.balances sender
      ((pool.reserves asset).lToken.base.balances sender - divHalfUp (amount * RAY)
        ((pool.reserves asset).normalizedIncome env.timestamp)) recipient = 0 := by
    rw [Function.update_of_ne (Ne.symm handable.apart), handable.empty]
  simp only [LToken.transfer, ERC20.transfer, bind_eq_ok, require_eq_ok, exists_const, rayMul_eq_ok,
    SafeMath.subOr_eq_ok, SafeMath.add_eq_ok, pure_eq_ok, handable.empty]
  refine ⟨_, _, _, _, income, _, ⟨fits, rfl⟩, _, ⟨?_, rfl⟩, _, scales, _,
    ⟨handable.giver, handable.receiver, _, ⟨covered, rfl⟩, _, ⟨?_, rfl⟩, rfl⟩, rfl⟩
  · rw [Nat.zero_mul]
    decide
  · rw [other]
    exact small

theorem finalizeTransfer_defined {lToken : LToken} {fromBefore : Nat} (unpaused : pool.paused = false)
    {msgSender : Address} (caller : msgSender = (pool.reserves asset).lTokenAddress)
    (valid : ValidationLogic.validateTransfer env
      (pool.setReserve asset { pool.reserves asset with lToken }) sender = .ok ())
    (apart : sender ≠ recipient) (covered : amount ≤ fromBefore)
    (member : (pool.reserves asset).id < 128) (toBefore : Nat) :
    ∃ after, (pool.setReserve asset { pool.reserves asset with lToken }).finalizeTransfer env
      msgSender asset sender recipient amount fromBefore toBefore = .ok after := by
  have given : ∃ config, (if fromBefore - amount = 0 then
        (pool.usersConfig sender).setUsingAsCollateral (pool.reserves asset).id false
      else .ok (pool.usersConfig sender)) = .ok config := by
    split_ifs
    · exact UserConfigurationMap.setUsingAsCollateral_defined member false
    · exact ⟨_, rfl⟩
  have taken : ∃ config, (if toBefore = 0 ∧ amount ≠ 0 then
        (pool.usersConfig recipient).setUsingAsCollateral (pool.reserves asset).id true
      else .ok (pool.usersConfig recipient)) = .ok config := by
    split_ifs
    · exact UserConfigurationMap.setUsingAsCollateral_defined member true
    · exact ⟨_, rfl⟩
  obtain ⟨fromConfig, given⟩ := given
  obtain ⟨toConfig, taken⟩ := taken
  simp only [finalizeTransfer, whenNotPaused, setReserve_same, setReserve_usersConfig, valid,
    ok_bind, bind_eq_ok, require_eq_ok, exists_const, ne_eq, apart, not_false_eq_true, if_true,
    SafeMath.sub_eq_ok, pure_eq_ok]
  exact ⟨_, unpaused, caller, _, ⟨covered, rfl⟩, fromConfig, given, toConfig, taken, rfl⟩

theorem moveLTokens_handable (handable : Handable env pool asset sender recipient amount) :
    ∃ after, pool.moveLTokens env asset sender recipient amount = .ok after := by
  obtain ⟨lToken, fromBefore, toBefore, moved⟩ := lToken_transfer_handable handable
  obtain ⟨_, income, effect⟩ := LToken.transfer_ok moved
  obtain ⟨balance, read, enough⟩ := handable.balance
  obtain ⟨listed, rfl⟩ := Reserve.lTokenBalanceOf_ok read
  obtain ⟨rfl, _⟩ := ReserveData.getNormalizedIncome_ok income
  have covered : amount ≤ fromBefore := by
    rw [effect.fromBefore]
    exact enough
  have less : lToken.base.balances sender ≤ (pool.reserves asset).lToken.base.balances sender := by
    have entry := effect.balances sender
    rw [if_pos rfl, if_neg handable.apart] at entry
    omega
  obtain ⟨account, valued, debtless⟩ := handable.account
  obtain ⟨lighter, revalued, health⟩ :=
    GenericLogic.calculateUserAccountData_lighter (lightened_setReserve less) valued debtless
  have valid : ValidationLogic.validateTransfer env
      (pool.setReserve asset { pool.reserves asset with lToken }) sender = .ok () := by
    simp only [ValidationLogic.validateTransfer, setReserve_usersConfig, revalued, ok_bind,
      require_eq_ok, health]
    decide
  have finalized := finalizeTransfer_defined handable.unpaused rfl valid handable.apart covered
    handable.member toBefore
  obtain ⟨after, finalized⟩ := finalized
  refine ⟨after, ?_⟩
  simp only [moveLTokens, bind_eq_ok, require_eq_ok, exists_const, Prod.exists]
  exact ⟨listed, lToken, fromBefore, toBefore, moved, finalized⟩

structure HandedOver (env : Env) (pool : LendingPool) (asset recipient : Address) (amount : Nat)
    (lToken : LToken) (after : LendingPool) : Prop where
  unpaused : after.paused = false
  reserve : after.reserves asset = { pool.reserves asset with lToken }
  received : lToken.base.balances recipient =
    divHalfUp (amount * RAY) ((pool.reserves asset).normalizedIncome env.timestamp)
  others : ∀ a, a ≠ recipient →
    lToken.base.balances a ≤ (pool.reserves asset).lToken.base.balances a
  totalSupply : lToken.base.totalSupply = (pool.reserves asset).lToken.base.totalSupply
  treasury : lToken.treasury = (pool.reserves asset).lToken.treasury
  borrows : ∀ i, (after.usersConfig recipient).borrows i = (pool.usersConfig recipient).borrows i

theorem moveLTokens_handed (apart : sender ≠ recipient)
    (empty : (pool.reserves asset).lToken.base.balances recipient = 0)
    (computed : pool.moveLTokens env asset sender recipient amount = .ok after) :
    ∃ lToken, HandedOver env pool asset recipient amount lToken after ∧
      lToken.base.allowances = (pool.reserves asset).lToken.base.allowances := by
  obtain ⟨lToken, _, _, run⟩ := moveLTokens_ok computed
  obtain ⟨_, income, moved⟩ := LToken.transfer_ok run.transfer
  obtain ⟨rfl, _⟩ := ReserveData.getNormalizedIncome_ok income
  rcases run.finalize.result with ⟨same, _⟩ | ⟨_, _, fromConfig, toConfig, _, taken, result⟩
  · exact absurd same apart
  have unpaused : pool.paused = false := run.finalize.unpaused
  refine ⟨lToken, ⟨?_, ?_, ?_, fun a other => ?_, moved.totalSupply, moved.treasury, fun i => ?_⟩,
    moved.allowances⟩
  · rw [result]
    exact unpaused
  · rw [result, setUserConfig_reserves, setUserConfig_reserves, setReserve_same]
  · have entry := moved.balances recipient
    rwa [if_neg (Ne.symm apart), if_pos rfl, empty, Nat.add_zero, Nat.zero_add] at entry
  · have entry := moved.balances a
    rw [if_neg other] at entry
    omega
  · rw [result, setUserConfig_same]
    split_ifs at taken
    · exact (UserConfigurationMap.setUsingAsCollateral_ok taken).2.1 i
    · cases taken
      rfl

theorem transferFrom_handed (handable : Handable env pool asset sender recipient amount)
    (spender_given : spender ≠ 0)
    (allowance : amount ≤ (pool.reserves asset).lToken.base.allowances sender spender) :
    ∃ after lToken, pool.transferFrom env spender asset sender recipient amount = .ok after ∧
      HandedOver env pool asset recipient amount lToken after := by
  obtain ⟨middle, moved⟩ := moveLTokens_handable handable
  obtain ⟨lToken, handed, allowances⟩ := moveLTokens_handed handable.apart handable.empty moved
  obtain ⟨_, _, _, run⟩ := moveLTokens_ok moved
  rw [← allowances] at allowance
  have listed : (middle.reserves asset).lTokenAddress ≠ 0 := by
    rw [handed.reserve]
    exact run.listed
  have spent : ∃ base, lToken.base.spendAllowance sender spender amount = .ok base := by
    simp only [ERC20.spendAllowance, ERC20.approve, bind_eq_ok, SafeMath.subOr_eq_ok, require_eq_ok,
      exists_const, pure_eq_ok]
    exact ⟨_, _, ⟨allowance, rfl⟩, handable.giver, spender_given, rfl⟩
  obtain ⟨base, spent⟩ := spent
  obtain ⟨_, balances, supply, _⟩ := ERC20.spendAllowance_ok spent
  refine ⟨middle.setReserve asset { pool.reserves asset with lToken := { lToken with base } },
    { lToken with base }, ?_, handed.unpaused, setReserve_same, ?_, fun a other => ?_, ?_, ?_, ?_⟩
  · simp only [transferFrom, moved, ok_bind, updateAllowance, bind_eq_ok, require_eq_ok,
      exists_const, pure_eq_ok]
    refine ⟨listed, base, ?_, ?_⟩
    · rw [handed.reserve]
      exact spent
    · rw [handed.reserve]
  · rw [← handed.received]
    exact congrFun balances recipient
  · exact (le_of_eq (congrFun balances a)).trans (handed.others a other)
  · exact supply.trans handed.totalSupply
  · exact handed.treasury
  · exact handed.borrows

end LendingPool

end PalmyProtocol
