import PalmyProtocol.Misc.WETHGateway
import PalmyProtocol.Pool.ReserveCash
import PalmyProtocol.Proofs.DebtsCounted

set_option autoImplicit false

namespace PalmyProtocol

open Checked Rounding

namespace LendingPool

variable {env : Env} {pool after : LendingPool} {msgSender asset onBehalfOf : Address}
variable {amount rateMode payback : Nat}

theorem repay_instead {mode : InterestRateMode} {stableDebt variableDebt sent : Nat}
    (chosen : toInterestRateMode rateMode = .ok mode)
    (debts : (pool.reserves asset).getUserCurrentDebt env.timestamp onBehalfOf =
      .ok (stableDebt, variableDebt))
    (positive : 0 < sent)
    (same : min sent (if mode = .STABLE then stableDebt else variableDebt) =
      min amount (if mode = .STABLE then stableDebt else variableDebt))
    (explicit : sent ≠ maxUint256 ∨ msgSender = onBehalfOf)
    (computed : pool.repay env msgSender asset amount rateMode onBehalfOf = .ok (after, payback)) :
    pool.repay env msgSender asset sent rateMode onBehalfOf = .ok (after, payback) := by
  have sameAmount : (if sent < (if mode = .STABLE then stableDebt else variableDebt) then sent
        else if mode = .STABLE then stableDebt else variableDebt) =
      if amount < (if mode = .STABLE then stableDebt else variableDebt) then amount
        else if mode = .STABLE then stableDebt else variableDebt := by
    generalize (if mode = .STABLE then stableDebt else variableDebt) = owed at same ⊢
    split_ifs <;> omega
  simp only [repay, debts, chosen, ok_bind, bind_eq_ok] at computed ⊢
  obtain ⟨_, unpaused, _, valid, rest⟩ := computed
  refine ⟨(), unpaused, (), ?_, ?_⟩
  · simp only [ValidationLogic.validateRepay, bind_eq_ok, require_eq_ok, exists_const] at valid ⊢
    obtain ⟨active, _, owing, _⟩ := valid
    exact ⟨active, positive, owing, explicit⟩
  · rw [sameAmount]
    exact rest

theorem repay_terms {mode : InterestRateMode} {stableDebt variableDebt : Nat}
    (chosen : toInterestRateMode rateMode = .ok mode)
    (debts : (pool.reserves asset).getUserCurrentDebt env.timestamp onBehalfOf =
      .ok (stableDebt, variableDebt))
    (computed : pool.repay env msgSender asset amount rateMode onBehalfOf = .ok (after, payback)) :
    payback = min amount (if mode = .STABLE then stableDebt else variableDebt) ∧ 0 < amount ∧
      (amount ≠ maxUint256 ∨ msgSender = onBehalfOf) := by
  obtain ⟨mode', _, _, _, _, _, _, _, chosen', run⟩ := repay_ok computed
  obtain rfl : mode = mode' := Except.ok.inj (chosen.symm.trans chosen')
  obtain ⟨rfl, rfl⟩ := Prod.mk.inj (Except.ok.inj (debts.symm.trans run.debts))
  have valid := run.valid
  simp only [ValidationLogic.validateRepay, bind_eq_ok, require_eq_ok, exists_const] at valid
  obtain ⟨_, positive, _, explicit⟩ := valid
  exact ⟨run.bounded, positive, explicit⟩

theorem repay_spends (apart : msgSender ≠ (pool.reserves asset).lTokenAddress)
    (computed : pool.repay env msgSender asset amount rateMode onBehalfOf = .ok (after, payback)) :
    (after.reserves asset).underlying.balances msgSender + payback =
      (pool.reserves asset).underlying.balances msgSender := by
  obtain ⟨mode, _, _, accrued, burned, rated, funded, _, _, run⟩ := repay_ok computed
  have poked := run.poked
  obtain ⟨_, ledger⟩ := Reserve.updateInterestRates_kept run.rate
  obtain ⟨underlying, moved, paid⟩ := Reserve.transferUnderlyingFrom_ok run.fund
  obtain ⟨middle, transferred, same⟩ := ERC20.transferFrom_ok moved
  rw [poked.lTokenAddress, ledger, poked.underlying] at transferred
  rw [run.result, setUserConfig_reserves, setReserve_same, paid, same]
  exact Reserve.spent (Ne.symm apart) transferred

end LendingPool

namespace WETHGateway

variable {gateway : WETHGateway} {env : Env} {world after : EtherWorld}
variable {acceptsEther : Address → Bool} {msgSender onBehalfOf : Address}
variable {amount rateMode msgValue payback : Nat} {repaid : LendingPool}

structure RepaidExactly (gateway : WETHGateway) (world : EtherWorld) (msgSender : Address)
    (payback : Nat) (repaid : LendingPool) (after : EtherWorld) : Prop where
  pool : after.pool = repaid
  ether : EtherMoved world.ether after.ether msgSender gateway.weth payback
  etherKept : after.ether gateway.self = world.ether gateway.self
  wethKept : (gateway.underlying after.pool).balances gateway.self =
    (gateway.underlying world.pool).balances gateway.self

structure Payer (gateway : WETHGateway) (world : EtherWorld) (acceptsEther : Address → Bool)
    (msgSender : Address) (payback msgValue : Nat) : Prop where
  other : msgSender ≠ gateway.self
  ordinary : msgSender ≠ gateway.weth
  wrapper : gateway.self ≠ gateway.weth
  lToken : gateway.self ≠ (world.pool.reserves gateway.weth).lTokenAddress
  funded : msgValue ≤ world.ether msgSender
  accepts : payback < msgValue → acceptsEther msgSender = true
  word : (gateway.underlying world.pool).balances gateway.self ≤ maxUint256

@[simp]
theorem wrapped_debts {pool : LendingPool} {value now : Nat} {user : Address} :
    ((gateway.wrapped pool value).reserves gateway.weth).getUserCurrentDebt now user =
      (pool.reserves gateway.weth).getUserCurrentDebt now user := by
  rw [wrapped, setUnderlying, LendingPool.setReserve_same]
  rfl

@[simp]
theorem wrapped_lTokenAddress {pool : LendingPool} {value : Nat} :
    ((gateway.wrapped pool value).reserves gateway.weth).lTokenAddress =
      (pool.reserves gateway.weth).lTokenAddress := by
  rw [wrapped, setUnderlying, LendingPool.setReserve_same]

-- Wrapping could only wrap around where the repayment then fails for want of WETH.
theorem wrapped_spent {pool : LendingPool} {later : Nat}
    (word : (gateway.underlying pool).balances gateway.self ≤ maxUint256)
    (spent : later + payback =
      (gateway.underlying (gateway.wrapped pool payback)).balances gateway.self) :
    later = (gateway.underlying pool).balances gateway.self := by
  simp only [wrapped, setUnderlying_same, WETH9.deposit, Function.update_self, wrapAdd] at spent
  unfold maxUint256 at word
  omega

-- The value comes in, the payback is wrapped and the rest goes back.
theorem ether_returned {ether received wrapped returned : Address → Nat}
    (covered : payback ≤ msgValue)
    (payer : Payer gateway world acceptsEther msgSender payback msgValue)
    (came : EtherMoved ether received msgSender gateway.self msgValue)
    (spent : EtherMoved received wrapped gateway.self gateway.weth payback)
    (back : EtherMoved wrapped returned gateway.self msgSender (msgValue - payback)) :
    EtherMoved ether returned msgSender gateway.weth payback ∧
      returned gateway.self = ether gateway.self := by
  have exact : EtherMoved ether returned msgSender gateway.weth payback := by
    intro a
    have first := came a
    have second := spent a
    have third := back a
    by_cases caller : a = msgSender
    · subst caller
      simp only [if_pos, payer.other, payer.ordinary, if_false] at first second third ⊢
      omega
    · simp only [caller, if_false] at first third ⊢
      split_ifs at first second third ⊢ <;> omega
  refine ⟨exact, ?_⟩
  have balance := exact gateway.self
  rwa [if_neg (Ne.symm payer.other), if_neg payer.wrapper] at balance

theorem refunded {received wrapped : Address → Nat} (pool : LendingPool)
    (payer : Payer gateway world acceptsEther msgSender payback msgValue)
    (covered : payback ≤ msgValue)
    (came : EtherMoved world.ether received msgSender gateway.self msgValue)
    (spent : EtherMoved received wrapped gateway.self gateway.weth payback) :
    ∃ returned, (if payback < msgValue then
        gateway.safeTransferETH ⟨pool, wrapped⟩ acceptsEther msgSender (msgValue - payback)
      else pure ⟨pool, wrapped⟩) = .ok ⟨pool, returned⟩ ∧
      EtherMoved world.ether returned msgSender gateway.weth payback ∧
      returned gateway.self = world.ether gateway.self := by
  have arrived := came.arrived payer.other
  have left := spent.left payer.wrapper
  have enough : msgValue - payback ≤ wrapped gateway.self := by omega
  by_cases more : payback < msgValue
  · obtain ⟨returned, sent, back⟩ := safeTransferETH_paid ⟨pool, wrapped⟩ payer.other payer.ordinary
      (payer.accepts more) enough
    exact ⟨returned, (if_pos more).trans sent, ether_returned covered payer came spent back⟩
  · have nothing : msgValue - payback = 0 := by omega
    refine ⟨wrapped, if_neg more, ether_returned covered payer came spent fun a => ?_⟩
    simp [nothing]

theorem repayETH_reduces {mode : InterestRateMode} {stableDebt variableDebt : Nat}
    (payer : Payer gateway world acceptsEther msgSender payback msgValue)
    (chosen : toInterestRateMode rateMode = .ok mode)
    (debts : (world.pool.reserves gateway.weth).getUserCurrentDebt env.timestamp onBehalfOf =
      .ok (stableDebt, variableDebt))
    (bounded : payback = min amount (if mode = .STABLE then stableDebt else variableDebt))
    (covered : payback ≤ msgValue) :
    ∃ received wrapped, EtherMoved world.ether received msgSender gateway.self msgValue ∧
      EtherMoved received wrapped gateway.self gateway.weth payback ∧
      gateway.repayETH env world acceptsEther msgSender amount rateMode onBehalfOf msgValue =
        (do
          let (pool, _) ← (gateway.wrapped world.pool payback).repay env gateway.self gateway.weth
            msgValue rateMode onBehalfOf
          if payback < msgValue then
            gateway.safeTransferETH ⟨pool, wrapped⟩ acceptsEther msgSender (msgValue - payback)
          else pure ⟨pool, wrapped⟩) := by
  obtain ⟨received, sent, came⟩ := sendEther_paid payer.funded gateway.self noMessage
  have enough : payback ≤ received gateway.self := by
    rw [came.arrived payer.other]
    omega
  obtain ⟨wrapped, run, spent⟩ := wrap_paid ⟨world.pool, received⟩ enough noMessage
  refine ⟨received, wrapped, came, spent, ?_⟩
  have paybackAmount : (if amount < (if mode = .STABLE then stableDebt else variableDebt) then amount
      else if mode = .STABLE then stableDebt else variableDebt) = payback := by
    rw [bounded]
    generalize (if mode = .STABLE then stableDebt else variableDebt) = owed
    split_ifs <;> omega
  have met : require (payback ≤ msgValue) "msg.value is less than repayment amount" =
      (.ok () : Result Unit) := if_pos covered
  simp only [repayETH, pay, sent, ok_bind, pure_bind, debts, chosen, paybackAmount, met, run]

theorem repayETH_exact_iff {mode : InterestRateMode} {stableDebt variableDebt : Nat}
    (payer : Payer gateway world acceptsEther msgSender payback msgValue)
    (chosen : toInterestRateMode rateMode = .ok mode)
    (debts : (world.pool.reserves gateway.weth).getUserCurrentDebt env.timestamp onBehalfOf =
      .ok (stableDebt, variableDebt))
    (bounded : payback = min amount (if mode = .STABLE then stableDebt else variableDebt))
    (covered : payback ≤ msgValue)
    (repays : (gateway.wrapped world.pool payback).repay env gateway.self gateway.weth payback
      rateMode onBehalfOf = .ok (repaid, payback)) :
    (∃ after, gateway.repayETH env world acceptsEther msgSender amount rateMode onBehalfOf msgValue =
        .ok after ∧ RepaidExactly gateway world msgSender payback repaid after) ↔
      ((if mode = .STABLE then stableDebt else variableDebt) ≤ amount ∨ msgValue = amount) ∧
        (msgValue ≠ maxUint256 ∨ gateway.self = onBehalfOf) := by
  obtain ⟨received, wrapped, came, spent, run⟩ := repayETH_reduces payer chosen debts bounded covered
  have owing : ((gateway.wrapped world.pool payback).reserves gateway.weth).getUserCurrentDebt
      env.timestamp onBehalfOf = .ok (stableDebt, variableDebt) := wrapped_debts.trans debts
  have lToken : gateway.self ≠
      ((gateway.wrapped world.pool payback).reserves gateway.weth).lTokenAddress := by
    rw [wrapped_lTokenAddress]
    exact payer.lToken
  have asked := LendingPool.repay_spends lToken repays
  generalize owed_eq : (if mode = .STABLE then stableDebt else variableDebt) = owed at bounded ⊢
  rw [run]
  constructor
  · rintro ⟨after, computed, exactly⟩
    simp only [bind_eq_ok, Prod.exists, ite_eq_ok, pure_eq_ok] at computed
    obtain ⟨pool, taken, repay, returned⟩ := computed
    have samePool : pool = repaid := by
      rw [← exactly.pool]
      rcases returned with ⟨_, sent⟩ | ⟨_, rfl⟩
      · exact (safeTransferETH_ok payer.ordinary sent).symm
      · rfl
    subst samePool
    have spends := LendingPool.repay_spends lToken repay
    obtain ⟨terms, _, explicit⟩ := LendingPool.repay_terms chosen owing repay
    rw [owed_eq] at terms
    refine ⟨?_, explicit⟩
    -- the same pool was paid the same, so the value sent came to the payback
    have sameAmount : taken = payback := by omega
    omega
  · rintro ⟨settles, explicit⟩
    obtain ⟨_, positive, _⟩ := LendingPool.repay_terms chosen owing repays
    have sameAmount : min msgValue owed = min payback owed := by omega
    rw [← owed_eq] at sameAmount
    have repay := LendingPool.repay_instead chosen owing (by omega) sameAmount explicit repays
    obtain ⟨returned, refunded, ether, etherKept⟩ := refunded repaid payer covered came spent
    refine ⟨⟨repaid, returned⟩, ?_, rfl, ether, etherKept, wrapped_spent payer.word asked⟩
    rw [repay, ok_bind]
    exact refunded

-- One account owes ten ether, and the gateway can repay one for it.
theorem borrowedOnce_repaid :
    ∃ world repaid, Runs.run World.step Market.start World.borrowedOnce = .ok world ∧
      (∀ msgValue, msgValue ≤ 100 * WAD →
        Payer ofMarket (etherAt world.pool) (fun _ => true) 101 WAD msgValue) ∧
      (world.pool.reserves 10).getUserCurrentDebt world.env.timestamp 101 = .ok (0, 10 * WAD) ∧
      (ofMarket.wrapped world.pool WAD).repay world.env 50 10 WAD 2 101 = .ok (repaid, WAD) := by
  have outcome : yields (Runs.run World.step Market.start World.borrowedOnce) (fun world =>
      (ofMarket.underlying world.pool).balances 50 ≤ maxUint256 ∧
      50 ≠ (world.pool.reserves 10).lTokenAddress ∧
      yields ((world.pool.reserves 10).getUserCurrentDebt world.env.timestamp 101)
        (· = (0, 10 * WAD)) ∧
      yields ((ofMarket.wrapped world.pool WAD).repay world.env 50 10 WAD 2 101)
        (fun paid => paid.2 = WAD)) := by
    decide +kernel
  obtain ⟨world, ran, facts⟩ := yields_iff.1 outcome
  obtain ⟨word, lToken, viewed, paid⟩ := of_decide_eq_true facts
  obtain ⟨_, debts, exactly⟩ := yields_iff.1 viewed
  obtain rfl := of_decide_eq_true exactly
  obtain ⟨⟨repaid, payback⟩, repays, same⟩ := yields_iff.1 paid
  obtain rfl : payback = WAD := of_decide_eq_true same
  refine ⟨world, repaid, ran, fun msgValue funded => ?_, debts, repays⟩
  exact ⟨by decide, by decide, by decide, lToken, funded, fun _ => rfl, word⟩

theorem repayETH_exact_iff_borrowedOnce :
    ∃ world repaid after, Runs.run World.step Market.start World.borrowedOnce = .ok world ∧
      (ofMarket.wrapped world.pool WAD).repay world.env 50 10 WAD 2 101 = .ok (repaid, WAD) ∧
      ofMarket.repayETH world.env (etherAt world.pool) (fun _ => true) 101 WAD 2 101 WAD =
        .ok after ∧
      RepaidExactly ofMarket (etherAt world.pool) 101 WAD repaid after := by
  obtain ⟨world, repaid, ran, payer, debts, repays⟩ := borrowedOnce_repaid
  have chosen : toInterestRateMode 2 = .ok .VARIABLE := rfl
  have bounded : WAD = min WAD (if InterestRateMode.VARIABLE = .STABLE then 0 else 10 * WAD) := by
    decide
  obtain ⟨after, computed, exactly⟩ :=
    (repayETH_exact_iff (payer WAD (by decide)) chosen debts bounded (le_refl WAD) repays).2
      ⟨.inr rfl, .inl (by decide)⟩
  exact ⟨world, repaid, after, ran, repays, computed, exactly⟩

theorem repayETH_short_borrowedOnce :
    ∃ world repaid, Runs.run World.step Market.start World.borrowedOnce = .ok world ∧
      Payer ofMarket (etherAt world.pool) (fun _ => true) 101 WAD (2 * WAD) ∧
      (world.pool.reserves 10).getUserCurrentDebt world.env.timestamp 101 = .ok (0, 10 * WAD) ∧
      (ofMarket.wrapped world.pool WAD).repay world.env 50 10 WAD 2 101 = .ok (repaid, WAD) ∧
      ¬∃ after, ofMarket.repayETH world.env (etherAt world.pool) (fun _ => true) 101 WAD 2 101
        (2 * WAD) = .ok after := by
  have outcome : yields (Runs.run World.step Market.start World.borrowedOnce) (fun world =>
      ¬yields (ofMarket.repayETH world.env (etherAt world.pool) (fun _ => true) 101 WAD 2 101
        (2 * WAD)) (fun _ => true)) := by
    decide +kernel
  obtain ⟨world, repaid, ran, payer, debts, repays⟩ := borrowedOnce_repaid
  obtain ⟨world', ran', refused⟩ := yields_iff.1 outcome
  obtain rfl : world = world' := Except.ok.inj (ran.symm.trans ran')
  refine ⟨world, repaid, ran, payer _ (by decide), debts, repays, ?_⟩
  rintro ⟨after, computed⟩
  exact of_decide_eq_true refused (yields_iff.2 ⟨after, computed, rfl⟩)

end WETHGateway

end PalmyProtocol
