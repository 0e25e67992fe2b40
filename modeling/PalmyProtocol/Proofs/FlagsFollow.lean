import PalmyProtocol.Proofs.LiquidationAmounts
import PalmyProtocol.System.FlagMoves

set_option autoImplicit false

namespace PalmyProtocol

open Checked Rounding LendingPool LendingPoolCollateralManager

namespace LendingPool

def CollateralSettled (pool : LendingPool) (asset user : Address) : Prop :=
  pool.held asset user = 0 → pool.uses asset user = false

def DebtSettled (pool : LendingPool) (asset user : Address) : Prop :=
  ¬(pool.reserves asset).Owes user → pool.borrows asset user = false

variable {env : Env} {pool accrued after : LendingPool}
variable {msgSender asset user sender recipient : Address} {amount : Nat}

end LendingPool

namespace Call

-- Whose lTokens of which asset an operation moves. A transfer to oneself moves none, and the pool
-- leaves the flags alone.
def Trades (msgSender : Address) : Call → Address → Address → Prop
  | withdraw asset _ _, a, u => a = asset ∧ u = msgSender
  | transfer asset recipient _, a, u =>
    a = asset ∧ msgSender ≠ recipient ∧ (u = msgSender ∨ u = recipient)
  | transferFrom asset sender recipient _, a, u =>
    a = asset ∧ sender ≠ recipient ∧ (u = sender ∨ u = recipient)
  | liquidationCall collateralAsset _ user _ receiveLToken, a, u =>
    a = collateralAsset ∧ (u = user ∨ receiveLToken = true ∧ u = msgSender)
  | _, _, _ => False

def Pays : Call → Address → Address → Prop
  | repay asset _ _ onBehalfOf, a, u => a = asset ∧ u = onBehalfOf
  | liquidationCall _ debtAsset user _ _, a, u => a = debtAsset ∧ u = user
  | _, _, _ => False

def MovesBalances : Call → Prop
  | withdraw .. | repay .. | transfer .. | transferFrom .. | liquidationCall .. => True
  | _ => False

end Call

structure FlagsFollow (call : Call) (msgSender : Address) (pool after : LendingPool) : Prop where
  collateral : ∀ a u, (pool.reserves a).lTokenAddress ≠ 0 →
    call.Trades msgSender a u ∨ CollateralSettled pool a u → CollateralSettled after a u
  borrowing : ∀ a u, (pool.reserves a).lTokenAddress ≠ 0 →
    call.Pays a u ∨ DebtSettled pool a u → DebtSettled after a u
  raised : ∀ a u, (pool.reserves a).lTokenAddress ≠ 0 → pool.uses a u = false →
    after.uses a u = true → after.held a u ≠ 0

namespace LendingPool

variable {env : Env} {pool accrued after : LendingPool}
variable {msgSender asset user sender recipient : Address} {amount shares : Nat}

def WithdrawalFollowed (env : Env) (pool : LendingPool) (msgSender asset : Address)
    (amount : Nat) : Prop :=
  amount = maxUint256 ∨ amount = (pool.reserves asset).lTokenBalance env.timestamp msgSender ∨
    pool.uses asset msgSender = false ∨
    ∀ accrued, (pool.reserves asset).updateState env.timestamp = .ok accrued →
      sharesOf env pool asset amount ≠ accrued.lToken.scaledBalanceOf msgSender

def RepaymentFollowed (env : Env) (pool : LendingPool) (asset onBehalfOf : Address)
    (amount rateMode : Nat) : Prop :=
  rateMode = 1 ∨ (pool.reserves asset).variableDebt env.timestamp onBehalfOf ≤ amount ∨
    (pool.reserves asset).stableDebtToken.principalBalanceOf onBehalfOf ≠ 0 ∨
    debtSharesOf env pool asset amount ≠
      (pool.reserves asset).variableDebtToken.scaledBalanceOf onBehalfOf

def TransferFollowed (env : Env) (pool : LendingPool) (asset sender recipient : Address)
    (amount : Nat) : Prop :=
  sender = recipient ∨
    ((amount = (pool.reserves asset).lTokenBalance env.timestamp sender ∨
        pool.uses asset sender = false ∨
        sharesOf env pool asset amount ≠ pool.held asset sender) ∧
      (pool.held asset recipient + sharesOf env pool asset amount ≠ 0 ∨
        (amount = 0 ∧ pool.uses asset recipient = false)))

def LiquidationFollowed (env : Env) (pool : LendingPool)
    (msgSender collateralAsset debtAsset user : Address) (debtToCover : Nat)
    (receiveLToken : Bool) : Prop :=
  ∀ collateral actual, settleAmounts env (pool.reserves collateralAsset) (pool.reserves debtAsset)
      collateralAsset debtAsset ((pool.reserves debtAsset).stableDebtToken.debt env.timestamp user)
      ((pool.reserves debtAsset).variableDebt env.timestamp user)
      ((pool.reserves collateralAsset).lTokenBalance env.timestamp user) debtToCover =
        .ok (collateral, actual) →
    ¬PaysOffBoth env pool debtAsset user actual ∧
    ∀ reserve, reserveSeized env pool collateralAsset debtAsset receiveLToken = .ok reserve →
      (collateral = (pool.reserves collateralAsset).lTokenBalance env.timestamp user ∨
        (receiveLToken = true ∧ msgSender = user) ∨
        sharesOf env pool collateralAsset collateral ≠ reserve.lToken.scaledBalanceOf user) ∧
      (receiveLToken = true → msgSender ≠ user →
        reserve.lToken.scaledBalanceOf msgSender + sharesOf env pool collateralAsset collateral ≠ 0)

-- A flag that was off is settled, so an operation that keeps what is settled raises none in vain.
theorem raised_of_collateral {a u : Address}
    (collateral : CollateralSettled pool a u → CollateralSettled after a u)
    (off : pool.uses a u = false) (on : after.uses a u = true) : after.held a u ≠ 0 := by
  intro none
  have settled := collateral (fun _ => off) none
  rw [on] at settled
  cases settled

theorem Taken.follow {whole : Prop} [Decidable whole]
    (taken : Taken pool accrued asset user shares whole after) {a u : Address}
    (listed : (pool.reserves a).lTokenAddress ≠ 0) (other : ¬(a = asset ∧ u = user))
    (settled : CollateralSettled pool a u) : CollateralSettled after a u := by
  intro none
  have balance := taken.held a u
  have grown := taken.grown a u
  rw [if_neg other] at balance
  rw [taken.uses a u listed, if_neg fun all => other ⟨all.1.2, all.2⟩]
  exact settled (by omega)

theorem Taken.settled_iff {whole : Prop} [Decidable whole]
    (taken : Taken pool accrued asset user shares whole after) :
    CollateralSettled after asset user ↔
      whole ∨ pool.uses asset user = false ∨ shares ≠ accrued.held asset user := by
  have balance := taken.held asset user
  have flag := taken.uses asset user taken.listed
  simp only [and_self, if_true, and_true] at balance flag
  rw [CollateralSettled, flag]
  by_cases all : whole
  · simp [all]
  · have emptied : after.held asset user = 0 ↔ shares = accrued.held asset user := by omega
    rw [if_neg all, emptied]
    by_cases off : pool.uses asset user = false <;> simp [all, off]

theorem debtSettled_of_same {a u : Address}
    (owes : (after.reserves a).Owes u ↔ (pool.reserves a).Owes u)
    (borrows : after.borrows a u = pool.borrows a u) (settled : DebtSettled pool a u) :
    DebtSettled after a u := by
  intro free
  rw [borrows]
  exact settled fun owing => free (owes.2 owing)

theorem withdraw_follows {withdrawn : Nat} (registered : Registered pool)
    (computed : pool.withdraw env msgSender asset amount recipient = .ok (after, withdrawn)) :
    FlagsFollow (.withdraw asset amount recipient) msgSender pool after ↔
      WithdrawalFollowed env pool msgSender asset amount := by
  obtain ⟨balance, accrued, read, sum, accrue, taken⟩ := withdraw_taken registered computed
  obtain ⟨_, owned⟩ := Reserve.lTokenBalanceOf_ok read
  have all : withdrawn = balance ↔ amount = maxUint256 ∨
      amount = (pool.reserves asset).lTokenBalance env.timestamp msgSender := by
    rw [Reserve.lTokenBalance, ← owned, sum]
    split_ifs with maximum <;> simp [maximum]
  have settled : CollateralSettled after asset msgSender ↔
      WithdrawalFollowed env pool msgSender asset amount := by
    rw [taken.settled_iff, all, WithdrawalFollowed, or_assoc]
    by_cases maximum : amount = maxUint256
    · simp [maximum]
    · rw [sum, if_neg maximum, held_setReserve, if_pos rfl]
      simp only [accrue, Except.ok.injEq, forall_eq', LToken.scaledBalanceOf]
  rw [← settled]
  constructor
  · intro follow
    exact follow.collateral asset msgSender taken.listed (.inl ⟨rfl, rfl⟩)
  · intro follow
    have kept : ∀ a u, (pool.reserves a).lTokenAddress ≠ 0 →
        (a = asset ∧ u = msgSender) ∨ CollateralSettled pool a u → CollateralSettled after a u := by
      intro a u listed before
      by_cases party : a = asset ∧ u = msgSender
      · obtain ⟨rfl, rfl⟩ := party
        exact follow
      · exact taken.follow listed party (before.resolve_left party)
    refine ⟨kept, fun a u _ before => ?_, fun a u listed off on => ?_⟩
    · exact debtSettled_of_same (taken.owes a u) (taken.borrows a u) (before.resolve_left id)
    · exact raised_of_collateral (fun before => kept a u listed (.inr before)) off on

theorem Unmoved.collateralSettled (unmoved : Unmoved pool after) {a u : Address}
    (settled : CollateralSettled pool a u) : CollateralSettled after a u := by
  rw [CollateralSettled, unmoved.held, unmoved.uses]
  exact settled

theorem Sent.follow_iff {whole first : Prop} [Decidable whole] [Decidable first]
    (sent : Sent pool asset sender recipient shares whole first after)
    (different : sender ≠ recipient) :
    (∀ a u, (pool.reserves a).lTokenAddress ≠ 0 →
      (a = asset ∧ (u = sender ∨ u = recipient)) ∨ CollateralSettled pool a u →
      CollateralSettled after a u) ↔
    ((whole ∨ pool.uses asset sender = false ∨ shares ≠ pool.held asset sender) ∧
      (pool.held asset recipient + shares ≠ 0 ∨ (¬first ∧ pool.uses asset recipient = false))) := by
  have flag : CollateralSettled after asset sender ↔
      (whole ∨ pool.uses asset sender = false ∨ shares ≠ pool.held asset sender) := by
    have balance := sent.held asset sender
    have flag := sent.uses asset sender sent.listed
    simp only [and_self, if_true, and_true, different, if_false, and_false, Nat.add_zero]
      at balance flag
    rw [CollateralSettled, flag]
    by_cases all : whole
    · simp [all]
    · have emptied : after.held asset sender = 0 ↔ shares = pool.held asset sender := by omega
      rw [if_neg all, emptied]
      by_cases off : pool.uses asset sender = false <;> simp [all, off]
  have flag' : CollateralSettled after asset recipient ↔
      (pool.held asset recipient + shares ≠ 0 ∨ (¬first ∧ pool.uses asset recipient = false)) := by
    have balance := sent.held asset recipient
    have flag := sent.uses asset recipient sent.listed
    have apart : recipient ≠ sender := different.symm
    simp only [and_self, if_true, and_true, apart, if_false, and_false, Nat.add_zero] at balance flag
    rw [CollateralSettled, flag, balance]
    by_cases raises : first
    · simp [raises]
    · simp [raises, or_iff_not_imp_left]
  rw [← flag, ← flag']
  constructor
  · intro kept
    exact ⟨kept asset sender sent.listed (.inl ⟨rfl, .inl rfl⟩),
      kept asset recipient sent.listed (.inl ⟨rfl, .inr rfl⟩)⟩
  · rintro ⟨sends, receives⟩ a u listed before
    by_cases party : a = asset ∧ (u = sender ∨ u = recipient)
    · rcases party with ⟨rfl, rfl | rfl⟩
      · exact sends
      · exact receives
    · intro none
      have balance := sent.held a u
      have out : ¬(a = asset ∧ u = sender) := fun both => party ⟨both.1, .inl both.2⟩
      have into : ¬(a = asset ∧ u = recipient) := fun both => party ⟨both.1, .inr both.2⟩
      rw [if_neg out, if_neg into, Nat.add_zero, Nat.add_zero] at balance
      rw [sent.uses a u listed, if_neg fun all => into ⟨all.1.2, all.2⟩,
        if_neg fun all => out ⟨all.1.2, all.2⟩]
      exact before.resolve_left party (balance.symm.trans none)

theorem moveLTokens_follow (registered : Registered pool) {moved : LendingPool}
    (computed : pool.moveLTokens env asset sender recipient amount = .ok moved)
    (unmoved : Unmoved moved after) :
    (∀ a u, (pool.reserves a).lTokenAddress ≠ 0 →
      (a = asset ∧ sender ≠ recipient ∧ (u = sender ∨ u = recipient)) ∨
        CollateralSettled pool a u → CollateralSettled after a u) ↔
    TransferFollowed env pool asset sender recipient amount := by
  have same : ∀ a u, CollateralSettled after a u ↔ CollateralSettled moved a u := by
    intro a u
    rw [CollateralSettled, CollateralSettled, unmoved.held, unmoved.uses]
  simp only [same]
  by_cases self : sender = recipient
  · subst self
    refine ⟨fun _ => .inl rfl, fun _ a u _ before => ?_⟩
    exact (moveLTokens_self computed).collateralSettled
      (before.resolve_left fun party => party.2.1 rfl)
  · have sent := moveLTokens_sent registered self computed
    have kept := sent.follow_iff self
    have idle : (pool.held asset recipient + sharesOf env pool asset amount ≠ 0 ∨
        (¬(pool.held asset recipient = 0 ∧ amount ≠ 0) ∧ pool.uses asset recipient = false)) ↔
        (pool.held asset recipient + sharesOf env pool asset amount ≠ 0 ∨
          (amount = 0 ∧ pool.uses asset recipient = false)) := by
      by_cases some : pool.held asset recipient = 0
      · simp [some]
      · have more : pool.held asset recipient + sharesOf env pool asset amount ≠ 0 := by omega
        simp only [more, ne_eq, not_false_eq_true, true_or]
    simp only [self, not_false_eq_true, true_and, ne_eq] at kept ⊢
    rw [kept, TransferFollowed, or_iff_right self]
    exact and_congr_right fun _ => idle

-- The payment is at most what is owed of its kind, and the flag goes if it covers both kinds.
theorem Repays.settled_iff {rateMode payback : Nat} {mode : InterestRateMode} {onBehalfOf : Address}
    (repays : Repays pool accrued asset onBehalfOf
      ((pool.reserves asset).debt env.timestamp onBehalfOf ≤ payback)
      (PaysOff env pool asset onBehalfOf (mode = .STABLE) payback) after)
    (flagged : DebtFlagged pool) (chosen : toInterestRateMode rateMode = .ok mode)
    (sum : payback = min amount (if mode = .STABLE then
      (pool.reserves asset).stableDebtToken.debt env.timestamp onBehalfOf
      else (pool.reserves asset).variableDebt env.timestamp onBehalfOf)) :
    DebtSettled after asset onBehalfOf ↔
      RepaymentFollowed env pool asset onBehalfOf amount rateMode := by
  have flag := repays.borrows asset onBehalfOf repays.listed
  simp only [and_true] at flag
  have stable : mode = .STABLE ↔ rateMode = 1 := by
    rcases toInterestRateMode_ok chosen with ⟨rfl, rfl⟩ | ⟨rfl, rfl⟩ | ⟨rfl, rfl⟩ <;> decide
  have none := (pool.reserves asset).debt_eq_zero_iff env.timestamp onBehalfOf
  have total : (pool.reserves asset).debt env.timestamp onBehalfOf =
      (pool.reserves asset).stableDebtToken.debt env.timestamp onBehalfOf +
        (pool.reserves asset).variableDebt env.timestamp onBehalfOf := rfl
  rw [DebtSettled, repays.left, flag, RepaymentFollowed, ← stable, PaysOff]
  by_cases fixed : mode = .STABLE
  · rw [if_pos fixed] at sum
    simp only [fixed, true_and, not_true, false_and, or_false, true_or, iff_true]
    rintro ⟨all, nothing⟩
    have scaled : (pool.reserves asset).variableDebt env.timestamp onBehalfOf = 0 := by
      rw [VariableDebtToken.scaledBalanceOf] at nothing
      rw [Reserve.variableDebt, nothing, Nat.zero_mul, divHalfUp_zero]
    rw [if_pos (by omega)]
  · rw [if_neg fixed] at sum
    simp only [fixed, false_and, not_false_eq_true, true_and, false_or]
    by_cases covers : (pool.reserves asset).variableDebt env.timestamp onBehalfOf ≤ amount
    · simp only [covers, true_or, iff_true]
      rintro ⟨principal, _⟩
      rw [if_pos (by omega)]
    · have part : payback = amount := by omega
      simp only [covers, false_or, part]
      rw [if_neg (by omega), ← not_and_or]
      have owes : (pool.reserves asset).variableDebt env.timestamp onBehalfOf ≠ 0 := by omega
      have borrowing : pool.borrows asset onBehalfOf = true :=
        flagged onBehalfOf asset repays.listed (Reserve.owes_of_variableDebt owes)
      rw [borrowing]
      simp only [Bool.true_eq_false, imp_false]

theorem repay_follows {rateMode payback : Nat} {onBehalfOf : Address}
    (registered : Registered pool) (flagged : DebtFlagged pool)
    (computed : pool.repay env msgSender asset amount rateMode onBehalfOf = .ok (after, payback)) :
    FlagsFollow (.repay asset amount rateMode onBehalfOf) msgSender pool after ↔
      RepaymentFollowed env pool asset onBehalfOf amount rateMode := by
  obtain ⟨mode, accrued, chosen, accrue, sum, repays⟩ := repay_repays registered computed
  rw [← repays.settled_iff flagged chosen sum]
  constructor
  · intro follow
    exact follow.borrowing asset onBehalfOf repays.listed (.inl ⟨rfl, rfl⟩)
  · intro follow
    have kept : ∀ a u, CollateralSettled pool a u → CollateralSettled after a u := by
      intro a u before nothing
      have grown := repays.grown a u
      rw [repays.held] at nothing
      rw [repays.uses]
      exact before (by omega)
    refine ⟨fun a u _ before => kept a u (before.resolve_left id), fun a u here before => ?_,
      fun a u _ => raised_of_collateral (kept a u)⟩
    by_cases party : a = asset ∧ u = onBehalfOf
    · obtain ⟨rfl, rfl⟩ := party
      exact follow
    · refine debtSettled_of_same (repays.owes a u party) ?_ (before.resolve_left party)
      rw [repays.borrows a u here, if_neg fun all => party ⟨all.1.2, all.2⟩]

end LendingPool

namespace LendingPoolCollateralManager

variable {env : Env} {pool after : LendingPool} {msgSender collateralAsset debtAsset user : Address}
variable {debtToCover : Nat} {receiveLToken : Bool} {reserve : Reserve}

theorem liquidationCall_managed
    (computed : pool.liquidationCall env msgSender collateralAsset debtAsset user debtToCover
      receiveLToken = .ok after) :
    ∃ message, liquidationCall env pool msgSender collateralAsset debtAsset user debtToCover
      receiveLToken = .ok (after, .NO_ERROR, message) := by
  simp only [LendingPool.liquidationCall, bind_eq_ok] at computed
  obtain ⟨_, _, computed⟩ := computed
  cases managed : liquidationCall env pool msgSender collateralAsset debtAsset user debtToCover
      receiveLToken with
  | error message => simp [managed] at computed
  | ok returned =>
      obtain ⟨changed, code, message⟩ := returned
      simp only [managed, bind_eq_ok, require_eq_ok, exists_const, pure_eq_ok] at computed
      obtain ⟨rfl, rfl⟩ := computed
      exact ⟨message, rfl⟩

structure Settled (env : Env) (pool : LendingPool)
    (msgSender collateralAsset debtAsset user : Address) (debtToCover : Nat) (receiveLToken : Bool)
    (collateral actual : Nat) (after : LendingPool) : Prop where
  settle : settleAmounts env (pool.reserves collateralAsset) (pool.reserves debtAsset)
    collateralAsset debtAsset ((pool.reserves debtAsset).stableDebtToken.debt env.timestamp user)
    ((pool.reserves debtAsset).variableDebt env.timestamp user)
    ((pool.reserves collateralAsset).lTokenBalance env.timestamp user) debtToCover =
      .ok (collateral, actual)
  within : collateral ≤ (pool.reserves collateralAsset).lTokenBalance env.timestamp user
  used : pool.uses collateralAsset user = true
  owing : (pool.reserves debtAsset).Owes user
  execute : executeLiquidation env pool msgSender collateralAsset debtAsset user actual
    ((pool.reserves debtAsset).variableDebt env.timestamp user) collateral
    ((pool.reserves collateralAsset).lTokenBalance env.timestamp user) receiveLToken = .ok after

theorem validateLiquidationCall_owing {collateralReserve principalReserve : Reserve}
    {userConfig : UserConfigurationMap} {userHealthFactor userStableDebt userVariableDebt : Nat}
    {message : String}
    (valid : ValidationLogic.validateLiquidationCall collateralReserve principalReserve userConfig
      userHealthFactor userStableDebt userVariableDebt = .ok (.NO_ERROR, message)) :
    userConfig.collateralises collateralReserve.id = true ∧
      (userStableDebt ≠ 0 ∨ userVariableDebt ≠ 0) := by
  simp only [ValidationLogic.validateLiquidationCall, ite_eq_ok, Except.ok.injEq, Prod.mk.injEq,
    reduceCtorEq, false_and, and_false, false_or, bind_eq_ok, pure_eq_ok, Bool.not_eq_false]
    at valid
  obtain ⟨_, _, enabled, chosen, on, some, _⟩ := valid
  refine ⟨?_, not_and_or.1 some⟩
  rcases chosen with ⟨_, used⟩ | ⟨_, rfl⟩
  · rw [on] at used
    exact (UserConfigurationMap.isUsingAsCollateral_eq_ok.1 used).2
  · cases on

theorem seized_le {collateralReserve debtReserve : Reserve} {balance collateral needed : Nat}
    (computed : calculateAvailableCollateralToLiquidate env collateralReserve debtReserve
      collateralAsset debtAsset debtToCover balance = .ok (collateral, needed)) :
    collateral ≤ balance := by
  have quoted := computed
  simp only [calculateAvailableCollateralToLiquidate, bind_eq_ok] at quoted
  obtain ⟨_, read, _, read', _⟩ := quoted
  exact (calculateAvailableCollateralToLiquidate_ok read read' computed).collateral_le.1

theorem liquidationCall_settled
    (computed : pool.liquidationCall env msgSender collateralAsset debtAsset user debtToCover
      receiveLToken = .ok after) :
    ∃ collateral actual, Settled env pool msgSender collateralAsset debtAsset user debtToCover
      receiveLToken collateral actual after := by
  obtain ⟨message, managed⟩ := liquidationCall_managed computed
  simp only [liquidationCall, bind_eq_ok, Prod.exists] at managed
  obtain ⟨account, viewed, userStableDebt, userVariableDebt, debts, code, text, checked, run⟩ :=
    managed
  by_cases passed : code = .NO_ERROR
  · subst passed
    obtain ⟨used, some⟩ := validateLiquidationCall_owing checked
    simp only [ne_eq, not_true, if_false, bind_eq_ok, Prod.exists] at run
    obtain ⟨balance, read, userDebt, added, maxDebt, closed, collateral, needed, amounts, run⟩ := run
    by_cases short : receiveLToken = false ∧
        (pool.reserves collateralAsset).availableLiquidity < collateral
    · simp [short] at run
    · simp only [short, if_false, bind_eq_ok, pure_eq_ok, Prod.mk.injEq] at run
      obtain ⟨_, executed, rfl, _, _⟩ := run
      obtain ⟨_, owned⟩ := Reserve.lTokenBalanceOf_ok read
      obtain ⟨stable, floating⟩ := Reserve.getUserCurrentDebt_ok debts
      obtain ⟨_, stableView⟩ := Reserve.stableDebtBalanceOf_ok stable
      obtain ⟨_, variableView⟩ := Reserve.variableDebtBalanceOf_ok floating
      have limited : collateral ≤ balance := seized_le amounts
      have settled : settleAmounts env (pool.reserves collateralAsset) (pool.reserves debtAsset)
          collateralAsset debtAsset userStableDebt userVariableDebt balance debtToCover =
            .ok (collateral, min needed (min debtToCover maxDebt)) := by
        simp only [settleAmounts, bind_eq_ok, Prod.exists, pure_eq_ok]
        exact ⟨userDebt, added, maxDebt, closed, collateral, needed, amounts, rfl⟩
      subst owned stableView variableView
      refine ⟨collateral, _, settled, limited, used, ?_, executed⟩
      rcases some with here | here
      · exact Reserve.owes_of_stableDebt env.timestamp here
      · exact Reserve.owes_of_variableDebt here
  · simp [passed] at run

variable {actual collateral collateralBalance : Nat}

theorem Liquidates.settled_iff
    (liquidates : Liquidates env pool msgSender collateralAsset debtAsset user receiveLToken actual
      collateral collateralBalance reserve after)
    (used : pool.uses collateralAsset user = true)
    (emptied : reserve.lToken.scaledBalanceOf user = 0 → collateral = collateralBalance) :
    CollateralSettled after collateralAsset user ↔ (collateral = collateralBalance ∨
      (receiveLToken = true ∧ msgSender = user) ∨
      sharesOf env pool collateralAsset collateral ≠ reserve.lToken.scaledBalanceOf user) := by
  have balance := liquidates.held user
  have flag := liquidates.uses collateralAsset user liquidates.listed
  simp only [if_true, and_true, eq_comm (a := user) (b := msgSender)] at balance flag
  rw [CollateralSettled, flag]
  by_cases all : collateral = collateralBalance
  · simp [all]
  · have some := mt emptied all
    rw [if_neg all]
    by_cases own : receiveLToken = true ∧ msgSender = user
    · rw [if_pos own] at balance
      have kept : after.held collateralAsset user ≠ 0 := by omega
      simp [kept, own]
    · rw [if_neg own] at balance
      have left : after.held collateralAsset user = 0 ↔
          sharesOf env pool collateralAsset collateral = reserve.lToken.scaledBalanceOf user := by
        omega
      have other : ¬((receiveLToken = true ∧ reserve.lToken.scaledBalanceOf msgSender = 0) ∧
          msgSender = user) := fun both => own ⟨both.1.1, both.2⟩
      rw [left, if_neg other, used]
      simp [all, own]

theorem Liquidates.liquidator_iff
    (liquidates : Liquidates env pool msgSender collateralAsset debtAsset user receiveLToken actual
      collateral collateralBalance reserve after)
    (receives : receiveLToken = true) (different : msgSender ≠ user) :
    CollateralSettled after collateralAsset msgSender ↔
      reserve.lToken.scaledBalanceOf msgSender + sharesOf env pool collateralAsset collateral ≠ 0 := by
  have balance := liquidates.held msgSender
  have flag := liquidates.uses collateralAsset msgSender liquidates.listed
  simp only [different, receives, true_and, if_true, and_true, and_false, if_false, Nat.add_zero]
    at balance flag
  rw [CollateralSettled, flag, balance]
  by_cases none : reserve.lToken.scaledBalanceOf msgSender = 0
  · simp [none]
  · have some : reserve.lToken.scaledBalanceOf msgSender +
        sharesOf env pool collateralAsset collateral ≠ 0 := by omega
    simp only [some, IsEmpty.forall_iff, ne_eq, not_false_eq_true]

theorem Liquidates.follow
    (liquidates : Liquidates env pool msgSender collateralAsset debtAsset user receiveLToken actual
      collateral collateralBalance reserve after) {a u : Address}
    (listed : (pool.reserves a).lTokenAddress ≠ 0)
    (other : ¬(a = collateralAsset ∧ (u = user ∨ receiveLToken = true ∧ u = msgSender)))
    (settled : CollateralSettled pool a u) : CollateralSettled after a u := by
  have spared : ¬((collateral = collateralBalance ∧ a = collateralAsset) ∧ u = user) :=
    fun all => other ⟨all.1.2, .inl all.2⟩
  have spared' : ¬(((receiveLToken = true ∧ reserve.lToken.scaledBalanceOf msgSender = 0) ∧
      a = collateralAsset) ∧ u = msgSender) := fun all => other ⟨all.1.2, .inr ⟨all.1.1.1, all.2⟩⟩
  intro none
  rw [liquidates.uses a u listed, if_neg spared, if_neg spared']
  apply settled
  by_cases here : a = collateralAsset
  · subst here
    have balance := liquidates.held u
    have grown := le_reserveSeized liquidates.seized u
    rw [if_neg fun same => other ⟨rfl, .inl same⟩, if_neg fun both => other ⟨rfl, .inr both⟩]
      at balance
    omega
  · have grown := liquidates.elsewhere a u here
    omega

theorem liquidationFollowed_iff
    (settled : Settled env pool msgSender collateralAsset debtAsset user debtToCover receiveLToken
      collateral actual after)
    (seized : reserveSeized env pool collateralAsset debtAsset receiveLToken = .ok reserve) :
    LiquidationFollowed env pool msgSender collateralAsset debtAsset user debtToCover
        receiveLToken ↔
      ¬PaysOffBoth env pool debtAsset user actual ∧
        (collateral = (pool.reserves collateralAsset).lTokenBalance env.timestamp user ∨
          (receiveLToken = true ∧ msgSender = user) ∨
          sharesOf env pool collateralAsset collateral ≠ reserve.lToken.scaledBalanceOf user) ∧
        (receiveLToken = true → msgSender ≠ user →
          reserve.lToken.scaledBalanceOf msgSender +
            sharesOf env pool collateralAsset collateral ≠ 0) := by
  constructor
  · intro followed
    obtain ⟨unpaid, parts⟩ := followed collateral actual settled.settle
    exact ⟨unpaid, parts reserve seized⟩
  · rintro ⟨unpaid, parts⟩ collateral' actual' settle
    rw [settled.settle] at settle
    cases settle
    refine ⟨unpaid, fun reserve' known => ?_⟩
    rw [seized] at known
    cases known
    exact parts

-- Of a liquidation only the flags of its parties are in question.
theorem Liquidates.follow_iff
    (liquidates : Liquidates env pool msgSender collateralAsset debtAsset user receiveLToken actual
      collateral collateralBalance reserve after) :
    FlagsFollow (.liquidationCall collateralAsset debtAsset user debtToCover receiveLToken)
        msgSender pool after ↔
      DebtSettled after debtAsset user ∧ CollateralSettled after collateralAsset user ∧
        (receiveLToken = true → msgSender ≠ user →
          CollateralSettled after collateralAsset msgSender) := by
  constructor
  · intro follow
    exact ⟨follow.borrowing debtAsset user liquidates.listedDebt (.inl ⟨rfl, rfl⟩),
      follow.collateral collateralAsset user liquidates.listed (.inl ⟨rfl, .inl rfl⟩),
      fun receives _ => follow.collateral collateralAsset msgSender liquidates.listed
        (.inl ⟨rfl, .inr ⟨receives, rfl⟩⟩)⟩
  · rintro ⟨debt, first, second⟩
    have kept : ∀ a u, (pool.reserves a).lTokenAddress ≠ 0 →
        (a = collateralAsset ∧ (u = user ∨ receiveLToken = true ∧ u = msgSender)) ∨
          CollateralSettled pool a u → CollateralSettled after a u := by
      intro a u listed before
      by_cases party : a = collateralAsset ∧ (u = user ∨ receiveLToken = true ∧ u = msgSender)
      · obtain ⟨rfl, rfl | ⟨receives, rfl⟩⟩ := party
        · exact first
        · by_cases own : u = user
          · subst own
            exact first
          · exact second receives own
      · exact liquidates.follow listed party (before.resolve_left party)
    refine ⟨kept, fun a u listed before => ?_, fun a u listed =>
      raised_of_collateral fun before => kept a u listed (.inr before)⟩
    by_cases party : a = debtAsset ∧ u = user
    · obtain ⟨rfl, rfl⟩ := party
      exact debt
    · exact debtSettled_of_same (liquidates.owes a u party) (liquidates.borrows a u)
        (before.resolve_left party)

theorem liquidation_follows (registered : Registered pool) (flagged : DebtFlagged pool)
    (computed : pool.liquidationCall env msgSender collateralAsset debtAsset user debtToCover
      receiveLToken = .ok after) :
    FlagsFollow (.liquidationCall collateralAsset debtAsset user debtToCover receiveLToken)
        msgSender pool after ↔
      LiquidationFollowed env pool msgSender collateralAsset debtAsset user debtToCover
        receiveLToken := by
  obtain ⟨collateral, actual, settled⟩ := liquidationCall_settled computed
  obtain ⟨reserve, liquidates⟩ := executeLiquidation_liquidates registered
    (liquidationCall_operates computed) rfl settled.execute
  have borrowing : pool.borrows debtAsset user = true :=
    flagged user debtAsset liquidates.listedDebt settled.owing
  have paid : DebtSettled after debtAsset user ↔
      ¬PaysOffBoth env pool debtAsset user actual := by
    rw [DebtSettled, liquidates.left, liquidates.borrows, borrowing]
    simp only [Bool.true_eq_false, imp_false]
  have emptied : reserve.lToken.scaledBalanceOf user = 0 →
      collateral = (pool.reserves collateralAsset).lTokenBalance env.timestamp user := by
    intro none
    have below := le_reserveSeized liquidates.seized user
    have nothing : pool.held collateralAsset user = 0 := by omega
    rw [← balance_eq_zero_iff env user registered liquidates.listed] at nothing
    have within := settled.within
    omega
  rw [liquidates.follow_iff, liquidationFollowed_iff settled liquidates.seized, paid,
    liquidates.settled_iff settled.used emptied]
  refine and_congr_right fun _ => and_congr_right fun _ => ?_
  exact forall_congr' fun receives => forall_congr' fun different =>
    liquidates.liquidator_iff receives different

end LendingPoolCollateralManager

namespace Call

def Followed (env : Env) (pool : LendingPool) (msgSender : Address) : Call → Prop
  | withdraw asset amount _ => WithdrawalFollowed env pool msgSender asset amount
  | repay asset amount rateMode onBehalfOf =>
    RepaymentFollowed env pool asset onBehalfOf amount rateMode
  | transfer asset recipient amount => TransferFollowed env pool asset msgSender recipient amount
  | transferFrom asset sender recipient amount =>
    TransferFollowed env pool asset sender recipient amount
  | liquidationCall collateralAsset debtAsset user debtToCover receiveLToken =>
    LiquidationFollowed env pool msgSender collateralAsset debtAsset user debtToCover receiveLToken
  | _ => True

variable {env : Env} {pool moved after : LendingPool} {msgSender asset sender recipient : Address}
variable {amount : Nat} {call : Call}

theorem transfer_follows (registered : Registered pool)
    (trades : call.Trades msgSender = fun a u =>
      a = asset ∧ sender ≠ recipient ∧ (u = sender ∨ u = recipient))
    (pays : ∀ a u, ¬call.Pays a u)
    (computed : pool.moveLTokens env asset sender recipient amount = .ok moved)
    (unmoved : Unmoved moved after) :
    FlagsFollow call msgSender pool after ↔
      TransferFollowed env pool asset sender recipient amount := by
  have kept := moveLTokens_follow registered computed unmoved
  rw [← kept]
  constructor
  · intro follow
    have collateral := follow.collateral
    rw [trades] at collateral
    exact collateral
  · intro follow
    refine ⟨by rwa [trades], fun a u _ before => ?_, fun a u listed =>
      raised_of_collateral fun before => follow a u listed (.inr before)⟩
    have debts : ((after.reserves a).Owes u ↔ (pool.reserves a).Owes u) ∧
        after.borrows a u = pool.borrows a u := by
      rw [unmoved.owes, unmoved.borrows]
      by_cases self : sender = recipient
      · subst self
        have same := moveLTokens_self computed
        exact ⟨same.owes a u, same.borrows a u⟩
      · have sent := moveLTokens_sent registered self computed
        exact ⟨sent.owes a u, sent.borrows a u⟩
    exact debtSettled_of_same debts.1 debts.2 (before.resolve_left (pays a u))

theorem execute_follows (registered : Registered pool) (flagged : DebtFlagged pool)
    (moves : call.MovesBalances) (computed : call.execute env pool msgSender = .ok after) :
    FlagsFollow call msgSender pool after ↔ call.Followed env pool msgSender := by
  cases call with
  | withdraw asset amount recipient =>
      simp only [execute, bind_eq_ok, Prod.exists, pure_eq_ok] at computed
      obtain ⟨_, withdrawn, computed, rfl⟩ := computed
      exact withdraw_follows registered computed
  | repay asset amount rateMode onBehalfOf =>
      simp only [execute, bind_eq_ok, Prod.exists, pure_eq_ok] at computed
      obtain ⟨_, payback, computed, rfl⟩ := computed
      exact repay_follows registered flagged computed
  | transfer asset recipient amount =>
      exact transfer_follows registered rfl (fun _ _ => id) computed (.refl after)
  | transferFrom asset sender recipient amount =>
      simp only [execute, LendingPool.transferFrom, bind_eq_ok] at computed
      obtain ⟨moved, computed, spent⟩ := computed
      exact transfer_follows registered rfl (fun _ _ => id) computed
        (updateAllowance_unmoved (fun _ _ => ERC20.spendAllowance_holdings) spent)
  | liquidationCall collateralAsset debtAsset user debtToCover receiveLToken =>
      exact liquidation_follows registered flagged computed
  | _ => exact moves.elim

end Call

end PalmyProtocol
