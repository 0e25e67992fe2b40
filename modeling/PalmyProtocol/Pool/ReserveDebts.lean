import PalmyProtocol.Pool.ReserveLogic

set_option autoImplicit false

namespace PalmyProtocol

open Checked Rounding

namespace Reserve

variable {reserve middle after : Reserve} {now amount : Nat} {user : Address}

structure SameDebts (reserve after : Reserve) : Prop where
  stable : after.stableDebtToken = reserve.stableDebtToken
  floating : after.variableDebtToken = reserve.variableDebtToken

theorem SameDebts.refl (reserve : Reserve) : SameDebts reserve reserve := ⟨rfl, rfl⟩

theorem SameDebts.trans (first : SameDebts reserve middle) (second : SameDebts middle after) :
    SameDebts reserve after :=
  ⟨second.stable.trans first.stable, second.floating.trans first.floating⟩

structure DebtsOnly (reserve after : Reserve) : Prop where
  data : after.toReserveData = reserve.toReserveData
  lToken : after.lToken = reserve.lToken
  underlying : after.underlying = reserve.underlying

theorem DebtsOnly.refl (reserve : Reserve) : DebtsOnly reserve reserve := ⟨rfl, rfl, rfl⟩

theorem DebtsOnly.trans (first : DebtsOnly reserve middle) (second : DebtsOnly middle after) :
    DebtsOnly reserve after :=
  ⟨second.data.trans first.data, second.lToken.trans first.lToken,
    second.underlying.trans first.underlying⟩

theorem burnStableDebt_debtsOnly (computed : reserve.burnStableDebt now user amount = .ok after) :
    DebtsOnly reserve after := by
  obtain ⟨_, _, rfl⟩ := burnStableDebt_ok computed
  exact ⟨rfl, rfl, rfl⟩

theorem burnVariableDebt_debtsOnly (computed : reserve.burnVariableDebt user amount = .ok after) :
    DebtsOnly reserve after := by
  obtain ⟨_, _, rfl⟩ := burnVariableDebt_ok computed
  exact ⟨rfl, rfl, rfl⟩

theorem mintStableDebt_debtsOnly {payer : Address} {rate : Nat} {first : Bool}
    (computed : reserve.mintStableDebt now payer user amount rate = .ok (after, first)) :
    DebtsOnly reserve after := by
  obtain ⟨_, _, rfl⟩ := mintStableDebt_ok computed
  exact ⟨rfl, rfl, rfl⟩

theorem mintVariableDebt_debtsOnly {payer : Address} {first : Bool}
    (computed : reserve.mintVariableDebt payer user amount = .ok (after, first)) :
    DebtsOnly reserve after := by
  obtain ⟨_, _, rfl⟩ := mintVariableDebt_ok computed
  exact ⟨rfl, rfl, rfl⟩

theorem burn_debtsOnly {stable : Prop} [Decidable stable]
    (computed : (if stable then reserve.burnStableDebt now user amount
      else reserve.burnVariableDebt user amount) = .ok after) : DebtsOnly reserve after := by
  split_ifs at computed
  · exact burnStableDebt_debtsOnly computed
  · exact burnVariableDebt_debtsOnly computed

theorem mint_debtsOnly {stable : Prop} [Decidable stable] {payer : Address} {rate : Nat}
    {first : Bool}
    (computed : (if stable then reserve.mintStableDebt now payer user amount rate
      else reserve.mintVariableDebt payer user amount) = .ok (after, first)) :
    DebtsOnly reserve after := by
  split_ifs at computed
  · exact mintStableDebt_debtsOnly computed
  · exact mintVariableDebt_debtsOnly computed

theorem updateState_variableBorrowIndex (computed : reserve.updateState now = .ok after) :
    after.variableBorrowIndex = reserve.accruedVariableBorrowIndex now
      reserve.variableDebtToken.base.totalSupply := by
  obtain ⟨_, _, _, run⟩ := updateState_ok computed
  rw [run.result]
  exact run.floating

theorem updateState_sameDebts (computed : reserve.updateState now = .ok after) :
    SameDebts reserve after := by
  obtain ⟨_, _, _, run⟩ := updateState_ok computed
  rw [run.result]
  exact ⟨rfl, rfl⟩

theorem updateInterestRates_sameDebts {env : Env} {asset lTokenAddress : Address}
    {added taken : Nat}
    (computed : reserve.updateInterestRates env asset lTokenAddress added taken = .ok after) :
    SameDebts reserve after := by
  obtain ⟨_, _, _, _, run⟩ := updateInterestRates_ok computed
  rw [run.result]
  exact ⟨rfl, rfl⟩

theorem transferUnderlyingFrom_sameDebts {spender sender recipient : Address}
    (computed : reserve.transferUnderlyingFrom spender sender recipient amount = .ok after) :
    SameDebts reserve after := by
  obtain ⟨_, _, rfl⟩ := transferUnderlyingFrom_ok computed
  exact ⟨rfl, rfl⟩

theorem transferUnderlyingTo_sameDebts {target : Address}
    (computed : reserve.transferUnderlyingTo target amount = .ok after) :
    SameDebts reserve after := by
  obtain ⟨_, _, _, rfl⟩ := transferUnderlyingTo_ok computed
  exact ⟨rfl, rfl⟩

theorem mintLToken_sameDebts {first : Bool}
    (computed : reserve.mintLToken user amount = .ok (after, first)) : SameDebts reserve after := by
  obtain ⟨_, _, rfl⟩ := mintLToken_ok computed
  exact ⟨rfl, rfl⟩

theorem burnLToken_sameDebts {receiver : Address}
    (computed : reserve.burnLToken user receiver amount = .ok after) : SameDebts reserve after := by
  obtain ⟨_, _, _, _, rfl⟩ := burnLToken_ok computed
  exact ⟨rfl, rfl⟩

def Owes (reserve : Reserve) (user : Address) : Prop :=
  reserve.stableDebtToken.principalBalanceOf user ≠ 0 ∨
    reserve.variableDebtToken.scaledBalanceOf user ≠ 0

theorem SameDebts.owes (same : SameDebts reserve after) (user : Address) :
    Owes after user ↔ Owes reserve user := by
  rw [Owes, Owes, same.stable, same.floating]

theorem owes_of_stableDebt (now : Nat) (owed : reserve.stableDebtToken.debt now user ≠ 0) :
    Owes reserve user := by
  left
  intro none
  exact owed (StableDebtToken.debt_of_no_principal none)

theorem owes_of_variableDebt {index : Nat}
    (owed : divHalfUp (reserve.variableDebtToken.base.balances user * index) RAY ≠ 0) :
    Owes reserve user := by
  right
  intro none
  rw [VariableDebtToken.scaledBalanceOf] at none
  rw [none, Nat.zero_mul, divHalfUp_zero] at owed
  exact owed rfl

theorem burnStableDebt_owes (computed : reserve.burnStableDebt now user amount = .ok after)
    (other : Address) (owing : Owes after other) : Owes reserve other := by
  obtain ⟨token, burned, rfl⟩ := burnStableDebt_ok computed
  rcases owing with stable | floating
  · by_cases same : other = user
    · subst same
      apply owes_of_stableDebt now
      intro none
      have enough := burned.enough
      apply stable
      rw [StableDebtToken.principalBalanceOf, burned.balances, if_pos rfl]
      omega
    · left
      rwa [StableDebtToken.principalBalanceOf, burned.balances, if_neg same] at stable
  · exact .inr floating

theorem burnVariableDebt_owes (computed : reserve.burnVariableDebt user amount = .ok after)
    (other : Address) (owing : Owes after other) : Owes reserve other := by
  obtain ⟨token, burned, rfl⟩ := burnVariableDebt_ok computed
  rcases owing with stable | floating
  · exact .inl stable
  · right
    intro none
    have balance := burned.balances other
    rw [VariableDebtToken.scaledBalanceOf] at none
    have gone : token.base.balances other = 0 := by omega
    exact floating gone

theorem mintStableDebt_owes {payer : Address} {rate : Nat} {first : Bool}
    (computed : reserve.mintStableDebt now payer user amount rate = .ok (after, first))
    (other : Address) (owing : Owes after other) : other = user ∨ Owes reserve other := by
  obtain ⟨token, minted, rfl⟩ := mintStableDebt_ok computed
  by_cases same : other = user
  · exact .inl same
  · right
    rcases owing with stable | floating
    · left
      rwa [StableDebtToken.principalBalanceOf, minted.balances, if_neg same] at stable
    · exact .inr floating

theorem mintVariableDebt_owes {payer : Address} {first : Bool}
    (computed : reserve.mintVariableDebt payer user amount = .ok (after, first))
    (other : Address) (owing : Owes after other) : other = user ∨ Owes reserve other := by
  obtain ⟨token, minted, rfl⟩ := mintVariableDebt_ok computed
  by_cases same : other = user
  · exact .inl same
  · right
    rcases owing with stable | floating
    · exact .inl stable
    · right
      rwa [VariableDebtToken.scaledBalanceOf, minted.balances, if_neg same, Nat.add_zero]
        at floating

-- A mint that succeeds leaves a debt: nothing can be minted to nobody.
theorem owes_mintStableDebt {payer : Address} {rate : Nat} {first : Bool}
    (computed : reserve.mintStableDebt now payer user amount rate = .ok (after, first))
    (other : Address) (owing : other = user ∨ Owes reserve other) : Owes after other := by
  obtain ⟨token, minted, rfl⟩ := mintStableDebt_ok computed
  have joint := (StableDebtToken.weightedRate_ok minted.userRate).1
  by_cases same : other = user
  · left
    rwa [StableDebtToken.principalBalanceOf, minted.balances, if_pos same]
  · rcases owing.resolve_left same with stable | floating
    · left
      rwa [StableDebtToken.principalBalanceOf, minted.balances, if_neg same]
    · exact .inr floating

theorem owes_mintVariableDebt {payer : Address} {first : Bool}
    (computed : reserve.mintVariableDebt payer user amount = .ok (after, first))
    (other : Address) (owing : other = user ∨ Owes reserve other) : Owes after other := by
  obtain ⟨token, minted, rfl⟩ := mintVariableDebt_ok computed
  have balance := minted.balances other
  have some := minted.scaled_ne_zero
  by_cases same : other = user
  · rw [if_pos same] at balance
    have owed : token.base.balances other ≠ 0 := by omega
    exact .inr owed
  · rw [if_neg same, Nat.add_zero] at balance
    rcases owing.resolve_left same with stable | floating
    · exact .inl stable
    · right
      rwa [VariableDebtToken.scaledBalanceOf, balance]

theorem burnStableDebt_full
    (computed : reserve.burnStableDebt now user (reserve.stableDebtToken.debt now user) =
      .ok after) : after.stableDebtToken.principalBalanceOf user = 0 := by
  obtain ⟨token, burned, rfl⟩ := burnStableDebt_ok computed
  rw [StableDebtToken.principalBalanceOf, burned.balances, if_pos rfl, Nat.sub_self]

-- The same for the variable debt, whose view may run ahead of the index that is burned at.
theorem burnVariableDebt_full {shown : Nat} (grown : RAY ≤ reserve.variableBorrowIndex)
    (order : reserve.variableBorrowIndex ≤ shown)
    (computed : reserve.burnVariableDebt user
      (divHalfUp (reserve.variableDebtToken.base.balances user * shown) RAY) = .ok after) :
    after.variableDebtToken.scaledBalanceOf user = 0 := by
  obtain ⟨token, burned, rfl⟩ := burnVariableDebt_ok computed
  have covered : reserve.variableDebtToken.base.balances user ≤ _ := le_rayDiv_rayMul grown order
  have balance := burned.balances user
  rw [if_pos rfl] at balance
  have gone : token.base.balances user = 0 := by omega
  exact gone

end Reserve

end PalmyProtocol
