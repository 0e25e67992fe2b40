import PalmyProtocol.Library.Runs
import PalmyProtocol.Library.Holdings
import PalmyProtocol.Tokenization.LToken
import PalmyProtocol.Tokenization.VariableDebtToken

set_option autoImplicit false

namespace PalmyProtocol

open Checked Rounding Runs Holdings

namespace LToken

-- Every way into the token's ledger. The pool answers a transfer with any income, or reverts it;
-- `validate` is the pool's affair, so all transfers move the ledger alike.
inductive Operation where
  | mint (user : Address) (amount index : Nat)
  | burn (user : Address) (amount index : Nat)
  | mintToTreasury (amount index : Nat)
  | transfer (normalizedIncome : Result Nat) (sender recipient : Address) (amount : Nat)
  | transferFrom (normalizedIncome : Result Nat) (spender sender recipient : Address)
      (amount : Nat)
  | transferOnLiquidation (normalizedIncome : Result Nat) (sender recipient : Address)
      (amount : Nat)
  | approve (owner spender : Address) (amount : Nat)
  | increaseAllowance (owner spender : Address) (addedValue : Nat)
  | decreaseAllowance (owner spender : Address) (subtractedValue : Nat)

def launched (treasury : Address) : LToken := ⟨.empty, treasury⟩

def step (token : LToken) : Operation → Result LToken
  | .mint user amount index => do
      let (token, _) ← token.mint user amount index
      pure token
  | .burn user amount index => token.burn user amount index
  | .mintToTreasury amount index => token.mintToTreasury amount index
  | .transfer normalizedIncome sender recipient amount
  | .transferOnLiquidation normalizedIncome sender recipient amount => do
      let (token, _, _) ← token.transfer normalizedIncome sender recipient amount
      pure token
  | .transferFrom normalizedIncome spender sender recipient amount => do
      let (token, _, _) ← token.transfer normalizedIncome sender recipient amount
      let base ← token.base.spendAllowance sender spender amount
      pure { token with base }
  | .approve owner spender amount => do
      let base ← token.base.approve owner spender amount
      pure { token with base }
  | .increaseAllowance owner spender addedValue => do
      let base ← token.base.increaseAllowance owner spender addedValue
      pure { token with base }
  | .decreaseAllowance owner spender subtractedValue => do
      let base ← token.base.decreaseAllowance owner spender subtractedValue
      pure { token with base }

end LToken

namespace VariableDebtToken

inductive Operation where
  | mint (user onBehalfOf : Address) (amount index : Nat)
  | burn (user : Address) (amount index : Nat)
  | approveDelegation (delegator delegatee : Address) (amount : Nat)

def step (token : VariableDebtToken) : Operation → Result VariableDebtToken
  | .mint user onBehalfOf amount index => do
      let (token, _) ← token.mint user onBehalfOf amount index
      pure token
  | .burn user amount index => token.burn user amount index
  | .approveDelegation delegator delegatee amount =>
      .ok { token with borrowAllowances :=
        DebtTokenBase.approveDelegation token.borrowAllowances delegator delegatee amount }

end VariableDebtToken

namespace ERC20

variable {token after : ERC20} {giver receiver : Address} {given received : Nat}

def Counted (token : ERC20) : Prop := Total token.balances token.totalSupply

theorem counted_empty : Counted .empty := total_zero

theorem SameHoldings.counted (counted : token.Counted) (same : SameHoldings token after) :
    after.Counted := by
  rw [Counted, same.balances, same.totalSupply]
  exact counted

theorem Counted.minted (counted : token.Counted)
    (balances : ∀ a, after.balances a = token.balances a + if a = receiver then received else 0)
    (supply : after.totalSupply = token.totalSupply + received) : after.Counted := by
  have moves : ∀ a, after.balances a + (if a = receiver then 0 else 0) =
      token.balances a + if a = receiver then received else 0 := by
    intro a
    rw [balances, ite_self, Nat.add_zero]
  exact Total.moved counted moves supply

theorem Counted.burned (counted : token.Counted)
    (balances : ∀ a, after.balances a + (if a = giver then given else 0) = token.balances a)
    (supply : after.totalSupply + given = token.totalSupply) : after.Counted := by
  have moves : ∀ a, after.balances a + (if a = giver then given else 0) =
      token.balances a + if a = giver then 0 else 0 := by
    intro a
    rw [balances, ite_self, Nat.add_zero]
  exact Total.moved counted moves supply

theorem Counted.transferred (counted : token.Counted)
    (balances : ∀ a, after.balances a + (if a = giver then given else 0) =
      token.balances a + if a = receiver then given else 0)
    (supply : after.totalSupply = token.totalSupply) : after.Counted := by
  have kept : after.totalSupply + given = token.totalSupply + given := by rw [supply]
  exact Total.moved counted balances kept

end ERC20

open ERC20

namespace LToken

variable {token after : LToken} {operation : Operation}

theorem counted_transferred {index amount fromBefore toBefore : Nat} {sender recipient : Address}
    (counted : token.base.Counted)
    (moved : Transferred token index sender recipient amount after fromBefore toBefore) :
    after.base.Counted :=
  Counted.transferred counted moved.balances moved.totalSupply

theorem counted_step (counted : token.base.Counted) (taken : token.step operation = .ok after) :
    after.base.Counted := by
  cases operation with
  | mint user amount index =>
      simp only [step, bind_eq_ok, Prod.exists, pure_eq_ok] at taken
      obtain ⟨_, _, computed, rfl⟩ := taken
      have minted := mint_ok computed
      exact counted.minted minted.balances minted.totalSupply
  | burn user amount index =>
      have burned := burn_ok taken
      exact counted.burned burned.balances burned.totalSupply
  | mintToTreasury amount index =>
      rcases mintToTreasury_ok taken with ⟨_, rfl⟩ | ⟨_, scaled, _, balances, supply, _, _⟩
      · exact counted
      · exact counted.minted balances supply
  | transfer normalizedIncome sender recipient amount
  | transferOnLiquidation normalizedIncome sender recipient amount =>
      simp only [step, bind_eq_ok, Prod.exists, pure_eq_ok] at taken
      obtain ⟨_, _, _, computed, rfl⟩ := taken
      obtain ⟨index, _, moved⟩ := transfer_ok computed
      exact counted_transferred counted moved
  | transferFrom normalizedIncome spender sender recipient amount =>
      simp only [step, bind_eq_ok, Prod.exists, pure_eq_ok] at taken
      obtain ⟨_, _, _, computed, base, spent, rfl⟩ := taken
      obtain ⟨index, _, moved⟩ := transfer_ok computed
      exact (spendAllowance_holdings spent).counted (counted_transferred counted moved)
  | approve owner spender amount =>
      simp only [step, bind_eq_ok, pure_eq_ok] at taken
      obtain ⟨base, approved, rfl⟩ := taken
      exact (approve_holdings approved).counted counted
  | increaseAllowance owner spender addedValue =>
      simp only [step, bind_eq_ok, pure_eq_ok] at taken
      obtain ⟨base, approved, rfl⟩ := taken
      exact (increaseAllowance_holdings approved).counted counted
  | decreaseAllowance owner spender subtractedValue =>
      simp only [step, bind_eq_ok, pure_eq_ok] at taken
      obtain ⟨base, approved, rfl⟩ := taken
      exact (decreaseAllowance_holdings approved).counted counted

theorem counted_run {treasury : Address} {operations : List Operation}
    (ran : run step (launched treasury) operations = .ok token) : token.base.Counted :=
  run_invariant (fun _ _ _ counted taken => counted_step counted taken) counted_empty ran

end LToken

namespace VariableDebtToken

variable {token after : VariableDebtToken} {operation : Operation}

theorem counted_step (counted : token.base.Counted) (taken : token.step operation = .ok after) :
    after.base.Counted := by
  cases operation with
  | mint user onBehalfOf amount index =>
      simp only [step, bind_eq_ok, Prod.exists, pure_eq_ok] at taken
      obtain ⟨_, _, computed, rfl⟩ := taken
      have minted := mint_ok computed
      exact counted.minted minted.balances minted.totalSupply
  | burn user amount index =>
      have burned := burn_ok taken
      exact counted.burned burned.balances burned.totalSupply
  | approveDelegation delegator delegatee amount =>
      cases taken
      exact counted

theorem counted_run {operations : List Operation}
    (ran : run step .empty operations = .ok token) : token.base.Counted :=
  run_invariant (fun _ _ _ counted taken => counted_step counted taken) counted_empty ran

end VariableDebtToken

namespace ERC20

variable {token : ERC20} {index supply : Nat}

-- Where the supply can be read, so can every balance: none is larger.
theorem Counted.readable (counted : token.Counted)
    (read : rayMul token.totalSupply index = .ok supply) (user : Address) :
    rayMul (token.balances user) index =
      .ok (divHalfUp (token.balances user * index) RAY) := by
  have fits := (rayMul_eq_ok.1 read).1
  have part := Nat.mul_le_mul_right index (Total.le counted user)
  exact rayMul_eq_ok.2 ⟨by omega, rfl⟩

structure Conserved (token : ERC20) (totalSupply : Nat → Result Nat)
    (balanceOf : Nat → Address → Result Nat) (holders : Finset Address) : Prop where
  members : ∀ user, user ∈ holders ↔ token.balances user ≠ 0
  scaled : ∑ user ∈ holders, token.balances user = token.totalSupply
  reported : ∀ index supply, totalSupply index = .ok supply → ∃ shown : Address → Nat,
    (∀ user, balanceOf index user = .ok (shown user)) ∧
      2 * |(supply : Int) - ∑ user ∈ holders, (shown user : Int)| ≤ holders.card + 1

theorem Counted.conserved {totalSupply : Nat → Result Nat}
    {balanceOf : Nat → Address → Result Nat} (counted : token.Counted)
    (supplied : ∀ index supply, totalSupply index = .ok supply →
      rayMul token.totalSupply index = .ok supply)
    (shown : ∀ index user c, rayMul (token.balances user) index = .ok c →
      balanceOf index user = .ok c) :
    ∃ holders, Conserved token totalSupply balanceOf holders := by
  obtain ⟨holders, exact, sum⟩ := Total.holders counted
  refine ⟨holders, exact, sum, fun index supply read => ?_⟩
  have whole := supplied index supply read
  refine ⟨_, fun user => shown index user _ (counted.readable whole user), ?_⟩
  have within := sum_read_within RAY_pos index holders token.balances
  rw [sum, (rayMul_eq_ok.1 whole).2] at within
  exact within

end ERC20

theorem rayMul_zero (index : Nat) : rayMul 0 index = .ok 0 := by simp [rayMul, mulRounded]

theorem LToken.conserved {token : LToken} (counted : token.base.Counted) :
    ∃ holders, Conserved token.base (fun index => token.totalSupply (.ok index))
      (fun index => token.balanceOf (.ok index)) holders := by
  apply counted.conserved
  · intro index supply read
    simp only [totalSupply, ite_eq_ok, ok_bind, Except.ok.injEq] at read
    rcases read with ⟨none, rfl⟩ | ⟨_, read⟩
    · rw [none, rayMul_zero]
    · exact read
  · intro index user c read
    exact read

theorem VariableDebtToken.conserved {token : VariableDebtToken} (counted : token.base.Counted) :
    ∃ holders, Conserved token.base (fun index => token.totalSupply (.ok index))
      (fun index => token.balanceOf (.ok index)) holders := by
  apply counted.conserved
  · intro index supply read
    exact read
  · intro index user c read
    simp only [balanceOf, ok_bind]
    split_ifs with none
    · rw [none, rayMul_zero] at read
      exact read
    · exact read

/-- After every call of a run the scaled supply is the sum of the scaled balances, for an lToken
and for a variable debt token. -/
theorem scaled_supply_conserved {treasury : Address} {operations : List LToken.Operation}
    {debtOperations : List VariableDebtToken.Operation} {token : LToken} {debt : VariableDebtToken}
    (ran : run LToken.step (LToken.launched treasury) operations = .ok token)
    (owed : run VariableDebtToken.step .empty debtOperations = .ok debt) :
    (∃ holders, Conserved token.base (fun index => token.totalSupply (.ok index))
        (fun index => token.balanceOf (.ok index)) holders) ∧
      ∃ holders, Conserved debt.base (fun index => debt.totalSupply (.ok index))
        (fun index => debt.balanceOf (.ok index)) holders :=
  ⟨LToken.conserved (LToken.counted_run ran),
    VariableDebtToken.conserved (VariableDebtToken.counted_run owed)⟩

def LToken.traded : List LToken.Operation :=
  [.mint 7 100 (3 * RAY / 2), .mintToTreasury 1 (3 * RAY / 2), .mint 8 50 (3 * RAY / 2),
    .transfer (.ok (3 * RAY / 2)) 7 7 20, .transfer (.ok (3 * RAY / 2)) 8 9 10,
    .approve 7 8 30, .transferFrom (.ok (2 * RAY)) 8 7 8 30,
    .transferOnLiquidation (.ok (2 * RAY)) 8 9 1, .burn 7 11 (2 * RAY)]

def VariableDebtToken.delegated : List VariableDebtToken.Operation :=
  [.mint 7 7 100 (3 * RAY / 2), .approveDelegation 7 8 50, .mint 8 7 50 (3 * RAY / 2),
    .mint 9 9 5 (2 * RAY), .burn 7 31 (2 * RAY)]

theorem scaled_supply_conserved_traded : ∃ token debt,
    run LToken.step (LToken.launched 9) LToken.traded = .ok token ∧
      run VariableDebtToken.step .empty VariableDebtToken.delegated = .ok debt ∧
      (∃ holders, Conserved token.base (fun index => token.totalSupply (.ok index))
        (fun index => token.balanceOf (.ok index)) holders) ∧
      ∃ holders, Conserved debt.base (fun index => debt.totalSupply (.ok index))
        (fun index => debt.balanceOf (.ok index)) holders := by
  have trades : yields (run LToken.step (LToken.launched 9) LToken.traded)
      (fun _ => true) := by decide +kernel
  have debts : yields (run VariableDebtToken.step .empty VariableDebtToken.delegated)
      (fun _ => true) := by decide +kernel
  obtain ⟨token, ran, _⟩ := yields_iff.1 trades
  obtain ⟨debt, owed, _⟩ := yields_iff.1 debts
  exact ⟨token, debt, ran, owed, scaled_supply_conserved ran owed⟩

structure Gains (index : Nat) (user : Address) (amount : Nat) (before after : Address → Nat) :
    Prop where
  read : ∀ b b', rayMul (before user) index = .ok b → rayMul (after user) index = .ok b' →
    2 * (RAY : Int) * |(b' : Int) - b - amount| ≤ index + 2 * RAY
  others : ∀ other, other ≠ user → after other = before other

theorem gains_share {index amount : Nat} {user : Address} {before after : Address → Nat}
    (priced : index ≠ 0)
    (balances : ∀ a, after a =
      before a + if a = user then divHalfUp (amount * RAY) index else 0) :
    Gains index user amount before after := by
  constructor
  · intro b b' shown shown'
    rw [← (rayMul_eq_ok.1 shown).2, ← (rayMul_eq_ok.1 shown').2, balances, if_pos rfl]
    exact divHalfUp_share RAY_pos (Nat.pos_of_ne_zero priced) (before user) amount
  · intro other different
    rw [balances, if_neg different, Nat.add_zero]

namespace LToken

def mintEach (token : LToken) (user : Address) (index : Nat) : List Nat → Result LToken
  | [] => .ok token
  | amount :: rest => do
      let (token, _) ← token.mint user amount index
      token.mintEach user index rest

theorem mintEach_ok {token after : LToken} {user : Address} {index : Nat} {amounts : List Nat}
    (computed : token.mintEach user index amounts = .ok after) :
    after.base.balances user = token.base.balances user +
      (amounts.map fun amount => divHalfUp (amount * RAY) index).sum := by
  induction amounts generalizing token with
  | nil =>
      cases computed
      rfl
  | cons amount rest ih =>
      simp only [mintEach, bind_eq_ok, Prod.exists] at computed
      obtain ⟨middle, _, here, later⟩ := computed
      rw [ih later, (mint_ok here).balances, if_pos rfl, List.map_cons, List.sum_cons,
        Nat.add_assoc]

end LToken

namespace VariableDebtToken

def mintEach (token : VariableDebtToken) (user onBehalfOf : Address) (index : Nat) :
    List Nat → Result VariableDebtToken
  | [] => .ok token
  | amount :: rest => do
      let (token, _) ← token.mint user onBehalfOf amount index
      token.mintEach user onBehalfOf index rest

theorem mintEach_ok {token after : VariableDebtToken} {user onBehalfOf : Address} {index : Nat}
    {amounts : List Nat} (computed : token.mintEach user onBehalfOf index amounts = .ok after) :
    after.base.balances onBehalfOf = token.base.balances onBehalfOf +
      (amounts.map fun amount => divHalfUp (amount * RAY) index).sum := by
  induction amounts generalizing token with
  | nil =>
      cases computed
      rfl
  | cons amount rest ih =>
      simp only [mintEach, bind_eq_ok, Prod.exists] at computed
      obtain ⟨middle, _, here, later⟩ := computed
      rw [ih later, (mint_ok here).balances, if_pos rfl, List.map_cons, List.sum_cons,
        Nat.add_assoc]

end VariableDebtToken

theorem mapM_rayDiv_ok {index : Nat} {amounts shares : List Nat}
    (computed : amounts.mapM (rayDiv · index) = .ok shares) :
    shares = amounts.map fun amount => divHalfUp (amount * RAY) index := by
  induction amounts generalizing shares with
  | nil =>
      cases computed
      rfl
  | cons amount rest ih =>
      simp only [List.mapM_cons, bind_eq_ok, pure_eq_ok] at computed
      obtain ⟨share, here, others, later, rfl⟩ := computed
      rw [List.map_cons, ih later, (rayDiv_ok here).2]

theorem held_within {index held split whole : Nat} {amounts : List Nat} (priced : 0 < index)
    (each : split = held + (amounts.map fun amount => divHalfUp (amount * RAY) index).sum)
    (once : whole = held + divHalfUp (amounts.sum * RAY) index) :
    2 * |(split : Int) - whole| ≤ amounts.length + 1 := by
  have within := shares_within priced RAY amounts
  rw [each, once]
  push_cast at within ⊢
  rwa [add_sub_add_left_eq_sub]

/-- At an index of at least one every mint and burn of an lToken or a variable debt token moves the
user's balance by its amount within half an index, and amounts minted one by one come within `(n +
1) / 2` of their sum minted at once. -/
theorem scaled_tokens_accurate {index : Nat} (grown : RAY ≤ index) :
    (∀ (token after : LToken) user amount first, token.mint user amount index = .ok (after, first) →
      Gains index user amount token.base.balances after.base.balances) ∧
    (∀ (token after : LToken) user amount, token.burn user amount index = .ok after →
      Gains index user amount after.base.balances token.base.balances) ∧
    (∀ (token after : LToken) amount, token.mintToTreasury amount index = .ok after →
      Gains index token.treasury amount token.base.balances after.base.balances) ∧
    (∀ (token after : VariableDebtToken) user onBehalfOf amount first,
      token.mint user onBehalfOf amount index = .ok (after, first) →
        Gains index onBehalfOf amount token.base.balances after.base.balances) ∧
    (∀ (token after : VariableDebtToken) user amount, token.burn user amount index = .ok after →
      Gains index user amount after.base.balances token.base.balances) ∧
    (∀ (amounts shares : List Nat) whole, amounts.mapM (rayDiv · index) = .ok shares →
      rayDiv amounts.sum index = .ok whole →
        2 * |(shares.sum : Int) - whole| ≤ amounts.length + 1) ∧
    (∀ (token split whole : LToken) user amounts first,
      token.mintEach user index amounts = .ok split →
        token.mint user amounts.sum index = .ok (whole, first) →
          2 * |(split.base.balances user : Int) - whole.base.balances user| ≤
            amounts.length + 1) ∧
    ∀ (token split whole : VariableDebtToken) user onBehalfOf amounts first,
      token.mintEach user onBehalfOf index amounts = .ok split →
        token.mint user onBehalfOf amounts.sum index = .ok (whole, first) →
          2 * |(split.base.balances onBehalfOf : Int) - whole.base.balances onBehalfOf| ≤
            amounts.length + 1 := by
  have priced : 0 < index := Nat.lt_of_lt_of_le RAY_pos grown
  refine ⟨?_, ?_, ?_, ?_, ?_, ?_, ?_, ?_⟩
  · intro token after user amount first computed
    exact gains_share priced.ne' (LToken.mint_ok computed).balances
  · intro token after user amount computed
    exact gains_share priced.ne' fun a => ((LToken.burn_ok computed).balances a).symm
  · intro token after amount computed
    rcases LToken.mintToTreasury_ok computed with ⟨rfl, rfl⟩ | ⟨_, _, rfl, balances, _⟩
    · apply gains_share priced.ne'
      intro a
      rw [Nat.zero_mul, divHalfUp_zero, ite_self, Nat.add_zero]
    · exact gains_share priced.ne' balances
  · intro token after user onBehalfOf amount first computed
    exact gains_share priced.ne' (VariableDebtToken.mint_ok computed).balances
  · intro token after user amount computed
    exact gains_share priced.ne' fun a => ((VariableDebtToken.burn_ok computed).balances a).symm
  · intro amounts shares whole each once
    rw [mapM_rayDiv_ok each, ← (rayDiv_ok once).2]
    exact shares_within priced RAY amounts
  · intro token split whole user amounts first each once
    have minted := (LToken.mint_ok once).balances user
    rw [if_pos rfl] at minted
    exact held_within priced (LToken.mintEach_ok each) minted
  · intro token split whole user onBehalfOf amounts first each once
    have minted := (VariableDebtToken.mint_ok once).balances onBehalfOf
    rw [if_pos rfl] at minted
    exact held_within priced (VariableDebtToken.mintEach_ok each) minted

-- At 1.5 a mint of 4 holds 3 shares, while 1 and 1 and 1 and 1 hold 4.
theorem scaled_tokens_accurate_split : ∃ whole split first,
    (LToken.launched 9).mint 7 4 (3 * RAY / 2) = .ok (whole, first) ∧
      (LToken.launched 9).mintEach 7 (3 * RAY / 2) [1, 1, 1, 1] = .ok split ∧
      split.base.balances 7 = 4 ∧ whole.base.balances 7 = 3 ∧
      Gains (3 * RAY / 2) 7 4 (LToken.launched 9).base.balances whole.base.balances ∧
      2 * |(split.base.balances 7 : Int) - whole.base.balances 7| ≤
        ([1, 1, 1, 1] : List Nat).length + 1 := by
  have minted : yields ((LToken.launched 9).mint 7 4 (3 * RAY / 2))
      (fun result => result.1.base.balances 7 = 3) := by decide +kernel
  have parts : yields ((LToken.launched 9).mintEach 7 (3 * RAY / 2) [1, 1, 1, 1])
      (fun split => split.base.balances 7 = 4) := by decide +kernel
  obtain ⟨⟨whole, first⟩, once, three⟩ := yields_iff.1 minted
  obtain ⟨split, each, four⟩ := yields_iff.1 parts
  obtain ⟨mint, _, _, _, _, _, lists, _⟩ := scaled_tokens_accurate
    (show RAY ≤ 3 * RAY / 2 by decide)
  exact ⟨whole, split, first, once, each, of_decide_eq_true four, of_decide_eq_true three,
    mint _ _ _ _ _ once, lists _ _ _ _ _ _ each once⟩

end PalmyProtocol
