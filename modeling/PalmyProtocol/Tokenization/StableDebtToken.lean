import PalmyProtocol.Math.MathUtils
import PalmyProtocol.Tokenization.DebtTokenBase

set_option autoImplicit false

namespace PalmyProtocol

open Checked Rounding MathUtils

structure StableDebtToken where
  base : ERC20
  borrowAllowances : DebtTokenBase.BorrowAllowances
  avgStableRate : Nat
  timestamps : Address → Nat
  usersStableRate : Address → Nat
  totalSupplyTimestamp : Nat

namespace StableDebtToken

-- The `Mint` and `Burn` events, with the aggregates they report in their last two fields.
inductive Emitted where
  | mint (user onBehalfOf : Address)
      (amount currentBalance balanceIncrease newRate avgStableRate newTotalSupply : Nat)
  | burn (user : Address) (amount currentBalance balanceIncrease avgStableRate newTotalSupply : Nat)
  deriving DecidableEq

def empty : StableDebtToken := ⟨.empty, fun _ _ => 0, 0, fun _ => 0, fun _ => 0, 0⟩

variable (token : StableDebtToken)

def principalBalanceOf (user : Address) : Nat := token.base.balances user

def balanceOf (now : Nat) (account : Address) : Result Nat :=
  let accountBalance := token.base.balances account
  let stableRate := token.usersStableRate account
  if accountBalance = 0 then .ok 0 else do
    let cumulatedInterest ← calculateCompoundedInterest stableRate (token.timestamps account) now
    rayMul accountBalance cumulatedInterest

def calcTotalSupply (now avgRate : Nat) : Result Nat :=
  let principalSupply := token.base.totalSupply
  if principalSupply = 0 then .ok 0 else do
    let cumulatedInterest ← calculateCompoundedInterest avgRate token.totalSupplyTimestamp now
    rayMul principalSupply cumulatedInterest

def totalSupply (now : Nat) : Result Nat := token.calcTotalSupply now token.avgStableRate

def getTotalSupplyAndAvgRate (now : Nat) : Result (Nat × Nat) := do
  let avgRate := token.avgStableRate
  let supply ← token.calcTotalSupply now avgRate
  pure (supply, avgRate)

def getSupplyData (now : Nat) : Result (Nat × Nat × Nat × Nat) := do
  let avgRate := token.avgStableRate
  let supply ← token.calcTotalSupply now avgRate
  pure (token.base.totalSupply, supply, avgRate, token.totalSupplyTimestamp)

def calculateBalanceIncrease (now : Nat) (user : Address) : Result (Nat × Nat × Nat) :=
  let previousPrincipalBalance := token.base.balances user
  if previousPrincipalBalance = 0 then .ok (0, 0, 0) else do
    let balance ← token.balanceOf now user
    let balanceIncrease ← SafeMath.sub balance previousPrincipalBalance
    let newPrincipalBalance ← SafeMath.add previousPrincipalBalance balanceIncrease
    pure (previousPrincipalBalance, newPrincipalBalance, balanceIncrease)

-- Unlike the base ledger's, these leave the total supply alone: it was already set.
def mintBalance (balances : Address → Nat) (account : Address) (amount : Nat) :
    Result (Address → Nat) := do
  let balance ← SafeMath.add (balances account) amount
  pure (Function.update balances account balance)

def burnBalance (balances : Address → Nat) (account : Address) (amount : Nat) :
    Result (Address → Nat) := do
  let balance ← SafeMath.subOr (balances account) amount Errors.SDT_BURN_EXCEEDS_BALANCE
  pure (Function.update balances account balance)

def weightedRate (rate amount rate' amount' joint : Nat) : Result Nat := do
  let amountInRay ← wadToRay amount
  let term ← rayMul rate amountInRay
  let amountInRay' ← wadToRay amount'
  let term' ← rayMul amountInRay' rate'
  let terms ← SafeMath.add term term'
  let jointInRay ← wadToRay joint
  rayDiv terms jointInRay

def mint (now : Nat) (user onBehalfOf : Address) (amount rate : Nat) :
    Result (StableDebtToken × Bool × Emitted) := do
  let borrowAllowances ←
    DebtTokenBase.consumeDelegation token.borrowAllowances user onBehalfOf amount
  let (_, currentBalance, balanceIncrease) ← token.calculateBalanceIncrease now onBehalfOf
  let previousSupply ← token.totalSupply now
  let nextSupply ← SafeMath.add previousSupply amount
  let joint ← SafeMath.add currentBalance amount
  let newStableRate ←
    weightedRate (token.usersStableRate onBehalfOf) currentBalance rate amount joint
  require (newStableRate ≤ maxUint128) Errors.SDT_STABLE_DEBT_OVERFLOW
  let currentAvgStableRate ←
    weightedRate token.avgStableRate previousSupply rate amount nextSupply
  let minted ← SafeMath.add amount balanceIncrease
  let balances ← mintBalance token.base.balances onBehalfOf minted
  pure ({
      base := { token.base with totalSupply := nextSupply, balances }
      borrowAllowances
      avgStableRate := currentAvgStableRate
      timestamps := Function.update token.timestamps onBehalfOf (uint40 now)
      usersStableRate := Function.update token.usersStableRate onBehalfOf newStableRate
      totalSupplyTimestamp := uint40 now },
    currentBalance = 0,
    .mint user onBehalfOf amount currentBalance balanceIncrease newStableRate currentAvgStableRate
      nextSupply)

-- The aggregates after a burn: stored total supply, stored average rate, reported supply.
def burnSupply (previousSupply userStableRate amount : Nat) : Result (Nat × Nat × Nat) :=
  if previousSupply ≤ amount then .ok (0, 0, 0) else do
    let nextSupply ← SafeMath.sub previousSupply amount
    let previousSupplyInRay ← wadToRay previousSupply
    let firstTerm ← rayMul token.avgStableRate previousSupplyInRay
    let amountInRay ← wadToRay amount
    let secondTerm ← rayMul userStableRate amountInRay
    if firstTerm ≤ secondTerm then pure (0, 0, nextSupply) else do
      let difference ← SafeMath.sub firstTerm secondTerm
      let nextSupplyInRay ← wadToRay nextSupply
      let newAvgStableRate ← rayDiv difference nextSupplyInRay
      pure (nextSupply, newAvgStableRate, nextSupply)

def burn (now : Nat) (user : Address) (amount : Nat) : Result (StableDebtToken × Emitted) := do
  let (_, currentBalance, balanceIncrease) ← token.calculateBalanceIncrease now user
  let previousSupply ← token.totalSupply now
  let userStableRate := token.usersStableRate user
  let (supply, newAvgStableRate, nextSupply) ←
    token.burnSupply previousSupply userStableRate amount
  let full := amount = currentBalance
  let (balances, event) ←
    (if amount < balanceIncrease then do
      let amountToMint ← SafeMath.sub balanceIncrease amount
      let balances ← mintBalance token.base.balances user amountToMint
      pure (balances, Emitted.mint user user amountToMint currentBalance balanceIncrease
        userStableRate newAvgStableRate nextSupply)
    else do
      let amountToBurn ← SafeMath.sub amount balanceIncrease
      let balances ← burnBalance token.base.balances user amountToBurn
      pure (balances, Emitted.burn user amountToBurn currentBalance balanceIncrease
        newAvgStableRate nextSupply))
  pure ({ token with
      base := { token.base with totalSupply := supply, balances }
      avgStableRate := newAvgStableRate
      timestamps := Function.update token.timestamps user (if full then 0 else uint40 now)
      usersStableRate :=
        Function.update token.usersStableRate user (if full then 0 else userStableRate)
      totalSupplyTimestamp := uint40 now },
    event)

def debt (now : Nat) (user : Address) : Nat :=
  divHalfUp (token.base.balances user *
    compoundedInterest (token.usersStableRate user) (now - token.timestamps user)) RAY

def supply (now : Nat) : Nat :=
  divHalfUp (token.base.totalSupply *
    compoundedInterest token.avgStableRate (now - token.totalSupplyTimestamp)) RAY

variable {token} {after : StableDebtToken} {now amount rate c : Nat} {user onBehalfOf : Address}

theorem balanceOf_ok (computed : token.balanceOf now user = .ok c) :
    c = token.debt now user ∧ (token.base.balances user ≠ 0 → token.timestamps user ≤ now) := by
  simp only [balanceOf, ite_eq_ok, bind_eq_ok, rayMul_eq_ok, Except.ok.injEq] at computed
  rcases computed with ⟨none, rfl⟩ | ⟨_, cumulated, interest, _, rfl⟩
  · simp [debt, none]
  · obtain ⟨order, rfl⟩ := calculateCompoundedInterest_ok interest
    exact ⟨rfl, fun _ => order⟩

theorem calcTotalSupply_ok {avgRate : Nat} (computed : token.calcTotalSupply now avgRate = .ok c) :
    c = divHalfUp (token.base.totalSupply *
      compoundedInterest avgRate (now - token.totalSupplyTimestamp)) RAY := by
  simp only [calcTotalSupply, ite_eq_ok, bind_eq_ok, rayMul_eq_ok, Except.ok.injEq] at computed
  rcases computed with ⟨none, rfl⟩ | ⟨_, cumulated, interest, _, rfl⟩
  · simp [none]
  · obtain ⟨_, rfl⟩ := calculateCompoundedInterest_ok interest
    rfl

theorem totalSupply_ok (computed : token.totalSupply now = .ok c) : c = token.supply now :=
  calcTotalSupply_ok computed

theorem getTotalSupplyAndAvgRate_ok {avgRate : Nat}
    (computed : token.getTotalSupplyAndAvgRate now = .ok (c, avgRate)) :
    token.totalSupply now = .ok c ∧ avgRate = token.avgStableRate := by
  simp only [getTotalSupplyAndAvgRate, bind_eq_ok, pure_eq_ok, Prod.mk.injEq] at computed
  obtain ⟨_, supplied, rfl, rfl⟩ := computed
  exact ⟨supplied, rfl⟩

theorem balances_le_debt (token : StableDebtToken) (now : Nat) (user : Address) :
    token.base.balances user ≤ token.debt now user :=
  le_rayMul (RAY_le_compoundedInterest _ _)

theorem debt_at_timestamp (current : token.timestamps user = now) :
    token.debt now user = token.base.balances user := by
  rw [debt, current, Nat.sub_self, compoundedInterest_zero, rayMul_RAY]

theorem debt_of_no_principal (none : token.base.balances user = 0) : token.debt now user = 0 := by
  simp [debt, none]

theorem supply_at_timestamp (current : token.totalSupplyTimestamp = now) :
    token.supply now = token.base.totalSupply := by
  rw [supply, current, Nat.sub_self, compoundedInterest_zero, rayMul_RAY]

theorem calculateBalanceIncrease_ok {principal balance increase : Nat}
    (computed : token.calculateBalanceIncrease now user = .ok (principal, balance, increase)) :
    principal = token.base.balances user ∧ balance = token.debt now user ∧
      principal + increase = balance ∧
      (token.base.balances user ≠ 0 → token.timestamps user ≤ now) := by
  simp only [calculateBalanceIncrease, ite_eq_ok, bind_eq_ok, SafeMath.sub_eq_ok,
    SafeMath.add_eq_ok, pure_eq_ok, Except.ok.injEq, Prod.mk.injEq] at computed
  rcases computed with ⟨none, rfl, rfl, rfl⟩ | ⟨_, _, read, _, ⟨grown, rfl⟩, _, ⟨_, rfl⟩, rfl, rfl, rfl⟩
  · simp [none, debt_of_no_principal none]
  · obtain ⟨rfl, order⟩ := balanceOf_ok read
    exact ⟨rfl, Nat.add_sub_cancel' grown, rfl, order⟩

theorem weightedRate_ok {rate amount rate' amount' joint c : Nat}
    (computed : weightedRate rate amount rate' amount' joint = .ok c) :
    joint ≠ 0 ∧ c = divHalfUp
      ((divHalfUp (rate * (amount * WAD_RAY_RATIO)) RAY +
        divHalfUp (amount' * WAD_RAY_RATIO * rate') RAY) * RAY) (joint * WAD_RAY_RATIO) := by
  simp only [weightedRate, bind_eq_ok, wadToRay_eq_ok, rayMul_eq_ok, SafeMath.add_eq_ok] at computed
  obtain ⟨_, ⟨_, rfl⟩, _, ⟨_, rfl⟩, _, ⟨_, rfl⟩, _, ⟨_, rfl⟩, _, ⟨_, rfl⟩, _, ⟨_, rfl⟩, divided⟩ :=
    computed
  obtain ⟨nonzero, rfl⟩ := rayDiv_ok divided
  refine ⟨?_, rfl⟩
  rintro rfl
  exact nonzero (Nat.zero_mul _)

structure Minted (token : StableDebtToken) (now : Nat) (user onBehalfOf : Address)
    (amount rate : Nat) (after : StableDebtToken) (first : Bool) : Prop where
  delegation : DebtTokenBase.consumeDelegation token.borrowAllowances user onBehalfOf amount =
    .ok after.borrowAllowances
  order : token.base.balances onBehalfOf ≠ 0 → token.timestamps onBehalfOf ≤ now
  balances : ∀ a, after.base.balances a =
    if a = onBehalfOf then token.debt now onBehalfOf + amount else token.base.balances a
  totalSupply : after.base.totalSupply = token.supply now + amount
  totalSupply_ne_zero : after.base.totalSupply ≠ 0
  userRate : weightedRate (token.usersStableRate onBehalfOf) (token.debt now onBehalfOf) rate amount
    (token.debt now onBehalfOf + amount) = .ok (after.usersStableRate onBehalfOf)
  userRate_bound : after.usersStableRate onBehalfOf ≤ maxUint128
  otherRates : ∀ a, a ≠ onBehalfOf → after.usersStableRate a = token.usersStableRate a
  avgRate : weightedRate token.avgStableRate (token.supply now) rate amount
    (token.supply now + amount) = .ok after.avgStableRate
  timestamps : after.timestamps = Function.update token.timestamps onBehalfOf (uint40 now)
  totalSupplyTimestamp : after.totalSupplyTimestamp = uint40 now
  first : first = decide (token.debt now onBehalfOf = 0)

theorem mint_ok {first : Bool} {event : Emitted}
    (computed : token.mint now user onBehalfOf amount rate = .ok (after, first, event)) :
    Minted token now user onBehalfOf amount rate after first := by
  simp only [mint, bind_eq_ok, Prod.exists, SafeMath.add_eq_ok, require_eq_ok, exists_const,
    mintBalance, pure_eq_ok, Prod.mk.injEq] at computed
  obtain ⟨_, delegated, principal, _, increase, increased, _, supplied, _, ⟨_, rfl⟩, _, ⟨_, rfl⟩,
    userRate, rated, bound, avgRate, averaged, _, ⟨_, rfl⟩, _, ⟨_, ⟨_, rfl⟩, rfl⟩, rfl, rfl, _⟩ :=
    computed
  obtain ⟨rfl, rfl, grown, order⟩ := calculateBalanceIncrease_ok increased
  obtain rfl := totalSupply_ok supplied
  refine ⟨delegated, order, fun a => ?_, rfl, (weightedRate_ok averaged).1, ?_, ?_, ?_, averaged,
    rfl, rfl, rfl⟩
  · by_cases receives : a = onBehalfOf
    · subst receives
      simp only [Function.update_self, if_true]
      omega
    · simp [receives]
  · simpa using rated
  · simpa using bound
  · intro a other
    simp [other]

structure Burned (token : StableDebtToken) (now : Nat) (user : Address) (amount : Nat)
    (after : StableDebtToken) : Prop where
  order : token.base.balances user ≠ 0 → token.timestamps user ≤ now
  enough : amount ≤ token.debt now user
  balances : ∀ a, after.base.balances a =
    if a = user then token.debt now user - amount else token.base.balances a
  allowances : after.borrowAllowances = token.borrowAllowances
  aggregates : ∃ reported, token.burnSupply (token.supply now) (token.usersStableRate user) amount =
    .ok (after.base.totalSupply, after.avgStableRate, reported)
  timestamps : after.timestamps = Function.update token.timestamps user
    (if amount = token.debt now user then 0 else uint40 now)
  usersStableRate : after.usersStableRate = Function.update token.usersStableRate user
    (if amount = token.debt now user then 0 else token.usersStableRate user)
  totalSupplyTimestamp : after.totalSupplyTimestamp = uint40 now

theorem burn_ok {event : Emitted} (computed : token.burn now user amount = .ok (after, event)) :
    Burned token now user amount after := by
  simp only [burn, bind_eq_ok, Prod.exists, mintBalance, burnBalance, ite_eq_ok,
    SafeMath.add_eq_ok, SafeMath.sub_eq_ok, SafeMath.subOr_eq_ok, pure_eq_ok,
    Prod.mk.injEq] at computed
  obtain ⟨_, _, increase, increased, _, supplied, _, _, reported, aggregates, balances, _, moved,
    rfl, _⟩ := computed
  obtain ⟨rfl, rfl, grown, order⟩ := calculateBalanceIncrease_ok increased
  obtain rfl := totalSupply_ok supplied
  have principal : amount ≤ token.debt now user ∧
      balances = Function.update token.base.balances user (token.debt now user - amount) := by
    rcases moved with ⟨less, _, ⟨_, rfl⟩, _, ⟨_, ⟨_, rfl⟩, rfl⟩, rfl, _⟩ |
      ⟨more, _, ⟨_, rfl⟩, _, ⟨_, ⟨held, rfl⟩, rfl⟩, rfl, _⟩
    · refine ⟨by omega, ?_⟩
      congr 1
      omega
    · refine ⟨by omega, ?_⟩
      congr 1
      omega
  obtain ⟨enough, rfl⟩ := principal
  refine ⟨order, enough, fun a => ?_, rfl, ⟨reported, aggregates⟩, rfl, rfl, rfl⟩
  simp only [Function.update_apply]

end StableDebtToken

end PalmyProtocol
