import PalmyProtocol.System.World

set_option autoImplicit false

namespace PalmyProtocol

open Checked

structure EtherWorld where
  pool : LendingPool
  ether : Address → Nat

-- A transfer of ether moves its value before the code of the recipient runs.
def sendEther (ether : Address → Nat) (sender recipient : Address) (value : Nat)
    (message : String) : Result (Address → Nat) := do
  let sent ← SafeMath.subOr (ether sender) value message
  let ether := Function.update ether sender sent
  pure (Function.update ether recipient (ether recipient + value))

-- The total supply of WETH9 is the ether it holds, so only the balances are written.
namespace WETH9

def deposit (token : ERC20) (msgSender : Address) (value : Nat) : ERC20 :=
  { token with
    balances := Function.update token.balances msgSender
      (wrapAdd (token.balances msgSender) value) }

def withdraw (token : ERC20) (msgSender : Address) (wad : Nat) : Result ERC20 := do
  require (wad ≤ token.balances msgSender) noMessage
  pure { token with
    balances := Function.update token.balances msgSender (token.balances msgSender - wad) }

def approve (token : ERC20) (msgSender guy : Address) (wad : Nat) : ERC20 :=
  { token with allowances := setAllowance token.allowances msgSender guy wad }

end WETH9

structure WETHGateway where
  self : Address
  weth : Address
  owner : Address

namespace WETHGateway

variable (gateway : WETHGateway) (pool : LendingPool)

def underlying : ERC20 := (pool.reserves gateway.weth).underlying

def setUnderlying (underlying : ERC20) : LendingPool :=
  pool.setReserve gateway.weth { pool.reserves gateway.weth with underlying }

def wrapped (value : Nat) : LendingPool :=
  gateway.setUnderlying pool (WETH9.deposit (gateway.underlying pool) gateway.self value)

variable (env : Env) (world : EtherWorld)

-- `WETH.deposit{value: value}()`; a plain transfer of ether to WETH does the same.
def wrap (value : Nat) (message : String) : Result EtherWorld := do
  let ether ← sendEther world.ether gateway.self gateway.weth value message
  pure ⟨gateway.wrapped world.pool value, ether⟩

-- `WETH.withdraw(wad)`; the gateway takes ether from WETH and from nobody else.
def unwrap (wad : Nat) : Result EtherWorld := do
  let underlying ← WETH9.withdraw (gateway.underlying world.pool) gateway.self wad
  let ether ← sendEther world.ether gateway.weth gateway.self wad noMessage
  pure ⟨gateway.setUnderlying world.pool underlying, ether⟩

def authorizeLendingPool (msgSender lendingPool : Address) : Result EtherWorld := do
  require (gateway.owner = msgSender) "Ownable: caller is not the owner"
  let underlying := WETH9.approve (gateway.underlying world.pool) gateway.self lendingPool maxUint256
  pure { world with pool := gateway.setUnderlying world.pool underlying }

-- Everything that the recipient does on receiving comes after what the gateway does.
variable (acceptsEther : Address → Bool)

def safeTransferETH (recipient : Address) (value : Nat) : Result EtherWorld :=
  if recipient = gateway.weth then gateway.wrap world value "ETH_TRANSFER_FAILED" else do
    require (recipient ≠ gateway.self ∧ acceptsEther recipient) "ETH_TRANSFER_FAILED"
    let ether ← sendEther world.ether gateway.self recipient value "ETH_TRANSFER_FAILED"
    pure { world with ether }

def pay (msgSender : Address) (msgValue : Nat) : Result EtherWorld := do
  let ether ← sendEther world.ether msgSender gateway.self msgValue noMessage
  pure { world with ether }

def depositETH (msgSender : Address) (msgValue : Nat) (onBehalfOf : Address) :
    Result EtherWorld := do
  let world ← gateway.pay world msgSender msgValue
  let world ← gateway.wrap world msgValue noMessage
  let pool ← world.pool.deposit env gateway.self gateway.weth msgValue onBehalfOf
  pure { world with pool }

def withdrawETH (msgSender : Address) (amount : Nat) (recipient : Address) :
    Result EtherWorld := do
  let userBalance ← (world.pool.reserves gateway.weth).lTokenBalanceOf env.timestamp msgSender
  -- if amount is equal to uint(-1), the user wants to redeem everything
  let amountToWithdraw := if amount = maxUint256 then userBalance else amount
  let pool ← world.pool.transferFrom env gateway.self gateway.weth msgSender gateway.self
    amountToWithdraw
  let (pool, _) ← pool.withdraw env gateway.self gateway.weth amountToWithdraw gateway.self
  let ethBalanceBeforeWithdraw := world.ether gateway.self
  let world ← gateway.unwrap { world with pool } amountToWithdraw
  let ethBalanceAfterWithdraw := world.ether gateway.self
  require (amountToWithdraw ≤
    (ethBalanceAfterWithdraw + 2 ^ 256 - ethBalanceBeforeWithdraw) % 2 ^ 256)
    "WITHDRAW_ETH_BALANCE_INCONSISTENT"
  gateway.safeTransferETH world acceptsEther recipient amountToWithdraw

-- The amount that is wrapped is not the amount that the pool is asked for.
def repayETH (msgSender : Address) (amount rateMode : Nat) (onBehalfOf : Address)
    (msgValue : Nat) : Result EtherWorld := do
  let world ← gateway.pay world msgSender msgValue
  let (stableDebt, variableDebt) ←
    (world.pool.reserves gateway.weth).getUserCurrentDebt env.timestamp onBehalfOf
  let interestRateMode ← toInterestRateMode rateMode
  let owed := if interestRateMode = .STABLE then stableDebt else variableDebt
  let paybackAmount := if amount < owed then amount else owed
  require (paybackAmount ≤ msgValue) "msg.value is less than repayment amount"
  let world ← gateway.wrap world paybackAmount noMessage
  let (pool, _) ← world.pool.repay env gateway.self gateway.weth msgValue rateMode onBehalfOf
  -- refund remaining dust eth
  if paybackAmount < msgValue then
    gateway.safeTransferETH { world with pool } acceptsEther msgSender (msgValue - paybackAmount)
  else pure { world with pool }

def borrowETH (msgSender : Address) (amount interestRateMode : Nat) : Result EtherWorld := do
  let pool ← world.pool.borrow env gateway.self gateway.weth amount interestRateMode msgSender
  let world ← gateway.unwrap { world with pool } amount
  gateway.safeTransferETH world acceptsEther msgSender amount

end WETHGateway

def EtherMoved (before after : Address → Nat) (sender recipient : Address) (value : Nat) : Prop :=
  ∀ a, after a + (if a = sender then value else 0) =
    before a + if a = recipient then value else 0

section Moves

variable {ether before after : Address → Nat} {sender middle recipient : Address} {value : Nat}

theorem sendEther_paid (enough : value ≤ ether sender) (recipient : Address) (message : String) :
    ∃ after, sendEther ether sender recipient value message = .ok after ∧
      EtherMoved ether after sender recipient value := by
  have sent : SafeMath.subOr (ether sender) value message = .ok (ether sender - value) :=
    SafeMath.subOr_eq_ok.2 ⟨enough, rfl⟩
  refine ⟨_, by rw [sendEther, sent, ok_bind]; rfl, fun a => ?_⟩
  by_cases sends : a = sender <;> by_cases receives : a = recipient
  · subst sends receives
    simp
    omega
  · subst sends
    simp [receives]
    omega
  · subst receives
    simp [sends]
  · simp [sends, receives]

theorem EtherMoved.left (moved : EtherMoved before after sender recipient value)
    (apart : sender ≠ recipient) :
    after sender + value = before sender := by
  have balance := moved sender
  rwa [if_pos rfl, if_neg apart, Nat.add_zero] at balance

theorem EtherMoved.arrived (moved : EtherMoved before after sender recipient value)
    (apart : sender ≠ recipient) :
    after recipient = before recipient + value := by
  have balance := moved recipient
  rwa [if_neg (Ne.symm apart), if_pos rfl, Nat.add_zero] at balance

theorem EtherMoved.trans (first : EtherMoved before ether sender middle value)
    (second : EtherMoved ether after middle recipient value) :
    EtherMoved before after sender recipient value := by
  intro a
  have left := first a
  have right := second a
  omega

end Moves

namespace WETHGateway

variable {gateway : WETHGateway} {pool : LendingPool} {world after : EtherWorld} {value : Nat}
variable {acceptsEther : Address → Bool} {recipient : Address}

@[simp]
theorem setUnderlying_same (underlying : ERC20) :
    gateway.underlying (gateway.setUnderlying pool underlying) = underlying := by
  simp [WETHGateway.underlying, setUnderlying]

theorem wrap_paid (world : EtherWorld) (enough : value ≤ world.ether gateway.self)
    (message : String) :
    ∃ ether, gateway.wrap world value message = .ok ⟨gateway.wrapped world.pool value, ether⟩ ∧
      EtherMoved world.ether ether gateway.self gateway.weth value := by
  obtain ⟨ether, sent, moved⟩ := sendEther_paid enough gateway.weth message
  exact ⟨ether, by rw [wrap, sent, ok_bind]; rfl, moved⟩

theorem safeTransferETH_ok (ordinary : recipient ≠ gateway.weth)
    (computed : gateway.safeTransferETH world acceptsEther recipient value = .ok after) :
    after.pool = world.pool := by
  simp only [safeTransferETH, ordinary, if_false, bind_eq_ok, require_eq_ok, exists_const,
    pure_eq_ok] at computed
  obtain ⟨_, _, _, rfl⟩ := computed
  rfl

theorem safeTransferETH_paid (world : EtherWorld) (other : recipient ≠ gateway.self)
    (ordinary : recipient ≠ gateway.weth) (accepts : acceptsEther recipient = true)
    (enough : value ≤ world.ether gateway.self) :
    ∃ ether, gateway.safeTransferETH world acceptsEther recipient value = .ok ⟨world.pool, ether⟩ ∧
      EtherMoved world.ether ether gateway.self recipient value := by
  obtain ⟨ether, sent, moved⟩ := sendEther_paid enough recipient "ETH_TRANSFER_FAILED"
  refine ⟨ether, ?_, moved⟩
  simp only [safeTransferETH, ordinary, if_false, bind_eq_ok, require_eq_ok, exists_const,
    pure_eq_ok]
  exact ⟨⟨other, accepts⟩, ether, sent, rfl⟩

def Takes (gateway : WETHGateway) (acceptsEther : Address → Bool) (recipient : Address) : Prop :=
  recipient = gateway.weth ∨ (recipient ≠ gateway.self ∧ acceptsEther recipient = true)

theorem safeTransferETH_taken (world : EtherWorld)
    (takes : gateway.Takes acceptsEther recipient)
    (enough : value ≤ world.ether gateway.self) :
    ∃ after, gateway.safeTransferETH world acceptsEther recipient value = .ok after ∧
      EtherMoved world.ether after.ether gateway.self recipient value ∧
      (after.pool.reserves gateway.weth).lToken = (world.pool.reserves gateway.weth).lToken := by
  by_cases wraps : recipient = gateway.weth
  · obtain ⟨ether, run, moved⟩ := wrap_paid world enough "ETH_TRANSFER_FAILED"
    refine ⟨_, by rw [safeTransferETH, if_pos wraps, run], ?_, ?_⟩
    · rw [wraps]
      exact moved
    · rw [wrapped, setUnderlying, LendingPool.setReserve_same]
  · obtain ⟨other, accepts⟩ := takes.resolve_left wraps
    obtain ⟨ether, run, moved⟩ := safeTransferETH_paid world other wraps accepts enough
    exact ⟨_, run, moved, rfl⟩

theorem unwrap_paid (world : EtherWorld)
    (held : value ≤ (gateway.underlying world.pool).balances gateway.self)
    (backed : value ≤ world.ether gateway.weth) :
    ∃ after, gateway.unwrap world value = .ok after ∧
      EtherMoved world.ether after.ether gateway.weth gateway.self value ∧
      (after.pool.reserves gateway.weth).lToken = (world.pool.reserves gateway.weth).lToken := by
  obtain ⟨ether, sent, moved⟩ := sendEther_paid backed gateway.self noMessage
  have withdrawn : ∃ underlying, WETH9.withdraw (gateway.underlying world.pool) gateway.self value =
      .ok underlying := by
    simp only [WETH9.withdraw, bind_eq_ok, require_eq_ok, exists_const, pure_eq_ok]
    exact ⟨_, held, rfl⟩
  obtain ⟨underlying, withdrawn⟩ := withdrawn
  refine ⟨⟨gateway.setUnderlying world.pool underlying, ether⟩, ?_, moved, ?_⟩
  · rw [unwrap, withdrawn, ok_bind, sent, ok_bind]
    rfl
  · rw [setUnderlying, LendingPool.setReserve_same]

def ofMarket : WETHGateway := ⟨50, 10, 3⟩

def etherAt (pool : LendingPool) : EtherWorld := ⟨pool, fun _ => 100 * WAD⟩

end WETHGateway

end PalmyProtocol
