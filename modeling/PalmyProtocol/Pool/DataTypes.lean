import PalmyProtocol.Configuration.ReserveConfiguration
import PalmyProtocol.Configuration.UserConfiguration
import PalmyProtocol.Pool.DefaultReserveInterestRateStrategy
import PalmyProtocol.Tokenization.LToken
import PalmyProtocol.Tokenization.StableDebtToken
import PalmyProtocol.Tokenization.VariableDebtToken

set_option autoImplicit false

namespace PalmyProtocol

inductive InterestRateMode where
  | NONE
  | STABLE
  | VARIABLE
  deriving DecidableEq

-- A call to an address without code, like a conversion to an enumeration that lacks the value,
-- reverts without a message.
def noMessage : String := ""

def toInterestRateMode : Nat → Result InterestRateMode
  | 0 => .ok .NONE
  | 1 => .ok .STABLE
  | 2 => .ok .VARIABLE
  | _ => .error noMessage

theorem toInterestRateMode_ok {rateMode : Nat} {mode : InterestRateMode}
    (chosen : toInterestRateMode rateMode = .ok mode) :
    (rateMode = 0 ∧ mode = .NONE) ∨ (rateMode = 1 ∧ mode = .STABLE) ∨
      (rateMode = 2 ∧ mode = .VARIABLE) := by
  unfold toInterestRateMode at chosen
  split at chosen <;> cases chosen
  · exact .inl ⟨rfl, rfl⟩
  · exact .inr (.inl ⟨rfl, rfl⟩)
  · exact .inr (.inr ⟨rfl, rfl⟩)

theorem eq_zero_of_none {rateMode : Nat} (chosen : toInterestRateMode rateMode = .ok .NONE) :
    rateMode = 0 := by
  rcases toInterestRateMode_ok chosen with ⟨none, _⟩ | ⟨_, other⟩ | ⟨_, other⟩
  · exact none
  · cases other
  · cases other

-- The strategy stands in the place of its address; an unset address is `none`.
structure ReserveData where
  configuration : ReserveConfigurationMap
  liquidityIndex : Nat
  variableBorrowIndex : Nat
  currentLiquidityRate : Nat
  currentVariableBorrowRate : Nat
  currentStableBorrowRate : Nat
  lastUpdateTimestamp : Nat
  lTokenAddress : Address
  stableDebtTokenAddress : Address
  variableDebtTokenAddress : Address
  interestRateStrategyAddress : Option DefaultReserveInterestRateStrategy
  id : Nat

structure Reserve extends ReserveData where
  lToken : LToken
  stableDebtToken : StableDebtToken
  variableDebtToken : VariableDebtToken
  underlying : ERC20

structure Env where
  timestamp : Nat
  timestamp_lt : timestamp < 2 ^ 40
  isContract : Address → Bool
  zero_not_contract : isContract 0 = false
  getAssetPrice : Address → Result Nat
  getMarketBorrowRate : Address → Result Nat

structure AddressesProvider where
  lendingPoolConfigurator : Address
  poolAdmin : Address
  emergencyAdmin : Address

structure LendingPool where
  self : Address
  addressesProvider : AddressesProvider
  reserves : Address → Reserve
  usersConfig : Address → UserConfigurationMap
  reservesList : Nat → Address
  reservesCount : Nat
  paused : Bool
  maxStableRateBorrowSizePercent : Nat
  flashLoanPremiumTotal : Nat
  maxNumberOfReserves : Nat

namespace ReserveData

-- A mapping's default: every slot zero.
def empty : ReserveData := ⟨⟨0⟩, 0, 0, 0, 0, 0, 0, 0, 0, 0, none, 0⟩

end ReserveData

namespace LendingPool

variable (pool : LendingPool)

def setReserve (asset : Address) (reserve : Reserve) : LendingPool :=
  { pool with reserves := Function.update pool.reserves asset reserve }

def setUserConfig (user : Address) (config : UserConfigurationMap) : LendingPool :=
  { pool with usersConfig := Function.update pool.usersConfig user config }

variable {pool} {asset other user : Address} {reserve : Reserve} {config : UserConfigurationMap}

@[simp]
theorem setReserve_same : (pool.setReserve asset reserve).reserves asset = reserve := by
  simp [setReserve]

@[simp]
theorem setReserve_other (different : other ≠ asset) :
    (pool.setReserve asset reserve).reserves other = pool.reserves other := by
  simp [setReserve, different]

@[simp]
theorem setReserve_usersConfig : (pool.setReserve asset reserve).usersConfig = pool.usersConfig := rfl

@[simp]
theorem setReserve_reservesList : (pool.setReserve asset reserve).reservesList = pool.reservesList :=
  rfl

@[simp]
theorem setReserve_reservesCount :
    (pool.setReserve asset reserve).reservesCount = pool.reservesCount := rfl

@[simp]
theorem setUserConfig_reserves : (pool.setUserConfig user config).reserves = pool.reserves := rfl

@[simp]
theorem setUserConfig_same : (pool.setUserConfig user config).usersConfig user = config := by
  simp [setUserConfig]

@[simp]
theorem setUserConfig_other (different : other ≠ user) :
    (pool.setUserConfig user config).usersConfig other = pool.usersConfig other := by
  simp [setUserConfig, different]

@[simp]
theorem setUserConfig_reservesList :
    (pool.setUserConfig user config).reservesList = pool.reservesList := rfl

@[simp]
theorem setUserConfig_reservesCount :
    (pool.setUserConfig user config).reservesCount = pool.reservesCount := rfl

end LendingPool

end PalmyProtocol
