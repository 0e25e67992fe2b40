set_option autoImplicit false

namespace PalmyProtocol.Errors

def CALLER_NOT_POOL_ADMIN := "33"
def BORROW_ALLOWANCE_NOT_ENOUGH := "59"
def VL_INVALID_AMOUNT := "1"
def VL_NO_ACTIVE_RESERVE := "2"
def VL_RESERVE_FROZEN := "3"
def VL_NOT_ENOUGH_AVAILABLE_USER_BALANCE := "5"
def VL_TRANSFER_NOT_ALLOWED := "6"
def VL_BORROWING_NOT_ENABLED := "7"
def VL_INVALID_INTEREST_RATE_MODE_SELECTED := "8"
def VL_COLLATERAL_BALANCE_IS_0 := "9"
def VL_HEALTH_FACTOR_LOWER_THAN_LIQUIDATION_THRESHOLD := "10"
def VL_COLLATERAL_CANNOT_COVER_NEW_BORROW := "11"
def VL_STABLE_BORROWING_NOT_ENABLED := "12"
def VL_COLLATERAL_SAME_AS_BORROWING_CURRENCY := "13"
def VL_AMOUNT_BIGGER_THAN_MAX_LOAN_SIZE_STABLE := "14"
def VL_NO_DEBT_OF_SELECTED_TYPE := "15"
def VL_NO_EXPLICIT_AMOUNT_TO_REPAY_ON_BEHALF := "16"
def VL_NO_STABLE_RATE_LOAN_IN_RESERVE := "17"
def VL_NO_VARIABLE_RATE_LOAN_IN_RESERVE := "18"
def VL_UNDERLYING_BALANCE_NOT_GREATER_THAN_0 := "19"
def VL_DEPOSIT_ALREADY_IN_USE := "20"
def LP_INTEREST_RATE_REBALANCE_CONDITIONS_NOT_MET := "22"
def LP_LIQUIDATION_CALL_FAILED := "23"
def LP_CALLER_NOT_LENDING_POOL_CONFIGURATOR := "27"
def CT_CALLER_MUST_BE_LENDING_POOL := "29"
def RL_RESERVE_ALREADY_INITIALIZED := "32"
def LPC_RESERVE_LIQUIDITY_NOT_0 := "34"
def LPC_INVALID_CONFIGURATION := "75"
def LPCM_HEALTH_FACTOR_NOT_BELOW_THRESHOLD := "42"
def LPCM_COLLATERAL_CANNOT_BE_LIQUIDATED := "43"
def LPCM_SPECIFIED_CURRENCY_NOT_BORROWED_BY_USER := "44"
def LPCM_NOT_ENOUGH_LIQUIDITY_TO_LIQUIDATE := "45"
def LPCM_NO_ERRORS := "46"
def MATH_MULTIPLICATION_OVERFLOW := "48"
def MATH_ADDITION_OVERFLOW := "49"
def MATH_DIVISION_BY_ZERO := "50"
def RL_LIQUIDITY_INDEX_OVERFLOW := "51"
def RL_VARIABLE_BORROW_INDEX_OVERFLOW := "52"
def RL_LIQUIDITY_RATE_OVERFLOW := "53"
def RL_VARIABLE_BORROW_RATE_OVERFLOW := "54"
def RL_STABLE_BORROW_RATE_OVERFLOW := "55"
def CT_INVALID_MINT_AMOUNT := "56"
def CT_INVALID_BURN_AMOUNT := "58"
def LP_CALLER_MUST_BE_AN_LTOKEN := "63"
def LP_IS_PAUSED := "64"
def LP_NO_MORE_RESERVES_ALLOWED := "65"
def LP_INVALID_FLASH_LOAN_EXECUTOR_RETURN := "66"
def RC_INVALID_LTV := "67"
def RC_INVALID_LIQ_THRESHOLD := "68"
def RC_INVALID_LIQ_BONUS := "69"
def RC_INVALID_DECIMALS := "70"
def RC_INVALID_RESERVE_FACTOR := "71"
def VL_INCONSISTENT_FLASHLOAN_PARAMS := "73"
def LPC_CALLER_NOT_EMERGENCY_ADMIN := "76"
def UL_INVALID_INDEX := "77"
def LP_NOT_CONTRACT := "78"
def SDT_STABLE_DEBT_OVERFLOW := "79"
def SDT_BURN_EXCEEDS_BALANCE := "80"

-- The order of `CollateralManagerErrors`; its position is the returned code.
inductive CollateralManagerErrors where
  | NO_ERROR
  | NO_COLLATERAL_AVAILABLE
  | COLLATERAL_CANNOT_BE_LIQUIDATED
  | CURRRENCY_NOT_BORROWED
  | HEALTH_FACTOR_ABOVE_THRESHOLD
  | NOT_ENOUGH_LIQUIDITY
  | NO_ACTIVE_RESERVE
  | HEALTH_FACTOR_LOWER_THAN_LIQUIDATION_THRESHOLD
  | INVALID_EQUAL_ASSETS_TO_SWAP
  | FROZEN_RESERVE
  deriving DecidableEq

end PalmyProtocol.Errors
