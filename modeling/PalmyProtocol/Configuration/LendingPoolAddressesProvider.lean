import PalmyProtocol.Upgradeability.Proxy

set_option autoImplicit false

namespace PalmyProtocol

open Checked

-- A short text as Solidity stores it in 32 bytes, from the left.
def bytes32 (text : String) : Nat :=
  let bytes := text.toUTF8.data.toList
  (bytes ++ List.replicate (32 - bytes.length) 0).foldl
    (fun (n : Nat) (byte : UInt8) => n * 256 + byte.toNat) 0

structure LendingPoolAddressesProvider where
  owner : Address
  _marketId : String
  _addresses : Nat → Address

namespace LendingPoolAddressesProvider

def LENDING_POOL := bytes32 "LENDING_POOL"
def LENDING_POOL_CONFIGURATOR := bytes32 "LENDING_POOL_CONFIGURATOR"
def POOL_ADMIN := bytes32 "POOL_ADMIN"
def EMERGENCY_ADMIN := bytes32 "EMERGENCY_ADMIN"
def LENDING_POOL_COLLATERAL_MANAGER := bytes32 "COLLATERAL_MANAGER"
def PRICE_ORACLE := bytes32 "PRICE_ORACLE"
def LENDING_RATE_ORACLE := bytes32 "LENDING_RATE_ORACLE"

variable (provider : LendingPoolAddressesProvider)

def getAddress (id : Nat) : Address := provider._addresses id

def getLendingPool : Address := provider.getAddress LENDING_POOL

def onlyOwner (msgSender : Address) : Result Unit :=
  require (provider.owner = msgSender) "Ownable: caller is not the owner"

def setEntry (id : Nat) (newAddress : Address) : LendingPoolAddressesProvider :=
  { provider with _addresses := Function.update provider._addresses id newAddress }

end LendingPoolAddressesProvider

end PalmyProtocol
