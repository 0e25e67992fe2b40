import PalmyProtocol.Tokenization.LToken
import PalmyProtocol.Tokenization.StableDebtToken
import PalmyProtocol.Tokenization.VariableDebtToken

set_option autoImplicit false

namespace PalmyProtocol

structure HandledAction where
  account : Address
  totalSupply : Nat
  accountBalance : Nat
  deriving DecidableEq

namespace ERC20

variable (token : ERC20)

-- `_mint` and `_burn` write first, and then call with what they found.
def mintActions (account : Address) : List HandledAction :=
  [⟨account, token.totalSupply, token.balances account⟩]

def burnActions (account : Address) : List HandledAction :=
  [⟨account, token.totalSupply, token.balances account⟩]

-- `_transfer` reads the recipient after it wrote the sender.
def transferActions (sender recipient : Address) (amount : Nat) : List HandledAction :=
  let oldSenderBalance := token.balances sender
  let balances := Function.update token.balances sender (oldSenderBalance - amount)
  let oldRecipientBalance := balances recipient
  let currentTotalSupply := token.totalSupply
  ⟨sender, currentTotalSupply, oldSenderBalance⟩ ::
    if sender ≠ recipient then [⟨recipient, currentTotalSupply, oldRecipientBalance⟩] else []

end ERC20

namespace StableDebtToken

variable (token : StableDebtToken)

def mintActions (now : Nat) (onBehalfOf : Address) : List HandledAction :=
  match token.totalSupply now with
  | .ok previousSupply => [⟨onBehalfOf, previousSupply, token.base.balances onBehalfOf⟩]
  | .error _ => []

def burnActions (now : Nat) (user : Address) : List HandledAction :=
  match token.totalSupply now with
  | .ok previousSupply => [⟨user, previousSupply, token.base.balances user⟩]
  | .error _ => []

end StableDebtToken

end PalmyProtocol
