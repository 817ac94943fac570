import Signatory.Starknet.Request
import Signatory.Sui.Request

/-!
# Signing requests

A request names its chain and carries the payload of that chain. Fields that the library
does not know are kept: the payloads of chains added later are among them.
-/

namespace Signatory

open Check

/-- A request to sign one transaction. -/
structure Request where
  chain : String
  sui : Option Sui.Input
  starknet : Option Starknet.Input
  sender : Option String
  curve : Option String
  accountPath : Option String
  extra : Fields

/-- A signed transaction, tagged with its chain. -/
structure SignedOutput where
  chain : String
  sui : Option Sui.Output
  starknet : Option Starknet.Output
  extra : Fields

/-- The fields besides the declared ones. -/
def extraFields (declared : List String) (fs : Fields) : Fields :=
  fs.filter fun f => !declared.contains f.1

namespace Request

def declared : List String :=
  ["chain", "sui", "starknet", "sender", "curve", "account_path"]

def check : Value → Checked Request :=
  ofObject fun fs =>
    mk <$> optional fs "chain" "" text
      <*> nullable fs "sui" Sui.Input.check
      <*> nullable fs "starknet" Starknet.Input.check
      <*> nullable fs "sender" text
      <*> nullable fs "curve" text
      <*> nullable fs "account_path" text
      <*> pure (extraFields declared fs)

def toValue (r : Request) : Value :=
  .object ([("chain", .text r.chain), ("sui", .ofOption Sui.Input.toValue r.sui),
    ("starknet", .ofOption Starknet.Input.toValue r.starknet),
    ("sender", .ofOption Value.text r.sender),
    ("curve", .ofOption Value.text r.curve),
    ("account_path", .ofOption Value.text r.accountPath)] ++ r.extra)

def model : Model Request := ⟨check, toValue⟩

end Request

namespace SignedOutput

def declared : List String := ["chain", "sui", "starknet"]

def check : Value → Checked SignedOutput :=
  ofObject fun fs =>
    mk <$> required fs "chain" text
      <*> nullable fs "sui" Sui.Output.check
      <*> nullable fs "starknet" Starknet.Output.check
      <*> pure (extraFields declared fs)

def toValue (o : SignedOutput) : Value :=
  .object ([("chain", .text o.chain), ("sui", .ofOption Sui.Output.toValue o.sui),
    ("starknet", .ofOption Starknet.Output.toValue o.starknet)] ++ o.extra)

def model : Model SignedOutput := ⟨check, toValue⟩

end SignedOutput

end Signatory
