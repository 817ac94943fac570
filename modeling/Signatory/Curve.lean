import Signatory.Text.Blank
import Signatory.Text.LetterCase

/-!
# Signature curves

The four curves that keys live on, their names, and the spellings that `parse?` accepts:
any letter case, blanks around the name, hyphens and underscores anywhere.
-/

namespace Signatory

inductive Curve where
  | ed25519
  | secp256k1
  | p256
  | stark
  deriving DecidableEq, Repr, Inhabited

namespace Curve

def all : List Curve := [ed25519, secp256k1, p256, stark]

/-- The name of a curve in requests and messages. -/
def name : Curve → String
  | ed25519 => "ed25519"
  | secp256k1 => "secp256k1"
  | p256 => "secp256r1"
  | stark => "stark"

/-- Whether equal keys and messages always give equal signatures. -/
def isDeterministic : Curve → Bool
  | p256 => false
  | _ => true

/-- The accepted names, in their plain spelling. -/
def aliases : List (String × Curve) :=
  [("ed25519", ed25519), ("secp256k1", secp256k1), ("secp256r1", p256), ("nist256p1", p256),
   ("p256", p256), ("stark", stark), ("starknetcurve", stark)]

/-- The plain spelling of a name. -/
def plainSpelling (s : String) : String :=
  String.ofList ((Text.lower (Text.strip s)).toList.filter fun c => c ≠ '-' && c ≠ '_')

/-- The curve of a given name. -/
def parse? (s : String) : Option Curve :=
  aliases.lookup (plainSpelling s)

end Curve

end Signatory
