import Signatory.ChainTable
import Signatory.Keys.Mnemonic
import Signatory.Text.Numeral

/-!
# Accounts

An account provider supplies the master seed and the account path of a sender. `Accounts`
is the provider that keeps both in memory: senders are registered with their paths, and
others get the default path of their chain unless the provider is strict.
-/

namespace Signatory

/-- Where a signer gets its seed and account paths from. It may refuse either. -/
structure AccountProvider where
  seed : Except Failure Bytes
  accountPath : (chain : String) → Curve → (sender : Option String) →
    Except Failure (Option String)

/-- The form of a sender that accounts are keyed by: lower case and, for hexadecimal
numbers behind `0x`, without leading zeros. -/
def normalSender (sender : String) : String :=
  let s := Text.lower (Text.strip sender)
  if ['0', 'x'].isPrefixOf s.toList then
    match Text.hexadecimal? s with
    | some n => "0x" ++ Text.hexDigits n.toNat
    | none => s
  else s

/-- A master seed with registered accounts. -/
structure Accounts where
  seed : Bytes
  strict : Bool
  paths : List ((String × String) × String)
  deriving DecidableEq, Repr

namespace Accounts

/-- Binds a sender on a chain to an account path. -/
def register (a : Accounts) (chain sender path : String) : Except Failure Accounts :=
  if path.toList.head? = some 'm' then
    .ok { a with paths := putPair a.paths (Tag.normal chain, normalSender sender) path }
  else .error (.invalidPath path)

/-- A provider with some accounts, given as chain, sender and path. The seed may not be
empty. -/
def make (seed : Bytes) (strict : Bool) (accounts : List (String × String × String)) :
    Except Failure Accounts :=
  if seed.isEmpty then .error .emptySeed
  else accounts.foldlM (fun a (chain, sender, path) => a.register chain sender path)
    ⟨seed, strict, []⟩

/-- A provider with the seed of a mnemonic sentence, whose words `index?` finds in a list. -/
def ofMnemonic (index? : String → Option Nat) (sentence passphrase : String) (strict : Bool)
    (accounts : List (String × String × String)) : Except Failure Accounts :=
  match Mnemonic.seed? index? sentence passphrase with
  | some seed => make seed strict accounts
  | none => .error .invalidMnemonic

/-- The path registered for a sender; the chain is in normal form. -/
def registered? (a : Accounts) (chain : String) (sender : Option String) : Option String :=
  match sender with
  | none => none
  | some s => if s.isEmpty then none else a.paths.lookup (chain, normalSender s)

/-- The account path of a sender on a chain. -/
def accountPath (a : Accounts) (t : ChainTable) (chain : String) (choice : CurveChoice)
    (sender : Option String) : Except Failure String :=
  let chain := Tag.normal chain
  match a.registered? chain sender with
  | some path => .ok path
  | none =>
    if a.strict then .error (.noAccount chain (sender.filter fun s => !s.isEmpty))
    else t.defaultPath (.text chain) choice

/-- The accounts as a provider. -/
def provider (a : Accounts) (t : ChainTable) : AccountProvider where
  seed := .ok a.seed
  accountPath chain curve sender := some <$> a.accountPath t chain (.exactly curve) sender

def text (a : Accounts) : String :=
  s!"SeedAccountProvider(accounts={a.paths.length}, strict=" ++
    (if a.strict then "True" else "False") ++ ")"

end Accounts

end Signatory
