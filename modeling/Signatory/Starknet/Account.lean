import Signatory.Starknet.Invoke

/-!
# Account addresses

The address of an account contract follows from its public key before the contract
exists: a hash of the contract class, the key as salt and the constructor calldata.
-/

namespace Signatory.Starknet.Account

/-- The class of account proxies. -/
def proxyClass : Nat :=
  0x025EC026985A3BF9D0CC1FE17326B245DFDC3FF89B8FDE106542A3EA56C5A918

/-- The class that a proxy of an account delegates to. -/
def implementationClass : Nat :=
  0x033434AD846CDD5F23EB73FF09FE6FDDD568284A0FB7D1BE20EE482F044DABE2

/-- Addresses are below this number. -/
def addressBound : Nat := (1 <<< 251) - 256

/-- The calldata of the constructor, which initializes the account with its key. -/
def constructorCalldata (publicKey : Int) : Except Failure (List Int) := do
  let entry ← selector "initialize"
  pure [implementationClass, entry, 2, publicKey, 0]

/-- The address of the account of a public key. -/
def address (publicKey : Int) : Except Failure Nat := do
  let calldataHash ← hashElements (← constructorCalldata publicKey)
  let hash ← hashElements
    [shortText "STARKNET_CONTRACT_ADDRESS", 0, publicKey, proxyClass, calldataHash]
  pure (hash % addressBound)

end Signatory.Starknet.Account
