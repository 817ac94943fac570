import Signatory.Sui.TypeTag

/-!
# Sui transactions

A programmable transaction: its inputs, the commands on them, the gas payment and an
optional expiration. The structures hold whatever a caller puts in; only `write` checks
that numbers fit their widths. A part of a kind that the format does not know is
`foreign` and cannot be written.

Commands mention type tags. `CommandOf Tag` and `TransactionOf Tag` leave open what stands
for one; callers have texts, `Command` and `Transaction`.
-/

namespace Signatory.Sui

/-- An owned object at one version. -/
structure ObjectRef where
  id : Bytes
  version : Int
  digest : Bytes
  deriving DecidableEq, Repr

/-- An input of a transaction. -/
inductive CallArg where
  | pure (value : Bytes)
  | owned (ref : ObjectRef)
  | shared (id : Bytes) (version : Int) (isMutable : Bool)
  | receiving (ref : ObjectRef)
  | foreign (label : String)
  deriving DecidableEq, Repr

/-- What a command works on: the gas coin, an input, or the result of a command. -/
inductive Argument where
  | gasCoin
  | input (index : Int)
  | result (index : Int)
  | nestedResult (index part : Int)
  | foreign (label : String)
  deriving DecidableEq, Repr

/-- A command, with `Tag` for type tags. -/
inductive CommandOf (Tag : Type) where
  | moveCall (package : Bytes) (module function : String) (typeArguments : List Tag)
      (arguments : List Argument)
  | transferObjects (objects : List Argument) (address : Argument)
  | splitCoins (coin : Argument) (amounts : List Argument)
  | mergeCoins (destination : Argument) (sources : List Argument)
  | publish (modules dependencies : List Bytes)
  | makeMoveVec (typeArgument : Option Tag) (elements : List Argument)
  | upgrade (modules dependencies : List Bytes) (package : Bytes) (ticket : Argument)
  | foreign (label : String)
  deriving DecidableEq, Repr

/-- A command with its type tags as texts. -/
abbrev Command := CommandOf String

/-- Who pays for a transaction, with which coins and at what price. -/
structure GasData where
  payment : List ObjectRef
  owner : Bytes
  price : Int
  budget : Int
  deriving DecidableEq, Repr

/-- A transaction, with `Tag` for type tags. -/
structure TransactionOf (Tag : Type) where
  inputs : List CallArg
  commands : List (CommandOf Tag)
  sender : Bytes
  gas : GasData
  /-- The epoch after which the transaction expires. -/
  expiration : Option Int
  deriving DecidableEq, Repr

/-- A transaction with its type tags as texts. -/
abbrev Transaction := TransactionOf String

end Signatory.Sui
