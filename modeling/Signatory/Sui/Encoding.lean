import Signatory.Sui.Transaction

/-!
# The serialized form of Sui transactions

Each part has a `write` and a `read` that belong together: variant tags in front, then
the fields in order. Commands and transactions are written and read with any form of type
tags. `Transaction.encode` and `Transaction.decode` are the form of a whole transaction of
version 1, its type tags being texts; `decode` accepts nothing behind it.
-/

namespace Signatory.Sui

open Bcs

namespace ObjectRef

def write (r : ObjectRef) : Emission :=
  Write.fixed r.id ++ Write.uint .u64 r.version ++ Write.byteVec r.digest

def read : Reader ObjectRef := do
  let id ← Read.take addressLength
  let version ← Read.uint .u64
  let digest ← Read.byteVec
  pure ⟨id, version, digest⟩

end ObjectRef

namespace CallArg

def write : CallArg → Emission
  | .pure value => Write.length 0 ++ Write.byteVec value
  | owned ref => Write.length 1 ++ Write.length 0 ++ ref.write
  | shared id version isMutable =>
    Write.length 1 ++ Write.length 1 ++ Write.fixed id ++ Write.uint .u64 version ++
      Write.boolean isMutable
  | receiving ref => Write.length 1 ++ Write.length 2 ++ ref.write
  | foreign label => .stop (.foreignPart "call argument" label)

/-- An input that is an object. -/
def readObject : Reader CallArg := do
  match ← Read.length with
  | 0 => owned <$> ObjectRef.read
  | 1 => do
    let id ← Read.take addressLength
    let version ← Read.uint .u64
    let isMutable ← Read.boolean
    return shared id version isMutable
  | 2 => receiving <$> ObjectRef.read
  | tag => throw (.unknownVariant "ObjectArg" tag)

def read : Reader CallArg := do
  match ← Read.length with
  | 0 => CallArg.pure <$> Read.byteVec
  | 1 => readObject
  | tag => throw (.unknownVariant "CallArg" tag)

end CallArg

namespace Argument

def write : Argument → Emission
  | gasCoin => Write.length 0
  | input i => Write.length 1 ++ Write.uint .u16 i
  | result i => Write.length 2 ++ Write.uint .u16 i
  | nestedResult i j => Write.length 3 ++ Write.uint .u16 i ++ Write.uint .u16 j
  | foreign label => .stop (.foreignPart "argument" label)

def read : Reader Argument := do
  match ← Read.length with
  | 0 => return gasCoin
  | 1 => return input (← Read.uint .u16)
  | 2 => return result (← Read.uint .u16)
  | 3 => do
    let i ← Read.uint .u16
    let j ← Read.uint .u16
    return nestedResult i j
  | tag => throw (.unknownVariant "Argument" tag)

end Argument

namespace CommandOf

variable {Tag : Type}

/-- Writes a command; `tag` writes a type tag. -/
def write (tag : Tag → Emission) : CommandOf Tag → Emission
  | moveCall package module function typeArguments arguments =>
    Write.length 0 ++ Write.fixed package ++ Write.string module ++ Write.string function ++
      Write.seq tag typeArguments ++ Write.seq Argument.write arguments
  | transferObjects objects address =>
    Write.length 1 ++ Write.seq Argument.write objects ++ address.write
  | splitCoins coin amounts =>
    Write.length 2 ++ coin.write ++ Write.seq Argument.write amounts
  | mergeCoins destination sources =>
    Write.length 3 ++ destination.write ++ Write.seq Argument.write sources
  | publish modules dependencies =>
    Write.length 4 ++ Write.seq Write.byteVec modules ++ Write.seq Write.fixed dependencies
  | makeMoveVec none elements =>
    Write.length 5 ++ Write.length 0 ++ Write.seq Argument.write elements
  | makeMoveVec (some t) elements =>
    Write.length 5 ++ Write.length 1 ++ tag t ++ Write.seq Argument.write elements
  | upgrade modules dependencies package ticket =>
    Write.length 6 ++ Write.seq Write.byteVec modules ++ Write.seq Write.fixed dependencies ++
      Write.fixed package ++ ticket.write
  | foreign label => .stop (.foreignPart "command" label)

/-- A list of addresses. -/
def readAddresses : Reader (List Bytes) :=
  Read.seq (Read.take addressLength)

def readArguments : Reader (List Argument) :=
  Read.seq Argument.read

/-- A type tag behind a flag that says whether there is one. -/
def readTypeArgument (tag : Reader Tag) : Reader (Option Tag) := do
  if ← Read.boolean then some <$> tag else pure none

/-- Reads a command; `tag` reads a type tag. -/
def read (tag : Reader Tag) : Reader (CommandOf Tag) := do
  match ← Read.length with
  | 0 => do
    let package ← Read.take addressLength
    let module ← Read.string
    let function ← Read.string
    let typeArguments ← Read.seq tag
    let arguments ← readArguments
    return moveCall package module function typeArguments arguments
  | 1 => do
    let objects ← readArguments
    let address ← Argument.read
    return transferObjects objects address
  | 2 => do
    let coin ← Argument.read
    let amounts ← readArguments
    return splitCoins coin amounts
  | 3 => do
    let destination ← Argument.read
    let sources ← readArguments
    return mergeCoins destination sources
  | 4 => do
    let modules ← Read.seq Read.byteVec
    let dependencies ← readAddresses
    return publish modules dependencies
  | 5 => do
    let typeArgument ← readTypeArgument tag
    let elements ← readArguments
    return makeMoveVec typeArgument elements
  | 6 => do
    let modules ← Read.seq Read.byteVec
    let dependencies ← readAddresses
    let package ← Read.take addressLength
    let ticket ← Argument.read
    return upgrade modules dependencies package ticket
  | tag => throw (.unknownVariant "Command" tag)

end CommandOf

namespace GasData

def write (g : GasData) : Emission :=
  Write.seq ObjectRef.write g.payment ++ Write.fixed g.owner ++ Write.uint .u64 g.price ++
    Write.uint .u64 g.budget

def read : Reader GasData := do
  let payment ← Read.seq ObjectRef.read
  let owner ← Read.take addressLength
  let price ← Read.uint .u64
  let budget ← Read.uint .u64
  pure ⟨payment, owner, price, budget⟩

end GasData

namespace TransactionOf

variable {Tag : Type}

def writeExpiration : Option Int → Emission
  | none => Write.length 0
  | some epoch => Write.length 1 ++ Write.uint .u64 epoch

def readExpiration : Reader (Option Int) := do
  match ← Read.length with
  | 0 => return none
  | 1 => return some (← Read.uint .u64)
  | tag => throw (.unknownVariant "TransactionExpiration" tag)

/-- Writes a transaction; `tag` writes a type tag. -/
def write (tag : Tag → Emission) (tx : TransactionOf Tag) : Emission :=
  Write.length 0 ++ Write.length 0 ++ Write.seq CallArg.write tx.inputs ++
    Write.seq (CommandOf.write tag) tx.commands ++ Write.fixed tx.sender ++ tx.gas.write ++
    writeExpiration tx.expiration

/-- Reads a transaction; `tag` reads a type tag. -/
def read (tag : Reader Tag) : Reader (TransactionOf Tag) := do
  let version ← Read.length
  if version ≠ 0 then throw (.unsupportedVersion version)
  let kind ← Read.length
  if kind ≠ 0 then throw (.unsupportedKind kind)
  let inputs ← Read.seq CallArg.read
  let commands ← Read.seq (CommandOf.read tag)
  let sender ← Read.take addressLength
  let gas ← GasData.read
  let expiration ← readExpiration
  pure ⟨inputs, commands, sender, gas, expiration⟩

/-- The transaction that a whole byte string is the serialized form of. -/
def decode (tag : Reader Tag) (data : Bytes) : Except Failure (TransactionOf Tag) :=
  Reader.run (do
    let tx ← read tag
    Read.finish
    pure tx) data

end TransactionOf

namespace Transaction

/-- The serialized form of a transaction. -/
def encode (n : Nesting) (tx : Transaction) : Except Failure Bytes :=
  (TransactionOf.write (TypeTag.writeText n.writing) tx).result

/-- The transaction that a byte string is the serialized form of. -/
def decode (n : Nesting) (data : Bytes) : Except Failure Transaction :=
  TransactionOf.decode (TypeTag.readText n.reading) data

end Transaction

end Signatory.Sui
