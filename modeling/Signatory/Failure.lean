import Signatory.Bcs.Width
import Signatory.Curve
import Signatory.Model.Issue
import Signatory.Text.Quoted

/-!
# Failures

Every way in which an operation of the library fails is a constructor of `Failure`. The
failures that a caller is meant to handle are refusals; each has one of five codes. The
others say that an argument was outside the range of a function.

1. `Failure.kind` classifies a failure, `Failure.field?` names the field at fault.
2. `Failure.message` is its wording. Where the wording quotes an underlying reader or
   curve implementation, `cause` stands in its place.
-/

namespace Signatory

/-- The five classes of refusal. -/
inductive ErrorCode where
  | unsupportedChain
  | malformedIntent
  | numericOverflow
  | derivationError
  | signingFailure
  deriving DecidableEq, Repr

namespace ErrorCode

def all : List ErrorCode :=
  [unsupportedChain, malformedIntent, numericOverflow, derivationError, signingFailure]

def name : ErrorCode → String
  | unsupportedChain => "UNSUPPORTED_CHAIN"
  | malformedIntent => "MALFORMED_INTENT"
  | numericOverflow => "NUMERIC_OVERFLOW"
  | derivationError => "DERIVATION_ERROR"
  | signingFailure => "SIGNING_FAILURE"

end ErrorCode

/-- What class a failure belongs to. -/
inductive FailureKind where
  /-- A refusal with its code. -/
  | refusal (code : ErrorCode)
  /-- A value does not fit a model. -/
  | invalidModel
  /-- An argument has no meaning for a function. -/
  | badValue
  /-- A number is outside the range of its encoding. -/
  | outOfRange
  | divisionByZero
  /-- A text has characters outside its encoding. -/
  | notEncodable
  /-- An operation that the type forbids. -/
  | forbidden
  /-- The stack has no room for a computation. -/
  | exhausted
  deriving DecidableEq, Repr

/-- Why a byte string is no serialized value. -/
inductive ReadFault where
  | truncated (offset : Nat) (wanted : Int)
  | notMinimal
  | tooLong
  | outOfRange
  | badFlag (byte : Nat)
  | badText
  | trailing (count : Nat)
  deriving DecidableEq, Repr

inductive Failure where
  /-- A refusal that an extension words itself. -/
  | reported (code : ErrorCode) (text : String) (field : Option String)
  -- chains and requests
  | unsupportedChain (tag : String)
  | invalidRequest (issues : List Issue)
  | noPayload (chain field : String)
  | invalidPayload (chain field : String) (issues : List Issue)
  | rawOrTransfer (chain field : String)
  -- texts and numbers of requests
  | missing (field : String)
  | invalidText (field text : String)
  | undecodable (field : String)
  | notANumber (field text : String)
  | aboveFieldPrime (field : String)
  | negativeNonce
  | nonceTooLarge
  -- serialization
  | lengthOutOfRange (value : Int)
  | negativeInteger (width : Bcs.Width) (value : Int)
  | integerTooLarge (width : Bcs.Width) (value : Int)
  | unreadable (fault : ReadFault)
  | unknownVariant (type : String) (tag : Nat)
  | unsupportedVersion (version : Nat)
  | unsupportedKind (kind : Nat)
  | foreignPart (type label : String)
  | invalidTypeTag (text : String)
  -- Sui transfers and signatures
  | oneTransferKind
  | wrongLength (field part : String) (length : Nat)
  | notATransfer (part : String)
  | emptyRaw (field : String)
  | signatureTooShort
  | unknownFlag (flag : Nat)
  | noFlag (curve : Curve)
  -- Starknet transactions
  | noCalls
  | invalidRawJson (issues : List Issue)
  | rawHashTooLong
  -- accounts and keys
  | unknownCurve (name : String)
  | curveNotAccepted (chain : String) (curve : Curve)
  | emptySeed
  | invalidPath (path : String)
  | underivable (curve : Curve) (path : String)
  | degenerateKey (path : String)
  | invalidPrivateKey (curve : Curve) (reason : Failure)
  | noAccount (chain : String) (sender : Option String)
  | invalidMnemonic
  -- signing
  | payloadConsumed
  | keyReleased
  | noKey
  | wrongKey (curve backend : Curve)
  | invalidKey (curve : Curve)
  | secretOutOfRange (curve : Curve)
  | messageLength (length : Nat)
  | messageOutOfRange
  | unsigned (curve : Curve)
  -- arguments outside a function's range
  | invalidModel (issues : List Issue)
  | unknownName (name : String)
  | incompletePaths (chain : String)
  | tooManyDigits
  | operandAbovePrime
  | numberOutOfRange
  | cacheTooSmall
  | noWorkers
  | zeroLimit
  | notAscii
  | notHex
  | notCopyable
  | notSerializable
  | projectNotTable
  /-- A type tag is nested deeper than the stack has room for. -/
  | nestedTooDeep
  /-- The underlying implementation of a curve gave no answer. -/
  | noAnswer
  deriving Repr, Inhabited

/-- What stands in a message for the reason that an underlying implementation gave. -/
def Failure.cause : String := "<cause>"

def ReadFault.message : ReadFault → String
  | .truncated offset wanted =>
    s!"Unexpected end of BCS data at offset {offset} (wanted " ++ Text.signed wanted ++ " bytes)"
  | .notMinimal => "ULEB128 value is not minimally encoded"
  | .tooLong => "ULEB128 value is too long"
  | .outOfRange => "ULEB128 value out of range"
  | .badFlag byte => s!"Invalid BCS bool: {byte}"
  | .badText => "Invalid UTF-8 string in BCS data: " ++ Failure.cause
  | .trailing count => s!"{count} trailing bytes after BCS data"

namespace Failure

def kind : Failure → FailureKind
  | reported code _ _ => .refusal code
  | unsupportedChain _ => .refusal .unsupportedChain
  | invalidRequest _ | noPayload _ _ | invalidPayload _ _ _ | rawOrTransfer _ _ | missing _
  | invalidText _ _ | undecodable _ | notANumber _ _ | negativeNonce | negativeInteger _ _
  | unreadable _ | unknownVariant _ _ | unsupportedVersion _ | unsupportedKind _
  | foreignPart _ _ | invalidTypeTag _ | oneTransferKind | wrongLength _ _ _ | notATransfer _
  | emptyRaw _ | signatureTooShort | unknownFlag _ | noCalls | invalidRawJson _
  | rawHashTooLong => .refusal .malformedIntent
  | aboveFieldPrime _ | nonceTooLarge | lengthOutOfRange _ | integerTooLarge _ _ =>
    .refusal .numericOverflow
  | unknownCurve _ | curveNotAccepted _ _ | emptySeed | invalidPath _ | underivable _ _
  | degenerateKey _ | invalidPrivateKey _ _ | noAccount _ _ | invalidMnemonic =>
    .refusal .derivationError
  | noFlag _ | payloadConsumed | keyReleased | noKey | wrongKey _ _ | invalidKey _
  | secretOutOfRange _ | messageLength _ | messageOutOfRange | unsigned _ =>
    .refusal .signingFailure
  | invalidModel _ => .invalidModel
  | unknownName _ | incompletePaths _ | tooManyDigits | operandAbovePrime | cacheTooSmall
  | noWorkers | notHex | noAnswer => .badValue
  | numberOutOfRange => .outOfRange
  | zeroLimit => .divisionByZero
  | notAscii => .notEncodable
  | notCopyable | notSerializable | projectNotTable => .forbidden
  | nestedTooDeep => .exhausted

/-- The code of a refusal. -/
def code? (f : Failure) : Option ErrorCode :=
  match f.kind with
  | .refusal code => some code
  | _ => none

/-- Whether a failure is one that callers are meant to handle. -/
def isRefusal (f : Failure) : Bool :=
  f.code?.isSome

/-- The request field at fault. -/
def field? : Failure → Option String
  | reported _ _ field => field
  | unsupportedChain _ => some "chain"
  | noPayload _ field | invalidPayload _ field _ | rawOrTransfer _ field | missing field
  | invalidText field _ | undecodable field | notANumber field _ | aboveFieldPrime field
  | wrongLength field _ _ | emptyRaw field => some field
  | negativeNonce | nonceTooLarge => some "nonce"
  | unreadable _ | unknownVariant _ _ | unsupportedVersion _ | unsupportedKind _
  | notATransfer _ => some "tx_data"
  | invalidTypeTag _ => some "type_arguments"
  | oneTransferKind => some "transfer"
  | signatureTooShort | unknownFlag _ => some "signature"
  | noCalls => some "calls"
  | invalidRawJson _ | rawHashTooLong => some "raw_tx"
  | unknownCurve _ | curveNotAccepted _ _ => some "curve"
  | invalidPath _ => some "account_path"
  | noAccount _ _ => some "sender"
  | _ => none

/-- The issues of the value at fault. -/
def issues? : Failure → Option (List Issue)
  | invalidRequest issues | invalidPayload _ _ issues | invalidRawJson issues
  | invalidModel issues => some issues
  | _ => none

/-- The wording of a failure; empty where it has none. -/
def message : Failure → String
  | reported _ text _ => text
  | unsupportedChain tag => "Unsupported chain: " ++ tag
  | invalidRequest _ => "Invalid signing request: " ++ cause
  | noPayload chain field =>
    "Request for " ++ chain ++ " carries no '" ++ field ++ "' payload"
  | invalidPayload chain _ _ => "Invalid " ++ chain ++ " payload: " ++ cause
  | rawOrTransfer chain _ =>
    "Exactly one of 'raw_tx' and 'transfer' must be set for " ++ chain
  | missing field => "Missing " ++ field
  | invalidText field text => "Invalid " ++ field ++ ": " ++ Text.quoted text
  | undecodable field => "Invalid " ++ field ++ ": " ++ cause
  | notANumber field text =>
    field ++ " is not a non-negative number: " ++ Text.quoted text
  | aboveFieldPrime field => field ++ " does not fit in a field element"
  | negativeNonce => "nonce cannot be negative"
  | nonceTooLarge => "nonce does not fit in u64"
  | lengthOutOfRange value => "ULEB128 value out of range: " ++ Text.signed value
  | negativeInteger width value =>
    width.name ++ " cannot be negative: " ++ Text.signed value
  | integerTooLarge width value =>
    Text.signed value ++ " does not fit in " ++ width.name
  | unreadable fault => fault.message
  | unknownVariant type tag => "Unknown " ++ type ++ s!" variant {tag}"
  | unsupportedVersion version => s!"Unsupported TransactionData version {version}"
  | unsupportedKind kind => s!"Unsupported TransactionKind variant {kind}"
  | foreignPart type label => "Unknown " ++ type ++ ": " ++ Text.quoted label
  | invalidTypeTag text => "Invalid Move type tag: " ++ Text.quoted text
  | oneTransferKind => "Exactly one of 'sui' and 'object' must be set"
  | wrongLength field part length =>
    field ++ "." ++ part ++ s!" must be 32 bytes, got {length}"
  | notATransfer part => "Not a simple transfer: unexpected " ++ part
  | emptyRaw field => "Raw Sui transaction has no " ++ field
  | signatureTooShort => "Serialized signature is too short"
  | unknownFlag flag => s!"Unknown signature flag {flag}"
  | noFlag curve => "Sui does not accept " ++ curve.name ++ " signatures"
  | noCalls => "raw_tx has no calls"
  | invalidRawJson _ => "Invalid raw_tx: " ++ cause
  | rawHashTooLong => "raw_tx is longer than 32 bytes"
  | unknownCurve name | unknownName name => "Unknown curve: " ++ name
  | curveNotAccepted chain curve =>
    chain ++ " does not support the " ++ curve.name ++ " curve"
  | emptySeed => "Master seed is empty"
  | invalidPath path => "Invalid derivation path: " ++ Text.quoted path
  | underivable curve path =>
    "Cannot derive " ++ curve.name ++ " key at " ++ path ++ ": " ++ cause
  | degenerateKey path => "Degenerate STARK key at " ++ path
  | invalidPrivateKey curve reason =>
    "Invalid " ++ curve.name ++ " private key: " ++ reason.message
  | noAccount chain sender =>
    "No account registered for " ++ chain ++ " sender " ++ sender.getD "<unknown>"
  | invalidMnemonic => "Invalid mnemonic: " ++ cause
  | payloadConsumed => "Signable payload has already been consumed"
  | keyReleased => "Signing key handle has already been released"
  | noKey => "Expected a SigningKeyHandle"
  | wrongKey curve backend =>
    "Key handle for " ++ curve.name ++ " cannot be used with the " ++ backend.name ++ " backend"
  | invalidKey curve => "Invalid " ++ curve.name ++ " key: " ++ cause
  | secretOutOfRange curve =>
    (if curve = .stark then "STARK" else curve.name) ++ " private key is out of range"
  | messageLength length => s!"STARK messages must be 32 bytes, got {length}"
  | messageOutOfRange => "STARK message is not below 2**251"
  | unsigned curve => curve.name ++ " signing failed: " ++ cause
  | incompletePaths chain => chain ++ ": every accepted curve needs a default path"
  | notCopyable => "Signing key handles cannot be copied"
  | notSerializable => "Signing key handles cannot be serialized"
  | invalidModel _ | tooManyDigits | operandAbovePrime | numberOutOfRange | cacheTooSmall
  | noWorkers | zeroLimit | notAscii | notHex | projectNotTable | nestedTooDeep | noAnswer => ""

end Failure

end Signatory
