import Signatory.Bytes
import Signatory.Failure

/-!
# Writing in Binary Canonical Serialization

A write is a value: the bytes it puts out and the failure that ended it, if any. Writes
are joined by `++`; nothing follows a failure.

1. Integers have a fixed width and are little-endian; `length` writes the counts and
   variant tags in groups of seven bits, lowest first, the top bit marking that more
   follow.
2. Texts and byte vectors have their length in front, fixed bytes do not.
3. A sequence is its count and its items.
-/

namespace Signatory.Bcs

/-- What a write puts out, and the failure that ended it. -/
structure Emission where
  bytes : Bytes
  failure : Option Failure := none

namespace Emission

/-- A write that puts out some bytes. -/
def done (bs : Bytes) : Emission := ⟨bs, none⟩

/-- A write that fails at once. -/
def stop (f : Failure) : Emission := ⟨[], some f⟩

/-- One write and then another, unless the first fails. -/
def append (a b : Emission) : Emission :=
  match a.failure with
  | some _ => a
  | none => ⟨a.bytes ++ b.bytes, b.failure⟩

instance : Append Emission := ⟨append⟩

/-- Writes one after the other. -/
def concat (es : List Emission) : Emission :=
  es.foldr (· ++ ·) (done [])

/-- The bytes of a write that does not fail. -/
def result (e : Emission) : Except Failure Bytes :=
  match e.failure with
  | some f => .error f
  | none => .ok e.bytes

@[simp] theorem done_append (bs : Bytes) (e : Emission) :
    done bs ++ e = ⟨bs ++ e.bytes, e.failure⟩ := rfl

@[simp] theorem stop_append (f : Failure) (e : Emission) : stop f ++ e = stop f := rfl

theorem append_assoc (a b c : Emission) : a ++ b ++ c = a ++ (b ++ c) := by
  obtain ⟨ab, af⟩ := a
  obtain ⟨bb, bf⟩ := b
  cases af with
  | some f => rfl
  | none =>
    cases bf with
    | some g => rfl
    | none =>
      exact congrArg (fun bs => Emission.mk bs c.failure) (List.append_assoc ab bb c.bytes)

@[simp] theorem concat_nil : concat [] = done [] := rfl

@[simp] theorem concat_cons (e : Emission) (es : List Emission) :
    concat (e :: es) = e ++ concat es := rfl

end Emission

namespace Write

/-- The groups of seven bits of a number, as many as `groups` at most. -/
def septets : (groups : Nat) → Nat → Bytes
  | 0, _ => []
  | g + 1, n =>
    if n < 128 then [UInt8.ofNat n] else UInt8.ofNat (n % 128 + 128) :: septets g (n / 128)

/-- The failure for a number that does not fit. A number of too many digits cannot be
named in a message. -/
def misfit (n : Int) (f : Failure) : Failure :=
  if Text.exceedsDigitLimit n then .tooManyDigits else f

/-- A length or variant tag. -/
def length (n : Int) : Emission :=
  if 0 ≤ n ∧ n < lengthLimit then .done (septets 5 n.toNat)
  else .stop (misfit n (.lengthOutOfRange n))

def uint (w : Width) (n : Int) : Emission :=
  if n < 0 then .stop (misfit n (.negativeInteger w n))
  else if n < w.limit then .done (Bytes.leBytes w.bytes n.toNat)
  else .stop (misfit n (.integerTooLarge w n))

def boolean (b : Bool) : Emission :=
  .done [if b then 1 else 0]

def fixed (bs : Bytes) : Emission :=
  .done bs

def byteVec (bs : Bytes) : Emission :=
  length bs.length ++ fixed bs

def string (s : String) : Emission :=
  byteVec (Bytes.ofText s)

/-- The count of items, then each item. -/
def seq {α : Type} (item : α → Emission) (items : List α) : Emission :=
  length items.length ++ .concat (items.map item)

end Write

end Signatory.Bcs
