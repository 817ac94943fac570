import Signatory.Keys.Handle

/-!
# The journal of an operation

What an operation does besides its result: the log records it writes, the key handles it
opens and closes, and its calls of key derivation and of curve primitives.

1. `Traced` is a result with the events up to it.
2. `Traced.withKey` gives an operation the use of a handle and closes it on every way out.
-/

namespace Signatory

inductive LogLevel where
  | debug
  | warning
  | error
  deriving DecidableEq, Repr

/-- The part of the library that writes a record. -/
inductive LogSource where
  | settings
  | codec
  | sui
  | starknet
  | backend
  | derivation
  | handle
  | signer
  deriving DecidableEq, Repr

structure LogRecord where
  source : LogSource
  level : LogLevel
  text : String
  deriving DecidableEq, Repr

/-- A use of a secret by a curve primitive. -/
inductive PrimitiveUse where
  | deriveSecret
  | publicKey
  | sign (message : Bytes)
  deriving DecidableEq, Repr

inductive Event where
  | logged (record : LogRecord)
  /-- The key service was asked for a handle. -/
  | derivation
  | primitive (curve : Curve) (use : PrimitiveUse)
  | opened (key : KeyHandle)
  | closed (key : KeyHandle)
  deriving DecidableEq, Repr

/-- A result, and the events on the way to it. -/
structure Traced (α : Type) where
  result : Except Failure α
  events : List Event

namespace Traced

def pure {α : Type} (a : α) : Traced α := ⟨.ok a, []⟩

def fail {α : Type} (f : Failure) : Traced α := ⟨.error f, []⟩

/-- Goes on after a success; the events add up. -/
def bind {α β : Type} (t : Traced α) (next : α → Traced β) : Traced β :=
  match t.result with
  | .ok a => ⟨(next a).result, t.events ++ (next a).events⟩
  | .error f => ⟨.error f, t.events⟩

instance : Monad Traced where
  pure := pure
  bind := bind

/-- A result without events. -/
def ofExcept {α : Type} (r : Except Failure α) : Traced α := ⟨r, []⟩

instance : MonadLift (Except Failure) Traced := ⟨ofExcept⟩

/-- Notes an event. -/
def note (e : Event) : Traced Unit := ⟨.ok (), [e]⟩

/-- Writes a log record. -/
def log (source : LogSource) (level : LogLevel) (text : String) : Traced Unit :=
  note (.logged ⟨source, level, text⟩)

def debug (source : LogSource) (text : String) : Traced Unit :=
  log source .debug text

/-- The events that come with the release of a handle. -/
def releaseEvents (k : KeyHandle) : List Event :=
  if k.released then [.closed k]
  else
    [.logged ⟨.handle, .debug, "Released " ++ k.curve.name ++ " key handle for " ++
      if k.path.isEmpty then "<raw>" else k.path⟩, .closed k.release]

/-- Runs an operation on a handle and releases the handle, whatever the result. -/
def withKey {α : Type} (k : KeyHandle) (use : KeyHandle → Traced α) : Traced α :=
  ⟨(use k).result, (use k).events ++ releaseEvents k⟩

/-- The log records among the events. -/
def records {α : Type} (t : Traced α) : List LogRecord :=
  t.events.filterMap fun
    | .logged r => some r
    | _ => none

@[simp] theorem pure_bind {α β : Type} (a : α) (next : α → Traced β) :
    (pure a).bind next = next a := by
  simp [pure, bind]

@[simp] theorem fail_bind {α β : Type} (f : Failure) (next : α → Traced β) :
    (fail f).bind next = fail f := rfl

theorem bind_assoc {α β γ : Type} (t : Traced α) (f : α → Traced β) (g : β → Traced γ) :
    (t.bind f).bind g = t.bind fun a => (f a).bind g := by
  obtain ⟨r, es⟩ := t
  cases r with
  | error e => rfl
  | ok a =>
    simp only [bind]
    cases (f a).result <;> simp

end Traced

end Signatory
