import Signatory.Journal
import Signatory.Text.Numeral

/-!
# Settings

The settings of a signer, as read from the environment. A variable that is absent or
blank leaves its default; one that is no integer or out of range does too, with a warning.
-/

namespace Signatory

structure Settings where
  /-- How many seconds a public key stays cached; zero turns the cache off. -/
  cacheLifetime : Int := 300
  /-- How many public keys are cached at most. -/
  cacheSize : Int := 256
  /-- How many requests are signed at a time. -/
  maxWorkers : Int := 4
  /-- Whether senders without a registered path are refused. -/
  strictAccounts : Bool := false
  deriving DecidableEq, Repr

namespace Settings

/-- The value of an integer variable, and the warning that comes with it. -/
def integer (name : String) (default minimum : Int) (raw : Option String) :
    Int × List LogRecord :=
  let warn (problem text : String) : Int × List LogRecord :=
    (default, [⟨.settings, .warning, "Ignoring " ++ problem ++ " " ++ name ++ "=" ++ text ++
      ", using " ++ Text.signed default⟩])
  match raw with
  | none => (default, [])
  | some s =>
    if Text.isBlankText s then (default, [])
    else
      match Text.decimal? s with
      | none => warn "invalid" (Text.quoted s)
      | some n => if n < minimum then warn "out-of-range" (Text.signed n) else (n, [])

/-- The settings of an application, whose name starts the names of its variables. -/
def read (application : String) (env : String → Option String) : Settings × List LogRecord :=
  let get (suffix : String) (default minimum : Int) : Int × List LogRecord :=
    let name := application ++ suffix
    integer name default minimum (env name)
  let lifetime := get "_PUBKEY_CACHE_TTL" 300 0
  let size := get "_PUBKEY_CACHE_SIZE" 256 1
  let workers := get "_MAX_WORKERS" 4 1
  (⟨lifetime.1, size.1, workers.1, env (application ++ "_STRICT_ACCOUNTS") = some "1"⟩,
   lifetime.2 ++ size.2 ++ workers.2)

end Settings

end Signatory
