import Signatory.Data.Toml.Document
import Signatory.Failure

/-!
# Versions

The version of a package: the one it was installed with, else the one in the manifest of
its sources, else the first version.
-/

namespace Signatory.Version

/-- The version of a package that states none. -/
def first : String := "0.1.0"

/-- The version in the text of a manifest, under `project`. A manifest that cannot be read
states none. -/
def ofManifest (text : String) : Except Failure Toml :=
  match Toml.parse text with
  | .error .malformed => .ok (.text first)
  | .error .tooManyDigits => .error .tooManyDigits
  | .ok fields =>
    match fields.lookup "project" with
    | none => .ok (.text first)
    | some (.table _ project) => .ok ((project.lookup "version").getD (.text first))
    | some _ => .error .projectNotTable

/-- The version of a package, given the one it was installed with and its manifest. -/
def resolve (installed manifest : Option String) : Except Failure Toml :=
  match installed, manifest with
  | some v, _ => .ok (.text v)
  | none, some text => ofManifest text
  | none, none => .ok (.text first)

end Signatory.Version
