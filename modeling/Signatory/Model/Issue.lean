/-!
# Issues

What is wrong with an untyped value: where, and what. A check of a value lists all its
issues, in the order of the declared fields.
-/

namespace Signatory

/-- What is wrong at one place of a value. -/
inductive Issue.Kind where
  | missing
  | noObject
  | noList
  | noText
  | textEncoding
  | noInteger
  | integerText
  | integerSize
  | integerFraction
  | notFinite
  | negative
  | invalidJson
  | refused (reason : String)
  deriving DecidableEq, Repr

/-- An issue and the field names and positions that lead to it. -/
structure Issue where
  path : List String
  kind : Issue.Kind
  deriving DecidableEq, Repr

namespace Issue

/-- The name of a kind of issue. -/
def Kind.name : Kind → String
  | .missing => "missing"
  | .noObject => "model_type"
  | .noList => "list_type"
  | .noText => "string_type"
  | .textEncoding => "string_unicode"
  | .noInteger => "int_type"
  | .integerText => "int_parsing"
  | .integerSize => "int_parsing_size"
  | .integerFraction => "int_from_float"
  | .notFinite => "finite_number"
  | .negative => "greater_than_equal"
  | .invalidJson => "json_invalid"
  | .refused _ => "value_error"

/-- The reason that came with a refusal. -/
def Kind.reason? : Kind → Option String
  | .refused reason => some reason
  | _ => none

/-- The place of an issue as one text. -/
def location (i : Issue) : String :=
  ".".intercalate i.path

/-- The issue of a part, seen from the whole. -/
def within (step : String) (i : Issue) : Issue :=
  { i with path := step :: i.path }

end Issue

end Signatory
