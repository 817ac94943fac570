import Signatory.Bcs.Schema

/-!
# Scripts of writes and reads

A script is a list of steps on one buffer or one cursor. A step that fails does not end
the script: the next one starts from where the failure left the buffer or the cursor.
-/

namespace Signatory.Bcs

/-- A value and the schema it is written by. -/
structure Field where
  schema : Schema
  value : schema.Val

/-- The buffer after each write, and how the write ended. -/
def writeScript : Bytes → List Field → List (Bytes × Option Failure)
  | _, [] => []
  | buffer, f :: fs =>
    let e := f.schema.write f.value
    let buffer := buffer ++ e.bytes
    (buffer, e.failure) :: writeScript buffer fs

/-- A step of a reading script. -/
inductive ReadStep where
  | read (schema : Schema)
  | finish
  deriving Repr

/-- What a step of a reading script gives: the value of a schema, or the end. -/
inductive ReadAnswer where
  | value (field : Field)
  | finished

/-- The reader of a step. -/
def ReadStep.reader : ReadStep → Reader ReadAnswer
  | .read schema => (fun v => .value ⟨schema, v⟩) <$> schema.read
  | .finish => (fun _ => .finished) <$> Read.finish

/-- The outcome of each step, and the cursor after it. -/
def readScript : Cursor → List ReadStep → List (Except Failure ReadAnswer × Cursor)
  | _, [] => []
  | c, s :: ss =>
    match s.reader c with
    | .ok a c => (.ok a, c) :: readScript c ss
    | .error f c => (.error f, c) :: readScript c ss

end Signatory.Bcs
