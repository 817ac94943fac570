import Signatory.Failure

/-!
# Key handles

A handle holds a secret key in a buffer. Releasing it overwrites the buffer with zeros;
after that the key cannot be used.
-/

namespace Signatory

structure KeyHandle where
  curve : Curve
  /-- The path that the key was derived at; empty for an imported key. -/
  path : String
  buffer : Bytes
  released : Bool
  deriving DecidableEq, Repr

namespace KeyHandle

/-- A handle of a fresh secret. -/
def make (curve : Curve) (path : String) (secret : Bytes) : KeyHandle :=
  ⟨curve, path, secret, false⟩

/-- The secret, unless the handle is released. -/
def material (k : KeyHandle) : Except Failure Bytes :=
  if k.released then .error .keyReleased else .ok k.buffer

/-- The handle without its secret. -/
def release (k : KeyHandle) : KeyHandle :=
  if k.released then k
  else { k with buffer := List.replicate k.buffer.length 0, released := true }

/-- A handle cannot be copied. -/
def copy (_ : KeyHandle) : Except Failure KeyHandle := .error .notCopyable

/-- A handle cannot be written out. -/
def serialize (_ : KeyHandle) : Except Failure Bytes := .error .notSerializable

/-- A description of the handle that does not show the secret. -/
def text (k : KeyHandle) : String :=
  "SigningKeyHandle(curve=" ++ k.curve.name ++ ", path=" ++ Text.quoted k.path ++ ", " ++
    (if k.released then "released" else "active") ++ ")"

@[simp] theorem released_release (k : KeyHandle) : k.release.released = true := by
  unfold release
  split <;> simp_all

@[simp] theorem release_release (k : KeyHandle) : k.release.release = k.release := by
  rw [release, if_pos (released_release k)]

theorem material_release (k : KeyHandle) : k.release.material = .error .keyReleased := by
  simp [material]

end KeyHandle

end Signatory
