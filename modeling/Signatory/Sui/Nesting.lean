/-!
# Room for nested type tags

A type tag is read and written by calls within calls, and the stack has room for so many calls
only. A `Budget` is the room in one direction. A tag that is nested too deep for it is neither
read nor written; the failure is no refusal.
-/

namespace Signatory.Sui

/-- How many calls fit on the stack, and how many come between the call for a type tag and the
call for a tag inside it, which a vector or a struct may hold. -/
structure Budget where
  calls : Nat
  vector : Nat
  struct : Nat
  deriving DecidableEq, Repr

namespace Budget

/-- The larger budget has room for more calls and puts fewer between two tags. -/
instance : LE Budget where
  le a b := a.calls ≤ b.calls ∧ b.vector ≤ a.vector ∧ b.struct ≤ a.struct

theorem le_refl (b : Budget) : b ≤ b :=
  ⟨Nat.le_refl _, Nat.le_refl _, Nat.le_refl _⟩

theorem le_trans {a b c : Budget} (hab : a ≤ b) (hbc : b ≤ c) : a ≤ c :=
  ⟨Nat.le_trans hab.1 hbc.1, Nat.le_trans hbc.2.1 hab.2.1, Nat.le_trans hbc.2.2 hab.2.2⟩

/-- How many levels of nesting have room, whatever they are. -/
def levels (b : Budget) : Nat :=
  b.calls / (1 + max b.vector b.struct)

end Budget

/-- The room for reading type tags and the room for writing them. Writing takes no more calls
than reading. -/
structure Nesting where
  reading : Budget
  writing : Budget
  reading_le : reading ≤ writing

namespace Nesting

/-- Room for a thousand calls, less those that are open before the first tag. The parameters of a
struct are read two calls further in, and written one. -/
def standard : Nesting where
  reading := ⟨980, 0, 2⟩
  writing := ⟨980, 0, 1⟩
  reading_le := ⟨Nat.le_refl 980, Nat.le_refl 0, Nat.le_succ 1⟩

end Nesting

end Signatory.Sui
