import Signatory.Proofs.Outcome
import Signatory.Starknet.Invoke

/-!
# Hashes of lists of numbers

The hash of a list folds the Pedersen hash over its numbers and then its length, and every one of
them must be a field element.

1. `hashElements_eq_ok_iff` says which lists have a hash and what it is. The Pedersen hash of two
   numbers is a field element itself (`pedersen_lt`).
2. `IsListHash`: what is relied on of a hash of lists elsewhere.
3. `Collides`: two lists of field elements that differ and have the same hash.
-/

namespace Signatory.Starknet

open Outcome

/-! ## Field elements -/

/-- A number of the field. -/
def IsFelt (n : Int) : Prop :=
  0 ≤ n ∧ n < fieldPrime

instance (n : Int) : Decidable (IsFelt n) :=
  inferInstanceAs (Decidable (0 ≤ n ∧ n < fieldPrime))

theorem isFelt_natCast {n : Nat} : IsFelt n ↔ n < fieldPrime := by
  unfold IsFelt
  omega

theorem fieldPrime_lt : fieldPrime < Bytes.capacity 32 := by
  decide

theorem capacity_le_fieldPrime : Bytes.capacity 8 ≤ fieldPrime := by
  decide

/-- The first coordinate of a point is reduced by the prime. -/
theorem pedersen_lt (a b : Nat) : Pedersen.hash a b < fieldPrime := by
  have hprime : 0 < fieldPrime := by decide
  unfold Pedersen.hash Weierstrass.combine Weierstrass.toAffine
  dsimp only
  split
  · exact hprime
  · rename_i x y h
    split at h
    · cases h
    · cases h
      exact Nat.mod_lt _ hprime

/-! ## Folding -/

theorem hashStep_eq_ok_iff {acc : Nat} {n : Int} {h : Nat} :
    hashStep acc n = .ok h ↔ IsFelt n ∧ Pedersen.hash acc n.toNat = h := by
  have hprime := fieldPrime_lt
  unfold hashStep IsFelt
  split
  · constructor
    · intro h
      cases h
    · rintro ⟨hn, -⟩
      omega
  · split
    · constructor
      · intro h
        exact ⟨by omega, Except.ok.inj h⟩
      · rintro ⟨-, h⟩
        rw [h]
    · constructor
      · intro h
        cases h
      · rintro ⟨hn, -⟩
        omega

/-- The numbers hashed one after the other. -/
def absorb (acc : Nat) (ns : List Int) : Nat :=
  ns.foldl (fun acc n => Pedersen.hash acc n.toNat) acc

theorem foldlM_hashStep_eq_ok_iff {ns : List Int} {acc h : Nat} :
    ns.foldlM hashStep acc = .ok h ↔ (∀ n ∈ ns, IsFelt n) ∧ absorb acc ns = h := by
  induction ns generalizing acc with
  | nil =>
    constructor
    · intro h
      exact ⟨List.forall_mem_nil _, Except.ok.inj h⟩
    · rintro ⟨-, h⟩
      exact congrArg Except.ok h
  | cons n ns ih =>
    rw [List.foldlM_cons, bind_eq_ok_iff, List.forall_mem_cons]
    constructor
    · rintro ⟨acc', hstep, hrest⟩
      obtain ⟨hn, rfl⟩ := hashStep_eq_ok_iff.1 hstep
      obtain ⟨hns, hacc⟩ := ih.1 hrest
      exact ⟨⟨hn, hns⟩, hacc⟩
    · rintro ⟨⟨hn, hns⟩, hacc⟩
      exact ⟨_, hashStep_eq_ok_iff.2 ⟨hn, rfl⟩, ih.2 ⟨hns, hacc⟩⟩

theorem absorb_append_singleton (acc : Nat) (ns : List Int) (n : Int) :
    absorb acc (ns ++ [n]) = Pedersen.hash (absorb acc ns) n.toNat := by
  unfold absorb
  rw [List.foldl_append]
  rfl

/-! ## Hashes of lists -/

/-- The hash of a list of field elements: its numbers, and then its length. -/
def digest (ns : List Int) : Nat :=
  absorb 0 (ns ++ [(ns.length : Int)])

/-- A list has a hash exactly if its numbers and its length are field elements. -/
theorem hashElements_eq_ok_iff {ns : List Int} {h : Nat} :
    hashElements ns = .ok h ↔
      (∀ n ∈ ns, IsFelt n) ∧ ns.length < fieldPrime ∧ digest ns = h := by
  unfold hashElements
  rw [foldlM_hashStep_eq_ok_iff, List.forall_mem_append, List.forall_mem_singleton,
    isFelt_natCast, and_assoc]
  rfl

theorem digest_lt (ns : List Int) : digest ns < fieldPrime := by
  unfold digest
  rw [absorb_append_singleton]
  exact pedersen_lt _ _

theorem lt_of_hashElements {ns : List Int} {h : Nat} (hns : hashElements ns = .ok h) :
    h < fieldPrime := by
  obtain ⟨-, -, rfl⟩ := hashElements_eq_ok_iff.1 hns
  exact digest_lt ns

/-- What is relied on of a hash of lists: it fails on a number that is no field element, and gives a
field element. -/
def IsListHash (hashList : List Int → Except Failure Nat) : Prop :=
  ∀ ns h, hashList ns = .ok h → (∀ n ∈ ns, IsFelt n) ∧ h < fieldPrime

theorem isListHash_hashElements : IsListHash hashElements :=
  fun _ _ hns => ⟨(hashElements_eq_ok_iff.1 hns).1, lt_of_hashElements hns⟩

section Collisions

variable {hashList : List Int → Except Failure Nat}

/-- Two lists of field elements that differ and have the same hash. -/
def Collides (hashList : List Int → Except Failure Nat) (xs ys : List Int) : Prop :=
  xs ≠ ys ∧ (∀ x ∈ xs, IsFelt x) ∧ (∀ y ∈ ys, IsFelt y) ∧
    ∃ h, hashList xs = .ok h ∧ hashList ys = .ok h

/-- Lists with the same hash are equal, or they collide. -/
theorem eq_or_collides (hlist : IsListHash hashList) {xs ys : List Int} {h : Nat}
    (hx : hashList xs = .ok h) (hy : hashList ys = .ok h) : xs = ys ∨ Collides hashList xs ys := by
  by_cases heq : xs = ys
  · exact .inl heq
  · exact .inr ⟨heq, (hlist xs h hx).1, (hlist ys h hy).1, h, hx, hy⟩

end Collisions

end Signatory.Starknet
