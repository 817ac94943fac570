import Signatory.Proofs.Sui.Layout

/-!
# Trees of type tags

1. `Everywhere` says something of each struct in a tree; `IsSized` and `IsNamed` are the two
   conditions of use.
2. `calls`: how many calls a tree takes. A tree that takes no more than fit on the stack
   (`FitsIn`) fits into every larger budget.
3. `TypeTag.codec`: a tree that fits is read exactly as it is written, and no other is read.
-/

namespace Signatory.Sui

open Bcs

namespace TypeTag

/-- Every struct in a tree has the property. -/
inductive Everywhere (Q : (address : Bytes) → (module name : String) → Prop) : TypeTag → Prop
  | primitive (p : Primitive) : Everywhere Q (.primitive p)
  | vector {t : TypeTag} (ht : Everywhere Q t) : Everywhere Q (.vector t)
  | struct {address : Bytes} {module name : String} {parameters : List TypeTag}
      (h : Q address module name) (hps : ∀ t ∈ parameters, Everywhere Q t) :
      Everywhere Q (.struct address module name parameters)

/-- Every address has its length. -/
def IsSized : TypeTag → Prop :=
  Everywhere fun address _ _ => address.length = addressLength

/-- Every module and every struct has a name of word characters. -/
def IsNamed : TypeTag → Prop :=
  Everywhere fun _ module name => isName module.toList ∧ isName name.toList

section Structs

variable {Q R : Bytes → String → String → Prop}

theorem Everywhere.and {t : TypeTag} (hQ : t.Everywhere Q) (hR : t.Everywhere R) :
    t.Everywhere fun a m x => Q a m x ∧ R a m x := by
  induction hQ with
  | primitive p => exact .primitive p
  | vector _ ih =>
    cases hR with
    | vector hR => exact .vector (ih hR)
  | struct h _ ih =>
    cases hR with
    | struct h' hR => exact .struct ⟨h, h'⟩ fun t ht => ih t ht (hR t ht)

theorem Everywhere.imp (hQR : ∀ a m x, Q a m x → R a m x) {t : TypeTag} (ht : t.Everywhere Q) :
    t.Everywhere R := by
  induction ht with
  | primitive p => exact .primitive p
  | vector _ ih => exact .vector ih
  | struct h _ ih => exact .struct (hQR _ _ _ h) ih

theorem everywhere_vector_iff {t : TypeTag} : (vector t).Everywhere Q ↔ t.Everywhere Q := by
  constructor
  · intro h
    cases h with
    | vector h => exact h
  · exact .vector

theorem everywhere_struct_iff {a : Bytes} {m x : String} {ps : List TypeTag} :
    (struct a m x ps).Everywhere Q ↔ Q a m x ∧ ∀ t ∈ ps, t.Everywhere Q := by
  constructor
  · intro h
    cases h with
    | struct h hps => exact ⟨h, hps⟩
  · exact fun h => .struct h.1 h.2

end Structs

/-! ## Calls -/

mutual

/-- How many calls a tree takes: its own, and those down to the deepest tag in it. -/
def calls (b : Budget) : TypeTag → Nat
  | primitive _ => 1
  | vector t => 1 + (b.vector + calls b t)
  | struct _ _ _ parameters => 1 + partCalls b parameters

/-- The most that one of some parameters takes. -/
def partCalls (b : Budget) : List TypeTag → Nat
  | [] => 0
  | t :: ts => max (b.struct + calls b t) (partCalls b ts)

end

/-- The calls for a tree fit on the stack. -/
def FitsIn (b : Budget) (t : TypeTag) : Prop :=
  t.calls b ≤ b.calls

instance (b : Budget) (t : TypeTag) : Decidable (t.FitsIn b) :=
  inferInstanceAs (Decidable (t.calls b ≤ b.calls))

section Calls

variable {b b' : Budget}

theorem calls_pos (b : Budget) (t : TypeTag) : 0 < t.calls b := by
  cases t with
  | primitive => exact Nat.one_pos
  | vector | struct =>
    rw [calls]
    omega

theorem partCalls_le_iff {ts : List TypeTag} {n : Nat} :
    partCalls b ts ≤ n ↔ ∀ t ∈ ts, b.struct + t.calls b ≤ n := by
  induction ts with
  | nil => exact ⟨fun _ => List.forall_mem_nil _, fun _ => Nat.zero_le n⟩
  | cons t ts ih => rw [partCalls, Nat.max_le, ih, List.forall_mem_cons]

mutual

/-- A larger budget takes no more calls. -/
theorem calls_le (h : b ≤ b') : ∀ t : TypeTag, t.calls b' ≤ t.calls b
  | primitive _ => Nat.le_refl 1
  | vector t => by
    have hvector := h.2.1
    have ht := calls_le h t
    rw [calls, calls]
    omega
  | struct _ _ _ parameters => by
    have hparts := partCalls_le h parameters
    rw [calls, calls]
    omega

theorem partCalls_le (h : b ≤ b') : ∀ ts : List TypeTag, partCalls b' ts ≤ partCalls b ts
  | [] => Nat.le_refl 0
  | t :: ts => by
    have hstruct := h.2.2
    have ht := calls_le h t
    have hts := partCalls_le h ts
    rw [partCalls, partCalls]
    omega

end

theorem FitsIn.mono {t : TypeTag} (ht : t.FitsIn b) (h : b ≤ b') : t.FitsIn b' :=
  Nat.le_trans (calls_le h t) (Nat.le_trans ht h.1)

/-- Some larger budget has room for any trees. -/
theorem exists_budget (b : Budget) (ts : List TypeTag) : ∃ b', b ≤ b' ∧ ∀ t ∈ ts, t.FitsIn b' := by
  induction ts with
  | nil => exact ⟨b, b.le_refl, List.forall_mem_nil _⟩
  | cons t ts ih =>
    obtain ⟨b', hle, hts⟩ := ih
    have hle' : b' ≤ ⟨max b'.calls (t.calls b'), b'.vector, b'.struct⟩ :=
      ⟨Nat.le_max_left _ _, Nat.le_refl _, Nat.le_refl _⟩
    refine ⟨_, Budget.le_trans hle hle', List.forall_mem_cons.2 ⟨?_, fun t' ht' => ?_⟩⟩
    · exact Nat.le_trans (calls_le hle' t) (Nat.le_max_right _ _)
    · exact (hts t' ht').mono hle'

end Calls

/-! ## Written trees -/

theorem writes_eq_concat (ts : List TypeTag) : writes ts = .concat (ts.map write) := by
  induction ts with
  | nil => rw [writes, List.map_nil, Emission.concat_nil]
  | cons t ts ih => rw [writes, ih, List.map_cons, Emission.concat_cons]

/-! ## Codecs -/

/-- The variant tag of a tree. -/
def variant : TypeTag → Option Nat
  | .primitive p => some p.variant
  | .vector _ => some 6
  | .struct _ _ _ _ => some 7

theorem ofVariant?_variant (p : Primitive) : Primitive.ofVariant? p.variant = some p := by
  cases p <;> rfl

theorem variant_eq_of_ofVariant? {n : Nat} {p : Primitive} (h : Primitive.ofVariant? n = some p) :
    p.variant = n := by
  unfold Primitive.ofVariant? at h
  have hbeq := List.find?_some h
  exact beq_iff_eq.1 hbeq

theorem eq_primitive_of_variant {t : TypeTag} {n : Nat} {p : Primitive}
    (hn : Primitive.ofVariant? n = some p) (ht : t.variant = some n) : t = .primitive p := by
  rcases t with q | t | ⟨_, _, _, _⟩ <;> cases ht
  · rw [ofVariant?_variant] at hn
    rw [Option.some.inj hn]
  · cases hn
  · cases hn

theorem write_eq_afterTag {t : TypeTag} {n : Nat} (hn : t.variant = some n) :
    t.write = Write.length n ++ t.write.afterTag := by
  rcases t with p | t | ⟨_, _, _, _⟩ <;> cases hn
  · cases p <;> rfl
  all_goals
    simp only [write, Emission.append_assoc]
    rw [afterTag_append (by decide) (by decide)]
    rfl

theorem codec_struct {P : TypeTag → Prop} {r : Reader TypeTag}
    (hr : Codec (fun t : TypeTag => t) P write r) :
    Codec (fun t : TypeTag => t)
      (fun t => ∃ a m x ps, t = .struct a m x ps ∧ a.length = addressLength ∧ ∀ p ∈ ps, P p)
      (fun t => t.write.afterTag)
      (do
        let address ← Read.take addressLength
        let module ← Read.string
        let name ← Read.string
        let parameters ← Read.seq r
        pure (.struct address module name parameters)) := by
  have hfields := (addressCodec.prod (Codec.string.prod (Codec.string.prod hr.seq_self))).map
    fun x => TypeTag.struct x.1 x.2.1 x.2.2.1 x.2.2.2
  simp only [map_eq_bind, bind_assoc, pure_bind] at hfields
  refine hfields.along (fun x => .struct x.1 x.2.1 x.2.2.1 x.2.2.2) ?_ ?_ ?_ fun _ _ => rfl
  · rintro x ⟨ha, -, -, hps⟩
    exact ⟨_, _, _, _, rfl, ha, hps⟩
  · rintro _ ⟨a, m, x, ps, rfl, ha, hps⟩
    exact ⟨(a, m, x, ps), ⟨ha, trivial, trivial, hps⟩, rfl⟩
  · rintro ⟨a, m, x, ps⟩ -
    simp only [write, Emission.append_assoc]
    rw [afterTag_append (by decide) (by decide), writes_eq_concat]
    rfl

/-- A reader with room for some calls takes the trees that it has room for. -/
theorem codec_within (b : Budget) (room : Nat) : ∀ waiting : Nat,
    Codec (fun t : TypeTag => t) (fun t => t.IsSized ∧ waiting + t.calls b ≤ room) write
      (readWithin b room waiting) := by
  induction room with
  | zero =>
    refine fun waiting => Codec.throw fun t h => ?_
    have hpos := calls_pos b t
    omega
  | succ n ih =>
    intro waiting
    cases waiting with
    | succ waiting =>
      refine (ih waiting).congr (fun t _ _ => and_congr_right fun _ => ?_) fun _ _ _ _ => rfl
      omega
    | zero =>
      refine Codec.tagged variant (fun _ _ _ hn => write_eq_afterTag hn) ?_ fun tag => ?_
      · rintro (_ | _ | _) _ - hn <;> cases hn
      split
      · rename_i p hp
        have hvariant : p.variant = tag := variant_eq_of_ofVariant? hp
        refine Codec.pure ?_ ?_ ⟨.primitive p, ⟨.primitive p, ?_⟩, congrArg some hvariant⟩
        · rintro t ⟨-, ht⟩
          rw [eq_primitive_of_variant hp ht]
          cases p <;> rfl
        · exact fun t ht => eq_primitive_of_variant hp ht.2
        · rw [calls]
          omega
      rename_i hnone
      have hprimitive : ∀ p, TypeTag.variant (.primitive p) ≠ some tag := by
        intro p h
        rw [← Option.some.inj h, ofVariant?_variant] at hnone
        cases hnone
      by_cases h6 : tag = 6
      · rw [if_pos h6]
        refine ((ih b.vector).map TypeTag.vector).along TypeTag.vector ?_ ?_ ?_ fun _ _ => rfl
        · rintro t ⟨hsized, hroom⟩
          refine ⟨⟨everywhere_vector_iff.2 hsized, ?_⟩, congrArg some h6.symm⟩
          rw [calls]
          omega
        · rintro (p | t | _) ⟨⟨hsized, hroom⟩, ht⟩
          · exact absurd ht (hprimitive p)
          · rw [calls] at hroom
            exact ⟨t, ⟨everywhere_vector_iff.1 hsized, by omega⟩, rfl⟩
          · have := Option.some.inj ht
            omega
        · intro t _
          rw [write, afterTag_append (by decide) (by decide)]
      rw [if_neg h6]
      by_cases h7 : tag = 7
      · rw [if_pos h7]
        refine (codec_struct (ih b.struct)).congr ?_ fun _ _ _ _ => rfl
        rintro t bs -
        constructor
        · rintro ⟨a, m, x, ps, rfl, ha, hps⟩
          have hparts := partCalls_le_iff.2 fun p hp => (hps p hp).2
          refine ⟨⟨.struct ha fun p hp => (hps p hp).1, ?_⟩, congrArg some h7.symm⟩
          rw [calls]
          omega
        · rintro ⟨⟨hsized, hroom⟩, ht⟩
          rcases t with p | t | ⟨a, m, x, ps⟩
          · exact absurd ht (hprimitive p)
          · have := Option.some.inj ht
            omega
          · obtain ⟨ha, hps⟩ := everywhere_struct_iff.1 hsized
            rw [calls] at hroom
            have hparts : partCalls b ps ≤ n := by omega
            exact ⟨a, m, x, ps, rfl, ha,
              fun p hp => ⟨hps p hp, partCalls_le_iff.1 hparts p hp⟩⟩
      · rw [if_neg h7]
        refine Codec.throw ?_
        rintro (p | t | _) ⟨-, ht⟩
        · exact hprimitive p ht
        · have := Option.some.inj ht
          omega
        · have := Option.some.inj ht
          omega

theorem codec (b : Budget) :
    Codec (fun t : TypeTag => t) (fun t => t.IsSized ∧ t.FitsIn b) write (read b) := by
  refine (codec_within b b.calls 0).congr (fun t _ _ => ?_) fun _ _ _ _ => rfl
  rw [Nat.zero_add]
  rfl

theorem codec_text (b : Budget) :
    Codec text (fun t => t.IsSized ∧ t.FitsIn b) write (readText b) :=
  (codec b).map text

/-- Trees with the same bytes are the same. -/
theorem write_injective {t t' : TypeTag} {p : Bytes} (ht : t.IsSized) (ht' : t'.IsSized)
    (hw : t.write = .done p) (hw' : t'.write = .done p) : t = t' := by
  -- Read them with room for both.
  obtain ⟨b, -, hroom⟩ := exists_budget ⟨0, 0, 0⟩ [t, t']
  obtain ⟨hroom, hroom'⟩ := List.forall_mem_cons.1 hroom
  have h := (codec b).run_of_write ⟨ht, hroom⟩ hw
  rw [(codec b).run_of_write ⟨ht', List.forall_mem_singleton.1 hroom'⟩ hw'] at h
  exact (Except.ok.inj h).symm

end TypeTag

end Signatory.Sui
