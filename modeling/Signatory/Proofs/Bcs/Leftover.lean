import Signatory.Proofs.Bcs.Bijection
import Signatory.Proofs.Bcs.Failing

/-!
# What failed writes leave behind

A buffer only grows, also through writes that fail (`pairwise_extends`). Which writes fail, and how,
is said by the value alone (`Schema.refusal?`).

1. `Leaves`: a single value leaves nothing. A sequence leaves its count, the items before the first
   one that fails, and what that one leaves. Nothing is taken back, so a sequence within a sequence
   may leave a part of an item.
2. `Schema.leaves_write` and `Schema.endsAs_write`: what a write that fails leaves, and how it fails.
3. `writeScript_leaves`: this holds of each step of a script, whatever failed before it.
-/

namespace Signatory.Bcs

/-! ## Emissions -/

namespace Emission

/-- The write puts out nothing if it fails. -/
def IsAtomic (e : Emission) : Prop :=
  e.failure ≠ none → e.bytes = []

theorem isAtomic_done (bs : Bytes) : (done bs).IsAtomic :=
  fun h => absurd rfl h

theorem isAtomic_stop (f : Failure) : (stop f).IsAtomic :=
  fun _ => rfl

/-- After a failure nothing is put out. -/
theorem append_of_failure {a : Emission} (h : a.failure ≠ none) (b : Emission) : a ++ b = a := by
  obtain ⟨bytes, failure⟩ := a
  cases failure with
  | none => exact absurd rfl h
  | some f => rfl

theorem append_of_not_failure {a : Emission} (h : a.failure = none) (b : Emission) :
    a ++ b = ⟨a.bytes ++ b.bytes, b.failure⟩ := by
  obtain ⟨bytes, failure⟩ := a
  cases h
  rfl

/-- What cannot fail may follow. -/
theorem IsAtomic.append_done {e : Emission} (h : e.IsAtomic) (bs : Bytes) :
    (e ++ done bs).IsAtomic := by
  by_cases hfailure : e.failure = none
  · rw [append_of_not_failure hfailure]
    exact isAtomic_done _
  · rwa [append_of_failure hfailure]

section Concat

variable {α : Type} {item : α → Emission}

/-- Of writes one after the other, the first one that fails is the last one that puts anything
out. -/
theorem exists_of_failure_concat {items : List α}
    (h : (concat (items.map item)).failure ≠ none) :
    ∃ before v after, items = before ++ v :: after ∧ (∀ w ∈ before, (item w).failure = none) ∧
      (item v).failure ≠ none ∧ (concat (items.map item)).bytes =
        (before.flatMap fun w => (item w).bytes) ++ (item v).bytes := by
  induction items with
  | nil => exact absurd rfl h
  | cons v items ih =>
    rw [List.map_cons, concat_cons] at h ⊢
    by_cases hv : (item v).failure = none
    · rw [append_of_not_failure hv] at h ⊢
      obtain ⟨before, u, after, rfl, hbefore, hu, hbytes⟩ := ih h
      refine ⟨v :: before, u, after, rfl, List.forall_mem_cons.2 ⟨hv, hbefore⟩, hu, ?_⟩
      rw [List.flatMap_cons, List.append_assoc, ← hbytes]
    · rw [append_of_failure hv]
      exact ⟨[], v, items, rfl, List.forall_mem_nil _, hv, rfl⟩

theorem failure_concat (item : α → Emission) (items : List α) :
    (concat (items.map item)).failure = items.findSome? fun v => (item v).failure := by
  induction items with
  | nil => rfl
  | cons v items ih =>
    rw [List.map_cons, concat_cons, List.findSome?_cons]
    cases hv : (item v).failure with
    | some f => rw [append_of_failure (by rw [hv]; exact Option.some_ne_none f), hv]
    | none => rw [append_of_not_failure hv, ih]

end Concat

end Emission

/-! ## Single values -/

namespace Schema

/-- Everything but a sequence. -/
def IsLeaf : Schema → Prop
  | seq _ => False
  | _ => True

end Schema

namespace Write

theorem isAtomic_length (n : Int) : (length n).IsAtomic := by
  unfold length
  split
  · exact Emission.isAtomic_done _
  · exact Emission.isAtomic_stop _

theorem isAtomic_uint (w : Width) (n : Int) : (uint w n).IsAtomic := by
  unfold uint
  split
  · exact Emission.isAtomic_stop _
  · split
    · exact Emission.isAtomic_done _
    · exact Emission.isAtomic_stop _

theorem isAtomic_byteVec (bs : Bytes) : (byteVec bs).IsAtomic :=
  (isAtomic_length _).append_done bs

end Write

/-- A write of a single value adds nothing if it fails. -/
theorem Schema.isAtomic_write {s : Schema} (hs : s.IsLeaf) (v : s.Val) : (s.write v).IsAtomic := by
  cases s with
  | length => exact Write.isAtomic_length v
  | uint w => exact Write.isAtomic_uint w v
  | boolean => exact Emission.isAtomic_done _
  | fixed n => exact Emission.isAtomic_done _
  | byteVec => exact Write.isAtomic_byteVec v
  | string => exact Write.isAtomic_byteVec _
  | seq item => exact hs.elim

/-! ## What is left -/

/-- What a write that fails leaves in the buffer. -/
inductive Leaves : (s : Schema) → s.Val → Bytes → Prop
  | leaf {s : Schema} {v : s.Val} (hs : s.IsLeaf) : Leaves s v []
  | count {item : Schema} {items : List item.Val} (hcount : lengthLimit ≤ items.length) :
      Leaves (.seq item) items []
  | items {item : Schema} {before : List item.Val} {v : item.Val} {after : List item.Val}
      {rest : Bytes} (hcount : (before ++ v :: after).length < lengthLimit)
      (hbefore : ∀ w ∈ before, (item.write w).failure = none)
      (hv : (item.write v).failure ≠ none) (hrest : Leaves item v rest) :
      Leaves (.seq item) (before ++ v :: after)
        (Write.septets 5 (before ++ v :: after).length ++
          ((before.flatMap fun w => (item.write w).bytes) ++ rest))

/-- Only the count and whole items are left, those before the first one that fails. -/
def LeavesWhole (item : Schema) (items : List item.Val) (added : Bytes) : Prop :=
  ∃ before v after, items = before ++ v :: after ∧
    (∀ w ∈ before, (item.write w).failure = none) ∧ (item.write v).failure ≠ none ∧
    added = Write.septets 5 items.length ++ before.flatMap fun w => (item.write w).bytes

theorem Leaves.eq_nil {s : Schema} {v : s.Val} {added : Bytes} (h : Leaves s v added)
    (hs : s.IsLeaf) : added = [] := by
  cases h with
  | leaf => rfl
  | count => exact hs.elim
  | items => exact hs.elim

theorem Leaves.leavesWhole {item : Schema} {items : List item.Val} {added : Bytes}
    (h : Leaves (.seq item) items added) (hitem : item.IsLeaf)
    (hcount : items.length < lengthLimit) : LeavesWhole item items added := by
  cases h with
  | leaf hs => exact hs.elim
  | count hge => exact absurd hcount (Nat.not_lt.2 hge)
  | @items _ before v after rest _ hbefore hv hrest =>
    refine ⟨before, v, after, rfl, hbefore, hv, ?_⟩
    rw [hrest.eq_nil hitem, List.append_nil]

theorem Write.length_of_lt {n : Nat} (h : n < lengthLimit) : length n = .done (septets 5 n) :=
  if_pos ⟨Int.natCast_nonneg n, Int.ofNat_lt.2 h⟩

theorem Write.length_of_le {n : Nat} (h : lengthLimit ≤ n) :
    length n = .stop (misfit n (.lengthOutOfRange n)) :=
  if_neg fun hn => Nat.not_lt.2 h (Int.ofNat_lt.1 hn.2)

/-- What is left of a write that fails; the induction is on the schema. -/
theorem Schema.leaves_write (s : Schema) :
    ∀ v : s.Val, (s.write v).failure ≠ none → Leaves s v (s.write v).bytes := by
  have hleaf : ∀ {s : Schema} (v : s.Val), s.IsLeaf → (s.write v).failure ≠ none →
      Leaves s v (s.write v).bytes := by
    intro s v hs h
    rw [isAtomic_write hs v h]
    exact .leaf hs
  induction s with
  | length => exact fun v => hleaf (s := length) v trivial
  | uint w => exact fun v => hleaf (s := uint w) v trivial
  | boolean => exact fun v => hleaf (s := boolean) v trivial
  | fixed n => exact fun v => hleaf (s := fixed n) v trivial
  | byteVec => exact fun v => hleaf (s := byteVec) v trivial
  | string => exact fun v => hleaf (s := string) v trivial
  | seq item ih =>
    intro items h
    have hwrite : (seq item).write items =
        Write.length items.length ++ .concat (items.map item.write) := rfl
    rw [hwrite] at h ⊢
    rcases Nat.lt_or_ge items.length lengthLimit with hlt | hge
    · rw [Write.length_of_lt hlt, Emission.done_append] at h ⊢
      obtain ⟨before, v, after, rfl, hbefore, hv, hbytes⟩ := Emission.exists_of_failure_concat h
      rw [hbytes]
      exact .items hlt hbefore hv (ih v hv)
    · rw [Write.length_of_le hge, Emission.stop_append]
      exact .count hge

/-! ## Which writes fail -/

namespace Schema

/-- How a value is refused: a negative integer as malformed, a number out of its range otherwise. A
sequence is refused for its count, or like the first of its items that is. -/
def refusal? : (s : Schema) → s.Val → Option ErrorCode
  | length, n => if 0 ≤ n ∧ n < lengthLimit then none else some .numericOverflow
  | uint w, n =>
    if n < 0 then some .malformedIntent
    else if n < w.limit then none else some .numericOverflow
  | boolean, _ | fixed _, _ => none
  | byteVec, bs => if bs.length < lengthLimit then none else some .numericOverflow
  | string, s => if (Bytes.ofText s).length < lengthLimit then none else some .numericOverflow
  | seq item, vs =>
    if vs.length < lengthLimit then vs.findSome? item.refusal? else some .numericOverflow

/-- Every number in the value, and every length, can be named in a message. -/
def IsNameable : (s : Schema) → s.Val → Prop
  | length, n | uint _, n => Text.exceedsDigitLimit n = false
  | boolean, _ | fixed _, _ => True
  | byteVec, bs => Text.exceedsDigitLimit bs.length = false
  | string, s => Text.exceedsDigitLimit (Bytes.ofText s).length = false
  | seq item, vs => Text.exceedsDigitLimit vs.length = false ∧ ∀ v ∈ vs, item.IsNameable v

end Schema

/-- A write ends as it should: without a failure if there is no refusal, and else with a failure,
which is the refusal if all numbers can be named. -/
structure EndsAs (failure : Option Failure) (refusal : Option ErrorCode) (nameable : Prop) :
    Prop where
  fails : failure = none ↔ refusal = none
  code : nameable → failure.bind Failure.code? = refusal

namespace EndsAs

variable {nameable : Prop}

theorem none : EndsAs .none .none nameable :=
  ⟨iff_of_true rfl rfl, fun _ => rfl⟩

theorem misfit {n : Int} {f : Failure} {code : ErrorCode} (h : f.code? = some code) :
    EndsAs (some (Write.misfit n f)) (some code) (Text.exceedsDigitLimit n = false) := by
  refine ⟨iff_of_false (Option.some_ne_none _) (Option.some_ne_none _), fun hn => ?_⟩
  have hnamed : Write.misfit n f = f := if_neg (by rw [hn]; exact Bool.false_ne_true)
  rw [hnamed]
  exact h

/-- Several writes end like the first one that fails. -/
theorem findSome? {α : Type} {failure? : α → Option Failure} {refusal? : α → Option ErrorCode}
    {isNameable : α → Prop} (h : ∀ v, EndsAs (failure? v) (refusal? v) (isNameable v))
    (items : List α) : EndsAs (items.findSome? failure?) (items.findSome? refusal?)
      (∀ v ∈ items, isNameable v) := by
  induction items with
  | nil => exact EndsAs.none
  | cons v items ih =>
    rw [List.findSome?_cons, List.findSome?_cons]
    cases hv : failure? v with
    | none =>
      rw [(h v).fails.1 hv]
      exact ⟨ih.fails, fun hn => ih.code (List.forall_mem_cons.1 hn).2⟩
    | some f =>
      obtain ⟨code, hcode⟩ : ∃ code, refusal? v = some code :=
        Option.ne_none_iff_exists'.1 fun hnone => by cases hv.symm.trans ((h v).fails.2 hnone)
      rw [hcode]
      refine ⟨iff_of_false (Option.some_ne_none f) (Option.some_ne_none code), fun hn => ?_⟩
      have hcodes := (h v).code (List.forall_mem_cons.1 hn).1
      rwa [hv, hcode] at hcodes

theorem length (n : Int) : EndsAs (Write.length n).failure (Schema.length.refusal? n)
    (Schema.length.IsNameable n) := by
  unfold Write.length Schema.refusal?
  by_cases h : 0 ≤ n ∧ n < lengthLimit
  · rw [if_pos h, if_pos h]
    exact EndsAs.none
  · rw [if_neg h, if_neg h]
    exact EndsAs.misfit rfl

theorem uint (w : Width) (n : Int) : EndsAs (Write.uint w n).failure ((Schema.uint w).refusal? n)
    ((Schema.uint w).IsNameable n) := by
  unfold Write.uint Schema.refusal?
  by_cases hneg : n < 0
  · rw [if_pos hneg, if_pos hneg]
    exact EndsAs.misfit rfl
  · rw [if_neg hneg, if_neg hneg]
    by_cases hlimit : n < w.limit
    · rw [if_pos hlimit, if_pos hlimit]
      exact EndsAs.none
    · rw [if_neg hlimit, if_neg hlimit]
      exact EndsAs.misfit rfl

/-- What follows a count that fits decides, and nothing else follows. -/
theorem counted {n : Nat} {e : Emission} {refusal : Option ErrorCode} {isNameable : Prop}
    (h : EndsAs e.failure refusal isNameable) : EndsAs (Write.length n ++ e).failure
      (if n < lengthLimit then refusal else some .numericOverflow)
      (Text.exceedsDigitLimit n = false ∧ isNameable) := by
  rcases Nat.lt_or_ge n lengthLimit with hlt | hge
  · rw [Write.length_of_lt hlt, Emission.done_append, if_pos hlt]
    exact ⟨h.fails, fun hn => h.code hn.2⟩
  · rw [Write.length_of_le hge, Emission.stop_append, if_neg (Nat.not_lt.2 hge)]
    obtain ⟨hfails, hcode⟩ := EndsAs.misfit (n := n) (f := .lengthOutOfRange n) rfl
    exact ⟨hfails, fun hn => hcode hn.1⟩

theorem byteVec (bs : Bytes) : EndsAs (Write.byteVec bs).failure (Schema.byteVec.refusal? bs)
    (Schema.byteVec.IsNameable bs) := by
  obtain ⟨hfails, hcode⟩ := EndsAs.counted (n := bs.length) (e := Write.fixed bs)
    (@EndsAs.none True)
  exact ⟨hfails, fun hn => hcode ⟨hn, trivial⟩⟩

end EndsAs

/-- Which writes fail, and how, is said by the value. -/
theorem Schema.endsAs_write (s : Schema) :
    ∀ v : s.Val, EndsAs (s.write v).failure (s.refusal? v) (s.IsNameable v) := by
  induction s with
  | length => exact EndsAs.length
  | uint w => exact EndsAs.uint w
  | boolean => exact fun _ => EndsAs.none
  | fixed n => exact fun _ => EndsAs.none
  | byteVec => exact EndsAs.byteVec
  | string => exact fun s => EndsAs.byteVec (Bytes.ofText s)
  | seq item ih =>
    intro vs
    have hitems := EndsAs.findSome? ih vs
    rw [← Emission.failure_concat] at hitems
    exact hitems.counted

/-! ## Scripts -/

theorem writeScript_append (fs gs : List Field) : ∀ buffer : Bytes,
    writeScript buffer (fs ++ gs) =
      writeScript buffer fs ++ writeScript (bufferAfter buffer fs) gs := by
  induction fs with
  | nil => exact fun _ => rfl
  | cons f fs ih =>
    intro buffer
    rw [List.cons_append, writeScript_cons, writeScript_cons, ih, bufferAfter_cons,
      List.cons_append]

theorem length_writeScript (fields : List Field) : ∀ buffer : Bytes,
    (writeScript buffer fields).length = fields.length := by
  induction fields with
  | nil => exact fun _ => rfl
  | cons f fs ih =>
    intro buffer
    rw [writeScript_cons, List.length_cons, List.length_cons, ih]

/-- Each buffer of a script extends all the buffers before it. -/
theorem pairwise_extends (fields : List Field) : ∀ buffer : Bytes,
    (buffer :: (writeScript buffer fields).map Prod.fst).Pairwise (· <+: ·) := by
  induction fields with
  | nil => exact fun buffer => List.pairwise_singleton _ buffer
  | cons f fs ih =>
    intro buffer
    have htail := ih (buffer ++ f.written.bytes)
    have hstep : buffer <+: buffer ++ f.written.bytes := List.prefix_append _ _
    rw [writeScript_cons, List.map_cons]
    refine List.pairwise_cons.2 ⟨List.forall_mem_cons.2 ⟨hstep, fun later hlater => ?_⟩, htail⟩
    exact hstep.trans ((List.pairwise_cons.1 htail).1 later hlater)

/-- What a step adds to the buffer, and how it ends. -/
structure Field.Ends (f : Field) (added : Bytes) (failure : Option Failure) : Prop where
  written : failure = none → f.written = .done added
  leaf : f.schema.IsLeaf → failure ≠ none → added = []
  left : failure ≠ none → Leaves f.schema f.value added
  whole : ∀ item items, f = ⟨.seq item, items⟩ → item.IsLeaf → items.length < lengthLimit →
    failure ≠ none → LeavesWhole item items added
  ends : EndsAs failure (f.schema.refusal? f.value) (f.schema.IsNameable f.value)

theorem Field.ends_written (f : Field) : f.Ends f.written.bytes f.written.failure where
  written h := by
    rw [← Emission.result_eq_ok_iff]
    unfold Emission.result
    rw [h]
  leaf hs h := (f.schema.leaves_write f.value h).eq_nil hs
  left h := f.schema.leaves_write f.value h
  whole := by
    rintro item items rfl hitem hcount h
    exact ((Schema.seq item).leaves_write items h).leavesWhole hitem hcount
  ends := f.schema.endsAs_write f.value

/-- Through a script of writes, some of which fail, the buffer only grows; and each step adds to the
buffer before it and ends as its value says, whatever failed before. -/
theorem writeScript_leaves (buffer : Bytes) (fields : List Field) :
    (buffer :: (writeScript buffer fields).map Prod.fst).Pairwise (· <+: ·) ∧
    ∀ before f after, fields = before ++ f :: after → ∃ added failure,
      (writeScript buffer fields)[before.length]? =
        some (bufferAfter buffer before ++ added, failure) ∧ f.Ends added failure := by
  refine ⟨pairwise_extends fields buffer, ?_⟩
  rintro before f after rfl
  refine ⟨f.written.bytes, f.written.failure, ?_, f.ends_written⟩
  rw [writeScript_append, ← length_writeScript before buffer, List.getElem?_append_right
    (Nat.le_refl _), Nat.sub_self, writeScript_cons]
  rfl

/-- A sequence that fails at its second item, between an integer and another failure. -/
def mixedScript : List Field :=
  [⟨.uint .u8, (1 : Int)⟩, ⟨.seq (.uint .u8), ([7, 256, 8] : List Int)⟩, ⟨.uint .u16, (-1 : Int)⟩]

theorem writeScript_leaves_mixedScript : ∃ added failure,
    (writeScript [] mixedScript)[1]? = some (bufferAfter [] (mixedScript.take 1) ++ added, failure) ∧
      LeavesWhole (.uint .u8) ([7, 256, 8] : List Int) added ∧
      failure.bind Failure.code? = some .numericOverflow := by
  obtain ⟨added, failure, hstep, hends⟩ := (writeScript_leaves [] mixedScript).2
    [⟨.uint .u8, (1 : Int)⟩] ⟨.seq (.uint .u8), ([7, 256, 8] : List Int)⟩
    [⟨.uint .u16, (-1 : Int)⟩] rfl
  have hrefusal : (Schema.seq (.uint .u8)).refusal? ([7, 256, 8] : List Int) =
      some .numericOverflow := by decide
  have hfails : failure ≠ none := by
    rw [ne_eq, hends.ends.fails, hrefusal]
    exact Option.some_ne_none _
  have hnameable : (Schema.seq (.uint .u8)).IsNameable ([7, 256, 8] : List Int) := by
    have hshort : ∀ n : Int, n ∈ ([7, 256, 8, 3] : List Int) →
        Text.exceedsDigitLimit n = false := by decide +kernel
    exact ⟨hshort 3 (by decide), fun n hn => hshort n (List.mem_append_left [3] hn)⟩
  exact ⟨added, failure, hstep, hends.whole _ _ rfl trivial (by decide) hfails,
    (hends.ends.code hnameable).trans hrefusal⟩

/-- Lists of which the second one has an integer that is too large. -/
def nestedItems : List (List Int) := [[1], [2, 256]]

/-- An integer of the fewest digits that are too many. -/
def longInteger : Int := (Nat.pow 10 Text.digitLimit : Nat)

theorem not_leavesWhole_nestedItems :
    (writeScript [] [⟨.seq (.seq (.uint .u8)), nestedItems⟩]).map Prod.fst = [[2, 1, 1, 2, 2]] ∧
    ((Schema.seq (.seq (.uint .u8))).write nestedItems).failure.isSome = true ∧
    ¬ LeavesWhole (.seq (.uint .u8)) nestedItems [2, 1, 1, 2, 2] ∧
    (Write.uint .u8 longInteger).failure = some .tooManyDigits ∧
    Failure.tooManyDigits.code? = none := by
  refine ⟨by decide +kernel, by decide +kernel, ?_, ?_, rfl⟩
  · rintro ⟨before, v, after, hitems, hbefore, hv, hadded⟩
    unfold nestedItems at hitems
    cases before with
    | nil =>
      obtain ⟨rfl, -⟩ := List.cons.inj hitems
      exact hv rfl
    | cons w before =>
      obtain ⟨rfl, hrest⟩ := List.cons.inj hitems
      cases before with
      | nil => exact absurd hadded (by decide)
      | cons w' before =>
        obtain ⟨-, hnil⟩ := List.cons.inj hrest
        cases before <;> cases hnil
  · have hnonneg : ¬ longInteger < 0 := Int.not_lt.2 (Int.natCast_nonneg _)
    have hpow : Width.u8.limit ≤ Nat.pow 10 Text.digitLimit := by decide +kernel
    have hlarge : ¬ longInteger < Width.u8.limit := Int.not_lt.2 (Int.ofNat_le.2 hpow)
    have hlong : Text.exceedsDigitLimit longInteger = true := by
      unfold Text.exceedsDigitLimit longInteger
      rw [Int.natAbs_natCast]
      exact decide_eq_true (Nat.le_refl _)
    unfold Write.uint Write.misfit
    rw [if_neg hnonneg, if_neg hlarge, if_pos hlong]
    rfl

end Signatory.Bcs
