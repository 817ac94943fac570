import Mathlib.Data.Nat.Digits.Defs
import Signatory.Proofs.Bcs.Locality

/-!
# How a length is read

A length is read in groups of seven bits, lowest first, up to the first byte without the top bit.

1. `groups_cases`: bytes end a length within a number of groups, go on for all of them, or end
   before they do either.
2. `lengthFrom_of_endsIn`, `lengthFrom_of_goesOn` and `lengthFrom_of_short` say what is read in each
   case, by induction on the groups that may still come.
3. `length_outcomes`: the bytes at a place decide how a length is read, and the bytes that are
   written for a number are the only ones that it is read from.
-/

namespace Signatory.Bcs

open Read

/-! ## Groups -/

/-- Another group follows these ones: each byte has the top bit. -/
def GoesOn (bs : Bytes) : Prop :=
  ∀ b ∈ bs, 128 ≤ b.toNat

/-- The sum of groups, the lowest first. -/
def groupSum (bs : Bytes) : Nat :=
  Nat.ofDigits 128 (bs.map fun b => b.toNat % 128)

/-- At a place stands a length of `count` groups at most, whose last group is that of `last`. -/
structure EndsIn (count : Nat) (c : Cursor) (more : Bytes) (last : UInt8) (c' : Cursor) : Prop where
  spans : c.Spans (more ++ [last]) c'
  goesOn : GoesOn more
  last_lt : last.toNat < 128
  length_lt : more.length < count

theorem groupSum_cons (b : UInt8) (bs : Bytes) :
    groupSum (b :: bs) = b.toNat % 128 + 128 * groupSum bs :=
  Nat.ofDigits_cons

/-- A group and the sum of those behind it, each in its place. -/
theorem shiftLeft_groupSum (b : UInt8) (bs : Bytes) (i : Nat) :
    (b.toNat % 128) <<< (7 * i) + groupSum bs <<< (7 * (i + 1)) =
      groupSum (b :: bs) <<< (7 * i) := by
  have hgroups := shiftLeft_septet (groupSum (b :: bs)) i
  rw [groupSum_cons] at hgroups ⊢
  rwa [show (b.toNat % 128 + 128 * groupSum bs) % 128 = b.toNat % 128 by omega,
    show (b.toNat % 128 + 128 * groupSum bs) / 128 = groupSum bs by omega] at hgroups

/-- Bytes end a length within some groups, or go on, for all the groups or to their end. -/
theorem groups_cases (count : Nat) : ∀ c : Cursor,
    (∃ more last c', EndsIn count c more last c') ∨
      (∃ first c', c.Spans first c' ∧ first.length = count ∧ GoesOn first) ∨
        c.rest.length < count ∧ GoesOn c.rest := by
  induction count with
  | zero =>
    exact fun c => .inr (.inl ⟨[], c, Cursor.spans_nil_iff.2 rfl, rfl, List.forall_mem_nil _⟩)
  | succ count ih =>
    rintro ⟨offset, rest⟩
    cases rest with
    | nil => exact .inr (.inr ⟨Nat.succ_pos _, List.forall_mem_nil _⟩)
    | cons b rest =>
      have hb : Cursor.Spans ⟨offset, b :: rest⟩ [b] ⟨offset + 1, rest⟩ := ⟨rfl, rfl⟩
      rcases Nat.lt_or_ge b.toNat 128 with hlast | hmore
      · exact .inl ⟨[], b, _, hb, List.forall_mem_nil _, hlast, Nat.succ_pos _⟩
      · rcases ih ⟨offset + 1, rest⟩ with ⟨more, last, c', h⟩ | ⟨first, c', hspan, hlength, h⟩ |
          ⟨hlength, h⟩
        · exact .inl ⟨b :: more, last, c',
            Cursor.spans_append_iff (a := [b]).2 ⟨_, hb, h.spans⟩,
            List.forall_mem_cons.2 ⟨hmore, h.goesOn⟩, h.last_lt, Nat.succ_lt_succ h.length_lt⟩
        · exact .inr (.inl ⟨b :: first, c',
            Cursor.spans_append_iff (a := [b]).2 ⟨_, hb, hspan⟩, congrArg Nat.succ hlength,
            List.forall_mem_cons.2 ⟨hmore, h⟩⟩)
        · exact .inr (.inr ⟨Nat.succ_lt_succ hlength, List.forall_mem_cons.2 ⟨hmore, h⟩⟩)

/-! ## Reading -/

section Reading

variable {i v : Nat} {c c' : Cursor} {more first : Bytes} {last : UInt8}

theorem lengthFrom_of_more {b : UInt8} (hb : c.Spans [b] c') (hmore : 128 ≤ b.toNat)
    (count i v : Nat) : lengthFrom (count + 1) i v c =
      lengthFrom count (i + 1) (v + (b.toNat % 128) <<< (7 * i)) c' := by
  refine (bind_of_ok (byte_eq_ok_iff.2 hb)).trans ?_
  rw [if_neg (Nat.not_lt.2 hmore)]

theorem lengthFrom_of_last (hlast : c.Spans [last] c') (hlt : last.toNat < 128)
    (count i v : Nat) : lengthFrom (count + 1) i v c =
      if last = 0 ∧ 0 < i then .error (.unreadable .notMinimal) c'
      else if lengthLimit ≤ v + last.toNat <<< (7 * i) then .error (.unreadable .outOfRange) c'
      else .ok (v + last.toNat <<< (7 * i)) c' := by
  refine (bind_of_ok (byte_eq_ok_iff.2 hlast)).trans ?_
  have hzero : last.toNat = 0 ↔ last = 0 := by rw [← UInt8.toNat_zero, UInt8.toNat_inj]
  rw [if_pos hlt, Nat.mod_eq_of_lt hlt]
  by_cases hmin : last = 0 ∧ 0 < i
  · rw [if_pos hmin, if_pos ⟨hzero.2 hmin.1, hmin.2⟩]
    rfl
  · rw [if_neg hmin, if_neg fun h => hmin ⟨hzero.1 h.1, h.2⟩]
    split <;> rfl

/-- Groups that end are read up to the last one. -/
theorem lengthFrom_of_endsIn {count : Nat} (h : EndsIn count c more last c') :
    lengthFrom count i v c =
      if last = 0 ∧ 0 < i + more.length then .error (.unreadable .notMinimal) c'
      else if lengthLimit ≤ v + groupSum (more ++ [last]) <<< (7 * i) then
        .error (.unreadable .outOfRange) c'
      else .ok (v + groupSum (more ++ [last]) <<< (7 * i)) c' := by
  induction count generalizing c i v more with
  | zero => exact absurd h.length_lt (Nat.not_lt_zero _)
  | succ count ih =>
    obtain ⟨hspan, hgoes, hlast, hlength⟩ := h
    cases more with
    | nil =>
      have hsum : groupSum [last] = last.toNat := by
        rw [groupSum_cons, Nat.mod_eq_of_lt hlast]
        rfl
      rw [List.nil_append] at hspan ⊢
      rw [lengthFrom_of_last hspan hlast, hsum]
      rfl
    | cons b more =>
      obtain ⟨hb, hgoes⟩ := List.forall_mem_cons.1 hgoes
      obtain ⟨c₁, hc₁, hspan⟩ := Cursor.spans_append_iff (a := [b]).1 hspan
      have hrest : EndsIn count c₁ more last c' :=
        ⟨hspan, hgoes, hlast, Nat.lt_of_succ_lt_succ hlength⟩
      have hsum : groupSum (b :: more ++ [last]) <<< (7 * i) = _ :=
        (shiftLeft_groupSum b (more ++ [last]) i).symm
      rw [lengthFrom_of_more hc₁ hb, ih hrest, hsum, List.length_cons, Nat.add_right_comm i 1,
        Nat.add_assoc i, Nat.add_assoc v]

/-- Groups that go on are read in the number that may come. -/
theorem lengthFrom_of_goesOn (hspan : c.Spans first c') (hgoes : GoesOn first) :
    lengthFrom first.length i v c = .error (.unreadable .tooLong) c' := by
  induction first generalizing c i v with
  | nil =>
    rw [Cursor.spans_nil_iff.1 hspan]
    rfl
  | cons b first ih =>
    obtain ⟨hb, hgoes⟩ := List.forall_mem_cons.1 hgoes
    obtain ⟨c₁, hc₁, hspan⟩ := Cursor.spans_append_iff (a := [b]).1 hspan
    rw [List.length_cons, lengthFrom_of_more hc₁ hb, ih hspan hgoes]

/-- Groups that are cut off are read to the end. -/
theorem lengthFrom_of_short {count : Nat} (hspan : c.Spans first c') (hend : c'.rest = [])
    (hgoes : GoesOn first) (hlength : first.length < count) :
    lengthFrom count i v c = .error (.unreadable (.truncated c'.offset 1)) c' := by
  induction count generalizing c i v first with
  | zero => exact absurd hlength (Nat.not_lt_zero _)
  | succ count ih =>
    cases first with
    | nil =>
      obtain rfl := Cursor.spans_nil_iff.1 hspan
      refine bind_of_error ?_
      unfold byte
      rw [hend]
      rfl
    | cons b first =>
      obtain ⟨hb, hgoes⟩ := List.forall_mem_cons.1 hgoes
      obtain ⟨c₁, hc₁, hspan⟩ := Cursor.spans_append_iff (a := [b]).1 hspan
      rw [lengthFrom_of_more hc₁ hb, ih hspan hgoes (Nat.lt_of_succ_lt_succ hlength)]

end Reading

/-! ## Outcomes -/

/-- How a length is read from a place, told by the bytes there. The byte that decides is the first
one without the top bit, if it is one of the first five. -/
inductive ReadsLength (c : Cursor) : EStateM.Result Failure Cursor Nat → Prop
  | value {more : Bytes} {last : UInt8} {c' : Cursor} (h : EndsIn 5 c more last c')
      (hminimal : ¬ (last = 0 ∧ 0 < more.length))
      (hrange : groupSum (more ++ [last]) < lengthLimit) :
      ReadsLength c (.ok (groupSum (more ++ [last])) c')
  | notMinimal {more : Bytes} {c' : Cursor} (h : EndsIn 5 c more 0 c') (hmore : 0 < more.length) :
      ReadsLength c (.error (.unreadable .notMinimal) c')
  | outOfRange {more : Bytes} {last : UInt8} {c' : Cursor} (h : EndsIn 5 c more last c')
      (hminimal : ¬ (last = 0 ∧ 0 < more.length))
      (hrange : lengthLimit ≤ groupSum (more ++ [last])) :
      ReadsLength c (.error (.unreadable .outOfRange) c')
  | tooLong {first : Bytes} {c' : Cursor} (hspan : c.Spans first c') (hlength : first.length = 5)
      (hgoes : GoesOn first) : ReadsLength c (.error (.unreadable .tooLong) c')
  | truncated {c' : Cursor} (hspan : c.Spans c.rest c') (hlength : c.rest.length < 5)
      (hgoes : GoesOn c.rest) : ReadsLength c (.error (.unreadable (.truncated c'.offset 1)) c')

section Outcomes

variable {c c' : Cursor} {more : Bytes} {last : UInt8} {r : EStateM.Result Failure Cursor Nat}

theorem length_of_endsIn (h : EndsIn 5 c more last c') : Read.length c =
    if last = 0 ∧ 0 < more.length then .error (.unreadable .notMinimal) c'
    else if lengthLimit ≤ groupSum (more ++ [last]) then .error (.unreadable .outOfRange) c'
    else .ok (groupSum (more ++ [last])) c' := by
  have hread := lengthFrom_of_endsIn (i := 0) (v := 0) h
  rwa [Nat.zero_add, Nat.mul_zero, Nat.shiftLeft_zero, Nat.zero_add] at hread

theorem spans_rest (c : Cursor) : c.Spans c.rest ⟨c.offset + c.rest.length, []⟩ :=
  ⟨(List.append_nil _).symm, rfl⟩

theorem ReadsLength.length_eq (h : ReadsLength c r) : Read.length c = r := by
  cases h with
  | value h hminimal hrange =>
    rw [length_of_endsIn h, if_neg hminimal, if_neg (Nat.not_le.2 hrange)]
  | notMinimal h hmore => rw [length_of_endsIn h, if_pos ⟨rfl, hmore⟩]
  | outOfRange h hminimal hrange =>
    rw [length_of_endsIn h, if_neg hminimal, if_pos hrange]
  | tooLong hspan hlength hgoes =>
    have hread := lengthFrom_of_goesOn (i := 0) (v := 0) hspan hgoes
    rwa [hlength] at hread
  | truncated hspan hlength hgoes =>
    have hend := List.append_cancel_left (hspan.1.symm.trans (List.append_nil _).symm)
    exact lengthFrom_of_short hspan hend hgoes hlength

/-- One of the outcomes comes about. -/
theorem readsLength_length (c : Cursor) : ReadsLength c (Read.length c) := by
  rcases groups_cases 5 c with ⟨more, last, c', h⟩ | ⟨first, c', hspan, hlength, hgoes⟩ |
    ⟨hlength, hgoes⟩
  · rw [length_of_endsIn h]
    split
    · rename_i hzero
      obtain ⟨rfl, hmore⟩ := hzero
      exact .notMinimal h hmore
    · rename_i hminimal
      split
      · rename_i hrange
        exact .outOfRange h hminimal hrange
      · rename_i hrange
        exact .value h hminimal (Nat.not_le.1 hrange)
  · have hread := ReadsLength.tooLong hspan hlength hgoes
    rwa [hread.length_eq]
  · have hread := ReadsLength.truncated (spans_rest c) hlength hgoes
    rwa [hread.length_eq]

theorem after_length_of_endsIn (h : EndsIn 5 c more last c') : Read.length.after c = c' := by
  have hread := length_of_endsIn h
  split at hread
  · exact after_of_error hread
  · split at hread
    · exact after_of_error hread
    · exact after_of_ok hread

/-- Five bytes are taken at most. -/
theorem exists_taken (c : Cursor) : ∃ bs, bs.length ≤ 5 ∧ c.Spans bs (Read.length.after c) := by
  rcases groups_cases 5 c with ⟨more, last, c', h⟩ | ⟨first, c', hspan, hlength, hgoes⟩ |
    ⟨hlength, hgoes⟩
  · rw [after_length_of_endsIn h]
    refine ⟨_, ?_, h.spans⟩
    rw [List.length_append]
    exact h.length_lt
  · rw [after_of_error (ReadsLength.tooLong hspan hlength hgoes).length_eq]
    exact ⟨_, Nat.le_of_eq hlength, hspan⟩
  · rw [after_of_error (ReadsLength.truncated (spans_rest c) hlength hgoes).length_eq]
    exact ⟨_, Nat.le_of_lt hlength, spans_rest c⟩

/-- The bytes at a place decide how a length is read: it is read in one of five ways, and each of
them where its bytes stand. Five bytes are taken at most. The bytes that are written for a number
within the range are the only ones that it is read from. -/
theorem length_outcomes (c : Cursor) :
    (∀ r, Read.length c = r ↔ ReadsLength c r) ∧
    (∃ bs, bs.length ≤ 5 ∧ c.Spans bs (Read.length.after c)) ∧
    ∀ n < lengthLimit, ∃ bs, Write.length n = .done bs ∧
      ∀ xs c', c.Spans xs c' → (Read.length c = .ok n c' ↔ xs = bs) := by
  refine ⟨fun r => ⟨?_, ReadsLength.length_eq⟩, exists_taken c, fun n hn => ?_⟩
  · rintro rfl
    exact readsLength_length c
  · have hwritten := length_eq_done_iff.2 ⟨hn, rfl⟩
    refine ⟨_, hwritten, fun xs c' hxs => ⟨fun h => ?_, ?_⟩⟩
    · obtain ⟨m, bs, -, hw, rfl, hspan⟩ := Codec.length.written h
      rw [Cursor.eq_of_spans hxs hspan]
      exact Emission.done_inj (hw.symm.trans hwritten)
    · rintro rfl
      exact Codec.length.reads trivial hwritten hxs

/-- The groups of the largest length. -/
def largestGroups : Bytes := [0xff, 0xff, 0xff, 0xff, 0x0f]

theorem length_outcomes_largestGroups :
    lengthLimit - 1 < lengthLimit ∧ Cursor.Spans ⟨3, largestGroups⟩ largestGroups ⟨8, []⟩ ∧
      Read.length ⟨3, largestGroups⟩ = .ok (lengthLimit - 1) ⟨8, []⟩ ∧
      Write.length (lengthLimit - 1 : Nat) = .done largestGroups ∧
      Read.length ⟨3, [0xff, 0xff, 0xff, 0xff, 0x10, 7]⟩ =
        .error (.unreadable .outOfRange) ⟨8, [7]⟩ := by
  obtain ⟨-, -, hwritten⟩ := length_outcomes ⟨3, largestGroups⟩
  have hrange : lengthLimit - 1 < lengthLimit := by decide
  have hspan : Cursor.Spans ⟨3, largestGroups⟩ largestGroups ⟨8, []⟩ := ⟨rfl, rfl⟩
  obtain ⟨bs, hbs, hread⟩ := hwritten _ hrange
  obtain rfl : bs = largestGroups := Emission.done_inj (hbs.symm.trans rfl)
  have hgoes : GoesOn [0xff, 0xff, 0xff, 0xff] := by
    intro b hb
    obtain rfl : b = 0xff := List.eq_of_mem_replicate (n := 4) hb
    decide
  have hlarge : EndsIn 5 ⟨3, [0xff, 0xff, 0xff, 0xff, 0x10, 7]⟩ [0xff, 0xff, 0xff, 0xff] 0x10
      ⟨8, [7]⟩ := ⟨⟨rfl, rfl⟩, hgoes, by decide, by decide⟩
  exact ⟨hrange, hspan, (hread _ _ hspan).2 rfl, hbs,
    ((length_outcomes _).1 _).2 (.outOfRange hlarge (by decide) (by decide))⟩

end Outcomes

end Signatory.Bcs
