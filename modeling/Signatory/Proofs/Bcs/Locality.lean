import Signatory.Bcs.Script
import Signatory.Proofs.Bcs.Primitive

/-!
# Readers stay within their input

A reader takes bytes from the front of what remains, and keeps the place it has reached if it fails.

1. `IsLocal`: a reader takes bytes from the front and nothing else, and a value that it gives
   depends on these bytes alone. Local readers make local readers (`IsLocal.bind`, `IsLocal.seq`),
   so every reader that is put together from reads is local (`IsComposed.isLocal`).
2. `placeAfter_isIn`: through calls of which some fail, the place moves forward within the data.
3. `reads_stay_local` joins the two for the place after any calls.
-/

namespace Signatory.Bcs

/-! ## Local readers -/

/-- How a reader ends that starts at a place: its answer, and the place that it leaves. -/
def Reader.ends {α : Type} (r : Reader α) (c : Cursor) : Except Failure α × Cursor :=
  match r c with
  | .ok a c' => (.ok a, c')
  | .error e c' => (.error e, c')

/-- The place that a reader leaves, whether it gives a value or fails. -/
def Reader.after {α : Type} (r : Reader α) (c : Cursor) : Cursor :=
  (r.ends c).2

/-- A reader takes bytes from the front, and a value that it gives depends on these bytes alone. -/
structure IsLocal {α : Type} (r : Reader α) : Prop where
  takes : ∀ c : Cursor, ∃ bs, c.Spans bs (r.after c)
  gives : ∀ {c d c' d' : Cursor} {a : α} {bs : Bytes}, r c = .ok a c' → c.Spans bs c' →
    d.Spans bs d' → r d = .ok a d'

section Local

variable {α β : Type} {r : Reader α} {k : α → Reader β} {c c' : Cursor} {a : α} {e : Failure}

theorem bind_of_ok (h : r c = .ok a c') : (r >>= k) c = k a c' := by
  show EStateM.bind r k c = _
  unfold EStateM.bind
  rw [h]

theorem bind_of_error (h : r c = .error e c') : (r >>= k) c = .error e c' := by
  show EStateM.bind r k c = _
  unfold EStateM.bind
  rw [h]

theorem after_of_ok (h : r c = .ok a c') : r.after c = c' := by
  unfold Reader.after Reader.ends
  rw [h]

theorem after_of_error (h : r c = .error e c') : r.after c = c' := by
  unfold Reader.after Reader.ends
  rw [h]

theorem after_bind_of_ok (h : r c = .ok a c') : (r >>= k).after c = (k a).after c' := by
  unfold Reader.after Reader.ends
  rw [bind_of_ok h]

theorem after_bind_of_error (h : r c = .error e c') : (r >>= k).after c = c' :=
  after_of_error (bind_of_error h)

theorem after_map (g : α → β) (r : Reader α) (c : Cursor) : (g <$> r).after c = r.after c := by
  rw [map_eq_bind]
  cases h : r c with
  | error e c₁ => rw [after_bind_of_error h, after_of_error h]
  | ok a c₁ =>
    rw [after_bind_of_ok h, after_of_ok h]
    exact after_of_ok (a := g a) rfl

theorem IsLocal.pure (a : α) : IsLocal (Pure.pure a : Reader α) where
  takes _ := ⟨[], Cursor.spans_nil_iff.2 rfl⟩
  gives {c d c' d' b bs} h hc hd := by
    cases h
    obtain rfl : bs = [] := Cursor.eq_of_spans hc (Cursor.spans_nil_iff.2 rfl)
    rw [Cursor.spans_nil_iff.1 hd]
    rfl

theorem IsLocal.throw (e : Failure) : IsLocal (throw e : Reader α) where
  takes _ := ⟨[], Cursor.spans_nil_iff.2 rfl⟩
  gives h := by cases h

/-- A local reader and then another one, which may depend on the value of the first. -/
theorem IsLocal.bind (hr : IsLocal r) (hk : ∀ a, IsLocal (k a)) : IsLocal (r >>= k) where
  takes c := by
    obtain ⟨xs, hxs⟩ := hr.takes c
    cases h : r c with
    | error e c₁ =>
      rw [after_of_error h] at hxs
      rw [after_bind_of_error h]
      exact ⟨xs, hxs⟩
    | ok a c₁ =>
      rw [after_of_ok h] at hxs
      rw [after_bind_of_ok h]
      obtain ⟨ys, hys⟩ := (hk a).takes c₁
      exact ⟨xs ++ ys, Cursor.spans_append_iff.2 ⟨c₁, hxs, hys⟩⟩
  gives {c d c' d' b bs} h hc hd := by
    obtain ⟨a, c₁, ha, hb⟩ := bind_eq_ok_iff.1 h
    obtain ⟨xs, hxs⟩ := hr.takes c
    obtain ⟨ys, hys⟩ := (hk a).takes c₁
    rw [after_of_ok ha] at hxs
    rw [after_of_ok hb] at hys
    obtain rfl : bs = xs ++ ys :=
      Cursor.eq_of_spans hc (Cursor.spans_append_iff.2 ⟨c₁, hxs, hys⟩)
    obtain ⟨d₁, hd₁, hd₂⟩ := Cursor.spans_append_iff.1 hd
    exact bind_eq_ok_iff.2 ⟨a, d₁, hr.gives ha hxs hd₁, (hk a).gives hb hys hd₂⟩

theorem IsLocal.items (hr : IsLocal r) (n : Nat) : IsLocal (Read.items r n) := by
  induction n with
  | zero => exact IsLocal.pure []
  | succ n ih => exact hr.bind fun a => ih.bind fun as => IsLocal.pure (a :: as)

end Local

/-! ## Reads -/

namespace Read

variable {c c' : Cursor} {e : Failure}

/-- Fixed bytes that cannot be read leave the place as it is. -/
theorem eq_of_take_eq_error {n : Int} (h : take n c = .error e c') : c' = c := by
  unfold take at h
  dsimp only at h
  split at h
  · cases h
    rfl
  · cases h

/-- So does an integer that cannot be read. -/
theorem eq_of_uint_eq_error {w : Width} (h : uint w c = .error e c') : c' = c := by
  rcases bind_eq_error h with h | ⟨_, _, -, h⟩
  · exact eq_of_take_eq_error h
  · cases h

theorem isLocal_take (n : Int) : IsLocal (take n) where
  takes c := by
    cases h : take n c with
    | error e c' =>
      rw [after_of_error h, eq_of_take_eq_error h]
      exact ⟨[], Cursor.spans_nil_iff.2 rfl⟩
    | ok xs c' =>
      obtain ⟨_, bs, -, -, -, hc⟩ := (Codec.take n).written h
      rw [after_of_ok h]
      exact ⟨bs, hc⟩
  gives {c d c' d' xs bs} h hc hd := by
    obtain ⟨xs, bs', hxs, hw, rfl, hc'⟩ := (Codec.take n).written h
    obtain rfl := Cursor.eq_of_spans hc hc'
    exact (Codec.take n).reads hxs hw hd

theorem isLocal_byte : IsLocal byte where
  takes c := by
    cases h : byte c with
    | error e c' =>
      obtain ⟨offset, rest⟩ := c
      cases rest with
      | nil =>
        cases h
        exact ⟨[], Cursor.spans_nil_iff.2 rfl⟩
      | cons b rest => cases h
    | ok b c' =>
      rw [after_of_ok h]
      exact ⟨[b], byte_eq_ok_iff.1 h⟩
  gives h hc hd := by
    obtain rfl := Cursor.eq_of_spans hc (byte_eq_ok_iff.1 h)
    exact byte_eq_ok_iff.2 hd

theorem isLocal_lengthFrom (g : Nat) : ∀ index value, IsLocal (lengthFrom g index value) := by
  induction g with
  | zero => exact fun _ _ => IsLocal.throw _
  | succ g ih =>
    intro index value
    refine isLocal_byte.bind fun b => ?_
    dsimp only
    split
    · split
      · exact IsLocal.throw _
      · split
        · exact IsLocal.throw _
        · exact IsLocal.pure _
    · exact ih _ _

theorem isLocal_length : IsLocal length := isLocal_lengthFrom 5 0 0

theorem isLocal_uint (w : Width) : IsLocal (uint w) :=
  (isLocal_take w.bytes).bind fun _ => IsLocal.pure _

theorem isLocal_boolean : IsLocal boolean := by
  refine isLocal_byte.bind fun b => ?_
  split
  · exact IsLocal.throw _
  · exact IsLocal.pure _

theorem isLocal_byteVec : IsLocal byteVec :=
  isLocal_length.bind fun n => isLocal_take n

theorem isLocal_string : IsLocal string := by
  refine isLocal_byteVec.bind fun bs => ?_
  split
  · exact IsLocal.pure _
  · exact IsLocal.throw _

end Read

theorem IsLocal.seq {α : Type} {item : Reader α} (h : IsLocal item) : IsLocal (Read.seq item) :=
  Read.isLocal_length.bind fun n => h.items n

/-- A reader that is put together from reads. What it reads next may depend on what it has read,
and it may refuse what it has read. The items of a sequence may be read by any such reader. -/
inductive IsComposed : {α : Type} → Reader α → Prop
  | length : IsComposed Read.length
  | uint (w : Width) : IsComposed (Read.uint w)
  | boolean : IsComposed Read.boolean
  | take (n : Int) : IsComposed (Read.take n)
  | byteVec : IsComposed Read.byteVec
  | string : IsComposed Read.string
  | seq {α : Type} {item : Reader α} (h : IsComposed item) : IsComposed (Read.seq item)
  | pure {α : Type} (a : α) : IsComposed (Pure.pure a : Reader α)
  | refuse {α : Type} (e : Failure) : IsComposed (throw e : Reader α)
  | bind {α β : Type} {r : Reader α} {k : α → Reader β} (hr : IsComposed r)
      (hk : ∀ a, IsComposed (k a)) : IsComposed (r >>= k)

theorem IsComposed.isLocal {α : Type} {r : Reader α} (h : IsComposed r) : IsLocal r := by
  induction h with
  | length => exact Read.isLocal_length
  | uint w => exact Read.isLocal_uint w
  | boolean => exact Read.isLocal_boolean
  | take n => exact Read.isLocal_take n
  | byteVec => exact Read.isLocal_byteVec
  | string => exact Read.isLocal_string
  | seq _ ih => exact ih.seq
  | pure a => exact IsLocal.pure a
  | refuse e => exact IsLocal.throw e
  | bind _ _ ihr ihk => exact ihr.bind ihk

theorem IsComposed.map {α β : Type} {r : Reader α} (h : IsComposed r) (g : α → β) :
    IsComposed (g <$> r) := by
  rw [map_eq_bind]
  exact h.bind fun a => .pure (g a)

/-- The read of a schema is one; the induction is on the schema. -/
theorem Schema.isComposed_read (s : Schema) : IsComposed s.read := by
  induction s with
  | length => exact IsComposed.length.map _
  | uint w => exact (IsComposed.uint w).map _
  | boolean => exact .boolean
  | fixed n => exact .take n
  | byteVec => exact .byteVec
  | string => exact .string
  | seq item ih => exact ih.seq

/-! ## Scripts -/

/-- A call on a cursor: a read of any kind, or the look for the end. -/
inductive Call : Type 1
  | read {α : Type} (r : Reader α) (h : IsComposed r)
  | finish

/-- The place after a call. -/
def Call.after : Call → Cursor → Cursor
  | read r _, c => r.after c
  | finish, c => Read.finish.after c

/-- The place after calls. One that fails does not end them. -/
def placeAfter (c : Cursor) (calls : List Call) : Cursor :=
  calls.foldl (fun c call => call.after c) c

/-- A step of a reading script as a call. -/
def ReadStep.call : ReadStep → Call
  | read schema => .read schema.read schema.isComposed_read
  | finish => .finish

/-- The place is one in the data: as much as the offset says is taken, and the rest remains. -/
def Cursor.IsIn (data : Bytes) (c : Cursor) : Prop :=
  c.offset ≤ data.length ∧ c.rest = data.drop c.offset

section Places

variable {data bs : Bytes} {c c' : Cursor}

theorem Cursor.IsIn.of_spans (hc : c.IsIn data) (h : c.Spans bs c') :
    c'.IsIn data ∧ c.offset ≤ c'.offset := by
  obtain ⟨hle, hrest⟩ := hc
  obtain ⟨htaken, hoffset⟩ := h
  have hlength := congrArg List.length (hrest.symm.trans htaken)
  rw [List.length_drop, List.length_append] at hlength
  refine ⟨⟨by omega, ?_⟩, by omega⟩
  rw [hoffset, ← List.drop_drop, ← hrest, htaken, List.drop_left]

theorem after_finish (c : Cursor) : Read.finish.after c = c := by
  unfold Reader.after Reader.ends Read.finish
  by_cases h : c.rest.isEmpty = true
  · rw [if_pos h]
  · rw [if_neg h]
    rfl

/-- Every call takes bytes from the front, if any. -/
theorem Call.takes (call : Call) (c : Cursor) : ∃ bs, c.Spans bs (call.after c) := by
  cases call with
  | read r h => exact h.isLocal.takes c
  | finish => exact ⟨[], Cursor.spans_nil_iff.2 (after_finish c)⟩

theorem ReadStep.after_call (s : ReadStep) (c : Cursor) : s.call.after c = s.reader.after c := by
  cases s with
  | read schema => exact (after_map _ _ c).symm
  | finish => exact (after_map _ _ c).symm

theorem placeAfter_append (c : Cursor) (before later : List Call) :
    placeAfter c (before ++ later) = placeAfter (placeAfter c before) later :=
  List.foldl_append

/-- Calls leave a place in the data, not before the one that they start at; by induction on the
calls. -/
theorem placeAfter_isIn (hc : c.IsIn data) (calls : List Call) :
    (placeAfter c calls).IsIn data ∧ c.offset ≤ (placeAfter c calls).offset := by
  induction calls generalizing c with
  | nil => exact ⟨hc, Nat.le_refl _⟩
  | cons call calls ih =>
    obtain ⟨bs, hbs⟩ := call.takes c
    obtain ⟨hin, hle⟩ := hc.of_spans hbs
    obtain ⟨hplace, hle'⟩ := ih hin
    exact ⟨hplace, Nat.le_trans hle hle'⟩

theorem isIn_start (data : Bytes) : Cursor.IsIn data ⟨0, data⟩ :=
  ⟨Nat.zero_le _, rfl⟩

theorem readScript_cons (c : Cursor) (s : ReadStep) (steps : List ReadStep) :
    readScript c (s :: steps) = s.reader.ends c :: readScript (s.reader.after c) steps := by
  rw [readScript]
  unfold Reader.after Reader.ends
  cases s.reader c <;> rfl

/-- Each step of a script starts where the calls before it end. -/
theorem getElem?_readScript (before : List ReadStep) (s : ReadStep) (later : List ReadStep) :
    ∀ c, (readScript c (before ++ s :: later))[before.length]? =
      some (s.reader.ends (placeAfter c (before.map ReadStep.call))) := by
  induction before with
  | nil =>
    intro c
    rw [List.nil_append, readScript_cons]
    rfl
  | cons b before ih =>
    intro c
    rw [List.cons_append, readScript_cons, List.length_cons, List.getElem?_cons_succ, ih,
      ← b.after_call]
    rfl

end Places

/-- Through calls of which any may fail, the place moves forward and stays within the data. Fixed
bytes and integers that cannot be read leave it as it is. A read that succeeds gives the same value
wherever the bytes that it takes stand, and takes the same ones there. The steps of a script are
such calls. -/
theorem reads_stay_local (data : Bytes) (calls : List Call) :
    let c := placeAfter ⟨0, data⟩ calls
    c.IsIn data ∧
    (∀ before later, calls = before ++ later →
      (placeAfter ⟨0, data⟩ before).offset ≤ c.offset) ∧
    (∀ n e c', Read.take n c = .error e c' → c' = c) ∧
    (∀ w e c', Read.uint w c = .error e c' → c' = c) ∧
    (∀ (α : Type) (r : Reader α), IsComposed r → ∀ a c', r c = .ok a c' →
      ∃ bs, c.Spans bs c' ∧ ∀ d d', d.Spans bs d' → r d = .ok a d') ∧
    ∀ before s later, calls = before.map ReadStep.call →
      (readScript ⟨0, data⟩ (before ++ s :: later))[before.length]? = some (s.reader.ends c) := by
  intro c
  refine ⟨(placeAfter_isIn (isIn_start data) calls).1, ?_, fun _ _ _ => Read.eq_of_take_eq_error,
    fun _ _ _ => Read.eq_of_uint_eq_error, ?_, ?_⟩
  · rintro before later rfl
    have hbefore := (placeAfter_isIn (isIn_start data) before).1
    have hle := (placeAfter_isIn hbefore later).2
    rwa [← placeAfter_append] at hle
  · intro α r hr a c' h
    obtain ⟨bs, hbs⟩ := hr.isLocal.takes c
    rw [after_of_ok h] at hbs
    exact ⟨bs, hbs, fun d d' hd => hr.isLocal.gives h hbs hd⟩
  · rintro before s later rfl
    exact getElem?_readScript before s later _

/-- A count of two, a number and a flag each, and one byte more. -/
def flaggedData : Bytes := [2, 7, 1, 8, 0, 9]

/-- A number and a flag. -/
def flagged : Reader (Nat × Bool) := do
  let n ← Read.uint .u8
  let b ← Read.boolean
  pure (n, b)

theorem isComposed_flagged : IsComposed flagged :=
  .bind (.uint .u8) fun _ => .bind .boolean fun _ => .pure _

/-- A script that asks for fewer bytes than none, and then for more than there are. -/
def greedySteps : List ReadStep := [.read (.fixed (-1)), .read (.uint .u128)]

theorem reads_stay_local_flaggedData :
    let c := placeAfter ⟨0, flaggedData⟩ (greedySteps.map ReadStep.call)
    (placeAfter ⟨0, flaggedData⟩ [.finish]).offset ≤
      (placeAfter ⟨0, flaggedData⟩ [.finish, .read _ isComposed_flagged]).offset ∧
    (Read.take (-1) c = .error (.unreadable (.truncated 0 (-1))) c ∧ c = ⟨0, flaggedData⟩) ∧
    (Read.uint .u128 c = .error (.unreadable (.truncated 0 16)) c ∧ c = ⟨0, flaggedData⟩) ∧
    (readScript ⟨0, flaggedData⟩ (greedySteps ++ [.read .boolean]))[2]? =
      some (.error (.unreadable (.badFlag 2)), ⟨1, [7, 1, 8, 0, 9]⟩) ∧
    (Read.seq flagged).after c = ⟨5, [9]⟩ ∧
    Read.seq flagged ⟨3, [2, 7, 1, 8, 0]⟩ = .ok [(7, true), (8, false)] ⟨8, []⟩ := by
  intro c
  obtain ⟨-, -, htake, huint, hlocal, hsteps⟩ :=
    reads_stay_local flaggedData (greedySteps.map ReadStep.call)
  obtain ⟨-, hforward, -⟩ :=
    reads_stay_local flaggedData [.finish, .read _ isComposed_flagged]
  have hread : Read.seq flagged c = .ok [(7, true), (8, false)] ⟨5, [9]⟩ := rfl
  obtain ⟨bs, hbs, hgives⟩ := hlocal _ _ isComposed_flagged.seq _ _ hread
  obtain rfl : bs = [2, 7, 1, 8, 0] := Cursor.eq_of_spans hbs ⟨rfl, rfl⟩
  exact ⟨hforward [.finish] [.read _ isComposed_flagged] rfl,
    ⟨rfl, (htake (-1) (.unreadable (.truncated 0 (-1))) ⟨0, flaggedData⟩ rfl).symm⟩,
    ⟨rfl, (huint .u128 (.unreadable (.truncated 0 16)) ⟨0, flaggedData⟩ rfl).symm⟩,
    hsteps greedySteps (.read .boolean) [] rfl, after_of_ok hread,
    hgives ⟨3, [2, 7, 1, 8, 0]⟩ ⟨8, []⟩ ⟨rfl, rfl⟩⟩

end Signatory.Bcs
