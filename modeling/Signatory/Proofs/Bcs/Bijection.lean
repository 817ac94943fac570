import Signatory.Bcs.Script
import Signatory.Proofs.Bcs.Primitive

/-!
# Fields and bytes correspond one to one

1. `Schema.codec`: the values of every schema are read exactly as they are written. The induction
   is on the schema; sequences come from `Codec.seq_self`.
2. `reads_iff_writes`: fields are read from data by one reader, with nothing left, exactly if one
   writer puts out the data for them. Both sides are about the scripts that run step by step on a
   cursor and on a buffer; between them stands the emission of all fields (`written`).
-/

namespace Signatory.Bcs

namespace Emission

theorem failure_append_iff {a b : Emission} :
    (a ++ b).failure = none ↔ a.failure = none ∧ b.failure = none := by
  obtain ⟨bytes, failure⟩ := a
  cases failure with
  | none => exact ⟨fun h => ⟨rfl, h⟩, And.right⟩
  | some e => exact ⟨fun h => (Option.some_ne_none e h).elim, fun h => h.1⟩

theorem bytes_append {a b : Emission} (h : a.failure = none) :
    (a ++ b).bytes = a.bytes ++ b.bytes := by
  obtain ⟨bytes, failure⟩ := a
  cases h
  rfl

end Emission

/-! ## Schemas -/

/-- A length that is read is what was written. -/
theorem Codec.lengthInt :
    Codec (fun n : Int => n) (fun _ => True) Write.length
      ((fun n : Nat => (n : Int)) <$> Read.length) := by
  have hnat : Codec (fun n : Int => n) (fun n => 0 ≤ n) Write.length
      ((fun n : Nat => (n : Int)) <$> Read.length) := by
    refine (Codec.length.map fun n : Nat => (n : Int)).along (fun n : Nat => (n : Int)) ?_ ?_
      (fun _ _ => rfl) fun _ _ => rfl
    · intro n _
      omega
    · intro n hn
      exact ⟨n.toNat, trivial, Int.toNat_of_nonneg hn⟩
  exact hnat.congr (fun n bs hw => ⟨fun _ => trivial, fun _ => nonneg_of_length_eq_done hw⟩)
    fun _ _ _ _ => rfl

namespace Schema

/-- Fixed bytes have their length. -/
def Fits : (s : Schema) → s.Val → Prop
  | fixed n, bs => (bs.length : Int) = n
  | seq item, vs => ∀ v ∈ vs, item.Fits v
  | length, _ | uint _, _ | boolean, _ | byteVec, _ | string, _ => True

/-- The values of a schema are read exactly as they are written. -/
theorem codec (s : Schema) : Codec (fun v : s.Val => v) s.Fits s.write s.read := by
  induction s with
  | length => exact Codec.lengthInt
  | uint w => exact Codec.int w
  | boolean => exact Codec.boolean
  | fixed n => exact Codec.take n
  | byteVec => exact Codec.byteVec
  | string => exact Codec.string
  | seq item ih => exact ih.seq_self

end Schema

/-! ## Scripts of writes -/

/-- What a field puts out. -/
def Field.written (f : Field) : Emission := f.schema.write f.value

/-- Fixed bytes in the field have their length. -/
def Field.Fits (f : Field) : Prop := f.schema.Fits f.value

/-- What all fields put out, one after the other. -/
def emission (fields : List Field) : Emission := .concat (fields.map Field.written)

/-- The buffer after a script of writes. -/
def bufferAfter (buffer : Bytes) (fields : List Field) : Bytes :=
  (writeScript buffer fields).foldl (fun _ step => step.1) buffer

/-- One writer writes all the fields, and has the data then. -/
def Writes (fields : List Field) (data : Bytes) : Prop :=
  (∀ step ∈ writeScript [] fields, step.2 = none) ∧ bufferAfter [] fields = data

theorem emission_cons (f : Field) (fs : List Field) :
    emission (f :: fs) = f.written ++ emission fs := rfl

theorem writeScript_cons (buffer : Bytes) (f : Field) (fs : List Field) :
    writeScript buffer (f :: fs) =
      (buffer ++ f.written.bytes, f.written.failure) ::
        writeScript (buffer ++ f.written.bytes) fs := rfl

theorem bufferAfter_cons (buffer : Bytes) (f : Field) (fs : List Field) :
    bufferAfter buffer (f :: fs) = bufferAfter (buffer ++ f.written.bytes) fs := rfl

/-- No step fails exactly if the emission has no failure. -/
theorem script_succeeds_iff (fields : List Field) : ∀ buffer : Bytes,
    (∀ step ∈ writeScript buffer fields, step.2 = none) ↔ (emission fields).failure = none := by
  induction fields with
  | nil => exact fun _ => ⟨fun _ => rfl, fun _ => List.forall_mem_nil _⟩
  | cons f fs ih =>
    intro buffer
    rw [writeScript_cons, List.forall_mem_cons, ih, emission_cons, Emission.failure_append_iff]

/-- Without a failure the buffer grows by the bytes of the emission. -/
theorem bufferAfter_eq (fields : List Field) : ∀ {buffer : Bytes},
    (emission fields).failure = none →
      bufferAfter buffer fields = buffer ++ (emission fields).bytes := by
  induction fields with
  | nil => exact fun _ => (List.append_nil _).symm
  | cons f fs ih =>
    intro buffer h
    rw [emission_cons, Emission.failure_append_iff] at h
    rw [bufferAfter_cons, ih h.2, emission_cons, Emission.bytes_append h.1, List.append_assoc]

/-- A script writes what the emission of its fields puts out. -/
theorem writes_iff {fields : List Field} {data : Bytes} :
    Writes fields data ↔ emission fields = .done data := by
  unfold Writes
  rw [script_succeeds_iff]
  constructor
  · rintro ⟨hnone, hdata⟩
    rw [bufferAfter_eq fields hnone, List.nil_append] at hdata
    rw [← hdata, ← Emission.result_eq_ok_iff, Emission.result, hnone]
  · intro h
    have hnone : (emission fields).failure = none := by rw [h]; rfl
    refine ⟨hnone, ?_⟩
    rw [bufferAfter_eq fields hnone, h]
    rfl

/-! ## Scripts of reads -/

/-- The answers of one reader that takes a value of each schema and must be at the end then. -/
def answers (c : Cursor) (schemas : List Schema) : List (Except Failure ReadAnswer) :=
  (readScript c (schemas.map .read ++ [.finish])).map Prod.fst

/-- The answers of a reader that finds the fields and the end. -/
def found (fields : List Field) : List (Except Failure ReadAnswer) :=
  fields.map (fun f => .ok (.value f)) ++ [.ok .finished]

/-- One reader reads the fields from the data, with nothing left. -/
def Reads (schemas : List Schema) (data : Bytes) (fields : List Field) : Prop :=
  answers ⟨0, data⟩ schemas = found fields

section Steps

variable {c c' : Cursor} {s : Schema} {schemas : List Schema} {fields : List Field}

theorem answers_of_ok {v : s.Val} (h : s.read c = .ok v c') :
    answers c (s :: schemas) = .ok (.value ⟨s, v⟩) :: answers c' schemas := by
  have hstep : (ReadStep.read s).reader c = .ok (.value ⟨s, v⟩) c' := by
    unfold ReadStep.reader
    rw [map_eq_bind]
    exact bind_eq_ok_iff.2 ⟨v, c', h, rfl⟩
  unfold answers
  rw [List.map_cons, List.cons_append, readScript, hstep]
  rfl

theorem answers_of_error {e : Failure} (h : s.read c = .error e c') :
    answers c (s :: schemas) = .error e :: answers c' schemas := by
  have hstep : (ReadStep.read s).reader c = .error e c' := by
    show EStateM.map (fun v => ReadAnswer.value ⟨s, v⟩) s.read c = _
    unfold EStateM.map
    rw [h]
  unfold answers
  rw [List.map_cons, List.cons_append, readScript, hstep]
  rfl

/-- Without further schemas the reader only looks for the end. -/
theorem answers_nil (c : Cursor) :
    answers c [] = [.ok .finished] ∧ c.rest = [] ∨
      ∃ e, answers c [] = [.error e] ∧ c.rest ≠ [] := by
  have hreader : ReadStep.finish.reader c =
      EStateM.map (fun _ => ReadAnswer.finished) Read.finish c := rfl
  unfold EStateM.map Read.finish at hreader
  unfold answers
  rw [List.map_nil, List.nil_append, readScript, hreader]
  by_cases h : c.rest.isEmpty = true
  · rw [if_pos h]
    exact .inl ⟨rfl, List.isEmpty_iff.1 h⟩
  · rw [if_neg h]
    exact .inr ⟨_, rfl, fun hnil => h (List.isEmpty_iff.2 hnil)⟩

end Steps

/-- A reader finds what the emission of the fields puts out, wherever it starts. -/
theorem answers_eq_found_iff (schemas : List Schema) : ∀ {c : Cursor} {fields : List Field},
    answers c schemas = found fields ↔
      fields.map Field.schema = schemas ∧ (∀ f ∈ fields, f.Fits) ∧
        emission fields = .done c.rest := by
  induction schemas with
  | nil =>
    intro c fields
    cases fields with
    | nil =>
      rcases answers_nil c with ⟨h, hrest⟩ | ⟨e, h, hrest⟩
      · rw [h, hrest]
        exact ⟨fun _ => ⟨rfl, List.forall_mem_nil _, rfl⟩, fun _ => rfl⟩
      · constructor
        · intro hfound
          rw [h] at hfound
          cases hfound
        · rintro ⟨-, -, hdone⟩
          exact absurd (Emission.done_inj hdone).symm hrest
    | cons f fs =>
      constructor
      · intro hfound
        rcases answers_nil c with ⟨h, -⟩ | ⟨e, h, -⟩
        · rw [h] at hfound
          cases hfound
        · rw [h] at hfound
          cases hfound
      · rintro ⟨hschemas, -⟩
        cases hschemas
  | cons s schemas ih =>
    intro c fields
    cases fields with
    | nil =>
      constructor
      · intro h
        cases hr : s.read c with
        | ok v c' =>
          rw [answers_of_ok hr] at h
          cases h
        | error e c' =>
          rw [answers_of_error hr] at h
          cases h
      · intro h
        cases h.1
    | cons f fs =>
      rw [List.map_cons, List.cons_eq_cons, List.forall_mem_cons, emission_cons,
        Emission.append_eq_done_iff]
      constructor
      · intro h
        cases hr : s.read c with
        | error e c' =>
          rw [answers_of_error hr] at h
          cases h
        | ok v c' =>
          rw [answers_of_ok hr] at h
          obtain ⟨hf, hfs⟩ := List.cons_eq_cons.1 h
          obtain rfl : (⟨s, v⟩ : Field) = f := ReadAnswer.value.inj (Except.ok.inj hf)
          obtain ⟨v', bs, hfits, hw, rfl, hspan⟩ := s.codec.written hr
          obtain ⟨hschemas, hall, hemission⟩ := ih.1 hfs
          exact ⟨⟨rfl, hschemas⟩, ⟨hfits, hall⟩, bs, c'.rest, hw, hemission, hspan.1⟩
      · rintro ⟨⟨rfl, hschemas⟩, ⟨hfits, hall⟩, xs, ys, hx, hy, hrest⟩
        have hread : f.schema.read c = .ok f.value ⟨c.offset + xs.length, ys⟩ :=
          f.schema.codec.reads hfits hx ⟨hrest, rfl⟩
        rw [answers_of_ok hread, ih.2 ⟨hschemas, hall, hy⟩]
        rfl

/-- Fields are read from data, with nothing left, exactly if they have the schemas, fixed bytes
have their length and writing the fields gives the data. -/
theorem reads_iff_writes (schemas : List Schema) (data : Bytes) (fields : List Field) :
    Reads schemas data fields ↔
      fields.map Field.schema = schemas ∧ (∀ f ∈ fields, f.Fits) ∧ Writes fields data := by
  unfold Reads
  rw [answers_eq_found_iff, writes_iff]

end Signatory.Bcs
