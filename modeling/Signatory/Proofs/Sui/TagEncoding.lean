import Mathlib.Data.String.Basic
import Signatory.Proofs.Bcs.Failing
import Signatory.Proofs.Sui.Canonical

/-!
# Serialized type tags

1. `encoding`: the serialized form of a tree, byte by byte. The tree of a text shorter than the
   limit of lengths is written as that (`Denotes.write_eq_encoding`).
2. `writeText_iff_denotes`: a text is written exactly if it is in the grammar and there is room
   for its tree, as the serialized form of the tree, and what is written is read back as the plain
   spelling of the tree if there is room for that too.
3. `writeText_vectors`: however much room there is, texts of vectors in vectors need more.
-/

namespace Signatory.Sui.TypeTag

open Bcs Text

/-! ## Serialized form -/

/-- A byte string behind its length. -/
def counted (bs : Bytes) : Bytes :=
  Write.septets 5 bs.length ++ bs

mutual

/-- The serialized form of a tree, byte by byte. -/
def encoding : TypeTag → Bytes
  | primitive p => [UInt8.ofNat p.variant]
  | vector t => 6 :: encoding t
  | struct address module name parameters =>
    7 :: (address ++ (counted (Bytes.ofText module) ++ (counted (Bytes.ofText name) ++
      (Write.septets 5 parameters.length ++ encodings parameters))))

def encodings : List TypeTag → Bytes
  | [] => []
  | t :: ts => encoding t ++ encodings ts

end

theorem writes_eq_encodings {ts : List TypeTag} (h : ∀ t ∈ ts, t.write = .done t.encoding) :
    writes ts = .done (encodings ts) := by
  induction ts with
  | nil => rfl
  | cons t ts ih =>
    obtain ⟨ht, hts⟩ := List.forall_mem_cons.1 h
    rw [writes, ht, ih hts, encodings]
    rfl

theorem length_eq_septets {n : Nat} (hn : n < lengthLimit) :
    Write.length n = .done (Write.septets 5 n) :=
  length_eq_done_iff.2 ⟨hn, rfl⟩

theorem string_eq_counted {s : String} (hs : s.utf8ByteSize < lengthLimit) :
    Write.string s = .done (counted (Bytes.ofText s)) := by
  have hlength : (Bytes.ofText s).length = s.utf8ByteSize := rfl
  unfold Write.string Write.byteVec
  rw [length_eq_septets (by omega)]
  rfl

/-- A list of texts is no longer than it has bytes, if none of them is empty. -/
theorem length_le_commas {pieces : List (List Char)} (h : ∀ p ∈ pieces, p ≠ []) :
    pieces.length ≤ String.utf8Len (commas pieces) := by
  have hpos : ∀ p ∈ pieces, 0 < String.utf8Len p := fun p hp =>
    Nat.pos_of_ne_zero fun h0 => h p hp (String.utf8Len_eq_zero.1 h0)
  clear h
  induction pieces with
  | nil => exact Nat.le_refl 0
  | cons p pieces ih =>
    obtain ⟨hp, hpieces⟩ := List.forall_mem_cons.1 hpos
    by_cases hne : pieces = []
    · rw [hne, commas, List.intercalate_singleton]
      exact hp
    · have := ih hpieces
      rw [commas_cons hne, String.utf8Len_append, String.utf8Len_cons, List.length_cons]
      omega

theorem ParameterList.length_le {cs : List Char} {pieces : List (List Char)}
    (h : ParameterList cs pieces) (hpieces : ∀ p ∈ pieces, p ≠ []) :
    pieces.length ≤ String.utf8Len cs := by
  cases h with
  | absent => exact Nat.zero_le _
  | empty => exact Nat.zero_le _
  | around =>
    have hinfix : commas pieces <:+: '<' :: (commas pieces ++ ['>']) := ⟨['<'], ['>'], rfl⟩
    exact Nat.le_trans (length_le_commas hpieces) (String.utf8Len_le_of_infix hinfix)

/-- The tree of a text is written as its serialized form. No part of the tree is larger than the
text. -/
theorem Denotes.write_eq_encoding {cs : List Char} {t : TypeTag} (h : Denotes cs t)
    (hcs : String.utf8Len cs < lengthLimit) : t.write = .done t.encoding := by
  induction h with
  | @primitive cs p => cases p <;> rfl
  | @vector cs inner t h _ ih =>
    have htrim := String.utf8Len_le_of_infix (isInfix_trim isBlank cs)
    have hinner := String.utf8Len_le_of_infix (List.infix_append "vector<".toList inner ['>'])
    have htag : Write.length 6 = .done [6] := rfl
    rw [List.append_assoc, ← h] at hinner
    rw [write, ih (by omega), htag, encoding]
    rfl
  | @struct cs digits module name tail parts h hhead _ htail hparts ih =>
    have htrim := String.utf8Len_le_of_infix (isInfix_trim isBlank cs)
    rw [h, headChars] at htrim
    simp only [String.utf8Len_append, String.utf8Len_cons] at htrim
    have hcount := htail.length_le (List.forall_mem_map.2 fun p hp => (hparts p hp).ne_nil)
    rw [List.length_map] at hcount
    have hps : writes (parts.map (·.2)) = .done (encodings (parts.map (·.2))) := by
      refine writes_eq_encodings (List.forall_mem_map.2 fun p hp => ih p hp ?_)
      have := String.utf8Len_le_of_infix (htail.isInfix p.1 (List.mem_map_of_mem hp))
      omega
    have htag : Write.length 7 = .done [7] := rfl
    have haddress (a : Bytes) : Write.fixed a = .done a := rfl
    have hmodule : (String.ofList module).utf8ByteSize < lengthLimit := by
      rw [String.utf8ByteSize_ofList]
      omega
    have hname : (String.ofList name).utf8ByteSize < lengthLimit := by
      rw [String.utf8ByteSize_ofList]
      omega
    rw [write, htag, haddress, string_eq_counted hmodule, string_eq_counted hname,
      length_eq_septets (by rw [List.length_map]; omega), hps, encoding]
    simp only [Emission.append_assoc]
    rfl

/-! ## Texts -/

section Texts

variable {n : Nesting}

theorem writeText_of_denotes {b : Budget} {s : String} {t : TypeTag}
    (hs : s.utf8ByteSize < lengthLimit) (ht : Denotes s.toList t) (hroom : t.FitsIn b) :
    (writeText b s).result = .ok t.encoding ∧ (writeText b t.text).result = .ok t.encoding := by
  have hw : t.write = .done t.encoding := ht.write_eq_encoding (by rwa [String.utf8Len_toList])
  constructor
  · rw [Emission.result_eq_ok_iff, writeText_of_parse (parse_eq_ok_iff.2 ⟨ht, hroom⟩), hw]
  · rw [Emission.result_eq_ok_iff, writeText_text ht.isPlain hroom, hw]

/-- A text without a tree is refused for what it is, unless it is long enough to be given up. -/
theorem writeText_of_not_denotes {b : Budget} {s : String} (hnone : ∀ t, ¬ Denotes s.toList t) :
    ∃ f, (writeText b s).result = .error f ∧
      (IsTagFault f ∨ f = .nestedTooDeep ∧ b.levels ≤ s.length) := by
  cases hparse : parse b s with
  | ok t => exact absurd (parse_eq_ok_iff.1 hparse).1 (hnone t)
  | error f =>
    refine ⟨f, ?_, failsIn_parse s f hparse⟩
    unfold writeText
    rw [hparse]
    rfl

/-- A serialized tree at the front of some bytes is read as far as there is room, and nothing
behind it is touched. -/
theorem readText_encoding {b : Budget} {t : TypeTag} (ht : t.IsSized)
    (hw : t.write = .done t.encoding) (rest : Bytes) :
    (t.FitsIn b → readText b ⟨0, t.encoding ++ rest⟩ =
      .ok t.text ⟨t.encoding.length, rest⟩) ∧
    (¬ t.FitsIn b → ∃ c, readText b ⟨0, t.encoding ++ rest⟩ = .error .nestedTooDeep c) := by
  have hspan : Cursor.Spans ⟨0, t.encoding ++ rest⟩ t.encoding ⟨t.encoding.length, rest⟩ :=
    ⟨rfl, (Nat.zero_add _).symm⟩
  refine ⟨fun hroom => (codec_text b).reads ⟨ht, hroom⟩ hw hspan, fun hdeep => ?_⟩
  obtain ⟨b', hle, hroom⟩ := exists_budget b [t]
  refine (isBounded_readText hle).gives_up (codec_text b) (codec_text b')
    ⟨ht, List.forall_mem_singleton.1 hroom⟩ hw hspan fun u hu hwu => hdeep ?_
  rw [write_injective ht hu.1 hw hwu]
  exact hu.2

/-- A text shorter than the limit of lengths is written exactly if it stands for a tree that there
is room for. Then the bytes are the serialized form of the tree, and the plain spelling of the tree
is written as the same bytes. If there is room for reading them too, they give this spelling at the
front of any bytes. A tree without room is given up, in either direction. A text that stands for no
tree is refused for what it is, or it is long enough to be given up. -/
theorem writeText_iff_denotes {s : String} (hs : s.utf8ByteSize < lengthLimit) :
    ((∃ bs, (writeText n.writing s).result = .ok bs) ↔
      ∃ t, Denotes s.toList t ∧ t.FitsIn n.writing) ∧
    (∀ t, Denotes s.toList t →
      (t.FitsIn n.writing → (writeText n.writing s).result = .ok t.encoding ∧
        Spells t.text.toList t ∧ (writeText n.writing t.text).result = .ok t.encoding) ∧
      (t.FitsIn n.reading → ∀ rest, readText n.reading ⟨0, t.encoding ++ rest⟩ =
        .ok t.text ⟨t.encoding.length, rest⟩) ∧
      (¬ t.FitsIn n.writing → (writeText n.writing s).result = .error .nestedTooDeep) ∧
      (¬ t.FitsIn n.reading → ∀ rest, ∃ c, readText n.reading ⟨0, t.encoding ++ rest⟩ =
        .error .nestedTooDeep c)) ∧
    ((∀ t, ¬ Denotes s.toList t) → ∃ f, (writeText n.writing s).result = .error f ∧
      (IsTagFault f ∨ f = .nestedTooDeep ∧ n.writing.levels ≤ s.length)) := by
  refine ⟨⟨?_, ?_⟩, fun t ht => ?_, writeText_of_not_denotes⟩
  · rintro ⟨bs, h⟩
    obtain ⟨t, ht⟩ := exists_parse_of_writeText (Emission.result_eq_ok_iff.1 h)
    exact ⟨t, parse_eq_ok_iff.1 ht⟩
  · rintro ⟨t, ht, hroom⟩
    exact ⟨t.encoding, (writeText_of_denotes hs ht hroom).1⟩
  · have hw : t.write = .done t.encoding := ht.write_eq_encoding (by rwa [String.utf8Len_toList])
    have hread := readText_encoding (b := n.reading) ht.isPlain.isSized hw
    refine ⟨fun hroom => ?_, fun hroom rest => (hread rest).1 hroom, fun hdeep => ?_,
      fun hdeep rest => (hread rest).2 hdeep⟩
    · obtain ⟨hwritten, hcanonical⟩ := writeText_of_denotes hs ht hroom
      exact ⟨hwritten, spells_chars ht.isPlain, hcanonical⟩
    · unfold writeText
      rw [parse_of_not_fitsIn ht hdeep]
      rfl

end Texts

/-- A vector of structs with blanks around its parts and short addresses. -/
def spacedTag : String :=
  " vector< 0x2::m::S<u8 , 0xA::n::T<> > > "

/-- The tree of the text. -/
def spacedTree : TypeTag :=
  .vector (.struct (Bytes.beBytes 32 2) "m" "S"
    [.primitive .u8, .struct (Bytes.beBytes 32 10) "n" "T" []])

theorem writeText_spacedTag : spacedTag.utf8ByteSize < lengthLimit ∧
    Denotes spacedTag.toList spacedTree ∧ spacedTree.FitsIn Nesting.standard.writing ∧
    spacedTree.FitsIn Nesting.standard.reading ∧
    (writeText Nesting.standard.writing spacedTag).result = .ok spacedTree.encoding ∧
    readText Nesting.standard.reading ⟨0, spacedTree.encoding⟩ =
      .ok spacedTree.text ⟨spacedTree.encoding.length, []⟩ ∧
    (writeText Nesting.standard.writing spacedTree.text).result = .ok spacedTree.encoding := by
  have hs : spacedTag.utf8ByteSize < lengthLimit := by decide
  have hparse : parse Nesting.standard.writing spacedTag = .ok spacedTree := rfl
  obtain ⟨hdenotes, hwriting⟩ := parse_eq_ok_iff.1 hparse
  have hreading : spacedTree.FitsIn Nesting.standard.reading := by decide
  obtain ⟨hwritten, hread, -⟩ := (writeText_iff_denotes hs).2.1 spacedTree hdenotes
  obtain ⟨hw, -, htext⟩ := hwritten hwriting
  have hread' := hread hreading []
  rw [List.append_nil] at hread'
  exact ⟨hs, hdenotes, hwriting, hreading, hw, hread', htext⟩

/-- Bytes in vectors in vectors. -/
def vectors : (depth : Nat) → TypeTag
  | 0 => .primitive .u8
  | depth + 1 => .vector (vectors depth)

theorem isPlain_vectors (depth : Nat) : (vectors depth).IsPlain := by
  induction depth with
  | zero => exact .primitive .u8
  | succ depth ih => exact .vector ih

theorem calls_vectors (b : Budget) (depth : Nat) :
    (vectors depth).calls b = 1 + depth * (1 + b.vector) := by
  induction depth with
  | zero => rw [vectors, calls, Nat.zero_mul]
  | succ depth ih =>
    rw [vectors, calls, ih, Nat.succ_mul]
    omega

theorem utf8ByteSize_vectors (depth : Nat) : (vectors depth).text.utf8ByteSize = 8 * depth + 2 := by
  induction depth with
  | zero => rfl
  | succ depth ih =>
    have hopen : "vector<".utf8ByteSize = 7 := rfl
    have hclose : ">".utf8ByteSize = 1 := rfl
    rw [vectors, text, String.utf8ByteSize_append, String.utf8ByteSize_append, ih, hopen, hclose]
    omega

theorem writeText_vectors {b : Budget} {depth : Nat} (h : b.calls < 1 + depth * (1 + b.vector)) :
    Denotes (vectors depth).text.toList (vectors depth) ∧
      (writeText b (vectors depth).text).result = .error .nestedTooDeep := by
  have hdenotes : Denotes (vectors depth).text.toList (vectors depth) :=
    (spells_chars (isPlain_vectors depth)).denotes
  have hdeep : ¬ (vectors depth).FitsIn b := by
    unfold FitsIn
    rw [calls_vectors]
    omega
  refine ⟨hdenotes, ?_⟩
  unfold writeText
  rw [parse_of_not_fitsIn hdenotes hdeep]
  rfl

/-- A text of some thousand bytes is in the grammar, and is neither written nor refused. -/
theorem not_written_vectors :
    (vectors 1000).text.utf8ByteSize < lengthLimit ∧
      Denotes (vectors 1000).text.toList (vectors 1000) ∧
      (writeText Nesting.standard.writing (vectors 1000).text).result = .error .nestedTooDeep ∧
      Failure.nestedTooDeep.code? = none := by
  have hsize : (vectors 1000).text.utf8ByteSize < lengthLimit :=
    Nat.lt_of_le_of_lt (Nat.le_of_eq (utf8ByteSize_vectors 1000)) (by decide)
  have hcalls : Nesting.standard.writing.calls < 1 + 1000 * (1 + Nesting.standard.writing.vector) :=
    by decide
  obtain ⟨hdenotes, hwrite⟩ := writeText_vectors hcalls
  exact ⟨hsize, hdenotes, hwrite, rfl⟩

end Signatory.Sui.TypeTag
