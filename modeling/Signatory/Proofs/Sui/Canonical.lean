import Signatory.Proofs.Bcs.Written
import Signatory.Proofs.Sui.Bounded
import Signatory.Proofs.Sui.TagText

/-!
# The serialized form is canonical

1. `decode_encode_transaction`: what is encoded is decoded as the same transaction, its type tags
   spelled plainly, and this transaction has the same serialized form. That takes room for reading
   the type tags, which writing them does not ask for; without it decoding gives up.
2. `decode_emptyVector_structs`: reading a struct asks for more room than writing it, so nested
   structs can be encoded and then given up.
3. `encode_decode_transaction`: what is decoded is encoded as the same bytes, if its type tags have
   names that a text can hold; no other such bytes are decoded as the same transaction.

The round trips go through the transaction with trees in place of texts: a tree and its spelling are written
alike (`writeText_text`).
-/

namespace Signatory.Sui

open Bcs

namespace TypeTag

variable {n : Nesting} {b : Budget}

theorem writeText_of_parse {s : String} {t : TypeTag} (h : parse b s = .ok t) :
    writeText b s = t.write := by
  unfold writeText
  rw [h]

/-- A tree and its spelling are written alike. -/
theorem writeText_text {t : TypeTag} (h : t.IsPlain) (hfits : t.FitsIn b) :
    writeText b t.text = t.write :=
  writeText_of_parse (parse_text h hfits)

theorem exists_parse_of_writeText {s : String} {bs : Bytes} (h : writeText b s = .done bs) :
    ∃ t, parse b s = .ok t := by
  unfold writeText at h
  split at h
  · rename_i t ht
    exact ⟨t, ht⟩
  · exact absurd h (Emission.stop_ne_done _ _)

/-- The text that is read from what is written for a text, if anything is. -/
def canonical (n : Nesting) (s : String) : String :=
  match (writeText n.writing s).result with
  | .error _ => s
  | .ok bs =>
    match Reader.run (readText n.reading) bs with
    | .error _ => s
    | .ok plain => plain

/-- The tree of a text; texts without a tree do not matter. -/
def treeOf (b : Budget) (s : String) : TypeTag :=
  match parse b s with
  | .ok t => t
  | .error _ => .primitive .bool

theorem parse_eq_treeOf {s : String} {bs : Bytes} (h : writeText b s = .done bs) :
    parse b s = .ok (treeOf b s) := by
  obtain ⟨t, ht⟩ := exists_parse_of_writeText h
  unfold treeOf
  rw [ht]

/-- What is written for a text can be read, as far as there is room. -/
def IsReadable (n : Nesting) (s : String) : Prop :=
  ∃ t, Denotes s.toList t ∧ t.FitsIn n.reading

theorem isReadable_iff {s : String} {t : TypeTag} (h : parse b s = .ok t) :
    IsReadable n s ↔ t.FitsIn n.reading := by
  have hdenotes := (parse_eq_ok_iff.1 h).1
  constructor
  · rintro ⟨t', ht', hfits⟩
    rwa [hdenotes.unique ht']
  · exact fun hfits => ⟨t, hdenotes, hfits⟩

/-- The canonical text is the plain spelling of the tree. -/
theorem canonical_of_parse {s : String} {t : TypeTag} {bs : Bytes}
    (ht : parse n.writing s = .ok t) (hw : writeText n.writing s = .done bs)
    (hfits : t.FitsIn n.reading) :
    Reader.run (readText n.reading) bs = .ok (canonical n s) ∧ canonical n s = t.text := by
  have hread : Reader.run (readText n.reading) bs = .ok t.text := by
    refine (codec_text n.reading).run_of_write ⟨(isPlain_of_parse ht).isSized, hfits⟩ ?_
    rw [← writeText_of_parse ht]
    exact hw
  have hcanonical : canonical n s = t.text := by
    unfold canonical
    rw [Emission.result_eq_ok_iff.2 hw]
    dsimp only
    rw [hread]
  rw [hcanonical]
  exact ⟨hread, rfl⟩

end TypeTag

namespace TransactionOf

/-- Transactions with the same bytes are the same. -/
theorem write_injective {raw raw' : TransactionOf TypeTag} {data : Bytes}
    (h : raw.Fits TypeTag.IsSized) (h' : raw'.Fits TypeTag.IsSized)
    (hw : raw.write TypeTag.write = .done data) (hw' : raw'.write TypeTag.write = .done data) :
    raw = raw' := by
  obtain ⟨b, -, hroom⟩ :=
    TypeTag.exists_budget ⟨0, 0, 0⟩ (raw.typeTags ++ raw'.typeTags)
  obtain ⟨hroom, hroom'⟩ := List.forall_mem_append.1 hroom
  have hraw : decode (TypeTag.read b) data = .ok raw := (decode_eq_ok_iff (TypeTag.codec b)).2
    ⟨raw, ⟨h.1, fun t ht => ⟨h.2 t ht, hroom t ht⟩⟩, hw, map_id raw⟩
  rw [(decode_eq_ok_iff (TypeTag.codec b)).2
    ⟨raw', ⟨h'.1, fun t ht => ⟨h'.2 t ht, hroom' t ht⟩⟩, hw', map_id raw'⟩] at hraw
  exact (Except.ok.inj hraw).symm

/-- A serialized transaction whose type tags do not all have room is given up. -/
theorem decode_of_not_fitsIn {b : Budget} {raw : TransactionOf TypeTag} {data : Bytes}
    (h : raw.Fits TypeTag.IsSized) (hw : raw.write TypeTag.write = .done data)
    (hdeep : ∃ t ∈ raw.typeTags, ¬ t.FitsIn b) :
    decode (TypeTag.readText b) data = .error .nestedTooDeep := by
  -- Within a larger budget it is decoded, and the bytes have no other tree.
  obtain ⟨b', hle, hroom⟩ := TypeTag.exists_budget b raw.typeTags
  have hspan : Cursor.Spans ⟨0, data⟩ data ⟨0 + data.length, []⟩ :=
    ⟨(List.append_nil data).symm, rfl⟩
  have hnone : ∀ raw' : TransactionOf TypeTag, raw'.Fits (fun t => t.IsSized ∧ t.FitsIn b) →
      raw'.write TypeTag.write ≠ .done data := by
    intro raw' hraw' hw'
    obtain rfl := write_injective h ⟨hraw'.1, fun t ht => (hraw'.2 t ht).1⟩ hw hw'
    obtain ⟨t, ht, hnot⟩ := hdeep
    exact hnot (hraw'.2 t ht).2
  obtain ⟨d, hd⟩ := (isBounded_read (TypeTag.isBounded_readText hle)).gives_up
    (codec (TypeTag.codec_text b)) (codec (TypeTag.codec_text b'))
    ⟨h.1, fun t ht => ⟨h.2 t ht, hroom t ht⟩⟩ hw hspan hnone
  exact IsBounded.run_of_error hd

end TransactionOf

namespace Transaction

variable {n : Nesting}

/-- The type tags of a transaction that is encoded have trees. -/
theorem tags_of_encode {tx : Transaction} {b : Bytes} (h : tx.encode n = .ok b) :
    ∀ s ∈ tx.typeTags, TypeTag.parse n.writing s = .ok (TypeTag.treeOf n.writing s) ∧
      ∃ bs, TypeTag.writeText n.writing s = .done bs := by
  intro s hmem
  obtain ⟨bs, hbs⟩ := TransactionOf.write_eq_done (Emission.result_eq_ok_iff.1 h) s hmem
  exact ⟨TypeTag.parse_eq_treeOf hbs, bs, hbs⟩

/-- A text that can be read is written like its canonical text, which is that of its tree. -/
theorem canonical_of_encode {tx : Transaction} {b : Bytes} (h : tx.encode n = .ok b)
    (hread : ∀ s ∈ tx.typeTags, TypeTag.IsReadable n s) :
    ∀ s ∈ tx.typeTags, (TypeTag.treeOf n.writing s).FitsIn n.reading ∧
      (TypeTag.treeOf n.writing s).text = TypeTag.canonical n s ∧
      ∃ bs, (TypeTag.writeText n.writing s).result = .ok bs ∧
        Reader.run (TypeTag.readText n.reading) bs = .ok (TypeTag.canonical n s) := by
  intro s hmem
  obtain ⟨hparse, bs, hbs⟩ := tags_of_encode h s hmem
  have hfits := (TypeTag.isReadable_iff hparse).1 (hread s hmem)
  obtain ⟨hrun, htext⟩ := TypeTag.canonical_of_parse hparse hbs hfits
  exact ⟨hfits, htext.symm, bs, Emission.result_eq_ok_iff.2 hbs, hrun⟩

/-- A transaction that is encoded is written like the one with trees for its type tags. -/
theorem write_treeOf {tx : Transaction} {b : Bytes} (h : tx.encode n = .ok b) :
    (tx.map (TypeTag.treeOf n.writing)).write TypeTag.write = .done b := by
  refine (TransactionOf.write_map fun s hmem => ?_).trans (Emission.result_eq_ok_iff.1 h)
  exact (TypeTag.writeText_of_parse (tags_of_encode h s hmem).1).symm

theorem isSized_treeOf {tx : Transaction} {b : Bytes} (h : tx.encode n = .ok b) :
    ∀ t ∈ (tx.map (TypeTag.treeOf n.writing)).typeTags, t.IsSized := by
  rw [TransactionOf.typeTags_map]
  exact List.forall_mem_map.2 fun s hmem =>
    (TypeTag.isPlain_of_parse (tags_of_encode h s hmem).1).isSized

theorem decode_of_encode {tx : Transaction} {b : Bytes} (hs : AllSized tx.addresses)
    (h : tx.encode n = .ok b) (hread : ∀ s ∈ tx.typeTags, TypeTag.IsReadable n s) :
    decode n b = .ok (tx.map (TypeTag.canonical n)) := by
  have htags := canonical_of_encode h hread
  refine (TransactionOf.decode_eq_ok_iff (TypeTag.codec_text n.reading)).2
    ⟨tx.map (TypeTag.treeOf n.writing), ⟨?_, fun t ht => ⟨isSized_treeOf h t ht, ?_⟩⟩,
      write_treeOf h, ?_⟩
  · rw [TransactionOf.addresses_map]
    exact hs
  · rw [TransactionOf.typeTags_map] at ht
    exact List.forall_mem_map.2 (fun s hmem => (htags s hmem).1) t ht
  · rw [TransactionOf.map_map]
    exact TransactionOf.map_congr fun s hmem => (htags s hmem).2.1

/-- Without room for a type tag decoding gives up. -/
theorem decode_of_not_isReadable {tx : Transaction} {b : Bytes} (hs : AllSized tx.addresses)
    (h : tx.encode n = .ok b) (hdeep : ∃ s ∈ tx.typeTags, ¬ TypeTag.IsReadable n s) :
    decode n b = .error .nestedTooDeep := by
  obtain ⟨s, hmem, hnot⟩ := hdeep
  refine TransactionOf.decode_of_not_fitsIn ⟨?_, isSized_treeOf h⟩ (write_treeOf h)
    ⟨TypeTag.treeOf n.writing s, ?_, fun hfits => hnot ?_⟩
  · rw [TransactionOf.addresses_map]
    exact hs
  · rw [TransactionOf.typeTags_map]
    exact List.mem_map_of_mem hmem
  · exact (TypeTag.isReadable_iff (tags_of_encode h s hmem).1).2 hfits

theorem encode_map_canonical {tx : Transaction} {b : Bytes} (h : tx.encode n = .ok b)
    (hread : ∀ s ∈ tx.typeTags, TypeTag.IsReadable n s) :
    encode n (tx.map (TypeTag.canonical n)) = .ok b := by
  refine Emission.result_eq_ok_iff.2 ((TransactionOf.write_map fun s hmem => ?_).trans
    (Emission.result_eq_ok_iff.1 h))
  obtain ⟨hfits, htext, -⟩ := canonical_of_encode h hread s hmem
  have hparse := (tags_of_encode h s hmem).1
  rw [← htext, TypeTag.writeText_text (TypeTag.isPlain_of_parse hparse)
    (TypeTag.fitsIn_of_parse hparse), TypeTag.writeText_of_parse hparse]

/-- Encoded transactions are decoded, up to the spelling of their type tags, exactly if there is
room for reading the type tags. -/
theorem decode_encode_transaction {tx : Transaction} {b : Bytes} (hs : AllSized tx.addresses)
    (h : tx.encode n = .ok b) :
    ((∀ s ∈ tx.typeTags, TypeTag.IsReadable n s) →
      decode n b = .ok (tx.map (TypeTag.canonical n)) ∧
        encode n (tx.map (TypeTag.canonical n)) = .ok b ∧
        ∀ s ∈ tx.typeTags, ∃ bs, (TypeTag.writeText n.writing s).result = .ok bs ∧
          Reader.run (TypeTag.readText n.reading) bs = .ok (TypeTag.canonical n s)) ∧
    ((∃ s ∈ tx.typeTags, ¬ TypeTag.IsReadable n s) → decode n b = .error .nestedTooDeep) :=
  ⟨fun hread => ⟨decode_of_encode hs h hread, encode_map_canonical h hread,
    fun s hmem => (canonical_of_encode h hread s hmem).2.2⟩, decode_of_not_isReadable hs h⟩

/-- A call whose type tag has a short address and blanks around a parameter. -/
def spacedCall : Transaction where
  inputs := [.pure [7], .shared (Bytes.beBytes 32 6) 1 true]
  commands := [.moveCall (Bytes.beBytes 32 2) "coin" "zero" ["0x2::coin::Coin< 0x2::sui::SUI >"]
    [.input 0], .makeMoveVec (some "vector<u8>") []]
  sender := Bytes.beBytes 32 171
  gas := ⟨[⟨Bytes.beBytes 32 1, 1, Bytes.beBytes 32 9⟩], Bytes.beBytes 32 171, 1000, 5000⟩
  expiration := some 3

theorem decode_encode_spacedCall : AllSized spacedCall.addresses ∧
    (∀ s ∈ spacedCall.typeTags, TypeTag.IsReadable .standard s) ∧
    ∃ b, spacedCall.encode .standard = .ok b ∧
      decode .standard b = .ok (spacedCall.map (TypeTag.canonical .standard)) := by
  have hs : AllSized spacedCall.addresses := by decide
  have h : spacedCall.encode .standard =
      .ok (spacedCall.write (TypeTag.writeText Nesting.standard.writing)).bytes := rfl
  have hread : ∀ s ∈ spacedCall.typeTags, TypeTag.IsReadable .standard s := by
    have hparse : ∀ s ∈ spacedCall.typeTags,
        (TypeTag.treeOf Nesting.standard.writing s).FitsIn Nesting.standard.reading := by decide
    exact fun s hmem => (TypeTag.isReadable_iff (tags_of_encode h s hmem).1).2 (hparse s hmem)
  exact ⟨hs, hread, _, h, ((decode_encode_transaction hs h).1 hread).1⟩

/-- Bytes in structs in structs. -/
def structs : (depth : Nat) → TypeTag
  | 0 => .primitive .u8
  | depth + 1 => .struct (Bytes.beBytes 32 2) "m" "S" [structs depth]

theorem isPlain_structs (depth : Nat) : (structs depth).IsPlain := by
  induction depth with
  | zero => exact .primitive .u8
  | succ depth ih =>
    exact .struct ⟨Bytes.length_beBytes _ _, by decide, by decide⟩ (List.forall_mem_singleton.2 ih)

theorem calls_structs (b : Budget) (depth : Nat) :
    (structs depth).calls b = 1 + depth * (1 + b.struct) := by
  induction depth with
  | zero => rw [structs, TypeTag.calls, Nat.zero_mul]
  | succ depth ih =>
    rw [structs, TypeTag.calls, TypeTag.partCalls, TypeTag.partCalls, ih, Nat.succ_mul]
    omega

theorem isDone_write_structs (depth : Nat) : (structs depth).write.IsDone := by
  induction depth with
  | zero => exact ⟨[1], rfl⟩
  | succ depth ih =>
    have hparameters : (TypeTag.writes [structs depth]).IsDone :=
      Emission.isDone_append_iff.2 ⟨ih, [], rfl⟩
    rw [structs, TypeTag.write]
    simp only [Emission.isDone_append_iff]
    exact ⟨⟨⟨⟨⟨⟨[7], rfl⟩, Emission.isDone_fixed _⟩, _, rfl⟩, _, rfl⟩,
      Emission.isDone_length (n := 1) (by decide)⟩, hparameters⟩

/-- A transaction that makes an empty vector of some type. -/
def emptyVector (type : String) : Transaction where
  inputs := []
  commands := [.makeMoveVec (some type) []]
  sender := Bytes.beBytes 32 171
  gas := ⟨[], Bytes.beBytes 32 171, 1000, 5000⟩
  expiration := none

theorem isDone_write_emptyVector {w : String → Emission} {type : String} (h : (w type).IsDone) :
    ((emptyVector type).write w).IsDone := by
  have hnone : 0 < lengthLimit := by decide
  have hone : 1 < lengthLimit := by decide
  have hprice : Width.u64.Holds 1000 := ⟨by decide, by decide⟩
  have hbudget : Width.u64.Holds 5000 := ⟨by decide, by decide⟩
  have hcommand : ((CommandOf.makeMoveVec (some type) []).write w).IsDone :=
    Emission.isDone_append_iff.2 ⟨Emission.isDone_append_iff.2 ⟨⟨[5, 1], rfl⟩, h⟩, [0], rfl⟩
  have hcommands : (Write.seq (CommandOf.write w) (emptyVector type).commands).IsDone :=
    Emission.isDone_seq hone (List.forall_mem_singleton.2 hcommand)
  have hgas : (emptyVector type).gas.write.IsDone := by
    unfold GasData.write
    simp only [Emission.isDone_append_iff]
    exact ⟨⟨⟨Emission.isDone_seq hnone (List.forall_mem_nil _), Emission.isDone_fixed _⟩,
      Emission.isDone_uint_iff.2 hprice⟩, Emission.isDone_uint_iff.2 hbudget⟩
  unfold TransactionOf.write
  simp only [Emission.isDone_append_iff]
  exact ⟨⟨⟨⟨⟨⟨⟨[0], rfl⟩, [0], rfl⟩, Emission.isDone_seq hnone (List.forall_mem_nil _)⟩,
    hcommands⟩, Emission.isDone_fixed _⟩, hgas⟩, [0], rfl⟩

/-- A vector of structs that there is room for writing but not for reading is encoded, and what is
encoded is given up. -/
theorem decode_emptyVector_structs {depth : Nat}
    (hwriting : 1 + depth * (1 + n.writing.struct) ≤ n.writing.calls)
    (hreading : n.reading.calls < 1 + depth * (1 + n.reading.struct)) :
    AllSized (emptyVector (structs depth).text).addresses ∧
      ∃ b, (emptyVector (structs depth).text).encode n = .ok b ∧
        decode n b = .error .nestedTooDeep := by
  have hroom : (structs depth).FitsIn n.writing := by
    unfold TypeTag.FitsIn
    rw [calls_structs]
    exact hwriting
  have hdeep : ¬ (structs depth).FitsIn n.reading := by
    unfold TypeTag.FitsIn
    rw [calls_structs]
    omega
  have hs : AllSized (emptyVector (structs depth).text).addresses :=
    List.forall_mem_cons.2 ⟨Bytes.length_beBytes _ _,
      List.forall_mem_singleton.2 (Bytes.length_beBytes _ _)⟩
  have hparse := TypeTag.parse_text (isPlain_structs depth) hroom
  have hdone : (TypeTag.writeText n.writing (structs depth).text).IsDone := by
    rw [TypeTag.writeText_of_parse hparse]
    exact isDone_write_structs depth
  obtain ⟨b, hb⟩ := isDone_write_emptyVector hdone
  have hencode : (emptyVector (structs depth).text).encode n = .ok b :=
    Emission.result_eq_ok_iff.2 hb
  exact ⟨hs, b, hencode, decode_of_not_isReadable hs hencode ⟨_, List.mem_singleton.2 rfl,
    fun h => hdeep ((TypeTag.isReadable_iff hparse).1 h)⟩⟩

/-- A transaction with four hundred structs in each other is encoded. What is encoded is neither
decoded nor refused. -/
theorem not_decoded_structs : AllSized (emptyVector (structs 400).text).addresses ∧
    (∃ b, (emptyVector (structs 400).text).encode .standard = .ok b ∧
      decode .standard b = .error .nestedTooDeep) ∧ Failure.nestedTooDeep.code? = none := by
  have hwriting : 1 + 400 * (1 + Nesting.standard.writing.struct) ≤
      Nesting.standard.writing.calls := by decide
  have hreading : Nesting.standard.reading.calls <
      1 + 400 * (1 + Nesting.standard.reading.struct) := by decide
  obtain ⟨hs, hgiven⟩ := decode_emptyVector_structs hwriting hreading
  exact ⟨hs, hgiven, rfl⟩

/-- Every struct in the type tags of serialized data has a module and a name of word
characters. -/
def TagsAreNamed (n : Nesting) (data : Bytes) : Prop :=
  ∃ raw, TransactionOf.decode (TypeTag.read n.reading) data = .ok raw ∧
    ∀ t ∈ raw.typeTags, t.IsNamed

/-- Decoded addresses have their length. -/
theorem sized_of_decode {data : Bytes} {tx : Transaction} (h : decode n data = .ok tx) :
    AllSized tx.addresses := by
  obtain ⟨raw, hfits, -, rfl⟩ :=
    (TransactionOf.decode_eq_ok_iff (TypeTag.codec_text n.reading)).1 h
  rw [TransactionOf.addresses_map]
  exact hfits.1

theorem tagsAreNamed_of_typeTags {data : Bytes} {tx : Transaction} (h : decode n data = .ok tx)
    (htags : tx.typeTags = []) : TagsAreNamed n data := by
  obtain ⟨raw, hfits, hw, rfl⟩ :=
    (TransactionOf.decode_eq_ok_iff (TypeTag.codec_text n.reading)).1 h
  rw [TransactionOf.typeTags_map, List.map_eq_nil_iff] at htags
  refine ⟨raw, (TransactionOf.decode_eq_ok_iff (TypeTag.codec n.reading)).2
    ⟨raw, hfits, hw, TransactionOf.map_id raw⟩, ?_⟩
  rw [htags]
  exact List.forall_mem_nil _

theorem encode_of_decode {data : Bytes} {tx : Transaction} (h : decode n data = .ok tx)
    (hn : TagsAreNamed n data) : tx.encode n = .ok data := by
  obtain ⟨raw, hraw, hnamed⟩ := hn
  obtain ⟨raw', hfits, hw, hid⟩ :=
    (TransactionOf.decode_eq_ok_iff (TypeTag.codec n.reading)).1 hraw
  obtain rfl : raw' = raw := (TransactionOf.map_id raw').symm.trans hid
  have htx : decode n data = .ok (raw'.map TypeTag.text) :=
    (TransactionOf.decode_eq_ok_iff (TypeTag.codec_text n.reading)).2 ⟨raw', hfits, hw, rfl⟩
  obtain rfl : raw'.map TypeTag.text = tx := Except.ok.inj (htx.symm.trans h)
  refine Emission.result_eq_ok_iff.2 ((TransactionOf.write_map fun t ht => ?_).trans hw)
  -- What was read has room for being written.
  obtain ⟨hsized, hroom⟩ := hfits.2 t ht
  exact TypeTag.writeText_text (TypeTag.isPlain_of_isSized_isNamed hsized (hnamed t ht))
    (hroom.mono n.reading_le)

/-- The serialized form of an empty vector of coins. -/
def vectorData : Bytes :=
  [0, 0, 0, 1, 5, 1, 7] ++ Bytes.beBytes 32 2 ++ [3, 115, 117, 105, 3, 83, 85, 73, 0, 0] ++
    Bytes.beBytes 32 171 ++ [0] ++ Bytes.beBytes 32 171 ++ Bytes.leBytes 8 1000 ++
    Bytes.leBytes 8 5000 ++ [0]

/-- The same with a tree for the type of the coins. -/
def vectorTree : TransactionOf TypeTag where
  inputs := []
  commands := [.makeMoveVec (some (.struct (Bytes.beBytes 32 2) "sui" "SUI" [])) []]
  sender := Bytes.beBytes 32 171
  gas := ⟨[], Bytes.beBytes 32 171, 1000, 5000⟩
  expiration := none

end Transaction

end Signatory.Sui
