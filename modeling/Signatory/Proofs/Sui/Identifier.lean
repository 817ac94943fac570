import Signatory.Proofs.Text.Base58
import Signatory.Proofs.Text.Hexadecimal
import Signatory.Sui.Request

/-!
# Spellings of identifiers

The bytes of an id or a digest may be given in several forms (`Spells`): as they are, as a list of
their values, and as digits behind a mark. An id may also be given as digits alone (`SpellsId`), and
a digest as a text in base 58 (`SpellsDigest`).

1. `id_of_spellsId` and `digest_of_spellsDigest`: every spelling gives the bytes.
2. `digest_text_iff`: a text over the alphabet of base 58 is never read in another way.
3. `agrees_on_spellings` joins the two, with the one text that spells bytes in base 58.
-/

namespace Signatory.Identifier

open Text

variable {form s : String} {plain : List Char → Option Bytes} {cs ds : List Char} {bs : Bytes}
  {v : Value}

/-! ## Spellings -/

/-- The spellings that ids and digests share. In front of an odd number of digits stands a zero
that is not written. -/
inductive Spells (bs : Bytes) : Value → Prop
  | bytes : Spells bs (.bytes bs)
  | list : Spells bs (.list (bs.map fun b => .int b.toNat))
  | marked {mark : Char} {ds : List Char} {s : String} (hmark : mark = 'x' ∨ mark = 'X')
      (hds : ds.map Char.toLower = Hex.encodeChars bs) (hs : IsPadded ('0' :: mark :: ds) s) :
      Spells bs (.text s)
  | shortened {mark : Char} {ds : List Char} {s : String} (hmark : mark = 'x' ∨ mark = 'X')
      (hds : '0' :: ds.map Char.toLower = Hex.encodeChars bs)
      (hs : IsPadded ('0' :: mark :: ds) s) : Spells bs (.text s)

/-- The spellings of an id. -/
inductive SpellsId (bs : Bytes) : Value → Prop
  | shared {v : Value} (h : Spells bs v) : SpellsId bs v
  | digits {ds : List Char} {s : String} (hds : ds.map Char.toLower = Hex.encodeChars bs)
      (hs : IsPadded ds s) : SpellsId bs (.text s)

/-- The spellings of a digest. -/
inductive SpellsDigest (bs : Bytes) : Value → Prop
  | shared {v : Value} (h : Spells bs v) : SpellsDigest bs v
  | base58 {cs : List Char} {s : String} (hcs : Base58.StandsFor cs bs) (hs : IsPadded cs s) :
      SpellsDigest bs (.text s)

/-! ## Lists -/

theorem byte?_toNat (b : UInt8) : byte? (.int b.toNat) = some b := by
  have hb : (0 : Int) ≤ b.toNat ∧ (b.toNat : Int) < 256 := by
    have hlt := b.toNat_lt
    omega
  unfold byte?
  dsimp only
  rw [if_pos hb, Int.toNat_natCast, UInt8.ofNat_toNat]

theorem mapM_byte? (bs : Bytes) : (bs.map fun b => .int b.toNat).mapM byte? = some bs := by
  induction bs with
  | nil => rfl
  | cons b bs ih =>
    rw [List.map_cons, List.mapM_cons, byte?_toNat, ih]
    rfl

/-! ## Texts -/

/-- The mark decides how a text is read. -/
theorem ofText_eq_valid_iff (hs : trim isBlank s.toList = cs) : ofText form plain s = .valid bs ↔
    (if hasHexMark cs then markedDigits? (cs.drop 2) else plain cs) = some bs := by
  unfold ofText
  rw [hs]
  dsimp only
  have hpair : (if hasHexMark cs then ("hex", markedDigits? (cs.drop 2)) else (form, plain cs)).2 =
      if hasHexMark cs then markedDigits? (cs.drop 2) else plain cs := by
    split <;> rfl
  rw [hpair]
  split
  · rename_i bs' h
    rw [h, Checked.valid.injEq, Option.some.injEq]
  · rename_i h
    rw [h]
    exact iff_of_false (fun h' => by cases h') fun h' => by cases h'

theorem markedDigits?_of_toLower (hds : ds.map Char.toLower = Hex.encodeChars bs) :
    markedDigits? ds = some bs := by
  have hlength := congrArg List.length hds
  rw [List.length_map, Hex.length_encodeChars] at hlength
  unfold markedDigits?
  rw [if_neg (by omega)]
  exact Hex.decode?_of_toLower hds

/-- A zero is put in front of an odd number of digits. -/
theorem markedDigits?_of_odd (hds : '0' :: ds.map Char.toLower = Hex.encodeChars bs) :
    markedDigits? ds = some bs := by
  have hlength := congrArg List.length hds
  rw [List.length_cons, List.length_map, Hex.length_encodeChars] at hlength
  unfold markedDigits?
  rw [if_pos (by omega)]
  exact Hex.decode?_of_toLower hds

theorem ofText_marked {mark : Char} (hmark : mark = 'x' ∨ mark = 'X')
    (hds : ∀ c ∈ ds, isHexDigit c = true) (hs : IsPadded ('0' :: mark :: ds) s)
    (h : markedDigits? ds = some bs) : ofText form plain s = .valid bs := by
  rw [ofText_eq_valid_iff (Hex.trim_of_isPadded hmark hds hs),
    if_pos (hasHexMark_cons_cons.2 ⟨rfl, hmark⟩)]
  exact h

/-! ## Reading spellings -/

theorem check_of_spells {ofText : String → Checked Bytes}
    (hmarked : ∀ {mark : Char} {ds : List Char} {s : String}, (mark = 'x' ∨ mark = 'X') →
      (∀ c ∈ ds, isHexDigit c = true) → IsPadded ('0' :: mark :: ds) s →
      markedDigits? ds = some bs → ofText s = .valid bs)
    (h : Spells bs v) : check ofText v = .valid bs := by
  cases h with
  | bytes => rfl
  | list =>
    unfold check
    dsimp only
    rw [mapM_byte?]
  | marked hmark hds hs =>
    exact hmarked hmark (Hex.isHexDigit_of_toLower hds) hs (markedDigits?_of_toLower hds)
  | @shortened mark ds s hmark hds hs =>
    have hzero : ('0' :: ds).map Char.toLower = Hex.encodeChars bs := hds
    refine hmarked hmark (fun c hc => ?_) hs (markedDigits?_of_odd hds)
    exact Hex.isHexDigit_of_toLower hzero c (List.mem_cons_of_mem _ hc)

theorem id_of_spellsId (h : SpellsId bs v) : id v = .valid bs := by
  cases h with
  | shared h => exact check_of_spells ofText_marked h
  | digits hds hs =>
    have hblank := fun c hc => isBlank_of_isHexDigit (Hex.isHexDigit_of_toLower hds c hc)
    have htrim := hs.trim_eq (isTight_of_forall hblank)
    refine (ofText_eq_valid_iff htrim).2 ?_
    rw [hasHexMark_of_forall (Hex.isHexDigit_of_toLower hds), if_neg Bool.false_ne_true]
    exact Hex.decode?_of_toLower hds

/-- A text over the alphabet of base 58 is read as the bytes that it stands for. -/
theorem digest_text_iff (hcs : ∀ c ∈ cs, c ∈ Base58.alphabet) (hs : IsPadded cs s) :
    digest (.text s) = .valid bs ↔ Base58.StandsFor cs bs := by
  have htrim := hs.trim_eq (Base58.isTight_of_forall_mem hcs)
  refine (ofText_eq_valid_iff htrim).trans ?_
  rw [Base58.hasHexMark_of_forall_mem hcs, if_neg Bool.false_ne_true,
    Base58.decode?_eq_some_iff (Base58.trimEnd_of_forall_mem hcs)]

theorem digest_of_spellsDigest (h : SpellsDigest bs v) : digest v = .valid bs := by
  cases h with
  | shared h => exact check_of_spells ofText_marked h
  | base58 hcs hs => exact (digest_text_iff hcs.mem_alphabet hs).2 hcs

end Signatory.Identifier

namespace Signatory

open Text

/-- A reference to an object is checked to the bytes that its fields spell. -/
theorem Sui.Reference.check_of_spells {fs : Fields} {v w : Value} {bs ds : Bytes} {version : Nat}
    (hid : fs.lookup "object_id" = some v) (hv : Identifier.SpellsId bs v)
    (hversion : Check.optional fs "seq_num" 0 Check.natural = .valid version)
    (hdigest : fs.lookup "object_digest" = some w) (hw : Identifier.SpellsDigest ds w) :
    check (.object fs) = .valid ⟨bs, version, ds⟩ := by
  have hids : Check.optional fs "object_id" [] Identifier.id = .valid bs := by
    unfold Check.optional
    rw [hid, Option.map_some, Identifier.id_of_spellsId hv]
    rfl
  have hdigests : Check.optional fs "object_digest" [] Identifier.digest = .valid ds := by
    unfold Check.optional
    rw [hdigest, Option.map_some, Identifier.digest_of_spellsDigest hw]
    rfl
  unfold check Check.ofObject
  dsimp only
  rw [hids, hversion, hdigests]
  rfl

namespace Identifier

/-- Every spelling of an id or a digest gives its bytes, and so do the fields of a reference. Bytes
are spelled by one text in base 58, with a one in front for each zero byte in front. A text over the
alphabet of base 58 carries no mark, and as a digest it gives just the bytes that it stands for. -/
theorem agrees_on_spellings (bs : Bytes) :
    (∀ v, SpellsId bs v → id v = .valid bs) ∧ (∀ v, SpellsDigest bs v → digest v = .valid bs) ∧
    (∀ fs v w ds version, fs.lookup "object_id" = some v → SpellsId bs v →
      Check.optional fs "seq_num" 0 Check.natural = .valid version →
      fs.lookup "object_digest" = some w → SpellsDigest ds w →
      Sui.Reference.check (.object fs) = .valid ⟨bs, version, ds⟩) ∧
    (∀ cs, Base58.StandsFor cs bs ↔ (Base58.encode bs).toList = cs) ∧
    (∀ cs, Base58.StandsFor cs bs → countFront '1' cs = countFront 0 bs) ∧
    ∀ cs s, (∀ c ∈ cs, c ∈ Base58.alphabet) → IsPadded cs s → hasHexMark cs = false ∧
      (digest (.text s) = .valid bs ↔ Base58.StandsFor cs bs) := by
  refine ⟨fun v => id_of_spellsId, fun v => digest_of_spellsDigest, ?_,
    fun cs => Base58.standsFor_iff, fun cs hcs => hcs.countFront_eq, fun cs s hcs hs => ?_⟩
  · intro fs v w ds version hid hv hversion hdigest hw
    exact Sui.Reference.check_of_spells hid hv hversion hdigest hw
  · exact ⟨Base58.hasHexMark_of_forall_mem hcs, digest_text_iff hcs hs⟩

/-- Four bytes with two zeros in front. -/
def zerosInFront : Bytes := [0, 0, 0x0a, 0xff]

theorem agrees_on_spellings_zerosInFront :
    id (.text "\t0X0000aFf ") = .valid zerosInFront ∧ id (.text "00000AFF") = .valid zerosInFront ∧
      digest (.text "0x00000Aff\n") = .valid zerosInFront ∧
      digest (.text "11qY\n") = .valid zerosInFront := by
  obtain ⟨hid, hdigest, -, -, -, -⟩ := agrees_on_spellings zerosInFront
  have hnone : ∀ c ∈ ([] : List Char), isBlank c = true := List.forall_mem_nil _
  have hfeed : ∀ c ∈ ['\n'], isBlank c = true := List.forall_mem_singleton.2 rfl
  have hshort : IsPadded ['0', 'X', '0', '0', '0', '0', 'a', 'F', 'f'] "\t0X0000aFf " :=
    ⟨['\t'], [' '], rfl, List.forall_mem_singleton.2 rfl, List.forall_mem_singleton.2 rfl⟩
  have hplain : IsPadded ['0', '0', '0', '0', '0', 'A', 'F', 'F'] "00000AFF" :=
    ⟨[], [], rfl, hnone, hnone⟩
  have hmarked : IsPadded ['0', 'x', '0', '0', '0', '0', '0', 'A', 'f', 'f'] "0x00000Aff\n" :=
    ⟨[], ['\n'], rfl, hnone, hfeed⟩
  have hbase : IsPadded ['1', '1', 'q', 'Y'] "11qY\n" := ⟨[], ['\n'], rfl, hnone, hfeed⟩
  have hstands : Base58.StandsFor ['1', '1', 'q', 'Y'] zerosInFront :=
    ⟨[0, 0, 48, 31], by decide, by decide, by decide, by decide⟩
  exact ⟨hid _ (.shared (.shortened (.inr rfl) rfl hshort)), hid _ (.digits rfl hplain),
    hdigest _ (.shared (.marked (.inl rfl) rfl hmarked)), hdigest _ (.base58 hstands hbase)⟩

end Identifier

end Signatory
