import Signatory.Proofs.Sui.TagGrammar
import Signatory.Proofs.Sui.TagTree

/-!
# Texts of type tags

1. `Spells`: the plain spellings of trees. The text of a tree spells it plainly (`spells_chars`),
   and what is spelled plainly is in the grammar (`Spells.denotes`).
2. `parse_text`: so the plain spelling of a tree is read as the tree, if its addresses have their
   length, its names consist of word characters, and there is room for it.
3. `isPlain_of_parse`: every tree that is read from a text is such a tree.
-/

namespace Signatory.Sui.TypeTag

open Text

/-- An address of the right length, and names of word characters. -/
def PlainStruct (address : Bytes) (module name : String) : Prop :=
  address.length = addressLength ∧ isName module.toList ∧ isName name.toList

/-- A tree that a text can stand for. -/
def IsPlain : TypeTag → Prop := Everywhere PlainStruct

theorem IsPlain.isSized {t : TypeTag} (h : t.IsPlain) : t.IsSized :=
  Everywhere.imp (fun _ _ _ h => h.1) h

theorem isPlain_of_isSized_isNamed {t : TypeTag} (hs : t.IsSized) (hn : t.IsNamed) : t.IsPlain :=
  Everywhere.imp (fun _ _ _ h => h) (hs.and hn)

/-! ## Plain spellings -/

/-- Parameters with a comma and a blank between them, in brackets; nothing without parameters. -/
def bracketed (pieces : List (List Char)) : List Char :=
  if pieces.isEmpty then [] else '<' :: ([',', ' '].intercalate pieces ++ ['>'])

/-- A text spells a tree plainly: every address has all its digits, in lower case, and there are no
blanks but those behind commas. -/
inductive Spells : List Char → TypeTag → Prop
  | primitive (p : Primitive) : Spells p.name.toList (.primitive p)
  | vector {cs : List Char} {t : TypeTag} (ht : Spells cs t) :
    Spells ("vector<".toList ++ (cs ++ ['>'])) (.vector t)
  | struct {digits module name : List Char} {parts : List (List Char × TypeTag)}
      (hhead : IsHead digits module name) (hlength : digits.length = 2 * addressLength)
      (hlower : ∀ c ∈ digits, c ∈ "0123456789abcdef".toList)
      (hparts : ∀ p ∈ parts, Spells p.1 p.2) :
    Spells (headChars digits module name ++ bracketed (parts.map (·.1)))
      (.struct (Bytes.beBytes addressLength (Address.number digits))
        (String.ofList module) (String.ofList name) (parts.map (·.2)))

/-- A comma and a blank between pieces is a comma between them and a blank in front of all but the
first. -/
theorem intercalate_comma_blank (piece : List Char) (pieces : List (List Char)) :
    [',', ' '].intercalate (piece :: pieces) = commas (piece :: pieces.map (' ' :: ·)) := by
  induction pieces generalizing piece with
  | nil => rw [List.map_nil, commas, List.intercalate_singleton, List.intercalate_singleton]
  | cons q pieces ih =>
    have hblank : commas ((' ' :: q) :: pieces.map (' ' :: ·)) =
        ' ' :: commas (q :: pieces.map (' ' :: ·)) := by
      cases pieces with
      | nil => rw [List.map_nil, commas, List.intercalate_singleton, commas,
          List.intercalate_singleton]
      | cons r pieces =>
        rw [List.map_cons, commas_cons (List.cons_ne_nil _ _), commas_cons (List.cons_ne_nil _ _)]
        rfl
    rw [List.intercalate_cons_of_ne_nil (List.cons_ne_nil _ _), ih, List.map_cons,
      commas_cons (List.cons_ne_nil _ _), hblank, List.append_assoc]
    rfl

theorem bracketed_cons (piece : List Char) (pieces : List (List Char)) :
    bracketed (piece :: pieces) = '<' :: (commas (piece :: pieces.map (' ' :: ·)) ++ ['>']) := by
  rw [← intercalate_comma_blank]
  rfl

/-- The characters of the spelling of a tree. -/
def chars (t : TypeTag) : List Char := t.text.toList

theorem toList_intercalate_texts (ts : List TypeTag) :
    (", ".intercalate (texts ts)).toList = [',', ' '].intercalate (ts.map chars) := by
  have htexts : texts ts = ts.map text := by
    induction ts with
    | nil => rfl
    | cons t ts ih => rw [texts, ih, List.map_cons]
  rw [String.toList_intercalate, htexts, List.map_map]
  rfl

theorem chars_vector (t : TypeTag) :
    chars (.vector t) = "vector<".toList ++ (t.chars ++ ['>']) := by
  have hclose : ">".toList = ['>'] := rfl
  unfold chars
  rw [text, String.toList_append, String.toList_append, hclose, List.append_assoc]

theorem chars_struct (a : Bytes) (m x : String) (ps : List TypeTag) :
    chars (.struct a m x ps) =
      headChars (Hex.encodeChars a) m.toList x.toList ++ bracketed (ps.map chars) := by
  have hcolons : "::".toList = [':', ':'] := rfl
  have hbrackets : (if ps.isEmpty = true then "" else
      "<" ++ ", ".intercalate (texts ps) ++ ">").toList = bracketed (ps.map chars) := by
    cases ps with
    | nil => rfl
    | cons t ts =>
      have hopen : "<".toList = ['<'] := rfl
      have hclose : ">".toList = ['>'] := rfl
      rw [List.isEmpty_cons, if_neg Bool.false_ne_true, String.toList_append,
        String.toList_append, toList_intercalate_texts, hopen, hclose, List.append_assoc]
      rfl
  have htext : chars (.struct a m x ps) = (text (.struct a m x ps)).toList := rfl
  rw [htext, text, String.toList_append, String.toList_append, String.toList_append,
    String.toList_append, String.toList_append, hbrackets, Address.toList_format, hcolons]
  simp only [headChars, List.append_assoc, List.cons_append, List.nil_append]

/-- The text of a tree spells it plainly. -/
theorem spells_chars {t : TypeTag} (h : t.IsPlain) : Spells t.chars t := by
  induction h with
  | primitive p => exact .primitive p
  | vector _ ih =>
    rw [chars_vector]
    exact .vector ih
  | @struct a m x ps h _ ih =>
    obtain ⟨ha, hm, hx⟩ := h
    have hlength : (Hex.encodeChars a).length = 2 * addressLength := by
      rw [Hex.length_encodeChars, ha]
    have hhead : IsHead (Hex.encodeChars a) m.toList x.toList := by
      refine ⟨?_, fun c hc => Hex.isHexDigit_of_mem_encodeChars hc, hm, hx⟩
      rw [← List.length_pos_iff, hlength]
      decide
    have hnumber : Bytes.beBytes addressLength (Address.number (Hex.encodeChars a)) = a := by
      rw [Address.number, Hex.number_encodeChars, ← ha, Bytes.beBytes_beNat]
    have hparts : ∀ p ∈ ps.map fun t => (t.chars, t), Spells p.1 p.2 := List.forall_mem_map.2 ih
    have hspells := Spells.struct hhead hlength (fun c hc => Hex.mem_of_mem_encodeChars hc) hparts
    have hfst : (ps.map fun t => (t.chars, t)).map (·.1) = ps.map chars := List.map_map
    have hsnd : (ps.map fun t => (t.chars, t)).map (·.2) = ps :=
      List.map_map.trans (List.map_id ps)
    rw [hnumber, String.ofList_toList, String.ofList_toList, hfst, hsnd] at hspells
    rw [chars_struct]
    exact hspells

/-! ## Reading -/

/-- A text between a character that is not blank and a bracket. -/
theorem isTight_closed {c : Char} (hc : isBlank c = false) (cs : List Char) :
    IsTight isBlank (c :: (cs ++ ['>'])) := by
  refine ⟨?_, ?_⟩
  · rintro d hd
    cases hd
    exact hc
  · rw [← List.cons_append, List.getLast?_concat]
    rintro d hd
    cases hd
    decide

theorem isTight_head_bracketed {digits module name : List Char}
    (hhead : IsHead digits module name) (pieces : List (List Char)) :
    IsTight isBlank (headChars digits module name ++ bracketed pieces) := by
  cases pieces with
  | nil =>
    have hnil : bracketed [] = [] := rfl
    rw [hnil, List.append_nil]
    exact isTight_of_forall fun c hc => (hhead.plain c hc).2
  | cons p pieces =>
    have hassoc : headChars digits module name ++ bracketed (p :: pieces) =
        '0' :: ((headChars digits module name).tail ++
          '<' :: [',', ' '].intercalate (p :: pieces) ++ ['>']) := by
      rw [List.append_assoc]
      rfl
    rw [hassoc]
    exact isTight_closed (by decide) _

/-- Parameters that stand on one line do so in brackets. -/
theorem newline_notMem_bracketed {pieces : List (List Char)} (h : ∀ p ∈ pieces, '\n' ∉ p) :
    '\n' ∉ bracketed pieces := by
  cases pieces with
  | nil => exact List.not_mem_nil
  | cons p pieces =>
    obtain ⟨hp, hpieces⟩ := List.forall_mem_cons.1 h
    have hopen : '\n' ≠ '<' := by decide
    have hclose : '\n' ∉ ['>'] := by decide
    have hcommas : '\n' ∉ commas (p :: pieces.map (' ' :: ·)) := by
      intro hc
      rcases mem_commas hc with hcomma | ⟨q, hq, hc⟩
      · exact absurd hcomma (by decide)
      · rcases List.mem_cons.1 hq with heq | hq
        · exact hp (heq ▸ hc)
        · obtain ⟨r, hr, rfl⟩ := List.mem_map.1 hq
          exact hpieces r hr (List.mem_of_ne_of_mem (by decide) hc)
    rw [bracketed_cons, List.mem_cons, List.mem_append]
    rintro (hc | hc | hc)
    · exact hopen hc
    · exact hcommas hc
    · exact hclose hc

/-- Each piece but the first stands behind a blank. -/
theorem parameterList_bracketed {piece : List Char} {pieces : List (List Char)}
    (h : ∀ p ∈ piece :: pieces, '\n' ∉ p) :
    ParameterList (bracketed (piece :: pieces)) (piece :: pieces.map (' ' :: ·)) := by
  have hline := newline_notMem_bracketed h
  rw [bracketed_cons] at hline ⊢
  refine .around (List.cons_ne_nil _ _) fun hc => hline ?_
  exact List.mem_cons_of_mem _ (List.mem_append_left _ hc)

/-- A plain spelling stands on one line. -/
theorem Spells.newline_notMem {cs : List Char} {t : TypeTag} (h : Spells cs t) : '\n' ∉ cs := by
  have hplain : ∀ {bs : List Char}, (∀ c ∈ bs, isBlank c = false) → '\n' ∉ bs :=
    fun hbs hc => by cases hbs _ hc
  induction h with
  | primitive p => exact hplain fun c hc => (plain_of_isWord (isWord_of_mem_name p c hc)).2
  | vector _ ih =>
    rw [List.mem_append, List.mem_append]
    rintro (hc | hc | hc)
    · exact absurd hc (by decide)
    · exact ih hc
    · exact absurd hc (by decide)
  | struct hhead _ _ _ ih =>
    rw [List.mem_append, not_or]
    exact ⟨hplain fun c hc => (hhead.plain c hc).2,
      newline_notMem_bracketed (List.forall_mem_map.2 ih)⟩

/-- What is spelled plainly is in the grammar. -/
theorem Spells.denotes {cs : List Char} {t : TypeTag} (h : Spells cs t) : Denotes cs t := by
  induction h with
  | primitive p =>
    exact .primitive (trim_eq_self (isTight_of_forall fun c hc =>
      (plain_of_isWord (isWord_of_mem_name p c hc)).2))
  | @vector cs t _ ih =>
    have htight : IsTight isBlank ('v' :: ("ector<".toList ++ cs ++ ['>'])) :=
      isTight_closed (by decide) _
    rw [List.append_assoc] at htight
    exact .vector (trim_eq_self htight) ih
  | @struct digits module name parts hhead hlength _ hparts ih =>
    have htrim := trim_eq_self (isTight_head_bracketed hhead (parts.map (·.1)))
    cases parts with
    | nil => exact .struct htrim hhead (Nat.le_of_eq hlength) .absent (List.forall_mem_nil _)
    | cons p parts =>
      obtain ⟨hp, hps⟩ := List.forall_mem_cons.1 ih
      have hblanks : ∀ q ∈ p :: parts.map fun q => (' ' :: q.1, q.2), Denotes q.1 q.2 :=
        List.forall_mem_cons.2 ⟨hp, List.forall_mem_map.2 fun q hq =>
          (hps q hq).of_trim_eq (trim_cons (by decide))⟩
      have hlines : ∀ q ∈ (p :: parts).map (·.1), '\n' ∉ q :=
        List.forall_mem_map.2 fun q hq => (hparts q hq).newline_notMem
      have hlist : ParameterList (bracketed ((p :: parts).map (·.1)))
          ((p :: parts.map fun q => (' ' :: q.1, q.2)).map (·.1)) := by
        rw [List.map_cons, List.map_cons, List.map_map]
        have hbracketed := parameterList_bracketed hlines
        rw [List.map_map] at hbracketed
        exact hbracketed
      have hdenotes := Denotes.struct htrim hhead (Nat.le_of_eq hlength) hlist hblanks
      simp only [List.map_cons, List.map_map] at hdenotes
      exact hdenotes

/-- The plain spelling of a tree is read as the tree. -/
theorem parse_text {b : Budget} {t : TypeTag} (h : t.IsPlain) (hfits : t.FitsIn b) :
    parse b t.text = .ok t :=
  parse_eq_ok_iff.2 ⟨(spells_chars h).denotes, hfits⟩

/-- Every tree that a text stands for can be spelled. -/
theorem Denotes.isPlain {cs : List Char} {t : TypeTag} (h : Denotes cs t) : t.IsPlain := by
  induction h with
  | primitive => exact .primitive _
  | vector _ _ ih => exact .vector ih
  | struct _ hhead _ _ _ ih =>
    refine .struct ⟨Bytes.length_beBytes _ _, ?_, ?_⟩ (List.forall_mem_map.2 ih)
    · rw [String.toList_ofList]
      exact hhead.module
    · rw [String.toList_ofList]
      exact hhead.name

/-- Every tree that is read from a text can be spelled. -/
theorem isPlain_of_parse {b : Budget} {s : String} {t : TypeTag} (h : parse b s = .ok t) :
    t.IsPlain :=
  (parse_eq_ok_iff.1 h).1.isPlain

theorem fitsIn_of_parse {b : Budget} {s : String} {t : TypeTag} (h : parse b s = .ok t) :
    t.FitsIn b :=
  (parse_eq_ok_iff.1 h).2

end Signatory.Sui.TypeTag
