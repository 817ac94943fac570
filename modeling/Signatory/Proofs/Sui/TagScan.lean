import Signatory.Proofs.Text.Characters
import Signatory.Sui.TypeTag

/-!
# What the scanners of a type tag take

For each step of reading the outside of a tag, the exact texts it takes.

1. `structText?_eq_some_iff`: the outside of a struct tag is its digits, its two names and, in
   brackets, its parameters.
2. `Skips`: text that the cut at commas passes over, because it opens and closes its own brackets
   and every comma in it stands between them.
3. `commas_cut`: no character is lost when parameters are cut apart. `splitParameters_commas`: texts
   that the cut passes over are cut apart at the commas between them and nowhere else.
-/

namespace Signatory.Sui.TypeTag

open Text

/-! ## Parts of texts -/

theorem ne_of_isWord {c d : Char} (hc : isWord c = true) (hd : isWord d = false) : c ≠ d := by
  rintro rfl
  rw [hc] at hd
  cases hd

theorem isName_iff {cs : List Char} : isName cs = true ↔ cs ≠ [] ∧ ∀ c ∈ cs, isWord c = true := by
  unfold isName
  rw [Bool.and_eq_true, Bool.not_eq_true', List.isEmpty_eq_false_iff, List.all_eq_true]

/-- A character of a name matters to no cut and to no trimming. -/
theorem plain_of_isWord {c : Char} (h : isWord c = true) :
    (c ≠ '<' ∧ c ≠ '>' ∧ c ≠ ',') ∧ isBlank c = false :=
  ⟨⟨ne_of_isWord h (by decide), ne_of_isWord h (by decide), ne_of_isWord h (by decide)⟩,
    isBlank_of_isWord h⟩

theorem isWord_of_mem_name (p : Primitive) : ∀ c ∈ p.name.toList, isWord c = true := by
  have hall : p.name.toList.all isWord = true := by
    cases p <;> decide
  exact List.all_eq_true.1 hall

theorem ofName?_name (p : Primitive) : Primitive.ofName? p.name = some p := by
  cases p <;> decide

/-- A primitive type is named with letters and digits. -/
theorem ofName?_eq_none {cs : List Char} {c : Char} (hc : c ∈ cs) (hword : isWord c = false) :
    Primitive.ofName? (String.ofList cs) = none := by
  refine List.find?_eq_none.2 fun p _ h => ?_
  have hname : p.name = String.ofList cs := beq_iff_eq.1 h
  have hmem : c ∈ p.name.toList := by
    rw [hname, String.toList_ofList]
    exact hc
  rw [isWord_of_mem_name p c hmem] at hword
  cases hword

theorem eq_name_of_ofName? {cs : List Char} {p : Primitive}
    (h : Primitive.ofName? (String.ofList cs) = some p) : cs = p.name.toList := by
  unfold Primitive.ofName? at h
  have hfound := List.find?_some h
  have hname : p.name = String.ofList cs := beq_iff_eq.1 hfound
  rw [hname, String.toList_ofList]

theorem between?_eq_some_iff {front inner cs : List Char} {back : Char} :
    between? front back cs = some inner ↔ cs = front ++ (inner ++ [back]) := by
  constructor
  · intro h
    unfold between? at h
    split at h
    · rename_i hends
      obtain ⟨rest, rfl⟩ := List.isPrefixOf_iff_prefix.1 hends.1
      have hlast := hends.2
      rw [List.drop_left] at h hlast
      rw [← Option.some.inj h, List.dropLast_append_getLast? _ hlast]
    · cases h
  · rintro rfl
    have hfront : front.isPrefixOf (front ++ (inner ++ [back])) = true :=
      List.isPrefixOf_iff_prefix.2 (List.prefix_append _ _)
    unfold between?
    rw [List.drop_left, List.getLast?_concat, if_pos ⟨hfront, rfl⟩, List.dropLast_concat]

/-- A text without colons ends at the double colon behind it. -/
theorem splitColons?_append {cs rest : List Char} (h : ∀ c ∈ cs, c ≠ ':') :
    splitColons? (cs ++ ':' :: ':' :: rest) = some (cs, rest) := by
  induction cs with
  | nil => rfl
  | cons c cs ih =>
    obtain ⟨hc, hcs⟩ := List.forall_mem_cons.1 h
    rw [List.cons_append, splitColons?, ih hcs]
    · rfl
    · exact fun _ hcolon => absurd hcolon hc

theorem eq_of_splitColons? {cs front back : List Char} (h : splitColons? cs = some (front, back)) :
    cs = front ++ ':' :: ':' :: back := by
  induction cs generalizing front with
  | nil => cases h
  | cons c cs ih =>
    unfold splitColons? at h
    split at h
    · rename_i hcs
      cases h
      exact hcs
    · rename_i hcs
      cases hcs
      obtain ⟨⟨front', back'⟩, hrest, heq⟩ := Option.map_eq_some_iff.1 h
      cases heq
      rw [ih hrest]
      rfl
    · cases h

theorem takeWhile_isName {cs rest : List Char} (h : ∀ c ∈ cs, isWord c = true)
    (hrest : ∀ c ∈ rest.head?, isWord c = false) :
    (cs ++ rest).takeWhile isWord = cs ∧ (cs ++ rest).dropWhile isWord = rest := by
  rw [List.takeWhile_append_of_pos h, List.dropWhile_append_of_pos h]
  cases rest with
  | nil => exact ⟨List.append_nil cs, rfl⟩
  | cons c rest =>
    have hc : ¬ isWord c = true := by
      rw [hrest c rfl]
      exact Bool.false_ne_true
    rw [List.takeWhile_cons_of_neg hc, List.dropWhile_cons_of_neg hc, List.append_nil]
    exact ⟨rfl, rfl⟩

theorem ne_colon_of_isName {cs : List Char} (h : isName cs = true) : ∀ c ∈ cs, c ≠ ':' :=
  fun c hc => ne_of_isWord ((isName_iff.1 h).2 c hc) (by decide)

/-! ## Cutting at commas -/

/-- Text that the cut passes over wherever at least `m` brackets are open. -/
def Skips (m : Int) (cs : List Char) : Prop :=
  ∀ depth piece rest, m ≤ depth →
    cut depth piece (cs ++ rest) = cut depth (cs.reverse ++ piece) rest

namespace Skips

theorem nil (m : Int) : Skips m [] := fun _ _ _ _ => rfl

theorem mono {m n : Int} {cs : List Char} (h : Skips m cs) (hmn : m ≤ n) : Skips n cs :=
  fun depth piece rest hd => h depth piece rest (by omega)

theorem append {m : Int} {cs ds : List Char} (hc : Skips m cs) (hd : Skips m ds) :
    Skips m (cs ++ ds) := by
  intro depth piece rest hdepth
  rw [List.append_assoc, hc _ _ _ hdepth, hd _ _ _ hdepth, List.reverse_append, List.append_assoc]

/-- A character that is no bracket, and no comma where a cut can be. -/
theorem singleton {m : Int} {c : Char} (hopen : c ≠ '<') (hclose : c ≠ '>')
    (hcomma : c ≠ ',' ∨ 0 < m) : Skips m [c] := by
  intro depth piece rest hdepth
  have hcut : ¬ (c = ',' ∧ depth = 0) := by
    rintro ⟨rfl, h0⟩
    rcases hcomma with h | h
    · exact h rfl
    · omega
  rw [List.cons_append, cut, if_neg hopen, if_neg hclose, if_neg hcut]
  rfl

theorem of_forall {m : Int} {cs : List Char} (h : ∀ c ∈ cs, c ≠ '<' ∧ c ≠ '>' ∧ c ≠ ',') :
    Skips m cs := by
  induction cs with
  | nil => exact nil m
  | cons c cs ih =>
    obtain ⟨⟨hopen, hclose, hcomma⟩, hcs⟩ := List.forall_mem_cons.1 h
    exact (singleton hopen hclose (.inl hcomma)).append (ih hcs)

theorem brackets {m : Int} {cs : List Char} (h : Skips (m + 1) cs) :
    Skips m ('<' :: (cs ++ ['>'])) := by
  intro depth piece rest hdepth
  have hclose : '>' ≠ '<' := by decide
  rw [List.cons_append, cut, if_pos rfl, List.append_assoc, h _ _ _ (by omega), List.cons_append,
    cut, if_neg hclose, if_pos rfl, Int.add_sub_cancel, List.reverse_cons, List.reverse_append]
  simp only [List.reverse_cons, List.reverse_nil, List.nil_append, List.cons_append,
    List.append_assoc]

/-- Blanks around a text do not matter to the cut. -/
theorem of_trim {cs : List Char} (h : Skips 0 (trim isBlank cs)) : Skips 0 cs := by
  have hblanks : ∀ {bs : List Char}, (∀ c ∈ bs, isBlank c = true) → Skips 0 bs := by
    intro bs hbs
    refine of_forall fun c hc => ⟨?_, ?_, ?_⟩
    all_goals
      rintro rfl
      cases hbs _ hc
  obtain ⟨front, back, hcs, hfront, hback⟩ := exists_trim isBlank cs
  rw [hcs]
  exact (hblanks hfront).append (h.append (hblanks hback))

end Skips

/-! ## The outside of a struct -/

/-- What may stand behind the name of a struct: nothing, empty brackets, or parameters on one
line. -/
inductive Brackets : (cs : List Char) → (parameters : List (List Char)) → Prop
  | absent : Brackets [] []
  | empty : Brackets ['<', '>'] []
  | around {inner : List Char} (hne : inner ≠ []) (hline : '\n' ∉ inner) :
    Brackets ('<' :: (inner ++ ['>'])) (splitParameters inner)

theorem Brackets.head? {cs : List Char} {ps : List (List Char)} (h : Brackets cs ps) :
    ∀ c ∈ cs.head?, isWord c = false := by
  cases h with
  | absent => exact fun c hc => (Option.not_mem_none c hc).elim
  | empty | around =>
    rintro c hc
    cases hc
    decide

theorem nameAndParameters?_eq_some_iff {cs x : List Char} {ps : List (List Char)} :
    nameAndParameters? cs = some (x, ps) ↔
      ∃ tail, cs = x ++ tail ∧ isName x = true ∧ Brackets tail ps := by
  constructor
  · intro h
    have hcs : cs.takeWhile isWord ++ cs.dropWhile isWord = cs := List.takeWhile_append_dropWhile
    unfold nameAndParameters? at h
    dsimp only at h
    split at h
    · cases h
    · rename_i hempty
      have hx : isName (cs.takeWhile isWord) = true :=
        isName_iff.2 ⟨fun hnil => hempty (List.isEmpty_iff.2 hnil),
          List.all_eq_true.1 List.all_takeWhile⟩
      split at h
      · rename_i hrest
        cases h
        rw [hrest] at hcs
        exact ⟨[], hcs.symm, hx, .absent⟩
      · split at h
        · rename_i hinner
          cases h
          rw [between?_eq_some_iff.1 hinner] at hcs
          exact ⟨_, hcs.symm, hx, .empty⟩
        · rename_i inner hne hinner
          split at h
          · cases h
          · rename_i hline
            cases h
            rw [between?_eq_some_iff.1 hinner] at hcs
            refine ⟨_, hcs.symm, hx, .around (fun hnil => ?_) fun hmem => ?_⟩
            · exact hne (by rw [hnil])
            · exact hline (List.contains_iff_mem.2 hmem)
        · cases h
  · rintro ⟨tail, rfl, hx, htail⟩
    obtain ⟨hne, hwords⟩ := isName_iff.1 hx
    obtain ⟨htake, hdrop⟩ := takeWhile_isName hwords htail.head?
    unfold nameAndParameters?
    dsimp only
    rw [htake, hdrop, List.isEmpty_eq_false_iff.2 hne, if_neg Bool.false_ne_true]
    cases htail with
    | absent => rfl
    | empty => rfl
    | @around inner hinner hline =>
      have hbetween : between? ['<'] '>' ('<' :: (inner ++ ['>'])) = some inner :=
        between?_eq_some_iff.2 rfl
      dsimp only
      rw [hbetween]
      split
      · rename_i hsome
        exact absurd (Option.some.inj hsome) hinner
      · rename_i hsome
        obtain rfl := Option.some.inj hsome
        rw [if_neg fun hmem => hline (List.contains_iff_mem.1 hmem)]
      · rename_i hsome
        cases hsome

/-- The address, the module and the name of a struct as they are written. -/
def headChars (digits module name : List Char) : List Char :=
  '0' :: 'x' :: (digits ++ ':' :: ':' :: (module ++ ':' :: ':' :: name))

/-- Hexadecimal digits, and names of word characters. -/
structure IsHead (digits module name : List Char) : Prop where
  nonempty : digits ≠ []
  digits : ∀ c ∈ digits, isHexDigit c = true
  module : isName module = true
  name : isName name = true

/-- A head has no brackets, no commas and no blanks. -/
theorem IsHead.plain {digits module name : List Char} (h : IsHead digits module name) :
    ∀ c ∈ headChars digits module name,
      (c ≠ '<' ∧ c ≠ '>' ∧ c ≠ ',') ∧ isBlank c = false := by
  have hcolon : (':' ≠ '<' ∧ ':' ≠ '>' ∧ ':' ≠ ',') ∧ isBlank ':' = false := by decide
  have hmodule := (isName_iff.1 h.module).2
  have hname := (isName_iff.1 h.name).2
  intro c hc
  simp only [headChars, List.mem_cons, List.mem_append] at hc
  rcases hc with rfl | rfl | hc | rfl | rfl | hc | rfl | rfl | hc
  · exact plain_of_isWord (by decide)
  · exact plain_of_isWord (by decide)
  · exact plain_of_isWord (isWord_of_isHexDigit (h.digits c hc))
  · exact hcolon
  · exact hcolon
  · exact plain_of_isWord (hmodule c hc)
  · exact hcolon
  · exact hcolon
  · exact plain_of_isWord (hname c hc)

theorem IsHead.skips {digits module name : List Char} (h : IsHead digits module name) :
    Skips 0 (headChars digits module name) :=
  Skips.of_forall fun c hc => (h.plain c hc).1

theorem structText?_eq_some_iff {cs : List Char} {t : StructText} : structText? cs = some t ↔
    ∃ tail, cs = headChars t.digits t.module t.name ++ tail ∧
      IsHead t.digits t.module t.name ∧ Brackets tail t.parameters := by
  constructor
  · intro h
    unfold structText? at h
    simp only [Option.bind_eq_bind, Option.bind_eq_some_iff] at h
    obtain ⟨⟨address, cs₁⟩, haddress, ⟨module, cs₂⟩, hmodule, ⟨name, parameters⟩, hname, h⟩ := h
    dsimp only at hmodule hname h
    obtain ⟨tail, htail, hx, hbrackets⟩ := nameAndParameters?_eq_some_iff.1 hname
    have hcs := eq_of_splitColons? haddress
    rw [eq_of_splitColons? hmodule, htail] at hcs
    split at h
    · split at h
      · rename_i hall
        cases h
        rw [Bool.and_eq_true, Bool.and_eq_true, Bool.not_eq_true'] at hall
        refine ⟨tail, ?_, ⟨List.isEmpty_eq_false_iff.1 hall.1.1, List.all_eq_true.1 hall.1.2,
          hall.2, hx⟩, hbrackets⟩
        rw [hcs]
        unfold headChars
        simp only [List.append_assoc, List.cons_append]
      · cases h
    · cases h
  · rintro ⟨tail, rfl, ⟨hne, hdigits, hmodule, hname⟩, hbrackets⟩
    have hmark : ∀ c ∈ '0' :: 'x' :: t.digits, c ≠ ':' :=
      List.forall_mem_cons.2 ⟨by decide, List.forall_mem_cons.2 ⟨by decide, fun c hc =>
        ne_of_isWord (isWord_of_isHexDigit (hdigits c hc)) (by decide)⟩⟩
    have hfirst : splitColons? (headChars t.digits t.module t.name ++ tail) =
        some ('0' :: 'x' :: t.digits, t.module ++ ':' :: ':' :: (t.name ++ tail)) := by
      rw [← splitColons?_append hmark]
      unfold headChars
      simp only [List.append_assoc, List.cons_append]
    have hsecond : splitColons? (t.module ++ ':' :: ':' :: (t.name ++ tail)) =
        some (t.module, t.name ++ tail) := splitColons?_append (ne_colon_of_isName hmodule)
    have hthird := nameAndParameters?_eq_some_iff.2 ⟨tail, rfl, hname, hbrackets⟩
    unfold structText?
    simp only [hfirst, hsecond, hthird, Option.bind_eq_bind, Option.bind_some,
      List.isEmpty_eq_false_iff.2 hne, List.all_eq_true.2 hdigits, hmodule]
    rfl

/-! ## Commas -/

/-- Texts with a comma between them. -/
abbrev commas (pieces : List (List Char)) : List Char :=
  [','].intercalate pieces

theorem commas_cons {piece : List Char} {pieces : List (List Char)} (h : pieces ≠ []) :
    commas (piece :: pieces) = piece ++ ',' :: commas pieces := by
  unfold commas
  rw [List.intercalate_cons_of_ne_nil h, List.append_assoc]
  rfl

theorem cut_ne_nil (depth : Int) (piece cs : List Char) : cut depth piece cs ≠ [] := by
  induction cs generalizing depth piece with
  | nil => exact List.cons_ne_nil _ _
  | cons c cs ih =>
    unfold cut
    split
    · exact ih _ _
    · split
      · exact ih _ _
      · split
        · exact List.cons_ne_nil _ _
        · exact ih _ _

/-- The pieces of a cut with commas between them are the text again. -/
theorem commas_cut (depth : Int) (piece cs : List Char) :
    commas (cut depth piece cs) = piece.reverse ++ cs := by
  have hstep (c : Char) (piece cs : List Char) :
      (c :: piece).reverse ++ cs = piece.reverse ++ c :: cs := by
    rw [List.reverse_cons, List.append_assoc]
    rfl
  induction cs generalizing depth piece with
  | nil => rw [cut, List.append_nil, commas, List.intercalate_singleton]
  | cons c cs ih =>
    unfold cut
    split
    · rw [ih, hstep]
    · split
      · rw [ih, hstep]
      · split
        · rename_i hcut
          rw [commas_cons (cut_ne_nil _ _ _), ih, hcut.1]
          rfl
        · rw [ih, hstep]

/-- Texts that the cut passes over are cut apart at the commas between them. -/
theorem cut_commas {pieces : List (List Char)} : ∀ {p : List Char} (piece : List Char),
    (∀ q ∈ p :: pieces, Skips 0 q) →
    cut 0 piece (commas (p :: pieces)) = (piece.reverse ++ p) :: pieces := by
  induction pieces with
  | nil =>
    intro p piece h
    have hskip := h p List.mem_cons_self 0 piece [] (Int.le_refl 0)
    rw [List.append_nil] at hskip
    rw [commas, List.intercalate_singleton, hskip, cut, List.reverse_append, List.reverse_reverse]
  | cons q pieces ih =>
    intro p piece h
    obtain ⟨hp, hpieces⟩ := List.forall_mem_cons.1 h
    have hopen : ',' ≠ '<' := by decide
    have hclose : ',' ≠ '>' := by decide
    rw [commas_cons (List.cons_ne_nil _ _), hp 0 piece _ (Int.le_refl 0), cut, if_neg hopen,
      if_neg hclose, if_pos ⟨rfl, rfl⟩, ih [] hpieces, List.reverse_append, List.reverse_reverse]
    rfl

theorem splitParameters_commas {pieces : List (List Char)} (hne : pieces ≠ [])
    (h : ∀ p ∈ pieces, Skips 0 p) :
    splitParameters (commas pieces) = pieces.map (trim isBlank) := by
  obtain ⟨p, pieces, rfl⟩ := List.exists_cons_of_ne_nil hne
  unfold splitParameters
  rw [cut_commas [] h]
  rfl

/-- Inside brackets the commas between texts are passed over too. -/
theorem skips_commas {pieces : List (List Char)} (h : ∀ p ∈ pieces, Skips 0 p) :
    Skips 1 (commas pieces) := by
  induction pieces with
  | nil => exact Skips.nil 1
  | cons p pieces ih =>
    obtain ⟨hp, hpieces⟩ := List.forall_mem_cons.1 h
    have hskips : Skips 1 p := hp.mono (by decide)
    by_cases hne : pieces = []
    · rw [hne, commas, List.intercalate_singleton]
      exact hskips
    · rw [commas_cons hne]
      have hcomma : Skips 1 [','] := Skips.singleton (by decide) (by decide) (.inr (by decide))
      exact hskips.append (hcomma.append (ih hpieces))

/-- Only commas are added to the texts. -/
theorem mem_commas {c : Char} {pieces : List (List Char)} (h : c ∈ commas pieces) :
    c = ',' ∨ ∃ p ∈ pieces, c ∈ p := by
  induction pieces with
  | nil => exact (List.not_mem_nil h).elim
  | cons p pieces ih =>
    by_cases hne : pieces = []
    · rw [hne, commas, List.intercalate_singleton] at h
      exact .inr ⟨p, List.mem_cons_self, h⟩
    · rw [commas_cons hne, List.mem_append, List.mem_cons] at h
      rcases h with h | h | h
      · exact .inr ⟨p, List.mem_cons_self, h⟩
      · exact .inl h
      · refine (ih h).imp_right ?_
        rintro ⟨q, hq, hc⟩
        exact ⟨q, List.mem_cons_of_mem p hq, hc⟩

/-- A text is part of what it is joined to. -/
theorem isInfix_commas (pieces : List (List Char)) : ∀ p ∈ pieces, p <:+: commas pieces := by
  induction pieces with
  | nil => exact List.forall_mem_nil _
  | cons p pieces ih =>
    by_cases hne : pieces = []
    · rw [hne, commas, List.intercalate_singleton]
      exact List.forall_mem_singleton.2 (List.infix_refl p)
    · rw [commas_cons hne]
      refine List.forall_mem_cons.2 ⟨(List.prefix_append _ _).isInfix, fun q hq => ?_⟩
      refine (ih q hq).trans (List.IsSuffix.isInfix ⟨p ++ [','], ?_⟩)
      rw [List.append_assoc]
      rfl

end Signatory.Sui.TypeTag
