import Mathlib.Data.List.Infix
import Signatory.Proofs.Sui.TagScan

/-!
# Where parameters are cut apart

1. `cut_append`: no cut is made in a text whose commas all stand in brackets. Behind it the depth
   has changed by the brackets that the text leaves open.
2. `cut_eq_iff`: any text, with its brackets in order or not, is cut at the commas outside brackets
   and nowhere else.
3. `splitParameters_texts`: so texts with their brackets in order are found again between the commas
   that join them, and no character of any text is lost or doubled.
-/

namespace Signatory.Sui.TypeTag

open Text

variable {d : Int} {c : Char} {cs : List Char} {pieces : List (List Char)}

/-! ## Open brackets -/

/-- How many brackets a text leaves open; below zero if it closes more than it opens. -/
def openBrackets (cs : List Char) : Int :=
  cs.count '<' - cs.count '>'

theorem openBrackets_append (cs ds : List Char) :
    openBrackets (cs ++ ds) = openBrackets cs + openBrackets ds := by
  unfold openBrackets
  rw [List.count_append, List.count_append]
  omega

theorem openBrackets_cons (c : Char) (cs : List Char) :
    openBrackets (c :: cs) = openBrackets [c] + openBrackets cs :=
  openBrackets_append [c] cs

/-- With `d` brackets open in front of a text, no comma in it stands where as many brackets are
closed as opened. -/
def Encloses (d : Int) (cs : List Char) : Prop :=
  ∀ front, front ++ [','] <+: cs → d + openBrackets front ≠ 0

theorem encloses_nil (d : Int) : Encloses d [] := by
  intro front h
  simp at h

theorem encloses_cons_iff :
    Encloses d (c :: cs) ↔ ¬ (c = ',' ∧ d = 0) ∧ Encloses (d + openBrackets [c]) cs := by
  constructor
  · intro h
    constructor
    · rintro ⟨rfl, rfl⟩
      exact h [] (List.prefix_append [','] cs) rfl
    · intro front hfront
      have hopen := h (c :: front) (List.cons_prefix_cons.2 ⟨rfl, hfront⟩)
      rw [openBrackets_cons] at hopen
      omega
  · rintro ⟨hc, hcs⟩ front hfront
    cases front with
    | nil =>
      obtain ⟨rfl, -⟩ := List.cons_prefix_cons.1 hfront
      intro hzero
      exact hc ⟨rfl, (Int.add_zero d).symm.trans hzero⟩
    | cons b front =>
      obtain ⟨rfl, hrest⟩ := List.cons_prefix_cons.1 hfront
      have hopen := hcs front hrest
      rw [openBrackets_cons]
      omega

theorem encloses_concat_iff :
    Encloses d (cs ++ [c]) ↔ Encloses d cs ∧ ¬ (c = ',' ∧ d + openBrackets cs = 0) := by
  induction cs generalizing d with
  | nil =>
    have hzero : d + openBrackets [] = d := Int.add_zero d
    rw [List.nil_append, encloses_cons_iff, hzero]
    simp [encloses_nil]
  | cons b cs ih =>
    rw [List.cons_append, encloses_cons_iff, encloses_cons_iff, ih, and_assoc,
      openBrackets_cons b cs, Int.add_assoc]

theorem all_inits_iff : (cs.inits.all fun front =>
    decide (front ++ [','] <+: cs → d + openBrackets front ≠ 0)) = true ↔ Encloses d cs := by
  simp only [List.all_eq_true, decide_eq_true_eq, List.mem_inits]
  constructor
  · intro h front hfront
    exact h front ((List.prefix_append front [',']).trans hfront) hfront
  · exact fun h front _ => h front

instance (d : Int) (cs : List Char) : Decidable (Encloses d cs) :=
  decidable_of_iff _ all_inits_iff

/-! ## One character, and texts without a cut -/

/-- One character of the cut: a comma outside brackets ends the piece, and any other character goes
to it. -/
theorem cut_cons (d : Int) (piece : List Char) (c : Char) (cs : List Char) :
    cut d piece (c :: cs) =
      if c = ',' ∧ d = 0 then piece.reverse :: cut 0 [] cs
      else cut (d + openBrackets [c]) (c :: piece) cs := by
  by_cases hopen : c = '<'
  · subst hopen
    simp [cut, openBrackets]
  · by_cases hclose : c = '>'
    · subst hclose
      simp [cut, openBrackets, Int.sub_eq_add_neg]
    · have hnone : openBrackets [c] = 0 := by
        simp [openBrackets, hopen, hclose]
      rw [cut, if_neg hopen, if_neg hclose, hnone, Int.add_zero]

theorem cut_append (h : Encloses d cs) (piece rest : List Char) :
    cut d piece (cs ++ rest) = cut (d + openBrackets cs) (cs.reverse ++ piece) rest := by
  induction cs generalizing d piece with
  | nil => simp [openBrackets]
  | cons c cs ih =>
    obtain ⟨hc, hcs⟩ := encloses_cons_iff.1 h
    rw [List.cons_append, cut_cons, if_neg hc, ih hcs, openBrackets_cons c cs, Int.add_assoc,
      List.reverse_cons, List.append_assoc]
    rfl

/-! ## All cuts of a text -/

/-- A text is cut into pieces at commas. In no piece does a comma stand outside brackets, and where
a cut is made no bracket is open. -/
inductive CutsInto : (cs : List Char) → (pieces : List (List Char)) → Prop
  | last {cs : List Char} (h : Encloses 0 cs) : CutsInto cs [cs]
  | comma {cs rest : List Char} {pieces : List (List Char)} (h : Encloses 0 cs)
      (hclosed : openBrackets cs = 0) (hrest : CutsInto rest pieces) :
    CutsInto (cs ++ ',' :: rest) (cs :: pieces)

theorem CutsInto.cut_eq (h : CutsInto cs pieces) : cut 0 [] cs = pieces := by
  induction h with
  | @last cs h =>
    have hcut := cut_append h [] []
    simpa [cut] using hcut
  | comma h hclosed _ ih =>
    rw [cut_append h, hclosed, cut_cons, if_pos ⟨rfl, rfl⟩, ih, List.append_nil,
      List.reverse_reverse]

/-- The invariant of the cut: the characters since the last cut hold no comma outside brackets, and
the depth is what they leave open. -/
theorem cutsInto_cut {piece : List Char} (cs : List Char) (h : Encloses 0 piece.reverse) :
    CutsInto (piece.reverse ++ cs) (cut (openBrackets piece.reverse) piece cs) := by
  induction cs generalizing piece with
  | nil =>
    rw [List.append_nil]
    exact .last h
  | cons c cs ih =>
    rw [cut_cons]
    by_cases hcut : c = ',' ∧ openBrackets piece.reverse = 0
    · rw [if_pos hcut]
      obtain ⟨rfl, hclosed⟩ := hcut
      have hnext : Encloses 0 [].reverse := encloses_nil 0
      exact .comma h hclosed (ih hnext)
    · have hpiece : Encloses 0 (c :: piece).reverse := by
        rw [List.reverse_cons, encloses_concat_iff, Int.zero_add]
        exact ⟨h, hcut⟩
      have hrest := ih hpiece
      rw [List.reverse_cons, openBrackets_append, List.append_assoc] at hrest
      rw [if_neg hcut]
      exact hrest

/-- A text is cut at its commas outside brackets and nowhere else. -/
theorem cut_eq_iff : cut 0 [] cs = pieces ↔ CutsInto cs pieces := by
  constructor
  · rintro rfl
    have hstart : Encloses 0 [].reverse := encloses_nil 0
    exact cutsInto_cut cs hstart
  · exact CutsInto.cut_eq

/-! ## Parameters -/

/-- A text that can be a parameter. It has no blank at its ends, closes no bracket before it opens
it, leaves none open, and has no comma outside brackets. -/
structure IsParameter (cs : List Char) : Prop where
  tight : IsTight isBlank cs
  opened : ∀ front, front <+: cs → 0 ≤ openBrackets front
  closed : openBrackets cs = 0
  encloses : Encloses 0 cs

/-- Trimming changes nothing, and the brackets can be counted behind each front of the text. -/
theorem trim_and_all_inits_iff : (trim isBlank cs = cs ∧
    (cs.inits.all fun front => decide (0 ≤ openBrackets front)) = true ∧
      openBrackets cs = 0 ∧ Encloses 0 cs) ↔ IsParameter cs := by
  simp only [List.all_eq_true, decide_eq_true_eq, List.mem_inits]
  constructor
  · rintro ⟨htrim, hopened, hclosed, hencloses⟩
    exact ⟨htrim ▸ isTight_trim cs, hopened, hclosed, hencloses⟩
  · rintro ⟨htight, hopened, hclosed, hencloses⟩
    exact ⟨trim_eq_self htight, hopened, hclosed, hencloses⟩

instance (cs : List Char) : Decidable (IsParameter cs) :=
  decidable_of_iff _ trim_and_all_inits_iff

/-- The cut passes over a parameter, whatever brackets are open. -/
theorem IsParameter.skips (h : IsParameter cs) : Skips 0 cs := by
  intro depth piece rest hdepth
  have hencloses : Encloses depth cs := by
    intro front hfront
    have hopened := h.opened front ((List.prefix_append front [',']).trans hfront)
    have houtside := h.encloses front hfront
    omega
  rw [cut_append hencloses, h.closed, Int.add_zero]

/-- Parameters with blanks around them and commas between them are found again. The pieces of any
text, before the blanks are dropped, are the text again with commas between them: it is cut at its
commas outside brackets and nowhere else. -/
theorem splitParameters_texts :
    (∀ parts : List (List Char × String), parts ≠ [] →
      (∀ p ∈ parts, IsParameter p.1 ∧ IsPadded p.1 p.2) →
        splitParameters (commas (parts.map (·.2.toList))) = parts.map (·.1)) ∧
    ∀ cs, splitParameters cs = (cut 0 [] cs).map (trim isBlank) ∧ commas (cut 0 [] cs) = cs ∧
      ∀ pieces, cut 0 [] cs = pieces ↔ CutsInto cs pieces := by
  refine ⟨fun parts hne hparts => ?_,
    fun cs => ⟨rfl, commas_cut 0 [] cs, fun pieces => cut_eq_iff⟩⟩
  have htrim : ∀ p ∈ parts, trim isBlank p.2.toList = p.1 := by
    intro p hp
    obtain ⟨hparameter, hpadded⟩ := hparts p hp
    exact hpadded.trim_eq hparameter.tight
  have hskips : ∀ p ∈ parts, Skips 0 p.2.toList := by
    intro p hp
    apply Skips.of_trim
    rw [htrim p hp]
    exact (hparts p hp).1.skips
  have hpieces : parts.map (·.2.toList) ≠ [] := fun hnil => hne (List.map_eq_nil_iff.1 hnil)
  rw [splitParameters_commas hpieces (List.forall_mem_map.2 hskips), List.map_map]
  exact List.map_congr_left htrim

/-- Three parameters, each with its blanks: one with commas of its own, an empty one, and a plain
one. -/
def paddedParts : List (List Char × String) :=
  [("0x2::m::S<u8, vector<u16>>".toList, "\n0x2::m::S<u8, vector<u16>> "), ([], " "),
    ("bool".toList, "bool")]

/-- A text that closes a bracket too early and opens it again. -/
def crossedText : List Char := "u8>,u16<,u32".toList

theorem splitParameters_texts_crossed :
    (∀ p ∈ paddedParts, IsParameter p.1 ∧ IsPadded p.1 p.2) ∧
      splitParameters "\n0x2::m::S<u8, vector<u16>> , ,bool".toList =
        ["0x2::m::S<u8, vector<u16>>".toList, [], "bool".toList] ∧
    splitParameters crossedText = ["u8>,u16<".toList, "u32".toList] ∧
      commas (cut 0 [] crossedText) = crossedText ∧
        CutsInto crossedText ["u8>,u16<".toList, "u32".toList] := by
  have hall : (paddedParts.all fun p =>
      decide (IsParameter p.1) && trim isBlank p.2.toList == p.1) = true := by decide +kernel
  have hparts : ∀ p ∈ paddedParts, IsParameter p.1 ∧ IsPadded p.1 p.2 := by
    intro p hp
    have hboth := List.all_eq_true.1 hall p hp
    rw [Bool.and_eq_true, decide_eq_true_eq, beq_iff_eq] at hboth
    obtain ⟨hparameter, htrim⟩ := hboth
    exact ⟨hparameter, htrim ▸ exists_trim isBlank p.2.toList⟩
  obtain ⟨hfound, hcut⟩ := splitParameters_texts
  obtain ⟨hsplit, hjoined, hpieces⟩ := hcut crossedText
  have hcrossed : cut 0 [] crossedText = ["u8>,u16<".toList, "u32".toList] := by decide +kernel
  refine ⟨hparts, ?_, ?_, hjoined, (hpieces _).1 hcrossed⟩
  · exact hfound paddedParts (List.cons_ne_nil _ _) hparts
  · rw [hsplit, hcrossed]
    decide +kernel

end Signatory.Sui.TypeTag
