import Signatory.Proofs.Outcome
import Signatory.Proofs.Sui.AddressText
import Signatory.Proofs.Sui.TagScan
import Signatory.Proofs.Sui.TagTree

/-!
# The grammar of type tags

1. `Denotes`: which texts stand for which trees. The grammar takes a text apart at any commas that
   leave tags between them; it counts no brackets.
2. `parse_eq_ok_iff`: the reader of texts takes exactly these texts, as far as their trees have
   room. It cuts parameters at commas outside brackets, and goes wrong at none of them because a
   text that stands for a tree closes the brackets it opens (`Denotes.skips`).
3. `parse_of_not_fitsIn`, `failsIn_parse`: a text whose tree has no room is given up; any other text
   is refused for what it is, unless it is long enough to be given up.
-/

namespace Signatory.Sui.TypeTag

open Text
open Outcome (FailsIn failsIn_ok failsIn_error)

/-! ## Grammar -/

/-- What may stand behind the name of a struct: nothing, empty brackets, or texts with commas
between them, on one line. -/
inductive ParameterList : (cs : List Char) → (pieces : List (List Char)) → Prop
  | absent : ParameterList [] []
  | empty : ParameterList ['<', '>'] []
  | around {pieces : List (List Char)} (hne : pieces ≠ []) (hline : '\n' ∉ commas pieces) :
    ParameterList ('<' :: (commas pieces ++ ['>'])) pieces

/-- A text stands for a tree. Blanks around the text do not matter. -/
inductive Denotes : List Char → TypeTag → Prop
  | primitive {cs : List Char} {p : Primitive} (h : trim isBlank cs = p.name.toList) :
    Denotes cs (.primitive p)
  | vector {cs inner : List Char} {t : TypeTag}
      (h : trim isBlank cs = "vector<".toList ++ (inner ++ ['>'])) (ht : Denotes inner t) :
    Denotes cs (.vector t)
  | struct {cs digits module name tail : List Char} {parts : List (List Char × TypeTag)}
      (h : trim isBlank cs = headChars digits module name ++ tail)
      (hhead : IsHead digits module name) (hsize : digits.length ≤ 2 * addressLength)
      (htail : ParameterList tail (parts.map (·.1))) (hparts : ∀ p ∈ parts, Denotes p.1 p.2) :
    Denotes cs (.struct (Bytes.beBytes addressLength (Address.number digits))
      (String.ofList module) (String.ofList name) (parts.map (·.2)))

theorem Denotes.of_trim_eq {cs ds : List Char} {t : TypeTag} (h : Denotes cs t)
    (htrim : trim isBlank ds = trim isBlank cs) : Denotes ds t := by
  cases h with
  | primitive h => exact .primitive (htrim.trans h)
  | vector h ht => exact .vector (htrim.trans h) ht
  | struct h hhead hsize htail hparts =>
    exact .struct (htrim.trans h) hhead hsize htail hparts

/-- The empty text stands for nothing. -/
theorem Denotes.ne_nil {cs : List Char} {t : TypeTag} (h : Denotes cs t) : cs ≠ [] := by
  rintro rfl
  have htrim : trim isBlank [] = [] := rfl
  cases h with
  | @primitive _ p h =>
    rw [htrim] at h
    cases p <;> cases h
  | vector h => cases htrim.symm.trans h
  | struct h => cases htrim.symm.trans h

theorem ParameterList.skips {cs : List Char} {pieces : List (List Char)}
    (h : ParameterList cs pieces) (hpieces : ∀ p ∈ pieces, Skips 0 p) : Skips 0 cs := by
  cases h with
  | absent => exact Skips.nil 0
  | empty => exact Skips.brackets (Skips.nil (0 + 1))
  | around => exact Skips.brackets (skips_commas hpieces)

/-- A text that stands for a tree closes the brackets it opens. -/
theorem Denotes.skips {cs : List Char} {t : TypeTag} (h : Denotes cs t) : Skips 0 cs := by
  induction h with
  | @primitive cs p h =>
    refine Skips.of_trim ?_
    rw [h]
    exact Skips.of_forall fun c hc => (plain_of_isWord (isWord_of_mem_name p c hc)).1
  | @vector cs inner t h _ ih =>
    have hwords : "vector".toList.all isWord = true := by decide
    have hvector : Skips 0 "vector".toList :=
      Skips.of_forall fun c hc => (plain_of_isWord (List.all_eq_true.1 hwords c hc)).1
    refine Skips.of_trim ?_
    rw [h]
    exact hvector.append (Skips.brackets (ih.mono (by decide)))
  | @struct cs digits module name tail parts h hhead _ htail _ ih =>
    refine Skips.of_trim ?_
    rw [h]
    exact hhead.skips.append (htail.skips (List.forall_mem_map.2 ih))

/-! ## Reading -/

/-- The brackets that the scanner takes hold texts with commas between them. -/
theorem Brackets.exists_pieces {cs : List Char} {ps : List (List Char)} (h : Brackets cs ps) :
    ∃ pieces, ParameterList cs pieces ∧ ps = pieces.map (trim isBlank) := by
  cases h with
  | absent => exact ⟨[], .absent, rfl⟩
  | empty => exact ⟨[], .empty, rfl⟩
  | @around inner hne hline =>
    have hcut : commas (cut 0 [] inner) = inner := commas_cut 0 [] inner
    have hlist := ParameterList.around (cut_ne_nil 0 [] inner) (by rwa [hcut])
    rw [hcut] at hlist
    exact ⟨cut 0 [] inner, hlist, rfl⟩

/-- Texts in brackets are what the scanner takes, if the cut passes over each of them. -/
theorem ParameterList.brackets {cs : List Char} {pieces : List (List Char)}
    (h : ParameterList cs pieces) (hskips : ∀ p ∈ pieces, Skips 0 p)
    (hpieces : ∀ p ∈ pieces, p ≠ []) : Brackets cs (pieces.map (trim isBlank)) := by
  cases h with
  | absent => exact .absent
  | empty => exact .empty
  | around hne hline =>
    rw [← splitParameters_commas hne hskips]
    refine .around (fun hnil => ?_) hline
    obtain ⟨p, pieces, rfl⟩ := List.exists_cons_of_ne_nil hne
    have hinfix := isInfix_commas (p :: pieces) p List.mem_cons_self
    rw [hnil] at hinfix
    exact hpieces p List.mem_cons_self (List.infix_nil.1 hinfix)

/-- A piece is part of the list that it stands in. -/
theorem ParameterList.isInfix {cs : List Char} {pieces : List (List Char)}
    (h : ParameterList cs pieces) : ∀ p ∈ pieces, p <:+: cs := by
  cases h with
  | absent => exact List.forall_mem_nil _
  | empty => exact List.forall_mem_nil _
  | around =>
    exact fun p hp => (isInfix_commas _ p hp).trans ⟨['<'], ['>'], rfl⟩

section Budget

variable {b : Budget}

/-- The calls that come before a text is looked at take their room, if there is enough. -/
theorem parseWithin_cases (b : Budget) (room : Nat) : ∀ waiting : Nat,
    (room ≤ waiting ∧ ∀ cs, parseWithin b room waiting cs = .error .nestedTooDeep) ∨
      ∃ k, room = k + 1 + waiting ∧
        ∀ cs, parseWithin b room waiting cs = parseWithin b (k + 1) 0 cs := by
  induction room with
  | zero => exact fun waiting => .inl ⟨Nat.zero_le _, fun _ => rfl⟩
  | succ n ih =>
    intro waiting
    cases waiting with
    | zero => exact .inr ⟨n, rfl, fun _ => rfl⟩
    | succ waiting =>
      rcases ih waiting with ⟨hle, herror⟩ | ⟨k, rfl, heq⟩
      · exact .inl ⟨Nat.succ_le_succ hle, herror⟩
      · exact .inr ⟨k, rfl, heq⟩

/-- What the reader takes is in the grammar. -/
theorem denotes_of_parseWithin (room : Nat) : ∀ {waiting : Nat} {cs : List Char} {t : TypeTag},
    parseWithin b room waiting cs = .ok t → Denotes cs t := by
  induction room with
  | zero =>
    intro waiting cs t h
    cases h
  | succ n ih =>
    intro waiting cs t h
    cases waiting with
    | succ waiting => exact ih h
    | zero =>
      rw [parseWithin] at h
      split at h
      · rename_i p hp
        cases h
        exact .primitive (eq_name_of_ofName? hp)
      · split at h
        · rename_i inner hinner
          obtain ⟨t', ht', rfl⟩ := Outcome.map_eq_ok_iff.1 h
          exact .vector (between?_eq_some_iff.1 hinner) (ih ht')
        · split at h
          · cases h
          · rename_i st hst
            obtain ⟨tail, hcs, hhead, hbrackets⟩ := structText?_eq_some_iff.1 hst
            obtain ⟨pieces, htail, hpieces⟩ := hbrackets.exists_pieces
            obtain ⟨a, ha, h⟩ := Outcome.bind_eq_ok_iff.1 h
            obtain ⟨ps, hps, h⟩ := Outcome.bind_eq_ok_iff.1 h
            cases h
            rw [Address.parse_marked hhead.nonempty hhead.digits] at ha
            split at ha
            · rename_i hsize
              cases ha
              rw [hpieces, List.mapM_map] at hps
              obtain ⟨parts, rfl, rfl, hparts⟩ := Outcome.mapM_eq_ok_iff.1 hps
              exact .struct hcs hhead hsize htail fun p hp =>
                (ih (hparts p hp)).of_trim_eq (trim_trim p.1).symm
            · cases ha

theorem parseWithin_trim (room waiting : Nat) (cs : List Char) :
    parseWithin b room waiting (trim isBlank cs) = parseWithin b room waiting cs := by
  rcases parseWithin_cases b room waiting with ⟨-, herror⟩ | ⟨k, rfl, heq⟩
  · rw [herror, herror]
  · rw [heq, heq, parseWithin, parseWithin, trim_trim]

/-- What is in the grammar is taken by the reader if it has room for the tree, and given up
otherwise. -/
theorem parseWithin_of_denotes {cs : List Char} {t : TypeTag} (h : Denotes cs t) :
    ∀ {room waiting : Nat},
      (waiting + t.calls b ≤ room → parseWithin b room waiting cs = .ok t) ∧
        (room < waiting + t.calls b →
          parseWithin b room waiting cs = .error .nestedTooDeep) := by
  induction h with
  | @primitive cs p h =>
    intro room waiting
    rw [calls]
    rcases parseWithin_cases b room waiting with ⟨hle, herror⟩ | ⟨k, rfl, heq⟩
    · exact ⟨fun hroom => by omega, fun _ => herror cs⟩
    · refine ⟨fun _ => ?_, fun hroom => by omega⟩
      rw [heq, parseWithin, h, String.ofList_toList, ofName?_name]
  | @vector cs inner t h _ ih =>
    intro room waiting
    rw [calls]
    rcases parseWithin_cases b room waiting with ⟨hle, herror⟩ | ⟨k, rfl, heq⟩
    · exact ⟨fun hroom => by omega, fun _ => herror cs⟩
    · have hopen : '<' ∈ "vector<".toList ++ (inner ++ ['>']) :=
        List.mem_append_left _ (by decide)
      have hstep : parseWithin b (k + 1) 0 cs = vector <$> parseWithin b k b.vector inner := by
        rw [parseWithin, h, ofName?_eq_none hopen (by decide)]
        dsimp only
        rw [between?_eq_some_iff.2 rfl]
      rw [heq, hstep]
      constructor
      · intro hroom
        rw [ih.1 (by omega)]
        rfl
      · intro hroom
        rw [ih.2 (by omega)]
        rfl
  | @struct cs digits module name tail parts h hhead hsize htail hparts ih =>
    intro room waiting
    rw [calls]
    rcases parseWithin_cases b room waiting with ⟨hle, herror⟩ | ⟨k, rfl, heq⟩
    · exact ⟨fun hroom => by omega, fun _ => herror cs⟩
    · have hlist := htail.brackets (List.forall_mem_map.2 fun p hp => (hparts p hp).skips)
        (List.forall_mem_map.2 fun p hp => (hparts p hp).ne_nil)
      have hst : structText? (headChars digits module name ++ tail) =
          some ⟨digits, module, name, (parts.map (·.1)).map (trim isBlank)⟩ :=
        structText?_eq_some_iff.2 ⟨tail, rfl, hhead, hlist⟩
      have hcolon : ':' ∈ headChars digits module name ++ tail := by
        simp [headChars]
      have hvector : between? "vector<".toList '>' (headChars digits module name ++ tail) = none :=
        if_neg fun h => Bool.false_ne_true h.1
      have hstep : parseWithin b (k + 1) 0 cs =
          parts.mapM (fun p => parseWithin b k b.struct p.1) >>= fun ps =>
            .ok (.struct (Bytes.beBytes addressLength (Address.number digits))
              (String.ofList module) (String.ofList name) ps) := by
        rw [parseWithin, h, ofName?_eq_none hcolon (by decide)]
        dsimp only
        rw [hvector]
        dsimp only
        rw [hst]
        dsimp only
        rw [Address.parse_marked hhead.nonempty hhead.digits, if_pos hsize, List.mapM_map,
          List.mapM_map]
        simp only [Function.comp_def, parseWithin_trim]
        rfl
      rw [heq, hstep]
      constructor
      · intro hroom
        have hps : partCalls b (parts.map (·.2)) ≤ k := by omega
        have hfit := List.forall_mem_map.1 (partCalls_le_iff.1 hps)
        rw [Outcome.mapM_eq_ok (g := (·.2)) fun p hp => (ih p hp).1 (hfit p hp)]
        rfl
      · intro hroom
        have hps : ¬ partCalls b (parts.map (·.2)) ≤ k := by omega
        rw [partCalls_le_iff, List.forall_mem_map] at hps
        obtain ⟨p, hp, hdeep⟩ : ∃ p ∈ parts, k < b.struct + p.2.calls b :=
          Classical.byContradiction fun hnone =>
            hps fun p hp => Nat.not_lt.1 fun hdeep => hnone ⟨p, hp, hdeep⟩
        rw [Outcome.mapM_eq_error (e := .nestedTooDeep) (fun q hq => ?_)
          ⟨p, hp, (ih p hp).2 hdeep⟩]
        · rfl
        · by_cases hq' : b.struct + q.2.calls b ≤ k
          · exact .inl ⟨q.2, (ih q hq).1 hq'⟩
          · exact .inr ((ih q hq).2 (by omega))

/-- The reader of texts takes exactly the texts in the grammar whose trees have room. -/
theorem parse_eq_ok_iff {s : String} {t : TypeTag} :
    parse b s = .ok t ↔ Denotes s.toList t ∧ t.FitsIn b := by
  unfold FitsIn
  constructor
  · intro h
    have hdenotes := denotes_of_parseWithin _ h
    refine ⟨hdenotes, Nat.not_lt.1 fun hdeep => ?_⟩
    cases h.symm.trans ((parseWithin_of_denotes hdenotes).2 (by omega))
  · rintro ⟨hdenotes, hfits⟩
    exact (parseWithin_of_denotes hdenotes).1 (by omega)

/-- A text whose tree has no room is given up. -/
theorem parse_of_not_fitsIn {s : String} {t : TypeTag} (h : Denotes s.toList t)
    (ht : ¬ t.FitsIn b) : parse b s = .error .nestedTooDeep := by
  unfold FitsIn at ht
  exact (parseWithin_of_denotes h).2 (by omega)

/-- A text stands for one tree at most. -/
theorem Denotes.unique {cs : List Char} {t u : TypeTag} (ht : Denotes cs t) (hu : Denotes cs u) :
    t = u := by
  -- Both trees are read if there is room for both.
  have htake {v : TypeTag} (hv : Denotes cs v) (hroom : v.calls ⟨0, 0, 0⟩ ≤
      max (t.calls ⟨0, 0, 0⟩) (u.calls ⟨0, 0, 0⟩)) :
      parseWithin ⟨0, 0, 0⟩ (max (t.calls ⟨0, 0, 0⟩) (u.calls ⟨0, 0, 0⟩)) 0 cs = .ok v :=
    (parseWithin_of_denotes hv).1 (by omega)
  have hparse := htake ht (Nat.le_max_left _ _)
  rw [htake hu (Nat.le_max_right _ _)] at hparse
  exact (Except.ok.inj hparse).symm

/-- A text is refused for what it is. -/
def IsTagFault (f : Failure) : Prop :=
  f.code? = some .malformedIntent ∧ f.field? = some "type_arguments"

/-- A level of nesting takes characters, so a text that is given up is long. -/
theorem failsIn_parseWithin (room : Nat) : ∀ {m waiting : Nat} {cs : List Char},
    m * (1 + max b.vector b.struct) ≤ room - waiting →
      FailsIn (fun f => IsTagFault f ∨ f = .nestedTooDeep ∧ m ≤ cs.length)
        (parseWithin b room waiting cs) := by
  induction room with
  | zero =>
    intro m waiting cs hm
    rw [Nat.zero_sub, Nat.le_zero, Nat.mul_eq_zero] at hm
    exact failsIn_error (.inr ⟨rfl, by omega⟩)
  | succ n ih =>
    intro m waiting cs hm
    cases waiting with
    | succ waiting => exact ih (by omega)
    | zero =>
      -- A nested text is shorter, and has room for one level less.
      have hlevel : (m - 1) * (1 + max b.vector b.struct) =
          m * (1 + max b.vector b.struct) - (1 + max b.vector b.struct) := by
        rw [Nat.sub_mul, Nat.one_mul]
      have htrim := (isInfix_trim isBlank cs).length_le
      rw [parseWithin]
      split
      · exact failsIn_ok _
      · split
        · rename_i inner hinner
          have hlength := congrArg List.length (between?_eq_some_iff.1 hinner)
          rw [List.length_append, List.length_append, List.length_singleton] at hlength
          refine FailsIn.map ((ih (m := m - 1) (by omega)).imp fun f hf => ?_)
          exact hf.imp_right fun h => ⟨h.1, by omega⟩
        · split
          · exact failsIn_error (.inl ⟨rfl, rfl⟩)
          · rename_i st hst
            obtain ⟨tail, hcs, hhead, hbrackets⟩ := structText?_eq_some_iff.1 hst
            obtain ⟨pieces, htail, hpieces⟩ := hbrackets.exists_pieces
            have hhead' : 0 < (headChars st.digits st.module st.name).length := Nat.succ_pos _
            have hlength := congrArg List.length hcs
            rw [List.length_append] at hlength
            have haddress : FailsIn (fun f => IsTagFault f ∨ f = .nestedTooDeep ∧ m ≤ cs.length)
                (Address.parse "type_arguments" ("0x" ++ String.ofList st.digits)) := by
              rw [Address.parse_marked hhead.nonempty hhead.digits]
              split
              · exact failsIn_ok _
              · exact failsIn_error (.inl ⟨rfl, rfl⟩)
            refine haddress.bind fun a _ => FailsIn.bind ?_ fun ps _ => failsIn_ok _
            refine FailsIn.mapM fun ds hds => ?_
            rw [hpieces] at hds
            obtain ⟨piece, hpiece, rfl⟩ := List.mem_map.1 hds
            rw [parseWithin_trim]
            have hshort := (htail.isInfix piece hpiece).length_le
            refine (ih (m := m - 1) (by omega)).imp fun f hf => ?_
            exact hf.imp_right fun h => ⟨h.1, by omega⟩

theorem failsIn_parse (s : String) :
    FailsIn (fun f => IsTagFault f ∨ f = .nestedTooDeep ∧ b.levels ≤ s.length) (parse b s) := by
  rw [← String.length_toList]
  exact failsIn_parseWithin b.calls (Nat.div_mul_le_self b.calls _)

end Budget

end Signatory.Sui.TypeTag
