import Signatory.Proofs.Text.Hexadecimal

/-!
# Letter case beyond ASCII

What the case mappings do to the characters that other texts are made of. The mappings are tables
of runs of code points, so whether a mapping can make a digit, a mark or a blank is a question of
ranges that lie apart.

1. `mapCase_cases`: a character stands in one of the two tables or is left alone.
2. `exists_images` says what the lower-case form of a character keeps of it. So a numeral has the
   same digits in lower case (`digitValues?_lowerFrom`), and a marked one stands for the same number
   (`hexadecimal?_lower`).
3. `upper_upper`: a text in upper case stays as it is, and no blank comes to its ends
   (`strip_upper_strip`).
-/

namespace Signatory

theorem CodePoints.holds_of_mem {ranges : CodePoints} {r : Nat × Nat} {n : Nat} (hr : r ∈ ranges)
    (h : r.1 ≤ n ∧ n ≤ r.2) : ranges.holds n = true := by
  refine List.any_eq_true.2 ⟨r, hr, ?_⟩
  rw [Bool.and_eq_true, decide_eq_true_eq, decide_eq_true_eq]
  exact h

theorem CodePoints.holds_append (xs ys : CodePoints) (n : Nat) :
    CodePoints.holds (xs ++ ys) n = (xs.holds n || ys.holds n) :=
  List.any_append

namespace Text

/-- A number that is no code point stands for the null character. -/
theorem toNat_ofNat (n : Nat) : (Char.ofNat n).toNat = n ∨ (Char.ofNat n).toNat = 0 := by
  by_cases hn : n.isValidChar
  · have hchar : Char.ofNat n = Char.ofNatAux n hn := dif_pos hn
    rw [hchar]
    exact .inl rfl
  · have hchar : Char.ofNat n = ⟨0, Or.inl (by decide)⟩ := dif_neg hn
    rw [hchar]
    exact .inr rfl

/-! ## Tables of case mappings -/

namespace CaseRun

variable {runs : List CaseRun} {r : CaseRun} {n t : Nat}

theorem map?_eq_some (h : r.map? n = some t) :
    (r.first ≤ n ∧ n ≤ r.last) ∧ (n - r.first) % r.step = 0 ∧ t = r.target + (n - r.first) := by
  unfold map? at h
  split at h
  · rename_i hn
    exact ⟨⟨hn.1, hn.2.1⟩, hn.2.2, (Option.some.inj h).symm⟩
  · cases h

/-- Ranges of the code points that runs map. -/
def sources (runs : List CaseRun) : CodePoints :=
  runs.map fun r => (r.first, r.last)

/-- Ranges of the code points that runs map to. -/
def targets (runs : List CaseRun) : CodePoints :=
  runs.map fun r => (r.target, r.target + (r.last - r.first))

theorem holds_sources (hr : r ∈ runs) (h : r.map? n = some t) :
    (sources runs).holds n = true :=
  CodePoints.holds_of_mem (List.mem_map_of_mem hr) (map?_eq_some h).1

theorem holds_targets (hr : r ∈ runs) (h : r.map? n = some t) :
    (targets runs).holds t = true := by
  obtain ⟨⟨hfirst, hlast⟩, -, ht⟩ := map?_eq_some h
  refine CodePoints.holds_of_mem (List.mem_map_of_mem hr) ?_
  dsimp only
  omega

end CaseRun

/-- A character stands in one of the two tables of a mapping, or in neither and is left alone. -/
theorem mapCase_cases (runs : List CaseRun) (sequences : List (Nat × List Nat)) (c : Char) :
    (∃ s ∈ sequences, s.1 = c.toNat ∧ mapCase runs sequences c = s.2.map Char.ofNat) ∨
      (∃ r ∈ runs, ∃ t, r.map? c.toNat = some t ∧
        mapCase runs sequences c = [Char.ofNat t]) ∨
      mapCase runs sequences c = [c] := by
  unfold mapCase
  cases hs : sequences.find? fun s => s.1 == c.toNat with
  | some s =>
    have hkey := List.find?_some hs
    exact .inl ⟨s, List.mem_of_find?_eq_some hs, beq_iff_eq.1 hkey, rfl⟩
  | none =>
    cases hr : runs.findSome? fun r => r.map? c.toNat with
    | none => exact .inr (.inr rfl)
    | some t =>
      obtain ⟨r, hmem, ht⟩ := List.exists_of_findSome?_eq_some hr
      exact .inr (.inl ⟨r, hmem, t, ht, rfl⟩)

/-! ## The code points of numerals -/

/-- The code points that numerals are made of, and those that may stand around them: digits, the
mark, underscores and white space. -/
def numeralCodePoints : CodePoints :=
  [(0x30, 0x39), (0x41, 0x46), (0x58, 0x58), (0x5f, 0x5f), (0x61, 0x66), (0x78, 0x78)] ++
    decimalZeros.map (fun z => (z, z + 9)) ++ spaceCodePoints

theorem holds_of_hexValue? {c : Char} (h : (hexValue? c).isSome = true) :
    numeralCodePoints.holds c.toNat = true := by
  have hascii : ∀ n < 128, (hexValue? (Char.ofNat n)).isSome = true →
      numeralCodePoints.holds (Char.ofNat n).toNat = true := by
    decide +kernel
  exact forall_ascii (P := fun c => (hexValue? c).isSome = true →
    numeralCodePoints.holds c.toNat = true) hascii (toNat_of_isHexDigit h) h

theorem holds_of_decimalValue? {c : Char} {v : Nat} (h : decimalValue? c = some v) :
    numeralCodePoints.holds c.toNat = true := by
  unfold decimalValue? at h
  dsimp only at h
  split at h
  · split at h
    · rename_i hdigit
      exact holds_of_hexValue? (isHexDigit_of_isDigit hdigit)
    · cases h
  · obtain ⟨z, hz, -⟩ := Option.map_eq_some_iff.1 h
    have hrange := List.find?_some hz
    rw [Bool.and_eq_true, decide_eq_true_eq, decide_eq_true_eq] at hrange
    have hmem : (z, z + 9) ∈ numeralCodePoints :=
      List.mem_append_left _ (List.mem_append_right _
        (List.mem_map_of_mem (List.mem_of_find?_eq_some hz)))
    exact CodePoints.holds_of_mem hmem ⟨hrange.1, Nat.le_of_lt_succ hrange.2⟩

/-- A character that does not belong to numerals. -/
theorem of_holds_eq_false {c : Char} (h : numeralCodePoints.holds c.toNat = false) :
    hexNumeralValue? c = none ∧ c ≠ '_' ∧ c ≠ '0' ∧ c ≠ 'x' ∧ c ≠ 'X' ∧ isSpace c = false := by
  have hne : ∀ d : Char, numeralCodePoints.holds d.toNat = true → c ≠ d := by
    rintro d hd rfl
    rw [h] at hd
    cases hd
  refine ⟨?_, hne _ (by decide), hne _ (by decide), hne _ (by decide), hne _ (by decide), ?_⟩
  · unfold hexNumeralValue?
    cases hdecimal : decimalValue? c with
    | some v =>
      rw [holds_of_decimalValue? hdecimal] at h
      cases h
    | none =>
      dsimp only
      rw [Option.eq_none_iff_forall_ne_some]
      intro v hv
      rw [holds_of_hexValue? (Option.isSome_iff_exists.2 ⟨v, hv⟩)] at h
      cases h
  · rw [Bool.eq_false_iff]
    intro hspace
    unfold numeralCodePoints at h
    rw [CodePoints.holds_append, Bool.or_eq_false_iff] at h
    exact absurd hspace (Bool.eq_false_iff.1 h.2)

/-! ## Lower case -/

/-- What the lower-case form of a character keeps of it. Only a character that does not belong to
numerals becomes several. -/
structure Images (c d : Char) (ds : List Char) : Prop where
  value : hexNumeralValue? d = hexNumeralValue? c
  underscore : d = '_' ↔ c = '_'
  zero : d = '0' ↔ c = '0'
  mark : d = 'x' ↔ c = 'x' ∨ c = 'X'
  space : isSpace c = false → ∀ e ∈ d :: ds, isSpace e = false
  alone : (hexNumeralValue? c).isSome = true ∨ c = '_' ∨ c = '0' → ds = []

theorem Images.of_holds_eq_false {c d : Char} {ds : List Char}
    (hc : numeralCodePoints.holds c.toNat = false)
    (hd : ∀ e ∈ d :: ds, numeralCodePoints.holds e.toNat = false) : Images c d ds := by
  obtain ⟨hvalue, hunderscore, hzero, hx, hX, -⟩ := Text.of_holds_eq_false hc
  obtain ⟨hvalue', hunderscore', hzero', hx', -, -⟩ := Text.of_holds_eq_false (hd d List.mem_cons_self)
  exact {
    value := hvalue'.trans hvalue.symm
    underscore := iff_of_false hunderscore' hunderscore
    zero := iff_of_false hzero' hzero
    mark := iff_of_false hx' (not_or.2 ⟨hx, hX⟩)
    space := fun _ e he => (Text.of_holds_eq_false (hd e he)).2.2.2.2.2
    alone := by
      rintro (h | h | h)
      · rw [hvalue] at h
        cases h
      · exact (hunderscore h).elim
      · exact (hzero h).elim }

theorem images_ascii {c : Char} (h : c.toNat < 128) : Images c c.toLower [] := by
  have hascii : ∀ n < 128,
      hexNumeralValue? (Char.ofNat n).toLower = hexNumeralValue? (Char.ofNat n) ∧
      ((Char.ofNat n).toLower = '_' ↔ Char.ofNat n = '_') ∧
      ((Char.ofNat n).toLower = '0' ↔ Char.ofNat n = '0') ∧
      ((Char.ofNat n).toLower = 'x' ↔ Char.ofNat n = 'x' ∨ Char.ofNat n = 'X') ∧
      isSpace (Char.ofNat n).toLower = isSpace (Char.ofNat n) := by
    decide +kernel
  obtain ⟨hvalue, hunderscore, hzero, hmark, hspace⟩ := forall_ascii (P := fun c =>
    hexNumeralValue? c.toLower = hexNumeralValue? c ∧ (c.toLower = '_' ↔ c = '_') ∧
      (c.toLower = '0' ↔ c = '0') ∧ (c.toLower = 'x' ↔ c = 'x' ∨ c = 'X') ∧
        isSpace c.toLower = isSpace c) hascii h
  exact ⟨hvalue, hunderscore, hzero, hmark,
    fun h e he => by rw [List.mem_singleton.1 he, hspace, h], fun _ => rfl⟩

theorem images_self {c : Char} (h : ¬ c.toNat < 128) : Images c c [] := by
  have hX : c ≠ 'X' := by
    rintro rfl
    exact h (by decide)
  exact ⟨rfl, Iff.rfl, Iff.rfl, (or_iff_left hX).symm,
    fun h e he => by rw [List.mem_singleton.1 he, h], fun _ => rfl⟩

theorem holds_ofNat_eq_false {n : Nat} (h : numeralCodePoints.holds n = false) :
    numeralCodePoints.holds (Char.ofNat n).toNat = false := by
  rcases toNat_ofNat n with hn | hn <;> rw [hn]
  · exact h
  · decide +kernel

/-- No run of the lower-case table starts or ends at the code points of numerals. -/
theorem images_mapCase {c : Char} (h : ¬ c.toNat < 128) :
    ∃ d ds, mapCase lowerRuns lowerSequences c = d :: ds ∧ Images c d ds := by
  rcases mapCase_cases lowerRuns lowerSequences c with
    ⟨s, hs, hc, hmap⟩ | ⟨r, hr, t, ht, hmap⟩ | hmap
  · have hs' : s = (0x130, [0x69, 0x307]) := List.mem_singleton.1 hs
    subst hs'
    have hc' : numeralCodePoints.holds c.toNat = false := by
      rw [← hc]
      decide +kernel
    have himages : ([0x69, 0x307].map Char.ofNat).all
        (fun e => !numeralCodePoints.holds e.toNat) = true := by
      decide +kernel
    refine ⟨_, _, hmap, .of_holds_eq_false hc' fun e he => ?_⟩
    rw [← Bool.not_eq_true']
    exact List.all_eq_true.1 himages e he
  · have hsources : (CaseRun.sources lowerRuns).areApart numeralCodePoints = true := by
      decide +kernel
    have htargets : (CaseRun.targets lowerRuns).areApart numeralCodePoints = true := by
      decide +kernel
    have hc := CodePoints.holds_eq_false_of_areApart hsources (CaseRun.holds_sources hr ht)
    have hd := CodePoints.holds_eq_false_of_areApart htargets (CaseRun.holds_targets hr ht)
    refine ⟨_, _, hmap, .of_holds_eq_false hc fun e he => ?_⟩
    rw [List.mem_singleton.1 he]
    exact holds_ofNat_eq_false hd
  · exact ⟨_, _, hmap, images_self h⟩

/-- The lower-case form of a text starts with that of its first character. -/
theorem exists_images (before : List Char) (c : Char) (cs : List Char) : ∃ d ds,
    lowerFrom before (c :: cs) = d :: ds ++ lowerFrom (c :: before) cs ∧ Images c d ds := by
  rw [lowerFrom]
  split
  · rename_i hc
    exact ⟨_, _, rfl, images_ascii hc⟩
  · rename_i hc
    split
    · rename_i hsigma
      subst hsigma
      refine ⟨_, _, rfl, .of_holds_eq_false (by decide +kernel) fun e he => ?_⟩
      rw [List.mem_singleton.1 he]
      split <;> decide +kernel
    · obtain ⟨d, ds, hmap, himages⟩ := images_mapCase hc
      exact ⟨d, ds, by rw [hmap], himages⟩

/-! ## Numerals in lower case -/

theorem digitValues?_cons_of_none {value? : Char → Option Nat} {c : Char} (h : value? c = none)
    (cs : List Char) : digitValues? value? (c :: cs) = none := by
  rcases cs with _ | ⟨d, cs⟩
  · rw [digitValues?, h]
    rfl
  · by_cases hd : d = '_'
    · rw [hd, digitValues?, h]
    · rw [digitValues?, h]
      · exact List.cons_ne_nil d cs
      · exact fun _ heq => hd (List.cons.inj heq).1

theorem digitValues?_cons {value? : Char → Option Nat} {c : Char} {v : Nat} {cs : List Char}
    (h : value? c = some v) (hne : cs ≠ []) : digitValues? value? (c :: cs) =
      (digitValues? value? (afterUnderscore cs)).map (v :: ·) := by
  unfold afterUnderscore
  split
  · rw [digitValues?, h]
    cases digitValues? value? _ <;> rfl
  · rename_i hcs
    rw [digitValues?, h]
    · cases digitValues? value? _ <;> rfl
    · exact hne
    · exact hcs

theorem lowerFrom_ne_nil {cs : List Char} (h : cs ≠ []) (before : List Char) :
    lowerFrom before cs ≠ [] := by
  obtain ⟨c, cs, rfl⟩ := List.exists_cons_of_ne_nil h
  obtain ⟨d, ds, hlower, -⟩ := exists_images before c cs
  rw [hlower]
  exact List.cons_ne_nil _ _

/-- A numeral has the same digits in lower case. -/
theorem digitValues?_lowerFrom (cs before : List Char) :
    digitValues? hexNumeralValue? (lowerFrom before cs) = digitValues? hexNumeralValue? cs ∧
      digitValues? hexNumeralValue? (afterUnderscore (lowerFrom before cs)) =
        digitValues? hexNumeralValue? (afterUnderscore cs) := by
  induction cs generalizing before with
  | nil => exact ⟨rfl, rfl⟩
  | cons c cs ih =>
    obtain ⟨d, ds, hlower, himages⟩ := exists_images before c cs
    have hvalues : digitValues? hexNumeralValue? (lowerFrom before (c :: cs)) =
        digitValues? hexNumeralValue? (c :: cs) := by
      rw [hlower, List.cons_append]
      cases hc : hexNumeralValue? c with
      | none =>
        rw [digitValues?_cons_of_none (himages.value.trans hc), digitValues?_cons_of_none hc]
      | some v =>
        rw [himages.alone (.inl (Option.isSome_iff_exists.2 ⟨v, hc⟩)), List.nil_append]
        by_cases hcs : cs = []
        · subst hcs
          show (hexNumeralValue? d).map _ = (hexNumeralValue? c).map _
          rw [himages.value]
        · rw [digitValues?_cons (himages.value.trans hc) (lowerFrom_ne_nil hcs _),
            digitValues?_cons hc hcs, (ih _).2]
    refine ⟨hvalues, ?_⟩
    by_cases hc : c = '_'
    · rw [hlower, himages.underscore.2 hc, himages.alone (.inr (.inl hc)), hc]
      exact (ih _).1
    · rw [afterUnderscore_of_ne hc, ← hvalues, hlower, List.cons_append,
        afterUnderscore_of_ne fun hd => hc (himages.underscore.1 hd)]

/-- No white space comes to the end of a text in lower case. -/
theorem isSpace_getLast?_lowerFrom {cs : List Char} (h : ∀ c ∈ cs.getLast?, isSpace c = false)
    (before : List Char) : ∀ e ∈ (lowerFrom before cs).getLast?, isSpace e = false := by
  induction cs generalizing before with
  | nil => exact fun e he => by cases he
  | cons c cs ih =>
    obtain ⟨d, ds, hlower, himages⟩ := exists_images before c cs
    rw [hlower]
    by_cases hcs : cs = []
    · subst hcs
      intro e he
      rw [lowerFrom, List.append_nil] at he
      exact himages.space (h c rfl) e (List.mem_of_mem_getLast? he)
    · rw [List.getLast?_append_of_ne_nil _ (lowerFrom_ne_nil hcs _)]
      refine ih (fun c' hc' => h c' ?_) _
      rwa [List.getLast?_cons_of_ne_nil hcs]

/-- A text in lower case starts with `0x` exactly if the text starts with `0x` or `0X`. -/
theorem isPrefixOf_lowerFrom (cs before : List Char) :
    ['0', 'x'].isPrefixOf (lowerFrom before cs) = hasHexMark cs := by
  cases cs with
  | nil => rfl
  | cons c cs =>
    obtain ⟨d, ds, hlower, himages⟩ := exists_images before c cs
    rw [hlower, List.cons_append]
    by_cases hc : c = '0'
    · rw [himages.zero.2 hc, himages.alone (.inr (.inr hc)), hc, List.nil_append]
      cases cs with
      | nil => rfl
      | cons m cs =>
        obtain ⟨d', ds', hlower', himages'⟩ := exists_images ('0' :: before) m cs
        rw [hlower', List.cons_append]
        have hx : ('x' == d') = (decide (m = 'x') || decide (m = 'X')) := by
          rw [Bool.eq_iff_iff, beq_iff_eq, eq_comm, himages'.mark, Bool.or_eq_true,
            decide_eq_true_eq, decide_eq_true_eq]
        show ('x' == d' && true) = (decide (m = 'x') || decide (m = 'X'))
        rw [hx, Bool.and_true]
    · have hd : ('0' == d) = false :=
        beq_eq_false_iff_ne.2 fun h => hc (himages.zero.1 h.symm)
      have hmark : hasHexMark (c :: cs) = false :=
        hasHexMark_of_head? fun h => hc (Option.some.inj h)
      rw [hmark, List.isPrefixOf, hd, Bool.false_and]

theorem isPrefixOf_lower (s : String) :
    ['0', 'x'].isPrefixOf (lower s).toList = hasHexMark s.toList := by
  unfold lower
  rw [String.toList_ofList, isPrefixOf_lowerFrom]

/-- A marked numeral stands for the same number in lower case. -/
theorem hexadecimal?_lower {s : String} {m : Char} {cs : List Char}
    (ht : IsTight isSpace s.toList) (hs : s.toList = '0' :: m :: cs) (hm : m = 'x' ∨ m = 'X') :
    hexadecimal? (lower s) = hexadecimal? s := by
  have hlower : (lower s).toList = '0' :: 'x' :: lowerFrom [m, '0'] cs := by
    unfold lower
    rw [String.toList_ofList, hs]
    rcases hm with rfl | rfl <;> rfl
  have hlast := isSpace_getLast?_lowerFrom ht.2 []
  have htight : IsTight isSpace (lower s).toList := by
    refine ⟨?_, ?_⟩
    · rw [hlower]
      exact fun c hc => by rw [← Option.some.inj hc]; decide
    · unfold lower
      rwa [String.toList_ofList]
  rw [hexadecimal?_of_mark htight hlower (.inl rfl), hexadecimal?_of_mark ht hs hm,
    (digitValues?_lowerFrom cs _).2]

/-! ## Upper case -/

/-- Whether no code point that the first run maps to is mapped by the second. Their ranges lie
apart, or they take turns. -/
def CaseRun.misses (r r' : CaseRun) : Bool :=
  Nat.blt (r.target + (r.last - r.first)) r'.first || Nat.blt r'.last r.target ||
    (r.step == 2 || r.first == r.last) && r'.step == 2 && (r.target + r'.first) % 2 == 1

theorem CaseRun.map?_of_misses {r r' : CaseRun} {n t : Nat} (h : r.misses r' = true)
    (ht : r.map? n = some t) : r'.map? t = none := by
  obtain ⟨⟨hfirst, hlast⟩, hstep, rfl⟩ := map?_eq_some ht
  unfold misses at h
  simp only [Bool.or_eq_true, Bool.and_eq_true, Nat.blt_eq, beq_iff_eq] at h
  rcases h with (hlt | hlt) | ⟨⟨hr, hr'⟩, hparity⟩
  · exact if_neg (by omega)
  · exact if_neg (by omega)
  · have heven : (n - r.first) % 2 = 0 := by
      rcases hr with hr | hr
      · rwa [hr] at hstep
      · omega
    refine if_neg ?_
    rw [hr']
    omega

/-- A character that no upper-case table holds is left alone. -/
theorem mapCase_eq_self {runs : List CaseRun} {sequences : List (Nat × List Nat)} {c : Char}
    (hruns : ∀ r ∈ runs, r.map? c.toNat = none) (hsequences : ∀ s ∈ sequences, s.1 ≠ c.toNat) :
    mapCase runs sequences c = [c] := by
  rcases mapCase_cases runs sequences c with ⟨s, hs, hc, -⟩ | ⟨r, hr, t, ht, -⟩ | hmap
  · exact (hsequences s hs hc).elim
  · rw [hruns r hr] at ht
    cases ht
  · exact hmap

theorem upperChar_ofNat_of_mem_sequence {s : Nat × List Nat} (hs : s ∈ upperSequences) {n : Nat}
    (hn : n ∈ s.2) : upperChar (Char.ofNat n) = [Char.ofNat n] := by
  have hall : ∀ s ∈ upperSequences, ∀ n ∈ s.2, upperChar (Char.ofNat n) = [Char.ofNat n] := by
    decide +kernel
  exact hall s hs n hn

theorem upperChar_ofNat_of_map? {r : CaseRun} (hr : r ∈ upperRuns) {n t : Nat}
    (ht : r.map? n = some t) : upperChar (Char.ofNat t) = [Char.ofNat t] := by
  rcases toNat_ofNat t with hnat | hnat
  · by_cases hascii : t < 128
    · have hall : ∀ r ∈ upperRuns, r.target < 128 →
          r.first = r.last ∧ upperChar (Char.ofNat r.target) = [Char.ofNat r.target] := by
        decide +kernel
      obtain ⟨⟨hfirst, hlast⟩, -, rfl⟩ := CaseRun.map?_eq_some ht
      obtain ⟨heq, hupper⟩ := hall r hr (by omega)
      have hn : n = r.first := by omega
      rwa [hn, Nat.sub_self, Nat.add_zero]
    · have hall : (upperRuns.all fun r => upperRuns.all fun r' => r.misses r') = true := by
        decide +kernel
      have hmisses := List.all_eq_true.1 (List.all_eq_true.1 hall r hr)
      have hapart : (CaseRun.targets upperRuns).areApart
          (upperSequences.map fun s => (s.1, s.1)) = true := by
        decide +kernel
      unfold upperChar
      rw [hnat, if_neg hascii]
      refine mapCase_eq_self (fun r' hr' => ?_) fun s hs hst => ?_
      · rw [hnat]
        exact CaseRun.map?_of_misses (hmisses r' hr') ht
      · have hfalse := CodePoints.holds_eq_false_of_areApart hapart (CaseRun.holds_targets hr ht)
        have htrue := CodePoints.holds_of_mem (List.mem_map_of_mem (f := fun s => (s.1, s.1)) hs)
          (n := t) (by dsimp only; omega)
        rw [hfalse] at htrue
        cases htrue
  · have hzero : Char.ofNat t = Char.ofNat 0 := by rw [← hnat, Char.ofNat_toNat]
    rw [hzero]
    rfl

/-- A character is put in upper case by one of the tables, or left alone. -/
theorem upperChar_cases (c : Char) : (c.toNat < 128 ∧ upperChar c = [c.toUpper]) ∨
    (∃ s ∈ upperSequences, upperChar c = s.2.map Char.ofNat) ∨
    (∃ r ∈ upperRuns, ∃ t, r.map? c.toNat = some t ∧ upperChar c = [Char.ofNat t]) ∨
    upperChar c = [c] := by
  by_cases hc : c.toNat < 128
  · exact .inl ⟨hc, if_pos hc⟩
  · have hupper : upperChar c = mapCase upperRuns upperSequences c := if_neg hc
    rw [hupper]
    exact .inr ((mapCase_cases upperRuns upperSequences c).imp_left
      fun ⟨s, hs, _, hmap⟩ => ⟨s, hs, hmap⟩)

/-- What a character becomes in upper case stays as it is. -/
theorem upperChar_of_mem {c d : Char} (h : d ∈ upperChar c) : upperChar d = [d] := by
  rcases upperChar_cases c with
    ⟨hc, hupper⟩ | ⟨s, hs, hupper⟩ | ⟨r, hr, t, ht, hupper⟩ | hupper <;> rw [hupper] at h
  · have hascii : ∀ n < 128,
        upperChar (Char.ofNat n).toUpper = [(Char.ofNat n).toUpper] := by
      decide +kernel
    rw [List.mem_singleton.1 h]
    exact forall_ascii (P := fun c => upperChar c.toUpper = [c.toUpper]) hascii hc
  · obtain ⟨n, hn, rfl⟩ := List.mem_map.1 h
    exact upperChar_ofNat_of_mem_sequence hs hn
  · rw [List.mem_singleton.1 h]
    exact upperChar_ofNat_of_map? hr ht
  · rw [List.mem_singleton.1 h, hupper]

/-- A text in upper case stays as it is. -/
theorem upper_upper (s : String) : upper (upper s) = upper s := by
  unfold upper
  rw [String.toList_ofList, List.flatMap_assoc]
  congr 1
  refine List.flatMap_congr fun c _ => ?_
  calc (upperChar c).flatMap upperChar
      = (upperChar c).flatMap fun d => [d] := List.flatMap_congr fun d hd => upperChar_of_mem hd
    _ = upperChar c := List.flatMap_singleton' _

/-! ### Blanks -/

/-- The code points of blanks. -/
def blankCodePoints : CodePoints :=
  spaceCodePoints ++ [(0x1c, 0x1f)]

theorem isBlank_eq_holds (c : Char) : isBlank c = blankCodePoints.holds c.toNat := by
  unfold isBlank isSpace blankCodePoints
  rw [CodePoints.holds_append]
  congr 1
  exact (Bool.or_false _).symm

theorem isBlank_ofNat_eq_false {n : Nat} (h : blankCodePoints.holds n = false) :
    isBlank (Char.ofNat n) = false := by
  rw [isBlank_eq_holds]
  rcases toNat_ofNat n with hn | hn <;> rw [hn]
  · exact h
  · rfl

/-- No character becomes a blank in upper case. -/
theorem isBlank_of_mem_upperChar {c d : Char} (hc : isBlank c = false) (h : d ∈ upperChar c) :
    isBlank d = false := by
  rcases upperChar_cases c with
    ⟨hlt, hupper⟩ | ⟨s, hs, hupper⟩ | ⟨r, hr, t, ht, hupper⟩ | hupper <;> rw [hupper] at h
  · have hascii : ∀ n < 128, isBlank (Char.ofNat n) = false →
        isBlank (Char.ofNat n).toUpper = false := by
      decide +kernel
    rw [List.mem_singleton.1 h]
    exact forall_ascii (P := fun c => isBlank c = false → isBlank c.toUpper = false) hascii hlt hc
  · have hall : ∀ s ∈ upperSequences, ∀ n ∈ s.2, blankCodePoints.holds n = false := by
      decide +kernel
    obtain ⟨n, hn, rfl⟩ := List.mem_map.1 h
    exact isBlank_ofNat_eq_false (hall s hs n hn)
  · have hapart : (CaseRun.targets upperRuns).areApart blankCodePoints = true := by
      decide +kernel
    rw [List.mem_singleton.1 h]
    exact isBlank_ofNat_eq_false
      (CodePoints.holds_eq_false_of_areApart hapart (CaseRun.holds_targets hr ht))
  · rw [List.mem_singleton.1 h]
    exact hc

theorem upperChar_ne_nil (c : Char) : upperChar c ≠ [] := by
  rcases upperChar_cases c with
    ⟨-, hupper⟩ | ⟨s, hs, hupper⟩ | ⟨r, -, t, -, hupper⟩ | hupper <;> rw [hupper]
  · exact List.cons_ne_nil _ _
  · have hall : ∀ s ∈ upperSequences, s.2 ≠ [] := by decide +kernel
    exact fun h => hall s hs (List.map_eq_nil_iff.1 h)
  · exact List.cons_ne_nil _ _
  · exact List.cons_ne_nil _ _

/-- A text without blanks around it has none in upper case. -/
theorem strip_upper_strip (s : String) : strip (upper (strip s)) = upper (strip s) := by
  have hupper : (upper (strip s)).toList = (strip s).toList.flatMap upperChar :=
    String.toList_ofList
  have hkept := trim_eq_self ((isTight_strip s).flatMap upperChar_ne_nil
    fun c hc d hd => isBlank_of_mem_upperChar hc hd)
  calc strip (upper (strip s))
      = String.ofList (trim isBlank ((strip s).toList.flatMap upperChar)) := by rw [← hupper]; rfl
    _ = upper (strip s) := by rw [hkept]; rfl

end Text

end Signatory
