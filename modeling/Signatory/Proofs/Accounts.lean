import Signatory.Accounts
import Signatory.Proofs.ChainTable
import Signatory.Proofs.Text.Hexadecimal
import Signatory.Starknet.Felt
import Signatory.Sui.Address

/-!
# Accounts of senders

Codecs read several texts as one address: with or without `0x`, in decimal, with zeros in front, in
either letter case. Accounts are keyed by another form of the text, `normalSender`.

1. `normalSender_eq_iff`: two texts of one address have the same form exactly if both are marked
   with `0x` or both are the same but for letter case and blanks.
2. `accountPath_agrees_iff`: exactly then they have the same account path whatever is registered.
-/

namespace Signatory

open Text

/-! ## Texts of addresses -/

/-- Whether a sender is marked as hexadecimal. -/
def IsMarked (sender : String) : Prop :=
  hasHexMark (trim isBlank sender.toList) = true

/-- Hexadecimal digits, as many as one or more. -/
def AreDigits (ds : List Char) : Prop :=
  ds ≠ [] ∧ ∀ c ∈ ds, isHexDigit c = true

/-- A marked text of a number. -/
def Marks (sender : String) (n : Nat) : Prop :=
  ∃ m ds, trim isBlank sender.toList = '0' :: m :: ds ∧ (m = 'x' ∨ m = 'X') ∧ AreDigits ds ∧
    n = ofDigits 16 (ds.filterMap hexValue?)

theorem AreDigits.of_all {ds : List Char} (hne : ds.isEmpty = false)
    (hall : ds.all isHexDigit = true) : AreDigits ds :=
  ⟨List.isEmpty_eq_false_iff.1 hne, List.all_eq_true.1 hall⟩

theorem ofHexDigits_lt {ds : List Char} (h : ds.length ≤ 64) :
    ofDigits 16 (ds.filterMap hexValue?) < Bytes.capacity 32 := by
  have hvalues : ∀ d ∈ ds.filterMap hexValue?, d < 16 := by
    intro d hd
    obtain ⟨c, -, hc⟩ := List.mem_filterMap.1 hd
    exact hexValue?_lt hc
  have hlength : (ds.filterMap hexValue?).length ≤ 64 :=
    Nat.le_trans (List.length_filterMap_le _ _) h
  have hcapacity : Nat.pow 16 64 = Bytes.capacity 32 := by decide
  rw [← hcapacity]
  exact Nat.lt_of_lt_of_le (ofDigits_lt hvalues) (Nat.pow_le_pow_right (by decide) hlength)

/-- A text that a codec reads: a marked text of a number, or digits without a mark. -/
def Spells (sender : String) (n : Nat) : Prop :=
  Marks sender n ∨ ¬ IsMarked sender ∧ AreDigits (trim isBlank sender.toList)

theorem spells_of_parseAddress {field s : String} {x : Bytes}
    (h : Sui.Address.parse field s = .ok x) : Spells s (Bytes.beNat x) := by
  unfold Sui.Address.parse at h
  split at h
  · cases h
  dsimp only at h
  split at h
  · rename_i hds
    cases h
    obtain ⟨hpos, hle, hall⟩ := hds
    have hdigits : AreDigits (Sui.Address.digits s) :=
      ⟨List.ne_nil_of_length_pos hpos, List.all_eq_true.1 hall⟩
    have hnumber : Bytes.beNat (Bytes.beBytes Sui.addressLength
        (Sui.Address.number (Sui.Address.digits s))) =
          Sui.Address.number (Sui.Address.digits s) := by
      rw [Bytes.beNat_beBytes]
      exact Nat.mod_eq_of_lt (ofHexDigits_lt hle)
    unfold Sui.Address.digits at hdigits hnumber ⊢
    dsimp only at hdigits hnumber ⊢
    by_cases hm : hasHexMark (trim isBlank s.toList) = true
    · rw [if_pos hm] at hdigits hnumber ⊢
      obtain ⟨m, hcs, hx⟩ := cons_of_hasHexMark hm
      exact .inl ⟨m, _, hcs, hx, hdigits, hnumber⟩
    · rw [if_neg hm] at hdigits
      exact .inr ⟨hm, hdigits⟩
  · cases h

theorem spells_of_parseFelt {field s : String} {n : Nat}
    (h : Starknet.Felt.parse field s = .ok n) : Spells s n := by
  unfold Starknet.Felt.parse at h
  dsimp only at h
  split at h
  · cases h
  split at h
  · cases h
  split at h
  · cases h
  rename_i n' hnumber
  split at h
  · cases h
    unfold Starknet.Felt.number? at hnumber
    split at hnumber
    · rename_i hm
      dsimp only at hnumber
      split at hnumber
      · rename_i hds
        cases hnumber
        rw [Bool.and_eq_true, Bool.not_eq_true'] at hds
        obtain ⟨m, hcs, hx⟩ := cons_of_hasHexMark hm
        exact .inl ⟨m, _, hcs, hx, AreDigits.of_all hds.1 hds.2, rfl⟩
      · cases hnumber
    · rename_i hm
      split at hnumber
      · rename_i hds
        rw [Bool.and_eq_true, Bool.not_eq_true'] at hds
        refine .inr ⟨hm, List.isEmpty_eq_false_iff.1 hds.1, fun c hc => ?_⟩
        exact isHexDigit_of_isDigit (List.all_eq_true.1 hds.2 c hc)
      · cases hnumber
  · cases h

theorem Marks.isMarked {s : String} {n : Nat} (h : Marks s n) : IsMarked s := by
  obtain ⟨m, ds, hcs, hm, -⟩ := h
  unfold IsMarked
  rw [hcs]
  rcases hm with rfl | rfl <;> rfl

theorem Spells.nonempty {s : String} {n : Nat} (h : Spells s n) : s.isEmpty = false := by
  have hs : trim isBlank s.toList ≠ [] := by
    rcases h with ⟨m, ds, hcs, -⟩ | ⟨-, hne, -⟩
    · rw [hcs]
      exact List.cons_ne_nil _ _
    · exact hne
  rw [Bool.eq_false_iff]
  intro hempty
  rw [String.isEmpty_iff.1 hempty] at hs
  exact hs rfl

/-! ## The form of a sender -/

/-- The form of a marked sender is the number behind the mark. -/
theorem normalSender_of_marks {s : String} {n : Nat} (h : Marks s n) :
    normalSender s = "0x" ++ hexDigits n := by
  obtain ⟨m, ds, hcs, hm, ⟨hne, hds⟩, rfl⟩ := h
  have hascii : ∀ c ∈ (strip s).toList, c.toNat < 128 := by
    rw [toList_strip, hcs]
    refine List.forall_mem_cons.2 ⟨by decide, List.forall_mem_cons.2 ⟨?_, fun c hc => ?_⟩⟩
    · rcases hm with rfl | rfl <;> decide
    · exact toNat_of_isHexDigit (hds c hc)
  have hlower : (lower (strip s)).toList = '0' :: 'x' :: ds.map Char.toLower := by
    rw [toList_lower hascii, toList_strip, hcs]
    rcases hm with rfl | rfl <;> rfl
  have hmark : ['0', 'x'].isPrefixOf (lower (strip s)).toList = true := by
    rw [hlower]
    rfl
  unfold normalSender
  dsimp only
  rw [if_pos hmark, hexadecimal?_marked hne hds hlower]
  rfl

/-- The form of any other number is its text in lower case. -/
theorem normalSender_of_digits {s : String} (hd : AreDigits (trim isBlank s.toList)) :
    normalSender s = lower (strip s) ∧ ['0', 'x'].isPrefixOf (normalSender s).toList = false := by
  have hascii : ∀ c ∈ (strip s).toList, c.toNat < 128 := by
    rw [toList_strip]
    exact fun c hc => toNat_of_isHexDigit (hd.2 c hc)
  have hmark : ['0', 'x'].isPrefixOf (lower (strip s)).toList = false := by
    have hx : 'x' ∉ (lower (strip s)).toList := by
      rw [toList_lower hascii, toList_strip]
      intro hmem
      obtain ⟨c, hc, hlower⟩ := List.mem_map.1 hmem
      exact (toLower_of_isHexDigit (hd.2 c hc)).2.2.1 hlower
    rw [Bool.eq_false_iff]
    intro hfront
    obtain ⟨cs, hcs⟩ := List.isPrefixOf_iff_prefix.1 hfront
    rw [← hcs] at hx
    exact hx (List.mem_cons_of_mem _ List.mem_cons_self)
  have hnormal : normalSender s = lower (strip s) := by
    unfold normalSender
    dsimp only
    rw [hmark, if_neg Bool.false_ne_true]
  rw [hnormal]
  exact ⟨rfl, hmark⟩

theorem isPrefixOf_normalSender {s : String} {n : Nat} (h : Marks s n) :
    ['0', 'x'].isPrefixOf (normalSender s).toList = true := by
  rw [normalSender_of_marks h, String.toList_append]
  exact List.isPrefixOf_iff_prefix.2 ⟨_, rfl⟩

/-- Two texts of one number have the same form if both are marked or both look the same. -/
theorem normalSender_eq_iff {a b : String} {n : Nat} (ha : Spells a n) (hb : Spells b n) :
    normalSender a = normalSender b ↔
      IsMarked a ∧ IsMarked b ∨ lower (strip a) = lower (strip b) := by
  constructor
  · intro h
    rcases ha with ha | ⟨-, ha⟩
    · rcases hb with hb | ⟨-, hb⟩
      · exact .inl ⟨ha.isMarked, hb.isMarked⟩
      · have hmark := isPrefixOf_normalSender ha
        rw [h, (normalSender_of_digits hb).2] at hmark
        cases hmark
    · rcases hb with hb | ⟨-, hb⟩
      · have hmark := isPrefixOf_normalSender hb
        rw [← h, (normalSender_of_digits ha).2] at hmark
        cases hmark
      · rw [(normalSender_of_digits ha).1, (normalSender_of_digits hb).1] at h
        exact .inr h
  · rintro (⟨hma, hmb⟩ | h)
    · rcases ha with ha | ⟨hna, -⟩
      · rcases hb with hb | ⟨hnb, -⟩
        · rw [normalSender_of_marks ha, normalSender_of_marks hb]
        · exact absurd hmb hnb
      · exact absurd hma hna
    · unfold normalSender
      rw [h]

/-! ## Account paths -/

/-- Two senders that the codec of a chain takes for the same address. -/
def SameAddress (chain a b : String) : Prop :=
  Tag.normal chain = "SUI" ∧
      (∃ x, Sui.Address.parse "sender" a = .ok x ∧ Sui.Address.parse "sender" b = .ok x) ∨
    Tag.normal chain = "STARKNET" ∧
      ∃ n, Starknet.Felt.parse "sender" a = .ok n ∧ Starknet.Felt.parse "sender" b = .ok n

theorem SameAddress.spells {chain a b : String} (h : SameAddress chain a b) :
    ∃ n, Spells a n ∧ Spells b n := by
  rcases h with ⟨-, x, ha, hb⟩ | ⟨-, n, ha, hb⟩
  · exact ⟨_, spells_of_parseAddress ha, spells_of_parseAddress hb⟩
  · exact ⟨n, spells_of_parseFelt ha, spells_of_parseFelt hb⟩

theorem SameAddress.builtin {chain a b : String} (h : SameAddress chain a b) :
    Tag.normal chain = "SUI" ∨ Tag.normal chain = "STARKNET" := by
  rcases h with ⟨h, -⟩ | ⟨h, -⟩
  · exact .inl h
  · exact .inr h

/-- The same path, or no path for lack of an account or of the curve. -/
def SameAccount (x y : Except Failure String) : Prop :=
  (∃ path, x = .ok path ∧ y = .ok path) ∨
    ∃ e f, x = .error e ∧ y = .error f ∧ e.code? = some .derivationError ∧
      f.code? = some .derivationError

namespace Accounts

/-- A provider that registrations lead to. A registration that is refused changes nothing. -/
inductive IsReached : Accounts → Prop
  | start {seed : Bytes} (strict : Bool) (h : seed ≠ []) : IsReached ⟨seed, strict, []⟩
  | register {A A' : Accounts} {chain sender path : String} (hA : IsReached A)
      (h : A.register chain sender path = .ok A') : IsReached A'

variable {t : ChainTable} {choice : CurveChoice} {chain a b : String}

theorem registered?_some (A : Accounts) (ha : a.isEmpty = false) :
    A.registered? chain (some a) = A.paths.lookup (chain, normalSender a) := by
  unfold registered?
  dsimp only
  rw [ha, if_neg Bool.false_ne_true]

/-- Senders of one form have the same account. -/
theorem sameAccount_of_normalSender (ht : t.IsReached)
    (hchain : Tag.normal chain = "SUI" ∨ Tag.normal chain = "STARKNET") (A : Accounts)
    (ha : a.isEmpty = false) (hb : b.isEmpty = false) (h : normalSender a = normalSender b) :
    SameAccount (A.accountPath t chain choice (some a))
      (A.accountPath t chain choice (some b)) := by
  have hvalue : Tag.ofValue (.text (Tag.normal chain)) = .ok (Tag.normal chain) := by
    rcases hchain with h | h <;> rw [h] <;> rfl
  unfold accountPath
  dsimp only
  rw [registered?_some A ha, registered?_some A hb, h]
  cases A.paths.lookup (Tag.normal chain, normalSender b) with
  | some path => exact .inl ⟨path, rfl, rfl⟩
  | none =>
    dsimp only
    split
    · exact .inr ⟨_, _, rfl, rfl, rfl, rfl⟩
    · cases hpath : t.defaultPath (.text (Tag.normal chain)) choice with
      | ok path => exact .inl ⟨path, rfl, rfl⟩
      | error e =>
        have hcode := ChainTable.code_of_defaultPath (ht.serves hchain) hvalue hpath
        exact .inr ⟨e, e, rfl, rfl, hcode, hcode⟩

theorem exists_path_ne (x : Except Failure String) :
    ∃ path, path.toList.head? = some 'm' ∧ x ≠ .ok path := by
  by_cases hx : x = .ok "m"
  · refine ⟨"m/0", rfl, ?_⟩
    rw [hx]
    intro h
    exact absurd (Except.ok.inj h) (by decide)
  · exact ⟨"m", rfl, hx⟩

/-- Senders of two forms can have two accounts. -/
theorem exists_not_sameAccount (ha : a.isEmpty = false) (hb : b.isEmpty = false)
    (h : normalSender a ≠ normalSender b) : ∃ A, IsReached A ∧
      ¬ SameAccount (A.accountPath t chain choice (some a))
        (A.accountPath t chain choice (some b)) := by
  -- The first sender is registered with a path that the second does not get by default.
  obtain ⟨path, hm, hne⟩ := exists_path_ne (t.defaultPath (.text (Tag.normal chain)) choice)
  have hregister : register ⟨[0], false, []⟩ chain a path = .ok
      ⟨[0], false, putPair [] (Tag.normal chain, normalSender a) path⟩ := if_pos hm
  refine ⟨_, (IsReached.start false (List.cons_ne_nil 0 [])).register hregister, ?_⟩
  have hkey : (Tag.normal chain, normalSender b) ≠ (Tag.normal chain, normalSender a) :=
    fun hkey => h (Prod.mk.inj hkey).2.symm
  unfold accountPath
  dsimp only
  rw [registered?_some _ ha, registered?_some _ hb, lookup_putPair_self,
    lookup_putPair_of_ne hkey]
  rintro (⟨p, hp, hp'⟩ | ⟨e, f, he, -⟩)
  · cases hp
    exact hne hp'
  · cases he

/-- Two texts of one address have the same account, whatever is registered, exactly if both are
marked with `0x` or they are the same but for letter case and blanks. -/
theorem accountPath_agrees_iff (ht : t.IsReached) (choice : CurveChoice)
    (h : SameAddress chain a b) :
    (∀ A : Accounts, A.IsReached → SameAccount (A.accountPath t chain choice (some a))
      (A.accountPath t chain choice (some b))) ↔
    IsMarked a ∧ IsMarked b ∨ lower (strip a) = lower (strip b) := by
  obtain ⟨n, ha, hb⟩ := h.spells
  rw [← normalSender_eq_iff ha hb]
  constructor
  · intro hall
    refine Decidable.byContradiction fun hne => ?_
    obtain ⟨A, hA, hnot⟩ := exists_not_sameAccount ha.nonempty hb.nonempty hne
    exact hnot (hall A hA)
  · intro hnormal A _
    exact sameAccount_of_normalSender ht h.builtin A ha.nonempty hb.nonempty hnormal

/-- Both texts below name address 171. -/
theorem accountPath_agrees_marked : SameAddress "SUI" " 0xAB" "0x00ab" ∧
    ∀ A : Accounts, A.IsReached → SameAccount
      (A.accountPath .standard "SUI" .unspecified (some " 0xAB"))
      (A.accountPath .standard "SUI" .unspecified (some "0x00ab")) := by
  have h : SameAddress "SUI" " 0xAB" "0x00ab" := .inl ⟨rfl, _, rfl, rfl⟩
  have hmarked : IsMarked " 0xAB" ∧ IsMarked "0x00ab" := ⟨rfl, rfl⟩
  exact ⟨h, (accountPath_agrees_iff .standard .unspecified h).2 (.inl hmarked)⟩

/-- A sender that is registered with its mark gets the default path without it. -/
theorem not_sameAccount_of_sameAddress :
    ¬ ∀ (A : Accounts) (a b : String), A.IsReached → SameAddress "SUI" a b →
      SameAccount (A.accountPath .standard "SUI" .unspecified (some a))
        (A.accountPath .standard "SUI" .unspecified (some b)) := by
  intro h
  have hregister : register ⟨[0], false, []⟩ "SUI" "0xab" "m/1" = .ok
      ⟨[0], false, [(("SUI", "0xab"), "m/1")]⟩ := rfl
  have hreached := (IsReached.start false (List.cons_ne_nil 0 [])).register hregister
  rcases h _ "0xab" "ab" hreached (.inl ⟨rfl, _, rfl, rfl⟩) with ⟨p, hp, hp'⟩ | ⟨e, f, he, -⟩
  · have hpath : p = "m/1" := (Except.ok.inj hp).symm
    rw [hpath] at hp'
    exact absurd (Except.ok.inj hp') (by decide)
  · cases he

end Accounts

end Signatory
