import Signatory.Proofs.Accounts
import Signatory.Proofs.Text.LetterCase

/-!
# Histories of registrations

A provider starts with some accounts and takes further registrations, of which some are refused.
Chains and senders are compared by their normal forms.

1. `normalSender_eq_numeral_iff` says which senders have the form of a number: those marked with
   `0x` whose digits are read as that number.
2. `ChainTable.alike_defaultPath`: a chain in its normal form has the default path that it has.
3. `Accounts.lookup_afterCalls` and `Accounts.lookup_afterCalls_of_forall` say what a history leaves
   behind, and `Accounts.accountPath_afterCalls` what a later lookup answers.
-/

namespace Signatory

open Text Outcome

/-! ## Forms of senders -/

section Senders

variable {a b : String} {m n : Nat}

theorem IsMarked.exists_digits (h : IsMarked a) :
    ∃ m cs, (strip a).toList = '0' :: m :: cs ∧ (m = 'x' ∨ m = 'X') := by
  obtain ⟨m, hcs, hm⟩ := cons_of_hasHexMark h
  exact ⟨m, _, (toList_strip a).trans hcs, hm⟩

theorem isPrefixOf_lower_strip (a : String) :
    ['0', 'x'].isPrefixOf (lower (strip a)).toList = true ↔ IsMarked a := by
  rw [isPrefixOf_lower, toList_strip]
  exact Iff.rfl

/-- The form of a marked sender is read from its digits in either letter case. -/
theorem normalSender_of_isMarked (h : IsMarked a) : normalSender a =
    ((hexadecimal? (strip a)).map fun n => "0x" ++ hexDigits n.toNat).getD
      (lower (strip a)) := by
  obtain ⟨m, cs, hcs, hm⟩ := h.exists_digits
  unfold normalSender
  dsimp only
  rw [if_pos ((isPrefixOf_lower_strip a).2 h),
    hexadecimal?_lower (isTight_strip a).of_isBlank hcs hm]
  cases hexadecimal? (strip a) <;> rfl

theorem normalSender_of_not_isMarked (h : ¬ IsMarked a) : normalSender a = lower (strip a) := by
  unfold normalSender
  dsimp only
  rw [if_neg fun hmark => h ((isPrefixOf_lower_strip a).1 hmark)]

/-- A number behind a mark has no sign. -/
theorem exists_of_hexadecimal? {k : Int} (h : IsMarked a) (hk : hexadecimal? (strip a) = some k) :
    ∃ n : Nat, k = n := by
  obtain ⟨m, cs, hcs, hm⟩ := h.exists_digits
  rw [hexadecimal?_of_mark (isTight_strip a).of_isBlank hcs hm] at hk
  obtain ⟨ds, -, rfl⟩ := Option.map_eq_some_iff.1 hk
  exact ⟨ofDigits 16 ds, rfl⟩

/-- The senders with the form of a number are the marked ones whose digits are read as it. -/
theorem normalSender_eq_numeral_iff : normalSender b = "0x" ++ hexDigits n ↔
    IsMarked b ∧ hexadecimal? (strip b) = some (n : Int) := by
  constructor
  · intro h
    by_cases hb : IsMarked b
    · refine ⟨hb, ?_⟩
      rw [normalSender_of_isMarked hb] at h
      cases hk : hexadecimal? (strip b) with
      | some k =>
        obtain ⟨k, rfl⟩ := exists_of_hexadecimal? hb hk
        rw [hk] at h
        exact congrArg some (congrArg Int.ofNat (eq_of_hexDigits_eq h))
      | none =>
        -- A text that cannot be read is kept, and the form of a number can be read.
        rw [hk, Option.map_none, Option.getD_none] at h
        obtain ⟨m, cs, hcs, hm⟩ := hb.exists_digits
        rw [← hexadecimal?_lower (isTight_strip b).of_isBlank hcs hm, h,
          hexadecimal?_hexDigits] at hk
        cases hk
    · rw [normalSender_of_not_isMarked hb] at h
      refine (hb ((isPrefixOf_lower_strip b).1 ?_)).elim
      rw [h, String.toList_append]
      rfl
  · rintro ⟨hb, hk⟩
    rw [normalSender_of_isMarked hb, hk]
    rfl

/-- Marked senders have the same form exactly if they are the same number. -/
theorem normalSender_eq_iff_of_marks (ha : Marks a m) (hb : Marks b n) :
    normalSender a = normalSender b ↔ m = n := by
  rw [normalSender_of_marks ha, normalSender_of_marks hb]
  exact ⟨eq_of_hexDigits_eq, fun h => by rw [h]⟩

end Senders

/-! ## Forms of chains -/

theorem Tag.normal_normal (chain : String) : normal (normal chain) = normal chain := by
  unfold normal
  rw [strip_upper_strip, upper_upper]

theorem Tag.ofValue_text (chain : String) : ofValue (.text chain) = .ok (normal chain) := by
  unfold ofValue
  split
  · rename_i h
    have hempty : chain = "" := String.isEmpty_iff.1 h
    rw [hempty]
    rfl
  · rfl

/-- The same value, or refusals of one kind that name the same field. -/
def Alike {α : Type} (x y : Except Failure α) : Prop :=
  (∃ a, x = .ok a ∧ y = .ok a) ∨
    ∃ e f, x = .error e ∧ y = .error f ∧ e.kind = f.kind ∧ e.field? = f.field?

theorem Alike.refl {α : Type} (x : Except Failure α) : Alike x x := by
  cases x with
  | ok a => exact .inl ⟨a, rfl, rfl⟩
  | error e => exact .inr ⟨e, e, rfl, rfl, rfl, rfl⟩

/-- The chain of a tag is looked up by the normal form of the tag. -/
theorem ChainTable.find_text (t : ChainTable) (tag : String) : t.find (.text tag) =
    (t.entries.lookup (Tag.normal tag)).elim (.error (Tag.unknown (.text tag))) .ok := by
  unfold find
  rw [Tag.ofValue_text]
  dsimp only [bind, Except.bind]
  cases t.entries.lookup (Tag.normal tag) <;> rfl

/-- A chain in its normal form has the default path of the chain. -/
theorem ChainTable.alike_defaultPath (t : ChainTable) (chain : String) (choice : CurveChoice) :
    Alike (t.defaultPath (.text (Tag.normal chain)) choice)
      (t.defaultPath (.text chain) choice) := by
  unfold defaultPath
  rw [find_text, find_text, Tag.normal_normal]
  cases t.entries.lookup (Tag.normal chain) with
  | none =>
    have hkind : ∀ tag, (Tag.unknown tag).kind = .refusal .unsupportedChain := fun _ => rfl
    have hfield : ∀ tag, (Tag.unknown tag).field? = some "chain" := fun _ => rfl
    rw [Option.elim_none, Option.elim_none]
    exact .inr ⟨_, _, rfl, rfl, (hkind _).trans (hkind _).symm, (hfield _).trans (hfield _).symm⟩
  | some i =>
    rw [Option.elim_some, Option.elim_some]
    exact .refl _

/-! ## Registrations -/

/-- A call that registers: chain, sender and account path. -/
abbrev Registration := String × String × String

namespace Registration

/-- The path starts with `m`, so the registration is taken. -/
def IsTaken (r : Registration) : Prop :=
  r.2.2.toList.head? = some 'm'

instance (r : Registration) : Decidable r.IsTaken :=
  inferInstanceAs (Decidable (_ = _))

/-- What the account is keyed by. -/
def key (r : Registration) : String × String :=
  (Tag.normal r.1, normalSender r.2.1)

end Registration

namespace Accounts

variable {A : Accounts} {r : Registration} {k : String × String}

/-- The accounts after a call. One that is refused leaves them as they were. -/
def afterCall (A : Accounts) (r : Registration) : Accounts :=
  match A.register r.1 r.2.1 r.2.2 with
  | .ok A' => A'
  | .error _ => A

def afterCalls (A : Accounts) (calls : List Registration) : Accounts :=
  calls.foldl afterCall A

theorem register_of_isTaken (h : r.IsTaken) : A.register r.1 r.2.1 r.2.2 =
    .ok { A with paths := putPair A.paths r.key r.2.2 } :=
  if_pos h

theorem register_of_not_isTaken (h : ¬ r.IsTaken) :
    A.register r.1 r.2.1 r.2.2 = .error (.invalidPath r.2.2) :=
  if_neg h

theorem afterCall_of_not_isTaken (h : ¬ r.IsTaken) : A.afterCall r = A := by
  unfold afterCall
  rw [register_of_not_isTaken h]

theorem lookup_afterCall_self (h : r.IsTaken) : (A.afterCall r).paths.lookup r.key = some r.2.2 := by
  unfold afterCall
  rw [register_of_isTaken h]
  exact lookup_putPair_self

theorem lookup_afterCall_of_ne (h : r.IsTaken → r.key ≠ k) :
    (A.afterCall r).paths.lookup k = A.paths.lookup k := by
  by_cases hr : r.IsTaken
  · unfold afterCall
    rw [register_of_isTaken hr]
    exact lookup_putPair_of_ne (h hr).symm
  · rw [afterCall_of_not_isTaken hr]

theorem strict_afterCall (A : Accounts) (r : Registration) : (A.afterCall r).strict = A.strict := by
  by_cases hr : r.IsTaken
  · unfold afterCall
    rw [register_of_isTaken hr]
  · rw [afterCall_of_not_isTaken hr]

theorem strict_afterCalls (A : Accounts) (calls : List Registration) :
    (A.afterCalls calls).strict = A.strict := by
  induction calls generalizing A with
  | nil => rfl
  | cons r calls ih => exact (ih _).trans (strict_afterCall A r)

/-- Calls for other accounts, and calls that are refused, change no account. -/
theorem lookup_afterCalls_of_forall {calls : List Registration}
    (h : ∀ r ∈ calls, r.IsTaken → r.key ≠ k) :
    (A.afterCalls calls).paths.lookup k = A.paths.lookup k := by
  induction calls generalizing A with
  | nil => rfl
  | cons r calls ih =>
    obtain ⟨hr, hcalls⟩ := List.forall_mem_cons.1 h
    exact (ih hcalls).trans (lookup_afterCall_of_ne hr)

/-- The last call for an account that is taken decides. -/
theorem lookup_afterCalls {earlier later : List Registration} (hr : r.IsTaken)
    (hlater : ∀ r' ∈ later, r'.IsTaken → r'.key ≠ r.key) :
    (A.afterCalls (earlier ++ r :: later)).paths.lookup r.key = some r.2.2 := by
  unfold afterCalls
  rw [List.foldl_append, List.foldl_cons]
  exact (lookup_afterCalls_of_forall hlater).trans (lookup_afterCall_self hr)

theorem eq_afterCall {A' : Accounts} (h : A.register r.1 r.2.1 r.2.2 = .ok A') :
    A' = A.afterCall r := by
  unfold afterCall
  rw [h]

/-- A provider that was made took its accounts one after the other. -/
theorem eq_of_make {seed : Bytes} {strict : Bool} {accounts : List Registration}
    (h : make seed strict accounts = .ok A) : A = afterCalls ⟨seed, strict, []⟩ accounts := by
  unfold make at h
  split at h
  · cases h
  · generalize (⟨seed, strict, []⟩ : Accounts) = start at h ⊢
    induction accounts generalizing start with
    | nil => exact (Except.ok.inj h).symm
    | cons r accounts ih =>
      rw [List.foldlM_cons] at h
      obtain ⟨next, hnext, h⟩ := bind_eq_ok_iff.1 h
      rw [ih next h, eq_afterCall hnext]
      rfl

/-! ## Lookups -/

section Lookups

variable (t : ChainTable) {chain : String} (choice : CurveChoice)

theorem accountPath_of_lookup {sender path : String} (hs : sender ≠ "")
    (h : A.paths.lookup (Tag.normal chain, normalSender sender) = some path) :
    A.accountPath t chain choice (some sender) = .ok path := by
  unfold accountPath
  dsimp only
  rw [registered?_some A (Bool.eq_false_iff.2 fun he => hs (String.isEmpty_iff.1 he)), h]

theorem accountPath_of_lookup_eq_none {sender : Option String}
    (h : ∀ s, sender = some s → s ≠ "" →
      A.paths.lookup (Tag.normal chain, normalSender s) = none) :
    A.accountPath t chain choice sender =
      if A.strict then
        .error (.noAccount (Tag.normal chain) (sender.filter fun s => !s.isEmpty))
      else t.defaultPath (.text (Tag.normal chain)) choice := by
  have hnone : A.registered? (Tag.normal chain) sender = none := by
    cases sender with
    | none => rfl
    | some s =>
      by_cases hs : s = ""
      · rw [hs]
        rfl
      · rw [registered?_some A (Bool.eq_false_iff.2 fun he => hs (String.isEmpty_iff.1 he))]
        exact h s rfl hs
  unfold accountPath
  dsimp only
  rw [hnone]

/-- After any calls, the last one for the sender that was taken decides its account path. Without
one, a strict provider refuses and another gives the default path. A call is refused exactly if its
path does not start with `m`, and then it changes nothing. Senders marked with `0x` count as the
same exactly if they are the same number. -/
theorem accountPath_afterCalls {seed : Bytes} {strict : Bool} {accounts : List Registration}
    (h : make seed strict accounts = .ok A) (calls : List Registration) (t : ChainTable) :
    (∀ earlier r later chain choice sender, accounts ++ calls = earlier ++ r :: later →
      r.IsTaken → r.key = (Tag.normal chain, normalSender sender) → sender ≠ "" →
      (∀ r' ∈ later, r'.IsTaken → r'.key ≠ r.key) →
      (A.afterCalls calls).accountPath t chain choice (some sender) = .ok r.2.2) ∧
    (∀ chain choice sender,
      (∀ s, sender = some s → s ≠ "" → ∀ r ∈ accounts ++ calls, r.IsTaken →
        r.key ≠ (Tag.normal chain, normalSender s)) →
      (strict = true → ∃ f, (A.afterCalls calls).accountPath t chain choice sender = .error f ∧
        f.code? = some .derivationError ∧ f.field? = some "sender") ∧
      (strict = false →
        (A.afterCalls calls).accountPath t chain choice sender =
          t.defaultPath (.text (Tag.normal chain)) choice ∧
        Alike ((A.afterCalls calls).accountPath t chain choice sender)
          (t.defaultPath (.text chain) choice))) ∧
    (∀ r : Registration,
      ((∃ A', (A.afterCalls calls).register r.1 r.2.1 r.2.2 = .ok A') ↔ r.IsTaken) ∧
      (¬ r.IsTaken → A.afterCalls (calls ++ [r]) = A.afterCalls calls ∧
        ∃ f, (A.afterCalls calls).register r.1 r.2.1 r.2.2 = .error f ∧
          f.code? = some .derivationError ∧ f.field? = some "account_path")) ∧
    (∀ a b m n, Marks a m → Marks b n → (normalSender a = normalSender b ↔ m = n)) ∧
    ∀ a b n, Marks a n →
      (normalSender b = normalSender a ↔
        IsMarked b ∧ hexadecimal? (strip b) = some (n : Int)) := by
  have hA : A.afterCalls calls = afterCalls ⟨seed, strict, []⟩ (accounts ++ calls) := by
    rw [eq_of_make h]
    exact List.foldl_append.symm
  have hstrict : (A.afterCalls calls).strict = strict := by
    rw [hA, strict_afterCalls]
  refine ⟨?_, ?_, ?_, fun a b m n => normalSender_eq_iff_of_marks, fun a b n ha => ?_⟩
  · intro earlier r later chain choice sender hcalls hr hkey hs hlater
    refine accountPath_of_lookup t choice hs ?_
    rw [hA, hcalls, ← hkey]
    exact lookup_afterCalls hr hlater
  · intro chain choice sender hnone
    have hlookup : ∀ s, sender = some s → s ≠ "" →
        (A.afterCalls calls).paths.lookup (Tag.normal chain, normalSender s) = none := by
      intro s hs hne
      rw [hA]
      exact lookup_afterCalls_of_forall (hnone s hs hne)
    have hanswer := accountPath_of_lookup_eq_none t choice hlookup
    rw [hstrict] at hanswer
    refine ⟨fun hstrict => ?_, fun hstrict => ?_⟩ <;> rw [hstrict] at hanswer
    · exact ⟨_, hanswer, rfl, rfl⟩
    · have hdefault := hanswer.trans (if_neg Bool.false_ne_true)
      refine ⟨hdefault, ?_⟩
      rw [hdefault]
      exact t.alike_defaultPath chain choice
  · intro r
    refine ⟨⟨?_, fun hr => ⟨_, register_of_isTaken hr⟩⟩, fun hr => ⟨?_, ?_⟩⟩
    · rintro ⟨A', hA'⟩
      by_contra hr
      rw [register_of_not_isTaken hr] at hA'
      cases hA'
    · unfold afterCalls
      rw [List.foldl_append]
      exact afterCall_of_not_isTaken hr
    · exact ⟨_, register_of_not_isTaken hr, rfl, rfl⟩
  · rw [normalSender_of_marks ha, normalSender_eq_numeral_iff]

/-- An account that is registered again under another spelling, and a call that is refused. -/
theorem accountPath_registeredAgain :
    let A : Accounts := ⟨[0], true, [(("SUI", "0xab"), "m/1")]⟩
    let A' := A.afterCalls [(" sui", "0X00AB ", "m/2"), ("SUI", "0xab", "")]
    make [0] true [("SUI", "0xab", "m/1")] = .ok A ∧
      A'.accountPath .standard "Sui" (.exactly .ed25519) (some "0xAb") = .ok "m/2" ∧
      ∃ f, A'.accountPath .standard "Sui" (.exactly .ed25519) none = .error f ∧
        f.code? = some .derivationError ∧ f.field? = some "sender" := by
  intro A A'
  have h : make [0] true [("SUI", "0xab", "m/1")] = .ok A := rfl
  obtain ⟨hlast, hnone, -⟩ :=
    accountPath_afterCalls h [(" sui", "0X00AB ", "m/2"), ("SUI", "0xab", "")] .standard
  have hrefused : ∀ r ∈ ([("SUI", "0xab", "")] : List Registration), r.IsTaken →
      r.key ≠ Registration.key (" sui", "0X00AB ", "m/2") := by
    rintro r hr htaken
    rw [List.mem_singleton.1 hr] at htaken
    exact absurd htaken (by decide)
  have hkey : Registration.key (" sui", "0X00AB ", "m/2") =
      (Tag.normal "Sui", normalSender "0xAb") := by
    decide +kernel
  refine ⟨h, ?_, ?_⟩
  · exact hlast [("SUI", "0xab", "m/1")] (" sui", "0X00AB ", "m/2") _ "Sui" _ "0xAb" rfl
      (by decide) hkey (by decide) hrefused
  · exact (hnone "Sui" _ none fun _ hs => nomatch hs).1 rfl

end Lookups

end Accounts

end Signatory
