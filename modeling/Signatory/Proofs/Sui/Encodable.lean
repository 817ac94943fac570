import Signatory.Proofs.Bcs.Failing
import Signatory.Proofs.Sui.Decoding
import Signatory.Proofs.Sui.Recovery

/-!
# Transfers that can be serialized

`encodes_or_refuses`: a transfer has a serialized form exactly if its parts are in order
(`IsStructured`) and each of its numbers fits in eight bytes. Otherwise it is refused as malformed if a
part is not in order, and for a number that is too large if all are: every check of a part comes before
all that could refuse a number.

1. Building and writing fail in a part or in the writing of a number (`failsIn_encode`), also for
   numbers of any length.
2. The numbers of a transfer that is serialized fit (`holds_of_encode`).
-/

namespace Signatory.Sui

open Bcs Outcome

/-! ## Parts of a transfer -/

/-- A text that stands for no address is refused. -/
theorem Address.failsIn_parse (field s : String) :
    FailsIn (fun f => (¬ ∃ a, Address.parse field s = .ok a) ∧ f.code? = some .malformedIntent)
      (Address.parse field s) := by
  intro f hf
  refine ⟨not_exists_of_eq_error hf, ?_⟩
  unfold Address.parse at hf
  dsimp only at hf
  split at hf
  · obtain rfl := Except.error.inj hf
    rfl
  · split at hf
    · cases hf
    · obtain rfl := Except.error.inj hf
      rfl

namespace Reference

/-- Id and digest have their length. -/
def IsSized (r : Reference) : Prop :=
  r.id.length = addressLength ∧ r.digest.length = addressLength

instance (r : Reference) : Decidable r.IsSized :=
  inferInstanceAs (Decidable (_ ∧ _))

/-- What a reference that is required becomes. -/
theorem require_eq_ok_iff {field : String} {r : Option Reference} {ref : ObjectRef} :
    require field r = .ok ref ↔
      ∃ r' ∈ r, r'.IsSized ∧ ref = ⟨r'.id, (r'.version : Int), r'.digest⟩ := by
  constructor
  · intro h
    refine ⟨ofObjectRef ref, eq_of_require h, require_eq_ok h, ?_⟩
    obtain rfl := eq_of_require h
    unfold require toObjectRef at h
    dsimp only at h
    split at h
    · cases h
    · split at h
      · cases h
      · exact (Except.ok.inj h).symm
  · rintro ⟨r', ⟨⟩, hsized, rfl⟩
    unfold require toObjectRef
    dsimp only
    rw [if_neg (not_not_intro hsized.1), if_neg (not_not_intro hsized.2)]

theorem isSized_of_require {field : String} {r : Option Reference} {ref : ObjectRef}
    (h : require field r = .ok ref) : ∃ r' ∈ r, r'.IsSized :=
  ⟨ofObjectRef ref, eq_of_require h, require_eq_ok h⟩

/-- A reference that is not given, or has other lengths, is refused. -/
theorem failsIn_require (field : String) (r : Option Reference) :
    FailsIn (fun f => (¬ ∃ r' ∈ r, r'.IsSized) ∧ f.code? = some .malformedIntent)
      (require field r) := by
  intro f hf
  constructor
  · rintro ⟨r', hr', hsized⟩
    exact not_exists_of_eq_error hf ⟨_, require_eq_ok_iff.2 ⟨r', hr', hsized, rfl⟩⟩
  · cases r with
    | none =>
      obtain rfl := Except.error.inj hf
      rfl
    | some r =>
      unfold require toObjectRef at hf
      dsimp only at hf
      split at hf
      · obtain rfl := Except.error.inj hf
        rfl
      · split at hf
        · obtain rfl := Except.error.inj hf
          rfl
        · cases hf

end Reference

/-- Only its version can keep a reference with a digest of the right length from being written. -/
theorem ObjectRef.failsIn_write {ref : ObjectRef} {P : Failure → Prop}
    (hdigest : ref.digest.length = addressLength)
    (hversion : (Write.uint .u64 ref.version).FailsIn P) : ref.write.FailsIn P := by
  have hlength : ref.digest.length < lengthLimit := by
    rw [hdigest]
    decide
  exact ((Emission.failsIn_done _).append hversion).append (Write.failsIn_byteVec hlength)

namespace Transfer

/-- The versions of the objects that a transfer mentions. -/
def versions (t : Transfer) : List Int :=
  (t.object.toList ++ t.gasPayment.toList).map fun r => (r.version : Int)

/-- The numbers of a transfer. -/
def numbers (t : Transfer) : List Int :=
  (t.gasPrice : Int) :: (t.gasBudget : Int) :: t.amount.toList.map Int.ofNat ++ t.versions

/-- Either an amount or an object is handed over, the addresses can be read, and each object that is
mentioned has an id and a digest of the right length. -/
structure IsStructured (t : Transfer) : Prop where
  kind : t.amount.isNone ≠ t.object.isNone
  recipient : ∃ a, Address.parse "recipient" t.recipient = .ok a
  sender : ∃ a, Address.parse "sender" t.sender = .ok a
  gas : ∃ r ∈ t.gasPayment, r.IsSized
  object : ∀ r ∈ t.object, r.IsSized

/-- A failure to write one of the numbers. -/
def IsMisfit (t : Transfer) (f : Failure) : Prop :=
  ∃ n ∈ t.numbers, (Write.uint .u64 n).failure = some f

/-- A failure for a part that is not in order or else for a number. -/
def IsFault (t : Transfer) (f : Failure) : Prop :=
  ¬ t.IsStructured ∧ f.code? = some .malformedIntent ∨ t.IsStructured ∧ t.IsMisfit f

variable {t : Transfer}

theorem price_mem_numbers (t : Transfer) : (t.gasPrice : Int) ∈ t.numbers :=
  List.mem_append_left _ List.mem_cons_self

theorem budget_mem_numbers (t : Transfer) : (t.gasBudget : Int) ∈ t.numbers :=
  List.mem_append_left _ (List.mem_cons_of_mem _ List.mem_cons_self)

theorem amount_mem_numbers {n : Nat} (h : t.amount = some n) : (n : Int) ∈ t.numbers := by
  unfold numbers
  rw [h]
  simp

theorem version_mem_numbers {r : Reference} (h : r ∈ t.object ∨ r ∈ t.gasPayment) :
    (r.version : Int) ∈ t.numbers := by
  refine List.mem_append_right _ (List.mem_map.2 ⟨r, List.mem_append.2 (h.imp ?_ ?_), rfl⟩) <;>
    exact Option.mem_toList.2

theorem nonneg_of_mem_numbers : ∀ n ∈ t.numbers, 0 ≤ n := by
  unfold numbers versions
  simp only [List.cons_append, List.forall_mem_cons, List.forall_mem_append, List.forall_mem_map]
  exact ⟨Int.natCast_nonneg _, Int.natCast_nonneg _, fun n _ => Int.natCast_nonneg n,
    fun r _ => Int.natCast_nonneg _, fun r _ => Int.natCast_nonneg _⟩

theorem failsIn_uint {n : Int} (hn : n ∈ t.numbers) : (Write.uint .u64 n).FailsIn t.IsMisfit :=
  fun _ hf => ⟨n, hn, hf⟩

/-! ## Building -/

/-- Only one of an amount and an object is given. -/
theorem object_eq_none (hkind : t.amount.isNone ≠ t.object.isNone) {n : Nat}
    (h : t.amount = some n) : t.object = none := by
  rw [h] at hkind
  cases hobject : t.object with
  | none => rfl
  | some r =>
    rw [hobject] at hkind
    exact absurd rfl hkind

theorem isSized_of_subject (hkind : t.amount.isNone ≠ t.object.isNone) {subject : CallArg}
    {commands : List Command} (h : t.subject = .ok (subject, commands)) :
    ∀ r ∈ t.object, r.IsSized := by
  intro r hr
  unfold Transfer.subject at h
  split at h
  · rename_i n hamount
    rw [object_eq_none hkind hamount] at hr
    cases hr
  · obtain ⟨ref, href, -⟩ := bind_eq_ok_iff.1 h
    obtain ⟨r', hr', hsized⟩ := Reference.isSized_of_require href
    obtain rfl := Option.mem_unique hr' hr
    exact hsized

/-- What is handed over is refused for the lengths of the object, or for the amount. -/
theorem failsIn_subject (hkind : t.amount.isNone ≠ t.object.isNone) :
    FailsIn (fun f => (¬ ∀ r ∈ t.object, r.IsSized) ∧ f.code? = some .malformedIntent ∨
      (∀ r ∈ t.object, r.IsSized) ∧ t.IsMisfit f) t.subject := by
  unfold Transfer.subject
  split
  · rename_i n hamount
    refine (failsIn_uint (amount_mem_numbers hamount)).result.imp (fun f hf => .inr ⟨?_, hf⟩)
      |>.bind fun amount _ => failsIn_ok _
    rw [object_eq_none hkind hamount]
    nofun
  · rename_i hamount
    refine (Reference.failsIn_require _ _).imp (fun f hf => .inl ⟨fun h => hf.1 ?_, hf.2⟩)
      |>.bind fun ref _ => failsIn_ok _
    cases hobject : t.object with
    | none =>
      rw [hamount, hobject] at hkind
      exact absurd rfl hkind
    | some r => exact ⟨r, rfl, h r hobject⟩

theorem isStructured_of_toTransaction {tx : Transaction} (h : t.toTransaction = .ok tx) :
    t.IsStructured := by
  obtain ⟨recipient, sender, gas, subject, commands, hkind, hrecipient, hsender, hgas, hsubject,
    -⟩ := toTransaction_eq_ok h
  exact ⟨hkind, ⟨_, hrecipient⟩, ⟨_, hsender⟩, Reference.isSized_of_require hgas,
    isSized_of_subject hkind hsubject⟩

theorem failsIn_toTransaction (t : Transfer) : FailsIn t.IsFault t.toTransaction := by
  unfold toTransaction
  split
  · rename_i hkind
    exact failsIn_error (.inl ⟨fun h => h.kind hkind, rfl⟩)
  · rename_i hkind
    refine ((Address.failsIn_parse _ _).imp fun f hf => .inl ⟨fun h => hf.1 h.recipient, hf.2⟩).bind
      fun recipient hrecipient => ?_
    refine ((Address.failsIn_parse _ _).imp fun f hf => .inl ⟨fun h => hf.1 h.sender, hf.2⟩).bind
      fun sender hsender => ?_
    refine ((Reference.failsIn_require _ _).imp fun f hf => .inl ⟨fun h => hf.1 h.gas, hf.2⟩).bind
      fun gas hgas => ?_
    refine ((failsIn_subject hkind).imp fun f hf => ?_).bind fun subject _ => failsIn_ok _
    refine hf.imp (fun hf => ⟨fun h => hf.1 h.object, hf.2⟩) fun hf => ⟨?_, hf.2⟩
    exact ⟨hkind, ⟨_, hrecipient⟩, ⟨_, hsender⟩, Reference.isSized_of_require hgas, hf.1⟩

/-! ## Writing -/

/-- The commands of a transfer hold no numbers of the caller. -/
theorem failsIn_writeCommands {P : Failure → Prop} {wt : String → Emission}
    {commands : List Command} (h : commands = amountCommands ∨ commands = objectCommands) :
    (Write.seq (CommandOf.write wt) commands).FailsIn P := by
  refine Emission.failsIn_of_none ?_
  rcases h with rfl | rfl
  · unfold amountCommands
    rfl
  · unfold objectCommands
    rfl

theorem failsIn_writeRef {field : String} {r : Option Reference} {ref : ObjectRef}
    (hr : ∀ r' ∈ r, r' ∈ t.object ∨ r' ∈ t.gasPayment)
    (href : Reference.require field r = .ok ref) : ref.write.FailsIn t.IsMisfit := by
  obtain ⟨r', hr', hsized, rfl⟩ := Reference.require_eq_ok_iff.1 href
  exact ObjectRef.failsIn_write hsized.2 (failsIn_uint (version_mem_numbers (hr r' hr')))

theorem failsIn_writeSubject {wt : String → Emission} {subject : CallArg}
    {commands : List Command} (h : t.subject = .ok (subject, commands)) :
    subject.write.FailsIn t.IsMisfit ∧
      (Write.seq (CommandOf.write wt) commands).FailsIn t.IsMisfit := by
  unfold Transfer.subject at h
  split at h
  · rename_i n _
    obtain ⟨amount, hamount, h⟩ := Outcome.bind_eq_ok_iff.1 h
    cases h
    obtain ⟨-, -, rfl⟩ := uint_eq_done_iff.1 (Emission.result_eq_ok_iff.1 hamount)
    refine ⟨(Write.failsIn_length (n := 0) (by decide)).append (Write.failsIn_byteVec ?_),
      failsIn_writeCommands (.inl rfl)⟩
    rw [Bytes.length_leBytes]
    decide
  · obtain ⟨ref, href, h⟩ := bind_eq_ok_iff.1 h
    obtain ⟨rfl, rfl⟩ := Prod.mk.inj (Except.ok.inj h)
    refine ⟨?_, failsIn_writeCommands (.inr rfl)⟩
    exact ((Write.failsIn_length (n := 1) (by decide)).append
      (Write.failsIn_length (n := 0) (by decide))).append (failsIn_writeRef (fun _ => .inl) href)

theorem failsIn_writeGas {gas : ObjectRef} {sender : Bytes}
    (hgas : Reference.require "gas_payment" t.gasPayment = .ok gas) :
    (GasData.write ⟨[gas], sender, t.gasPrice, t.gasBudget⟩).FailsIn t.IsMisfit := by
  have hpayment : ∀ ref ∈ [gas], ref.write.FailsIn t.IsMisfit :=
    List.forall_mem_singleton.2 (failsIn_writeRef (fun _ => .inr) hgas)
  have hcount : [gas].length < lengthLimit := by
    rw [List.length_singleton]
    decide
  exact (((Write.failsIn_seq hcount hpayment).append (Emission.failsIn_done _)).append
    (failsIn_uint t.price_mem_numbers)).append (failsIn_uint t.budget_mem_numbers)

/-- Only the numbers can keep a transaction that is built from being written. -/
theorem failsIn_write {wt : String → Emission} {tx : Transaction}
    (h : t.toTransaction = .ok tx) : (tx.write wt).FailsIn t.IsMisfit := by
  obtain ⟨recipient, sender, gas, subject, commands, -, hrecipient, -, hgas, hsubject, rfl⟩ :=
    toTransaction_eq_ok h
  obtain ⟨hwrite, hcommands⟩ := failsIn_writeSubject hsubject
  have htag : ∀ n : Nat, n < 2 → (Write.length n).FailsIn t.IsMisfit :=
    fun n hn => Write.failsIn_length (Nat.lt_trans hn (by decide))
  have hpure : (CallArg.pure recipient).write.FailsIn t.IsMisfit := by
    refine (htag 0 (by decide)).append (Write.failsIn_byteVec ?_)
    rw [Address.length_of_parse hrecipient]
    decide
  have hinputs : ∀ a ∈ [CallArg.pure recipient, subject], a.write.FailsIn t.IsMisfit := by
    simp only [List.forall_mem_cons]
    exact ⟨hpure, hwrite, List.forall_mem_nil _⟩
  have hcount : [CallArg.pure recipient, subject].length < lengthLimit := by
    rw [List.length_cons, List.length_singleton]
    decide
  -- The version and the kind of the transaction, its parts, and the mark that it does not expire.
  exact ((((((htag 0 (by decide)).append (htag 0 (by decide))).append
    (Write.failsIn_seq hcount hinputs)).append hcommands).append
    (Emission.failsIn_done _)).append (failsIn_writeGas hgas)).append (htag 0 (by decide))

/-! ## Serializing -/

theorem failsIn_encode (room : Nesting) (t : Transfer) : FailsIn t.IsFault (t.encode room) :=
  t.failsIn_toTransaction.bind fun _ htx =>
    (failsIn_write htx).result.imp fun _ hf => .inr ⟨isStructured_of_toTransaction htx, hf⟩

/-- The numbers of a transfer that is serialized fit. -/
theorem holds_of_encode {room : Nesting} {b : Bytes} (h : t.encode room = .ok b) :
    ∀ n ∈ t.numbers, Width.u64.Holds n := by
  obtain ⟨tx, htx, hb⟩ := bind_eq_ok_iff.1 h
  have hw := TransactionOf.isWellFormed_of_write (sized_of_toTransaction htx).2.1
    ⟨b, Emission.result_eq_ok_iff.1 hb⟩
  obtain ⟨recipient, sender, gas, subject, commands, hkind, -, -, hgas, hsubject, rfl⟩ :=
    toTransaction_eq_ok htx
  have hversions := List.forall_mem_append.1 hw.versions
  have hpaid : ∀ r ∈ t.gasPayment, Width.u64.Holds r.version := by
    intro r hr
    obtain ⟨r', hr', -, rfl⟩ := Reference.require_eq_ok_iff.1 hgas
    obtain rfl := Option.mem_unique hr' hr
    exact hversions.1 _ List.mem_cons_self
  have hhanded : (∀ n ∈ t.amount, Width.u64.Holds (n : Int)) ∧
      ∀ r ∈ t.object, Width.u64.Holds r.version := by
    rcases subject_eq_ok hsubject with ⟨value, hamount, hvalue, -, -⟩ |
      ⟨ref, hamount, hobject, rfl, -⟩
    · have hlt := Bytes.leNat_lt value
      rw [hvalue] at hlt
      rw [hamount, object_eq_none hkind hamount]
      refine ⟨?_, nofun⟩
      rintro _ ⟨⟩
      exact ⟨Int.natCast_nonneg _, Int.ofNat_lt.2 hlt⟩
    · have hversion : Width.u64.Holds ref.version := hversions.2 _ (by simp [CallArg.versions])
      rw [hamount, hobject]
      refine ⟨nofun, ?_⟩
      rintro _ ⟨⟩
      unfold Reference.ofObjectRef
      rwa [Int.toNat_of_nonneg hversion.1]
  unfold numbers versions
  simp only [List.cons_append, List.forall_mem_cons, List.forall_mem_append, List.forall_mem_map,
    Option.mem_toList]
  exact ⟨hw.price, hw.budget, hhanded.1, hhanded.2, hpaid⟩

/-- What a failure to write a number is, and says of the numbers. -/
theorem IsMisfit.cases {f : Failure} (h : t.IsMisfit f) :
    (¬ ∀ n ∈ t.numbers, n < Width.u64.limit) ∧
      (f.code? = some .numericOverflow ∨ f = .tooManyDigits ∧ HasLong t.numbers) := by
  obtain ⟨n, hn, hf⟩ := h
  have hpos := nonneg_of_mem_numbers n hn
  obtain ⟨hlarge, hf⟩ := Write.failsIn_uint hpos f hf
  exact ⟨fun hfits => hlarge ⟨hpos, hfits n hn⟩, hf.imp_right fun h => ⟨h.1, n, hn, h.2⟩⟩

/-- A transfer that is not serialized is refused, unless a number has too many digits to be named. -/
theorem refuses_encode (room : Nesting) (t : Transfer) :
    FailsIn (Failure.RefusesUnless (HasLong t.numbers)) (t.encode room) := by
  refine (t.failsIn_encode room).imp fun f hf => ?_
  rcases hf with ⟨-, hcode⟩ | ⟨-, hf⟩
  · exact .inl (Failure.isRefusal_of_code hcode)
  · exact hf.cases.2.imp_left Failure.isRefusal_of_code

/-- A transfer is serialized exactly if its parts are in order and each of its numbers fits in eight
bytes. Any other is refused, as malformed unless only a number is at fault. -/
theorem encodes_or_refuses (room : Nesting) (hshort : ¬ HasLong t.numbers) :
    ((∃ b, t.encode room = .ok b) ↔ t.IsStructured ∧ ∀ n ∈ t.numbers, n < Width.u64.limit) ∧
      ∀ f, t.encode room = .error f →
        (t.IsStructured → f.code? = some .numericOverflow) ∧
        (¬ t.IsStructured → f.code? = some .malformedIntent) := by
  refine ⟨⟨?_, ?_⟩, fun f hf => ?_⟩
  · rintro ⟨b, h⟩
    obtain ⟨tx, htx, -⟩ := bind_eq_ok_iff.1 h
    exact ⟨isStructured_of_toTransaction htx, fun n hn => (holds_of_encode h n hn).2⟩
  · rintro ⟨hstructured, hfits⟩
    cases h : t.encode room with
    | ok b => exact ⟨b, rfl⟩
    | error f =>
      rcases t.failsIn_encode room f h with ⟨hnot, -⟩ | ⟨-, hf⟩
      · exact absurd hstructured hnot
      · exact absurd hfits hf.cases.1
  · rcases t.failsIn_encode room f hf with ⟨hnot, hcode⟩ | ⟨hstructured, hf⟩
    · exact ⟨fun h => absurd h hnot, fun _ => hcode⟩
    · exact ⟨fun _ => hf.cases.2.resolve_right fun h => hshort h.2, fun h => absurd hstructured h⟩

/-- A transfer of the least amount that is too large. -/
def largeTransfer : Transfer :=
  { amountTransfer with amount := some Width.u64.limit }

/-- A large amount is reported as such, unless a part is missing as well. -/
theorem refuses_largeTransfer :
    (∃ f, largeTransfer.encode .standard = .error f ∧ f.code? = some .numericOverflow) ∧
      ∃ f, { largeTransfer with gasPayment := none }.encode .standard = .error f ∧
        f.code? = some .malformedIntent := by
  have hstructured : largeTransfer.IsStructured :=
    ⟨by decide, ⟨_, rfl⟩, ⟨_, rfl⟩, ⟨_, rfl, by decide⟩, nofun⟩
  have hunstructured : ¬ { largeTransfer with gasPayment := none }.IsStructured := by
    intro h
    obtain ⟨r, hr, -⟩ := h.gas
    cases hr
  obtain ⟨hiff, hcode⟩ := encodes_or_refuses (t := largeTransfer) .standard (by decide +kernel)
  obtain ⟨hiff', hcode'⟩ := encodes_or_refuses (t := { largeTransfer with gasPayment := none })
    .standard (by decide +kernel)
  constructor
  · cases h : largeTransfer.encode .standard with
    | ok b => exact absurd ((hiff.1 ⟨b, h⟩).2 _ (amount_mem_numbers rfl)) (Int.lt_irrefl _)
    | error f => exact ⟨f, rfl, (hcode f h).1 hstructured⟩
  · cases h : { largeTransfer with gasPayment := none }.encode .standard with
    | ok b => exact absurd (hiff'.1 ⟨b, h⟩).1 hunstructured
    | error f => exact ⟨f, rfl, (hcode' f h).2 hunstructured⟩

end Transfer

end Signatory.Sui
