import Signatory.Proofs.Bcs.Primitive
import Signatory.Proofs.Sui.Parts

/-!
# The layout of transactions

Every part of a transaction is read exactly as it is written, provided its addresses and object
ids have their length (`AllSized`). The codecs of commands and transactions take the codec of
type tags as an argument: `Transaction` has texts for them, the serialized form has trees.

The codec of each part follows the steps of its `read`.
-/

namespace Signatory.Sui

open Bcs

/-! ## Codecs of the parts -/

theorem addressCodec :
    Codec (fun a : Bytes => a) (fun a => a.length = addressLength) Write.fixed
      (Read.take addressLength) :=
  (Codec.take addressLength).congr (fun _ _ _ => Int.ofNat_inj) fun _ _ _ _ => rfl

theorem ObjectRef.codec :
    Codec (fun r : ObjectRef => r) (fun r => AllSized r.addresses) ObjectRef.write
      ObjectRef.read := by
  have hfields := (addressCodec.prod ((Codec.int .u64).prod Codec.byteVec)).map fun x =>
    ObjectRef.mk x.1 x.2.1 x.2.2
  simp only [map_eq_bind, bind_assoc, pure_bind] at hfields
  refine hfields.along (fun x => ⟨x.1, x.2.1, x.2.2⟩) ?_ ?_ ?_ fun _ _ => rfl
  · exact fun x hx => allSized_singleton.2 hx.1
  · exact fun r hr => ⟨(r.id, r.version, r.digest), ⟨allSized_singleton.1 hr, trivial, trivial⟩,
      rfl⟩
  · exact fun _ _ => Emission.append_assoc _ _ _

theorem isBadData_unknownVariant (type : String) (tag : Nat) :
    (Failure.unknownVariant type tag).IsBadData :=
  ⟨rfl, rfl⟩

namespace CallArg

/-- The variant tag of an input. -/
def variant : CallArg → Option Nat
  | pure _ => some 0
  | owned _ | shared _ _ _ | receiving _ => some 1
  | foreign _ => none

/-- The second variant tag of an object. -/
def objectVariant : CallArg → Option Nat
  | owned _ => some 0
  | shared _ _ _ => some 1
  | receiving _ => some 2
  | pure _ | foreign _ => none

theorem codec_object :
    Codec (fun a : CallArg => a) (fun a => AllSized a.addresses ∧ a.variant = some 1)
      (fun a => a.write.afterTag) readObject := by
  refine Codec.tagged objectVariant ?_ ?_ fun n => ?_
  · rintro (_ | _ | _ | _ | _) n - hn <;> cases hn
    all_goals
      simp only [write, Emission.append_assoc]
      rw [afterTag_append (by decide) (by decide), afterTag_append (by decide) (by decide)]
      rfl
  · rintro (_ | _ | _ | _ | _) bs ⟨-, hv⟩ hn <;> cases hn <;> cases hv
  · rcases n with _ | _ | _ | n
    · refine (ObjectRef.codec.map owned).along owned (fun _ h => ⟨⟨h, rfl⟩, rfl⟩) ?_ ?_
        fun _ _ => rfl
      · rintro (_ | ref | _ | _ | _) ⟨⟨ha, -⟩, hn⟩ <;> cases hn
        exact ⟨ref, ha, rfl⟩
      · intro ref _
        simp only [write, Emission.append_assoc]
        rw [afterTag_append (by decide) (by decide), afterTag_append (by decide) (by decide)]
    · have hfields := (addressCodec.prod ((Codec.int .u64).prod Codec.boolean)).map fun x =>
        shared x.1 x.2.1 x.2.2
      simp only [map_eq_bind, bind_assoc, pure_bind] at hfields
      refine hfields.along (fun x => shared x.1 x.2.1 x.2.2) ?_ ?_ ?_ fun _ _ => rfl
      · exact fun _ h => ⟨⟨allSized_singleton.2 h.1, rfl⟩, rfl⟩
      · rintro (_ | _ | ⟨id, version, isMutable⟩ | _ | _) ⟨⟨ha, -⟩, hn⟩ <;> cases hn
        exact ⟨(id, version, isMutable), ⟨allSized_singleton.1 ha, trivial, trivial⟩, rfl⟩
      · intro x _
        simp only [write, Emission.append_assoc]
        rw [afterTag_append (by decide) (by decide), afterTag_append (by decide) (by decide)]
    · refine (ObjectRef.codec.map receiving).along receiving (fun _ h => ⟨⟨h, rfl⟩, rfl⟩) ?_ ?_
        fun _ _ => rfl
      · rintro (_ | _ | _ | ref | _) ⟨⟨ha, -⟩, hn⟩ <;> cases hn
        exact ⟨ref, ha, rfl⟩
      · intro ref _
        simp only [write, Emission.append_assoc]
        rw [afterTag_append (by decide) (by decide), afterTag_append (by decide) (by decide)]
    · refine Codec.throw ?_
      rintro (_ | _ | _ | _ | _) ⟨-, hn⟩ <;> cases hn

theorem codec : Codec (fun a : CallArg => a) (fun a => AllSized a.addresses) write read := by
  refine Codec.tagged variant ?_ ?_ fun n => ?_
  · rintro (_ | _ | _ | _ | _) n - hn <;> cases hn
    all_goals
      simp only [write, Emission.append_assoc]
      rw [afterTag_append (by decide) (by decide)]
      rfl
  · rintro (_ | _ | _ | _ | _) bs - hn <;> cases hn
    exact Emission.stop_ne_done _ _
  · rcases n with _ | _ | n
    · refine (Codec.byteVec.map CallArg.pure).along CallArg.pure ?_ ?_ ?_ fun _ _ => rfl
      · exact fun _ _ => ⟨allSized_nil, rfl⟩
      · rintro (value | _ | _ | _ | _) ⟨-, hn⟩ <;> cases hn
        exact ⟨value, trivial, rfl⟩
      · exact fun _ _ => afterTag_append (by decide) (by decide) _
    · exact codec_object
    · refine Codec.throw ?_
      rintro (_ | _ | _ | _ | _) ⟨-, hn⟩ <;> cases hn

end CallArg

namespace Argument

/-- The variant tag of an argument. -/
def variant : Argument → Option Nat
  | gasCoin => some 0
  | input _ => some 1
  | result _ => some 2
  | nestedResult _ _ => some 3
  | foreign _ => none

theorem codec : Codec (fun a : Argument => a) (fun _ => True) write read := by
  have hindex : ∀ mk : Int → Argument, Codec mk (fun _ => True) (Write.uint .u16)
      (Read.uint .u16 >>= fun i => pure (mk i)) := by
    intro mk
    have h := (Codec.int .u16).map mk
    simp only [map_eq_bind, bind_assoc, pure_bind] at h
    exact h
  refine Codec.tagged variant ?_ ?_ fun n => ?_
  · rintro (_ | _ | _ | _ | _) n - hn <;> cases hn
    · rfl
    all_goals
      simp only [write, Emission.append_assoc]
      rw [afterTag_append (by decide) (by decide)]
      rfl
  · rintro (_ | _ | _ | _ | _) bs - hn <;> cases hn
    exact Emission.stop_ne_done _ _
  · rcases n with _ | _ | _ | _ | n
    · refine Codec.pure ?_ ?_ ⟨gasCoin, trivial, rfl⟩
      · rintro (_ | _ | _ | _ | _) ⟨-, hn⟩ <;> cases hn
        rfl
      · rintro (_ | _ | _ | _ | _) ⟨-, hn⟩ <;> cases hn
        rfl
    · refine (hindex input).along input (fun _ _ => ⟨trivial, rfl⟩) ?_ ?_ fun _ _ => rfl
      · rintro (_ | i | _ | _ | _) ⟨-, hn⟩ <;> cases hn
        exact ⟨i, trivial, rfl⟩
      · exact fun _ _ => afterTag_append (by decide) (by decide) _
    · refine (hindex result).along result (fun _ _ => ⟨trivial, rfl⟩) ?_ ?_ fun _ _ => rfl
      · rintro (_ | _ | i | _ | _) ⟨-, hn⟩ <;> cases hn
        exact ⟨i, trivial, rfl⟩
      · exact fun _ _ => afterTag_append (by decide) (by decide) _
    · have hfields := ((Codec.int .u16).prod (Codec.int .u16)).map fun x => nestedResult x.1 x.2
      simp only [map_eq_bind, bind_assoc, pure_bind] at hfields
      refine hfields.along (fun x => nestedResult x.1 x.2) (fun _ _ => ⟨trivial, rfl⟩) ?_ ?_
        fun _ _ => rfl
      · rintro (_ | _ | _ | ⟨i, j⟩ | _) ⟨-, hn⟩ <;> cases hn
        exact ⟨(i, j), ⟨trivial, trivial⟩, rfl⟩
      · intro x _
        simp only [write, Emission.append_assoc]
        rw [afterTag_append (by decide) (by decide)]
    · refine Codec.throw ?_
      rintro (_ | _ | _ | _ | _) ⟨-, hn⟩ <;> cases hn

end Argument

/-! ## Codecs of commands -/

namespace CommandOf

section Commands

variable {Tag Tag' : Type} {ft : Tag → Tag'} {PT : Tag → Prop} {wt : Tag → Emission}
  {rt : Reader Tag'}

/-- The variant tag of a command. -/
def variant : CommandOf Tag → Option Nat
  | moveCall _ _ _ _ _ => some 0
  | transferObjects _ _ => some 1
  | splitCoins _ _ => some 2
  | mergeCoins _ _ => some 3
  | publish _ _ => some 4
  | makeMoveVec _ _ => some 5
  | upgrade _ _ _ _ => some 6
  | foreign _ => none

/-- A type tag behind its flag. -/
def writeTypeArgument (tag : Tag → Emission) : Option Tag → Emission
  | none => Write.boolean false
  | some t => Write.boolean true ++ tag t

theorem codec_typeArgument (ht : Codec ft PT wt rt) :
    Codec (Option.map ft) (fun o => ∀ t ∈ o, PT t) (writeTypeArgument wt)
      (readTypeArgument rt) := by
  refine Codec.boolean.bind (p := Option.isSome)
    (u := fun o => (writeTypeArgument wt o).afterTag) ?_ (fun _ _ _ _ => trivial)
    fun b _ _ _ => ?_
  · rintro (_ | t) -
    · rfl
    · have htag := afterTag_append (n := 1) (by decide) (by decide) (wt t)
      exact congrArg (Write.boolean true ++ ·) htag.symm
  · cases b with
    | false =>
      refine Codec.pure ?_ ?_ ⟨none, fun _ h => (Option.not_mem_none _ h).elim, rfl⟩
      · rintro (_ | t) ⟨-, hn⟩ <;> cases hn
        rfl
      · rintro (_ | t) ⟨-, hn⟩ <;> cases hn
        rfl
    | true =>
      refine (ht.map some).along some ?_ ?_ ?_ fun _ _ => rfl
      · rintro t h
        exact ⟨fun t' h' => Option.mem_some.1 h' ▸ h, rfl⟩
      · rintro (_ | t) ⟨ha, hn⟩ <;> cases hn
        exact ⟨t, ha t rfl, rfl⟩
      · exact fun _ _ => afterTag_append (n := 1) (by decide) (by decide) _

/-- What follows the variant tag of a command. -/
theorem write_eq_afterTag {c : CommandOf Tag} {n : Nat} (hn : c.variant = some n) :
    c.write wt = Write.length n ++ (c.write wt).afterTag := by
  rcases c with _ | _ | _ | _ | _ | ⟨_ | _, _⟩ | _ | _ <;> cases hn
  all_goals
    simp only [write, Emission.append_assoc]
    rw [afterTag_append (by decide) (by decide)]
    rfl

theorem codec_moveCall (ht : Codec ft PT wt rt) :
    Codec (map ft) (fun c => c.Fits PT ∧ c.variant = some 0)
      (fun c => (write wt c).afterTag)
      (do
        let package ← Read.take addressLength
        let module ← Read.string
        let function ← Read.string
        let typeArguments ← Read.seq rt
        let arguments ← readArguments
        return moveCall package module function typeArguments arguments) := by
  have hfields := (addressCodec.prod (Codec.string.prod (Codec.string.prod (ht.seq.prod
    Argument.codec.seq_self)))).map fun x => moveCall x.1 x.2.1 x.2.2.1 x.2.2.2.1 x.2.2.2.2
  simp only [map_eq_bind, bind_assoc, pure_bind] at hfields
  refine hfields.along (fun x => moveCall x.1 x.2.1 x.2.2.1 x.2.2.2.1 x.2.2.2.2) ?_ ?_ ?_
    fun _ _ => rfl
  · rintro x ⟨ha, -, -, hts, -⟩
    exact ⟨⟨allSized_singleton.2 ha, hts⟩, rfl⟩
  · rintro (⟨package, module, function, ts, as⟩ | _ | _ | _ | _ | _ | _ | _) ⟨⟨ha, hts⟩, hn⟩ <;>
      cases hn
    exact ⟨(package, module, function, ts, as),
      ⟨allSized_singleton.1 ha, trivial, trivial, hts, fun _ _ => trivial⟩, rfl⟩
  · intro x _
    simp only [write, Emission.append_assoc]
    rw [afterTag_append (by decide) (by decide)]

theorem codec_transferObjects :
    Codec (map ft) (fun c => c.Fits PT ∧ c.variant = some 1) (fun c => (write wt c).afterTag)
      (do
        let objects ← readArguments
        let address ← Argument.read
        return transferObjects objects address) := by
  refine Codec.pair transferObjects Argument.codec.seq_self Argument.codec ?_ ?_ ?_ fun _ _ => rfl
  · exact fun _ _ _ _ => ⟨⟨allSized_nil, List.forall_mem_nil _⟩, rfl⟩
  · rintro (_ | ⟨objects, address⟩ | _ | _ | _ | _ | _ | _) ⟨-, hn⟩ <;> cases hn
    exact ⟨objects, address, fun _ _ => trivial, trivial, rfl⟩
  · intro _ _
    simp only [write, Emission.append_assoc]
    rw [afterTag_append (by decide) (by decide)]

theorem codec_splitCoins :
    Codec (map ft) (fun c => c.Fits PT ∧ c.variant = some 2) (fun c => (write wt c).afterTag)
      (do
        let coin ← Argument.read
        let amounts ← readArguments
        return splitCoins coin amounts) := by
  refine Codec.pair splitCoins Argument.codec Argument.codec.seq_self ?_ ?_ ?_ fun _ _ => rfl
  · exact fun _ _ _ _ => ⟨⟨allSized_nil, List.forall_mem_nil _⟩, rfl⟩
  · rintro (_ | _ | ⟨coin, amounts⟩ | _ | _ | _ | _ | _) ⟨-, hn⟩ <;> cases hn
    exact ⟨coin, amounts, trivial, fun _ _ => trivial, rfl⟩
  · intro _ _
    simp only [write, Emission.append_assoc]
    rw [afterTag_append (by decide) (by decide)]

theorem codec_mergeCoins :
    Codec (map ft) (fun c => c.Fits PT ∧ c.variant = some 3) (fun c => (write wt c).afterTag)
      (do
        let destination ← Argument.read
        let sources ← readArguments
        return mergeCoins destination sources) := by
  refine Codec.pair mergeCoins Argument.codec Argument.codec.seq_self ?_ ?_ ?_ fun _ _ => rfl
  · exact fun _ _ _ _ => ⟨⟨allSized_nil, List.forall_mem_nil _⟩, rfl⟩
  · rintro (_ | _ | _ | ⟨destination, sources⟩ | _ | _ | _ | _) ⟨-, hn⟩ <;> cases hn
    exact ⟨destination, sources, trivial, fun _ _ => trivial, rfl⟩
  · intro _ _
    simp only [write, Emission.append_assoc]
    rw [afterTag_append (by decide) (by decide)]

theorem codec_publish :
    Codec (map ft) (fun c => c.Fits PT ∧ c.variant = some 4) (fun c => (write wt c).afterTag)
      (do
        let modules ← Read.seq Read.byteVec
        let dependencies ← readAddresses
        return publish modules dependencies) := by
  refine Codec.pair publish Codec.byteVec.seq_self addressCodec.seq_self ?_ ?_ ?_ fun _ _ => rfl
  · exact fun _ _ _ hds => ⟨⟨hds, List.forall_mem_nil _⟩, rfl⟩
  · rintro (_ | _ | _ | _ | ⟨modules, dependencies⟩ | _ | _ | _) ⟨⟨ha, -⟩, hn⟩ <;> cases hn
    exact ⟨modules, dependencies, fun _ _ => trivial, ha, rfl⟩
  · intro _ _
    simp only [write, Emission.append_assoc]
    rw [afterTag_append (by decide) (by decide)]

theorem codec_makeMoveVec (ht : Codec ft PT wt rt) :
    Codec (map ft) (fun c => c.Fits PT ∧ c.variant = some 5) (fun c => (write wt c).afterTag)
      (do
        let typeArgument ← readTypeArgument rt
        let elements ← readArguments
        return makeMoveVec typeArgument elements) := by
  refine Codec.pair makeMoveVec (codec_typeArgument ht) Argument.codec.seq_self ?_ ?_ ?_
    fun _ _ => rfl
  · rintro (_ | t) elements hts -
    · exact ⟨⟨allSized_nil, List.forall_mem_nil _⟩, rfl⟩
    · exact ⟨⟨allSized_nil, List.forall_mem_singleton.2 (hts t rfl)⟩, rfl⟩
  · rintro (_ | _ | _ | _ | _ | ⟨_ | t, elements⟩ | _ | _) ⟨⟨-, hts⟩, hn⟩ <;> cases hn
    · exact ⟨none, elements, fun _ h => (Option.not_mem_none _ h).elim, fun _ _ => trivial, rfl⟩
    · refine ⟨some t, elements, fun t' h => ?_, fun _ _ => trivial, rfl⟩
      exact Option.mem_some.1 h ▸ hts t (List.mem_singleton.2 rfl)
  · rintro (_ | t) elements
    all_goals
      simp only [write, writeTypeArgument, Emission.append_assoc]
      rw [afterTag_append (by decide) (by decide)]
      rfl

theorem codec_upgrade :
    Codec (map ft) (fun c => c.Fits PT ∧ c.variant = some 6) (fun c => (write wt c).afterTag)
      (do
        let modules ← Read.seq Read.byteVec
        let dependencies ← readAddresses
        let package ← Read.take addressLength
        let ticket ← Argument.read
        return upgrade modules dependencies package ticket) := by
  have hfields := (Codec.byteVec.seq_self.prod (addressCodec.seq_self.prod (addressCodec.prod
    Argument.codec))).map fun x => (upgrade x.1 x.2.1 x.2.2.1 x.2.2.2 : CommandOf Tag')
  simp only [map_eq_bind, bind_assoc, pure_bind] at hfields
  refine hfields.along (fun x => upgrade x.1 x.2.1 x.2.2.1 x.2.2.2) ?_ ?_ ?_ fun _ _ => rfl
  · rintro x ⟨-, hds, hp, -⟩
    exact ⟨⟨allSized_append.2 ⟨hds, allSized_singleton.2 hp⟩, List.forall_mem_nil _⟩, rfl⟩
  · rintro (_ | _ | _ | _ | _ | _ | ⟨modules, dependencies, package, ticket⟩ | _) ⟨⟨ha, -⟩, hn⟩ <;>
      cases hn
    obtain ⟨hds, hp⟩ := allSized_append.1 ha
    exact ⟨(modules, dependencies, package, ticket),
      ⟨fun _ _ => trivial, hds, allSized_singleton.1 hp, trivial⟩, rfl⟩
  · intro x _
    simp only [write, Emission.append_assoc]
    rw [afterTag_append (by decide) (by decide)]

theorem codec (ht : Codec ft PT wt rt) :
    Codec (map ft) (fun c => c.Fits PT) (write wt) (read rt) := by
  refine Codec.tagged variant (fun _ _ _ hn => write_eq_afterTag hn) ?_ fun n => ?_
  · rintro (_ | _ | _ | _ | _ | _ | _ | _) bs - hn <;> cases hn
    exact Emission.stop_ne_done _ _
  · rcases n with _ | _ | _ | _ | _ | _ | _ | n
    · exact codec_moveCall ht
    · exact codec_transferObjects
    · exact codec_splitCoins
    · exact codec_mergeCoins
    · exact codec_publish
    · exact codec_makeMoveVec ht
    · exact codec_upgrade
    · refine Codec.throw ?_
      rintro (_ | _ | _ | _ | _ | _ | _ | _) ⟨-, hn⟩ <;> cases hn

end Commands

end CommandOf

/-! ## Codecs of transactions -/

theorem GasData.codec :
    Codec (fun g : GasData => g) (fun g => AllSized g.addresses) GasData.write GasData.read := by
  have hfields := (ObjectRef.codec.seq_self.prod (addressCodec.prod ((Codec.int .u64).prod
    (Codec.int .u64)))).map fun x => GasData.mk x.1 x.2.1 x.2.2.1 x.2.2.2
  simp only [map_eq_bind, bind_assoc, pure_bind] at hfields
  refine hfields.along (fun x => ⟨x.1, x.2.1, x.2.2.1, x.2.2.2⟩) ?_ ?_ ?_ fun _ _ => rfl
  · rintro x ⟨hps, ho, -⟩
    exact List.forall_mem_cons.2 ⟨ho, allSized_flatMap.2 hps⟩
  · rintro ⟨payment, owner, price, budget⟩ ha
    obtain ⟨ho, hps⟩ := List.forall_mem_cons.1 ha
    exact ⟨(payment, owner, price, budget), ⟨allSized_flatMap.1 hps, ho, trivial, trivial⟩, rfl⟩
  · intro x _
    simp only [write, Emission.append_assoc]

namespace TransactionOf

/-- The variant tag of an expiration. -/
def expirationVariant : Option Int → Option Nat
  | none => some 0
  | some _ => some 1

theorem codec_expiration :
    Codec (fun e : Option Int => e) (fun _ => True) writeExpiration readExpiration := by
  refine Codec.tagged expirationVariant ?_ ?_ fun n => ?_
  · rintro (_ | _) n - hn <;> cases hn
    · rfl
    · unfold writeExpiration
      rw [afterTag_append (by decide) (by decide)]
      rfl
  · rintro (_ | _) bs - hn <;> cases hn
  · rcases n with _ | _ | n
    · refine Codec.pure ?_ ?_ ⟨none, trivial, rfl⟩
      · rintro (_ | _) ⟨-, hn⟩ <;> cases hn
        rfl
      · rintro (_ | _) ⟨-, hn⟩ <;> cases hn
        rfl
    · have hepoch := (Codec.int .u64).map some
      simp only [map_eq_bind, bind_assoc, pure_bind] at hepoch
      refine hepoch.along some (fun _ _ => ⟨trivial, rfl⟩) ?_ ?_ fun _ _ => rfl
      · rintro (_ | epoch) ⟨-, hn⟩ <;> cases hn
        exact ⟨epoch, trivial, rfl⟩
      · exact fun _ _ => afterTag_append (by decide) (by decide) _
    · refine Codec.throw ?_
      rintro (_ | _) ⟨-, hn⟩ <;> cases hn

section Transactions

variable {Tag Tag' : Type} {ft : Tag → Tag'} {PT : Tag → Prop} {wt : Tag → Emission}
  {rt : Reader Tag'}

/-- The fields of a transaction, behind its version and kind. -/
theorem codec_fields (ht : Codec ft PT wt rt) :
    Codec (map ft) (Fits PT) (fun tx => (write wt tx).afterTag.afterTag)
      (do
        let inputs ← Read.seq CallArg.read
        let commands ← Read.seq (CommandOf.read rt)
        let sender ← Read.take addressLength
        let gas ← GasData.read
        let expiration ← readExpiration
        pure ⟨inputs, commands, sender, gas, expiration⟩) := by
  have hfields := (CallArg.codec.seq_self.prod ((CommandOf.codec ht).seq.prod (addressCodec.prod
    (GasData.codec.prod codec_expiration)))).map fun x =>
      TransactionOf.mk x.1 x.2.1 x.2.2.1 x.2.2.2.1 x.2.2.2.2
  simp only [map_eq_bind, bind_assoc, pure_bind] at hfields
  refine hfields.along (fun x => ⟨x.1, x.2.1, x.2.2.1, x.2.2.2.1, x.2.2.2.2⟩) ?_ ?_ ?_
    fun _ _ => rfl
  · rintro x ⟨hi, hc, hs, hg, -⟩
    exact fits_iff.2 ⟨hi, hc, hs, hg⟩
  · rintro ⟨inputs, commands, sender, gas, expiration⟩ h
    obtain ⟨hi, hc, hs, hg⟩ := fits_iff.1 h
    exact ⟨(inputs, commands, sender, gas, expiration), ⟨hi, hc, hs, hg, trivial⟩, rfl⟩
  · intro x _
    simp only [write, Emission.append_assoc]
    rw [afterTag_append (by decide) (by decide), afterTag_append (by decide) (by decide)]

theorem codec (ht : Codec ft PT wt rt) : Codec (map ft) (Fits PT) (write wt) (read rt) := by
  refine Codec.tagged (fun _ => some 0) ?_ (fun _ _ _ hn => nomatch hn) fun version => ?_
  · rintro tx n - ⟨⟩
    simp only [write, Emission.append_assoc]
    rw [afterTag_append (by decide) (by decide)]
    rfl
  · by_cases hversion : version = 0
    · subst hversion
      refine Codec.tagged (fun _ => some 0) ?_ (fun _ _ _ hn => nomatch hn) fun kind => ?_
      · rintro tx n - ⟨⟩
        simp only [write, Emission.append_assoc]
        rw [afterTag_append (by decide) (by decide), afterTag_append (by decide) (by decide)]
        rfl
      · by_cases hkind : kind = 0
        · subst hkind
          exact (codec_fields ht).congr (fun _ _ _ => by simp) fun _ _ _ _ => rfl
        · rw [if_pos hkind]
          exact Codec.throw fun _ ⟨_, h⟩ => hkind (Option.some.inj h).symm
    · rw [if_pos hversion]
      exact Codec.throw fun _ ⟨_, h⟩ => hversion (Option.some.inj h).symm

/-- A byte string is accepted exactly if it is the written form of a transaction. -/
theorem decode_eq_ok_iff (ht : Codec ft PT wt rt) {data : Bytes} {tx : TransactionOf Tag'} :
    decode rt data = .ok tx ↔ ∃ raw, Fits PT raw ∧ write wt raw = .done data ∧ map ft raw = tx :=
  (codec ht).run_eq_ok_iff

end Transactions

end TransactionOf

end Signatory.Sui
