import Signatory.Proofs.Bcs.Written
import Signatory.Proofs.Sui.Canonical

/-!
# What decoding makes of any bytes

1. `decode_prefixFree`: no accepted byte string is the beginning of another one, and what is refused
   is refused as malformed.
2. `decode_wellFormed`: bytes are refused as malformed, or decoded as a transaction whose addresses
   have their length and whose numbers are in range (`IsWellFormed`), or given up because type tags
   are nested too deep. A transaction has no more parts than there are bytes, whatever counts the
   bytes announce.

What is accepted is the written form of a transaction, so both are read off what the parts are
written as: a number that is written is in its range, and each part takes a byte.
-/

namespace Signatory.Sui

open Bcs Emission

/-! ## The parts of a transaction -/

namespace CallArg

/-- The version of the object, if the input is one. -/
def versions : CallArg → List Int
  | owned ref | receiving ref => [ref.version]
  | shared _ version _ => [version]
  | pure _ | foreign _ => []

end CallArg

namespace Argument

/-- The places that an argument refers to. -/
def indexes : Argument → List Int
  | gasCoin | foreign _ => []
  | input i | result i => [i]
  | nestedResult i j => [i, j]

end Argument

/-- What a command works on. -/
def CommandOf.arguments {Tag : Type} : CommandOf Tag → List Argument
  | moveCall _ _ _ _ arguments => arguments
  | transferObjects objects address => objects ++ [address]
  | splitCoins coin amounts => coin :: amounts
  | mergeCoins destination sources => destination :: sources
  | makeMoveVec _ elements => elements
  | upgrade _ _ _ ticket => [ticket]
  | publish _ _ | foreign _ => []

namespace TransactionOf

variable {Tag Tag' : Type}

def versions (tx : TransactionOf Tag) : List Int :=
  tx.gas.payment.map ObjectRef.version ++ tx.inputs.flatMap CallArg.versions

def arguments (tx : TransactionOf Tag) : List Argument :=
  tx.commands.flatMap CommandOf.arguments

/-- Addresses have their length, numbers are in range, and all parts are of a known kind. -/
structure IsWellFormed (tx : TransactionOf Tag) : Prop where
  addresses : AllSized tx.addresses
  versions : ∀ v ∈ tx.versions, Width.u64.Holds v
  price : Width.u64.Holds tx.gas.price
  budget : Width.u64.Holds tx.gas.budget
  expiration : ∀ epoch ∈ tx.expiration, Width.u64.Holds epoch
  indexes : ∀ a ∈ tx.arguments, ∀ i ∈ a.indexes, Width.u16.Holds i
  inputs : ∀ a ∈ tx.inputs, a.variant ≠ none
  commands : ∀ c ∈ tx.commands, c.variant ≠ none
  arguments : ∀ a ∈ tx.arguments, a.variant ≠ none

end TransactionOf

namespace TypeTag

mutual

/-- How many types are mentioned in a tree, itself included. -/
def size : TypeTag → Nat
  | primitive _ => 1
  | vector t => 1 + size t
  | struct _ _ _ parameters => 1 + sizes parameters

def sizes : List TypeTag → Nat
  | [] => 0
  | t :: ts => size t + sizes ts

end

end TypeTag

/-! ## Numbers that are written -/

theorem ObjectRef.holds_version {r : ObjectRef} (h : r.write.IsDone) :
    Width.u64.Holds r.version :=
  isDone_uint_iff.1 (isDone_append_iff.1 (isDone_append_iff.1 h).1).2

namespace CallArg

theorem variant_ne_none {a : CallArg} (h : a.write.IsDone) : a.variant ≠ none := by
  cases a with
  | foreign label => exact absurd h (not_isDone_stop _)
  | pure | owned | shared | receiving => exact Option.some_ne_none _

theorem holds_versions {a : CallArg} (h : a.write.IsDone) :
    ∀ v ∈ a.versions, Width.u64.Holds v := by
  cases a with
  | pure | foreign => exact List.forall_mem_nil _
  | owned ref | receiving ref =>
    have href : ref.write.IsDone := (isDone_append_iff.1 h).2
    exact List.forall_mem_singleton.2 (ObjectRef.holds_version href)
  | shared id version isMutable =>
    simp only [write, isDone_append_iff, isDone_uint_iff] at h
    exact List.forall_mem_singleton.2 h.1.2

end CallArg

namespace Argument

theorem variant_ne_none {a : Argument} (h : a.write.IsDone) : a.variant ≠ none := by
  cases a with
  | foreign label => exact absurd h (not_isDone_stop _)
  | gasCoin | input | result | nestedResult => exact Option.some_ne_none _

theorem holds_indexes {a : Argument} (h : a.write.IsDone) :
    ∀ i ∈ a.indexes, Width.u16.Holds i := by
  cases a with
  | gasCoin | foreign => exact List.forall_mem_nil _
  | input i | result i =>
    simp only [write, isDone_append_iff, isDone_uint_iff] at h
    exact List.forall_mem_singleton.2 h.2
  | nestedResult i j =>
    simp only [write, isDone_append_iff, isDone_uint_iff] at h
    exact List.forall_mem_cons.2 ⟨h.1.2, List.forall_mem_singleton.2 h.2⟩

end Argument

namespace CommandOf

variable {Tag Tag' : Type} {wt : Tag → Emission} {c : CommandOf Tag}

theorem arguments_map (g : Tag → Tag') (c : CommandOf Tag) : (c.map g).arguments = c.arguments := by
  cases c <;> rfl

theorem variant_map (g : Tag → Tag') (c : CommandOf Tag) : (c.map g).variant = c.variant := by
  cases c <;> rfl

theorem variant_ne_none (h : (c.write wt).IsDone) : c.variant ≠ none := by
  cases c with
  | foreign label => exact absurd h (not_isDone_stop _)
  | _ => exact Option.some_ne_none _

/-- The arguments of a command that is written are written. -/
theorem isDone_arguments (h : (c.write wt).IsDone) : ∀ a ∈ c.arguments, a.write.IsDone := by
  rcases c with ⟨_, _, _, _, arguments⟩ | ⟨objects, address⟩ | ⟨coin, amounts⟩ |
    ⟨destination, sources⟩ | ⟨_, _⟩ | ⟨_ | t, elements⟩ | ⟨_, _, _, ticket⟩ | _
  case publish | foreign => exact List.forall_mem_nil _
  all_goals simp only [write, isDone_append_iff] at h
  case moveCall | makeMoveVec.none | makeMoveVec.some => exact h.2.of_seq
  case transferObjects =>
    exact List.forall_mem_append.2 ⟨h.1.2.of_seq, List.forall_mem_singleton.2 h.2⟩
  case splitCoins | mergeCoins => exact List.forall_mem_cons.2 ⟨h.1.2, h.2.of_seq⟩
  case upgrade => exact List.forall_mem_singleton.2 h.2

end CommandOf

namespace TransactionOf

variable {Tag Tag' : Type} {wt : Tag → Emission} {tx : TransactionOf Tag}

theorem arguments_map (g : Tag → Tag') (tx : TransactionOf Tag) :
    (tx.map g).arguments = tx.arguments := by
  unfold arguments map
  rw [List.flatMap_map]
  simp only [CommandOf.arguments_map]

/-- Whatever the type tags are replaced by, the transaction stays well-formed. -/
theorem IsWellFormed.map (h : tx.IsWellFormed) (g : Tag → Tag') : (tx.map g).IsWellFormed := by
  refine { h with addresses := ?_, indexes := ?_, commands := ?_, arguments := ?_ }
  · rw [addresses_map]
    exact h.addresses
  · rw [arguments_map]
    exact h.indexes
  · refine List.forall_mem_map.2 fun c hc => ?_
    rw [CommandOf.variant_map]
    exact h.commands c hc
  · rw [arguments_map]
    exact h.arguments

theorem holds_expiration {e : Option Int} (h : (writeExpiration e).IsDone) :
    ∀ epoch ∈ e, Width.u64.Holds epoch := by
  rintro epoch ⟨⟩
  simp only [writeExpiration, isDone_append_iff, isDone_uint_iff] at h
  exact h.2

/-- A transaction that is written is well-formed if its addresses have their length. -/
theorem isWellFormed_of_write (ha : AllSized tx.addresses) (h : (tx.write wt).IsDone) :
    tx.IsWellFormed := by
  simp only [write, GasData.write, isDone_append_iff, isDone_uint_iff] at h
  obtain ⟨⟨⟨⟨⟨-, hinputs⟩, hcommands⟩, -⟩, ⟨⟨hpayment, -⟩, hprice⟩, hbudget⟩, hexpiration⟩ := h
  have harguments : ∀ a ∈ tx.arguments, a.write.IsDone := by
    intro a ha
    obtain ⟨c, hc, ha⟩ := List.mem_flatMap.1 ha
    exact CommandOf.isDone_arguments (hcommands.of_seq c hc) a ha
  refine
    { addresses := ha, price := hprice, budget := hbudget
      versions := List.forall_mem_append.2 ⟨?_, fun v hv => ?_⟩
      expiration := holds_expiration hexpiration
      indexes := fun a ha => Argument.holds_indexes (harguments a ha)
      inputs := fun a ha => CallArg.variant_ne_none (hinputs.of_seq a ha)
      commands := fun c hc => CommandOf.variant_ne_none (hcommands.of_seq c hc)
      arguments := fun a ha => Argument.variant_ne_none (harguments a ha) }
  · exact List.forall_mem_map.2 fun r hr => ObjectRef.holds_version (hpayment.of_seq r hr)
  · obtain ⟨a, ha, hv⟩ := List.mem_flatMap.1 hv
    exact CallArg.holds_versions (hinputs.of_seq a ha) v hv

end TransactionOf

/-! ## Bytes for each part -/

theorem ObjectRef.pays_write (r : ObjectRef) : r.write.Pays 1 :=
  ((pays_length _).append_left _).append_right _

theorem CallArg.pays_write (a : CallArg) : a.write.Pays 1 := by
  cases a with
  | foreign label => exact pays_stop _ _
  | pure value => exact (pays_length _).append_left _
  | owned ref | receiving ref => exact ((pays_length _).append_left _).append_left _
  | shared id version isMutable =>
    simp only [write, append_assoc]
    exact (pays_length _).append_left _

theorem Argument.pays_write (a : Argument) : a.write.Pays 1 := by
  cases a with
  | foreign label => exact pays_stop _ _
  | gasCoin => exact pays_length _
  | input i | result i => exact (pays_length _).append_left _
  | nestedResult i j => exact ((pays_length _).append_left _).append_left _

namespace TypeTag

mutual

/-- A tree takes at least one byte for each type in it. -/
theorem pays_write : ∀ t : TypeTag, t.write.Pays t.size
  | primitive p => by
    rw [write, size]
    exact pays_length _
  | vector t => by
    rw [write, size]
    exact (pays_length _).append (pays_write t)
  | struct address module name parameters => by
    rw [write, size, append_assoc, append_assoc, append_assoc, append_assoc]
    have hparameters := pays_writes parameters
    exact (pays_length _).append
      (((hparameters.append_right _).append_right _).append_right _ |>.append_right _)

theorem pays_writes : ∀ ts : List TypeTag, (writes ts).Pays (sizes ts)
  | [] => pays_zero _
  | t :: ts => by
    rw [writes, sizes]
    exact (pays_write t).append (pays_writes ts)

end

end TypeTag

namespace CommandOf

variable {Tag : Type} {wt : Tag → Emission} {size : Tag → Nat}

/-- A command, its arguments and the types in its type tags. -/
def partCount (size : Tag → Nat) (c : CommandOf Tag) : Nat :=
  1 + c.arguments.length + total size c.typeTags

theorem pays_write (ht : ∀ t, (wt t).Pays (size t)) (c : CommandOf Tag) :
    (c.write wt).Pays (c.partCount size) := by
  have hargs := pays_seq_length Argument.pays_write
  rcases c with ⟨package, module, function, ts, arguments⟩ | ⟨objects, address⟩ |
    ⟨coin, amounts⟩ | ⟨destination, sources⟩ | ⟨modules, dependencies⟩ | ⟨_ | t, elements⟩ |
    ⟨modules, dependencies, package, ticket⟩ | label
  case foreign => exact pays_stop _ _
  all_goals
    simp only [write, append_assoc, partCount, Nat.add_assoc]
    refine (pays_length _).append ?_
  case moveCall =>
    have hparts := (pays_seq ht ts).append (hargs arguments)
    rw [Nat.add_comm] at hparts
    exact ((hparts.append_right _).append_right _).append_right _
  case transferObjects =>
    simpa [arguments, typeTags] using (hargs objects).append address.pays_write
  case splitCoins =>
    simpa [arguments, typeTags, Nat.add_comm] using coin.pays_write.append (hargs amounts)
  case mergeCoins =>
    simpa [arguments, typeTags, Nat.add_comm] using destination.pays_write.append (hargs sources)
  case publish => exact pays_zero _
  case makeMoveVec.none => exact (hargs elements).append_right _
  case makeMoveVec.some =>
    have hparts := (ht t).append (hargs elements)
    rw [Nat.add_comm] at hparts
    exact hparts.append_right _
  case upgrade =>
    exact ((ticket.pays_write.append_right _).append_right _).append_right _

/-- The parts of commands, kind by kind. -/
theorem total_partCount (size : Tag → Nat) (cs : List (CommandOf Tag)) :
    total (partCount size) cs = cs.length + (cs.flatMap arguments).length +
      total size (cs.flatMap typeTags) := by
  induction cs with
  | nil => rfl
  | cons c cs ih =>
    simp only [total_cons, List.length_cons, List.flatMap_cons, List.length_append, total_append,
      ih, partCount]
    omega

end CommandOf

namespace TransactionOf

variable {Tag : Type} {wt : Tag → Emission} {size : Tag → Nat}

/-- A transaction takes a byte for each of its inputs, commands and arguments, for each type in
its type tags and for each gas coin. -/
theorem pays_write (ht : ∀ t, (wt t).Pays (size t)) (tx : TransactionOf Tag) :
    (tx.write wt).Pays (tx.inputs.length + tx.commands.length + tx.arguments.length +
      total size tx.typeTags + tx.gas.payment.length) := by
  have hinputs := pays_seq_length CallArg.pays_write tx.inputs
  have hcommands := pays_seq (CommandOf.pays_write ht) tx.commands
  have hpayment := pays_seq_length ObjectRef.pays_write tx.gas.payment
  rw [CommandOf.total_partCount] at hcommands
  have hgas : tx.gas.write.Pays tx.gas.payment.length :=
    ((hpayment.append_left _).append_left _).append_left _
  have hparts := (((hinputs.append_right (Write.length 0 ++ Write.length 0)).append
    hcommands).append_left (Write.fixed tx.sender)).append hgas
  refine (hparts.append_left _).mono (Nat.le_of_eq ?_)
  unfold arguments typeTags
  omega

end TransactionOf

/-! ## Any bytes -/

namespace Transaction

variable {n : Nesting}

/-- Bytes are decoded, refused as malformed or, if they are long enough, given up. -/
theorem decode_fails {data : Bytes} {e : Failure} (h : decode n data = .error e) :
    e.IsBadData ∨ e = .nestedTooDeep ∧ n.reading.levels ≤ data.length :=
  TransactionOf.decode_fails (TypeTag.isBounded_readText n.reading.le_refl) h

/-- Whatever stands behind accepted bytes is refused as malformed. -/
theorem decode_append {data : Bytes} {tx : Transaction} (h : decode n data = .ok tx)
    {rest : Bytes} (hrest : rest ≠ []) : ∃ e, decode n (data ++ rest) = .error e ∧ e.IsBadData := by
  have hcodec := TransactionOf.codec (TypeTag.codec_text n.reading)
  obtain ⟨raw, hfits, hw, -⟩ := hcodec.run_eq_ok_iff.1 h
  have hspan : Cursor.Spans ⟨0, data ++ rest⟩ data ⟨0 + data.length, rest⟩ := ⟨rfl, rfl⟩
  refine ⟨_, (IsBounded.run_of_ok (hcodec.reads hfits hw hspan)).trans (if_neg fun hnil => ?_),
    isBadData_unreadable _⟩
  exact hrest (List.isEmpty_iff.1 hnil)

/-- Whatever is cut off from accepted bytes, the rest is refused as malformed. -/
theorem decode_of_append {front rest : Bytes} {tx : Transaction}
    (h : decode n (front ++ rest) = .ok tx) (hrest : rest ≠ []) :
    ∃ e, decode n front = .error e ∧ e.IsBadData := by
  cases hfront : decode n front with
  | ok tx' =>
    exact absurd ((TransactionOf.codec (TypeTag.codec_text n.reading)).run_prefixFree hfront h) hrest
  | error e =>
    refine ⟨e, rfl, (decode_fails hfront).resolve_right fun he => ?_⟩
    -- What is given up would be given up with the rest behind it.
    rw [he.1] at hfront
    cases h.symm.trans (TransactionOf.decode_stays
      (TypeTag.isBounded_readText n.reading.le_refl) hfront rest)

/-- No accepted byte string is the beginning of another one: whatever is cut off or added, the
rest is refused as malformed. -/
theorem decode_prefixFree {data : Bytes} {tx : Transaction} (h : decode n data = .ok tx) :
    (∀ front, front <+: data → front ≠ data → ∃ e, decode n front = .error e ∧ e.IsBadData) ∧
    ∀ longer, data <+: longer → longer ≠ data →
      ∃ e, decode n longer = .error e ∧ e.IsBadData := by
  constructor
  · rintro front ⟨rest, rfl⟩ hne
    refine decode_of_append h fun hnil => hne ?_
    rw [hnil, List.append_nil]
  · rintro longer ⟨rest, rfl⟩ hne
    refine decode_append h fun hnil => hne ?_
    rw [hnil, List.append_nil]

set_option maxRecDepth 4000 in
theorem decode_prefixFree_vectorData :
    decode .standard vectorData = .ok (vectorTree.map TypeTag.text) ∧
      (∃ e, decode .standard (vectorData.take 60) = .error e ∧ e.IsBadData) ∧
      ∃ e, decode .standard (vectorData ++ [0]) = .error e ∧ e.IsBadData := by
  have h : decode .standard vectorData = .ok (vectorTree.map TypeTag.text) := rfl
  have hcut : vectorData.take 60 <+: vectorData := List.take_prefix 60 vectorData
  obtain ⟨hfront, hlonger⟩ := decode_prefixFree h
  exact ⟨h, hfront _ hcut (by decide), hlonger _ (List.prefix_append vectorData [0]) (by decide)⟩

/-- Bytes are refused as malformed, or they are the serialized form of a well-formed transaction
with no more parts than there are bytes, or they are given up, which takes as many bytes as there is
room for levels. More room changes no other answer. -/
theorem decode_wellFormed (n : Nesting) (data : Bytes) :
    ((∃ e, decode n data = .error e ∧ e.IsBadData) ∨
      (∃ tx raw, decode n data = .ok tx ∧ tx.IsWellFormed ∧
        TransactionOf.decode (TypeTag.read n.reading) data = .ok raw ∧
        raw.map TypeTag.text = tx ∧
        tx.inputs.length + tx.commands.length + tx.arguments.length +
          total TypeTag.size raw.typeTags + tx.gas.payment.length ≤ data.length) ∨
      (decode n data = .error .nestedTooDeep ∧ n.reading.levels ≤ data.length)) ∧
    ∀ n' : Nesting, n.reading ≤ n'.reading →
      decode n data = decode n' data ∨ decode n data = .error .nestedTooDeep := by
  refine ⟨?_, fun n' hle => TransactionOf.decode_agrees (TypeTag.isBounded_readText hle) data⟩
  cases h : decode n data with
  | error e =>
    rcases decode_fails h with he | ⟨rfl, hlength⟩
    · exact .inl ⟨e, rfl, he⟩
    · exact .inr (.inr ⟨rfl, hlength⟩)
  | ok tx =>
    obtain ⟨raw, hfits, hw, rfl⟩ :=
      (TransactionOf.decode_eq_ok_iff (TypeTag.codec_text n.reading)).1 h
    have hraw : TransactionOf.decode (TypeTag.read n.reading) data = .ok raw :=
      (TransactionOf.decode_eq_ok_iff (TypeTag.codec n.reading)).2
        ⟨raw, hfits, hw, TransactionOf.map_id raw⟩
    refine .inr (.inl ⟨_, raw, rfl, ?_, hraw, rfl, ?_⟩)
    · exact (TransactionOf.isWellFormed_of_write hfits.1 ⟨data, hw⟩).map TypeTag.text
    · have hparts := raw.pays_write TypeTag.pays_write data hw
      rw [TransactionOf.arguments_map]
      unfold TransactionOf.map
      rwa [List.length_map]

/-- Room for twice as many calls. -/
def twiceStandard : Nesting where
  reading := ⟨1960, 0, 2⟩
  writing := ⟨1960, 0, 1⟩
  reading_le := ⟨Nat.le_refl 1960, Nat.le_refl 0, Nat.le_succ 1⟩

set_option maxRecDepth 4000 in
theorem decode_wellFormed_vectorData :
    (∃ tx, decode .standard vectorData = .ok tx ∧ tx.IsWellFormed) ∧
      Nesting.standard.reading ≤ twiceStandard.reading ∧
      decode twiceStandard vectorData = .ok (vectorTree.map TypeTag.text) := by
  have h : decode .standard vectorData = .ok (vectorTree.map TypeTag.text) := rfl
  have hle : Nesting.standard.reading ≤ twiceStandard.reading :=
    ⟨by decide, Nat.le_refl 0, Nat.le_refl 2⟩
  obtain ⟨houtcome, hroom⟩ := decode_wellFormed .standard vectorData
  rw [h] at houtcome hroom
  refine ⟨?_, hle, ?_⟩
  · rcases houtcome with ⟨e, he, -⟩ | ⟨tx, raw, htx, hformed, -⟩ | ⟨hdeep, -⟩
    · cases he
    · exact ⟨tx, h.trans htx, hformed⟩
    · cases hdeep
  · rcases hroom twiceStandard hle with hsame | hdeep
    · exact hsame.symm
    · cases hdeep

/-- Two thousand opened vectors are neither decoded nor refused as malformed. -/
theorem openVectors_not_malformed :
    decode .standard (openVectors 2000) = .error .nestedTooDeep ∧
      ¬ Failure.nestedTooDeep.IsBadData :=
  ⟨decode_openVectors (by decide), not_isBadData_nestedTooDeep⟩

end Transaction

end Signatory.Sui
