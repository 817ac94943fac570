import Signatory.Proofs.Bcs.Codec
import Signatory.Sui.Encoding

/-!
# Addresses and type tags in transactions

What the serialized form of a transaction asks of its parts: `AllSized` addresses and type tags
that can be written. Type tags may be exchanged for others: the written form is the same if
each new tag is written like the old one (`TransactionOf.write_map`).
-/

namespace Signatory.Sui

open Bcs

/-- Addresses of the right length. -/
def AllSized (as : List Bytes) : Prop :=
  ∀ a ∈ as, a.length = addressLength

instance (as : List Bytes) : Decidable (AllSized as) :=
  inferInstanceAs (Decidable (∀ a ∈ as, a.length = addressLength))

/-! ## Addresses, ids and type tags -/

def ObjectRef.addresses (r : ObjectRef) : List Bytes := [r.id]

def CallArg.addresses : CallArg → List Bytes
  | owned ref | receiving ref => ref.addresses
  | shared id _ _ => [id]
  | pure _ | foreign _ => []

namespace CommandOf

variable {Tag Tag' : Type}

def addresses : CommandOf Tag → List Bytes
  | moveCall package _ _ _ _ => [package]
  | publish _ dependencies => dependencies
  | upgrade _ dependencies package _ => dependencies ++ [package]
  | _ => []

def typeTags : CommandOf Tag → List Tag
  | moveCall _ _ _ typeArguments _ => typeArguments
  | makeMoveVec (some t) _ => [t]
  | _ => []

/-- The command with its type tags replaced. -/
def map (f : Tag → Tag') : CommandOf Tag → CommandOf Tag'
  | moveCall package module function typeArguments arguments =>
    moveCall package module function (typeArguments.map f) arguments
  | transferObjects objects address => transferObjects objects address
  | splitCoins coin amounts => splitCoins coin amounts
  | mergeCoins destination sources => mergeCoins destination sources
  | publish modules dependencies => publish modules dependencies
  | makeMoveVec typeArgument elements => makeMoveVec (typeArgument.map f) elements
  | upgrade modules dependencies package ticket => upgrade modules dependencies package ticket
  | foreign label => foreign label

/-- Every address has its length and every type tag is in `PT`. -/
def Fits (PT : Tag → Prop) (c : CommandOf Tag) : Prop :=
  AllSized c.addresses ∧ ∀ t ∈ c.typeTags, PT t

end CommandOf

def GasData.addresses (g : GasData) : List Bytes :=
  g.owner :: g.payment.flatMap ObjectRef.addresses

namespace TransactionOf

variable {Tag Tag' : Type}

/-- Every object id, package, dependency, sender and gas owner. -/
def addresses (tx : TransactionOf Tag) : List Bytes :=
  tx.sender :: tx.gas.addresses ++ tx.inputs.flatMap CallArg.addresses ++
    tx.commands.flatMap CommandOf.addresses

def typeTags (tx : TransactionOf Tag) : List Tag :=
  tx.commands.flatMap CommandOf.typeTags

/-- The transaction with its type tags replaced and all else as it is. -/
def map (f : Tag → Tag') (tx : TransactionOf Tag) : TransactionOf Tag' :=
  { tx with commands := tx.commands.map (CommandOf.map f) }

/-- Every address has its length and every type tag is in `PT`. -/
def Fits (PT : Tag → Prop) (tx : TransactionOf Tag) : Prop :=
  AllSized tx.addresses ∧ ∀ t ∈ tx.typeTags, PT t

end TransactionOf

/-! ## Sized addresses -/

theorem allSized_singleton {a : Bytes} : AllSized [a] ↔ a.length = addressLength :=
  List.forall_mem_singleton

theorem allSized_nil : AllSized [] :=
  fun _ h => (List.not_mem_nil h).elim

theorem allSized_append {as bs : List Bytes} :
    AllSized (as ++ bs) ↔ AllSized as ∧ AllSized bs :=
  List.forall_mem_append

theorem allSized_flatMap {α : Type} {f : α → List Bytes} {as : List α} :
    AllSized (as.flatMap f) ↔ ∀ a ∈ as, AllSized (f a) := by
  unfold AllSized
  simp only [List.mem_flatMap, forall_exists_index, and_imp]
  exact ⟨fun h a ha b hb => h b a ha hb, fun h b a ha hb => h a ha b hb⟩

/-- A transaction fits if each of its parts does. -/
theorem TransactionOf.fits_iff {Tag : Type} {PT : Tag → Prop} {tx : TransactionOf Tag} :
    tx.Fits PT ↔ (∀ a ∈ tx.inputs, AllSized a.addresses) ∧ (∀ c ∈ tx.commands, c.Fits PT) ∧
      tx.sender.length = addressLength ∧ AllSized tx.gas.addresses := by
  unfold Fits addresses typeTags
  rw [allSized_append, allSized_append, allSized_flatMap, allSized_flatMap]
  constructor
  · rintro ⟨⟨⟨hsg, hi⟩, hc⟩, ht⟩
    obtain ⟨hs, hg⟩ := List.forall_mem_cons.1 hsg
    refine ⟨hi, fun c hmem => ⟨hc c hmem, fun t hmem' => ?_⟩, hs, hg⟩
    exact ht t (List.mem_flatMap.2 ⟨c, hmem, hmem'⟩)
  · rintro ⟨hi, hc, hs, hg⟩
    refine ⟨⟨⟨List.forall_mem_cons.2 ⟨hs, hg⟩, hi⟩, fun c hmem => (hc c hmem).1⟩, fun t hmem => ?_⟩
    obtain ⟨c, hmem', hmem⟩ := List.mem_flatMap.1 hmem
    exact (hc c hmem').2 t hmem

/-! ## Exchanged type tags -/

theorem seq_map {α β : Type} {w : α → Emission} {w' : β → Emission} {g : α → β} {as : List α}
    (h : ∀ a ∈ as, w' (g a) = w a) : Write.seq w' (as.map g) = Write.seq w as := by
  have hmap : as.map (w' ∘ g) = as.map w := List.map_congr_left h
  unfold Write.seq
  rw [List.length_map, List.map_map, hmap]

/-- What is written of a sequence has the items written. -/
theorem seq_eq_done {α : Type} {w : α → Emission} {as : List α} {bs : Bytes}
    (h : Write.seq w as = .done bs) : ∀ a ∈ as, ∃ xs, w a = .done xs := by
  obtain ⟨_, ys, -, hys, -⟩ := Emission.append_eq_done_iff.1 h
  clear h
  induction as generalizing ys with
  | nil => exact fun _ ha => (List.not_mem_nil ha).elim
  | cons a as ih =>
    obtain ⟨xs, zs, hx, hz, -⟩ := Emission.append_eq_done_iff.1 hys
    exact List.forall_mem_cons.2 ⟨⟨xs, hx⟩, ih zs hz⟩

namespace CommandOf

variable {Tag Tag' Tag'' : Type}

theorem typeTags_map (g : Tag → Tag') (c : CommandOf Tag) :
    (c.map g).typeTags = c.typeTags.map g := by
  rcases c with _ | _ | _ | _ | _ | ⟨_ | _, _⟩ | _ | _ <;> rfl

theorem addresses_map (g : Tag → Tag') (c : CommandOf Tag) : (c.map g).addresses = c.addresses := by
  rcases c with _ | _ | _ | _ | _ | _ | _ | _ <;> rfl

theorem map_map (f : Tag → Tag') (g : Tag' → Tag'') (c : CommandOf Tag) :
    (c.map f).map g = c.map fun t => g (f t) := by
  rcases c with ⟨_, _, _, ts, _⟩ | _ | _ | _ | _ | ⟨_ | _, _⟩ | _ | _
  case moveCall => exact congrArg (moveCall _ _ _ · _) List.map_map
  all_goals rfl

theorem map_id (c : CommandOf Tag) : c.map (fun t => t) = c := by
  rcases c with ⟨_, _, _, ts, _⟩ | _ | _ | _ | _ | ⟨_ | _, _⟩ | _ | _
  case moveCall => exact congrArg (moveCall _ _ _ · _) (List.map_id' ts)
  all_goals rfl

theorem map_congr {f g : Tag → Tag'} {c : CommandOf Tag} (h : ∀ t ∈ c.typeTags, f t = g t) :
    c.map f = c.map g := by
  rcases c with ⟨_, _, _, ts, _⟩ | _ | _ | _ | _ | ⟨_ | t, _⟩ | _ | _
  case moveCall => exact congrArg (moveCall _ _ _ · _) (List.map_congr_left h)
  case makeMoveVec.some => exact congrArg (fun t => makeMoveVec (some t) _) (h t List.mem_cons_self)
  all_goals rfl

theorem write_map {g : Tag → Tag'} {w : Tag → Emission} {w' : Tag' → Emission} {c : CommandOf Tag}
    (h : ∀ t ∈ c.typeTags, w' (g t) = w t) : (c.map g).write w' = c.write w := by
  rcases c with ⟨_, _, _, ts, _⟩ | _ | _ | _ | _ | ⟨_ | t, _⟩ | _ | _
  case moveCall =>
    have hts : Write.seq w' (ts.map g) = Write.seq w ts := seq_map h
    rw [map, write, write, hts]
  case makeMoveVec.some =>
    rw [map, Option.map_some, write, write, h t List.mem_cons_self]
  all_goals rfl

theorem write_eq_done {w : Tag → Emission} {c : CommandOf Tag} {bs : Bytes}
    (h : c.write w = .done bs) : ∀ t ∈ c.typeTags, ∃ xs, w t = .done xs := by
  rcases c with _ | _ | _ | _ | _ | ⟨_ | t, _⟩ | _ | _
  case moveCall =>
    obtain ⟨_, _, h, -, -⟩ := Emission.append_eq_done_iff.1 h
    obtain ⟨_, _, -, h, -⟩ := Emission.append_eq_done_iff.1 h
    exact seq_eq_done h
  case makeMoveVec.some =>
    obtain ⟨_, _, h, -, -⟩ := Emission.append_eq_done_iff.1 h
    obtain ⟨_, xs, -, h, -⟩ := Emission.append_eq_done_iff.1 h
    exact List.forall_mem_singleton.2 ⟨xs, h⟩
  all_goals exact List.forall_mem_nil _

end CommandOf

namespace TransactionOf

variable {Tag Tag' Tag'' : Type}

theorem typeTags_map (g : Tag → Tag') (tx : TransactionOf Tag) :
    (tx.map g).typeTags = tx.typeTags.map g := by
  show (tx.commands.map _).flatMap _ = (tx.commands.flatMap _).map g
  rw [List.flatMap_map, List.map_flatMap]
  simp only [CommandOf.typeTags_map]

theorem addresses_map (g : Tag → Tag') (tx : TransactionOf Tag) :
    (tx.map g).addresses = tx.addresses := by
  show _ ++ (tx.commands.map _).flatMap _ = _ ++ tx.commands.flatMap _
  rw [List.flatMap_map]
  simp only [CommandOf.addresses_map]
  rfl

theorem map_map (f : Tag → Tag') (g : Tag' → Tag'') (tx : TransactionOf Tag) :
    (tx.map f).map g = tx.map fun t => g (f t) := by
  unfold map
  rw [List.map_map]
  simp only [Function.comp_def, CommandOf.map_map]

theorem map_id (tx : TransactionOf Tag) : tx.map (fun t => t) = tx := by
  have hc : tx.commands.map (CommandOf.map fun t => t) = tx.commands :=
    (List.map_congr_left fun c _ => CommandOf.map_id c).trans (List.map_id' _)
  unfold map
  rw [hc]

theorem map_congr {f g : Tag → Tag'} {tx : TransactionOf Tag} (h : ∀ t ∈ tx.typeTags, f t = g t) :
    tx.map f = tx.map g := by
  have hc : tx.commands.map (CommandOf.map f) = tx.commands.map (CommandOf.map g) :=
    List.map_congr_left fun c hc =>
      CommandOf.map_congr fun t ht => h t (List.mem_flatMap.2 ⟨c, hc, ht⟩)
  unfold map
  rw [hc]

/-- Type tags written alike make transactions written alike. -/
theorem write_map {g : Tag → Tag'} {w : Tag → Emission} {w' : Tag' → Emission}
    {tx : TransactionOf Tag} (h : ∀ t ∈ tx.typeTags, w' (g t) = w t) :
    (tx.map g).write w' = tx.write w := by
  have hc : Write.seq (CommandOf.write w') (tx.commands.map (CommandOf.map g)) =
      Write.seq (CommandOf.write w) tx.commands :=
    seq_map fun c hc => CommandOf.write_map fun t ht => h t (List.mem_flatMap.2 ⟨c, hc, ht⟩)
  unfold map write
  rw [hc]

/-- What is written of a transaction has the type tags written. -/
theorem write_eq_done {w : Tag → Emission} {tx : TransactionOf Tag} {bs : Bytes}
    (h : tx.write w = .done bs) : ∀ t ∈ tx.typeTags, ∃ xs, w t = .done xs := by
  intro t ht
  obtain ⟨c, hc, ht⟩ := List.mem_flatMap.1 ht
  obtain ⟨_, _, h, -, -⟩ := Emission.append_eq_done_iff.1 h
  obtain ⟨_, _, h, -, -⟩ := Emission.append_eq_done_iff.1 h
  obtain ⟨_, _, h, -, -⟩ := Emission.append_eq_done_iff.1 h
  obtain ⟨_, _, -, h, -⟩ := Emission.append_eq_done_iff.1 h
  obtain ⟨xs, hxs⟩ := seq_eq_done h c hc
  exact CommandOf.write_eq_done hxs t ht

end TransactionOf

end Signatory.Sui
