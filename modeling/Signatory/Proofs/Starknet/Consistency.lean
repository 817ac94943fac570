import Signatory.Codec
import Signatory.Proofs.Starknet.Preparing
import Signatory.Proofs.Text.Numeral

/-!
# Signed transactions and the messages that were signed

A signed transaction is sent as texts, while the message that was signed is a hash of numbers.

1. `Output.rehashBy` recomputes the hash from the texts of an output, over any hash of lists.
2. `rehash_assemble`: for a transfer or a multicall it is the message that was signed, whatever the
   signature and the sender that is set before assembling.
-/

namespace Signatory.Starknet

open Outcome

/-! ## Hashing an output -/

/-- The number of a decimal numeral. -/
def readNonce (s : String) : Except Failure Int :=
  match Text.decimal? s with
  | some n => .ok n
  | none => .error (.notANumber "nonce" s)

/-- The hash recomputed from the texts of an output and the number of its network. -/
def Output.rehashBy (hashList : List Int → Except Failure Nat) (o : Output) (chainId : Nat) :
    Except Failure Nat := do
  let sender ← Felt.parse "contract_address" o.contractAddress
  let calldata ← o.calldata.mapM (Felt.parse "call_data")
  let maxFee ← Felt.parse "max_fee" o.maxFee
  let nonce ← readNonce o.nonce
  let calldataHash ← hashList (calldata.map Int.ofNat)
  hashList [shortText "invoke", 1, sender, 0, calldataHash, maxFee, chainId, nonce]

/-- The texts that fee, nonce and network of a transaction were read from. -/
structure Invoke.IsStated (tx : Invoke) (maxFee : String) (nonce : Int) (network : String) :
    Prop where
  fee_eq : ∃ n : Nat, Felt.parse "max_fee" maxFee = .ok n ∧ tx.maxFee = n
  nonce_eq : ∃ n : Nat, checkNonce nonce = .ok n ∧ tx.nonce = n
  chain_eq : ∃ n : Nat, Starknet.chainId network = .ok n ∧ tx.chainId = n

/-- A nonce has few digits. -/
theorem readNonce_signed {nonce : Int} {n : Nat} (h : checkNonce nonce = .ok n) :
    readNonce (Text.signed nonce) = .ok (n : Int) := by
  obtain ⟨rfl, hn⟩ := natCast_of_checkNonce h
  have hlimit : Bytes.capacity 8 ≤ Nat.pow 10 Text.digitLimit := by
    decide +kernel
  have hshort : Text.exceedsDigitLimit (n : Int) = false := by
    refine decide_eq_false ?_
    rw [Int.natAbs_natCast]
    omega
  unfold readNonce
  rw [Text.decimal?_signed hshort]

theorem mapM_parse_of_mapM_format {field : String} {ns : List Int} (hns : ∀ n ∈ ns, IsFelt n) :
    ∀ {texts : List String}, ns.mapM Felt.format = .ok texts →
      texts.mapM (Felt.parse field) = .ok (ns.map Int.toNat) := by
  induction ns with
  | nil =>
    intro texts h
    cases h
    rfl
  | cons n ns ih =>
    intro texts h
    obtain ⟨hn, hns⟩ := List.forall_mem_cons.1 hns
    rw [List.mapM_cons] at h
    obtain ⟨s, hs, h⟩ := bind_eq_ok_iff.1 h
    obtain ⟨rest, hrest, h⟩ := bind_eq_ok_iff.1 h
    cases h
    rw [List.mapM_cons, Felt.parse_format hn hs, ih hns hrest]
    rfl

theorem map_ofNat_toNat {ns : List Int} (hns : ∀ n ∈ ns, IsFelt n) :
    (ns.map Int.toNat).map Int.ofNat = ns := by
  rw [List.map_map]
  refine (List.map_congr_left fun n hn => ?_).trans (List.map_id ns)
  exact Int.toNat_of_nonneg (hns n hn).1

/-- An output that writes out the numbers of a transaction has its hash. -/
theorem Invoke.rehashBy_eq_hashBy {hashList : List Int → Except Failure Nat}
    (hlist : IsListHash hashList) {tx : Invoke} {h chain : Nat} {nonce : Int} {network : String}
    {o : Output} (hhash : tx.hashBy hashList = .ok h)
    (hstated : tx.IsStated o.maxFee nonce network) (hchain : Starknet.chainId network = .ok chain)
    (haddress : Felt.format tx.sender = .ok o.contractAddress)
    (hcalldata : (calldata tx.calls).mapM Felt.format = .ok o.calldata)
    (hnonce : o.nonce = Text.signed nonce) : o.rehashBy hashList chain = .ok h := by
  obtain ⟨c, hc, hsummary⟩ := hashBy_eq_ok_iff.1 hhash
  obtain ⟨⟨fee, hfee, hfeeEq⟩, ⟨n, hn, hnEq⟩, ⟨chain', hchain', hchainEq⟩⟩ := hstated
  obtain rfl : chain = chain' := Except.ok.inj (hchain.symm.trans hchain')
  obtain ⟨hfelts, hlt⟩ := hlist _ _ hc
  have hsender : IsFelt tx.sender :=
    (forall_summary hlt).1 (hlist _ _ hsummary).1 _ List.mem_cons_self
  have hnumber : readNonce o.nonce = .ok (n : Int) := by
    rw [hnonce]
    exact readNonce_signed hn
  have hlist : [(shortText "invoke" : Int), 1, tx.sender.toNat, 0, c, fee, chain, n] =
      tx.summary c := by
    unfold summary
    rw [Int.toNat_of_nonneg hsender.1, hfeeEq, hnEq, hchainEq]
    rfl
  unfold Output.rehashBy
  refine bind_eq_ok_iff.2 ⟨_, Felt.parse_format hsender haddress, ?_⟩
  refine bind_eq_ok_iff.2 ⟨_, mapM_parse_of_mapM_format hfelts hcalldata, ?_⟩
  refine bind_eq_ok_iff.2 ⟨fee, hfee, ?_⟩
  refine bind_eq_ok_iff.2 ⟨(n : Int), hnumber, ?_⟩
  refine bind_eq_ok_iff.2 ⟨c, ?_, ?_⟩
  · rw [map_ofNat_toNat hfelts]
    exact hc
  · rw [hlist]
    exact hsummary

/-! ## Preparing -/

theorem Transfer.isStated {t : Transfer} {tx : Invoke} (h : t.toInvoke = .ok tx) :
    tx.IsStated t.maxFee t.nonce t.chainId := by
  obtain ⟨-, -, -, fee, chain, nonce, -, -, -, hfee, hchain, hnonce, rfl⟩ := toInvoke_eq_ok_iff.1 h
  exact ⟨⟨fee, hfee, rfl⟩, ⟨nonce, hnonce, rfl⟩, ⟨chain, hchain, rfl⟩⟩

theorem Multicall.isStated {m : Multicall} {tx : Invoke} (h : m.toInvoke = .ok tx) :
    tx.IsStated m.maxFee m.nonce m.chainId := by
  obtain ⟨-, -, fee, chain, nonce, -, -, -, hfee, hnonce, hchain, rfl⟩ := toInvoke_eq_ok_iff.1 h
  exact ⟨⟨fee, hfee, rfl⟩, ⟨nonce, hnonce, rfl⟩, ⟨chain, hchain, rfl⟩⟩

/-- An input that states its transaction in full, as a transfer or as a multicall in JSON, and the
text of its network. -/
inductive Input.Names : Input → String → Prop
  | transfer (t : Transfer) : Names ⟨none, some t⟩ t.chainId
  | multicall {raw : String} {m : Multicall} (hm : IsMulticall raw m) :
    Names ⟨some raw, none⟩ m.chainId

/-- What an input is prepared as over a hash of lists. -/
def Input.preparedBy (hashList : List Int → Except Failure Nat) :
    Input → Except Failure (Unsigned Output)
  | ⟨none, some t⟩ => do
    let tx ← t.toInvoke
    tx.unsignedBy hashList t.maxFee t.nonce t.sender
  | ⟨some raw, none⟩ => do
    let m ← Multicall.ofJson (Text.strip raw)
    let tx ← m.toInvoke
    tx.unsignedBy hashList m.maxFee m.nonce m.sender
  | _ => .error (.rawOrTransfer "STARKNET" "starknet")

/-- The Pedersen hash is the one that inputs are prepared with. -/
theorem Input.Names.result_prepare {i : Input} {network : String} (hi : i.Names network)
    (n : Sui.Nesting) : (Codec.starknet.prepare n i).result = i.preparedBy hashElements := by
  cases hi with
  | transfer t => exact result_prepareTransfer t
  | multicall hm => exact result_prepareRaw_object hm.1

/-- Such an input is prepared from its transaction. -/
theorem Input.Names.exists_unsignedBy {hashList : List Int → Except Failure Nat} {i : Input}
    {network : String} {u : Unsigned Output} (hi : i.Names network)
    (hu : i.preparedBy hashList = .ok u) :
    ∃ tx maxFee nonce sender, Invoke.IsStated tx maxFee nonce network ∧
      tx.unsignedBy hashList maxFee nonce sender = .ok u := by
  cases hi with
  | transfer t =>
    obtain ⟨tx, htx, hu⟩ := bind_eq_ok_iff.1 hu
    exact ⟨tx, _, _, _, Transfer.isStated htx, hu⟩
  | @multicall raw m hm =>
    obtain ⟨m', hm', hu⟩ := bind_eq_ok_iff.1 hu
    obtain rfl : m = m' := Except.ok.inj (hm.2.symm.trans hm')
    obtain ⟨tx, htx, hu⟩ := bind_eq_ok_iff.1 hu
    exact ⟨tx, _, _, _, Multicall.isStated htx, hu⟩

/-! ## Assembling -/

theorem assemble_of_address {u : Unsigned Output} {signature : Signature}
    (h : u.body.contractAddress.isEmpty = false) :
    assemble u signature = .ok { u.body with signature := Text.Hex.encode signature.value } := by
  unfold assemble
  dsimp only
  rw [h, if_neg Bool.false_ne_true]
  rfl

/-- Whatever the signature and the sender, the hash that is recomputed from the assembled output is the
message that is signed. -/
def Rehashes (hashList : List Int → Except Failure Nat) (network : String) (u : Unsigned Output) :
    Prop :=
  ∀ (sender : Option String) (signature : Signature), ∃ o chain h,
    assemble { u with sender } signature = .ok o ∧ chainId network = .ok chain ∧
    o.rehashBy hashList chain = .ok h ∧ h < fieldPrime ∧
    u.payload.message = Bytes.beBytes 32 h

theorem rehashes_of_preparedBy {hashList : List Int → Except Failure Nat}
    (hlist : IsListHash hashList) {i : Input} {network : String} {u : Unsigned Output}
    (hi : i.Names network) (hu : i.preparedBy hashList = .ok u) :
    Rehashes hashList network u := by
  intro sender signature
  obtain ⟨tx, maxFee, nonce, stated, hstated, hu⟩ := hi.exists_unsignedBy hu
  obtain ⟨h, hhash, hu⟩ := bind_eq_ok_iff.1 hu
  obtain ⟨address, haddress, hu⟩ := bind_eq_ok_iff.1 hu
  obtain ⟨texts, htexts, hu⟩ := bind_eq_ok_iff.1 hu
  obtain rfl := Except.ok.inj hu
  obtain ⟨chain, hchain, -⟩ := hstated.chain_eq
  obtain ⟨c, -, hsummary⟩ := Invoke.hashBy_eq_ok_iff.1 hhash
  have hne : address.isEmpty = false := Felt.isEmpty_of_format haddress
  refine ⟨_, chain, h, assemble_of_address hne, hchain, ?_, (hlist _ _ hsummary).2, rfl⟩
  exact Invoke.rehashBy_eq_hashBy hlist hhash hstated hchain haddress htexts rfl

/-- The hash that is recomputed from an assembled transfer or multicall is the message that was
signed, for any hash of lists and so for the Pedersen hash. -/
theorem rehash_assemble {i : Input} {network : String} (hi : i.Names network) :
    (∀ hashList, IsListHash hashList → ∀ u, i.preparedBy hashList = .ok u →
      Rehashes hashList network u) ∧
    ∀ n u, (Codec.starknet.prepare n i).result = .ok u → Rehashes hashElements network u :=
  ⟨fun _ hlist _ hu => rehashes_of_preparedBy hlist hi hu,
    fun n _ hu => rehashes_of_preparedBy isListHash_hashElements hi
      ((hi.result_prepare n).symm.trans hu)⟩

/-- A transfer whose numbers are written in several ways. -/
def spelledTransfer : Transfer where
  sender := "0X0A"
  nonce := 7
  recipient := " 0x2 "
  amount := "1000"
  maxFee := "0x0a"
  chainId := "sn_main"

theorem rehash_assemble_spelledTransfer :
    Input.Names ⟨none, some spelledTransfer⟩ "sn_main" ∧
      (∃ u, Input.preparedBy Invoke.sumHash ⟨none, some spelledTransfer⟩ = .ok u ∧
        Rehashes Invoke.sumHash "sn_main" u) ∧
      ∃ u, (Codec.starknet.prepare .standard ⟨none, some spelledTransfer⟩).result = .ok u ∧
        Rehashes hashElements "sn_main" u := by
  obtain ⟨tx, htx⟩ : ∃ tx, spelledTransfer.toInvoke = .ok tx :=
    exists_of_isOk (by decide +kernel)
  have hnames : Input.Names ⟨none, some spelledTransfer⟩ "sn_main" := .transfer spelledTransfer
  obtain ⟨hby, hpedersen⟩ := rehash_assemble hnames
  have hfield := Transfer.isInField htx
  have hlength := Transfer.length_lt htx
  have hsize := Nat.lt_of_le_of_lt (size_le_length_calldata _) hlength
  have hcalldata : ∃ c < fieldPrime, Invoke.sumHash (calldata tx.calls) = .ok c :=
    ⟨_, Nat.lt_trans (Nat.mod_lt _ (by decide : 0 < 10)) (by decide),
      Invoke.sumHash_eq_ok_iff.2 ⟨hfield.isFelt_calldata hsize, rfl⟩⟩
  obtain ⟨c, hc, hcalldata⟩ := hcalldata
  have hsum := Invoke.hashBy_eq_ok_iff.2 ⟨c, hcalldata,
    Invoke.sumHash_eq_ok_iff.2 ⟨(Invoke.forall_summary hc).2 hfield.numbers, rfl⟩⟩
  obtain ⟨u, hu, -⟩ := hfield.exists_unsignedBy hsize hsum spelledTransfer.maxFee
    spelledTransfer.nonce spelledTransfer.sender
  have hu : Input.preparedBy Invoke.sumHash ⟨none, some spelledTransfer⟩ = .ok u :=
    bind_eq_ok_iff.2 ⟨tx, htx, hu⟩
  obtain ⟨v, hv⟩ := hfield.exists_unsigned hlength spelledTransfer.maxFee
    spelledTransfer.nonce spelledTransfer.sender
  have hprepare : (Codec.starknet.prepare .standard ⟨none, some spelledTransfer⟩).result =
      .ok v := by
    rw [hnames.result_prepare]
    exact bind_eq_ok_iff.2 ⟨tx, htx, hv⟩
  exact ⟨hnames, ⟨u, hu, hby _ Invoke.isListHash_sumHash u hu⟩, v, hprepare,
    hpedersen _ v hprepare⟩

end Signatory.Starknet
