import Signatory.Proofs.Starknet.Multicall

/-!
# What the hash of a transaction reads

`isHashable_of_toInvoke`: every number of a transaction that is made of a request is a field element
by the time it is hashed, so the hash exists and the transaction is prepared.

The hash of a list may be any that maps field elements to field elements (`IsFeltHash`), however long
the list is. The Pedersen hash also reads the length of the list, so for it the layout of the calls
may not be as long as the field is large.
-/

namespace Signatory.Starknet

open Outcome

/-- Lists of field elements have a hash, which is a field element. -/
def IsFeltHash (hashList : List Int → Except Failure Nat) : Prop :=
  ∀ ns, (∀ n ∈ ns, IsFelt n) → ∃ h, hashList ns = .ok h ∧ h < fieldPrime

/-- The Pedersen hash is one where the length of a list is not checked. -/
theorem isFeltHash_digest : IsFeltHash fun ns => .ok (digest ns) :=
  fun ns _ => ⟨digest ns, rfl, digest_lt ns⟩

namespace Invoke

/-- The outcome is an unsigned transaction, and the 32 bytes of its message hold the hash. -/
def IsPrepared (hash : Except Failure Nat) (outcome : Except Failure (Unsigned Output)) : Prop :=
  ∃ h u, hash = .ok h ∧ outcome = .ok u ∧ u.payload.message.length = 32 ∧
    Bytes.beNat u.payload.message = h

/-- All that is hashed or written out is a field element, and whatever hashes field elements prepares
the transaction. -/
structure IsHashable (tx : Invoke) : Prop where
  layout : ∀ n ∈ calldata tx.calls, IsFelt n
  summary : ∀ c < fieldPrime, ∀ n ∈ tx.summary c, IsFelt n
  texts : ∀ n ∈ tx.sender :: calldata tx.calls, ∃ s, Felt.format n = .ok s
  prepared : ∀ hashList, IsFeltHash hashList → ∀ maxFee nonce sender,
    IsPrepared (tx.hashBy hashList) (tx.unsignedBy hashList maxFee nonce sender)

variable {tx : Invoke}

theorem isPrepared_of_message {hash : Nat} {u : Unsigned Output} (hhash : hash < fieldPrime)
    (hmessage : u.payload.message = Bytes.beBytes 32 hash) : IsPrepared (.ok hash) (.ok u) := by
  refine ⟨hash, u, rfl, rfl, ?_, ?_⟩
  · rw [hmessage, Bytes.length_beBytes]
  · rw [hmessage, Bytes.beNat_beBytes, Nat.mod_eq_of_lt (Nat.lt_trans hhash fieldPrime_lt)]

theorem lt_of_hash {h : Nat} (hh : tx.hash = .ok h) : h < fieldPrime := by
  obtain ⟨c, -, hsummary⟩ := hash_eq_ok_iff.1 hh
  exact lt_of_hashElements hsummary

theorem IsInField.exists_hashBy (h : tx.IsInField) (hsize : size tx.calls < fieldPrime)
    {hashList : List Int → Except Failure Nat} (hlist : IsFeltHash hashList) :
    ∃ hash, tx.hashBy hashList = .ok hash ∧ hash < fieldPrime := by
  obtain ⟨c, hc, hlt⟩ := hlist _ (h.isFelt_calldata hsize)
  obtain ⟨hash, hhash, hbound⟩ := hlist _ ((forall_summary hlt).2 h.numbers)
  exact ⟨hash, bind_eq_ok_iff.2 ⟨c, hc, hhash⟩, hbound⟩

theorem IsInField.isHashable (h : tx.IsInField) (hsize : size tx.calls < fieldPrime) :
    tx.IsHashable where
  layout := h.isFelt_calldata hsize
  summary _ hc := (forall_summary hc).2 h.numbers
  texts := by
    have hsender : IsFelt tx.sender := h.numbers _ List.mem_cons_self
    intro n hn
    exact ⟨_, Felt.format_eq (List.forall_mem_cons.2 ⟨hsender, h.isFelt_calldata hsize⟩ n hn)⟩
  prepared hashList hlist maxFee nonce sender := by
    obtain ⟨hash, hhash, hlt⟩ := h.exists_hashBy hsize hlist
    obtain ⟨u, hu, hmessage⟩ := h.exists_unsignedBy hsize hhash maxFee nonce sender
    rw [hhash, hu]
    exact isPrepared_of_message hlt hmessage

/-- With the Pedersen hash, the layout may not be as long as the field is large. -/
theorem IsInField.isPrepared (h : tx.IsInField) (hlength : (calldata tx.calls).length < fieldPrime)
    (maxFee : String) (nonce : Int) (sender : String) :
    IsPrepared tx.hash (tx.unsigned maxFee nonce sender) := by
  obtain ⟨hash, u, hhash, hu, hmessage⟩ := h.exists_hash_unsigned hlength maxFee nonce sender
  rw [hhash, hu]
  exact isPrepared_of_message (lt_of_hash hhash) hmessage

end Invoke

/-! ## Requests -/

/-- How many calls a multicall has and how much data they state, in total. -/
def Multicall.size (m : Multicall) : Nat :=
  m.calls.length + (m.calls.flatMap (·.calldata)).length

theorem CallText.length_of_toCall {c : CallText} {call : Call} (h : c.toCall = .ok call) :
    call.calldata.length = c.calldata.length := by
  obtain ⟨target, -, h⟩ := bind_eq_ok_iff.1 h
  obtain ⟨selector, -, h⟩ := bind_eq_ok_iff.1 h
  obtain ⟨data, hdata, h⟩ := bind_eq_ok_iff.1 h
  obtain rfl := Except.ok.inj h
  rw [List.length_map]
  exact length_of_mapM_eq_ok hdata

/-- Reading a multicall leaves its size. -/
theorem Multicall.size_of_toInvoke {m : Multicall} {tx : Invoke} (h : m.toInvoke = .ok tx) :
    Starknet.size tx.calls = m.size := by
  obtain ⟨-, -, -, -, -, calls, -, hcalls, -, -, -, rfl⟩ := toInvoke_eq_ok_iff.1 h
  obtain ⟨ps, hps, rfl, hread⟩ := mapM_eq_ok_iff.1 hcalls
  have hdata : ps.map (fun p => p.2.calldata.length) = ps.map (fun p => p.1.calldata.length) :=
    List.map_congr_left fun p hp => CallText.length_of_toCall (hread p hp)
  unfold Multicall.size Starknet.size
  rw [← hps]
  simp only [List.length_map, List.length_flatMap, List.map_map, Function.comp_def, hdata]

/-- A transaction that is made of a request hashes field elements only and is prepared. A multicall
may not have as many calls and data as there are field elements, nor, for the Pedersen hash, a layout
of that length. -/
theorem isHashable_of_toInvoke :
    (∀ (t : Transfer) (tx : Invoke), t.toInvoke = .ok tx →
      tx.IsHashable ∧ Invoke.IsPrepared tx.hash (prepareTransfer t).result) ∧
    ∀ (m : Multicall) (tx : Invoke), m.toInvoke = .ok tx → m.size < fieldPrime →
      tx.IsHashable ∧ ((calldata tx.calls).length < fieldPrime →
        Invoke.IsPrepared tx.hash (prepareMulticall m).result) := by
  constructor
  · intro t tx htx
    have hfield := Transfer.isInField htx
    have hlength := Transfer.length_lt htx
    refine ⟨hfield.isHashable (Nat.lt_of_le_of_lt (size_le_length_calldata _) hlength), ?_⟩
    rw [result_prepareTransfer, bind_of_eq_ok htx]
    exact hfield.isPrepared hlength _ _ _
  · intro m tx htx hsize
    have hfield := Multicall.isInField htx
    rw [← Multicall.size_of_toInvoke htx] at hsize
    refine ⟨hfield.isHashable hsize, fun hlength => ?_⟩
    rw [result_prepareMulticall, bind_of_eq_ok htx]
    exact hfield.isPrepared hlength _ _ _

/-- A multicall of two calls, the second one without data. -/
def mixedMulticall : Multicall where
  sender := "0xA"
  calls := [⟨"16", "0x11", ["2", "1000"]⟩, ⟨"32", "0x21", []⟩]
  nonce := 3
  chainId := "sn_sepolia"
  maxFee := "250"

theorem isHashable_mixedMulticall : ∃ tx, mixedMulticall.toInvoke = .ok tx ∧
    calldata tx.calls = [2, 16, 17, 0, 2, 32, 33, 2, 0, 2, 2, 1000] ∧ tx.IsHashable ∧
    Invoke.IsPrepared (tx.hashBy fun ns => .ok (digest ns))
      (tx.unsignedBy (fun ns => .ok (digest ns)) "250" 3 "0xA") ∧
    Invoke.IsPrepared tx.hash (prepareMulticall mixedMulticall).result := by
  obtain ⟨tx, htx, hcalls⟩ : ∃ tx, mixedMulticall.toInvoke = .ok tx ∧
      tx.calls = [⟨16, 17, [2, 1000]⟩, ⟨32, 33, []⟩] := ⟨_, rfl, rfl⟩
  have hlength : (calldata tx.calls).length < fieldPrime := by
    rw [hcalls]
    decide
  obtain ⟨hhashable, hprepared⟩ := isHashable_of_toInvoke.2 mixedMulticall tx htx (by decide)
  refine ⟨tx, htx, ?_, hhashable, ?_, hprepared hlength⟩
  · rw [hcalls]
    rfl
  · exact hhashable.prepared _ isFeltHash_digest _ _ _

end Signatory.Starknet
