import Signatory.Proofs.Starknet.Preparing

/-!
# Transfers as multicalls

A transfer of the native token can be stated as a multicall with one call, of the token's `transfer`
function with the recipient and the amount (`Transfer.IsCall`).

1. `Transfer.IsCall.toInvoke_iff`: both are made into the same transaction, or neither into any.
2. `prepareMulticall_iff_prepareTransfer`: so they are prepared alike, the multicall also from its
   JSON text.
-/

namespace Signatory.Starknet

open Outcome

/-! ## Field names -/

/-- The name of a field only stands in the refusal of its text. -/
theorem Felt.parse_congr {field field' s : String} {n : Nat} (h : parse field s = .ok n) :
    parse field' s = .ok n := by
  unfold parse at h ⊢
  dsimp only at h ⊢
  split at h
  · cases h
  · rename_i hne
    rw [if_neg hne]
    split at h
    · cases h
    · rename_i hshort
      rw [if_neg hshort]
      split at h
      · cases h
      · split at h
        · rename_i hlt
          rw [if_pos hlt]
          exact h
        · cases h

/-! ## Building -/

/-- A multicall whose one call is the transfer of a token amount: its target and selector are
numerals of the token contract and the `transfer` function, and all else is as the transfer states
it. -/
structure Transfer.IsCall (t : Transfer) (m : Multicall) : Prop where
  sender_eq : m.sender = t.sender
  nonce_eq : m.nonce = t.nonce
  chainId_eq : m.chainId = t.chainId
  maxFee_eq : m.maxFee = t.maxFee
  calls_eq : ∃ target selector, m.calls = [⟨target, selector, [t.recipient, t.amount]⟩] ∧
    Felt.parse "to" target = .ok tokenAddress ∧
    Felt.parse "selector" selector = .ok transferSelector

namespace Transfer.IsCall

variable {t : Transfer} {m : Multicall}

/-- The call of such a multicall is made from the recipient and the amount alone. -/
theorem calls_iff (h : t.IsCall m) {calls : List Call} :
    m.calls.mapM CallText.toCall = .ok calls ↔ ∃ recipient amount : Nat,
      Felt.parse "to" t.recipient = .ok recipient ∧ Felt.parse "amount" t.amount = .ok amount ∧
      calls = [⟨tokenAddress, transferSelector, [(recipient : Int), (amount : Int)]⟩] := by
  obtain ⟨target, selector, hcalls, htarget, hselector⟩ := h.calls_eq
  have hcall : CallText.toCall ⟨target, selector, [t.recipient, t.amount]⟩ =
      [t.recipient, t.amount].mapM (Felt.parse "call_data") >>= fun data =>
        .ok ⟨tokenAddress, transferSelector, data.map Int.ofNat⟩ := by
    unfold CallText.toCall
    rw [htarget, hselector]
    rfl
  rw [hcalls]
  simp only [List.mapM_cons, List.mapM_nil] at hcall ⊢
  rw [hcall]
  constructor
  · intro hmap
    obtain ⟨call, hcall, hmap⟩ := bind_eq_ok_iff.1 hmap
    obtain ⟨data, hdata, hcall⟩ := bind_eq_ok_iff.1 hcall
    obtain ⟨recipient, hrecipient, hdata⟩ := bind_eq_ok_iff.1 hdata
    obtain ⟨rest, hrest, hdata⟩ := bind_eq_ok_iff.1 hdata
    obtain ⟨amount, hamount, hrest⟩ := bind_eq_ok_iff.1 hrest
    cases hrest
    cases hdata
    cases hcall
    cases hmap
    exact ⟨recipient, amount, Felt.parse_congr hrecipient, Felt.parse_congr hamount, rfl⟩
  · rintro ⟨recipient, amount, hrecipient, hamount, rfl⟩
    rw [Felt.parse_congr hrecipient, Felt.parse_congr hamount]
    rfl

/-- Both are made into the same transaction, or neither into any. -/
theorem toInvoke_iff (h : t.IsCall m) {tx : Invoke} :
    m.toInvoke = .ok tx ↔ t.toInvoke = .ok tx := by
  have hne : m.calls ≠ [] := by
    obtain ⟨target, selector, hcalls, -⟩ := h.calls_eq
    rw [hcalls]
    exact List.cons_ne_nil _ _
  rw [Multicall.toInvoke_eq_ok_iff, Transfer.toInvoke_eq_ok_iff, h.sender_eq, h.nonce_eq,
    h.chainId_eq, h.maxFee_eq]
  constructor
  · rintro ⟨-, sender, fee, chain, nonce, calls, hsender, hcalls, hfee, hnonce, hchain, rfl⟩
    obtain ⟨recipient, amount, hrecipient, hamount, rfl⟩ := h.calls_iff.1 hcalls
    exact ⟨sender, recipient, amount, fee, chain, nonce, hsender, hrecipient, hamount, hfee, hchain,
      hnonce, rfl⟩
  · rintro ⟨sender, recipient, amount, fee, chain, nonce, hsender, hrecipient, hamount, hfee,
      hchain, hnonce, rfl⟩
    exact ⟨hne, sender, fee, chain, nonce, _, hsender,
      h.calls_iff.2 ⟨recipient, amount, hrecipient, hamount, rfl⟩, hfee, hnonce, hchain, rfl⟩

end Transfer.IsCall

/-! ## Preparing -/

/-- The unsigned transaction of a multicall. -/
def prepareMulticall (m : Multicall) : Traced (Unsigned Output) := do
  prepareInvoke (← m.toInvoke) m.maxFee m.nonce m.sender

theorem result_prepareMulticall (m : Multicall) : (prepareMulticall m).result =
    m.toInvoke >>= fun tx => tx.unsigned m.maxFee m.nonce m.sender := by
  unfold prepareMulticall
  simp only [Traced.result_bind, Traced.result_liftM, result_prepareInvoke]

/-- A raw transaction in JSON is prepared as the multicall that it holds. -/
theorem result_prepareRaw_multicall {raw : String} {m : Multicall} (h : IsMulticall raw m) :
    (prepareRaw raw).result = (prepareMulticall m).result := by
  rw [result_prepareRaw_object h.1, h.2, result_prepareMulticall]
  rfl

/-- A transfer and the multicall that states it are prepared to the same message, body and sender,
or neither is prepared; so is every JSON text of the multicall. -/
theorem prepareMulticall_iff_prepareTransfer {t : Transfer} {m : Multicall} (h : t.IsCall m)
    (u : Unsigned Output) :
    ((prepareMulticall m).result = .ok u ↔ (prepareTransfer t).result = .ok u) ∧
      ∀ raw, IsMulticall raw m →
        ((prepareRaw raw).result = .ok u ↔ (prepareTransfer t).result = .ok u) := by
  have hiff : (prepareMulticall m).result = .ok u ↔ (prepareTransfer t).result = .ok u := by
    rw [result_prepareMulticall, result_prepareTransfer, h.sender_eq, h.nonce_eq, h.maxFee_eq,
      bind_eq_ok_iff, bind_eq_ok_iff]
    exact exists_congr fun tx => and_congr_left fun _ => h.toInvoke_iff
  refine ⟨hiff, fun raw hraw => ?_⟩
  rw [result_prepareRaw_multicall hraw]
  exact hiff

/-- A transfer of a thousand units, with numbers in decimal and in hexadecimal. -/
def statedTransfer : Transfer where
  sender := "0xA"
  nonce := 3
  recipient := "17"
  amount := "0x3E8"
  maxFee := "250"
  chainId := "sn_sepolia"

/-- The same transfer as a multicall. -/
def statedMulticall : Multicall where
  sender := "0xA"
  calls := [⟨"0x049D36570D4E46F48E99674BD3FCC84644DDD6B96F7C741B1562B82F9E004DC7",
    Felt.text transferSelector, ["17", "0x3E8"]⟩]
  nonce := 3
  chainId := "sn_sepolia"
  maxFee := "250"

theorem prepareMulticall_statedMulticall : statedTransfer.IsCall statedMulticall ∧
    ∃ u, (prepareTransfer statedTransfer).result = .ok u ∧
      (prepareMulticall statedMulticall).result = .ok u := by
  have htarget : Felt.parse "to"
      "0x049D36570D4E46F48E99674BD3FCC84644DDD6B96F7C741B1562B82F9E004DC7" = .ok tokenAddress :=
    rfl
  have hcall : statedTransfer.IsCall statedMulticall :=
    ⟨rfl, rfl, rfl, rfl, _, _, rfl, htarget, Felt.parse_text (shortKeccak_lt _)⟩
  obtain ⟨tx, htx⟩ : ∃ tx, statedTransfer.toInvoke = .ok tx := exists_of_isOk (by decide +kernel)
  obtain ⟨u, hu⟩ := (Transfer.isInField htx).exists_unsigned (Transfer.length_lt htx)
    statedTransfer.maxFee statedTransfer.nonce statedTransfer.sender
  have hprepare : (prepareTransfer statedTransfer).result = .ok u := by
    rw [result_prepareTransfer]
    exact bind_eq_ok_iff.2 ⟨tx, htx, hu⟩
  exact ⟨hcall, u, hprepare, (prepareMulticall_iff_prepareTransfer hcall u).1.2 hprepare⟩

end Signatory.Starknet
