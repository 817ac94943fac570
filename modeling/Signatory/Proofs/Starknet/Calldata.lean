import Signatory.Proofs.Starknet.Hash

/-!
# The layout of calls

1. `calldata_injective`: no two lists of calls have the same layout, whatever their numbers and
   lengths.
2. `forall_calldata`: what holds for the numbers of all calls and for the numbers up to the size of
   the calls holds throughout the layout.
-/

namespace Signatory.Starknet

/-! ## The layout determines the calls -/

@[simp] theorem length_headers (offset : Nat) (calls : List Call) :
    (headers offset calls).length = 4 * calls.length := by
  induction calls generalizing offset with
  | nil => rfl
  | cons c calls ih =>
    simp only [headers, List.length_cons, ih]
    omega

/-- Headers and data together determine the calls: each header says how much of the data belongs
to its call. -/
theorem eq_of_headers {calls calls' : List Call} {offset : Nat}
    (hheaders : headers offset calls = headers offset calls')
    (hdata : calls.flatMap (·.calldata) = calls'.flatMap (·.calldata)) : calls = calls' := by
  induction calls generalizing offset calls' with
  | nil =>
    cases calls' with
    | nil => rfl
    | cons c' calls' => cases hheaders
  | cons c calls ih =>
    cases calls' with
    | nil => cases hheaders
    | cons c' calls' =>
      simp only [headers, List.cons.injEq, Int.natCast_inj] at hheaders
      obtain ⟨htarget, hselector, -, hlength, hrest⟩ := hheaders
      rw [List.flatMap_cons, List.flatMap_cons] at hdata
      obtain ⟨hc, htail⟩ := List.append_inj hdata hlength
      rw [← hlength] at hrest
      have heq : c = c' := by
        cases c
        cases c'
        simp only [Call.mk.injEq]
        exact ⟨htarget, hselector, hc⟩
      rw [heq, ih hrest htail]

theorem calldata_injective : Function.Injective calldata := by
  intro calls calls' h
  unfold calldata at h
  dsimp only at h
  rw [List.cons_append, List.cons_append, List.cons.injEq, Int.natCast_inj] at h
  obtain ⟨hcount, h⟩ := h
  obtain ⟨hheaders, h⟩ := List.append_inj h (by rw [length_headers, length_headers, hcount])
  exact eq_of_headers hheaders (List.cons.inj h).2

/-! ## The numbers in a layout -/

/-- How many calls there are and how much data they have, in total. -/
def size (calls : List Call) : Nat :=
  calls.length + (calls.flatMap (·.calldata)).length

theorem length_calldata (calls : List Call) :
    (calldata calls).length = 2 + 4 * calls.length + (calls.flatMap (·.calldata)).length := by
  unfold calldata
  simp only [List.cons_append, List.length_cons, List.length_append, length_headers]
  omega

theorem size_le_length_calldata (calls : List Call) : size calls ≤ (calldata calls).length := by
  rw [length_calldata]
  unfold size
  omega

/-- The numbers of a call. -/
def Call.numbers (c : Call) : List Int :=
  c.target :: c.selector :: c.calldata

theorem forall_headers {P : Int → Prop} {calls : List Call} {offset bound : Nat}
    (hcalls : ∀ c ∈ calls, P c.target ∧ P c.selector)
    (hbound : offset + (calls.flatMap (·.calldata)).length ≤ bound)
    (hsmall : ∀ n : Nat, n ≤ bound → P n) : ∀ x ∈ headers offset calls, P x := by
  induction calls generalizing offset with
  | nil => exact List.forall_mem_nil _
  | cons c calls ih =>
    rw [List.flatMap_cons, List.length_append] at hbound
    obtain ⟨hc, hcs⟩ := List.forall_mem_cons.1 hcalls
    simp only [headers, List.forall_mem_cons]
    refine ⟨hc.1, hc.2, hsmall _ (by omega), hsmall _ (by omega), ?_⟩
    exact ih hcs (by omega)

/-- A property of the numbers of the calls and of all counts holds of each number of the layout. -/
theorem forall_calldata {P : Int → Prop} {calls : List Call}
    (hcalls : ∀ c ∈ calls, ∀ n ∈ c.numbers, P n) (hsmall : ∀ n : Nat, n ≤ size calls → P n) :
    ∀ x ∈ calldata calls, P x := by
  unfold size at hsmall
  unfold calldata
  simp only [List.cons_append, List.forall_mem_cons, List.forall_mem_append]
  refine ⟨hsmall _ (by omega), ?_, hsmall _ (by omega), ?_⟩
  · have htargets : ∀ c ∈ calls, P c.target ∧ P c.selector := fun c hc =>
      ⟨hcalls c hc _ List.mem_cons_self,
        hcalls c hc _ (List.mem_cons_of_mem _ List.mem_cons_self)⟩
    have hoffsets : 0 + (calls.flatMap (·.calldata)).length ≤
        (calls.flatMap (·.calldata)).length := by omega
    exact forall_headers htargets hoffsets fun n hn => hsmall n (by omega)
  · intro x hx
    obtain ⟨c, hc, hxc⟩ := List.mem_flatMap.1 hx
    exact hcalls c hc x (List.mem_cons_of_mem _ (List.mem_cons_of_mem _ hxc))

end Signatory.Starknet
