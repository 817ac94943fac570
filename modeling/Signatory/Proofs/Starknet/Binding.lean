import Signatory.Proofs.Starknet.Calldata

/-!
# What the hash of a transaction binds

The hash of an invoke transaction is a hash of eight numbers, one of them the hash of the calldata.

1. `Invoke.hashBy` leaves the hash of lists open.
2. `Invoke.exists_hash`: a transaction of field elements has a Pedersen hash.
3. `Invoke.hash_binds`: transactions with the same hash are equal, or two lists that were hashed on
   the way collide, whatever the hash of lists is.
-/

namespace Signatory.Starknet.Invoke

open Outcome

variable {hashList : List Int → Except Failure Nat} {tx tx' : Invoke} {h : Nat}

/-- The hash of a transaction over a hash of lists. -/
def hashBy (hashList : List Int → Except Failure Nat) (tx : Invoke) : Except Failure Nat := do
  let calldataHash ← hashList (calldata tx.calls)
  hashList (tx.summary calldataHash)

theorem hash_eq_hashBy (tx : Invoke) : tx.hash = tx.hashBy hashElements := rfl

theorem hashBy_eq_ok_iff : tx.hashBy hashList = .ok h ↔
    ∃ c, hashList (calldata tx.calls) = .ok c ∧ hashList (tx.summary c) = .ok h :=
  bind_eq_ok_iff

theorem hash_eq_ok_iff : tx.hash = .ok h ↔
    ∃ c, hashElements (calldata tx.calls) = .ok c ∧ hashElements (tx.summary c) = .ok h :=
  hashBy_eq_ok_iff

theorem mark_lt : mark < fieldPrime := by
  decide

/-- The numbers of a transaction besides its calls. -/
def numbers (tx : Invoke) : List Int :=
  [tx.sender, tx.maxFee, tx.chainId, tx.nonce]

theorem forall_summary {c : Nat} (hc : c < fieldPrime) :
    (∀ n ∈ tx.summary c, IsFelt n) ↔ ∀ n ∈ tx.numbers, IsFelt n := by
  have hmark : IsFelt mark := isFelt_natCast.2 mark_lt
  have hversion : IsFelt version := by decide
  have hzero : IsFelt 0 := by decide
  unfold summary numbers
  simp only [List.forall_mem_cons, hmark, hversion, hzero, isFelt_natCast.2 hc, true_and]

/-- A transaction has a hash if its numbers and those of its layout are field elements, and the
layout is not as long as the field is large. -/
theorem exists_hash (hcalldata : ∀ n ∈ calldata tx.calls, IsFelt n)
    (hlength : (calldata tx.calls).length < fieldPrime) (hnumbers : ∀ n ∈ tx.numbers, IsFelt n) :
    ∃ h, tx.hash = .ok h := by
  have hc : hashElements (calldata tx.calls) = .ok (digest (calldata tx.calls)) :=
    hashElements_eq_ok_iff.2 ⟨hcalldata, hlength, rfl⟩
  have hsummary := (forall_summary (digest_lt (calldata tx.calls))).2 hnumbers
  have hcount : 8 < fieldPrime := by
    decide
  exact ⟨_, hash_eq_ok_iff.2 ⟨_, hc, hashElements_eq_ok_iff.2 ⟨hsummary, hcount, rfl⟩⟩⟩

/-- The eight numbers determine the transaction up to its calls, and the hash of the calls. -/
theorem eq_of_summary {c c' : Nat} (h : tx.summary c = tx'.summary c')
    (hcalls : tx.calls = tx'.calls) : tx = tx' := by
  unfold summary at h
  simp only [List.cons.injEq, true_and, and_true] at h
  obtain ⟨hsender, -, hmaxFee, hchainId, hnonce⟩ := h
  cases tx
  cases tx'
  simp only [Invoke.mk.injEq]
  exact ⟨hsender, hcalls, hmaxFee, hnonce, hchainId⟩

/-- The two computations of a hash hash lists that collide. -/
def HashesCollide (hashList : List Int → Except Failure Nat) (tx tx' : Invoke) : Prop :=
  Collides hashList (calldata tx.calls) (calldata tx'.calls) ∨
    ∃ c c', hashList (calldata tx.calls) = .ok c ∧ hashList (calldata tx'.calls) = .ok c' ∧
      Collides hashList (tx.summary c) (tx'.summary c')

theorem eq_or_hashesCollide (hlist : IsListHash hashList) (htx : tx.hashBy hashList = .ok h)
    (htx' : tx'.hashBy hashList = .ok h) : tx = tx' ∨ HashesCollide hashList tx tx' := by
  obtain ⟨c, hc, hs⟩ := hashBy_eq_ok_iff.1 htx
  obtain ⟨c', hc', hs'⟩ := hashBy_eq_ok_iff.1 htx'
  rcases eq_or_collides hlist hs hs' with hsummary | hcollides
  · -- The hash of the calldata is one of the eight numbers.
    have hhash : c = c' := by
      unfold summary at hsummary
      simp only [List.cons.injEq, Int.natCast_inj] at hsummary
      exact hsummary.2.2.2.2.1
    rw [← hhash] at hc'
    rcases eq_or_collides hlist hc hc' with hcalldata | hcollides
    · exact .inl (eq_of_summary hsummary (calldata_injective hcalldata))
    · exact .inr (.inl hcollides)
  · exact .inr (.inr ⟨c, c', hc, hc', hcollides⟩)

/-- Transactions with the same hash are equal, or their calldata or the numbers hashed with it
collide, for any hash of lists and so for the Pedersen hash. No two lists of calls have the same
calldata. -/
theorem hash_binds :
    (∀ hashList, IsListHash hashList → ∀ (tx tx' : Invoke) (h : Nat),
      tx.hashBy hashList = .ok h → tx'.hashBy hashList = .ok h →
        tx = tx' ∨ HashesCollide hashList tx tx') ∧
    (∀ (tx tx' : Invoke) (h : Nat), tx.hash = .ok h → tx'.hash = .ok h →
      tx = tx' ∨ HashesCollide hashElements tx tx') ∧
    Function.Injective calldata :=
  ⟨fun _ hlist _ _ _ htx htx' => eq_or_hashesCollide hlist htx htx',
    fun _ _ _ htx htx' => eq_or_hashesCollide isListHash_hashElements htx htx',
    calldata_injective⟩

/-- A weak hash of lists of field elements: the last digit of their sum. -/
def sumHash (ns : List Int) : Except Failure Nat :=
  if ns.all fun n => decide (IsFelt n) then .ok ((ns.foldl (· + ·) 0).toNat % 10)
  else .error .operandAbovePrime

theorem sumHash_eq_ok_iff {ns : List Int} :
    sumHash ns = .ok h ↔ (∀ n ∈ ns, IsFelt n) ∧ (ns.foldl (· + ·) 0).toNat % 10 = h := by
  unfold sumHash
  rw [ite_eq_ok_iff, List.all_eq_true]
  simp only [decide_eq_true_iff]

theorem isListHash_sumHash : IsListHash sumHash := by
  intro ns h hns
  obtain ⟨hfelts, rfl⟩ := sumHash_eq_ok_iff.1 hns
  exact ⟨hfelts, Nat.lt_trans (Nat.mod_lt _ (by decide)) (by decide)⟩

/-- A transaction of two calls, the second one without data. -/
def twoCalls : Invoke where
  sender := 1
  calls := [⟨16, 17, [2, 1000]⟩, ⟨32, 33, []⟩]
  maxFee := 100
  nonce := 3
  chainId := shortText "SN_SEPOLIA"

/-- The same for another recipient, and with a nonce that makes up for it. -/
def otherCalls : Invoke :=
  { twoCalls with calls := [⟨16, 17, [4, 1000]⟩, ⟨32, 33, []⟩], nonce := 1 }

/-- Under the weak hash two transactions share their hash, so lists collide; under the Pedersen hash
the first one has a hash too. -/
theorem hash_binds_twoCalls : IsListHash sumHash ∧ twoCalls ≠ otherCalls ∧
    (∃ h, twoCalls.hashBy sumHash = .ok h ∧ otherCalls.hashBy sumHash = .ok h) ∧
    HashesCollide sumHash twoCalls otherCalls ∧
    ∃ h, twoCalls.hash = .ok h ∧
      (twoCalls = twoCalls ∨ HashesCollide hashElements twoCalls twoCalls) := by
  have hne : twoCalls ≠ otherCalls := by decide
  have hsum : twoCalls.hashBy sumHash = .ok 1 := hashBy_eq_ok_iff.2
    ⟨8, sumHash_eq_ok_iff.2 ⟨by decide, by decide⟩, sumHash_eq_ok_iff.2 ⟨by decide, by decide⟩⟩
  have hsum' : otherCalls.hashBy sumHash = .ok 1 := hashBy_eq_ok_iff.2
    ⟨0, sumHash_eq_ok_iff.2 ⟨by decide, by decide⟩, sumHash_eq_ok_iff.2 ⟨by decide, by decide⟩⟩
  obtain ⟨h, hh⟩ : ∃ h, twoCalls.hash = .ok h :=
    exists_hash (by decide) (by decide) (by decide)
  obtain ⟨hbinds, hpedersen, -⟩ := hash_binds
  have hcollide := (hbinds sumHash isListHash_sumHash _ _ 1 hsum hsum').resolve_left hne
  exact ⟨isListHash_sumHash, hne, ⟨1, hsum, hsum'⟩, hcollide, h, hh, hpedersen _ _ h hh hh⟩

end Signatory.Starknet.Invoke
