import Signatory.Proofs.Bcs.Bounded
import Signatory.Proofs.Sui.TagTree

/-!
# Reading within a budget

1. `isBounded_readWithin`: within a smaller budget a type tag is read alike or given up. It is given
   up only where bytes remain for as many levels as have room.
2. `TransactionOf.isBounded_read`: the same of transactions, whose other parts are not nested.
3. `TransactionOf.decode_agrees`, `decode_fails` and `decode_stays` say it of whole byte strings.
4. `Transaction.decode_openVectors`: no room is enough for every byte string.
-/

namespace Signatory.Sui

open Bcs

namespace TypeTag

section Budgets

variable {b b' : Budget}

/-- Calls that are made before anything is read take their room. -/
theorem readWithin_add (b : Budget) (room waiting : Nat) :
    readWithin b (room + waiting) waiting = readWithin b room 0 := by
  induction waiting with
  | zero => rfl
  | succ waiting ih => exact ih

/-- The induction is on the room. A level takes at most `1 + max b.vector b.struct` calls of it,
and its variant tag is a byte. -/
theorem isBounded_readWithin (hvector : b'.vector ≤ b.vector) (hstruct : b'.struct ≤ b.struct)
    (room : Nat) : ∀ {m waiting room' waiting' : Nat}, room + waiting' ≤ room' + waiting →
      m * (1 + max b.vector b.struct) ≤ room - waiting →
        IsBounded m (readWithin b room waiting) (readWithin b' room' waiting') := by
  induction room with
  | zero =>
    intro m waiting room' waiting' _ hm
    rw [Nat.zero_sub, Nat.le_zero, Nat.mul_eq_zero] at hm
    obtain rfl : m = 0 := by omega
    exact IsBounded.giveUp _
  | succ n ih =>
    intro m waiting room' waiting' hroom hm
    cases waiting with
    | succ waiting => exact ih (by omega) (by omega)
    | zero =>
      obtain ⟨r, rfl⟩ : ∃ r, room' = r + 1 + waiting' := ⟨room' - 1 - waiting', by omega⟩
      rw [readWithin_add]
      -- A nested tag has bytes for one level less.
      have hlevel : (m - 1) * (1 + max b.vector b.struct) =
          m * (1 + max b.vector b.struct) - (1 + max b.vector b.struct) := by
        rw [Nat.sub_mul, Nat.one_mul]
      refine IsBounded.weaken (IsBounded.afterLength (m := m - 1) fun tag => ?_) (by omega)
      have helement : IsBounded (m - 1) (readWithin b n b.vector) (readWithin b' r b'.vector) :=
        ih (by omega) (by omega)
      have hparameter : IsBounded (m - 1) (readWithin b n b.struct) (readWithin b' r b'.struct) :=
        ih (by omega) (by omega)
      split
      · exact IsBounded.pure _
      · split
        · exact helement.map vector
        · split
          · exact (IsBounded.take _).bind fun _ => IsBounded.string.bind fun _ =>
              IsBounded.string.bind fun _ => hparameter.seq.bind fun _ => IsBounded.pure _
          · exact IsBounded.refuse ⟨rfl, rfl⟩

theorem isBounded_read (h : b ≤ b') : IsBounded b.levels (read b) (read b') :=
  isBounded_readWithin h.2.1 h.2.2 b.calls (by have := h.1; omega)
    (Nat.div_mul_le_self b.calls _)

theorem isBounded_readText (h : b ≤ b') : IsBounded b.levels (readText b) (readText b') :=
  (isBounded_read h).map text

end Budgets

end TypeTag

/-! ## Transactions -/

section Parts

variable {m : Nat}

theorem ObjectRef.isBounded_read : IsBounded m ObjectRef.read ObjectRef.read :=
  (IsBounded.take _).bind fun _ => (IsBounded.uint .u64).bind fun _ =>
    IsBounded.byteVec.bind fun _ => IsBounded.pure _

theorem CallArg.isBounded_readObject : IsBounded m CallArg.readObject CallArg.readObject := by
  refine IsBounded.length.bind fun tag => ?_
  split
  · exact ObjectRef.isBounded_read.map owned
  · exact (IsBounded.take _).bind fun _ => (IsBounded.uint .u64).bind fun _ =>
      IsBounded.boolean.bind fun _ => IsBounded.pure _
  · exact ObjectRef.isBounded_read.map receiving
  · exact IsBounded.refuse (isBadData_unknownVariant _ _)

theorem CallArg.isBounded_read : IsBounded m CallArg.read CallArg.read := by
  refine IsBounded.length.bind fun tag => ?_
  split
  · exact IsBounded.byteVec.map CallArg.pure
  · exact CallArg.isBounded_readObject
  · exact IsBounded.refuse (isBadData_unknownVariant _ _)

theorem Argument.isBounded_read : IsBounded m Argument.read Argument.read := by
  refine IsBounded.length.bind fun tag => ?_
  split
  · exact IsBounded.pure _
  · exact (IsBounded.uint .u16).bind fun _ => IsBounded.pure _
  · exact (IsBounded.uint .u16).bind fun _ => IsBounded.pure _
  · exact (IsBounded.uint .u16).bind fun _ => (IsBounded.uint .u16).bind fun _ =>
      IsBounded.pure _
  · exact IsBounded.refuse (isBadData_unknownVariant _ _)

theorem GasData.isBounded_read : IsBounded m GasData.read GasData.read :=
  ObjectRef.isBounded_read.seq.bind fun _ => (IsBounded.take _).bind fun _ =>
    (IsBounded.uint .u64).bind fun _ => (IsBounded.uint .u64).bind fun _ => IsBounded.pure _

theorem TransactionOf.isBounded_readExpiration :
    IsBounded m TransactionOf.readExpiration TransactionOf.readExpiration := by
  refine IsBounded.length.bind fun tag => ?_
  split
  · exact IsBounded.pure _
  · exact (IsBounded.uint .u64).bind fun _ => IsBounded.pure _
  · exact IsBounded.refuse (isBadData_unknownVariant _ _)

end Parts

section Transactions

variable {Tag : Type} {m : Nat} {rt rt' : Reader Tag}

/-- Commands are read within the same bound as the type tags in them. -/
theorem CommandOf.isBounded_read (h : IsBounded m rt rt') :
    IsBounded m (CommandOf.read rt) (CommandOf.read rt') := by
  have harguments : IsBounded m readArguments readArguments := Argument.isBounded_read.seq
  have hmodules : IsBounded m (Read.seq Read.byteVec) (Read.seq Read.byteVec) :=
    IsBounded.byteVec.seq
  have haddresses : IsBounded m readAddresses readAddresses := (IsBounded.take _).seq
  refine IsBounded.length.bind fun tag => ?_
  split
  · exact (IsBounded.take _).bind fun _ => IsBounded.string.bind fun _ =>
      IsBounded.string.bind fun _ => h.seq.bind fun _ => harguments.bind fun _ =>
        IsBounded.pure _
  · exact harguments.bind fun _ => Argument.isBounded_read.bind fun _ => IsBounded.pure _
  · exact Argument.isBounded_read.bind fun _ => harguments.bind fun _ => IsBounded.pure _
  · exact Argument.isBounded_read.bind fun _ => harguments.bind fun _ => IsBounded.pure _
  · exact hmodules.bind fun _ => haddresses.bind fun _ => IsBounded.pure _
  · refine IsBounded.bind ?_ fun _ => harguments.bind fun _ => IsBounded.pure _
    refine IsBounded.boolean.bind fun isGiven => ?_
    cases isGiven with
    | false => exact IsBounded.pure _
    | true => exact h.map some
  · exact hmodules.bind fun _ => haddresses.bind fun _ => (IsBounded.take _).bind fun _ =>
      Argument.isBounded_read.bind fun _ => IsBounded.pure _
  · exact IsBounded.refuse (isBadData_unknownVariant _ _)

namespace TransactionOf

theorem isBounded_read (h : IsBounded m rt rt') :
    IsBounded m (TransactionOf.read rt) (TransactionOf.read rt') := by
  have hfields : IsBounded m
      (do
        let inputs ← Read.seq CallArg.read
        let commands ← Read.seq (CommandOf.read rt)
        let sender ← Read.take addressLength
        let gas ← GasData.read
        let expiration ← readExpiration
        pure (TransactionOf.mk inputs commands sender gas expiration))
      (do
        let inputs ← Read.seq CallArg.read
        let commands ← Read.seq (CommandOf.read rt')
        let sender ← Read.take addressLength
        let gas ← GasData.read
        let expiration ← readExpiration
        pure (TransactionOf.mk inputs commands sender gas expiration)) :=
    CallArg.isBounded_read.seq.bind fun _ => (CommandOf.isBounded_read h).seq.bind fun _ =>
      (IsBounded.take _).bind fun _ => GasData.isBounded_read.bind fun _ =>
        isBounded_readExpiration.bind fun _ => IsBounded.pure _
  refine IsBounded.length.bind fun version => ?_
  split
  · exact IsBounded.refuse ⟨rfl, rfl⟩
  · refine IsBounded.length.bind fun kind => ?_
    split
    · exact IsBounded.refuse ⟨rfl, rfl⟩
    · exact hfields

/-- Within a smaller budget a byte string is decoded alike or given up. -/
theorem decode_agrees (h : IsBounded m rt rt') (data : Bytes) :
    decode rt data = decode rt' data ∨ decode rt data = .error .nestedTooDeep :=
  (isBounded_read h).run_agrees data

/-- A byte string is refused as malformed, unless it is long enough to be given up. -/
theorem decode_fails (h : IsBounded m rt rt') {data : Bytes} {e : Failure}
    (hdecode : decode rt data = .error e) :
    e.IsBadData ∨ e = .nestedTooDeep ∧ m ≤ data.length :=
  (isBounded_read h).run_fails hdecode

/-- A byte string that is given up is given up with anything behind it. -/
theorem decode_stays (h : IsBounded m rt rt') {data : Bytes}
    (hdecode : decode rt data = .error .nestedTooDeep) (zs : Bytes) :
    decode rt (data ++ zs) = .error .nestedTooDeep :=
  (isBounded_read h).run_stays hdecode zs

end TransactionOf

end Transactions

/-! ## Vectors in vectors -/

/-- Bytes that open as many vectors as there is room for are given up. -/
theorem TypeTag.readWithin_vectors (b : Budget) (room : Nat) :
    ∀ {k waiting offset : Nat}, room ≤ k → ∃ c,
      readWithin b room waiting ⟨offset, List.replicate k 6⟩ = .error .nestedTooDeep c := by
  induction room with
  | zero => exact fun _ => ⟨_, rfl⟩
  | succ room ih =>
    intro k waiting offset hk
    cases waiting with
    | succ waiting => exact ih (by omega)
    | zero =>
      obtain ⟨k, rfl⟩ : ∃ k', k = k' + 1 := ⟨k - 1, by omega⟩
      obtain ⟨c, hc⟩ : ∃ c, readWithin b room b.vector ⟨offset + 1, List.replicate k 6⟩ =
          .error .nestedTooDeep c := ih (by omega)
      have htag : Read.length ⟨offset, List.replicate (k + 1) 6⟩ =
          .ok 6 ⟨offset + 1, List.replicate k 6⟩ := rfl
      exact ⟨c, (bind_of_ok htag).trans (bind_of_error hc)⟩

/-- The front of a transaction, up to a type that opens some vectors. -/
def openVectors (k : Nat) : Bytes :=
  [0, 0, 0, 1, 5, 1] ++ List.replicate k 6

theorem Transaction.decode_openVectors {n : Nesting} {k : Nat} (hk : n.reading.calls ≤ k) :
    decode n (openVectors k) = .error .nestedTooDeep := by
  obtain ⟨c, hc⟩ := TypeTag.readWithin_vectors n.reading n.reading.calls hk
  have hcommand : CommandOf.read (TypeTag.readText n.reading)
      ⟨4, 5 :: 1 :: List.replicate k 6⟩ = .error .nestedTooDeep c := by
    have htag : Read.length ⟨4, 5 :: 1 :: List.replicate k 6⟩ =
        .ok 5 ⟨5, 1 :: List.replicate k 6⟩ := rfl
    have hgiven : Read.boolean ⟨5, 1 :: List.replicate k 6⟩ =
        .ok true ⟨6, List.replicate k 6⟩ := rfl
    exact (bind_of_ok htag).trans
      (bind_of_error ((bind_of_ok hgiven).trans (bind_of_error (bind_of_error hc))))
  -- In front of the command stand the version, the kind and the two counts.
  have hcount : Read.length ⟨3, 1 :: 5 :: 1 :: List.replicate k 6⟩ =
      .ok 1 ⟨4, 5 :: 1 :: List.replicate k 6⟩ := rfl
  have hcommands : Read.seq (CommandOf.read (TypeTag.readText n.reading))
      ⟨3, 1 :: 5 :: 1 :: List.replicate k 6⟩ = .error .nestedTooDeep c :=
    (bind_of_ok hcount).trans (bind_of_error hcommand)
  have hinputs : Read.seq CallArg.read ⟨2, 0 :: 1 :: 5 :: 1 :: List.replicate k 6⟩ =
      .ok [] ⟨3, 1 :: 5 :: 1 :: List.replicate k 6⟩ := rfl
  have hversion : Read.length ⟨0, openVectors k⟩ =
      .ok 0 ⟨1, 0 :: 0 :: 1 :: 5 :: 1 :: List.replicate k 6⟩ := rfl
  have hkind : Read.length ⟨1, 0 :: 0 :: 1 :: 5 :: 1 :: List.replicate k 6⟩ =
      .ok 0 ⟨2, 0 :: 1 :: 5 :: 1 :: List.replicate k 6⟩ := rfl
  exact IsBounded.run_of_error ((bind_of_ok hversion).trans ((bind_of_ok hkind).trans
    ((bind_of_ok hinputs).trans (bind_of_error hcommands))))

end Signatory.Sui
