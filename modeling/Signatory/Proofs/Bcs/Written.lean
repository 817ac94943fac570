import Signatory.Proofs.Bcs.Primitive

/-!
# What a finished write says of its parts

1. `IsDone`: a write that does not fail. Its integers are in the range of their widths
   (`isDone_uint_iff`), and each of its parts is done too (`isDone_append_iff`, `IsDone.of_seq`).
2. `Pays`: a write that puts out a byte for each of a number of parts, unless it fails. The costs of
   parts add up (`Pays.append`, `pays_seq`), and each length or variant tag is good for one.
-/

namespace Signatory.Bcs

/-- The numbers of a width. -/
def Width.Holds (w : Width) (n : Int) : Prop :=
  0 ≤ n ∧ n < w.limit

/-- The sum of a cost over a list. -/
def total {α : Type} (cost : α → Nat) (as : List α) : Nat :=
  as.foldr (fun a n => cost a + n) 0

section Total

variable {α : Type} (cost : α → Nat)

@[simp] theorem total_nil : total cost [] = 0 := rfl

@[simp] theorem total_cons (a : α) (as : List α) : total cost (a :: as) = cost a + total cost as :=
  rfl

@[simp] theorem total_append (as bs : List α) :
    total cost (as ++ bs) = total cost as + total cost bs := by
  induction as with
  | nil => simp
  | cons a as ih => simp [ih, Nat.add_assoc]

theorem total_one (as : List α) : total (fun _ => 1) as = as.length := by
  induction as with
  | nil => rfl
  | cons a as ih => rw [total_cons, ih, List.length_cons, Nat.add_comm]

end Total

namespace Emission

variable {α : Type} {a b : Emission} {w : α → Emission} {as : List α}

/-! ## Writes that do not fail -/

/-- The write does not fail. -/
def IsDone (e : Emission) : Prop :=
  ∃ bs, e = done bs

theorem not_isDone_stop (f : Failure) : ¬ (stop f).IsDone := by
  rintro ⟨bs, h⟩
  exact stop_ne_done f bs h

theorem isDone_fixed (bs : Bytes) : (Write.fixed bs).IsDone :=
  ⟨bs, rfl⟩

theorem isDone_length {n : Nat} (hn : n < lengthLimit) : (Write.length n).IsDone :=
  ⟨_, length_eq_done_iff.2 ⟨hn, rfl⟩⟩

theorem isDone_append_iff : (a ++ b).IsDone ↔ a.IsDone ∧ b.IsDone := by
  constructor
  · rintro ⟨bs, h⟩
    obtain ⟨xs, ys, ha, hb, -⟩ := append_eq_done_iff.1 h
    exact ⟨⟨xs, ha⟩, ys, hb⟩
  · rintro ⟨⟨xs, ha⟩, ys, hb⟩
    exact ⟨xs ++ ys, append_eq_done_iff.2 ⟨xs, ys, ha, hb, rfl⟩⟩

theorem isDone_uint_iff {v : Width} {n : Int} : (Write.uint v n).IsDone ↔ v.Holds n := by
  constructor
  · rintro ⟨bs, h⟩
    obtain ⟨hn, hlt, -⟩ := uint_eq_done_iff.1 h
    exact ⟨hn, hlt⟩
  · rintro ⟨hn, hlt⟩
    exact ⟨_, uint_eq_done_iff.2 ⟨hn, hlt, rfl⟩⟩

theorem isDone_concat_iff : (concat (as.map w)).IsDone ↔ ∀ a ∈ as, (w a).IsDone := by
  induction as with
  | nil => exact ⟨fun _ => List.forall_mem_nil _, fun _ => ⟨[], rfl⟩⟩
  | cons a as ih =>
    rw [List.map_cons, concat_cons, isDone_append_iff, ih, List.forall_mem_cons]

theorem isDone_seq (hlength : as.length < lengthLimit) (h : ∀ a ∈ as, (w a).IsDone) :
    (Write.seq w as).IsDone :=
  isDone_append_iff.2 ⟨isDone_length hlength, isDone_concat_iff.2 h⟩

/-- Each item of a sequence is written. -/
theorem IsDone.of_seq (h : (Write.seq w as).IsDone) : ∀ a ∈ as, (w a).IsDone :=
  isDone_concat_iff.1 (isDone_append_iff.1 h).2

/-! ## Bytes for each part -/

/-- At least `n` bytes are put out, unless the write fails. -/
def Pays (n : Nat) (e : Emission) : Prop :=
  ∀ bs, e = done bs → n ≤ bs.length

theorem pays_zero (e : Emission) : Pays 0 e :=
  fun _ _ => Nat.zero_le _

theorem pays_stop (n : Nat) (f : Failure) : Pays n (stop f) :=
  fun bs h => absurd h (stop_ne_done f bs)

theorem pays_length (n : Int) : Pays 1 (Write.length n) := by
  intro bs h
  obtain ⟨k, rfl⟩ := Int.eq_ofNat_of_zero_le (nonneg_of_length_eq_done h)
  exact pos_of_length_eq_done h

variable {n m : Nat}

theorem Pays.append (ha : Pays n a) (hb : Pays m b) : Pays (n + m) (a ++ b) := by
  intro bs h
  obtain ⟨xs, ys, hx, hy, rfl⟩ := append_eq_done_iff.1 h
  have hn := ha xs hx
  have hm := hb ys hy
  rw [List.length_append]
  omega

theorem Pays.mono (ha : Pays n a) (h : m ≤ n) : Pays m a :=
  fun bs hbs => Nat.le_trans h (ha bs hbs)

theorem Pays.append_left (ha : Pays n a) (b : Emission) : Pays n (a ++ b) :=
  ha.append (pays_zero b)

theorem Pays.append_right (a : Emission) (hb : Pays m b) : Pays m (a ++ b) := by
  have h := (pays_zero a).append hb
  rwa [Nat.zero_add] at h

theorem pays_concat {cost : α → Nat} (h : ∀ a, Pays (cost a) (w a)) (as : List α) :
    Pays (total cost as) (concat (as.map w)) := by
  induction as with
  | nil => exact pays_zero _
  | cons a as ih =>
    rw [total_cons, List.map_cons, concat_cons]
    exact (h a).append ih

/-- A sequence pays for its items. -/
theorem pays_seq {cost : α → Nat} (h : ∀ a, Pays (cost a) (w a)) (as : List α) :
    Pays (total cost as) (Write.seq w as) :=
  (pays_concat h as).append_right _

/-- A sequence of items that each take a byte has no more items than bytes. -/
theorem pays_seq_length (h : ∀ a, Pays 1 (w a)) (as : List α) :
    Pays as.length (Write.seq w as) := by
  rw [← total_one]
  exact pays_seq h as

end Emission

end Signatory.Bcs
