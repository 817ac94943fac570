import Signatory.Bytes

/-!
# The shortest form of a number

1. `beNat_minimal`: the shortest form of a number stands for it.
2. `minimal_beNat`: bytes without a zero in front are the shortest form of their number.
3. `length_minimal_le`: no bytes that stand for the number are fewer.
-/

namespace Signatory.Bytes

/-! ## Capacities -/

theorem capacity_mono {v w : Nat} (h : v ≤ w) : capacity v ≤ capacity w :=
  Nat.pow_le_pow_right (by decide) h

theorem capacity_eq (w : Nat) : capacity w = Nat.pow 2 (8 * w) :=
  (Nat.pow_mul 2 8 w).symm

/-- A number fits in the bytes that are counted for it. -/
theorem lt_capacity_byteCount (n : Nat) : n < capacity (byteCount n) := by
  unfold byteCount
  split
  · rename_i h
    rw [h]
    decide
  · have hbits : n.log2 + 1 ≤ 8 * (n.log2 / 8 + 1) := by omega
    rw [capacity_eq]
    exact Nat.lt_of_lt_of_le Nat.lt_log2_self (Nat.pow_le_pow_right (by decide) hbits)

/-- It does not fit in fewer. -/
theorem byteCount_le {n w : Nat} (h : n < capacity w) : byteCount n ≤ w := by
  unfold byteCount
  split
  · exact Nat.zero_le w
  · rename_i hn
    have hlow : Nat.pow 2 n.log2 < Nat.pow 2 (8 * w) := by
      rw [← capacity_eq]
      exact Nat.lt_of_le_of_lt (Nat.log2_self_le hn) h
    have hbits : n.log2 < 8 * w := (Nat.pow_lt_pow_iff_right (by decide)).1 hlow
    omega

/-! ## Numbers of bytes -/

theorem foldl_eq (bs : Bytes) (n : Nat) : bs.foldl (fun n b => n * 256 + b.toNat) n =
    n * capacity bs.length + beNat bs := by
  unfold beNat
  induction bs generalizing n with
  | nil => exact (Nat.mul_one n).symm
  | cons b bs ih =>
    rw [List.foldl_cons, List.foldl_cons, ih, ih (0 * 256 + b.toNat), List.length_cons,
      capacity_succ, Nat.zero_mul, Nat.zero_add, Nat.add_mul, Nat.mul_assoc, Nat.add_assoc]

theorem beNat_cons (b : UInt8) (bs : Bytes) :
    beNat (b :: bs) = b.toNat * capacity bs.length + beNat bs := by
  calc beNat (b :: bs)
      = bs.foldl (fun n b => n * 256 + b.toNat) (0 * 256 + b.toNat) := rfl
    _ = (0 * 256 + b.toNat) * capacity bs.length + beNat bs := foldl_eq bs _
    _ = b.toNat * capacity bs.length + beNat bs := by rw [Nat.zero_mul, Nat.zero_add]

/-- Zero bytes in front do not count. -/
theorem beNat_zeros_append (k : Nat) (bs : Bytes) :
    beNat (List.replicate k 0 ++ bs) = beNat bs := by
  induction k with
  | zero => rfl
  | succ k ih =>
    rw [List.replicate_succ, List.cons_append, beNat_cons, ih]
    exact (congrArg (· + beNat bs) (Nat.zero_mul _)).trans (Nat.zero_add _)

/-- Bytes with zeros in front up to a width are their number in the width. -/
theorem padLeft_eq {w : Nat} {bs : Bytes} (h : bs.length ≤ w) :
    padLeft w bs = beBytes w (beNat bs) := by
  have hlength : (padLeft w bs).length = w := by
    unfold padLeft
    rw [List.length_append, List.length_replicate]
    omega
  have hnumber : beNat (padLeft w bs) = beNat bs := beNat_zeros_append _ bs
  have hbytes := beBytes_beNat (padLeft w bs)
  rw [hlength, hnumber] at hbytes
  exact hbytes.symm

/-! ## Shortest forms -/

@[simp] theorem length_minimal (n : Nat) : (minimal n).length = byteCount n :=
  length_beBytes _ _

/-- The shortest form of a number stands for it. -/
theorem beNat_minimal (n : Nat) : beNat (minimal n) = n := by
  unfold minimal
  rw [beNat_beBytes, Nat.mod_eq_of_lt (lt_capacity_byteCount n)]

/-- No bytes that stand for a number are fewer than its shortest form. -/
theorem length_minimal_le (bs : Bytes) : (minimal (beNat bs)).length ≤ bs.length := by
  rw [length_minimal]
  exact byteCount_le (beNat_lt bs)

/-- Bytes without a zero in front are the shortest form of their number. -/
theorem minimal_beNat {bs : Bytes} (h : bs.head? ≠ some 0) : minimal (beNat bs) = bs := by
  have hcount : byteCount (beNat bs) = bs.length := by
    refine Nat.le_antisymm (byteCount_le (beNat_lt bs)) ?_
    cases bs with
    | nil => exact Nat.zero_le _
    | cons b bs =>
      have hb : 0 < b.toNat := by
        refine Nat.pos_of_ne_zero fun hzero => h ?_
        rw [List.head?_cons, UInt8.toNat_inj.1 (hzero.trans UInt8.toNat_zero.symm)]
      have hlow : capacity bs.length ≤ beNat (b :: bs) := by
        rw [beNat_cons]
        exact Nat.le_trans (Nat.le_mul_of_pos_left _ hb) (Nat.le_add_right _ _)
      -- With fewer bytes the number would be below the place of the first one.
      refine Nat.lt_of_not_le fun hle => ?_
      have hfits := lt_capacity_byteCount (beNat (b :: bs))
      have hmono := capacity_mono hle
      omega
  unfold minimal
  rw [hcount, beBytes_beNat]

/-- The shortest form has no zero in front. -/
theorem head?_minimal (n : Nat) : (minimal n).head? ≠ some 0 := by
  intro h
  obtain ⟨bs, hbs⟩ := List.head?_eq_some_iff.1 h
  have hnumber := beNat_minimal n
  rw [hbs, ← List.singleton_append] at hnumber
  have hle := length_minimal_le bs
  have htail : beNat bs = n := (beNat_zeros_append 1 bs).symm.trans hnumber
  rw [htail, hbs, List.length_cons] at hle
  omega

end Signatory.Bytes
