import Signatory.Proofs.Bcs.Codec

/-!
# Codecs of the primitive types

Lengths and variant tags, integers, flags, fixed bytes, byte vectors, texts and sequences
are read exactly as they are written.

A length is written in groups of seven bits, lowest first. `lengthFrom_reads` and
`lengthFrom_written` follow the groups with what the earlier ones stand for; the last group
is never zero unless it is the first, which makes the groups of a length the only ones.
-/

namespace Signatory.Bcs

theorem isBadData_unreadable (fault : ReadFault) : (Failure.unreadable fault).IsBadData :=
  ⟨rfl, rfl⟩

/-! ## Single bytes -/

theorem byte_eq_ok_iff {c c' : Cursor} {b : UInt8} :
    Read.byte c = .ok b c' ↔ c.Spans [b] c' := by
  obtain ⟨o, rest⟩ := c
  obtain ⟨o', rest'⟩ := c'
  cases rest with
  | nil =>
    constructor
    · intro h
      cases h
    · rintro ⟨h, -⟩
      cases h
  | cons x rest =>
    constructor
    · intro h
      cases h
      exact ⟨rfl, rfl⟩
    · rintro ⟨hr, ho⟩
      have hx : x :: rest = b :: rest' := hr
      have ho' : o' = o + 1 := ho
      cases hx
      rw [ho']
      rfl

theorem byte_eq_error {c c' : Cursor} {e : Failure} (h : Read.byte c = .error e c') :
    e.IsBadData := by
  obtain ⟨o, rest⟩ := c
  cases rest with
  | nil =>
    cases h
    exact isBadData_unreadable _
  | cons x rest => cases h

/-! ## Lengths -/

section Lengths

open Read Write

/-- The lowest group of a number and the other groups together stand for it. -/
theorem shiftLeft_septet (n i : Nat) :
    (n % 128) <<< (7 * i) + (n / 128) <<< (7 * (i + 1)) = n <<< (7 * i) := by
  rw [show 7 * (i + 1) = 7 + 7 * i by omega, Nat.shiftLeft_add, Nat.shiftLeft_eq _ 7]
  rw [Nat.shiftLeft_eq, Nat.shiftLeft_eq, Nat.shiftLeft_eq, ← Nat.add_mul]
  congr 1
  omega

theorem toNat_last {n : Nat} (h : n < 128) : (UInt8.ofNat n).toNat = n := by
  rw [UInt8.toNat_ofNat']
  omega

theorem toNat_more (n : Nat) : (UInt8.ofNat (n % 128 + 128)).toNat = n % 128 + 128 := by
  rw [UInt8.toNat_ofNat']
  omega

theorem pow_septet (g : Nat) : Nat.pow 128 (g + 1) = Nat.pow 128 g * 128 := rfl

/-- The groups of a number are read back after groups that stand for `v`. -/
theorem lengthFrom_reads (g : Nat) : ∀ {i v n : Nat} {c c' : Cursor}, n < Nat.pow 128 g →
    (0 < i ∨ g = 0 → 0 < n) → v + n <<< (7 * i) < lengthLimit → c.Spans (septets g n) c' →
      lengthFrom g i v c = .ok (v + n <<< (7 * i)) c' := by
  induction g with
  | zero =>
    intro i v n c c' hn hpos hlim hc
    have h1 : n < 1 := hn
    have h0 := hpos (.inr rfl)
    omega
  | succ g ih =>
    intro i v n c c' hn hpos hlim hc
    unfold septets at hc
    by_cases h : n < 128
    · rw [if_pos h] at hc
      refine bind_eq_ok_iff.2 ⟨_, c', byte_eq_ok_iff.2 hc, ?_⟩
      -- A group of zero ends a length only where it is the whole length.
      have hmin : ¬ (n = 0 ∧ 0 < i) := fun ⟨h0, hi⟩ => by
        have := hpos (.inl hi)
        omega
      rw [toNat_last h, if_pos h, if_neg hmin, Nat.mod_eq_of_lt h, if_neg (Nat.not_le.2 hlim)]
      rfl
    · rw [if_neg h] at hc
      obtain ⟨c₁, hc₁, hc₂⟩ := Cursor.spans_append_iff (a := [_]).1 hc
      refine bind_eq_ok_iff.2 ⟨_, c₁, byte_eq_ok_iff.2 hc₁, ?_⟩
      rw [toNat_more, if_neg (by omega), show (n % 128 + 128) % 128 = n % 128 by omega]
      have hsum := shiftLeft_septet n i
      rw [pow_septet] at hn
      have hread := ih (i := i + 1) (v := v + (n % 128) <<< (7 * i)) (n := n / 128)
        (by omega) (by omega) (by omega) hc₂
      rw [hread]
      congr 1
      omega

/-- What is read as a length was written as one. -/
theorem lengthFrom_written (g : Nat) : ∀ {i v m : Nat} {c c' : Cursor},
    lengthFrom g i v c = .ok m c' → ∃ n, n < Nat.pow 128 g ∧ (0 < i → 0 < n) ∧
      m = v + n <<< (7 * i) ∧ m < lengthLimit ∧ c.Spans (septets g n) c' := by
  induction g with
  | zero =>
    intro i v m c c' h
    cases h
  | succ g ih =>
    intro i v m c c' h
    obtain ⟨b, c₁, hb, hk⟩ := bind_eq_ok_iff.1 h
    have hbyte := b.toNat_lt
    have hspan := byte_eq_ok_iff.1 hb
    unfold septets
    split at hk
    · rename_i hlast
      split at hk
      · cases hk
      · rename_i hmin
        split at hk
        · cases hk
        · rename_i hlim
          rw [Nat.mod_eq_of_lt hlast] at hk hlim
          cases hk
          refine ⟨b.toNat, ?_, by omega, rfl, Nat.not_le.1 hlim, ?_⟩
          · have hpow : 0 < Nat.pow 128 g := Nat.pow_pos (by omega)
            rw [pow_septet]
            omega
          · rw [if_pos hlast, UInt8.ofNat_toNat]
            exact hspan
    · rename_i hmore
      obtain ⟨n, hn, hpos, hm, hlim, hc⟩ := ih hk
      have h0 := hpos (by omega)
      have hdiv : (b.toNat % 128 + 128 * n) / 128 = n := by omega
      have hmod : (b.toNat % 128 + 128 * n) % 128 = b.toNat % 128 := by omega
      have hsum := shiftLeft_septet (b.toNat % 128 + 128 * n) i
      rw [hdiv, hmod] at hsum
      -- The groups behind this one stand for `n`, which is not zero.
      refine ⟨b.toNat % 128 + 128 * n, ?_, by omega, by omega, hlim, ?_⟩
      · rw [pow_septet]
        omega
      · rw [if_neg (by omega), hdiv, hmod, show b.toNat % 128 + 128 = b.toNat by omega,
          UInt8.ofNat_toNat]
        exact Cursor.spans_append_iff (a := [b]).2 ⟨c₁, hspan, hc⟩

theorem lengthFrom_refuses (g : Nat) : ∀ {i v : Nat} {c c' : Cursor} {e : Failure},
    lengthFrom g i v c = .error e c' → e.IsBadData := by
  induction g with
  | zero =>
    intro i v c c' e h
    cases h
    exact isBadData_unreadable _
  | succ g ih =>
    intro i v c c' e h
    rcases bind_eq_error h with hb | ⟨b, c₁, -, hk⟩
    · exact byte_eq_error hb
    · split at hk
      · split at hk
        · cases hk
          exact isBadData_unreadable _
        · dsimp only at hk
          split at hk
          · cases hk
            exact isBadData_unreadable _
          · cases hk
      · exact ih hk

/-- A length is written if it is within the limit. -/
theorem length_eq_done_iff {n : Nat} {bs : Bytes} :
    Write.length n = .done bs ↔ n < lengthLimit ∧ bs = septets 5 n := by
  unfold Write.length
  constructor
  · intro h
    split at h
    · rename_i hn
      exact ⟨by omega, (Emission.done_inj h).symm⟩
    · exact absurd h (Emission.stop_ne_done _ _)
  · rintro ⟨hn, rfl⟩
    rw [if_pos ⟨by omega, by omega⟩]
    rfl

/-- A length that is written is not negative. -/
theorem nonneg_of_length_eq_done {n : Int} {bs : Bytes} (h : Write.length n = .done bs) :
    0 ≤ n := by
  unfold Write.length at h
  split at h
  · rename_i hn
    exact hn.1
  · exact absurd h (Emission.stop_ne_done _ _)

/-- A length takes at least one byte. -/
theorem pos_of_length_eq_done {n : Nat} {bs : Bytes} (h : Write.length n = .done bs) :
    0 < bs.length := by
  obtain ⟨-, rfl⟩ := length_eq_done_iff.1 h
  unfold septets
  split
  · exact Nat.one_pos
  · exact Nat.succ_pos _

end Lengths

/-! ## Integers -/

/-- An integer is written if it is in the range of its width. -/
theorem uint_eq_done_iff {w : Width} {n : Int} {bs : Bytes} :
    Write.uint w n = .done bs ↔
      0 ≤ n ∧ n < w.limit ∧ bs = Bytes.leBytes w.bytes n.toNat := by
  unfold Write.uint
  constructor
  · intro h
    split at h
    · exact absurd h (Emission.stop_ne_done _ _)
    · split at h
      · exact ⟨by omega, by omega, (Emission.done_inj h).symm⟩
      · exact absurd h (Emission.stop_ne_done _ _)
  · rintro ⟨h0, hn, rfl⟩
    rw [if_neg (by omega), if_pos hn]

/-- An integer that is written is not negative. -/
theorem toNat_of_uint_eq_done {w : Width} {n : Int} {bs : Bytes}
    (h : Write.uint w n = .done bs) : (n.toNat : Int) = n :=
  Int.toNat_of_nonneg (uint_eq_done_iff.1 h).1

namespace Codec

theorem length :
    Codec (fun n : Nat => n) (fun _ => True) (fun n => Write.length n) Read.length where
  reads {n bs c c'} _ hw hc := by
    obtain ⟨hn, rfl⟩ := length_eq_done_iff.1 hw
    have hlim : lengthLimit < Nat.pow 128 5 := by decide
    have hread := lengthFrom_reads 5 (i := 0) (v := 0) (n := n) (by omega) (by omega)
      (by rw [Nat.mul_zero, Nat.shiftLeft_zero]; omega) hc
    rw [Nat.mul_zero, Nat.shiftLeft_zero, Nat.zero_add] at hread
    exact hread
  written {c m c'} hr := by
    obtain ⟨n, -, -, hm, hlim, hc⟩ := lengthFrom_written 5 hr
    rw [Nat.mul_zero, Nat.shiftLeft_zero, Nat.zero_add] at hm
    rw [← hm] at hc
    exact ⟨m, _, trivial, length_eq_done_iff.2 ⟨hlim, rfl⟩, rfl, hc⟩

/-! ## Codecs of fixed bytes, integers and flags -/

theorem take (n : Int) :
    Codec (fun bs : Bytes => bs) (fun bs => (bs.length : Int) = n) Write.fixed (Read.take n) where
  reads {a bs c c'} ha hw hc := by
    obtain rfl : a = bs := Emission.done_inj hw
    obtain ⟨o, rest⟩ := c
    obtain ⟨o', rest'⟩ := c'
    obtain ⟨hr, ho⟩ := hc
    have hrest : rest = a ++ rest' := hr
    have hoff : o' = o + a.length := ho
    have hn : n.toNat = a.length := by omega
    unfold Read.take
    dsimp only
    rw [hrest, hn, List.take_left, List.drop_left, if_neg (by omega), hoff]
  written {c b c'} hr := by
    unfold Read.take at hr
    dsimp only at hr
    split at hr
    · cases hr
    · rename_i h
      cases hr
      have hlen : (c.rest.take n.toNat).length = n.toNat := by
        have := List.length_take_le n.toNat c.rest
        omega
      refine ⟨_, _, by omega, rfl, rfl, (List.take_append_drop _ _).symm, ?_⟩
      rw [hlen]

theorem uint (w : Width) : Codec Int.toNat (fun _ => True) (Write.uint w) (Read.uint w) where
  reads {n bs c c'} _ hw hc := by
    obtain ⟨h0, hn, rfl⟩ := uint_eq_done_iff.1 hw
    have hlen : ((Bytes.leBytes w.bytes n.toNat).length : Int) = w.bytes := by
      rw [Bytes.length_leBytes]
    refine bind_eq_ok_iff.2 ⟨_, c', (take w.bytes).reads hlen rfl hc, ?_⟩
    have hnat : n.toNat < Bytes.capacity w.bytes := by
      unfold Width.limit at hn
      omega
    show EStateM.Result.ok (Bytes.leNat _) c' = _
    rw [Bytes.leNat_leBytes, Nat.mod_eq_of_lt hnat]
  written {c m c'} hr := by
    obtain ⟨bs, c₁, hbs, hpure⟩ := bind_eq_ok_iff.1 hr
    cases hpure
    obtain ⟨xs, ys, hlen, hw, rfl, hc⟩ := (take w.bytes).written hbs
    obtain rfl : ys = xs := (Emission.done_inj hw).symm
    have hlen' : ys.length = w.bytes := by omega
    have hlt : Bytes.leNat ys < w.limit := by
      rw [Width.limit, ← hlen']
      exact Bytes.leNat_lt ys
    refine ⟨Bytes.leNat ys, ys, trivial, uint_eq_done_iff.2 ⟨by omega, by omega, ?_⟩, ?_, hc⟩
    · rw [Int.toNat_natCast, ← hlen', Bytes.leBytes_leNat]
    · rw [Int.toNat_natCast]

/-- An integer that is read is what was written. -/
theorem int (w : Width) :
    Codec (fun n : Int => n) (fun _ => True) (Write.uint w)
      ((fun n : Nat => (n : Int)) <$> Read.uint w) :=
  ((uint w).map fun n : Nat => (n : Int)).congr (fun _ _ _ => Iff.rfl)
    fun _ _ _ h => toNat_of_uint_eq_done h

theorem boolean : Codec (fun b : Bool => b) (fun _ => True) Write.boolean Read.boolean where
  reads {b bs c c'} _ hw hc := by
    obtain rfl := Emission.done_inj hw
    refine bind_eq_ok_iff.2 ⟨_, c', byte_eq_ok_iff.2 hc, ?_⟩
    cases b <;> rfl
  written {c b c'} hr := by
    obtain ⟨x, c₁, hx, hk⟩ := bind_eq_ok_iff.1 hr
    split at hk
    · cases hk
    · rename_i hle
      cases hk
      refine ⟨_, [x], trivial, ?_, rfl, byte_eq_ok_iff.1 hx⟩
      have hcases : x = 0 ∨ x = 1 := by
        rw [← UInt8.toNat_inj, ← UInt8.toNat_inj, UInt8.toNat_zero, UInt8.toNat_one]
        omega
      rcases hcases with rfl | rfl <;> rfl

/-! ## Codecs of byte vectors and texts -/

theorem byteVec : Codec (fun bs : Bytes => bs) (fun _ => True) Write.byteVec Read.byteVec := by
  refine length.bind (p := List.length) (fun _ _ => rfl) (fun _ _ _ _ => trivial)
    fun n _ _ _ => (take n).congr (fun bs _ _ => ?_) fun _ _ _ _ => rfl
  constructor
  · intro h
    exact ⟨trivial, by omega⟩
  · rintro ⟨-, h⟩
    omega

theorem ofText_of_toText? {bs : Bytes} {s : String} (h : Bytes.toText? bs = some s) :
    Bytes.ofText s = bs := by
  unfold Bytes.toText? String.fromUTF8? at h
  split at h
  · cases h
    rfl
  · cases h

theorem string : Codec (fun s : String => s) (fun _ => True) Write.string Read.string := by
  refine byteVec.bind (p := Bytes.ofText) (u := fun _ => .done [])
    (fun s _ => (Emission.append_done_nil _).symm) (fun _ _ _ _ => trivial) fun bs _ _ _ => ?_
  split
  · rename_i s hs
    refine Codec.pure (fun _ _ => rfl) ?_ ⟨s, trivial, ofText_of_toText? hs⟩
    rintro s' ⟨-, rfl⟩
    exact Option.some.inj ((Bytes.toText?_ofText s').symm.trans hs)
  · rename_i hnone
    refine Codec.throw ?_
    rintro s ⟨-, rfl⟩
    rw [Bytes.toText?_ofText] at hnone
    cases hnone

/-! ## Codecs of sequences -/

section Seq

variable {α β : Type} {f : α → β} {P : α → Prop} {w : α → Emission} {r : Reader β}

theorem items (h : Codec f P w r) (n : Nat) :
    Codec (List.map f) (fun as => (∀ a ∈ as, P a) ∧ as.length = n)
      (fun as => .concat (as.map w)) (Read.items r n) := by
  induction n with
  | zero =>
    refine Codec.pure ?_ ?_ ⟨[], fun _ ha => (List.not_mem_nil ha).elim, rfl⟩
    · rintro as ⟨-, hlen⟩
      rw [List.length_eq_zero_iff.1 hlen]
      rfl
    · rintro as ⟨-, hlen⟩
      rw [List.length_eq_zero_iff.1 hlen]
      rfl
  | succ n ih =>
    -- A list of n + 1 items is its head and a list of n.
    have hcons := (h.prod ih).map fun x => x.1 :: x.2
    simp only [map_eq_bind, bind_assoc, pure_bind] at hcons
    refine hcons.along (fun x => x.1 :: x.2) ?_ ?_ (fun _ _ => rfl) fun _ _ => rfl
    · rintro ⟨a, as⟩ ⟨ha, has, hlen⟩
      exact ⟨List.forall_mem_cons.2 ⟨ha, has⟩, congrArg Nat.succ hlen⟩
    · rintro as ⟨hall, hlen⟩
      obtain ⟨a, as, rfl⟩ := List.exists_cons_of_length_eq_add_one hlen
      rw [List.forall_mem_cons] at hall
      exact ⟨(a, as), ⟨hall.1, hall.2, Nat.succ.inj hlen⟩, rfl⟩

theorem seq (h : Codec f P w r) :
    Codec (List.map f) (fun as => ∀ a ∈ as, P a) (Write.seq w) (Read.seq r) :=
  length.bind (p := List.length) (fun _ _ => rfl) (fun _ _ _ _ => trivial) fun n _ _ _ => h.items n

theorem seq_self {r : Reader α} (h : Codec (fun a => a) P w r) :
    Codec (fun as => as) (fun as => ∀ a ∈ as, P a) (Write.seq w) (Read.seq r) :=
  h.seq.congr (fun _ _ _ => Iff.rfl) fun as _ _ _ => List.map_id' as

end Seq

end Codec

/-! ## Variants -/

/-- What follows a variant tag of one byte. -/
def Emission.afterTag (e : Emission) : Emission := ⟨e.bytes.tail, e.failure⟩

theorem afterTag_append {n : Int} (h0 : 0 ≤ n) (hn : n < 128) (e : Emission) :
    (Write.length n ++ e).afterTag = e := by
  obtain ⟨m, rfl⟩ := Int.eq_ofNat_of_zero_le h0
  have hlim : 128 < lengthLimit := by decide
  have hdone : Write.length m = .done [UInt8.ofNat m] := by
    refine length_eq_done_iff.2 ⟨by omega, ?_⟩
    unfold Write.septets
    rw [if_pos (by omega)]
  rw [hdone]
  rfl

/-- A reader that goes on by the variant tag in front. -/
theorem Codec.tagged {α β : Type} {f : α → β} {P : α → Prop} {w : α → Emission}
    {k : Nat → Reader β} (variant : α → Option Nat)
    (hw : ∀ a n, P a → variant a = some n → w a = Write.length n ++ (w a).afterTag)
    (hnone : ∀ a bs, P a → variant a = none → w a ≠ .done bs)
    (hk : ∀ n, Codec f (fun a => P a ∧ variant a = some n) (fun a => (w a).afterTag) (k n)) :
    Codec f P w (Read.length >>= k) where
  reads {a bs c c'} ha hwa hc := by
    cases hv : variant a with
    | none => exact absurd hwa (hnone a bs ha hv)
    | some n =>
      rw [hw a n ha hv] at hwa
      obtain ⟨xs, ys, hx, hy, rfl⟩ := Emission.append_eq_done_iff.1 hwa
      obtain ⟨c₁, hc₁, hc₂⟩ := Cursor.spans_append_iff.1 hc
      exact bind_eq_ok_iff.2 ⟨n, c₁, length.reads trivial hx hc₁, (hk n).reads ⟨ha, hv⟩ hy hc₂⟩
  written hr := by
    obtain ⟨n, c₁, hn, hk₁⟩ := bind_eq_ok_iff.1 hr
    obtain ⟨n', xs, -, hx, rfl, hc₁⟩ := length.written hn
    obtain ⟨a, ys, ⟨ha, hv⟩, hy, hb, hc₂⟩ := (hk n').written hk₁
    refine ⟨a, xs ++ ys, ha, ?_, hb, Cursor.spans_append_iff.2 ⟨c₁, hc₁, hc₂⟩⟩
    rw [hw a n' ha hv, hx, hy]
    rfl

end Signatory.Bcs
