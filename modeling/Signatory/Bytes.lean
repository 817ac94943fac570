/-!
# Byte strings and the numbers they stand for

A byte string is a list of bytes. This module reads one as a number in either byte
order, and writes a number in a given width or in the fewest bytes.

1. `leNat` and `leBytes` take the least significant byte first.
2. `beNat` and `beBytes` take the most significant byte first.
3. `beNat_beBytes` and `leNat_leBytes`: writing in a width keeps the number modulo
   the capacity of the width.
-/

namespace Signatory

/-- A byte string. -/
abbrev Bytes := List UInt8

namespace Bytes

/-- How many numbers a width of bytes holds: all below this one. -/
def capacity (width : Nat) : Nat :=
  Nat.pow 256 width

/-- The number a byte string stands for, least significant byte first. -/
def leNat : Bytes → Nat
  | [] => 0
  | b :: bs => b.toNat + 256 * leNat bs

/-- The lowest `width` bytes of a number, least significant first. -/
def leBytes : (width : Nat) → Nat → Bytes
  | 0, _ => []
  | w + 1, n => UInt8.ofNat n :: leBytes w (n / 256)

/-- The number a byte string stands for, most significant byte first. -/
def beNat (bs : Bytes) : Nat :=
  bs.foldl (fun n b => n * 256 + b.toNat) 0

/-- The lowest `width` bytes of a number, most significant first. -/
def beBytes (width n : Nat) : Bytes :=
  (leBytes width n).reverse

/-- How many bytes a number needs; none for zero. -/
def byteCount (n : Nat) : Nat :=
  if n = 0 then 0 else n.log2 / 8 + 1

/-- The shortest big-endian form of a number, empty for zero. -/
def minimal (n : Nat) : Bytes :=
  beBytes (byteCount n) n

/-- Zero bytes in front, up to `width` bytes in all. -/
def padLeft (width : Nat) (bs : Bytes) : Bytes :=
  List.replicate (width - bs.length) 0 ++ bs

/-- The UTF-8 form of a text. -/
def ofText (s : String) : Bytes :=
  s.toUTF8.data.toList

/-- The text whose UTF-8 form this is, if there is one. -/
def toText? (bs : Bytes) : Option String :=
  String.fromUTF8? ⟨bs.toArray⟩

/-- The bytes of an ASCII text. -/
def ascii (s : String) : Bytes :=
  s.toList.map fun c => UInt8.ofNat c.toNat

@[simp] theorem length_leBytes (w n : Nat) : (leBytes w n).length = w := by
  induction w generalizing n with
  | zero => rfl
  | succ w ih => simp [leBytes, ih]

@[simp] theorem length_beBytes (w n : Nat) : (beBytes w n).length = w := by
  simp [beBytes]

@[simp] theorem capacity_zero : capacity 0 = 1 := rfl

theorem capacity_succ (w : Nat) : capacity (w + 1) = 256 * capacity w := by
  rw [Nat.mul_comm]
  rfl

theorem leNat_lt (bs : Bytes) : leNat bs < capacity bs.length := by
  induction bs with
  | nil => simp [leNat]
  | cons b bs ih =>
    have hb : b.toNat < 256 := b.toNat_lt
    simp only [leNat, List.length_cons, capacity_succ]
    omega

theorem leNat_leBytes (w n : Nat) : leNat (leBytes w n) = n % capacity w := by
  induction w generalizing n with
  | zero => simp [leBytes, leNat, Nat.mod_one]
  | succ w ih =>
    simp only [leBytes, leNat, ih]
    rw [capacity_succ, Nat.mod_mul]
    simp

theorem leBytes_leNat (bs : Bytes) : leBytes bs.length (leNat bs) = bs := by
  induction bs with
  | nil => rfl
  | cons b bs ih =>
    have hb : b.toNat < 256 := b.toNat_lt
    have hd : (b.toNat + 256 * leNat bs) / 256 = leNat bs := by omega
    have hm : UInt8.ofNat (b.toNat + 256 * leNat bs) = b := by
      apply UInt8.toNat_inj.1
      simp
    simp only [List.length_cons, leNat, leBytes, hd, hm, ih]

theorem beNat_eq_leNat_reverse (bs : Bytes) : beNat bs = leNat bs.reverse := by
  rw [beNat, ← List.foldr_reverse]
  generalize bs.reverse = l
  induction l with
  | nil => rfl
  | cons b l ih => simp only [List.foldr_cons, leNat, ih]; omega

theorem beNat_beBytes (w n : Nat) : beNat (beBytes w n) = n % capacity w := by
  simp [beNat_eq_leNat_reverse, beBytes, leNat_leBytes]

theorem beBytes_beNat (bs : Bytes) : beBytes bs.length (beNat bs) = bs := by
  have h := leBytes_leNat bs.reverse
  rw [List.length_reverse] at h
  rw [beNat_eq_leNat_reverse, beBytes, h, List.reverse_reverse]

theorem beNat_lt (bs : Bytes) : beNat bs < capacity bs.length := by
  have h := leNat_lt bs.reverse
  rwa [List.length_reverse, ← beNat_eq_leNat_reverse] at h

theorem toText?_ofText (s : String) : toText? (ofText s) = some s := by
  have h : (⟨(ofText s).toArray⟩ : ByteArray) = s.toUTF8 := by simp [ofText]
  rw [toText?, h, String.fromUTF8?, String.toUTF8_eq_toByteArray, dif_pos s.isValidUTF8]
  rfl

end Bytes

end Signatory
