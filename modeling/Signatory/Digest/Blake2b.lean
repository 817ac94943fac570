import Signatory.Bytes

/-!
# BLAKE2b

The unkeyed BLAKE2b digest (RFC 7693) of any output length up to 64 bytes, with the
sixteen personalisation bytes of the parameter block.
-/

namespace Signatory.Blake2b

/-- The initial words: the square roots' fractional parts that SHA-512 also starts from. -/
def initialWords : Array UInt64 :=
  #[0x6a09e667f3bcc908, 0xbb67ae8584caa73b, 0x3c6ef372fe94f82b, 0xa54ff53a5f1d36f1,
    0x510e527fade682d1, 0x9b05688c2b3e6c1f, 0x1f83d9abfb41bd6b, 0x5be0cd19137e2179]

/-- The order in which each round takes the message words. -/
def sigma : Array (Array Nat) :=
  #[
    #[0, 1, 2, 3, 4, 5, 6, 7, 8, 9, 10, 11, 12, 13, 14, 15],
    #[14, 10, 4, 8, 9, 15, 13, 6, 1, 12, 0, 2, 11, 7, 5, 3],
    #[11, 8, 12, 0, 5, 2, 15, 13, 10, 14, 3, 6, 7, 1, 9, 4],
    #[7, 9, 3, 1, 13, 12, 11, 14, 2, 6, 5, 10, 4, 0, 15, 8],
    #[9, 0, 5, 7, 2, 4, 10, 15, 14, 1, 11, 12, 6, 8, 3, 13],
    #[2, 12, 6, 10, 0, 11, 8, 3, 4, 13, 7, 5, 15, 14, 1, 9],
    #[12, 5, 1, 15, 14, 13, 4, 10, 0, 7, 6, 3, 9, 2, 8, 11],
    #[13, 11, 7, 14, 12, 1, 3, 9, 5, 0, 15, 4, 8, 6, 2, 10],
    #[6, 15, 14, 9, 11, 3, 0, 8, 12, 2, 13, 7, 1, 4, 10, 5],
    #[10, 2, 8, 4, 7, 6, 1, 5, 15, 11, 9, 14, 3, 12, 13, 0]]

def rotate (x : UInt64) (n : UInt64) : UInt64 :=
  (x >>> n) ||| (x <<< (64 - n))

/-- The mixing of four words of the state with two words of the message. -/
def mix (v : Array UInt64) (a b c d : Nat) (x y : UInt64) : Array UInt64 :=
  let va := v.getD a 0 + v.getD b 0 + x
  let vd := rotate (v.getD d 0 ^^^ va) 32
  let vc := v.getD c 0 + vd
  let vb := rotate (v.getD b 0 ^^^ vc) 24
  let va := va + vb + y
  let vd := rotate (vd ^^^ va) 16
  let vc := vc + vd
  let vb := rotate (vb ^^^ vc) 63
  (((v.setIfInBounds a va).setIfInBounds b vb).setIfInBounds c vc).setIfInBounds d vd

/-- One round: the four columns, then the four diagonals. -/
def round (m : Array UInt64) (order : Array Nat) (v : Array UInt64) : Array UInt64 :=
  let word (i : Nat) : UInt64 := m.getD (order.getD i 0) 0
  let v := mix v 0 4 8 12 (word 0) (word 1)
  let v := mix v 1 5 9 13 (word 2) (word 3)
  let v := mix v 2 6 10 14 (word 4) (word 5)
  let v := mix v 3 7 11 15 (word 6) (word 7)
  let v := mix v 0 5 10 15 (word 8) (word 9)
  let v := mix v 1 6 11 12 (word 10) (word 11)
  let v := mix v 2 7 8 13 (word 12) (word 13)
  mix v 3 4 9 14 (word 14) (word 15)

/-- The `count` little-endian words at the front of a byte string; missing bytes are zero. -/
def words : (count : Nat) → Bytes → List UInt64
  | 0, _ => []
  | n + 1, bs => UInt64.ofNat (Bytes.leNat (bs.take 8)) :: words n (bs.drop 8)

/-- One block folded into the chaining words; `counted` bytes were taken so far. -/
def compress (h : Array UInt64) (block : Bytes) (counted : Nat) (last : Bool) : Array UInt64 :=
  let m := (words 16 block).toArray
  let v := h ++ initialWords
  let v := v.setIfInBounds 12 (v.getD 12 0 ^^^ UInt64.ofNat counted)
  let v := v.setIfInBounds 13 (v.getD 13 0 ^^^ UInt64.ofNat (counted >>> 64))
  let v := if last then v.setIfInBounds 14 (~~~ v.getD 14 0) else v
  let v := Nat.fold 12 (fun i _ v => round m (sigma.getD (i % 10) #[]) v) v
  h.mapIdx fun i x => x ^^^ v.getD i 0 ^^^ v.getD (i + 8) 0

/-- All blocks but the last are followed by another byte; the last may be empty. -/
def absorb : (whole : Nat) → Array UInt64 → Nat → Bytes → Array UInt64
  | 0, h, counted, bs => compress h bs (counted + bs.length) true
  | n + 1, h, counted, bs =>
    absorb n (compress h (bs.take 128) (counted + 128) false) (counted + 128) (bs.drop 128)

/-- The digest of a message, `size` bytes long. -/
def digestFor (size : Nat) (person message : Bytes) : Bytes :=
  let parameters : Bytes :=
    [UInt8.ofNat size, 0, 1, 1] ++ List.replicate 44 0 ++
      person.take 16 ++ List.replicate (16 - person.length) 0
  let h := initialWords.mapIdx fun i x => x ^^^ (words 8 parameters).getD i 0
  let out := absorb ((message.length - 1) / 128) h 0 message
  (out.toList.flatMap fun x => Bytes.leBytes 8 x.toNat).take size

/-- The 32-byte digest without personalisation. -/
def digest256 (message : Bytes) : Bytes :=
  digestFor 32 [] message

end Signatory.Blake2b
