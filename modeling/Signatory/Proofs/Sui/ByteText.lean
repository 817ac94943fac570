import Signatory.Proofs.Outcome
import Signatory.Proofs.Text.Base64
import Signatory.Proofs.Text.Hexadecimal
import Signatory.Sui.Signing

/-!
# Texts of bytes

Bytes in a request are a text in one of two forms: hexadecimal behind a mark, or base 64. The mark
decides, and it may also stand at the front of base 64.

`decodeText_inverts`: bytes are read from both forms, except from base 64 where it starts like a
mark. There they are never read, not even by accident, since the hexadecimal form of as many bytes
is longer.
-/

namespace Signatory.Sui

open Text

variable {field s : String} {cs ds : List Char} {bs : Bytes}

/-- The mark decides how a text is read. -/
theorem decodeText_eq_ok_iff (hs : trim isBlank s.toList = cs) : decodeText field s = .ok bs ↔
    (if hasHexMark cs then Hex.decode? (cs.drop 2) else Base64.decode? cs) = some bs := by
  unfold decodeText
  rw [hs]
  dsimp only
  split
  · rename_i bs' h
    rw [h, Except.ok.injEq, Option.some.injEq]
  · rename_i h
    rw [h]
    exact iff_of_false (fun h' => by cases h') fun h' => by cases h'

theorem eq_of_decodeText {f : Failure} (h : decodeText field s = .error f) :
    f = .undecodable field := by
  unfold decodeText at h
  dsimp only at h
  split at h
  · cases h
  · exact (Except.error.inj h).symm

/-! ## Hexadecimal -/

/-- Bytes are read from their digits behind a mark. -/
theorem decodeText_marked {mark : Char} (hmark : mark = 'x' ∨ mark = 'X')
    (hds : ds.map Char.toLower = Hex.encodeChars bs) (hs : IsPadded ('0' :: mark :: ds) s) :
    decodeText field s = .ok bs := by
  have htrim := Hex.trim_of_isPadded hmark (Hex.isHexDigit_of_toLower hds) hs
  rw [decodeText_eq_ok_iff htrim, if_pos (hasHexMark_cons_cons.2 ⟨rfl, hmark⟩)]
  exact Hex.decode?_of_toLower hds

/-! ## Base 64 -/

theorem trim_of_isPadded_encodeChars (hs : IsPadded (Base64.encodeChars bs) s) :
    trim isBlank s.toList = Base64.encodeChars bs :=
  hs.trim_eq (Base64.isTight_encodeChars bs)

/-- Bytes whose base 64 text carries no mark are read back from it. -/
theorem decodeText_of_not_mark (h : hasHexMark (Base64.encodeChars bs) = false)
    (hs : IsPadded (Base64.encodeChars bs) s) : decodeText field s = .ok bs := by
  rw [decodeText_eq_ok_iff (trim_of_isPadded_encodeChars hs), h, if_neg Bool.false_ne_true]
  exact Base64.decode?_encodeChars bs

theorem decodeText_encode (h : hasHexMark (Base64.encodeChars bs) = false) (field : String) :
    decodeText field (Base64.encode bs) = .ok bs := by
  refine decodeText_of_not_mark h ⟨[], [], ?_, List.forall_mem_nil _, List.forall_mem_nil _⟩
  rw [List.append_nil, List.nil_append]
  exact String.toList_ofList

/-- Behind a mark, base 64 is too short for the digits of as many bytes. -/
theorem decodeText_ne_of_mark (h : hasHexMark (Base64.encodeChars bs) = true)
    (hs : IsPadded (Base64.encodeChars bs) s) : decodeText field s ≠ .ok bs := by
  intro hok
  rw [decodeText_eq_ok_iff (trim_of_isPadded_encodeChars hs), if_pos h] at hok
  have hle := Hex.length_le_of_decode? hok
  have hpair := Base64.two_le_of_lookLikeHex ((Base64.hasHexMark_encodeChars_iff bs).1 h)
  rw [List.length_drop, Base64.length_encodeChars] at hle
  omega

/-! ## Both forms -/

/-- Bytes are read from their hexadecimal form in any letter case, with blanks around it. They are
read from base 64 exactly if it does not start like a mark, which the first two bytes decide. -/
theorem decodeText_inverts (field : String) (bs : Bytes) :
    (∀ mark ds s, (mark = 'x' ∨ mark = 'X') → ds.map Char.toLower = Hex.encodeChars bs →
      IsPadded ('0' :: mark :: ds) s → decodeText field s = .ok bs) ∧
    (∀ s, IsPadded (Base64.encodeChars bs) s →
      (decodeText field s = .ok bs ↔ ¬ Base64.LookLikeHex bs)) ∧
    (Base64.LookLikeHex bs ↔
      ∃ mark ds, (mark = 'x' ∨ mark = 'X') ∧ Base64.encodeChars bs = '0' :: mark :: ds) := by
  refine ⟨fun mark ds s hmark hds hs => decodeText_marked hmark hds hs, fun s hs => ⟨?_, ?_⟩, ?_⟩
  · intro hok hlook
    exact decodeText_ne_of_mark ((Base64.hasHexMark_encodeChars_iff bs).2 hlook) hs hok
  · intro hlook
    rw [← Base64.hasHexMark_encodeChars_iff, Bool.not_eq_true] at hlook
    exact decodeText_of_not_mark hlook hs
  · rw [← Base64.hasHexMark_encodeChars_iff]
    constructor
    · intro h
      obtain ⟨mark, hcs, hmark⟩ := cons_of_hasHexMark h
      exact ⟨mark, _, hmark, hcs⟩
    · rintro ⟨mark, ds, hmark, hcs⟩
      rw [hcs]
      exact hasHexMark_cons_cons.2 ⟨rfl, hmark⟩

/-- Three bytes whose base 64 text is `0x8H`. -/
def markedBytes : Bytes := [0xD3, 0x1F, 0x07]

theorem decodeText_inverts_markedBytes :
    decodeText "tx_data" "\t0XD31f07 " = .ok markedBytes ∧
      decodeText "tx_data" "0x8H\n" ≠ .ok markedBytes := by
  obtain ⟨hhex, hbase, -⟩ := decodeText_inverts "tx_data" markedBytes
  have hmarked : IsPadded ['0', 'X', 'D', '3', '1', 'f', '0', '7'] "\t0XD31f07 " :=
    ⟨['\t'], [' '], rfl, List.forall_mem_singleton.2 rfl, List.forall_mem_singleton.2 rfl⟩
  have hpadded : IsPadded (Base64.encodeChars markedBytes) "0x8H\n" :=
    ⟨[], ['\n'], rfl, List.forall_mem_nil _, List.forall_mem_singleton.2 rfl⟩
  exact ⟨hhex 'X' _ _ (.inr rfl) rfl hmarked, fun h => (hbase _ hpadded).1 h (by decide)⟩

end Signatory.Sui
