import Attest.Text.Utf8
import Mathlib.Data.List.Basic

/-!
# Texts come back from their bytes

The bytes of a text are those of its characters one after the other, and a character takes one to
four of them by the number of its bits.  Each of the four shapes is read as the character it was
made for (`exists_character`); the narrow second bytes after `e0`, `ed`, `f0` and `f4` are where
the bounds of the shape, and the gap that characters leave for surrogates, are used.
-/

namespace Attest

/-! ## The bytes of a text -/

theorem Bytes.toList_loop (bs : ByteArray) (i : Nat) (read : List UInt8) :
    ByteArray.toList.loop bs i read = read.reverse ++ bs.data.toList.drop i := by
  fun_induction ByteArray.toList.loop bs i read with
  | case1 i read hlt ih =>
    have hlength : i < bs.data.toList.length := by simpa using hlt
    have hget : bs.get! i = bs.data.toList[i] := by
      show bs.data[i]! = bs.data.toList[i]
      rw [getElem!_pos bs.data i hlt, Array.getElem_toList]
    rw [ih, List.drop_eq_getElem_cons hlength, hget, List.reverse_cons, List.append_assoc,
      List.singleton_append]
  | case2 i read hlt =>
    have hlength : bs.data.toList.length ≤ i := by simpa using Nat.le_of_not_lt hlt
    rw [List.drop_eq_nil_of_le hlength, List.append_nil]

theorem Bytes.ofText_eq_flatMap (s : String) :
    ofText s = s.toList.flatMap String.utf8EncodeChar := by
  rw [ofText, String.toUTF8, ByteArray.toList, toList_loop, ← String.utf8Encode_toList,
    List.utf8Encode, List.toList_data_toByteArray]
  rfl

namespace Utf8

/-! ## Single bytes -/

section bytes

variable {b lead : UInt8}

theorem leadInfo_one (h : b.toNat < 0x80) : leadInfo b = some (1, b.toNat) := by
  rw [leadInfo, if_pos (UInt8.lt_iff_toNat_lt.2 h)]

theorem leadInfo_two (hlow : 0xc2 ≤ b.toNat) (hhigh : b.toNat < 0xe0) :
    leadInfo b = some (2, b.toNat - 0xc0) := by
  simp only [leadInfo, UInt8.lt_iff_toNat_lt, UInt8.reduceToNat]
  rw [if_neg (by omega), if_neg (by omega), if_pos hhigh]

theorem leadInfo_three (hlow : 0xe0 ≤ b.toNat) (hhigh : b.toNat < 0xf0) :
    leadInfo b = some (3, b.toNat - 0xe0) := by
  simp only [leadInfo, UInt8.lt_iff_toNat_lt, UInt8.reduceToNat]
  rw [if_neg (by omega), if_neg (by omega), if_neg (by omega), if_pos hhigh]

theorem leadInfo_four (hlow : 0xf0 ≤ b.toNat) (hhigh : b.toNat < 0xf5) :
    leadInfo b = some (4, b.toNat - 0xf0) := by
  simp only [leadInfo, UInt8.lt_iff_toNat_lt, UInt8.reduceToNat]
  rw [if_neg (by omega), if_neg (by omega), if_neg (by omega), if_neg (by omega), if_pos hhigh]

theorem isContinuation_iff : isContinuation b = true ↔ 0x80 ≤ b.toNat ∧ b.toNat < 0xc0 := by
  simp only [isContinuation, Bool.and_eq_true, decide_eq_true_eq, UInt8.le_iff_toNat_le,
    UInt8.lt_iff_toNat_lt, UInt8.reduceToNat]

theorem isSecond_iff : isSecond lead b = true ↔ (0x80 ≤ b.toNat ∧ b.toNat < 0xc0) ∧
    (lead.toNat = 0xe0 → 0xa0 ≤ b.toNat) ∧ (lead.toNat = 0xed → b.toNat < 0xa0) ∧
    (lead.toNat = 0xf0 → 0x90 ≤ b.toNat) ∧ (lead.toNat = 0xf4 → b.toNat < 0x90) := by
  rw [isSecond, Bool.and_eq_true, isContinuation_iff]
  refine and_congr_right fun _ => ?_
  simp only [← UInt8.toNat_inj, UInt8.reduceToNat]
  split_ifs <;> simp only [decide_eq_true_eq, UInt8.le_iff_toNat_le, UInt8.lt_iff_toNat_lt,
    UInt8.reduceToNat, true_iff] <;> omega

theorem continuation_cons (h : isContinuation b = true) (read left bits : Nat) (bs : Bytes) :
    continuation read (left + 1) bits (b :: bs) =
      continuation (read + 1) left (64 * bits + (b.toNat - 0x80)) bs := by
  rw [continuation, if_pos h]

end bytes

/-! ## Characters -/

section character

variable {a b c d : UInt8} {n : Nat}

theorem character_one (hn : n < 0x80) (ha : a.toNat = n) (rest : Bytes) :
    character a rest = .ok (1, Char.ofNat n) := by
  rw [character, leadInfo_one (by omega), ha]
  rfl

theorem character_two (hlow : 0x80 ≤ n) (hhigh : n < 0x800) (ha : a.toNat = n / 64 + 0xc0)
    (hb : b.toNat = n % 64 + 0x80) (rest : Bytes) :
    character a (b :: rest) = .ok (2, Char.ofNat n) := by
  have hsecond : isSecond a b = true := isSecond_iff.2 (by omega)
  have hbits : 64 * (a.toNat - 0xc0) + (b.toNat - 0x80) = n := by omega
  rw [character, leadInfo_two (by omega) (by omega)]
  simp only [hsecond, if_true, hbits]
  rfl

theorem character_three (hlow : 0x800 ≤ n) (hhigh : n < 0x10000)
    (hgap : n < 0xd800 ∨ 0xe000 ≤ n) (ha : a.toNat = n / 4096 + 0xe0)
    (hb : b.toNat = n / 64 % 64 + 0x80) (hc : c.toNat = n % 64 + 0x80) (rest : Bytes) :
    character a (b :: c :: rest) = .ok (3, Char.ofNat n) := by
  have hsecond : isSecond a b = true := isSecond_iff.2 (by omega)
  have hthird : isContinuation c = true := isContinuation_iff.2 (by omega)
  have hbits : 64 * (64 * (a.toNat - 0xe0) + (b.toNat - 0x80)) + (c.toNat - 0x80) = n := by omega
  rw [character, leadInfo_three (by omega) (by omega)]
  simp only [hsecond, if_true, Nat.reduceSub, continuation_cons hthird, hbits]
  rfl

theorem character_four (hlow : 0x10000 ≤ n) (hhigh : n < 0x110000)
    (ha : a.toNat = n / 262144 + 0xf0) (hb : b.toNat = n / 4096 % 64 + 0x80)
    (hc : c.toNat = n / 64 % 64 + 0x80) (hd : d.toNat = n % 64 + 0x80) (rest : Bytes) :
    character a (b :: c :: d :: rest) = .ok (4, Char.ofNat n) := by
  have hsecond : isSecond a b = true := isSecond_iff.2 (by omega)
  have hthird : isContinuation c = true := isContinuation_iff.2 (by omega)
  have hfourth : isContinuation d = true := isContinuation_iff.2 (by omega)
  have hbits : 64 * (64 * (64 * (a.toNat - 0xf0) + (b.toNat - 0x80)) + (c.toNat - 0x80)) +
      (d.toNat - 0x80) = n := by omega
  rw [character, leadInfo_four (by omega) (by omega)]
  simp only [hsecond, if_true, Nat.reduceSub, continuation_cons hthird, continuation_cons hfourth,
    hbits]
  rfl

/-- The bytes of a character are read as that character, whatever follows them. -/
theorem exists_character (c : Char) :
    ∃ lead tail, String.utf8EncodeChar c = lead :: tail ∧
      ∀ rest, character lead (tail ++ rest) = .ok (tail.length + 1, c) := by
  obtain ⟨n, hn⟩ : ∃ n, c.val.toNat = n := ⟨_, rfl⟩
  have hvalid : n < 0xd800 ∨ (0xdfff < n ∧ n < 0x110000) := hn ▸ c.valid
  have hchar : Char.ofNat n = c := hn ▸ Char.ofNat_toNat c
  have hbyte : ∀ n < 256, (UInt8.ofNat n).toNat = n := fun n hn => UInt8.toNat_ofNat_of_lt' hn
  unfold String.utf8EncodeChar
  simp only [hn]
  -- One byte holds 7 bits, two hold 11, three hold 16 and four hold the rest.
  split_ifs with hone htwo hthree
  · refine ⟨_, _, rfl, fun rest => ?_⟩
    have hlead := hbyte n (by omega)
    rw [List.nil_append, character_one (by omega) hlead, hchar]
    rfl
  · refine ⟨_, _, rfl, fun rest => ?_⟩
    have hlead := hbyte (n / 64 % 32 + 192) (by omega)
    have hlast := hbyte (n % 64 + 128) (by omega)
    rw [List.singleton_append, character_two (by omega) (by omega) (by omega) hlast, hchar]
    rfl
  · refine ⟨_, _, rfl, fun rest => ?_⟩
    have hlead := hbyte (n / 4096 % 16 + 224) (by omega)
    have hsecond := hbyte (n / 64 % 64 + 128) (by omega)
    have hlast := hbyte (n % 64 + 128) (by omega)
    rw [List.cons_append, List.singleton_append, character_three (by omega) (by omega) (by omega)
      (by omega) hsecond hlast, hchar]
    rfl
  · refine ⟨_, _, rfl, fun rest => ?_⟩
    have hlead := hbyte (n / 262144 % 8 + 240) (by omega)
    have hsecond := hbyte (n / 4096 % 64 + 128) (by omega)
    have hthird := hbyte (n / 64 % 64 + 128) (by omega)
    have hlast := hbyte (n % 64 + 128) (by omega)
    rw [List.cons_append, List.cons_append, List.singleton_append, character_four (by omega)
      (by omega) (by omega) hsecond hthird hlast, hchar]
    rfl

end character

/-! ## Texts -/

theorem decodeFrom_skip (start : Nat) (bs rest : Bytes) :
    decodeFrom start bs.length (bs ++ rest) = decodeFrom (start + bs.length) 0 rest := by
  induction bs generalizing start with
  | nil => rfl
  | cons b bs ih =>
    rw [List.length_cons, List.cons_append, decodeFrom, ih, Nat.add_assoc, Nat.add_comm 1]

theorem decodeFrom_flatMap (start : Nat) (cs : List Char) :
    decodeFrom start 0 (cs.flatMap String.utf8EncodeChar) = .ok cs := by
  induction cs generalizing start with
  | nil => rfl
  | cons c cs ih =>
    obtain ⟨lead, tail, hbytes, hread⟩ := exists_character c
    rw [List.flatMap_cons, hbytes, List.cons_append, decodeFrom, hread]
    simp only [Nat.add_sub_cancel, decodeFrom_skip, ih]
    rfl

/-- The bytes of a text are read as that text. -/
theorem decode_ofText (s : String) : decode (Bytes.ofText s) = .ok s.toList := by
  rw [decode, Bytes.ofText_eq_flatMap, decodeFrom_flatMap]

end Utf8

end Attest
