import Attest.Proofs.Digest
import Attest.Proofs.Hex.Grammar

/-!
# Which texts are digests

A digest is read from 64 digits, with or without a mark before them, and from nothing else.  Reading
pairs of digits passes over blanks, but here the characters and the bytes are both counted: 64
characters with a blank among them are fewer than 32 bytes (`exists_hasDigits_of_parse`).
-/

namespace Attest.Digest

variable {s : String} {cs : List Char} {d : Digest}

theorem toHex_inj {a b : Digest} (h : a.toHex = b.toHex) : a = b := by
  have hread := parse_toHex a
  rw [h, parse_toHex] at hread
  exact (Except.ok.inj hread).symm

theorem ofBytes_of_length {bs : Bytes} (h : bs.length = 32) : ofBytes bs = .ok ⟨bs, h⟩ :=
  dif_pos h

/-! ## Reading -/

theorem parse_of_spaced {bs : Bytes} (hlength : (Hex.unmark s.toList).length = 64)
    (h : Hex.Spaced (Hex.unmark s.toList) bs) (hbs : bs.length = 32) :
    parse s = .ok ⟨bs, hbs⟩ := by
  unfold parse
  simp only [hlength, if_true, Hex.decode_eq_ok_iff.2 h, ofBytes_of_length hbs]

theorem parse_cases (s : String) :
    (∃ message details, parse s = .error (.invalidHash message details)) ∨
      ∃ bs hbs, (Hex.unmark s.toList).length = 64 ∧ Hex.Spaced (Hex.unmark s.toList) bs ∧
        parse s = .ok ⟨bs, hbs⟩ := by
  by_cases hlength : (Hex.unmark s.toList).length = 64
  · cases hdecode : Hex.decode (Hex.unmark s.toList) with
    | error i =>
      refine Or.inl ⟨s!"Invalid hex characters in hash: {Hex.complaint i}", [], ?_⟩
      unfold parse
      simp only [hlength, if_true, hdecode]
    | ok bs =>
      have hspaced := Hex.decode_eq_ok_iff.1 hdecode
      by_cases hbs : bs.length = 32
      · exact Or.inr ⟨bs, hbs, hlength, hspaced, parse_of_spaced hlength hspaced hbs⟩
      · refine Or.inl
          ⟨s!"Invalid hex characters in hash: Expected {size} bytes, got {bs.length}", [], ?_⟩
        unfold parse
        simp only [hlength, if_true, hdecode, ofBytes, dif_neg hbs]
        rfl
  · exact Or.inl ⟨_, _, if_neg hlength⟩

theorem exists_hasDigits_of_parse (h : parse s = .ok d) :
    ∃ cs, Hex.HasDigits s cs ∧ cs.length = 64 ∧ d.toHex = String.ofList (cs.map Char.toLower) := by
  rcases parse_cases s with ⟨message, details, hrefused⟩ | ⟨bs, hbs, hlength, hspaced, hread⟩
  · rw [h] at hrefused
    cases hrefused
  · rw [h, Except.ok.injEq] at hread
    have hdigits : ∀ c ∈ Hex.unmark s.toList, Hex.IsDigit c :=
      Hex.isDigit_of_spaced_of_length hspaced (by rw [hlength, hbs])
    refine ⟨_, ⟨Hex.hasBody_unmark s, hdigits⟩, hlength, ?_⟩
    rw [hread, toHex, Hex.encode, Hex.digits_of_isDigit hspaced hdigits]

theorem exists_parse_of_hasDigits (h : Hex.HasDigits s cs) (hlength : cs.length = 64) :
    ∃ d, parse s = .ok d ∧ d.toHex = String.ofList (cs.map Char.toLower) := by
  obtain ⟨bs, hspaced⟩ := Hex.spaced_of_isDigit h.isDigit (by rw [hlength])
  have hbs : bs.length = 32 := by
    have hsize := Hex.length_of_isDigit hspaced h.isDigit
    omega
  have hunmark := Hex.unmark_of_hasDigits h
  refine ⟨⟨bs, hbs⟩, parse_of_spaced (hunmark ▸ hlength) (hunmark ▸ hspaced) hbs, ?_⟩
  rw [toHex, Hex.encode, Hex.digits_of_isDigit hspaced h.isDigit]

theorem hasDigits_toHexMarked (d : Digest) : Hex.HasDigits d.toHexMarked (Hex.digits d.bytes) :=
  ⟨Hex.hasBody_encodeMarked d.bytes, fun _ => Hex.isDigit_of_mem_digits⟩

theorem parse_toHexMarked (d : Digest) : parse d.toHexMarked = .ok d := by
  have hlength : (Hex.digits d.bytes).length = 64 := by
    rw [Hex.length_digits, d.length_bytes]
  obtain ⟨d', hread, hhex⟩ := exists_parse_of_hasDigits (hasDigits_toHexMarked d) hlength
  rw [Hex.map_toLower_digits] at hhex
  rw [hread, toHex_inj hhex]

/-- **Digests are read from 64 digits and from nothing else.**  Data is read as a digest exactly if
it is a text of 64 hexadecimal digits of either case, with or without a mark before them; the digest
is written with the same digits in lower case.  All other data, texts or not, is refused as no hash.
What a digest is written as, marked or not, is read as this digest. -/
theorem ofValue_hex_or_refuse :
    (∀ v d, ofValue v = .ok d ↔ ∃ s cs, v = .text s ∧ Hex.HasDigits s cs ∧ cs.length = 64 ∧
      d.toHex = String.ofList (cs.map Char.toLower)) ∧
    (∀ s cs, Hex.HasDigits s cs → cs.length = 64 → ∃ d, ofValue (.text s) = .ok d) ∧
    (∀ v, (∃ d, ofValue v = .ok d) ∨
      ∃ message details, ofValue v = .error (.invalidHash message details)) ∧
    ∀ d : Digest, ofValue (.text d.toHex) = .ok d ∧ ofValue (.text d.toHexMarked) = .ok d := by
  refine ⟨fun v d => ⟨fun h => ?_, ?_⟩, ?_, fun v => ?_, fun d => ?_⟩
  · cases v with
    | text s =>
      obtain ⟨cs, hcs⟩ := exists_hasDigits_of_parse h
      exact ⟨s, cs, rfl, hcs⟩
    | _ => cases h
  · rintro ⟨s, cs, rfl, hcs, hlength, hhex⟩
    obtain ⟨d', hread, hhex'⟩ := exists_parse_of_hasDigits hcs hlength
    rw [toHex_inj (hhex.trans hhex'.symm)]
    exact hread
  · intro s cs hcs hlength
    obtain ⟨d, hread, -⟩ := exists_parse_of_hasDigits hcs hlength
    exact ⟨d, hread⟩
  · cases v with
    | text s =>
      rcases parse_cases s with hrefused | ⟨bs, hbs, -, -, hread⟩
      · exact Or.inr hrefused
      · exact Or.inl ⟨_, hread⟩
    | _ => exact Or.inr ⟨_, _, rfl⟩
  · exact ⟨parse_toHex d, parse_toHexMarked d⟩

/-- The digits of 32 bytes, with letters of both cases. -/
def mixedDigits : List Char :=
  List.replicate 32 'a' ++ List.replicate 32 'B'

/-- The digits of 31 bytes, and two blanks in place of the last. -/
def blankedDigits : List Char :=
  List.replicate 62 'a' ++ [' ', ' ']

/-- Behind a capital mark digits of both cases are read, and written in lower case.  With blanks in
place of the last byte there are 64 characters too, which are refused. -/
theorem ofValue_hex_or_refuse_mixedDigits :
    Hex.HasDigits (String.ofList ('0' :: 'X' :: mixedDigits)) mixedDigits ∧
      mixedDigits.length = 64 ∧
      (∃ d, ofValue (.text (String.ofList ('0' :: 'X' :: mixedDigits))) = .ok d ∧
        d.toHex = String.ofList (List.replicate 32 'a' ++ List.replicate 32 'b')) ∧
      blankedDigits.length = 64 ∧
      ∃ message details, ofValue (.text (String.ofList blankedDigits)) =
        .error (.invalidHash message details) := by
  obtain ⟨hread, haccept, hrefuse, -⟩ := ofValue_hex_or_refuse
  have hdigits : Hex.HasDigits (String.ofList ('0' :: 'X' :: mixedDigits)) mixedDigits := by
    refine ⟨Or.inr (Or.inr String.toList_ofList), fun c hc => ?_⟩
    obtain rfl | rfl : c = 'a' ∨ c = 'B' := by simpa [mixedDigits] using hc
    · decide
    · decide
  have hlength : mixedDigits.length = 64 := by decide
  refine ⟨hdigits, hlength, ?_, by decide, ?_⟩
  · obtain ⟨d, hd⟩ := haccept _ _ hdigits hlength
    obtain ⟨s, cs, hs, hcs, -, hhex⟩ := (hread _ d).1 hd
    cases hs
    have hbody : cs = mixedDigits := by
      rw [← Hex.unmark_of_hasDigits hcs, Hex.unmark_of_hasDigits hdigits]
    have hlower : mixedDigits.map Char.toLower =
        List.replicate 32 'a' ++ List.replicate 32 'b' := by
      decide
    exact ⟨d, hd, by rw [hhex, hbody, hlower]⟩
  · rcases hrefuse (.text (String.ofList blankedDigits)) with ⟨d, hd⟩ | hrefused
    · obtain ⟨s, cs, hs, hcs, -, -⟩ := (hread _ d).1 hd
      cases hs
      have hbody : cs = blankedDigits := by
        rw [← Hex.unmark_of_hasDigits hcs, String.toList_ofList]
        rfl
      have hblank : Hex.IsDigit ' ' := hcs.isDigit ' ' (hbody ▸ by decide)
      exact absurd hblank (by decide)
    · exact hrefused

end Attest.Digest
