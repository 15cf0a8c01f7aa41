import Attest.Address
import Attest.Proofs.Base58
import Attest.Proofs.Case
import Attest.Proofs.Hex

/-!
# Addresses come back

One reader serves three written forms, and it goes by the look of the text alone.  A text in
Base58 has no digit zero, so it is never taken for marked text (`detect_base58`).  Marked text
is told apart by the case of its letters (`detect_marked`); what the checksum changes is case
only, so the digits keep their values and go back to the ones that were changed
(`toLower_checksumCase`).  A checksum that leaves all letters in one case is not seen by the
reader: such an address comes back as plain hexadecimal.
-/

namespace Attest.Address

/-! ## Case by the checksum -/

section applyMask

variable {mask : Bytes} {cs : List Char}

/-- What does not tell a digit from its upper case does not see the mask. -/
theorem map_applyMask {α : Type} {f : Char → α} (hf : ∀ c ∈ cs, f c.toUpper = f c) (i : Nat) :
    (applyMask mask i cs).map f = cs.map f := by
  induction cs generalizing i with
  | nil => rfl
  | cons c cs ih =>
    obtain ⟨hc, hrest⟩ := List.forall_mem_cons.1 hf
    rw [applyMask, List.map_cons, List.map_cons, ih hrest]
    split
    · rw [hc]
    · rfl

end applyMask

theorem map_value?_checksumCase (data : Bytes) :
    (checksumCase (Hex.digits data)).map Hex.value? = (Hex.digits data).map Hex.value? := by
  refine map_applyMask (fun c hc => ?_) 0
  obtain ⟨n, hn, rfl⟩ := Hex.exists_digit_of_mem hc
  rw [Hex.value?_toUpper_digit hn, Hex.value?_digit hn]

theorem toLower_checksumCase (data : Bytes) :
    (checksumCase (Hex.digits data)).map Char.toLower = Hex.digits data := by
  have hmask : (checksumCase (Hex.digits data)).map Char.toLower =
      (Hex.digits data).map Char.toLower := by
    refine map_applyMask (fun c hc => ?_) 0
    obtain ⟨n, hn, rfl⟩ := Hex.exists_digit_of_mem hc
    rw [Hex.toLower_toUpper_digit hn, Hex.toLower_digit hn]
  rw [hmask, Hex.map_toLower_digits]

/-! ## Telling the forms apart -/

/-- Whether a text has letters of both cases. -/
def hasBothCases (cs : List Char) : Bool :=
  cs.any Char.isUpper && cs.any Char.isLower

theorem detect_base58 {s : String} {bs : Bytes} (h : Base58.decode s = .ok bs) (hs : s ≠ "") :
    detect s = some .base58 := by
  have hdigits := Base58.mem_alphabet_of_decode h
  have hbody : body? s.toList = none := by
    unfold body?
    split
    · next hmark =>
      -- The mark begins with a zero, which is no digit of Base58.
      have hzero : '0' ∉ Base58.alphabet := by decide
      exact absurd (hdigits '0' (hmark ▸ List.mem_cons_self)) hzero
    · rfl
  have hall : s.toList.all (Base58.value? · |>.isSome) = true := by
    rw [List.all_eq_true]
    intro c hc
    exact Option.isSome_iff_exists.2 (Base58.exists_value? (hdigits c hc))
  have hempty : s.isEmpty = false := by
    simpa using hs
  rw [detect, hbody]
  simp only [hempty, hall, Bool.not_false, Bool.and_self, if_true]

/-- Marked text with the values of the digits of 20 bytes carries a checksum if and only if
there are letters of both cases. -/
theorem detect_marked {cs : List Char} {data : Bytes} (hdata : data.length = dataSize)
    (h : cs.map Hex.value? = (Hex.digits data).map Hex.value?) :
    detect (String.ofList ('0' :: 'x' :: cs)) =
      some (if hasBothCases cs then .hexChecksum else .hex) := by
  have hlength : cs.length = 2 * dataSize := by
    have hmap := congrArg List.length h
    rw [List.length_map, List.length_map, Hex.length_digits, hdata] at hmap
    exact hmap
  have hascii := Hex.lt_of_map_value? (h.trans (Hex.map_value?_digits data))
  rw [detect, String.toList_ofList]
  simp only [body?, hlength, Text.isMixedCase_of_lt hascii, decide_true, Bool.true_and]
  show (if hasBothCases cs then _ else _) = _
  cases hasBothCases cs <;> rfl

/-! ## Reading what is written -/

theorem parse_of_base58 {s : String} {data : Bytes} (hdata : data.length = dataSize)
    (h : Base58.checkEncode data version = s) :
    parse s = .ok { kind := .base58, data, encoded := s } := by
  have hdecode : Base58.decode s = .ok (version ++ data ++ Base58.checksum (version ++ data)) :=
    Base58.decode_eq_ok_iff.2 h
  have hcheck : Base58.checkDecode s = .ok (version, data) :=
    Base58.checkDecode_eq_ok_iff.2 ⟨rfl, hdecode⟩
  have hs : s ≠ "" := by
    rintro rfl
    cases hdecode
  have hfits : ¬ (version ≠ version ∨ data.length ≠ dataSize) := by
    simp [hdata]
  rw [parse, detect_base58 hdecode hs]
  show parseBase58 s = _
  rw [parseBase58, hcheck]
  show (if version ≠ version ∨ data.length ≠ dataSize then _ else _) = _
  rw [if_neg hfits]
  rfl

/-- Marked text with the values of the digits of 20 bytes is read as these bytes, if its case
is what the checksum gives it in case both kinds of letters are there. -/
theorem parse_of_marked {cs : List Char} {data : Bytes} (hdata : data.length = dataSize)
    (h : cs.map Hex.value? = (Hex.digits data).map Hex.value?)
    (hcase : hasBothCases cs = true → checksumCase (cs.map Char.toLower) = cs) :
    parse (String.ofList ('0' :: 'x' :: cs)) =
      .ok { kind := if hasBothCases cs then .hexChecksum else .hex, data,
            encoded := String.ofList ('0' :: 'x' :: cs) } := by
  rw [parse, detect_marked hdata h]
  cases hboth : hasBothCases cs with
  | true =>
    show parseHex _ .hexChecksum = _
    simp [parseHex, Hex.decode_of_values h, hcase hboth]
  | false =>
    show parseHex _ .hex = _
    simp [parseHex, Hex.decode_of_values h, hdata]

theorem length_data_ofDigest (d : Digest) (kind : AddressKind) :
    (ofDigest d kind).data.length = dataSize := by
  cases kind with
  | base58 => rw [ofDigest, List.length_take, d.length_bytes]; rfl
  | hexChecksum => rw [ofDigest, List.length_drop, d.length_bytes]; rfl
  | hex => rw [ofDigest, List.length_drop, d.length_bytes]; rfl

theorem hasBothCases_digits (data : Bytes) : hasBothCases (Hex.digits data) = false := by
  have hupper : (Hex.digits data).any Char.isUpper = false := by
    rw [List.any_eq_false]
    intro c hc
    obtain ⟨n, hn, rfl⟩ := Hex.exists_digit_of_mem hc
    simp [Hex.isUpper_digit hn]
  rw [hasBothCases, hupper, Bool.false_and]

/-- **Addresses come back.**  What a digest is written as in any form is read, as the same
bytes and the same text.  The form is the one it was written in, except that a checksum does
not show when it leaves the letters in one case: then, and only then, the address is read as
plain hexadecimal. -/
theorem parse_ofDigest (d : Digest) (kind : AddressKind) :
    parse (ofDigest d kind).encoded =
      .ok { kind := if kind = .hexChecksum ∧
                hasBothCases ((ofDigest d kind).encoded.toList.drop 2) = false
              then .hex else kind,
            data := (ofDigest d kind).data,
            encoded := (ofDigest d kind).encoded } := by
  have hdata := length_data_ofDigest d kind
  cases kind with
  | base58 => exact parse_of_base58 hdata rfl
  | hexChecksum =>
    have hread := parse_of_marked hdata (map_value?_checksumCase _) fun _ => by
      rw [toLower_checksumCase]
    have hbody : (ofDigest d .hexChecksum).encoded.toList.drop 2 =
        checksumCase (Hex.digits (ofDigest d .hexChecksum).data) := by
      rw [ofDigest, String.toList_ofList]
      rfl
    rw [hbody]
    refine hread.trans ?_
    cases hasBothCases (checksumCase (Hex.digits (ofDigest d .hexChecksum).data)) <;> rfl
  | hex =>
    have hone := hasBothCases_digits (ofDigest d .hex).data
    have hread := parse_of_marked hdata rfl fun hboth => by
      rw [hone] at hboth
      cases hboth
    rw [hone] at hread
    exact hread

end Attest.Address
