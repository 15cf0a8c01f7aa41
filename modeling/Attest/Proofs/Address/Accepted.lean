import Attest.Proofs.Address
import Mathlib.Tactic.Common

/-!
# Which texts are addresses

A text in Base58 is an address only as the written form of its 20 bytes.  Marked text is read
in pairs of digits and blanks between the pairs are passed over, so it may stand for its bytes
in other ways than the written one (`parse_eq_ok_iff`): with blanks somewhere, and then, since
the form with a checksum is told by the number of characters, also for fewer than 20 bytes.
Blanks are all there is to it: an address without one is in written form.
-/

namespace Attest.Address

/-! ## Accepted texts -/

/-- The text of the address is one that it is read from. -/
def Accepted (a : Address) : Prop :=
  match a.kind with
  | .base58 => a.data.length = dataSize ∧ a.encoded = Base58.checkEncode a.data version
  | .hexChecksum =>
    ∃ body, a.encoded = String.ofList ('0' :: 'x' :: body) ∧ Hex.Spaced body a.data ∧
      body.length = 2 * dataSize ∧ hasBothCases body = true ∧
      checksumCase (body.map Char.toLower) = body
  | .hex =>
    ∃ body, a.encoded = String.ofList ('0' :: 'x' :: body) ∧ Hex.Spaced body a.data ∧
      a.data.length = dataSize ∧ ¬ (body.length = 2 * dataSize ∧ hasBothCases body = true)

/-- The address has 20 bytes, and its text is what they are written as in its form; digits
without a checksum may all be upper case. -/
def IsCanonical (a : Address) : Prop :=
  a.data.length = dataSize ∧
    match a.kind with
    | .base58 => a.encoded = Base58.checkEncode a.data version
    | .hexChecksum =>
      a.encoded = String.ofList ('0' :: 'x' :: checksumCase (Hex.digits a.data))
    | .hex =>
      a.encoded = String.ofList ('0' :: 'x' :: Hex.digits a.data) ∨
        a.encoded = String.ofList ('0' :: 'x' :: (Hex.digits a.data).map Char.toUpper)

/-- The text has a blank in it. -/
def HasBlank (s : String) : Prop :=
  ∃ c ∈ s.toList, Hex.isBlank c = true

theorem body?_eq_some_iff {cs body : List Char} :
    body? cs = some body ↔ cs = '0' :: 'x' :: body := by
  unfold body?
  split
  · simp
  · next hother =>
    constructor
    · intro h
      cases h
    · rintro rfl
      exact absurd rfl (hother body)

/-! ## Marked text -/

section marked

variable {body : List Char} {data : Bytes}

theorem isMixedCase_of_spaced (h : Hex.Spaced body data) :
    Text.isMixedCase body = hasBothCases body :=
  Text.isMixedCase_of_lt (Hex.lt_of_spaced h)

theorem detect_of_spaced (h : Hex.Spaced body data) :
    detect (String.ofList ('0' :: 'x' :: body)) =
      if body.length = 2 * dataSize ∧ hasBothCases body = true then some .hexChecksum
      else some .hex := by
  rw [detect, String.toList_ofList]
  simp only [body?, isMixedCase_of_spaced h, Bool.and_eq_true, decide_eq_true_eq]

theorem parseHex_of_spaced (h : Hex.Spaced body data) (kind : AddressKind) :
    parseHex (String.ofList ('0' :: 'x' :: body)) kind =
      if kind = .hexChecksum then
        if checksumCase (body.map Char.toLower) = body then
          .ok { kind, data, encoded := String.ofList ('0' :: 'x' :: body) }
        else .error (.badAddress "Invalid address checksum" (String.ofList ('0' :: 'x' :: body)))
      else if data.length = dataSize then
        .ok { kind, data, encoded := String.ofList ('0' :: 'x' :: body) }
      else .error (.badAddress s!"Hex address must be {dataSize} bytes, got {data.length}"
        (String.ofList ('0' :: 'x' :: body))) := by
  unfold parseHex
  simp only [String.toList_ofList, List.drop_succ_cons, List.drop_zero, Hex.decode_eq_ok_iff.2 h]

theorem parse_of_spaced (h : Hex.Spaced body data) :
    parse (String.ofList ('0' :: 'x' :: body)) =
      if body.length = 2 * dataSize ∧ hasBothCases body = true then
        parseHex (String.ofList ('0' :: 'x' :: body)) .hexChecksum
      else parseHex (String.ofList ('0' :: 'x' :: body)) .hex := by
  rw [parse, detect_of_spaced h]
  by_cases hmixed : body.length = 2 * dataSize ∧ hasBothCases body = true
  · rw [if_pos hmixed, if_pos hmixed]
  · rw [if_neg hmixed, if_neg hmixed]

/-- Marked text that is not made of pairs of digits is refused, in whichever form it seems to
be. -/
theorem parse_of_decode_error {i : Nat} (h : Hex.decode body = .error i) :
    parse (String.ofList ('0' :: 'x' :: body)) =
      .error (.badAddress s!"Invalid hex address: {Hex.complaint i}"
        (String.ofList ('0' :: 'x' :: body))) := by
  have hparse (kind : AddressKind) : parseHex (String.ofList ('0' :: 'x' :: body)) kind =
      .error (.badAddress s!"Invalid hex address: {Hex.complaint i}"
        (String.ofList ('0' :: 'x' :: body))) := by
    unfold parseHex
    simp only [String.toList_ofList, List.drop_succ_cons, List.drop_zero, h]
  rw [parse, detect, String.toList_ofList]
  simp only [body?]
  by_cases hmixed : (body.length = 2 * dataSize && Text.isMixedCase body) = true
  · rw [if_pos hmixed]
    exact hparse .hexChecksum
  · rw [if_neg hmixed]
    exact hparse .hex

theorem parse_marked_cases (body : List Char) :
    (∃ message, parse (String.ofList ('0' :: 'x' :: body)) =
      .error (.badAddress message (String.ofList ('0' :: 'x' :: body)))) ∨
      ∃ a, parse (String.ofList ('0' :: 'x' :: body)) = .ok a ∧
        a.encoded = String.ofList ('0' :: 'x' :: body) ∧ a.Accepted := by
  cases hdecode : Hex.decode body with
  | error i => exact Or.inl ⟨_, parse_of_decode_error hdecode⟩
  | ok data =>
    have hspaced := Hex.decode_eq_ok_iff.1 hdecode
    rw [parse_of_spaced hspaced, parseHex_of_spaced hspaced, parseHex_of_spaced hspaced]
    by_cases hmixed : body.length = 2 * dataSize ∧ hasBothCases body = true
    · rw [if_pos hmixed, if_pos rfl]
      by_cases hcase : checksumCase (body.map Char.toLower) = body
      · rw [if_pos hcase]
        exact Or.inr ⟨_, rfl, rfl, body, rfl, hspaced, hmixed.1, hmixed.2, hcase⟩
      · rw [if_neg hcase]
        exact Or.inl ⟨_, rfl⟩
    · have hplain : AddressKind.hex ≠ .hexChecksum := by decide
      rw [if_neg hmixed, if_neg hplain]
      by_cases hdata : data.length = dataSize
      · rw [if_pos hdata]
        exact Or.inr ⟨_, rfl, rfl, body, rfl, hspaced, hdata, hmixed⟩
      · rw [if_neg hdata]
        exact Or.inl ⟨_, rfl⟩

end marked

/-! ## What reading can come to -/

theorem parseBase58_cases (s : String) :
    (∃ message, parseBase58 s = .error (.badAddress message s)) ∨
      ∃ data, data.length = dataSize ∧ Base58.checkEncode data version = s ∧
        parseBase58 s = .ok { kind := .base58, data, encoded := s } := by
  rcases Base58.checkDecode_cases s with ⟨message, hrefused⟩ | ⟨body, hbody, hraw, hread⟩
  · refine Or.inl ⟨message, ?_⟩
    rw [parseBase58, hrefused]
    rfl
  · have hparse : parseBase58 s =
        if body.take 1 ≠ version ∨ (body.drop 1).length ≠ dataSize then
          .error (.badAddress "Invalid Base58 address payload" s)
        else .ok { kind := .base58, data := body.drop 1, encoded := s } := by
      rw [parseBase58, hread]
      rfl
    rw [hparse]
    by_cases hfits : body.take 1 ≠ version ∨ (body.drop 1).length ≠ dataSize
    · exact Or.inl ⟨_, if_pos hfits⟩
    · obtain ⟨hversion, hdata⟩ : body.take 1 = version ∧ (body.drop 1).length = dataSize := by
        simpa using hfits
      have hparts : version ++ body.drop 1 = body := by
        rw [← hversion, List.take_append_drop]
      refine Or.inr ⟨body.drop 1, hdata, ?_, if_neg hfits⟩
      rw [← Base58.decode_eq_ok_iff.1 hraw, Base58.checkEncode, hparts]

theorem parse_cases (s : String) :
    (∃ message, parse s = .error (.badAddress message s)) ∨
      ∃ a, parse s = .ok a ∧ a.encoded = s ∧ a.Accepted := by
  cases hbody : body? s.toList with
  | some body =>
    have hs : s = String.ofList ('0' :: 'x' :: body) := by
      rw [← body?_eq_some_iff.1 hbody, String.ofList_toList]
    rw [hs]
    exact parse_marked_cases body
  | none =>
    rw [parse, detect, hbody]
    by_cases hdigits : (!s.isEmpty && s.toList.all (Base58.value? · |>.isSome)) = true
    · simp only [hdigits, if_true]
      rcases parseBase58_cases s with hrefused | ⟨data, hdata, hs, hread⟩
      · exact Or.inl hrefused
      · exact Or.inr ⟨_, hread, rfl, hdata, hs.symm⟩
    · simp only [hdigits]
      exact Or.inl ⟨_, rfl⟩

/-- A text is read as an address exactly if the address has this text and is one that the text
stands for. -/
theorem parse_eq_ok_iff {s : String} {a : Address} :
    parse s = .ok a ↔ a.encoded = s ∧ a.Accepted := by
  constructor
  · intro h
    rcases parse_cases s with ⟨message, hrefused⟩ | ⟨b, hread, hb⟩
    · rw [h] at hrefused
      cases hrefused
    · rw [h, Except.ok.injEq] at hread
      exact hread ▸ hb
  · rintro ⟨rfl, ha⟩
    obtain ⟨kind, data, encoded⟩ := a
    cases kind with
    | base58 => exact parse_of_base58 ha.1 ha.2.symm
    | hexChecksum =>
      obtain ⟨body, rfl, hspaced, hlength, hboth, hcase⟩ := ha
      rw [parse_of_spaced hspaced, if_pos ⟨hlength, hboth⟩, parseHex_of_spaced hspaced, if_pos rfl,
        if_pos hcase]
    | hex =>
      obtain ⟨body, rfl, hspaced, hdata, hone⟩ := ha
      have hplain : AddressKind.hex ≠ .hexChecksum := by decide
      rw [parse_of_spaced hspaced, if_neg hone, parseHex_of_spaced hspaced, if_neg hplain,
        if_pos hdata]

/-! ## Written forms -/

section written

variable {a : Address}

theorem hasBlank_ofList {cs : List Char} :
    HasBlank (String.ofList cs) ↔ ∃ c ∈ cs, Hex.isBlank c = true := by
  rw [HasBlank, String.toList_ofList]

theorem not_hasBlank_marked {body : List Char} {data : Bytes}
    (h : body.map Hex.value? = (Hex.digits data).map Hex.value?) :
    ¬ HasBlank (String.ofList ('0' :: 'x' :: body)) := by
  rw [hasBlank_ofList]
  rintro ⟨c, hc, hblank⟩
  rcases List.mem_cons.1 hc with rfl | hc
  · cases hblank
  rcases List.mem_cons.1 hc with rfl | hc
  · cases hblank
  have hvalue : Hex.value? c ∈ (Hex.digits data).map Hex.value? := h ▸ List.mem_map_of_mem hc
  obtain ⟨d, hd, hdc⟩ := List.mem_map.1 hvalue
  obtain ⟨n, hn, rfl⟩ := Hex.exists_digit_of_mem hd
  rw [Hex.value?_digit hn] at hdc
  rw [Hex.isBlank_of_value? hdc.symm] at hblank
  cases hblank

theorem not_hasBlank_of_isCanonical (h : a.IsCanonical) : ¬ HasBlank a.encoded := by
  obtain ⟨kind, data, encoded⟩ := a
  cases kind with
  | base58 =>
    have hs : encoded = Base58.checkEncode data version := h.2
    subst hs
    rintro ⟨c, hc, hblank⟩
    have hdigit := Base58.mem_alphabet_of_decode (Base58.decode_eq_ok_iff.2 rfl) c hc
    have hall : Base58.alphabet.all (fun c => !Hex.isBlank c) = true := by decide
    simpa [hblank] using List.all_eq_true.1 hall c hdigit
  | hexChecksum =>
    have hs : encoded = String.ofList ('0' :: 'x' :: checksumCase (Hex.digits data)) := h.2
    subst hs
    exact not_hasBlank_marked (map_value?_checksumCase data)
  | hex =>
    have hs : encoded = String.ofList ('0' :: 'x' :: Hex.digits data) ∨
        encoded = String.ofList ('0' :: 'x' :: (Hex.digits data).map Char.toUpper) := h.2
    rcases hs with rfl | rfl
    · exact @not_hasBlank_marked _ data rfl
    · refine @not_hasBlank_marked _ data ?_
      rw [List.map_map]
      refine List.map_congr_left fun c hc => ?_
      obtain ⟨n, hn, rfl⟩ := Hex.exists_digit_of_mem hc
      rw [Function.comp_apply, Hex.value?_toUpper_digit hn, Hex.value?_digit hn]

/-- Digits of one case are those that are written, or all of them in upper case. -/
theorem digits_or_upper {body : List Char} {data : Bytes} (hone : ¬ hasBothCases body = true)
    (h : body.map Hex.value? = (Hex.digits data).map Hex.value?) :
    body = Hex.digits data ∨ body = (Hex.digits data).map Char.toUpper := by
  rw [hasBothCases, Bool.and_eq_true, not_and_or] at hone
  rcases hone with hupper | hlower
  · left
    have hsame : body.map Char.toLower = body := by
      refine (List.map_congr_left fun c hc => ?_).trans (List.map_id _)
      have hc : ¬ c.isUpper = true := fun hc' => hupper (List.any_eq_true.2 ⟨c, hc, hc'⟩)
      exact Text.toLower_of_not_isUpper hc
    rw [← hsame, Hex.map_toLower_of_values h]
  · right
    have hsame : body.map Char.toUpper = body := by
      refine (List.map_congr_left fun c hc => ?_).trans (List.map_id _)
      have hc : ¬ c.isLower = true := fun hc' => hlower (List.any_eq_true.2 ⟨c, hc, hc'⟩)
      exact Text.toUpper_of_not_isLower hc
    rw [← hsame, Hex.map_toUpper_of_values h]

theorem isCanonical_of_not_hasBlank (ha : a.Accepted) (h : ¬ HasBlank a.encoded) :
    a.IsCanonical := by
  have hbody {body : List Char} (hs : a.encoded = String.ofList ('0' :: 'x' :: body)) :
      ∀ c ∈ body, Hex.isBlank c = false := by
    intro c hc
    by_contra hblank
    rw [hs, hasBlank_ofList] at h
    exact h ⟨c, by simp [hc], by simpa using hblank⟩
  obtain ⟨kind, data, encoded⟩ := a
  cases kind with
  | base58 => exact ha
  | hexChecksum =>
    obtain ⟨body, hs, hspaced, hlength, hboth, hcase⟩ := ha
    have hvalues := Hex.map_value?_of_not_blank hspaced (hbody hs)
    -- Characters were counted and not bytes, but without blanks each byte has two of them.
    rw [Hex.map_toLower_of_values hvalues] at hcase
    have hsize := congrArg List.length hvalues
    rw [List.length_map, List.length_map, Hex.length_digits, hlength] at hsize
    have hdata : data.length = dataSize := (Nat.eq_of_mul_eq_mul_left (by omega) hsize).symm
    exact ⟨hdata, hs.trans (by rw [hcase])⟩
  | hex =>
    obtain ⟨body, hs, hspaced, hdata, hone⟩ := ha
    have hvalues := Hex.map_value?_of_not_blank hspaced (hbody hs)
    have hsize := congrArg List.length hvalues
    rw [List.length_map, List.length_map, Hex.length_digits] at hsize
    have hlength : body.length = 2 * dataSize := hsize.trans (by rw [hdata])
    refine ⟨hdata, ?_⟩
    rcases digits_or_upper (fun hboth => hone ⟨hlength, hboth⟩) hvalues with rfl | rfl
    · exact Or.inl hs
    · exact Or.inr hs

end written

/-- **Addresses are read in their written form, but for blanks.**  A text is read as an address
exactly if it is Base58 with a checksum of 20 bytes; or marked, with pairs of digits and any
blanks between the pairs, and either 40 characters after the mark in both cases as the checksum
has them, or 20 bytes without a checksum.  So what is read without a blank is the written form of
20 bytes in the form that is told, and what has a blank in it never is.  Any other text is
refused as an address, and the refusal names the text. -/
theorem parse_canonical_unless_blank (s : String) :
    (∀ a, parse s = .ok a ↔ a.encoded = s ∧ a.Accepted) ∧
      ((∃ a, parse s = .ok a ∧ a.encoded = s ∧ (a.IsCanonical ↔ ¬ HasBlank s)) ∨
        ∃ f, parse s = .error f ∧ f.kind = .address ∧ f.details = [("address", .text s)]) := by
  refine ⟨fun a => parse_eq_ok_iff, ?_⟩
  rcases parse_cases s with ⟨message, hrefused⟩ | ⟨a, hread, rfl, ha⟩
  · exact Or.inr ⟨_, hrefused, rfl, rfl⟩
  · exact Or.inl ⟨a, hread, rfl, not_hasBlank_of_isCanonical, isCanonical_of_not_hasBlank ha⟩

/-- One byte behind as many blanks as make 40 characters, in the case that the checksum asks
for. -/
def loneByte : List Char :=
  List.replicate 38 ' ' ++ ['c', 'A']

/-- The digits of 20 zero bytes with a blank behind each byte. -/
def spacedZeros : List Char :=
  (List.replicate dataSize ['0', '0', ' ']).flatten

/-- A single byte passes for an address with a checksum, since the characters are counted and the
bytes are not; and 20 bytes are read from a text that is not what they are written as. -/
theorem parse_loneByte :
    (∃ a, parse (String.ofList ('0' :: 'x' :: loneByte)) = .ok a ∧ a.kind = .hexChecksum ∧
      a.data = [0xca] ∧ a.data.length ≠ dataSize) ∧
    ∃ a, parse (String.ofList ('0' :: 'x' :: spacedZeros)) = .ok a ∧ a.kind = .hex ∧
      a.data = List.replicate dataSize 0 ∧ ¬ a.IsCanonical := by
  have hlone : Hex.Spaced loneByte [0xca] := Hex.decode_eq_ok_iff.1 (by decide +kernel)
  have hcase : checksumCase (loneByte.map Char.toLower) = loneByte := by decide +kernel
  have hzeros : Hex.Spaced spacedZeros (List.replicate dataSize 0) :=
    Hex.decode_eq_ok_iff.1 (by decide +kernel)
  constructor
  · refine ⟨⟨.hexChecksum, [0xca], _⟩, parse_eq_ok_iff.2 ⟨rfl, ?_⟩, rfl, rfl, by decide⟩
    exact ⟨loneByte, rfl, hlone, by decide, by decide, hcase⟩
  · refine ⟨⟨.hex, List.replicate dataSize 0, _⟩, parse_eq_ok_iff.2 ⟨rfl, ?_⟩, rfl, rfl, ?_⟩
    · exact ⟨spacedZeros, rfl, hzeros, by decide, by decide⟩
    · intro h
      have hblank : HasBlank (String.ofList ('0' :: 'x' :: spacedZeros)) :=
        hasBlank_ofList.2 ⟨' ', by decide, by decide⟩
      exact not_hasBlank_of_isCanonical h hblank

end Attest.Address
