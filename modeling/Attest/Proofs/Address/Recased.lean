import Attest.Proofs.Address.Accepted
import Attest.Proofs.Digest
import Attest.Proofs.Hex.Lower

/-!
# One case for each address

The checksum is in the case of the letters, so of all the ways to write the same digits in both
cases one is an address (`parse_recasing`).  Which one is told by the hash of the digits in lower
case: a letter is a capital if the digit in its place in the hash is at least eight
(`checksumCase_eq_zipWith`).
-/

namespace Attest.Address

/-- The character is a digit or one of the first six letters, in lower case. -/
def IsLowerDigit (c : Char) : Prop :=
  ('0' ≤ c ∧ c ≤ '9') ∨ ('a' ≤ c ∧ c ≤ 'f')

instance (c : Char) : Decidable (IsLowerDigit c) :=
  inferInstanceAs (Decidable (_ ∨ _))

/-- The characters are the digits `w` in letters of both cases. -/
structure IsRecasing (w b : List Char) : Prop where
  lower_eq : Text.lower (String.ofList b) = String.ofList w
  hasBothCases_eq : hasBothCases b = true

/-- A letter in the case that a digit of the hash gives to it. -/
def raised (c digit : Char) : Char :=
  if '8' ≤ digit then c.toUpper else c

/-! ## Lower case -/

theorem isLowerDigit_iff_ranges {c : Char} :
    IsLowerDigit c ↔ (48 ≤ c.toNat ∧ c.toNat ≤ 57) ∨ (97 ≤ c.toNat ∧ c.toNat ≤ 102) := by
  simp [IsLowerDigit, Char.le_def, UInt32.le_iff_toNat_le, ← Char.toNat_val]

theorem toLower_of_isLowerDigit {c : Char} (h : IsLowerDigit c) : c.toLower = c := by
  refine Text.toLower_of_not_isUpper fun hupper => ?_
  rw [isLowerDigit_iff_ranges] at h
  rw [Text.isUpper_iff] at hupper
  omega

section digits

variable {w : List Char}

theorem exists_data (hlength : w.length = 2 * dataSize) (hw : ∀ c ∈ w, IsLowerDigit c) :
    ∃ data : Bytes, data.length = dataSize ∧ Hex.digits data = w := by
  have hdigits : ∀ c ∈ w, Hex.IsDigit c := fun c hc => (hw c hc).imp_right Or.inl
  obtain ⟨data, hdata⟩ := Hex.spaced_of_isDigit hdigits (by omega)
  have hsize := Hex.length_of_isDigit hdata hdigits
  have hlower : w.map Char.toLower = w :=
    (List.map_congr_left fun c hc => toLower_of_isLowerDigit (hw c hc)).trans (List.map_id _)
  exact ⟨data, by omega, (Hex.digits_of_isDigit hdata hdigits).trans hlower⟩

theorem IsRecasing.map_toLower {b : List Char} (h : IsRecasing w b)
    (hw : ∀ c ∈ w, IsLowerDigit c) : b.map Char.toLower = w := by
  refine Text.toLower_of_lower (fun c hc => ?_) h.lower_eq
  have hranges := isLowerDigit_iff_ranges.1 (hw c hc)
  omega

end digits

/-! ## The case of each letter -/

section mask

variable {mask : Bytes}

theorem getElem?_digits : ∀ (bs : Bytes) (i : Nat), (Hex.digits bs)[i]? =
    bs[i / 2]?.map fun b => Hex.digit (if i % 2 = 0 then b.toNat / 16 else b.toNat % 16)
  | [], i => rfl
  | b :: bs, 0 => rfl
  | b :: bs, 1 => rfl
  | b :: bs, i + 2 => by
    have hdiv : (i + 2) / 2 = i / 2 + 1 := by omega
    rw [Hex.digits_cons, List.getElem?_cons_succ, List.getElem?_cons_succ, getElem?_digits bs i,
      hdiv, List.getElem?_cons_succ, Nat.add_mod_right]

theorem eight_le_digit_iff {n : Nat} (h : n < 16) : '8' ≤ Hex.digit n ↔ 8 ≤ n := by
  have hall : ∀ n < 16, '8' ≤ Hex.digit n ↔ 8 ≤ n := by decide
  exact hall n h

/-- The bit that is looked at is the highest of the half byte. -/
theorem maskBit_eq {i : Nat} {h : Char} (hdigit : (Hex.digits mask)[i]? = some h) :
    maskBit mask i = decide ('8' ≤ h) := by
  have hall : ∀ n < 256, (UInt8.ofNat n &&& 0x80 != 0) = decide (8 ≤ n / 16) ∧
      (UInt8.ofNat n &&& 0x08 != 0) = decide (8 ≤ n % 16) := by decide +kernel
  rw [getElem?_digits, Option.map_eq_some_iff] at hdigit
  obtain ⟨b, hb, rfl⟩ := hdigit
  obtain ⟨hhigh, hlow⟩ := hall b.toNat b.toNat_lt
  rw [UInt8.ofNat_toNat] at hhigh hlow
  have hbyte : b.toNat < 256 := b.toNat_lt
  rw [maskBit, List.getD_eq_getElem?_getD, hb, Option.getD_some]
  split
  · rw [hhigh, decide_eq_decide, eight_le_digit_iff (by omega)]
  · rw [hlow, decide_eq_decide, eight_le_digit_iff (by omega)]

theorem applyMask_eq_zipWith {cs : List Char} (i : Nat)
    (h : i + cs.length ≤ (Hex.digits mask).length) :
    applyMask mask i cs = List.zipWith raised cs ((Hex.digits mask).drop i) := by
  induction cs generalizing i with
  | nil => rfl
  | cons c cs ih =>
    rw [List.length_cons] at h
    have hi : i < (Hex.digits mask).length := by omega
    have hbit := maskBit_eq (List.getElem?_eq_getElem hi)
    rw [applyMask, ih (i + 1) (by omega), List.drop_eq_getElem_cons hi, List.zipWith_cons_cons,
      hbit, raised]
    congr 1
    -- What is no letter has no case.
    by_cases halpha : c.isAlpha = true
    · simp [halpha]
    · have hlower : ¬ c.isLower = true := fun hlower =>
        halpha (Bool.or_eq_true_iff.2 (.inr hlower))
      rw [Text.toUpper_of_not_isLower hlower]
      simp

end mask

theorem checksumCase_eq_zipWith {w : List Char} (h : w.length ≤ 64) :
    checksumCase w =
      List.zipWith raised w (sha256 (Bytes.ofText (String.ofList w))).toHex.toList := by
  have hlength : (Hex.digits (sha256 (Bytes.ofText (String.ofList w))).bytes).length = 64 := by
    rw [Hex.length_digits, Digest.length_bytes]
  rw [checksumCase, applyMask_eq_zipWith 0 (by omega), List.drop_zero, Digest.toList_toHex]

/-! ## Reading what is recased -/

section reading

variable {w b : List Char} {data : Bytes}

theorem lower_checksumCase (data : Bytes) :
    Text.lower (String.ofList (checksumCase (Hex.digits data))) =
      String.ofList (Hex.digits data) := by
  refine Hex.lower_eq_encode_iff_map_toLower.2 ?_
  rw [String.toList_ofList, toLower_checksumCase]

/-- Of the ways to write 20 bytes in letters of both cases the one that the checksum asks for is
read, as these bytes, and any other is refused. -/
theorem parse_recasing (hdata : data.length = dataSize)
    (hb : b.map Char.toLower = Hex.digits data) (hboth : hasBothCases b = true) :
    parse (String.ofList ('0' :: 'x' :: b)) =
      if b = checksumCase (Hex.digits data) then
        .ok { kind := .hexChecksum, data, encoded := String.ofList ('0' :: 'x' :: b) }
      else .error (.badAddress "Invalid address checksum" (String.ofList ('0' :: 'x' :: b))) := by
  have hvalues := Hex.map_value?_of_map_toLower hb
  have hlength : b.length = 2 * dataSize := by
    have hsize := congrArg List.length hb
    rw [List.length_map, Hex.length_digits] at hsize
    omega
  have hspaced := Hex.decode_eq_ok_iff.1 (Hex.decode_of_values hvalues)
  rw [parse_of_spaced hspaced, if_pos ⟨hlength, hboth⟩, parseHex_of_spaced hspaced, if_pos rfl, hb]
  simp only [eq_comm]

end reading

/-- **One case for each address.**  Of the texts that become the same 40 digits in lower case and
have letters of both cases, behind the mark, one is read as an address, namely as that of the 20
bytes of the digits: the one in the case that the checksum gives to the digits.  All others are
refused as addresses, so of two of them one is always refused.  The case that the checksum gives is
found again from the digits in lower case, and in it a letter is a capital exactly if the digit in
its place in the hash of the digits is at least eight. -/
theorem parse_recased {w : List Char} (hlength : w.length = 2 * dataSize)
    (hw : ∀ c ∈ w, IsLowerDigit c) :
    (∃ data : Bytes, data.length = dataSize ∧ Hex.digits data = w ∧ ∀ b, IsRecasing w b →
      parse (String.ofList ('0' :: 'x' :: b)) =
        if b = checksumCase w then
          .ok { kind := .hexChecksum, data, encoded := String.ofList ('0' :: 'x' :: b) }
        else .error (.badAddress "Invalid address checksum" (String.ofList ('0' :: 'x' :: b)))) ∧
    (∀ b b', IsRecasing w b → IsRecasing w b' → b ≠ b' →
      (∃ message, parse (String.ofList ('0' :: 'x' :: b)) =
        .error (.badAddress message (String.ofList ('0' :: 'x' :: b)))) ∨
      ∃ message, parse (String.ofList ('0' :: 'x' :: b')) =
        .error (.badAddress message (String.ofList ('0' :: 'x' :: b')))) ∧
    checksumCase (Text.lower (String.ofList (checksumCase w))).toList = checksumCase w ∧
    checksumCase w =
      List.zipWith raised w (sha256 (Bytes.ofText (String.ofList w))).toHex.toList := by
  obtain ⟨data, hdata, rfl⟩ := exists_data hlength hw
  have hparse (b : List Char) (hb : IsRecasing (Hex.digits data) b) :=
    parse_recasing hdata (hb.map_toLower hw) hb.hasBothCases_eq
  refine ⟨⟨data, hdata, rfl, hparse⟩, fun b b' hb hb' hne => ?_, ?_, ?_⟩
  · by_cases hcase : b = checksumCase (Hex.digits data)
    · have hother : b' ≠ checksumCase (Hex.digits data) := fun hcase' =>
        hne (hcase.trans hcase'.symm)
      exact Or.inr ⟨_, (hparse b' hb').trans (if_neg hother)⟩
    · exact Or.inl ⟨_, (hparse b hb).trans (if_neg hcase)⟩
  · rw [lower_checksumCase, String.toList_ofList]
  · exact checksumCase_eq_zipWith (by rw [hlength]; decide)

theorem isRecasing_of_all {w b : List Char} (hascii : b.all (·.toNat < 128) = true)
    (hlower : b.map Char.toLower = w) (hboth : hasBothCases b = true) : IsRecasing w b := by
  refine ⟨?_, hboth⟩
  rw [Text.lower_ofList fun c hc => by simpa using List.all_eq_true.1 hascii c hc, hlower]

/-- The digits of 20 bytes, all zero but the last, which has two letters. -/
def lastByte : List Char :=
  List.replicate 38 '0' ++ ['a', 'b']

/-- Of the two ways to write the letters in different cases the checksum asks for the first, and the
second is refused. -/
theorem parse_recased_lastByte :
    lastByte.length = 2 * dataSize ∧ (∀ c ∈ lastByte, IsLowerDigit c) ∧
      IsRecasing lastByte (List.replicate 38 '0' ++ ['A', 'b']) ∧
      IsRecasing lastByte (List.replicate 38 '0' ++ ['a', 'B']) ∧
      (∃ a, parse (String.ofList ('0' :: 'x' :: (List.replicate 38 '0' ++ ['A', 'b']))) = .ok a) ∧
      ∃ message, parse (String.ofList ('0' :: 'x' :: (List.replicate 38 '0' ++ ['a', 'B']))) =
        .error (.badAddress message
          (String.ofList ('0' :: 'x' :: (List.replicate 38 '0' ++ ['a', 'B'])))) := by
  have hlength : lastByte.length = 2 * dataSize := by decide
  have hdigits : ∀ c ∈ lastByte, IsLowerDigit c := by
    intro c hc
    obtain rfl | rfl | rfl : c = '0' ∨ c = 'a' ∨ c = 'b' := by simpa [lastByte] using hc
    all_goals decide
  have hcase : checksumCase lastByte = List.replicate 38 '0' ++ ['A', 'b'] := by decide +kernel
  have hfirst : IsRecasing lastByte (List.replicate 38 '0' ++ ['A', 'b']) :=
    isRecasing_of_all (by decide) (by decide) (by decide)
  have hsecond : IsRecasing lastByte (List.replicate 38 '0' ++ ['a', 'B']) :=
    isRecasing_of_all (by decide) (by decide) (by decide)
  obtain ⟨⟨data, -, -, hparse⟩, -, -, -⟩ := parse_recased hlength hdigits
  have hother : List.replicate 38 '0' ++ ['a', 'B'] ≠ checksumCase lastByte := by
    rw [hcase]
    decide
  exact ⟨hlength, hdigits, hfirst, hsecond, ⟨_, (hparse _ hfirst).trans (if_pos hcase.symm)⟩,
    ⟨_, (hparse _ hsecond).trans (if_neg hother)⟩⟩

end Attest.Address
