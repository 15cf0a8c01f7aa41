import Attest.Proofs.Hex.Grammar
import Attest.Proofs.Text.Lower

/-!
# Hexadecimal text in lower case

Nothing outside of ASCII is a hexadecimal digit in lower case, so lower-casing makes digits of
digits only.  A text that is in lower case what bytes are written as is therefore read as these
bytes, and of the texts that are so read it is one with neither mark nor blank: these are told by
their length (`lower_eq_encode_iff`).
-/

namespace Attest.Hex

/-- The case of a letter does not change its value. -/
theorem value?_toLower (c : Char) : value? c.toLower = value? c := by
  by_cases h : c.isUpper = true
  · have hall : ∀ n < 128, value? (Char.ofNat n).toLower = value? (Char.ofNat n) := by
      decide +kernel
    have hupper := (Text.isUpper_iff c).1 h
    have hc := hall c.toNat (by omega)
    rwa [Char.ofNat_toNat] at hc
  · rw [Text.toLower_of_not_isUpper h]

section lower

variable {s : String} {bs : Bytes}

theorem map_value?_of_map_toLower {cs : List Char} (h : cs.map Char.toLower = digits bs) :
    cs.map value? = (digits bs).map value? := by
  rw [← h, List.map_map]
  exact List.map_congr_left fun c _ => (value?_toLower c).symm

/-- For digits the case of ASCII letters is all there is to lower-casing. -/
theorem lower_eq_encode_iff_map_toLower :
    Text.lower s = encode bs ↔ s.toList.map Char.toLower = digits bs := by
  constructor
  · intro h
    rw [← String.ofList_toList (s := s)] at h
    refine Text.toLower_of_lower (fun d hd => ?_) h
    have hranges := isDigit_iff_ranges.1 (isDigit_of_mem_digits hd)
    omega
  · intro h
    have hascii := lt_of_map_value? ((map_value?_of_map_toLower h).trans (map_value?_digits bs))
    rw [← String.ofList_toList (s := s), Text.lower_ofList hascii, h]
    rfl

theorem lower_encode (bs : Bytes) : Text.lower (encode bs) = encode bs := by
  rw [lower_eq_encode_iff_map_toLower, toList_encode, map_toLower_digits]

/-- A text that is so read and has as many characters as there are digits has no room for a mark or
a blank. -/
theorem map_toLower_eq_digits_iff :
    s.toList.map Char.toLower = digits bs ↔ ReadsAs s bs ∧ s.length = 2 * bs.length := by
  rw [← String.length_toList]
  constructor
  · intro h
    have hlength : s.toList.length = 2 * bs.length := by
      rw [← length_digits, ← h, List.length_map]
    have hspaced := decode_eq_ok_iff.1 (decode_of_values (map_value?_of_map_toLower h))
    exact ⟨⟨s.toList, Or.inl rfl, by rw [hlength, Nat.mul_mod_right], hspaced⟩, hlength⟩
  · rintro ⟨⟨cs, hbody, -, hspaced⟩, hlength⟩
    have hcount := length_of_spaced hspaced
    obtain rfl : s.toList = cs := by
      rcases hbody with h | h | h
      · exact h
      all_goals
        rw [h, List.length_cons, List.length_cons] at hlength
        omega
    exact (digits_of_isDigit hspaced (isDigit_of_spaced_of_length hspaced hlength)).symm

theorem lower_eq_encode_iff :
    Text.lower s = encode bs ↔ ReadsAs s bs ∧ s.length = 2 * bs.length :=
  lower_eq_encode_iff_map_toLower.trans map_toLower_eq_digits_iff

end lower

end Attest.Hex
