import Attest.Json.Reader
import Attest.Json.Writer
import Attest.Proofs.Hex

/-!
# Texts come back from JSON

A written text is read character by character: what `escape` writes for a character, whether
it is the character itself, a letter, one unit of 16 bits or two, is read as that character
(`readText_escape`).  Only a character that stands for a half of one does not come back by
itself, since a half waits for the other one; texts without halves are read as they were.
-/

namespace Attest.Json

/-! ## Units of 16 bits -/

theorem fourDigits?_unit {v : Nat} (h : v < 0x10000) :
    fourDigits? (Hex.digit (v / 4096 % 16)) (Hex.digit (v / 256 % 16)) (Hex.digit (v / 16 % 16))
      (Hex.digit (v % 16)) = some v := by
  rw [fourDigits?, Hex.value?_digit (by omega), Hex.value?_digit (by omega),
    Hex.value?_digit (by omega), Hex.value?_digit (by omega)]
  show some (4096 * (v / 4096 % 16) + 256 * (v / 256 % 16) + 16 * (v / 16 % 16) + v % 16) = _
  congr 1
  omega

theorem unitEscape_eq (v : Nat) :
    unitEscape v = ['\x5c', 'u', Hex.digit (v / 4096 % 16), Hex.digit (v / 256 % 16),
      Hex.digit (v / 16 % 16), Hex.digit (v % 16)] := by
  simp [unitEscape, Quoted.hexDigits, Quoted.backslash, List.range_succ]

/-! ## Steps of reading -/

section readText

variable {opening : List Char} {high : Option Nat} {acc rest : List Char}

theorem readText_quote :
    readText opening high acc ('\x22' :: rest) =
      .ok (String.ofList (flush high acc).reverse, rest) := by
  rw [readText]

theorem readText_plain {c : Char} (hquote : c ≠ '\x22') (hback : c ≠ '\x5c')
    (hprint : 32 ≤ c.toNat) :
    readText opening high acc (c :: rest) = readText opening none (c :: flush high acc) rest := by
  have hcontrol : ¬ c.toNat < 32 := by omega
  rw [readText, if_neg hcontrol]
  all_goals simp_all

theorem readText_letter {c x : Char} (hu : c ≠ 'u') (hx : escaped? c = some x) :
    readText opening high acc ('\x5c' :: c :: rest) =
      readText opening none (x :: flush high acc) rest := by
  rw [readText, if_neg hu, hx]
  all_goals simp_all

theorem readText_unit {v : Nat} (hv : v < 0x10000) (hrest : rest ≠ []) :
    readText opening high acc (unitEscape v ++ rest) =
      readText opening (addUnit high acc v).1 (addUnit high acc v).2 rest := by
  obtain ⟨e, rest, rfl⟩ := List.exists_cons_of_ne_nil hrest
  rw [unitEscape_eq]
  simp only [List.cons_append, List.nil_append]
  rw [readText, fourDigits?_unit hv]

/-! ## Characters -/

theorem toNat_cases (c : Char) :
    c.toNat < 0xd800 ∨ (0xe000 ≤ c.toNat ∧ c.toNat < 0x110000) := by
  have hvalid : c.toNat < 0xd800 ∨ (0xdfff < c.toNat ∧ c.toNat < 0x110000) := c.valid
  omega

theorem addUnit_char {c : Char} (acc : List Char) :
    addUnit none acc c.toNat = (none, c :: acc) := by
  have hfirst : Text.isFirstHalf c.toNat = false := by
    have := toNat_cases c
    simp only [Text.isFirstHalf, Bool.and_eq_false_iff, decide_eq_false_iff_not]
    omega
  have hsecond : Text.isSecondHalf c.toNat = false := by
    have := toNat_cases c
    simp only [Text.isSecondHalf, Bool.and_eq_false_iff, decide_eq_false_iff_not]
    omega
  rw [addUnit, hfirst, hsecond, Char.ofNat_toNat]
  rfl

/-- The two units of a character beyond 16 bits, one after the other. -/
theorem readText_pair {c : Char} (h : 0x10000 ≤ c.toNat) (hrest : rest ≠ []) :
    readText opening none acc (unitEscape (0xd800 + (c.toNat - 0x10000) / 0x400) ++
      (unitEscape (0xdc00 + (c.toNat - 0x10000) % 0x400) ++ rest)) =
        readText opening none (c :: acc) rest := by
  obtain ⟨n, hn, hlt⟩ : ∃ n, c.toNat = 0x10000 + n ∧ n < 0x100000 := by
    have := toNat_cases c
    exact ⟨c.toNat - 0x10000, by omega, by omega⟩
  have hfirst : Text.isFirstHalf (0xd800 + n / 0x400) = true := by
    simp only [Text.isFirstHalf, Bool.and_eq_true, decide_eq_true_eq]
    omega
  have hnot : Text.isFirstHalf (0xdc00 + n % 0x400) = false := by
    simp only [Text.isFirstHalf, Bool.and_eq_false_iff, decide_eq_false_iff_not]
    omega
  have hsecond : Text.isSecondHalf (0xdc00 + n % 0x400) = true := by
    simp only [Text.isSecondHalf, Bool.and_eq_true, decide_eq_true_eq]
    omega
  have hchar : Text.ofHalves (0xd800 + n / 0x400) (0xdc00 + n % 0x400) = c := by
    have hnumber : 0x10000 + 0x400 * (0xd800 + n / 0x400 - 0xd800) +
        (0xdc00 + n % 0x400 - 0xdc00) = c.toNat := by omega
    rw [Text.ofHalves, hnumber, Char.ofNat_toNat]
  rw [hn, Nat.add_sub_cancel_left, readText_unit (by omega) (by simp [unitEscape]),
    readText_unit (by omega) hrest]
  simp only [addUnit, hfirst, hnot, hsecond, hchar, flush, if_true, Bool.false_eq_true, if_false,
    Option.map_none, Option.toList_none, List.nil_append]

/-- What is written for a character that is no half is read as that character. -/
theorem readText_escape {c : Char} (h : Text.half? c = none) (hrest : rest ≠ []) :
    readText opening none acc (escape c ++ rest) = readText opening none (c :: acc) rest := by
  unfold escape
  split
  · next hmeaning =>
    rcases hmeaning with rfl | rfl
    · exact readText_letter (by decide) (by decide)
    · exact readText_letter (by decide) (by decide)
  -- The characters that have a letter.
  iterate 5
    split
    · next hc => rw [hc]; exact readText_letter (by decide) (by decide)
  split
  · next hmeaning _ _ _ _ _ hprint =>
    exact readText_plain (fun hc => hmeaning (Or.inl hc)) (fun hc => hmeaning (Or.inr hc))
      (UInt32.le_iff_toNat_le.1 hprint.1)
  · rw [h, Option.getD_none]
    simp only
    split
    · next hunit => rw [readText_unit hunit hrest, addUnit_char]
    · next hpair => rw [List.append_assoc, readText_pair (by omega) hrest]

end readText

/-! ## Texts -/

theorem readText_flatMap (opening : List Char) {cs : List Char}
    (h : ∀ c ∈ cs, Text.half? c = none) (acc rest : List Char) :
    readText opening none acc (cs.flatMap escape ++ '\x22' :: rest) =
      .ok (String.ofList (acc.reverse ++ cs), rest) := by
  induction cs generalizing acc with
  | nil =>
    rw [List.append_nil]
    exact readText_quote
  | cons c cs ih =>
    obtain ⟨hc, hcs⟩ := List.forall_mem_cons.1 h
    have hne : cs.flatMap escape ++ '\x22' :: rest ≠ [] := by simp
    rw [List.flatMap_cons, List.append_assoc, readText_escape hc hne, ih hcs, List.reverse_cons,
      List.append_assoc, List.singleton_append]

/-- What stands between the quotes of a text without halves is read as that text. -/
theorem readText_body (opening : List Char) {s : String} (h : Text.hasHalf s = false)
    (rest : List Char) :
    readText opening none [] (s.toList.flatMap escape ++ '\x22' :: rest) = .ok (s, rest) := by
  have hhalf : ∀ c ∈ s.toList, Text.half? c = none := by
    intro c hc
    simpa using List.any_eq_false.1 h c hc
  rw [readText_flatMap opening hhalf, List.reverse_nil, List.nil_append, String.ofList_toList]

theorem writeText_append (s : String) (rest : List Char) :
    writeText s ++ rest = '\x22' :: (s.toList.flatMap escape ++ '\x22' :: rest) := by
  simp [writeText, Quoted.double]

end Attest.Json
