import Attest.Json.Reader
import Mathlib.Tactic.Common

/-!
# Integers come back from JSON

An integer is read to the end of its digits, so it comes back whatever is written after it, if
that does not go on with the number: a digit, a point or an exponent (`EndsNumber`).  The only
bound is the reader's limit on the number of digits.
-/

namespace Attest.Json

/-- What follows does not go on with a number. -/
def EndsNumber (rest : List Char) : Prop :=
  ∀ c ∈ rest.head?, c.isDigit = false ∧ c ≠ '.' ∧ c ≠ 'e' ∧ c ≠ 'E'

/-! ## Decimal digits -/

theorem ofChars_toDigits (n : Nat) : Numeral.ofChars (Nat.toDigits 10 n) = n := by
  have hfold : Nat.ofDigitChars 10 (Nat.toDigits 10 n) 0 = Numeral.ofChars (Nat.toDigits 10 n) :=
    Nat.ofDigitChars_eq_foldl
  rw [← hfold, Nat.ofDigitChars_ten_toDigits]

/-- The sign of an integer as it is written. -/
def sign (n : Int) : List Char :=
  if n < 0 then ['-'] else []

theorem toList_toString (n : Int) :
    (toString n).toList = sign n ++ Nat.toDigits 10 n.natAbs := by
  cases n with
  | ofNat n =>
    have hpos : ¬ Int.ofNat n < 0 := Int.not_lt.2 (Int.natCast_nonneg n)
    rw [sign, if_neg hpos, Int.toString_eq_repr]
    exact Nat.toList_repr
  | negSucc n =>
    rw [sign, if_pos (Int.negSucc_lt_zero n), Int.toString_eq_repr]
    show ("-" ++ (n + 1).repr).toList = _
    rw [String.toList_append, Nat.toList_repr, String.toList_ofList, Int.natAbs_negSucc]

/-- The digits of a positive number begin with one that is not zero. -/
theorem exists_toDigits_cons {n : Nat} (h : 0 < n) :
    ∃ c cs, Nat.toDigits 10 n = c :: cs ∧ c ≠ '0' := by
  induction n using Nat.strongRecOn with
  | ind n ih =>
    by_cases hn : n < 10
    · have hchar : ∀ d < 10, 0 < d → Nat.digitChar d ≠ '0' := by decide
      exact ⟨_, [], Nat.toDigits_of_lt_base hn, hchar n hn h⟩
    · obtain ⟨c, cs, hdigits, hc⟩ := ih (n / 10) (by omega) (by omega)
      refine ⟨c, cs ++ [(n % 10).digitChar], ?_, hc⟩
      rw [Nat.toDigits_of_base_le (by omega) (by omega), hdigits, List.cons_append]

theorem isDigit_of_mem_toDigits {n : Nat} {c : Char} (h : c ∈ Nat.toDigits 10 n) :
    c.isDigit = true :=
  Nat.isDigit_of_mem_toDigits (by omega) (by omega) h

/-! ## Parts of a number -/

section parts

variable {rest : List Char}

theorem takeWhile_digits {ds : List Char} (hds : ∀ c ∈ ds, c.isDigit = true)
    (hrest : EndsNumber rest) :
    (ds ++ rest).takeWhile Char.isDigit = ds ∧ (ds ++ rest).dropWhile Char.isDigit = rest := by
  have hhead : rest.takeWhile Char.isDigit = [] ∧ rest.dropWhile Char.isDigit = rest := by
    cases rest with
    | nil => exact ⟨rfl, rfl⟩
    | cons c rest =>
      have hc := (hrest c rfl).1
      rw [List.takeWhile_cons_of_neg (by rw [hc]; exact Bool.false_ne_true),
        List.dropWhile_cons_of_neg (by rw [hc]; exact Bool.false_ne_true)]
      exact ⟨rfl, rfl⟩
  rw [List.takeWhile_append_of_pos hds, List.dropWhile_append_of_pos hds, hhead.1, hhead.2,
    List.append_nil]
  exact ⟨rfl, rfl⟩

theorem wholeDigits_toDigits (n : Nat) (hrest : EndsNumber rest) :
    wholeDigits (Nat.toDigits 10 n ++ rest) = some (Nat.toDigits 10 n, rest) := by
  rcases Nat.eq_zero_or_pos n with rfl | hn
  · rfl
  · obtain ⟨c, cs, hdigits, hc⟩ := exists_toDigits_cons hn
    have hall : ∀ d ∈ c :: cs, d.isDigit = true :=
      fun d hd => isDigit_of_mem_toDigits (hdigits ▸ hd)
    obtain ⟨hdigit, hcs⟩ := List.forall_mem_cons.1 hall
    obtain ⟨htake, hdrop⟩ := takeWhile_digits hcs hrest
    rw [hdigits, List.cons_append, wholeDigits, if_neg hc, if_pos hdigit, htake, hdrop]

theorem fractionDigits_of_ends (hrest : EndsNumber rest) : fractionDigits rest = ([], rest) := by
  unfold fractionDigits
  split
  · exact absurd rfl (hrest '.' rfl).2.1
  · rfl

theorem exponentPart_of_ends (hrest : EndsNumber rest) : exponentPart rest = (none, rest) := by
  cases rest with
  | nil => rfl
  | cons c rest =>
    obtain ⟨-, -, he, hE⟩ := hrest c rfl
    simp [exponentPart, he, hE]

end parts

/-! ## Whole numbers -/

section readNumber

variable {k : Nat} {rest : List Char}

theorem readNumber_minus (hrest : EndsNumber rest)
    (hlimit : (Nat.toDigits 10 k).length ≤ Numeral.digitLimit) :
    readNumber ('-' :: (Nat.toDigits 10 k ++ rest)) = .ok (.int (-k), rest) := by
  unfold readNumber
  simp only [wholeDigits_toDigits k hrest, fractionDigits_of_ends hrest,
    exponentPart_of_ends hrest]
  rw [if_pos (by rfl), if_neg (Nat.not_lt.2 hlimit), ofChars_toDigits, if_pos trivial]

theorem readNumber_digits (hrest : EndsNumber rest)
    (hlimit : (Nat.toDigits 10 k).length ≤ Numeral.digitLimit) :
    readNumber (Nat.toDigits 10 k ++ rest) = .ok (.int k, rest) := by
  have hwhole := wholeDigits_toDigits k hrest
  obtain ⟨c, cs, hdigits⟩ := List.exists_cons_of_ne_nil (Nat.toDigits_ne_nil (n := k) (b := 10))
  have hminus : c ≠ '-' := by
    rintro rfl
    have hdigit : '-'.isDigit = true := isDigit_of_mem_toDigits (hdigits ▸ List.mem_cons_self)
    cases hdigit
  unfold readNumber
  split
  next hsplit =>
    split at hsplit
    · next heq =>
      rw [hdigits, List.cons_append, List.cons.injEq] at heq
      exact absurd heq.1 hminus
    · cases hsplit
      simp only [hwhole, fractionDigits_of_ends hrest, exponentPart_of_ends hrest]
      rw [if_pos (by rfl), if_neg (Nat.not_lt.2 hlimit), ofChars_toDigits]
      rfl

end readNumber

theorem readNumber_toString {n : Int} {rest : List Char} (hrest : EndsNumber rest)
    (hlimit : (Nat.toDigits 10 n.natAbs).length ≤ Numeral.digitLimit) :
    readNumber ((toString n).toList ++ rest) = .ok (.int n, rest) := by
  rw [toList_toString, sign]
  split
  · next hneg =>
    have hn : -(n.natAbs : Int) = n := by omega
    rw [List.cons_append, List.nil_append, List.cons_append, readNumber_minus hrest hlimit, hn]
  · next hpos =>
    have hn : (n.natAbs : Int) = n := by omega
    rw [List.nil_append, readNumber_digits hrest hlimit, hn]

end Attest.Json
