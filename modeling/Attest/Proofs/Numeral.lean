import Mathlib.Data.List.TakeWhile
import Mathlib.Data.Nat.Digits.Lemmas

/-!
# Numerals with zeros in front

A list of digits, most significant first, is a number of zeros and the number that the
digits spell, and each such pair has one list to a base: the zeros and then the shortest
numeral.  Changing the base of the numeral and keeping the zeros can therefore be undone
(`recode_recode`), whatever the two bases are.
-/

namespace Attest.Numeral

/-- The number that digits spell to a base. -/
def value (b : Nat) (ds : List Nat) : Nat :=
  ds.foldl (fun n d => b * n + d) 0

/-- The shortest numeral of a number. -/
def digits (b n : Nat) : List Nat :=
  (Nat.digits b n).reverse

/-- The number of zeros in front. -/
def zeros (ds : List Nat) : Nat :=
  (ds.takeWhile (· = 0)).length

/-- The digits to base `c` of what is spelled to base `b`, with the same zeros in front. -/
def recode (b c : Nat) (ds : List Nat) : List Nat :=
  List.replicate (zeros ds) 0 ++ digits c (value b ds)

/-! ## Values -/

theorem value_eq_ofDigits (b : Nat) (ds : List Nat) :
    value b ds = Nat.ofDigits b ds.reverse := by
  rw [Nat.ofDigits_eq_foldr, List.foldr_reverse, value]
  congr 1
  funext n d
  rw [Nat.cast_id, Nat.add_comm]

theorem value_digits (b n : Nat) : value b (digits b n) = n := by
  rw [value_eq_ofDigits, digits, List.reverse_reverse, Nat.ofDigits_digits]

theorem value_replicate_append (b z : Nat) (ds : List Nat) :
    value b (List.replicate z 0 ++ ds) = value b ds := by
  rw [value_eq_ofDigits, value_eq_ofDigits, List.reverse_append, List.reverse_replicate,
    Nat.ofDigits_append_replicate_zero]

/-! ## Shortest numerals -/

theorem digits_of_pos {b n : Nat} (hb : 1 < b) (hn : 0 < n) :
    digits b n = digits b (n / b) ++ [n % b] := by
  rw [digits, digits, Nat.digits_def' hb hn, List.reverse_cons]

theorem lt_of_mem_digits {b n d : Nat} (hb : 1 < b) (hd : d ∈ digits b n) : d < b :=
  Nat.digits_lt_base hb (List.mem_reverse.1 hd)

theorem head?_digits_ne_zero (b n : Nat) : (digits b n).head? ≠ some 0 := by
  rw [digits, List.head?_reverse]
  by_cases hn : n = 0
  · simp [hn]
  · have hlast := Nat.getLast_digit_ne_zero b hn
    rw [List.getLast?_eq_some_getLast (Nat.digits_ne_nil_iff_ne_zero.2 hn)]
    simpa using hlast

theorem digits_value {b : Nat} {ds : List Nat} (hb : 1 < b) (hds : ∀ d ∈ ds, d < b)
    (hhead : ds.head? ≠ some 0) : digits b (value b ds) = ds := by
  rw [digits, value_eq_ofDigits, Nat.digits_ofDigits b hb, List.reverse_reverse]
  · intro d hd
    exact hds d (List.mem_reverse.1 hd)
  · intro hne hlast
    apply hhead
    rw [← List.getLast?_reverse, List.getLast?_eq_some_getLast hne, hlast]

/-! ## Zeros -/

theorem zeros_replicate_append {z : Nat} {ds : List Nat} (hhead : ds.head? ≠ some 0) :
    zeros (List.replicate z 0 ++ ds) = z := by
  have hrest : ds.takeWhile (· = 0) = [] := by
    cases ds with
    | nil => rfl
    | cons d ds =>
      rw [List.takeWhile_cons_of_neg]
      simpa using hhead
  rw [zeros, List.takeWhile_append_of_pos (by simp), hrest, List.append_nil,
    List.length_replicate]

theorem exists_replicate_append (ds : List Nat) :
    ∃ rest, ds = List.replicate (zeros ds) 0 ++ rest ∧ rest.head? ≠ some 0 := by
  refine ⟨ds.dropWhile (· = 0), ?_, ?_⟩
  · have hzeros : ds.takeWhile (· = 0) = List.replicate (zeros ds) 0 := by
      apply List.eq_replicate_of_mem
      intro d hd
      simpa using List.mem_takeWhile_imp hd
    rw [← hzeros, List.takeWhile_append_dropWhile]
  · intro h
    have hnot := List.head?_dropWhile_not (fun d => decide (d = 0)) ds
    rw [h] at hnot
    simp at hnot

/-- Digits are their zeros in front and the shortest numeral of what they spell. -/
theorem replicate_append_digits_value {b : Nat} {ds : List Nat} (hb : 1 < b)
    (hds : ∀ d ∈ ds, d < b) :
    List.replicate (zeros ds) 0 ++ digits b (value b ds) = ds := by
  obtain ⟨rest, hsplit, hhead⟩ := exists_replicate_append ds
  have hrest : ∀ d ∈ rest, d < b := by
    intro d hd
    apply hds
    rw [hsplit]
    exact List.mem_append_right _ hd
  calc List.replicate (zeros ds) 0 ++ digits b (value b ds)
      = List.replicate (zeros ds) 0 ++ digits b (value b rest) := by
        conv_lhs => rw [hsplit, value_replicate_append, zeros_replicate_append hhead]
    _ = List.replicate (zeros ds) 0 ++ rest := by rw [digits_value hb hrest hhead]
    _ = ds := hsplit.symm

/-! ## Changing the base -/

theorem zeros_recode (b c : Nat) (ds : List Nat) : zeros (recode b c ds) = zeros ds :=
  zeros_replicate_append (head?_digits_ne_zero c _)

theorem value_recode (b c : Nat) (ds : List Nat) : value c (recode b c ds) = value b ds := by
  rw [recode, value_replicate_append, value_digits]

theorem lt_of_mem_recode {b c d : Nat} {ds : List Nat} (hc : 1 < c) (hd : d ∈ recode b c ds) :
    d < c := by
  rcases List.mem_append.1 hd with hd | hd
  · rw [List.eq_of_mem_replicate hd]
    omega
  · exact lt_of_mem_digits hc hd

theorem recode_recode {b c : Nat} {ds : List Nat} (hb : 1 < b) (hds : ∀ d ∈ ds, d < b) :
    recode c b (recode b c ds) = ds := by
  rw [recode, zeros_recode, value_recode, replicate_append_digits_value hb hds]

end Attest.Numeral
