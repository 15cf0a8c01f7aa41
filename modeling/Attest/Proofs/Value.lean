import Attest.Failure
import Mathlib.Tactic.Common

/-!
# What can be written

A number is written if it has no more digits than a numeral that is read, so what a numeral of
admissible length spells can be written again (`Numeral.isWritable_iff_length`).  A fault whose
message names a number is pronounced exactly if the number can be written; beyond that the limit
itself is complained about.  A text has bytes exactly if it holds no halves of characters.
-/

namespace Attest

namespace Numeral

theorem isWritable_iff {n : Int} : isWritable n = true ↔ n.natAbs < Nat.pow 10 digitLimit := by
  unfold isWritable
  exact decide_eq_true_iff

theorem isWritable_iff_length {n : Int} :
    isWritable n = true ↔ (Nat.toDigits 10 n.natAbs).length ≤ digitLimit := by
  rw [isWritable_iff, Nat.pow_eq, Nat.length_toDigits_le_iff (by decide) (by decide)]

/-- The least number with more digits than can be written. -/
def unwritable : Int := Nat.pow 10 digitLimit

theorem isWritable_unwritable : isWritable unwritable = false := by
  decide +kernel

end Numeral

namespace Failure

variable {n : Int} {f : Fault}

theorem naming_of_isWritable (h : Numeral.isWritable n = true) : naming (.int n) f = .fault f :=
  if_pos h

theorem naming_of_not_isWritable (h : Numeral.isWritable n = false) :
    naming (.int n) f = .badValue Numeral.unwritableText :=
  if_neg (Bool.not_eq_true _ ▸ h)

/-- What fails with a fault that names a number fails at the limit for writing where the number is
beyond it. -/
theorem error_naming {α : Type} (n : Int) (f : Fault) :
    (.error (naming (.int n) f) : Except Failure α) =
      if Numeral.isWritable n then .error (.fault f)
      else .error (.badValue Numeral.unwritableText) :=
  apply_ite Except.error _ _ _

theorem exists_withoutBytes_eq (start : Nat) (halves : List Nat) :
    ∃ message, withoutBytes start halves = .unwritable message := by
  unfold withoutBytes
  split <;> exact ⟨_, rfl⟩

end Failure

namespace Bytes

variable {s : String}

theorem encode_of_not_hasHalf (h : Text.hasHalf s = false) : encode s = .ok (ofText s) :=
  if_neg (by rw [h]; exact Bool.false_ne_true)

theorem exists_encode_eq_error (h : Text.hasHalf s = true) :
    ∃ message, encode s = .error (.unwritable message) := by
  rw [encode, if_pos h]
  exact (Failure.exists_withoutBytes_eq _ _).imp fun _ hmessage => congrArg Except.error hmessage

theorem encode_eq_ok_iff {bs : Bytes} :
    encode s = .ok bs ↔ Text.hasHalf s = false ∧ bs = ofText s := by
  cases h : Text.hasHalf s with
  | false => simp [encode_of_not_hasHalf h, eq_comm]
  | true =>
    obtain ⟨message, hrefused⟩ := exists_encode_eq_error h
    simp [hrefused]

end Bytes

end Attest
