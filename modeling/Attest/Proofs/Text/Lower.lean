import Attest.Proofs.Case
import Attest.Text.Lower

/-!
# Lower case in ASCII

In ASCII lower-casing is `Char.toLower`, one character at a time.  From outside it hardly reaches
ASCII: the letters before `i` are the lower case of nothing but themselves and their capitals
(`toNat_of_mem_lowered`).  So a text that becomes hexadecimal digits when it is put in lower case is
ASCII already (`toLower_of_lower`).
-/

namespace Attest.Text

/-! ## Characters -/

theorem lowered_eq_toLower {c : Char} (h : c.toNat < 128) : lowered c = [c.toLower] := by
  have hall : ∀ n < 128, (if (Char.ofNat n).isUpper then [Char.ofNat (0x61 + (n - 0x41))]
      else [Char.ofNat n]) = [(Char.ofNat n).toLower] := by decide +kernel
  have hc := hall c.toNat h
  rwa [Char.ofNat_toNat, ← lowered_of_lt h] at hc

theorem lowered_ne_nil (c : Char) : lowered c ≠ [] := by
  unfold lowered
  dsimp only
  split
  · simp
  · split <;> simp

/-- Outside of ASCII the first that becomes a character of ASCII is the dotted capital letter. -/
theorem toNat_of_mem_lowered {c d : Char} (h : 128 ≤ c.toNat) (hd : d ∈ lowered c) :
    d.toNat = 0 ∨ 105 ≤ d.toNat := by
  have hruns : ∀ run ∈ loweredRuns.toList, run.2.1 < 128 ∨ 105 ≤ run.2.2.2 := by decide +kernel
  unfold lowered at hd
  dsimp only at hd
  split at hd
  · rw [List.mem_cons, List.mem_singleton] at hd
    rcases hd with rfl | rfl
    · exact Or.inr (by decide)
    · exact Or.inr (by decide)
  · split at hd
    · next first last step image hfind =>
      have hmem := Array.mem_of_find?_eq_some hfind
      have hon := Array.find?_some hfind
      simp only [isOnRun, Bool.and_eq_true, decide_eq_true_eq] at hon
      have himage : 105 ≤ image := by
        rcases hruns _ (Array.mem_toList_iff.2 hmem) with hlast | himage
        · have hlast : last < 128 := hlast
          omega
        · exact himage
      rw [List.mem_singleton.1 hd]
      by_cases hvalid : (image + (c.toNat - first)).isValidChar
      · rw [Char.ofNat, dif_pos hvalid]
        exact Or.inr (Nat.le_trans himage (Nat.le_add_right image _))
      · rw [Char.ofNat, dif_neg hvalid]
        exact Or.inl rfl
    · rw [List.mem_singleton.1 hd]
      omega

/-! ## Texts -/

section texts

variable {before cs ds : List Char}

theorem lowerFrom_of_lt (h : ∀ c ∈ cs, c.toNat < 128) :
    lowerFrom before cs = cs.map Char.toLower := by
  induction cs generalizing before with
  | nil => rfl
  | cons c cs ih =>
    obtain ⟨hc, hrest⟩ := List.forall_mem_cons.1 h
    have hsigma : c ≠ 'Σ' := by
      rintro rfl
      exact absurd hc (by decide)
    rw [lowerFrom, ih hrest]
    simp only [hsigma, decide_false, Bool.false_and, Bool.false_eq_true, if_false,
      lowered_eq_toLower hc]
    rfl

theorem lt_of_lowerFrom (h : ∀ d ∈ lowerFrom before cs, 0 < d.toNat ∧ d.toNat < 105) :
    ∀ c ∈ cs, c.toNat < 128 := by
  induction cs generalizing before with
  | nil => exact List.forall_mem_nil _
  | cons c cs ih =>
    rw [lowerFrom, List.forall_mem_append] at h
    refine List.forall_mem_cons.2 ⟨?_, ih h.2⟩
    by_contra hfar
    obtain ⟨hsmall, -⟩ := h
    split at hsmall
    · exact absurd (hsmall 'ς' (List.mem_singleton.2 rfl)) (by decide)
    · obtain ⟨d, hd⟩ := List.exists_mem_of_ne_nil _ (lowered_ne_nil c)
      have hnear := hsmall d hd
      have hd := toNat_of_mem_lowered (by omega) hd
      omega

theorem lower_ofList (h : ∀ c ∈ cs, c.toNat < 128) :
    lower (String.ofList cs) = String.ofList (cs.map Char.toLower) := by
  rw [lower, String.toList_ofList, lowerFrom_of_lt h]

theorem toLower_of_lower (hds : ∀ d ∈ ds, 0 < d.toNat ∧ d.toNat < 105)
    (h : lower (String.ofList cs) = String.ofList ds) : cs.map Char.toLower = ds := by
  rw [lower, String.toList_ofList, String.ofList_inj] at h
  rw [← lowerFrom_of_lt (lt_of_lowerFrom (h ▸ hds)), h]

end texts

end Attest.Text
