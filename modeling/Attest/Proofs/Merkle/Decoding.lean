import Attest.Proofs.Json.Stops
import Attest.Proofs.Merkle.Description

/-!
# What is read as a proof

Text is read as the proof that its JSON describes.  Reading JSON adds the ways in which reading the
text can end; two of these are no refusals of the library, and both can be seen in the text: more
digits in a row, or more opening brackets, than the reader takes.
-/

namespace Attest.Merkle

namespace Proof

section ofJson

variable {s : String}

theorem ofJson_of_parse {v : Value} (h : Json.parse s = .ok v) :
    (∃ p, ofJson s = .ok p ∧ ofValue v = .ok p) ∨
      ∃ message details, ofJson s = .error (.fault (.unreadable message details)) := by
  unfold ofJson
  rw [h]
  cases v with
  | object fields =>
    cases hread : ofValue (.object fields) with
    | ok p => exact Or.inl ⟨p, by simp only [hread]; rfl, rfl⟩
    | error f =>
      obtain ⟨message, details, rfl⟩ := exists_unreadable_of_ofValue hread
      exact Or.inr ⟨message, details, by simp only [hread]; rfl⟩
  | null | bool | int | float | text | list => exact Or.inr ⟨_, _, rfl⟩

theorem ofJson_of_refusal {r : Json.Refusal} (h : Json.parse s = .error r) :
    (∃ message details, ofJson s = .error (.fault (.unreadable message details))) ∨
      (∃ digits, r = .tooLong digits ∧
        ofJson s = .error (.badValue (Numeral.tooLongText digits))) ∨
      ∃ container, r = .tooDeep container ∧
        ofJson s = .error (.tooDeep (Json.Refusal.tooDeep container).message) := by
  unfold ofJson
  rw [h]
  cases r with
  | malformed words index line column => exact Or.inl ⟨_, _, rfl⟩
  | tooLong digits => exact Or.inr (Or.inl ⟨digits, rfl, rfl⟩)
  | tooDeep container => exact Or.inr (Or.inr ⟨container, rfl, rfl⟩)

/-- Text is read as what its JSON is read as. -/
theorem ofJson_eq_ok_iff {p : Proof} :
    ofJson s = .ok p ↔ ∃ v, Json.parse s = .ok v ∧ ofValue v = .ok p := by
  cases hparse : Json.parse s with
  | error r =>
    constructor
    · intro h
      rcases ofJson_of_refusal hparse with ⟨_, _, hjson⟩ | ⟨_, _, hjson⟩ | ⟨_, _, hjson⟩
      all_goals
        rw [h] at hjson
        cases hjson
    · rintro ⟨v, hv, -⟩
      cases hv
  | ok v =>
    constructor
    · intro h
      rcases ofJson_of_parse hparse with ⟨q, hjson, hread⟩ | ⟨_, _, hjson⟩
      · rw [h, Except.ok.injEq] at hjson
        exact ⟨v, rfl, hjson ▸ hread⟩
      · rw [h] at hjson
        cases hjson
    · rintro ⟨v', hv, hread⟩
      cases hv
      obtain ⟨w, ⟨fields, rfl, -⟩, -⟩ := ofValue_eq_ok_iff.1 hread
      rw [ofJson, hparse]
      simp only [hread]
      rfl

end ofJson

/-- **What decoding comes to.**  Data is read as a proof exactly if it describes one, so hashes,
sides and their order are the given ones, and text exactly if its JSON is such data.  Any other
data is refused as unreadable, and any other text is too, unless the reader stops at a numeral of
more than 4300 digits, which stand in a row in the text, or at a container within too many others,
so that more than 990 are opened in the text: these two failures are let through. -/
theorem decodes_or_refuses (v : Value) (s : String) :
    ((∀ p, ofValue v = .ok p ↔ ∃ w, Describes v w ∧ w.toProof = p) ∧
      ((∃ p, ofValue v = .ok p) ∨
        ∃ message details, ofValue v = .error (.unreadable message details))) ∧
    (∀ p, ofJson s = .ok p ↔ ∃ v, Json.parse s = .ok v ∧ ofValue v = .ok p) ∧
      ((∃ p, ofJson s = .ok p) ∨
        (∃ message details, ofJson s = .error (.fault (.unreadable message details))) ∨
        (∃ digits, ofJson s = .error (.badValue (Numeral.tooLongText digits)) ∧
          Json.parse s = .error (.tooLong digits) ∧ 4300 < digits ∧
          Json.HasDigits digits s.toList) ∨
        ∃ container, ofJson s = .error (.tooDeep (Json.Refusal.tooDeep container).message) ∧
          Json.parse s = .error (.tooDeep container) ∧
          990 < s.toList.countP Json.isOpening) := by
  refine ⟨⟨fun p => ofValue_eq_ok_iff, ?_⟩, fun p => ofJson_eq_ok_iff, ?_⟩
  · cases hread : ofValue v with
    | ok p => exact Or.inl ⟨p, rfl⟩
    | error f =>
      obtain ⟨message, details, rfl⟩ := exists_unreadable_of_ofValue hread
      exact Or.inr ⟨message, details, rfl⟩
  · cases hparse : Json.parse s with
    | ok v =>
      rcases ofJson_of_parse hparse with ⟨p, hjson, -⟩ | hrefused
      · exact Or.inl ⟨p, hjson⟩
      · exact Or.inr (Or.inl hrefused)
    | error r =>
      rcases ofJson_of_refusal hparse with hrefused | ⟨digits, rfl, hjson⟩ | ⟨container, rfl, hjson⟩
      · exact Or.inr (Or.inl hrefused)
      · exact Or.inr (Or.inr (Or.inl ⟨digits, hjson, rfl, Json.hasDigits_of_parse hparse⟩))
      · have hdeep := Json.depthLimit_lt_of_parse hparse
        exact Or.inr (Or.inr (Or.inr ⟨container, hjson, rfl, hdeep⟩))

/-- An integer of one digit more than the reader takes is no fault of the library's. -/
theorem ofJson_longNumeral :
    ∃ message, ofJson (String.ofList (List.replicate 4301 '1')) = .error (.badValue message) := by
  have hdigits : ∀ d ∈ List.replicate 4300 '1', d.isDigit = true := by
    intro d hd
    rw [List.eq_of_mem_replicate hd]
    rfl
  have hlong : Numeral.digitLimit < ('1' :: List.replicate 4300 '1').length := by
    rw [List.length_cons, List.length_replicate]
    decide
  have hparse : Json.parse (String.ofList (List.replicate 4301 '1')) = .error (.tooLong _) :=
    Json.parse_numeral (by decide) (by decide) hdigits hlong
  rcases ofJson_of_refusal hparse with ⟨_, _, hjson⟩ | ⟨_, heq, hjson⟩ | ⟨_, heq, _⟩
  · rw [ofJson, hparse] at hjson
    cases hjson
  · exact ⟨_, hjson⟩
  · cases heq

end Proof

end Attest.Merkle
