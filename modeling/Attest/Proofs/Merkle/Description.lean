import Attest.Merkle.Wire
import Attest.Proofs.Schema
import Mathlib.Data.List.Forall2

/-!
# Data that describes a proof

Data is read as a proof if and only if it describes one (`Proof.ofValue_eq_ok_iff`): an object of
the fields of a proof and of no others, each of which passes its own check.  All other data is
refused with one kind of fault.
-/

namespace Attest.Merkle

/-- The field is a text of hexadecimal digits that spell the digest. -/
def SpellsDigest (fields : Fields) (name : String) (d : Digest) : Prop :=
  ∃ s, fields.get? name = some (.text s) ∧ Digest.parse s = .ok d

/-- Data of a step: an object of a hash and the word for a side. -/
def DescribesStep (v : Value) (s : WireStep) : Prop :=
  ∃ fields : Fields, v = .object fields ∧ (∀ name ∈ fields.map (·.1), name ∈ ["hash", "side"]) ∧
    SpellsDigest fields "hash" s.hash ∧ fields.get? "side" = some (.text s.side.name)

/-- Data of a proof: an object of the hashes of leaf and root, an index, and the steps in their
order, or none of them; and of a version, if any, that is a text. -/
def Describes (v : Value) (w : WireProof) : Prop :=
  ∃ fields : Fields, v = .object fields ∧
    (∀ name ∈ fields.map (·.1), name ∈ WireProof.fieldNames) ∧
    ((fields.get? "schema_version" = none ∧ w.version = wireVersion) ∨
      fields.get? "schema_version" = some (.text w.version)) ∧
    SpellsDigest fields "leaf_hash" w.leaf ∧
    (∃ n, fields.get? "leaf_index" = some n ∧ Schema.natural n = .ok w.index) ∧
    ((fields.get? "siblings" = none ∧ w.steps = []) ∨
      ∃ vs, fields.get? "siblings" = some (.list vs) ∧ List.Forall₂ DescribesStep vs w.steps) ∧
    SpellsDigest fields "root" w.root

theorem checkHash_eq_ok_iff {v : Value} {d : Digest} :
    checkHash v = .ok d ↔ ∃ s, v = .text s ∧ Digest.parse s = .ok d := by
  constructor
  · intro h
    unfold checkHash at h
    cases htext : Schema.text v with
    | error is => rw [htext] at h; cases h
    | ok s =>
      refine ⟨s, Schema.text_eq_ok_iff.1 htext, ?_⟩
      rw [htext] at h
      dsimp only [bind, Except.bind] at h
      split at h
      · next hparse =>
        cases h
        exact hparse
      · cases h
  · rintro ⟨s, rfl, hparse⟩
    rw [checkHash, Schema.text_eq_ok_iff.2 rfl]
    simp only [bind, Except.bind, hparse]
    rfl

theorem spellsDigest_iff {fields : Fields} {name : String} {d : Digest} :
    Schema.required fields name checkHash = .ok d ↔ SpellsDigest fields name d := by
  rw [Schema.required_eq_ok_iff]
  constructor
  · rintro ⟨v, hget, hcheck⟩
    obtain ⟨s, rfl, hparse⟩ := checkHash_eq_ok_iff.1 hcheck
    exact ⟨s, hget, hparse⟩
  · rintro ⟨s, hget, hparse⟩
    exact ⟨_, hget, checkHash_eq_ok_iff.2 ⟨s, rfl, hparse⟩⟩

theorem checkSide_eq_ok_iff {v : Value} {s : Side} :
    checkSide v = .ok s ↔ v = .text s.name := by
  constructor
  · intro h
    unfold checkSide Schema.oneOf at h
    split at h
    · next word =>
      unfold Schema.characters at h
      split at h
      · cases h
      · dsimp only [bind, Except.bind] at h
        split at h
        · next hword => cases h; rw [hword]; rfl
        · split at h
          · next hword => cases h; rw [hword]; rfl
          · cases h
    · cases h
  · rintro rfl
    cases s <;> rfl

namespace WireStep

theorem hasHalf_names : ∀ name ∈ ["hash", "side"], Text.hasHalf name = false := by
  decide

/-- Data is read as a step if and only if it describes one. -/
theorem ofValue_eq_ok_iff {v : Value} {s : WireStep} : ofValue v = .ok s ↔ DescribesStep v s := by
  constructor
  · intro h
    unfold ofValue at h
    cases hrecord : Schema.record modelName v with
    | error is => rw [hrecord] at h; cases h
    | ok fields =>
      rw [hrecord] at h
      dsimp only [bind, Except.bind] at h
      split at h
      · next hash side hhash hside hunknown =>
        cases h
        refine ⟨fields, Schema.record_eq_ok hrecord, Schema.unknownFields_eq_nil_iff.1 hunknown,
          spellsDigest_iff.1 hhash, ?_⟩
        obtain ⟨v, hget, hcheck⟩ := Schema.required_eq_ok_iff.1 hside
        rw [hget, checkSide_eq_ok_iff.1 hcheck]
      · cases h
  · rintro ⟨fields, rfl, hnames, hhash, hside⟩
    have hside : Schema.required fields "side" checkSide = .ok s.side :=
      Schema.required_eq_ok_iff.2 ⟨_, hside, checkSide_eq_ok_iff.2 rfl⟩
    rw [ofValue, Schema.record_object fun name hname => hasHalf_names name (hnames name hname)]
    simp only [bind, Except.bind, spellsDigest_iff.2 hhash, hside,
      Schema.unknownFields_eq_nil_iff.2 hnames]
    rfl

end WireStep

namespace WireProof

theorem hasHalf_names : ∀ name ∈ fieldNames, Text.hasHalf name = false := by
  decide

section fields

variable {fields : Fields}

theorem version_iff {version : String} :
    Schema.optional fields "schema_version" wireVersion Schema.text = .ok version ↔
      (fields.get? "schema_version" = none ∧ version = wireVersion) ∨
        fields.get? "schema_version" = some (.text version) := by
  rw [Schema.optional_eq_ok_iff]
  refine or_congr_right ⟨?_, fun hget => ⟨_, hget, Schema.text_eq_ok_iff.2 rfl⟩⟩
  rintro ⟨v, hget, hcheck⟩
  rw [hget, Schema.text_eq_ok_iff.1 hcheck]

theorem steps_iff {steps : List WireStep} :
    Schema.optional fields "siblings" [] (Schema.list WireStep.ofValue) = .ok steps ↔
      (fields.get? "siblings" = none ∧ steps = []) ∨
        ∃ vs, fields.get? "siblings" = some (.list vs) ∧ List.Forall₂ DescribesStep vs steps := by
  rw [Schema.optional_eq_ok_iff]
  refine or_congr_right ⟨?_, ?_⟩
  · rintro ⟨v, hget, hcheck⟩
    obtain ⟨vs, rfl, hvs⟩ := Schema.list_eq_ok_iff.1 hcheck
    exact ⟨vs, hget, hvs.imp fun _ _ => WireStep.ofValue_eq_ok_iff.1⟩
  · rintro ⟨vs, hget, hvs⟩
    have hread := hvs.imp fun _ _ => WireStep.ofValue_eq_ok_iff.2
    exact ⟨_, hget, Schema.list_eq_ok_iff.2 ⟨vs, rfl, hread⟩⟩

end fields

theorem ofValue_eq_ok_iff {v : Value} {w : WireProof} : ofValue v = .ok w ↔ Describes v w := by
  constructor
  · intro h
    unfold ofValue at h
    cases hrecord : Schema.record modelName v with
    | error is => rw [hrecord] at h; cases h
    | ok fields =>
      rw [hrecord] at h
      dsimp only [bind, Except.bind] at h
      split at h
      · next hversion hleaf hindex hsteps hroot hunknown =>
        cases h
        exact ⟨fields, Schema.record_eq_ok hrecord, Schema.unknownFields_eq_nil_iff.1 hunknown,
          version_iff.1 hversion, spellsDigest_iff.1 hleaf, Schema.required_eq_ok_iff.1 hindex,
          steps_iff.1 hsteps, spellsDigest_iff.1 hroot⟩
      · cases h
  · rintro ⟨fields, rfl, hnames, hversion, hleaf, hindex, hsteps, hroot⟩
    rw [ofValue, Schema.record_object fun name hname => hasHalf_names name (hnames name hname)]
    simp only [bind, Except.bind, version_iff.2 hversion, spellsDigest_iff.2 hleaf,
      Schema.required_eq_ok_iff.2 hindex, steps_iff.2 hsteps, spellsDigest_iff.2 hroot,
      Schema.unknownFields_eq_nil_iff.2 hnames]
    rfl

end WireProof

namespace Proof

/-- Data is read as a proof if and only if it describes one. -/
theorem ofValue_eq_ok_iff {v : Value} {p : Proof} :
    ofValue v = .ok p ↔ ∃ w, Describes v w ∧ w.toProof = p := by
  unfold ofValue
  cases hread : WireProof.ofValue v with
  | error issues =>
    constructor
    · intro h
      cases h
    · rintro ⟨w, hw, -⟩
      rw [WireProof.ofValue_eq_ok_iff.2 hw] at hread
      cases hread
  | ok w =>
    have hw := WireProof.ofValue_eq_ok_iff.1 hread
    constructor
    · intro h
      exact ⟨w, hw, Except.ok.inj h⟩
    · rintro ⟨w', hw', rfl⟩
      rw [WireProof.ofValue_eq_ok_iff.2 hw', Except.ok.injEq] at hread
      rw [hread]

theorem exists_unreadable_of_ofValue {v : Value} {f : Fault} (h : ofValue v = .error f) :
    ∃ message details, f = .unreadable message details := by
  unfold ofValue at h
  split at h
  · cases h
  · exact ⟨_, _, (Except.error.inj h).symm⟩

end Proof

end Attest.Merkle
