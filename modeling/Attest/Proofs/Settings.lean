import Attest.Settings
import Mathlib.Tactic.Common

/-!
# Settings from the environment

Overrides are either written over settings one by one, or turned into data from which settings are
read.  Over the usual settings the two come to the same (`ofValue_toValue`): a section of
the data holds exactly the overrides of that section, under names that it knows, and what is not
overridden is not there and so is as usual.
-/

namespace Attest

namespace Environment

/-- A variable spells no number where it should, and this is what is said of it. -/
inductive Misspelt (env : Environment) (name : String) : Failure → Prop where
  | mk {s : String} {r : Numeral.Refusal} (hgiven : env.given? name = some s)
      (hparse : Numeral.parse s = .error r) : Misspelt env name (.badValue (r.message 10 s))

/-- What is said of the first variable that spells no number. -/
inductive FirstMisspelt (env : Environment) : Failure → Prop where
  | difficultyBits {e : Failure} (h : env.Misspelt difficultyBits e) : FirstMisspelt env e
  | maxNonce {e : Failure} (hbits : ∀ e, ¬ env.Misspelt difficultyBits e)
      (h : env.Misspelt maxNonce e) : FirstMisspelt env e

variable {env : Environment} {name : String}

theorem get?_of_given? {s : String} (h : env.given? name = some s) : env.get? name = some s :=
  (Option.filter_eq_some_iff.1 h).1

theorem isSome_of_integer? {r : Option Int} (h : env.integer? name = .ok r) :
    (env.given? name).isSome = r.isSome := by
  unfold integer? at h
  split at h
  · next hgiven =>
    cases h
    rw [hgiven]
    rfl
  · next hgiven =>
    rw [hgiven]
    split at h <;> cases h
    rfl

theorem integer?_eq_error_iff {e : Failure} :
    env.integer? name = .error e ↔ env.Misspelt name e := by
  constructor
  · intro h
    unfold integer? at h
    split at h
    · cases h
    · next s hgiven =>
      split at h
      · cases h
      · next r hparse =>
        cases h
        exact .mk hgiven hparse
  · rintro ⟨hgiven, hparse⟩
    simp only [integer?, hgiven, hparse]

theorem exists_integer?_iff :
    (∃ r, env.integer? name = .ok r) ↔ ∀ e, ¬ env.Misspelt name e := by
  simp only [← integer?_eq_error_iff]
  cases env.integer? name <;> simp

theorem exists_badValue_of_firstMisspelt {e : Failure} (h : env.FirstMisspelt e) :
    ∃ message, e = .badValue message := by
  rcases h with ⟨⟨-, -⟩⟩ | ⟨-, ⟨-, -⟩⟩ <;> exact ⟨_, rfl⟩

end Environment

namespace Settings

/-! ## Overrides -/

theorem Overrides.ofEnvironment_eq_error_iff {env : Environment} {e : Failure} :
    ofEnvironment env = .error e ↔ env.FirstMisspelt e := by
  constructor
  · intro h
    cases hbits : env.integer? Environment.difficultyBits with
    | error e₁ =>
      rw [ofEnvironment, hbits] at h
      cases h
      exact .difficultyBits (Environment.integer?_eq_error_iff.1 hbits)
    | ok bits =>
      cases hnonce : env.integer? Environment.maxNonce with
      | error e₁ =>
        rw [ofEnvironment, hbits, hnonce] at h
        cases h
        exact .maxNonce (Environment.exists_integer?_iff.1 ⟨bits, hbits⟩)
          (Environment.integer?_eq_error_iff.1 hnonce)
      | ok nonce =>
        rw [ofEnvironment, hbits, hnonce] at h
        cases h
  · rintro (h | ⟨hbits, h⟩)
    · rw [ofEnvironment, Environment.integer?_eq_error_iff.2 h]
      rfl
    · obtain ⟨bits, hbits⟩ := Environment.exists_integer?_iff.2 hbits
      rw [ofEnvironment, hbits, Environment.integer?_eq_error_iff.2 h]
      rfl

/-- Overrides are empty exactly if no variable is given. -/
theorem Overrides.isEmpty_eq_false_iff {env : Environment} {o : Overrides}
    (h : ofEnvironment env = .ok o) :
    o.isEmpty = false ↔ ∃ name ∈ Environment.names, (env.given? name).isSome = true := by
  rw [ofEnvironment] at h
  cases hbits : env.integer? Environment.difficultyBits with
  | error e =>
    rw [hbits] at h
    cases h
  | ok bits =>
    cases hnonce : env.integer? Environment.maxNonce with
    | error e =>
      rw [hbits, hnonce] at h
      cases h
    | ok nonce =>
      rw [hbits, hnonce] at h
      cases h
      have hany : (Environment.names.any fun name => (env.given? name).isSome) =
          (bits.isSome || (nonce.isSome || ((env.given? Environment.addressType).isSome ||
            ((env.given? Environment.logLevel).isSome ||
              ((env.given? Environment.logFile).isSome || false))))) := by
        rw [← Environment.isSome_of_integer? hbits, ← Environment.isSome_of_integer? hnonce]
        rfl
      rw [← List.any_eq_true, hany, isEmpty]
      simp only [← Option.not_isSome, Bool.and_eq_false_iff, Bool.not_eq_false', Bool.or_eq_true,
        Bool.or_false, or_assoc]

theorem override_of_isEmpty {s : Settings} {o : Overrides} (h : o.isEmpty = true) :
    s.override o = s := by
  obtain ⟨bits, nonce, address, level, file⟩ := o
  simp only [Overrides.isEmpty, Bool.and_eq_true, Option.isNone_iff_eq_none] at h
  obtain ⟨⟨⟨⟨rfl, rfl⟩, rfl⟩, rfl⟩, rfl⟩ := h
  rfl

/-- Something is overridden, and copying the settings for it takes more calls in one another than
there is room for. -/
structure Overruns (room : Nat) (s : Settings) (env : Environment) : Prop where
  spelt : ∀ e, ¬ env.FirstMisspelt e
  given : ∃ name ∈ Environment.names, (env.given? name).isSome = true
  deep : room < s.calls

section overrides

variable {room : Nat} {s : Settings} {env : Environment}

theorem exists_ofEnvironment (h : ∀ e, ¬ env.FirstMisspelt e) :
    ∃ o, Overrides.ofEnvironment env = .ok o := by
  cases ho : Overrides.ofEnvironment env with
  | ok o => exact ⟨o, rfl⟩
  | error e => exact absurd (Overrides.ofEnvironment_eq_error_iff.1 ho) (h e)

theorem not_firstMisspelt {o : Overrides} (h : Overrides.ofEnvironment env = .ok o)
    (e : Failure) : ¬ env.FirstMisspelt e := by
  intro he
  rw [Overrides.ofEnvironment_eq_error_iff.2 he] at h
  cases h

theorem underEnvironment_of_overruns (h : Overruns room s env) :
    s.underEnvironment room env = .error .tooManyCalls := by
  obtain ⟨o, ho⟩ := exists_ofEnvironment h.spelt
  have hgiven := (Overrides.isEmpty_eq_false_iff ho).2 h.given
  rw [underEnvironment, ho]
  show (if o.isEmpty = true then _ else _) = _
  rw [hgiven, if_neg Bool.false_ne_true, copyWithin, if_neg (Nat.not_le.2 h.deep)]
  rfl

theorem underEnvironment_of_not_overruns (h : ¬ Overruns room s env) :
    s.underEnvironment room env = (Overrides.ofEnvironment env).map s.override := by
  rw [underEnvironment]
  cases ho : Overrides.ofEnvironment env with
  | error e => rfl
  | ok o =>
    show (if o.isEmpty = true then _ else _) = Except.ok (s.override o)
    split
    · next hempty =>
      rw [override_of_isEmpty hempty]
      rfl
    · next hempty =>
      have hgiven := (Overrides.isEmpty_eq_false_iff ho).1 (Bool.eq_false_iff.2 hempty)
      have hroom : s.calls ≤ room := Nat.not_lt.1 fun hdeep =>
        h ⟨not_firstMisspelt ho, hgiven, hdeep⟩
      rw [copyWithin, if_pos hroom]
      rfl

end overrides

section fields

variable {name other : String} {v : Option Value} {fields rest : Fields}

theorem get?_append : Fields.get? (fields ++ rest) name =
    (Fields.get? fields name).or (Fields.get? rest name) :=
  List.lookup_append

theorem get?_field_self : Fields.get? (Overrides.field name v) name = v := by
  cases v <;> simp [Overrides.field, Fields.get?]

theorem get?_field_of_ne (h : other ≠ name) :
    Fields.get? (Overrides.field name v) other = none := by
  have hne : (other == name) = false := beq_false_of_ne h
  cases v <;> simp [Overrides.field, Fields.get?, List.lookup_cons, hne]

theorem fst_mem_of_mem_field {names : List String} (hname : name ∈ names) :
    ∀ field ∈ Overrides.field name v, field.1 ∈ names := by
  intro field hfield
  cases v with
  | none => cases hfield
  | some v =>
    rw [List.mem_singleton.1 hfield]
    exact hname

theorem get?_part_of_ne (h : other ≠ name) :
    Fields.get? (Overrides.part name fields) other = none := by
  have hne : (other == name) = false := beq_false_of_ne h
  cases fields <;> simp [Overrides.part, Fields.get?, List.lookup_cons, hne]

/-- A section that is left out counts as one without content. -/
theorem getD_get?_part :
    (Fields.get? (Overrides.part name fields) name).getD (.object []) = .object fields := by
  cases fields <;> simp [Overrides.part, Fields.get?]

theorem Section.read_object {s : Section} (h : ∀ field ∈ fields, field.1 ∈ s.names) :
    s.read (.object fields) = .ok fields := by
  cases fields with
  | nil => rfl
  | cons first rest =>
    have hfind : (first :: rest).find? (fun field => !s.names.contains field.1) = none := by
      rw [List.find?_eq_none]
      intro field hfield
      simpa using h field hfield
    rw [Section.read, if_neg (by simp [Value.isGiven])]
    dsimp only
    rw [hfind]

end fields

/-- Data with three sections gives what stands in them, if they know all of it. -/
theorem ofValue_parts {pow address logging : Fields}
    (hpow : ∀ field ∈ pow, field.1 ∈ powSection.names)
    (haddress : ∀ field ∈ address, field.1 ∈ addressSection.names)
    (hlogging : ∀ field ∈ logging, field.1 ∈ loggingSection.names) :
    ofValue (.object (Overrides.part "pow" pow ++ Overrides.part "address" address ++
        Overrides.part "logging" logging)) =
      .ok (ofSections pow address logging (.object [])) := by
  have hpowField : powSection.field = "pow" := rfl
  have haddressField : addressSection.field = "address" := rfl
  have hloggingField : loggingSection.field = "logging" := rfl
  -- A section is looked up among all three, and the other two do not have its name.
  simp only [ofValue, hpowField, haddressField, hloggingField, get?_append]
  simp only [get?_part_of_ne, getD_get?_part, Option.or_none, Option.none_or, Option.getD_none,
    ne_eq, String.reduceEq, not_false_eq_true]
  rw [Section.read_object hpow, Section.read_object haddress, Section.read_object hlogging]
  rfl

theorem ofValue_toValue (o : Overrides) : ofValue o.toValue = .ok (default.override o) := by
  have hpow : ∀ field ∈ Overrides.field "difficulty_bits" (o.difficultyBits.map .int) ++
      Overrides.field "max_nonce" (o.maxNonce.map .int), field.1 ∈ powSection.names :=
    List.forall_mem_append.2
      ⟨fst_mem_of_mem_field (by decide), fst_mem_of_mem_field (by decide)⟩
  have haddress : ∀ field ∈ Overrides.field "default_type" (o.addressType.map .text),
      field.1 ∈ addressSection.names := fst_mem_of_mem_field (by decide)
  have hlogging : ∀ field ∈ Overrides.field "level" (o.logLevel.map .text) ++
      Overrides.field "file" (o.logFile.map .text), field.1 ∈ loggingSection.names :=
    List.forall_mem_append.2
      ⟨fst_mem_of_mem_field (by decide), fst_mem_of_mem_field (by decide)⟩
  rw [Overrides.toValue, ofValue_parts hpow haddress hlogging, ofSections, override]
  simp only [get?_append, get?_field_self, get?_field_of_ne, Option.or_none, Option.none_or, ne_eq,
    String.reduceEq, not_false_eq_true]
  rfl

/-- The usual settings nest nothing, so there is hardly a program without the room to copy them. -/
theorem ofEnvironment_eq_underEnvironment {room : Nat} (hroom : default.calls ≤ room)
    (env : Environment) : ofEnvironment env = default.underEnvironment room env := by
  rw [underEnvironment_of_not_overruns fun h => Nat.not_lt.2 hroom h.deep, ofEnvironment]
  cases Overrides.ofEnvironment env with
  | error e => rfl
  | ok o => exact ofValue_toValue o

end Settings

end Attest
