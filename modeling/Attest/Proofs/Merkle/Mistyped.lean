import Attest.Merkle.Unchecked
import Attest.Proofs.Merkle.Climb
import Attest.Proofs.Number

/-!
# Anything in place of a proof

Checking looks at the kinds of all parts that it hashes before it asks anything else
(`RightKinds`), and only then takes the index apart: sides spell it as far as its type answers
(`Spells`), and where an answer is a failure, that is what checking ends with (`Breaks`).  Nothing
else can go wrong.  Data that is taken for an index is a number, which answers always: it counts as
a place (`Number.place?`), whose bits the sides have to be.
-/

namespace Attest

theorem Given.eq_proper_of_proper? {α φ : Type} {given : Given α φ} {a : α}
    (h : given.proper? = some a) : given = .proper a := by
  cases given with
  | proper b =>
    cases h
    rfl
  | other v => cases h

namespace Merkle

section checking

variable {φ : Type}

/-! ## Parts of the right kinds -/

/-- A step as one whose parts are not checked. -/
def Step.unchecked (s : Step) : Given (UncheckedStep φ) φ :=
  .proper { hash := .proper s.hash, side := s.side }

/-- What is given as a proof is one, of a digest and of steps with digests, and what is given as a
root is a digest. -/
structure RightKinds (proof : Given (UncheckedProof φ) φ) (root : Given Digest φ)
    (p : UncheckedProof φ) (leaf : Digest) (steps : List Step) (d : Digest) : Prop where
  proof : proof = .proper p
  leaf : p.leaf = .proper leaf
  steps : p.steps = steps.map Step.unchecked
  root : root = .proper d

namespace UncheckedStep

theorem proper?_unchecked (s : Step) : proper? (φ := φ) s.unchecked = some s := rfl

theorem eq_unchecked_of_proper? {given : Given (UncheckedStep φ) φ} {s : Step}
    (h : proper? given = some s) : given = s.unchecked := by
  rcases given with ⟨⟨hash | v, side⟩⟩ | v
  · cases h
    rfl
  · cases h
  · cases h

theorem mapM_proper?_eq_some_iff {steps : List (Given (UncheckedStep φ) φ)}
    {checked : List Step} :
    steps.mapM proper? = some checked ↔ steps = checked.map Step.unchecked := by
  induction steps generalizing checked with
  | nil => cases checked <;> simp
  | cons given steps ih =>
    rw [List.mapM_cons]
    constructor
    · intro h
      obtain ⟨s, hs, h⟩ := Option.bind_eq_some_iff.1 h
      obtain ⟨rest, hrest, h⟩ := Option.bind_eq_some_iff.1 h
      cases h
      rw [List.map_cons, ← ih.1 hrest, ← eq_unchecked_of_proper? hs]
    · intro h
      obtain ⟨s, rest, rfl, hgiven, hsteps⟩ := List.map_eq_cons_iff.1 h.symm
      rw [← hgiven, proper?_unchecked, ih.2 hsteps.symm]
      rfl

end UncheckedStep

variable [Foreign φ] {index rest : φ} {even : Bool} {side : Side} {sides : List Side} {e : Failure}

/-! ## The index -/

/-- The side of a sibling where an index is even, or not. -/
def sideAt (even : Bool) : Side :=
  if even then .right else .left

/-- Sides spell an index: each is as the index is even or not, the index is halved from one to the
next, and nothing of it is left at the end. -/
inductive Spells : φ → List Side → Prop where
  | done {index : φ} (hzero : Foreign.isZero index = .ok true) : Spells index []
  | next {index rest : φ} {even : Bool} {sides : List Side}
      (heven : Foreign.isEven index = .ok even) (hhalf : Foreign.half index = .ok rest)
      (hrest : Spells rest sides) : Spells index (sideAt even :: sides)

/-- Taking an index apart fails before a side contradicts it. -/
inductive Breaks (e : Failure) : φ → List Side → Prop where
  | zero {index : φ} (h : Foreign.isZero index = .error e) : Breaks e index []
  | even {index : φ} {side : Side} {sides : List Side} (h : Foreign.isEven index = .error e) :
      Breaks e index (side :: sides)
  | half {index : φ} {even : Bool} {sides : List Side}
      (heven : Foreign.isEven index = .ok even) (h : Foreign.half index = .error e) :
      Breaks e index (sideAt even :: sides)
  | next {index rest : φ} {even : Bool} {sides : List Side}
      (heven : Foreign.isEven index = .ok even) (hhalf : Foreign.half index = .ok rest)
      (h : Breaks e rest sides) : Breaks e index (sideAt even :: sides)

theorem indexSpells_of_isEven_error (h : Foreign.isEven index = .error e) :
    indexSpells index (side :: sides) = .error e := by
  rw [indexSpells, h]
  rfl

theorem indexSpells_of_ne (h : Foreign.isEven index = .ok even) (hside : side ≠ sideAt even) :
    indexSpells index (side :: sides) = .ok false := by
  rw [indexSpells, h]
  exact if_pos hside

theorem indexSpells_sideAt (h : Foreign.isEven index = .ok even) :
    indexSpells index (sideAt even :: sides) =
      (Foreign.half index).bind fun rest => indexSpells rest sides := by
  rw [indexSpells, h]
  exact if_neg (not_not.2 rfl)

theorem indexSpells_eq_true_iff : indexSpells index sides = .ok true ↔ Spells index sides := by
  constructor
  · intro h
    induction sides generalizing index with
    | nil => exact .done h
    | cons side sides ih =>
      cases heven : Foreign.isEven index with
      | error e =>
        rw [indexSpells_of_isEven_error heven] at h
        cases h
      | ok even =>
        by_cases hside : side = sideAt even
        · subst hside
          rw [indexSpells_sideAt heven] at h
          cases hhalf : Foreign.half index with
          | error e =>
            rw [hhalf] at h
            cases h
          | ok rest =>
            rw [hhalf] at h
            exact .next heven hhalf (ih h)
        · rw [indexSpells_of_ne heven hside] at h
          cases h
  · intro h
    induction h with
    | done hzero => exact hzero
    | next heven hhalf _ ih =>
      rw [indexSpells_sideAt heven, hhalf]
      exact ih

theorem indexSpells_eq_error_iff : indexSpells index sides = .error e ↔ Breaks e index sides := by
  constructor
  · intro h
    induction sides generalizing index with
    | nil => exact .zero h
    | cons side sides ih =>
      cases heven : Foreign.isEven index with
      | error e' =>
        rw [indexSpells_of_isEven_error heven] at h
        cases h
        exact .even heven
      | ok even =>
        by_cases hside : side = sideAt even
        · subst hside
          rw [indexSpells_sideAt heven] at h
          cases hhalf : Foreign.half index with
          | error e' =>
            rw [hhalf] at h
            cases h
            exact .half heven hhalf
          | ok rest =>
            rw [hhalf] at h
            exact .next heven hhalf (ih h)
        · rw [indexSpells_of_ne heven hside] at h
          cases h
  · intro h
    induction h with
    | zero h => exact h
    | even h => exact indexSpells_of_isEven_error h
    | half heven h =>
      rw [indexSpells_sideAt heven, h]
      rfl
    | next heven hhalf _ ih =>
      rw [indexSpells_sideAt heven, hhalf]
      exact ih

/-! ## Checking -/

variable {proof : Given (UncheckedProof φ) φ} {root : Given Digest φ} {p : UncheckedProof φ}
  {leaf d : Digest} {steps : List Step}

theorem RightKinds.verifyGiven_eq (h : RightKinds proof root p leaf steps d) :
    verifyGiven proof root =
      (indexSpells p.index (steps.map (·.side))).map (· && climb leaf steps = d) := by
  obtain ⟨rfl, hleaf, hsteps, rfl⟩ := h
  rw [verifyGiven, UncheckedProof.verify, hleaf, UncheckedStep.mapM_proper?_eq_some_iff.2 hsteps]
  rfl

theorem RightKinds.verifyGiven_eq_true_iff (h : RightKinds proof root p leaf steps d) :
    verifyGiven proof root = .ok true ↔
      Spells p.index (steps.map (·.side)) ∧ climb leaf steps = d := by
  rw [h.verifyGiven_eq, ← indexSpells_eq_true_iff]
  cases indexSpells p.index (steps.map (·.side)) with
  | error e => exact iff_of_false nofun (fun hboth => nomatch hboth.1)
  | ok b => simp [Except.map]

theorem RightKinds.verifyGiven_eq_error_iff (h : RightKinds proof root p leaf steps d) :
    verifyGiven proof root = .error e ↔ Breaks e p.index (steps.map (·.side)) := by
  rw [h.verifyGiven_eq, ← indexSpells_eq_error_iff]
  cases indexSpells p.index (steps.map (·.side)) <;> simp [Except.map]

/-- What has a part of a wrong kind does not hold, and is asked nothing more. -/
theorem rightKinds_or_verifyGiven_eq_false (proof : Given (UncheckedProof φ) φ)
    (root : Given Digest φ) : (∃ p leaf steps d, RightKinds proof root p leaf steps d) ∨
      verifyGiven proof root = .ok false := by
  cases proof with
  | other v => exact .inr rfl
  | proper p =>
    rw [verifyGiven, UncheckedProof.verify]
    split
    · next leaf steps d hleaf hsteps hroot =>
      refine .inl ⟨p, leaf, steps, d, rfl, ?_, ?_, ?_⟩
      · exact Given.eq_proper_of_proper? hleaf
      · exact UncheckedStep.mapM_proper?_eq_some_iff.1 hsteps
      · exact Given.eq_proper_of_proper? hroot
    · exact .inr rfl

theorem verifyGiven_eq_true_iff : verifyGiven proof root = .ok true ↔
    ∃ p leaf steps d, RightKinds proof root p leaf steps d ∧
      Spells p.index (steps.map (·.side)) ∧ climb leaf steps = d := by
  constructor
  · intro h
    rcases rightKinds_or_verifyGiven_eq_false proof root with ⟨p, leaf, steps, d, hkinds⟩ | hfalse
    · exact ⟨p, leaf, steps, d, hkinds, hkinds.verifyGiven_eq_true_iff.1 h⟩
    · rw [hfalse] at h
      cases h
  · rintro ⟨p, leaf, steps, d, hkinds, h⟩
    exact hkinds.verifyGiven_eq_true_iff.2 h

theorem verifyGiven_eq_error_iff : verifyGiven proof root = .error e ↔
    ∃ p leaf steps d, RightKinds proof root p leaf steps d ∧
      Breaks e p.index (steps.map (·.side)) := by
  constructor
  · intro h
    rcases rightKinds_or_verifyGiven_eq_false proof root with ⟨p, leaf, steps, d, hkinds⟩ | hfalse
    · exact ⟨p, leaf, steps, d, hkinds, hkinds.verifyGiven_eq_error_iff.1 h⟩
    · rw [hfalse] at h
      cases h
  · rintro ⟨p, leaf, steps, d, hkinds, h⟩
    exact hkinds.verifyGiven_eq_error_iff.2 h

theorem verifyGiven_of_leaf_other {v : φ} (h : p.leaf = .other v) :
    verifyGiven (.proper p) root = .ok false := by
  rcases rightKinds_or_verifyGiven_eq_false (.proper p) root with hkinds | hfalse
  · obtain ⟨_, leaf, steps, d, ⟨⟩, hleaf, -, -⟩ := hkinds
    rw [h] at hleaf
    cases hleaf
  · exact hfalse

/-! ## Items -/

variable (item : Bytes)

theorem verifyGivenItem_eq (proof : Given (UncheckedProof φ) φ) :
    verifyGivenItem item proof root = (leafOf proof).bind fun leaf =>
      (leafDiffers item leaf).bind fun differs =>
        if differs then .ok false else verifyGiven proof root :=
  rfl

theorem verifyGivenItem_of_leaf (h : p.leaf = .proper leaf) :
    verifyGivenItem item (.proper p) root =
      if sha256 item = leaf then verifyGiven (.proper p) root else .ok false := by
  rw [verifyGivenItem_eq, leafOf, h]
  show (if decide (sha256 item ≠ leaf) = true then _ else _) = _
  simp only [decide_eq_true_eq, ne_eq, ite_not]

theorem verifyGivenItem_of_leaf_other {v : φ} (h : p.leaf = .other v) :
    verifyGivenItem item (.proper p) root =
      (Foreign.differs (sha256 item) v).map fun _ => false := by
  rw [verifyGivenItem_eq, leafOf, h, verifyGiven_of_leaf_other h]
  show (Foreign.differs (sha256 item) v).bind _ = _
  cases Foreign.differs (sha256 item) v with
  | error e => rfl
  | ok differs => cases differs <;> rfl

theorem verifyGivenItem_other (v : φ) :
    verifyGivenItem item (.other v) root =
      (Foreign.leaf v).bind fun leaf => (leafDiffers item leaf).map fun _ => false := by
  rw [verifyGivenItem_eq, leafOf]
  congr 1
  funext leaf
  cases leafDiffers item leaf with
  | error e => rfl
  | ok differs => cases differs <;> rfl

/-! ## Demands -/

theorem requireGiven_eq (proof : Given (UncheckedProof φ) φ) (root : Given Digest φ) :
    requireGiven proof root = (verifyGiven proof root).bind fun holds =>
      if holds then .ok () else (reportedIndex proof).bind fun index =>
        (reportedRoot root).bind fun hex => .error (.fault (.proofRejected index hex)) :=
  rfl

theorem requireGiven_of_true (h : verifyGiven proof root = .ok true) :
    requireGiven proof root = .ok () := by
  rw [requireGiven_eq, h]
  rfl

theorem requireGiven_of_error (h : verifyGiven proof root = .error e) :
    requireGiven proof root = .error e := by
  rw [requireGiven_eq, h]
  rfl

theorem requireGiven_of_false (h : verifyGiven proof root = .ok false) :
    requireGiven proof root = (reportedIndex proof).bind fun index =>
      (reportedRoot root).bind fun hex => .error (.fault (.proofRejected index hex)) := by
  rw [requireGiven_eq, h]
  rfl

theorem requireGiven_eq_ok_iff :
    requireGiven proof root = .ok () ↔ verifyGiven proof root = .ok true := by
  cases h : verifyGiven proof root with
  | error e => simp [requireGiven_of_error h]
  | ok b =>
    cases b with
    | true => simp [requireGiven_of_true h]
    | false =>
      rw [requireGiven_of_false h]
      cases reportedIndex proof with
      | error e => exact iff_of_false nofun nofun
      | ok index => cases reportedRoot root <;> exact iff_of_false nofun nofun

end checking

/-! ## Data -/

section data

variable {v : Value} {x : Number} {p : UncheckedProof Value} {root : Given Digest}

/-- A number that is given for an index is spelled by the bits of the place that it counts as, and
taking it apart never fails. -/
theorem indexSpells_number (hnumber : v.number? = some x) (sides : List Side) :
    indexSpells v sides = .ok (x.place?.any fun n => sidesSpell n sides) := by
  induction sides generalizing v x with
  | nil =>
    have hzero : indexSpells v [] = .ok (decide (x.compare (.int 0) = some .eq)) := by
      rw [indexSpells]
      show Except.ok (v.number?.any _) = _
      rw [hnumber]
      rfl
    rw [hzero, Except.ok.injEq, Bool.eq_iff_iff, decide_eq_true_iff, x.compare_zero_iff]
    cases x.place? <;> simp [sidesSpell]
  | cons side sides ih =>
    have heven : Foreign.isEven v = .ok x.isEven := by
      show (v.operand "%" >>= _) = _
      rw [Value.operand, hnumber]
      rfl
    have hhalf : Foreign.half v = .ok (Value.ofNumber x.half) := by
      show (v.operand "//" >>= _) = _
      rw [Value.operand, hnumber]
      rfl
    have hrest : (Value.ofNumber x.half).number? = some x.half := by
      cases x.half <;> rfl
    have hspells : ∀ n, x.place? = some n →
        (sidesSpell n (side :: sides) = true ↔
          side = sideAt x.isEven ∧ sidesSpell (n / 2) sides = true) := by
      intro n hn
      rw [sidesSpell_cons, sideAt, Number.isEven_of_place? hn]
      simp only [decide_eq_true_eq]
    by_cases hside : side = sideAt x.isEven
    · subst hside
      rw [indexSpells_sideAt heven, hhalf]
      show indexSpells (Value.ofNumber x.half) sides = _
      rw [ih hrest, x.place?_half]
      cases hplace : x.place? with
      | none => rfl
      | some n =>
        show Except.ok (sidesSpell (n / 2) sides) = .ok (sidesSpell n (sideAt x.isEven :: sides))
        rw [Except.ok.injEq, Bool.eq_iff_iff, hspells n hplace]
        exact (and_iff_right rfl).symm
    · rw [indexSpells_of_ne heven hside]
      cases hplace : x.place? with
      | none => rfl
      | some n =>
        show Except.ok false = .ok (sidesSpell n (side :: sides))
        rw [Except.ok.injEq, eq_comm, Bool.eq_false_iff, Ne, hspells n hplace]
        exact fun h => hside h.1

theorem spells_number_iff (hnumber : v.number? = some x) {sides : List Side} :
    Spells v sides ↔ ∃ n, v.place? = some n ∧ sidesSpell n sides = true := by
  have hplace : v.place? = x.place? := by
    rw [Value.place?, hnumber]
    rfl
  rw [← indexSpells_eq_true_iff, indexSpells_number hnumber, Except.ok.injEq, hplace]
  cases x.place? <;> simp

theorem not_breaks_number (hnumber : v.number? = some x) {sides : List Side} {e : Failure} :
    ¬ Breaks e v sides := by
  rw [← indexSpells_eq_error_iff, indexSpells_number hnumber]
  exact nofun

/-- A proof that can be made: its index is a number and not negative. -/
def UncheckedProof.IsMade (p : UncheckedProof Value) : Prop :=
  UncheckedProof.make p.leaf p.index p.steps p.root = .ok p

theorem UncheckedProof.IsMade.exists_number (h : p.IsMade) : ∃ x, p.index.number? = some x := by
  cases hnumber : p.index.number? with
  | some x => exact ⟨x, rfl⟩
  | none =>
    have hnegative : Foreign.isNegative p.index =
        .error (.incomparable "<" p.index.kind (Value.int 0).kind) := by
      show (p.index.comparable "<" >>= _) = _
      rw [Value.comparable, hnumber]
      rfl
    rw [IsMade, make, hnegative] at h
    cases h

/-- What is handed over counts as a proof: the two have the same leaf and steps, and the index of
one is the place that the other's counts as. The roots that they name are not compared. -/
structure UncheckedProof.CountsAs (p : UncheckedProof Value) (q : Proof) : Prop where
  leaf : p.leaf = .proper q.leaf
  index : p.index.place? = some q.index
  steps : p.steps = q.steps.map Step.unchecked

theorem verifyGiven_number_iff (hnumber : p.index.number? = some x) :
    verifyGiven (.proper p) root = .ok true ↔
      ∃ q d, root = .proper d ∧ p.CountsAs q ∧ q.verify d = true := by
  rw [verifyGiven_eq_true_iff]
  constructor
  · rintro ⟨_, leaf, steps, d, ⟨⟨⟩, hleaf, hsteps, hroot⟩, hspells, hclimb⟩
    obtain ⟨n, hplace, hsides⟩ := (spells_number_iff hnumber).1 hspells
    exact ⟨{ leaf, index := n, steps, root := d }, d, hroot, ⟨hleaf, hplace, hsteps⟩,
      (Proof.verify_iff _ d).2 ⟨hsides, hclimb⟩⟩
  · rintro ⟨q, d, hroot, hcounts, hverify⟩
    obtain ⟨hsides, hclimb⟩ := (q.verify_iff d).1 hverify
    exact ⟨p, q.leaf, q.steps, d, ⟨rfl, hcounts.leaf, hcounts.steps, hroot⟩,
      (spells_number_iff hnumber).2 ⟨q.index, hcounts.index, hsides⟩, hclimb⟩

theorem exists_verifyGiven_number (hnumber : p.index.number? = some x) (root : Given Digest) :
    ∃ b, verifyGiven (.proper p) root = .ok b := by
  cases h : verifyGiven (.proper p) root with
  | ok b => exact ⟨b, rfl⟩
  | error e =>
    obtain ⟨_, leaf, steps, d, ⟨⟨⟩, -, -, -⟩, hbreaks⟩ := verifyGiven_eq_error_iff.1 h
    exact absurd hbreaks (not_breaks_number hnumber)

/-- A proof is checked as itself. -/
theorem verifyGiven_unchecked (q : Proof) (d : Digest) :
    verifyGiven (.proper q.unchecked) (.proper d) = .ok (q.verify d) := by
  have hkinds : RightKinds (.proper q.unchecked) (.proper d) q.unchecked q.leaf q.steps d :=
    ⟨rfl, rfl, rfl, rfl⟩
  have hspells : indexSpells (Value.int q.index) (q.steps.map (·.side)) =
      .ok (sidesSpell q.index (q.steps.map (·.side))) :=
    indexSpells_number (v := .int q.index) (x := .int q.index) rfl _
  rw [hkinds.verifyGiven_eq]
  exact congrArg (Except.map _) hspells

theorem exists_verifyGivenItem_number (hnumber : p.index.number? = some x) (root : Given Digest)
    (item : Bytes) : ∃ b, verifyGivenItem item (.proper p) root = .ok b ∧
      (b = true ↔ p.leaf = .proper (sha256 item) ∧ verifyGiven (.proper p) root = .ok true) := by
  obtain ⟨holds, hholds⟩ := exists_verifyGiven_number hnumber root
  cases hleaf : p.leaf with
  | proper leaf =>
    rw [verifyGivenItem_of_leaf item hleaf, hholds]
    by_cases heq : sha256 item = leaf
    · exact ⟨holds, if_pos heq, by simp [heq]⟩
    · exact ⟨false, if_neg heq, by simp [Ne.symm heq]⟩
  | other v =>
    rw [verifyGivenItem_of_leaf_other item hleaf]
    exact ⟨false, rfl, by simp⟩

/-- A fault of the library's is raised only where both a proof and a root are there to be named in
it. -/
theorem requireGiven_eq_fault_iff {proof : Given (UncheckedProof Value)} (f : Fault)
    (h : ∃ b, verifyGiven proof root = .ok b) :
    requireGiven proof root = .error (.fault f) ↔ verifyGiven proof root = .ok false ∧
      ∃ p d, proof = .proper p ∧ root = .proper d ∧
        f = .proofRejected p.index (.text d.toHex) := by
  obtain ⟨_ | _, h⟩ := h
  · rw [requireGiven_of_false h, h]
    cases proof with
    | other v => exact iff_of_false nofun nofun
    | proper p =>
      cases root with
      | other v => exact iff_of_false nofun nofun
      | proper d =>
        constructor
        · rintro ⟨⟩
          exact ⟨rfl, p, d, rfl, rfl, rfl⟩
        · rintro ⟨-, _, _, ⟨⟩, ⟨⟩, rfl⟩
          rfl
  · rw [requireGiven_of_true h, h]
    exact iff_of_false nofun nofun

theorem requireGiven_lacksAttribute {proof : Given (UncheckedProof Value)}
    (h : ¬∃ p d, proof = .proper p ∧ root = .proper d) :
    ∃ kind name, requireGiven proof root = .error (.lacksAttribute kind name) := by
  have hfalse : verifyGiven proof root = .ok false := by
    rcases rightKinds_or_verifyGiven_eq_false proof root with hkinds | hfalse
    · obtain ⟨p, leaf, steps, d, hproof, -, -, hroot⟩ := hkinds
      exact absurd ⟨p, d, hproof, hroot⟩ h
    · exact hfalse
  rw [requireGiven_of_false hfalse]
  cases proof with
  | other v => exact ⟨v.kind, "leaf_index", rfl⟩
  | proper p =>
    cases root with
    | other v => exact ⟨v.kind, "to_hex", rfl⟩
    | proper d => exact absurd ⟨p, d, rfl, rfl⟩ h

end data

/-- A text in place of a proof. -/
def noProof : Given (UncheckedProof Value) :=
  .other (.text "not a proof")

/-- A decimal infinity, of which there is no remainder by two. -/
inductive Infinity where
  | infinity

/-- What a remainder of infinity is refused with. -/
def Infinity.refusal : Failure :=
  .foreign "InvalidOperation" "[<class 'decimal.InvalidOperation'>]"

instance : Foreign Infinity where
  isNegative _ := .ok false
  isEven _ := .error Infinity.refusal
  half v := .ok v
  isZero _ := .ok false
  differs _ _ := .ok true
  leaf _ := .error (.lacksAttribute "decimal.Decimal" "leaf_hash")
  index _ := .error (.lacksAttribute "decimal.Decimal" "leaf_index")
  toHex _ := .error (.lacksAttribute "decimal.Decimal" "to_hex")
  datum _ := .float (.infinity false)
  plain _ := .ok "Infinity"

/-- A proof with one step and no end to its index. -/
def infiniteProof : UncheckedProof Infinity where
  leaf := .proper .zero
  index := .infinity
  steps := [Step.unchecked { hash := .zero, side := .right }]
  root := .proper .zero

end Merkle

end Attest
