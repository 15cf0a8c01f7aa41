import Attest.Proofs.Merkle.Climb

/-!
# Two proofs against one root

A root of which nothing is known accepts, for each index and each number of steps, at most
one leaf and one list of siblings, up to a collision.  Two inductions carry this:

* `sidesSpell_iff`: the sides are the bits of the index, lowest first, and no bit is left
  over, so that index and sides determine each other;
* `climb_inj`: climbs with the same sides that end at the same hash agree at every step,
  or at some step hash two different strings to the same digest.

The collision is one between the two climbs at the same step, not just anywhere
(`CollideAt`).
-/

namespace Attest

/-- At some place the two lists hold different strings of the same hash. -/
def CollideAt (hash : Bytes → Digest) (as bs : List Bytes) : Prop :=
  ∃ (k : Nat) (a b : Bytes), as[k]? = some a ∧ bs[k]? = some b ∧ a ≠ b ∧ hash a = hash b

section CollideAt

variable {hash : Bytes → Digest} {as bs : List Bytes} {a b : Bytes}

theorem CollideAt.collide (h : CollideAt hash as bs) : Collide hash as bs := by
  obtain ⟨k, a, b, ha, hb, hne, hhash⟩ := h
  exact ⟨a, List.mem_of_getElem? ha, b, List.mem_of_getElem? hb, hne, hhash⟩

theorem not_collideAt_self (ss : List Bytes) : ¬ CollideAt hash ss ss := by
  rintro ⟨k, a, b, ha, hb, hne, -⟩
  exact hne (Option.some.inj (ha.symm.trans hb))

theorem CollideAt.cons (h : CollideAt hash as bs) : CollideAt hash (a :: as) (b :: bs) := by
  obtain ⟨k, c, d, hc, hd, hne, hhash⟩ := h
  exact ⟨k + 1, c, d, hc, hd, hne, hhash⟩

theorem CollideAt.eq_or_head (h : hash a = hash b) :
    a = b ∨ CollideAt hash (a :: as) (b :: bs) := by
  by_cases heq : a = b
  · exact Or.inl heq
  · exact Or.inr ⟨0, a, b, rfl, rfl, heq, h⟩

end CollideAt

namespace Merkle

/-! ## Sides as bits -/

theorem sidesSpell_iff {index : Nat} {sides : List Side} :
    sidesSpell index sides = true ↔
      index < 2 ^ sides.length ∧
        ∀ k side, sides[k]? = some side → (side = .left ↔ index.testBit k = true) := by
  induction sides generalizing index with
  | nil => simp [sidesSpell]
  | cons side rest ih =>
    -- A sibling on the left is a one.
    have hhead : side = (if index % 2 = 0 then Side.right else Side.left) ↔
        (side = .left ↔ index.testBit 0 = true) := by
      rw [Nat.testBit_zero, decide_eq_true_iff]
      cases side with
      | right => rw [right_eq_side_iff]; simp
      | left => rw [left_eq_side_iff]; simp
    have hfits : index / 2 < 2 ^ rest.length ↔ index < 2 ^ (side :: rest).length := by
      rw [List.length_cons, Nat.pow_succ]
      omega
    rw [sidesSpell_cons, ih, hhead, hfits]
    constructor
    · rintro ⟨hzero, hlt, hsucc⟩
      refine ⟨hlt, fun k s hs => ?_⟩
      cases k with
      | zero =>
        rw [List.getElem?_cons_zero, Option.some.injEq] at hs
        rwa [← hs]
      | succ k =>
        rw [Nat.testBit_succ]
        exact hsucc k s hs
    · rintro ⟨hlt, hall⟩
      refine ⟨hall 0 side rfl, hlt, fun k s hs => ?_⟩
      rw [← Nat.testBit_succ]
      exact hall (k + 1) s hs

theorem index_eq_iff_sides_eq {i j : Nat} {sides sides' : List Side}
    (hlength : sides.length = sides'.length) (hi : sidesSpell i sides = true)
    (hj : sidesSpell j sides' = true) : i = j ↔ sides = sides' := by
  induction sides generalizing i j sides' with
  | nil =>
    obtain rfl := List.length_eq_zero_iff.1 hlength.symm
    simp only [sidesSpell, decide_eq_true_eq] at hi hj
    simp [hi, hj]
  | cons side rest ih =>
    cases sides' with
    | nil => simp at hlength
    | cons side' rest' =>
      obtain ⟨hside, hrest⟩ := (sidesSpell_cons i side rest).1 hi
      obtain ⟨hside', hrest'⟩ := (sidesSpell_cons j side' rest').1 hj
      have htail := ih (Nat.succ.inj hlength) hrest hrest'
      have hhead : side = side' ↔ i % 2 = j % 2 := by
        rw [hside, hside']
        split <;> split <;> simp <;> omega
      rw [List.cons.injEq, ← htail, hhead]
      omega

/-! ## Climbs with the same sides -/

theorem Step.input_inj {d d' : Digest} {s s' : Step} (hside : s.side = s'.side)
    (h : s.input d = s'.input d') : d = d' ∧ s = s' := by
  obtain ⟨hash, side⟩ := s
  obtain ⟨hash', side'⟩ := s'
  cases hside
  cases side with
  | right =>
    obtain ⟨rfl, rfl⟩ := Digest.pair_inj.1 h
    exact ⟨rfl, rfl⟩
  | left =>
    obtain ⟨rfl, rfl⟩ := Digest.pair_inj.1 h
    exact ⟨rfl, rfl⟩

theorem climb_inj {d d' : Digest} {steps steps' : List Step}
    (hsides : steps.map (·.side) = steps'.map (·.side)) (h : climb d steps = climb d' steps') :
    (d = d' ∧ steps = steps') ∨
      CollideAt doubleSha256 (climbInputs d steps) (climbInputs d' steps') := by
  induction steps generalizing d d' steps' with
  | nil =>
    obtain rfl := List.map_eq_nil_iff.1 hsides.symm
    exact Or.inl ⟨h, rfl⟩
  | cons s rest ih =>
    cases steps' with
    | nil => simp at hsides
    | cons s' rest' =>
      rw [List.map_cons, List.map_cons, List.cons.injEq] at hsides
      obtain ⟨hside, hrest⟩ := hsides
      -- The climbs end alike, so the last steps come first: only if the climbs after this step
      -- start at the same hash does it matter what this step hashes.
      rcases ih hrest h with ⟨happly, rfl⟩ | hc
      · rw [s.apply_eq_doubleSha256, s'.apply_eq_doubleSha256] at happly
        rcases CollideAt.eq_or_head happly with hinput | hc
        · obtain ⟨rfl, rfl⟩ := Step.input_inj hside hinput
          exact Or.inl ⟨rfl, rfl⟩
        · exact Or.inr hc
      · exact Or.inr hc.cons

/-! ## Accepted proofs -/

/-- The index fits the steps of a proof, and their sides are its bits. -/
structure Proof.Spelled (p : Proof) : Prop where
  fits : p.index < 2 ^ p.height
  bit : ∀ k s, p.steps[k]? = some s → (s.side = .left ↔ p.index.testBit k = true)

theorem Proof.spelled_of_verify {p : Proof} {root : Digest} (h : p.verify root = true) :
    p.Spelled := by
  obtain ⟨hlt, hbits⟩ := sidesSpell_iff.1 ((p.verify_iff root).1 h).1
  rw [List.length_map] at hlt
  refine ⟨hlt, fun k s hs => hbits k s.side ?_⟩
  rw [List.getElem?_map, hs]
  rfl

theorem Proof.index_eq_iff {p q : Proof} {root root' : Digest} (hheight : p.height = q.height)
    (hp : p.verify root = true) (hq : q.verify root' = true) :
    p.index = q.index ↔ p.steps.map (·.side) = q.steps.map (·.side) := by
  apply index_eq_iff_sides_eq
  · rw [List.length_map, List.length_map]
    exact hheight
  · exact ((p.verify_iff root).1 hp).1
  · exact ((q.verify_iff root').1 hq).1

theorem Proof.eq_or_collideAt {p q : Proof} {root : Digest} (hheight : p.height = q.height)
    (hp : p.verify root = true) (hq : q.verify root = true) (hindex : p.index = q.index) :
    (p.leaf = q.leaf ∧ p.steps = q.steps) ∨ CollideAt doubleSha256 p.hashed q.hashed := by
  apply climb_inj ((Proof.index_eq_iff hheight hp hq).1 hindex)
  rw [((p.verify_iff root).1 hp).2, ((q.verify_iff root).1 hq).2]

theorem Proof.verify_index_iff {p : Proof} {root : Digest} (hp : p.verify root = true)
    (i : Nat) : { p with index := i }.verify root = true ↔ i = p.index := by
  constructor
  · intro h
    have hheight : { p with index := i }.height = p.height := rfl
    exact (Proof.index_eq_iff hheight h hp).2 rfl
  · rintro rfl
    exact hp

theorem Step.eq_of_map_eq {steps steps' : List Step}
    (hhash : steps.map (·.hash) = steps'.map (·.hash))
    (hside : steps.map (·.side) = steps'.map (·.side)) : steps = steps' := by
  induction steps generalizing steps' with
  | nil => exact (List.map_eq_nil_iff.1 hhash.symm).symm
  | cons s rest ih =>
    cases steps' with
    | nil => simp at hhash
    | cons s' rest' =>
      obtain ⟨hash, side⟩ := s
      obtain ⟨hash', side'⟩ := s'
      simp only [List.map_cons, List.cons.injEq] at hhash hside
      rw [hhash.1, hside.1, ih hhash.2 hside.2]

theorem Proof.verify_sides_iff {p : Proof} {root : Digest} (hp : p.verify root = true)
    {steps : List Step} (hhashes : steps.map (·.hash) = p.steps.map (·.hash)) :
    { p with steps := steps }.verify root = true ↔ steps = p.steps := by
  constructor
  · intro h
    have hheight : { p with steps := steps }.height = p.height := by
      show steps.length = p.steps.length
      simpa using congrArg List.length hhashes
    have hsides := (Proof.index_eq_iff hheight h hp).1 rfl
    exact Step.eq_of_map_eq hhashes hsides
  · rintro rfl
    exact hp

/-- **Uniqueness.**  Of two proofs of the same height that one root accepts, the sides of
each are the bits of its index, so they have the same index just when they have the same
sides, and changing the index alone or sides alone has a proof rejected.  With the same
index they are about the same leaf and have the same siblings, or at some step the two
checks hash different strings to the same digest. -/
theorem verify_unique (p q : Proof) (root : Digest) (hheight : p.height = q.height)
    (hp : p.verify root = true) (hq : q.verify root = true) :
    (p.Spelled ∧ q.Spelled) ∧
    (p.index = q.index ↔ p.steps.map (·.side) = q.steps.map (·.side)) ∧
    (∀ i, { p with index := i }.verify root = true ↔ i = p.index) ∧
    (∀ steps, steps.map (·.hash) = p.steps.map (·.hash) →
      ({ p with steps := steps }.verify root = true ↔ steps = p.steps)) ∧
    (p.index = q.index →
      (p.leaf = q.leaf ∧ p.steps.map (·.hash) = q.steps.map (·.hash)) ∨
      CollideAt doubleSha256 p.hashed q.hashed) := by
  refine ⟨⟨Proof.spelled_of_verify hp, Proof.spelled_of_verify hq⟩,
    Proof.index_eq_iff hheight hp hq, Proof.verify_index_iff hp,
    fun steps => Proof.verify_sides_iff hp, fun hindex => ?_⟩
  rcases Proof.eq_or_collideAt hheight hp hq hindex with ⟨hleaf, hsteps⟩ | hc
  · exact Or.inl ⟨hleaf, by rw [hsteps]⟩
  · exact Or.inr hc

/-- The last of three leaves, joined with itself and then below the node over the others. -/
def lonePath : Proof where
  leaf := .ofNat 3
  index := 2
  steps := [⟨.ofNat 3, .right⟩, ⟨(Digest.ofNat 1).join (.ofNat 2), .left⟩]
  root := .zero

/-- The same steps, with the leaf's own copy on the left. -/
def loneFlipped : List Step :=
  [⟨.ofNat 3, .left⟩, ⟨(Digest.ofNat 1).join (.ofNat 2), .left⟩]

/-- Neither the index nor the side of the step to the leaf's own copy can be changed alone,
though the copy has the same hash on either side. -/
theorem verify_unique_lonePath :
    ∃ (root : Digest) (q : Proof), lonePath.height = q.height ∧
      lonePath.verify root = true ∧ q.verify root = true ∧ lonePath.index = q.index ∧
      lonePath.root ≠ q.root ∧ lonePath.Spelled ∧
      { lonePath with index := 3 }.verify root ≠ true ∧
      { lonePath with steps := loneFlipped }.verify root ≠ true ∧
      (lonePath.leaf = q.leaf ∨ CollideAt doubleSha256 lonePath.hashed q.hashed) := by
  obtain ⟨root, hroot⟩ : ∃ root, climb lonePath.leaf lonePath.steps = root := ⟨_, rfl⟩
  obtain ⟨q, hindex, hleaf, hsteps, hnamed⟩ : ∃ q : Proof, lonePath.index = q.index ∧
      lonePath.leaf = q.leaf ∧ lonePath.steps = q.steps ∧ lonePath.root ≠ q.root :=
    ⟨{ lonePath with root := .ofNat 7 }, rfl, rfl, rfl, by decide⟩
  have hheight : lonePath.height = q.height := by rw [Proof.height, Proof.height, hsteps]
  have hp : lonePath.verify root = true :=
    (lonePath.verify_iff root).2 ⟨by decide, hroot⟩
  have hq : q.verify root = true := by
    rw [q.verify_iff, ← hindex, ← hleaf, ← hsteps]
    exact (lonePath.verify_iff root).1 hp
  obtain ⟨⟨hspelled, -⟩, -, hother, hflipped, hsame⟩ :=
    verify_unique lonePath q root hheight hp hq
  refine ⟨root, q, hheight, hp, hq, hindex, hnamed, hspelled, ?_, ?_, ?_⟩
  · intro h
    have hthree := (hother 3).1 h
    simp [lonePath] at hthree
  · intro h
    have heq := (hflipped loneFlipped rfl).1 h
    simp [lonePath, loneFlipped] at heq
  · rcases hsame hindex with ⟨hleaf, -⟩ | hc
    · exact Or.inl hleaf
    · exact Or.inr hc

end Merkle

end Attest
