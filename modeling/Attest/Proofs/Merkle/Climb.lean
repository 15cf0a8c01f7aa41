import Attest.Merkle.Proof
import Attest.Proofs.Merkle.Levels

/-!
# Climbing from a leaf

The interface of proof checking: which strings a climb hashes (`Proof.hashed`), what
the sides of its steps say about the index, and which sibling the walk through a level
picks.  A climb may start at any digest and its steps may be anyone's, so nothing here
mentions an honest proof.
-/

namespace Attest.Merkle

/-! ## The strings of a climb -/

/-- The string that is hashed twice when a step is applied. -/
def Step.input (d : Digest) (s : Step) : Bytes :=
  match s.side with
  | .right => Digest.pair d s.hash
  | .left => Digest.pair s.hash d

/-- The strings that are hashed twice on the way up from `d`. -/
def climbInputs (d : Digest) : List Step → List Bytes
  | [] => []
  | s :: rest => s.input d :: climbInputs (s.apply d) rest

/-- The strings that are hashed twice while the steps of a proof are checked. -/
def Proof.hashed (p : Proof) : List Bytes :=
  climbInputs p.leaf p.steps

theorem Step.apply_eq_doubleSha256 (d : Digest) (s : Step) :
    s.apply d = doubleSha256 (s.input d) := by
  cases s with
  | mk hash side => cases side <;> rfl

theorem climb_cons (d : Digest) (s : Step) (rest : List Step) :
    climb d (s :: rest) = climb (s.apply d) rest := rfl

theorem climb_append (d : Digest) (lower upper : List Step) :
    climb d (lower ++ upper) = climb (climb d lower) upper :=
  List.foldl_append

theorem climbInputs_append (d : Digest) (lower upper : List Step) :
    climbInputs d (lower ++ upper) =
      climbInputs d lower ++ climbInputs (climb d lower) upper := by
  induction lower generalizing d with
  | nil => rfl
  | cons s lower ih => simp [climbInputs, climb_cons, ih]

/-- After each step a climb stands at the double hash of that step's string. -/
theorem climb_take_succ (d : Digest) {steps : List Step} {k : Nat} (h : k < steps.length) :
    ∃ s, (climbInputs d steps)[k]? = some s ∧
      climb d (steps.take (k + 1)) = doubleSha256 s := by
  induction steps generalizing d k with
  | nil => simp at h
  | cons s rest ih =>
    cases k with
    | zero => exact ⟨s.input d, rfl, s.apply_eq_doubleSha256 d⟩
    | succ k =>
      obtain ⟨b, hb, hclimb⟩ := ih (s.apply d) (Nat.lt_of_succ_lt_succ h)
      exact ⟨b, hb, hclimb⟩

/-! ## Sides and the index -/

theorem sidesSpell_cons (index : Nat) (side : Side) (rest : List Side) :
    sidesSpell index (side :: rest) = true ↔
      side = (if index % 2 = 0 then Side.right else Side.left) ∧
        sidesSpell (index / 2) rest = true := by
  simp [sidesSpell]

theorem right_eq_side_iff (index : Nat) :
    Side.right = (if index % 2 = 0 then Side.right else Side.left) ↔ index % 2 = 0 := by
  split <;> simp_all

theorem left_eq_side_iff (index : Nat) :
    Side.left = (if index % 2 = 0 then Side.right else Side.left) ↔ index % 2 = 1 := by
  split <;> simp_all

theorem sidesSpell_drop {index : Nat} {sides : List Side}
    (h : sidesSpell index sides = true) (k : Nat) :
    sidesSpell (index >>> k) (sides.drop k) = true := by
  induction k generalizing index sides with
  | zero => simpa using h
  | succ k ih =>
    cases sides with
    | nil =>
      have hindex : index = 0 := by simpa [sidesSpell] using h
      subst hindex
      simp [sidesSpell]
    | cons side rest =>
      rw [Nat.shiftRight_succ_inside, List.drop_succ_cons]
      exact ih ((sidesSpell_cons index side rest).1 h).2

theorem Proof.verify_iff (p : Proof) (root : Digest) :
    p.verify root = true ↔
      sidesSpell p.index (p.steps.map (·.side)) = true ∧ climb p.leaf p.steps = root := by
  simp [verify, accepts]

/-! ## The sibling at a position -/

theorem hash_stepAt_left {ds : List Digest} {i : Nat} {left : Digest}
    (h : ds[2 * i]? = some left) :
    (stepAt ds (2 * i)).hash = ds[2 * i + 1]?.getD left := by
  simp [stepAt, h]

theorem hash_stepAt_right {ds : List Digest} {i : Nat} {left : Digest}
    (h : ds[2 * i]? = some left) :
    (stepAt ds (2 * i + 1)).hash = left := by
  simp [stepAt, Nat.add_mod, h]

theorem side_stepAt (ds : List Digest) (i : Nat) :
    (stepAt ds i).side = if i % 2 = 0 then Side.right else Side.left := by
  unfold stepAt
  split <;> rfl

theorem length_stepsFrom (i : Nat) (levels : List (List Digest)) :
    (stepsFrom i levels).length = levels.length := by
  induction levels generalizing i with
  | nil => rfl
  | cons level above ih => simp [stepsFrom, ih]

end Attest.Merkle
