import Attest.Chain
import Attest.Proofs.Merkle.Uniqueness

/-!
# What the last link of a chain binds

A chain is a climb in which every sibling is the hash of an item and stands on the right, so
the last link of a chain binds as the end of a climb does (`tip_inj`), up to a collision at
one link.  Chains of different lengths are brought to the same length by taking the longer one
for two chains, the second of which starts at the last link of the first (`links_append`).
-/

namespace Attest.Chain

open Merkle

/-- The digest that items lead to from a digest: their last link, or that digest. -/
def tip (previous : Digest) : List Bytes → Digest
  | [] => previous
  | item :: rest => tip (previous.join (sha256 item)) rest

/-- The strings of 64 bytes that are hashed twice for the links, one for each. -/
def hashed (previous : Digest) : List Bytes → List Bytes
  | [] => []
  | item :: rest =>
    Digest.pair previous (sha256 item) :: hashed (previous.join (sha256 item)) rest

section links

variable (d : Digest) (xs ys : List Bytes)

/-! ## Links -/

@[simp] theorem length_links : (links d xs).length = xs.length := by
  induction xs generalizing d with
  | nil => rfl
  | cons item rest ih => rw [links, List.length_cons, List.length_cons, ih]

theorem links_append : links d (xs ++ ys) = links d xs ++ links (tip d xs) ys := by
  induction xs generalizing d with
  | nil => rfl
  | cons item rest ih => rw [List.cons_append, links, links, tip, List.cons_append, ih]

theorem tip_append : tip d (xs ++ ys) = tip (tip d xs) ys := by
  induction xs generalizing d with
  | nil => rfl
  | cons item rest ih => rw [List.cons_append, tip, tip, ih]

theorem hashed_append : hashed d (xs ++ ys) = hashed d xs ++ hashed (tip d xs) ys := by
  induction xs generalizing d with
  | nil => rfl
  | cons item rest ih => rw [List.cons_append, hashed, hashed, tip, List.cons_append, ih]

@[simp] theorem length_hashed : (hashed d xs).length = xs.length := by
  induction xs generalizing d with
  | nil => rfl
  | cons item rest ih => rw [hashed, List.length_cons, List.length_cons, ih]

/-- The digest before the links and the links themselves are the tips of the first items. -/
theorem getElem?_cons_links {k : Nat} (h : k ≤ xs.length) :
    (d :: links d xs)[k]? = some (tip d (xs.take k)) := by
  induction xs generalizing d k with
  | nil =>
    obtain rfl : k = 0 := Nat.le_zero.1 h
    rfl
  | cons item rest ih =>
    cases k with
    | zero => rfl
    | succ k =>
      rw [links, List.getElem?_cons_succ, List.take_succ_cons, tip]
      exact ih _ (Nat.le_of_succ_le_succ h)

end links

theorem links_congr {xs ys : List Bytes} (h : xs.map sha256 = ys.map sha256) (d : Digest) :
    links d xs = links d ys := by
  induction xs generalizing d ys with
  | nil => rw [List.map_eq_nil_iff.1 h.symm]
  | cons item rest ih =>
    cases ys with
    | nil => simp at h
    | cons item' rest' =>
      rw [List.map_cons, List.map_cons, List.cons.injEq] at h
      rw [links, links, h.1, ih h.2]

theorem getLast?_links (d : Digest) {xs : List Bytes} (h : xs ≠ []) :
    (links d xs).getLast? = some (tip d xs) := by
  have hpos : 0 < xs.length := List.length_pos_iff.2 h
  have hlast := getElem?_cons_links d xs (le_refl xs.length)
  rw [List.take_length, ← Nat.sub_add_cancel hpos, List.getElem?_cons_succ] at hlast
  rw [List.getLast?_eq_getElem?, length_links, hlast]

/-! ## A chain as a climb -/

/-- The hash of an item as a sibling on the right. -/
def step (item : Bytes) : Step where
  hash := sha256 item
  side := .right

theorem tip_eq_climb (d : Digest) (xs : List Bytes) : tip d xs = climb d (xs.map step) := by
  induction xs generalizing d with
  | nil => rfl
  | cons item rest ih =>
    rw [tip, ih, List.map_cons, climb_cons]
    rfl

theorem hashed_eq_climbInputs (d : Digest) (xs : List Bytes) :
    hashed d xs = climbInputs d (xs.map step) := by
  induction xs generalizing d with
  | nil => rfl
  | cons item rest ih =>
    rw [hashed, ih, List.map_cons, climbInputs]
    rfl

theorem tip_inj {d d' : Digest} {xs ys : List Bytes} (hlength : xs.length = ys.length)
    (h : tip d xs = tip d' ys) :
    (d = d' ∧ xs.map sha256 = ys.map sha256) ∨
      CollideAt doubleSha256 (hashed d xs) (hashed d' ys) := by
  have hright : ∀ zs : List Bytes,
      (zs.map step).map (·.side) = List.replicate zs.length Side.right := by
    intro zs
    rw [List.map_map]
    exact List.map_const'
  have hsides : (xs.map step).map (·.side) = (ys.map step).map (·.side) := by
    rw [hright, hright, hlength]
  rw [tip_eq_climb, tip_eq_climb] at h
  rw [hashed_eq_climbInputs, hashed_eq_climbInputs]
  rcases climb_inj hsides h with ⟨hd, hsteps⟩ | hc
  · have hhashes := congrArg (List.map (·.hash)) hsteps
    rw [List.map_map, List.map_map] at hhashes
    exact Or.inl ⟨hd, hhashes⟩
  · exact Or.inr hc

/-! ## Chains of any lengths -/

/-- The chain over `xs` after `d` is the end of the chain over `ys` after `e`: it has the last
links of that chain, for items with the same hashes, and starts from what comes before them,
which is the last one of the other links or, if there are none, `e`. -/
structure EndOf (d : Digest) (xs : List Bytes) (e : Digest) (ys : List Bytes) : Prop where
  links_eq : links d xs = (links e ys).drop (ys.length - xs.length)
  map_eq : xs.map sha256 = (ys.drop (ys.length - xs.length)).map sha256
  start_eq : (e :: links e ys)[ys.length - xs.length]? = some d

theorem endOf_of_tip_eq {d e : Digest} {xs ys : List Bytes} (hle : xs.length ≤ ys.length)
    (h : tip d xs = tip e ys) :
    EndOf d xs e ys ∨
      CollideAt doubleSha256 (hashed d xs) ((hashed e ys).drop (ys.length - xs.length)) := by
  obtain ⟨front, back, rfl, hlength⟩ :
      ∃ front back, ys = front ++ back ∧ xs.length = back.length := by
    refine ⟨ys.take (ys.length - xs.length), ys.drop (ys.length - xs.length), ?_, ?_⟩
    · rw [List.take_append_drop]
    · rw [List.length_drop]
      omega
  -- The links over `back` start from what those over `front` lead to.
  have hfront : (front ++ back).length - xs.length = front.length := by
    rw [List.length_append]
    omega
  have hhashed : (hashed e (front ++ back)).drop front.length = hashed (tip e front) back := by
    rw [hashed_append, List.drop_left' (length_hashed e front)]
  rw [tip_append] at h
  rw [hfront, hhashed]
  rcases tip_inj hlength h with ⟨hd, hitems⟩ | hc
  · refine Or.inl ⟨?_, ?_, ?_⟩
    · rw [hfront, links_append, List.drop_left' (length_links e front), hd,
        links_congr hitems]
    · rw [hfront, List.drop_left, hitems]
    · rw [hfront, getElem?_cons_links e _ (by rw [List.length_append]; omega),
        List.take_left, hd]
  · exact Or.inr hc

theorem verify_iff {items : List Bytes} {ls : List Digest} {genesis : Option Digest} :
    verify items ls genesis = true ↔ hashes items genesis = ls := by
  rw [verify, Bool.and_eq_true, decide_eq_true_iff, decide_eq_true_iff]
  refine ⟨fun h => h.2, fun h => ⟨?_, h⟩⟩
  rw [← h, hashes, length_links]

/-- **The last link binds the history.**  If a chain over some items ends in the same link as
one over at least as many, then it is the end of that chain, or at a pair of corresponding
links the two hash different strings to the same digest.  In particular, links that pass the
check for two lists of items, each after its own genesis digest, have the same genesis digest
and items with the same hashes, or two strings collide at one link. -/
theorem last_link_binds :
    (∀ (xs ys : List Bytes) (g g' : Option Digest), xs ≠ [] → xs.length ≤ ys.length →
      (hashes xs g).getLast? = (hashes ys g').getLast? →
      EndOf (genesisOr g) xs (genesisOr g') ys ∨
        CollideAt doubleSha256 (hashed (genesisOr g) xs)
          ((hashed (genesisOr g') ys).drop (ys.length - xs.length))) ∧
    ∀ (xs ys : List Bytes) (ls : List Digest) (g g' : Option Digest), ls ≠ [] →
      verify xs ls g = true → verify ys ls g' = true →
      (genesisOr g = genesisOr g' ∧ xs.map sha256 = ys.map sha256) ∨
        CollideAt doubleSha256 (hashed (genesisOr g) xs) (hashed (genesisOr g') ys) := by
  constructor
  · intro xs ys g g' hxs hle hlast
    have hys : ys ≠ [] := by
      rintro rfl
      exact hxs (List.length_eq_zero_iff.1 (Nat.le_zero.1 hle))
    rw [hashes, hashes, getLast?_links _ hxs, getLast?_links _ hys, Option.some.injEq] at hlast
    exact endOf_of_tip_eq hle hlast
  · intro xs ys ls g g' hls hx hy
    rw [verify_iff, hashes] at hx hy
    have hlength : xs.length = ys.length := by
      rw [← length_links (genesisOr g) xs, ← length_links (genesisOr g') ys, hx, hy]
    have hne : ∀ {d : Digest} {zs : List Bytes}, links d zs = ls → zs ≠ [] := by
      rintro d zs hzs rfl
      exact hls hzs.symm
    refine tip_inj hlength (Option.some.inj ?_)
    rw [← getLast?_links _ (hne hx), ← getLast?_links _ (hne hy), hx, hy]

/-- The first link over an item of one byte. -/
def firstLink : Digest :=
  tip .zero [[1]]

/-- The second of two links, as the only one of a chain that starts at the first link, and one
link that passes the check with the zero digest as genesis digest and with none: in both cases
the two chains hash the same string, so nothing collides. -/
theorem last_link_binds_second :
    (([[2]] : List Bytes) ≠ [] ∧ ([[2]] : List Bytes).length ≤ ([[1], [2]] : List Bytes).length ∧
      (hashes [[2]] (some firstLink)).getLast? = (hashes [[1], [2]] none).getLast? ∧
      EndOf firstLink [[2]] .zero [[1], [2]]) ∧
    [firstLink] ≠ [] ∧ verify [[1]] [firstLink] none = true ∧
      verify [[1]] [firstLink] (some .zero) = true ∧ genesisOr none = genesisOr (some .zero) := by
  constructor
  · have hne : ([[2]] : List Bytes) ≠ [] := List.cons_ne_nil _ _
    have hle : ([[2]] : List Bytes).length ≤ ([[1], [2]] : List Bytes).length := by decide
    have hlinks : links .zero [[1], [2]] = links .zero [[1]] ++ links firstLink [[2]] :=
      links_append .zero [[1]] [[2]]
    have hhashed : (hashed .zero [[1], [2]]).drop 1 = hashed firstLink [[2]] := by
      have happend : hashed .zero [[1], [2]] = hashed .zero [[1]] ++ hashed firstLink [[2]] :=
        hashed_append .zero [[1]] [[2]]
      rw [happend]
      exact List.drop_left' (length_hashed .zero [[1]])
    have hlast :
        (hashes [[2]] (some firstLink)).getLast? = (hashes [[1], [2]] none).getLast? := by
      have hnonempty : links firstLink [[2]] ≠ [] := List.cons_ne_nil _ _
      show (links firstLink [[2]]).getLast? = (links .zero [[1], [2]]).getLast?
      rw [hlinks, List.getLast?_append_of_ne_nil _ hnonempty]
    refine ⟨hne, hle, hlast, ?_⟩
    rcases last_link_binds.1 [[2]] [[1], [2]] (some firstLink) none hne hle hlast with h | hc
    · exact h
    · change CollideAt _ (hashed firstLink [[2]]) ((hashed .zero [[1], [2]]).drop 1) at hc
      rw [hhashed] at hc
      exact absurd hc (not_collideAt_self _)
  · have hne : [firstLink] ≠ [] := List.cons_ne_nil _ _
    have hlinks : ∀ g, genesisOr g = .zero → verify [[1]] [firstLink] g = true := by
      intro g hg
      rw [verify_iff, hashes, hg]
      rfl
    have hnone := hlinks none rfl
    have hzero := hlinks (some .zero) rfl
    refine ⟨hne, hnone, hzero, ?_⟩
    rcases last_link_binds.2 [[1]] [[1]] [firstLink] none (some .zero) hne hnone hzero with h | hc
    · exact h.1
    · exact absurd hc (not_collideAt_self _)

end Attest.Chain
