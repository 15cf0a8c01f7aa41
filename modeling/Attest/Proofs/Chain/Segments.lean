import Attest.Proofs.Chain

/-!
# Chains in segments

All that later links need of earlier ones is the last of them.  So a chain may be checked a segment
at a time, each segment against the last link of the one before it, and the answers are together
that of checking the whole chain from its start (`verifyEach_iff`).
-/

namespace Attest.Chain

/-- The genesis digest for what follows links: the last of them, or the one before them if there
are none. -/
def genesisAfter (genesis : Option Digest) (ls : List Digest) : Option Digest :=
  ls.getLast?.or genesis

/-- Whether segments, each of items and their links, are chains that follow one another. -/
def verifyEach (genesis : Option Digest) : List (List Bytes × List Digest) → Bool
  | [] => true
  | (items, ls) :: rest =>
    verify items ls genesis && verifyEach (genesisAfter genesis ls) rest

section segments

variable (xs ys : List Bytes) (ls ms : List Digest) (genesis : Option Digest)

@[simp] theorem length_hashes : (hashes xs genesis).length = xs.length :=
  length_links _ xs

theorem length_eq_of_verify {xs : List Bytes} {ls : List Digest} {genesis : Option Digest}
    (h : verify xs ls genesis = true) : ls.length = xs.length := by
  rw [← verify_iff.1 h, length_hashes]

/-- The next link is made from the digest that the items so far lead to. -/
theorem genesisOr_genesisAfter_hashes :
    genesisOr (genesisAfter genesis (hashes xs genesis)) = tip (genesisOr genesis) xs := by
  rw [genesisAfter, hashes]
  cases xs with
  | nil => rfl
  | cons item rest =>
    rw [getLast?_links _ (List.cons_ne_nil item rest)]
    rfl

theorem hashes_append : hashes (xs ++ ys) genesis =
    hashes xs genesis ++ hashes ys (genesisAfter genesis (hashes xs genesis)) := by
  rw [hashes, links_append, ← genesisOr_genesisAfter_hashes]
  rfl

/-- Without the condition on the lengths, links of the first segment could be passed off as links of
the second. -/
theorem verify_append {xs : List Bytes} {ls : List Digest} (hlength : ls.length = xs.length) :
    verify (xs ++ ys) (ls ++ ms) genesis = true ↔
      verify xs ls genesis = true ∧ verify ys ms (genesisAfter genesis ls) = true := by
  rw [verify_iff, verify_iff, verify_iff, hashes_append]
  constructor
  · intro h
    obtain ⟨hfirst, hsecond⟩ := List.append_inj h (by rw [length_hashes, hlength])
    exact ⟨hfirst, hfirst ▸ hsecond⟩
  · rintro ⟨rfl, rfl⟩
    rfl

/-- Segments pass one after the other exactly if each has as many links as items and all of them
together are one chain. -/
theorem verifyEach_iff (segments : List (List Bytes × List Digest)) :
    verifyEach genesis segments = true ↔
      (∀ s ∈ segments, s.2.length = s.1.length) ∧
        verify (segments.flatMap Prod.fst) (segments.flatMap Prod.snd) genesis = true := by
  induction segments generalizing genesis with
  | nil => simp [verifyEach, verify_iff, hashes, links]
  | cons s rest ih =>
    obtain ⟨items, ls⟩ := s
    rw [verifyEach, Bool.and_eq_true, ih, List.forall_mem_cons, List.flatMap_cons,
      List.flatMap_cons]
    constructor
    · rintro ⟨hfirst, hlengths, hrest⟩
      have hlength := length_eq_of_verify hfirst
      exact ⟨⟨hlength, hlengths⟩, (verify_append _ _ genesis hlength).2 ⟨hfirst, hrest⟩⟩
    · rintro ⟨⟨hlength, hlengths⟩, hall⟩
      obtain ⟨hfirst, hrest⟩ := (verify_append _ _ genesis hlength).1 hall
      exact ⟨hfirst, hlengths, hrest⟩

/-! ## Links and genesis digest as they are handed over -/

theorem hashesGiven_proper :
    hashesGiven xs (genesis.map Given.proper) = .ok (hashes xs genesis) := by
  cases genesis <;> rfl

theorem verifyGiven_proper :
    verifyGiven xs (ls.map Given.proper) (genesis.map Given.proper) =
      .ok (verify xs ls genesis) := by
  rw [verifyGiven, List.length_map, verify]
  split
  · next hlength => rw [decide_eq_false hlength, Bool.false_and]
  · next hlength =>
    rw [decide_eq_true (not_not.1 hlength), Bool.true_and, hashesGiven_proper, Given.mapM_proper?]
    simp only [bind, Except.bind, pure, Except.pure, Option.some.injEq, eq_comm]

end segments

/-- **Chains are checked segment by segment.**  A chain in two segments passes the check exactly if
the first segment does and the second does with the last link of the first in place of the genesis
digest, and its links are those of the segments so taken.  By this any number of segments pass one
after the other exactly if together they pass as one chain.  The check of what is handed over as
links and as genesis digest is this check if digests are handed over. -/
theorem verify_segments :
    (∀ (xs ys : List Bytes) (ls ms : List Digest) (g : Option Digest), ls.length = xs.length →
      (verify (xs ++ ys) (ls ++ ms) g = true ↔
        verify xs ls g = true ∧ verify ys ms (ls.getLast?.or g) = true)) ∧
    (∀ (xs ys : List Bytes) (g : Option Digest),
      hashes (xs ++ ys) g = hashes xs g ++ hashes ys ((hashes xs g).getLast?.or g)) ∧
    (∀ (segments : List (List Bytes × List Digest)) (g : Option Digest),
      (∀ s ∈ segments, s.2.length = s.1.length) →
        verify (segments.flatMap Prod.fst) (segments.flatMap Prod.snd) g =
          verifyEach g segments) ∧
    ∀ (xs : List Bytes) (ls : List Digest) (g : Option Digest),
      hashesGiven xs (g.map Given.proper) = .ok (hashes xs g) ∧
        verifyGiven xs (ls.map Given.proper) (g.map Given.proper) = .ok (verify xs ls g) := by
  refine ⟨fun xs ys ls ms g hlength => verify_append ys ms g hlength, fun xs ys g => ?_,
    fun segments g hlengths => ?_, fun xs ls g => ⟨?_, ?_⟩⟩
  · exact hashes_append xs ys g
  · rw [Bool.eq_iff_iff, verifyEach_iff]
    exact ⟨fun h => ⟨hlengths, h⟩, fun h => h.2⟩
  · exact hashesGiven_proper xs g
  · exact verifyGiven_proper xs ls g

/-- A chain of two links, the first of which is also checked on its own, and with an empty segment
between the two. -/
def threeSegments : List (List Bytes × List Digest) :=
  [([[1]], [firstLink]), ([], []), ([[2]], hashes [[2]] (some firstLink))]

/-- The second link passes the check as what follows the first, so both pass as one chain; and they
do so in three segments, one of which is empty. -/
theorem verify_segments_empty :
    [firstLink].length = ([[1]] : List Bytes).length ∧
      verify [[1]] [firstLink] none = true ∧
      verify [[2]] (hashes [[2]] (some firstLink)) (some firstLink) = true ∧
      verify ([[1]] ++ [[2]]) ([firstLink] ++ hashes [[2]] (some firstLink)) none = true ∧
      ([[1]], [firstLink]) ∈ threeSegments ∧
      (∀ s ∈ threeSegments, s.2.length = s.1.length) ∧
      verifyEach none threeSegments = true := by
  have hfirst : verify [[1]] [firstLink] none = true := verify_iff.2 rfl
  have hsecond : verify [[2]] (hashes [[2]] (some firstLink)) (some firstLink) = true :=
    verify_iff.2 rfl
  have hlengths : ∀ s ∈ threeSegments, s.2.length = s.1.length := by
    simp [threeSegments]
  have hboth : verify ([[1]] ++ [[2]]) ([firstLink] ++ hashes [[2]] (some firstLink)) none = true :=
    (verify_segments.1 [[1]] [[2]] [firstLink] (hashes [[2]] (some firstLink)) none rfl).2
      ⟨hfirst, hsecond⟩
  refine ⟨rfl, hfirst, hsecond, hboth, List.mem_cons_self, hlengths, ?_⟩
  rw [← verify_segments.2.2.1 threeSegments none hlengths]
  exact hboth

end Attest.Chain
