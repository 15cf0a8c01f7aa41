import Attest.Digest.Unchecked
import Attest.Proofs.Digest
import Attest.Target.Unchecked
import Mathlib.Data.List.InsertIdx
import Mathlib.Data.List.Sort

/-!
# Digests in order

Digests compare as the numbers that they spell, so that meeting a target is a comparison of digests
and a list of digests in order is one of numbers in order.  Digests are sorted at once by their
order.  Things of any kind are sorted by comparisons as they come: a run at the front is taken as it
is, and what follows is put in its place, which is found by halving.  For digests that is the same
list: each comparison keeps the place between two bounds (`Brackets.narrow`), so that what is put
there leaves the list in order (`Brackets.ascending_insertIdx`).
-/

namespace Attest

/-- Whether digests are in the order of their numbers. -/
def Digest.Ascending (ds : List Digest) : Prop :=
  ds.Pairwise fun a b => a.toNat ≤ b.toNat

namespace Given

open Digest

theorem isBefore_proper (a b : Digest) :
    isBefore (.proper a) (.proper b) = .ok (decide (a.toNat < b.toNat)) := by
  rw [← decide_eq_decide.2 (lt_iff (a := a) (b := b))]
  rfl

/-! ## The place of a digest -/

section place

variable {ys : List Digest} {x : Digest} {low high place : Nat}

/-- The place of `x` among digests in order, behind those that equal it, lies from `low` to `high`.
-/
structure Brackets (ys : List Digest) (x : Digest) (low high : Nat) : Prop where
  low_le : low ≤ high
  high_le : high ≤ ys.length
  below : ∀ y ∈ ys.take low, y.toNat ≤ x.toNat
  above : ∀ y ∈ ys.drop high, x.toNat < y.toNat

theorem brackets_zero_length (ys : List Digest) (x : Digest) : Brackets ys x 0 ys.length :=
  ⟨Nat.zero_le _, Nat.le_refl _, by simp, by simp⟩

/-- What is in the middle tells on which side of it the place is. -/
theorem Brackets.narrow (h : Brackets ys x low high) (hys : Ascending ys) (middle : Nat)
    (hlow : low ≤ middle) (hhigh : middle < high) :
    ∃ y, ys[middle]? = some y ∧ (x.toNat < y.toNat → Brackets ys x low middle) ∧
      (¬ x.toNat < y.toNat → Brackets ys x (middle + 1) high) := by
  have hlt : middle < ys.length := Nat.lt_of_lt_of_le hhigh h.high_le
  have hdrop : ys.drop middle = ys[middle] :: ys.drop (middle + 1) := List.drop_eq_getElem_cons hlt
  have htake : ys.take (middle + 1) = ys.take middle ++ [ys[middle]] := by
    rw [List.take_append_getElem]
  rw [Ascending, ← List.take_append_drop middle ys, hdrop, List.pairwise_append,
    List.pairwise_cons] at hys
  obtain ⟨-, ⟨hafter, -⟩, hbefore⟩ := hys
  refine ⟨ys[middle], List.getElem?_eq_getElem hlt, fun hless => ?_, fun hnot => ?_⟩
  · refine ⟨hlow, hlt.le, h.below, fun y hy => ?_⟩
    rw [hdrop] at hy
    rcases List.mem_cons.1 hy with rfl | hy
    · exact hless
    · exact hless.trans_le (hafter y hy)
  · refine ⟨hhigh, h.high_le, fun y hy => ?_, h.above⟩
    rw [htake] at hy
    rcases List.mem_append.1 hy with hy | hy
    · exact (hbefore y hy _ List.mem_cons_self).trans (Nat.not_lt.1 hnot)
    · rw [List.mem_singleton.1 hy]
      exact Nat.not_lt.1 hnot

theorem placeIn_proper {fuel : Nat} (hys : Ascending ys) (h : Brackets ys x low high)
    (hfuel : high - low ≤ fuel) :
    ∃ place, placeIn (ys.map .proper) (.proper x) fuel low high = .ok place ∧
      Brackets ys x place place := by
  -- The fuel bounds what is left to search, of which each comparison drops at least the middle.
  induction fuel generalizing low high with
  | zero =>
    obtain rfl : low = high := Nat.le_antisymm h.low_le (by omega)
    exact ⟨low, rfl, h⟩
  | succ fuel ih =>
    by_cases hlt : low < high
    · obtain ⟨y, hy, hleft, hright⟩ :=
        h.narrow hys (low + (high - low) / 2) (by omega) (by omega)
      have hstep : placeIn (ys.map .proper) (.proper x) (fuel + 1) low high =
          if x.toNat < y.toNat then
            placeIn (ys.map .proper) (.proper x) fuel low (low + (high - low) / 2)
          else placeIn (ys.map .proper) (.proper x) fuel (low + (high - low) / 2 + 1) high := by
        rw [placeIn, if_pos hlt]
        simp only [List.getElem?_map, hy, Option.map_some, isBefore_proper, bind, Except.bind,
          decide_eq_true_eq]
      rw [hstep]
      split
      · next hless => exact ih (hleft hless) (by omega)
      · next hnot => exact ih (hright hnot) (by omega)
    · obtain rfl : low = high := Nat.le_antisymm h.low_le (by omega)
      exact ⟨low, by rw [placeIn, if_neg hlt], h⟩

theorem Brackets.ascending_insertIdx (h : Brackets ys x place place) (hys : Ascending ys) :
    Ascending (ys.insertIdx place x) := by
  obtain ⟨front, back, rfl, rfl, hinsert⟩ :=
    List.exists_of_modifyTailIdx (List.cons x) h.high_le
  have hfront : ∀ y ∈ front, y.toNat ≤ x.toNat := fun y hy => h.below y (by rwa [List.take_left])
  have hback : ∀ y ∈ back, x.toNat ≤ y.toNat := fun y hy =>
    (h.above y (by rwa [List.drop_left])).le
  rw [Ascending, List.pairwise_append] at hys
  obtain ⟨hinFront, hinBack, hacross⟩ := hys
  rw [Ascending, List.insertIdx, hinsert, List.pairwise_append, List.pairwise_cons]
  refine ⟨hinFront, ⟨hback, hinBack⟩, fun y hy z hz => ?_⟩
  rcases List.mem_cons.1 hz with rfl | hz
  · exact hfront y hy
  · exact hacross y hy z hz

theorem insertAll_proper (xs : List Digest) (hys : Ascending ys) :
    ∃ zs : List Digest, insertAll (ys.map .proper) (xs.map .proper) = .ok (zs.map .proper) ∧
      Ascending zs ∧ zs.Perm (xs ++ ys) := by
  induction xs generalizing ys with
  | nil => exact ⟨ys, rfl, hys, List.Perm.refl ys⟩
  | cons x xs ih =>
    obtain ⟨place, hplace, hbrackets⟩ :=
      placeIn_proper hys (brackets_zero_length ys x) (Nat.sub_le _ _)
    obtain ⟨zs, hzs, hascending, hperm⟩ := ih (hbrackets.ascending_insertIdx hys)
    have hinsert : (ys.insertIdx place x).Perm (x :: ys) :=
      List.perm_insertIdx x ys hbrackets.high_le
    refine ⟨zs, ?_, hascending, (hperm.trans (hinsert.append_left xs)).trans List.perm_middle⟩
    rw [List.map_cons, insertAll, List.length_map, hplace, ← hzs, List.map_insertIdx]
    rfl

end place

/-! ## The run at the front -/

section run

variable {isFalling : Bool} {a b c : Digest} {run : List Digest}

/-- How a digest in a run stands to those before it. -/
def Continues (isFalling : Bool) (b a : Digest) : Prop :=
  decide (b.toNat < a.toNat) = isFalling

instance (isFalling : Bool) (b a : Digest) : Decidable (Continues isFalling b a) :=
  inferInstanceAs (Decidable (decide (b.toNat < a.toNat) = isFalling))

theorem continues_true : Continues true b a ↔ b.toNat < a.toNat :=
  decide_eq_true_iff

theorem continues_false : Continues false b a ↔ a.toNat ≤ b.toNat := by
  rw [Continues, decide_eq_false_iff_not, Nat.not_lt]

theorem Continues.trans (hcb : Continues isFalling c b) (hba : Continues isFalling b a) :
    Continues isFalling c a := by
  cases isFalling with
  | true =>
    rw [continues_true] at *
    exact hcb.trans hba
  | false =>
    rw [continues_false] at *
    exact hba.trans hcb

theorem takeRun_cons (isFalling : Bool) (previous x : Digest) (run rest : List (Given Digest)) :
    takeRun isFalling (.proper previous) run (.proper x :: rest) =
      if Continues isFalling x previous then takeRun isFalling (.proper x) (.proper x :: run) rest
      else .ok (run, .proper x :: rest) := by
  rw [takeRun, isBefore_proper]
  rfl

theorem takeRun_proper (isFalling : Bool) (previous : Digest) (earlier rest : List Digest)
    (h : (previous :: earlier).Pairwise (Continues isFalling)) :
    ∃ run left : List Digest,
      takeRun isFalling (.proper previous) ((previous :: earlier).map .proper)
          (rest.map .proper) = .ok (run.map .proper, left.map .proper) ∧
        run.Pairwise (Continues isFalling) ∧ (left ++ run).Perm (rest ++ previous :: earlier) := by
  induction rest generalizing previous earlier with
  | nil => exact ⟨previous :: earlier, [], rfl, h, List.Perm.refl _⟩
  | cons x rest ih =>
    rw [List.map_cons (l := rest), takeRun_cons]
    split
    · next hx =>
      -- The next digest goes on from the last one, and by that from all before it.
      have hlonger : (x :: previous :: earlier).Pairwise (Continues isFalling) := by
        refine List.pairwise_cons.2 ⟨fun y hy => ?_, h⟩
        rcases List.mem_cons.1 hy with rfl | hy
        · exact hx
        · exact hx.trans ((List.pairwise_cons.1 h).1 y hy)
      obtain ⟨run, left, htake, hrun, hperm⟩ := ih x (previous :: earlier) hlonger
      exact ⟨run, left, htake, hrun, hperm.trans List.perm_middle⟩
    · exact ⟨previous :: earlier, x :: rest, rfl, h, List.Perm.refl _⟩

theorem ascending_of_continues (h : run.Pairwise (Continues isFalling)) :
    Ascending (if isFalling then run else run.reverse) := by
  cases isFalling with
  | true => exact h.imp fun hless => (continues_true.1 hless).le
  | false => exact List.pairwise_reverse.2 (h.imp continues_false.1)

theorem perm_of_continues (isFalling : Bool) (run : List Digest) :
    (if isFalling then run else run.reverse).Perm run := by
  split
  · exact List.Perm.refl run
  · exact List.reverse_perm run

end run

/-! ## Sorting -/

theorem inOrder_proper (ds : List Digest) :
    ∃ zs : List Digest, inOrder (ds.map .proper) = .ok (zs.map .proper) ∧ Ascending zs ∧
      zs.Perm ds := by
  match ds with
  | [] => exact ⟨[], rfl, List.Pairwise.nil, List.Perm.refl _⟩
  | [x] => exact ⟨[x], rfl, List.pairwise_singleton _ x, List.Perm.refl _⟩
  | x :: y :: rest =>
    obtain ⟨run, left, htake, hrun, hperm⟩ :=
      takeRun_proper (decide (y.toNat < x.toNat)) y [x] rest (List.pairwise_pair.2 rfl)
    obtain ⟨zs, hinsert, hascending, hall⟩ := insertAll_proper left (ascending_of_continues hrun)
    refine ⟨zs, ?_, hascending, ?_⟩
    · simp only [List.map_cons, List.map_nil] at htake
      rw [apply_ite (List.map proper), List.map_reverse] at hinsert
      rw [List.map_cons, List.map_cons, inOrder, isBefore_proper]
      simp only [bind, Except.bind, htake, hinsert]
    · have hswap : (rest ++ [y, x]).Perm (x :: y :: rest) :=
        List.perm_append_comm.trans (List.Perm.swap x y rest)
      have hturned := (perm_of_continues (decide (y.toNat < x.toNat)) run).append_left left
      exact (hall.trans hturned).trans (hperm.trans hswap)

theorem map_toNat_mergeSort (ds : List Digest) :
    (ds.mergeSort fun a b => decide (a ≤ b)).map toNat = (ds.map toNat).mergeSort :=
  List.map_mergeSort fun _ _ _ _ => decide_eq_decide.2 le_iff

/-- Equal digests are not told apart, so there is one way only to put digests in order. -/
theorem eq_mergeSort_of_ascending {zs ds : List Digest} (h : Ascending zs) (hperm : zs.Perm ds) :
    zs = ds.mergeSort fun a b => decide (a ≤ b) := by
  have hinjective : Function.Injective (List.map toNat) :=
    List.map_injective_iff.2 fun _ _ => toNat_inj.1
  apply hinjective
  rw [map_toNat_mergeSort]
  exact List.Perm.eq_of_pairwise (fun _ _ _ _ => Nat.le_antisymm) (List.pairwise_map.2 h)
    (List.pairwise_mergeSort' (· ≤ ·) _)
    ((hperm.map toNat).trans (List.mergeSort_perm _ _).symm)

theorem sorted_proper (ds : List Digest) :
    sorted (ds.map .proper) = .ok (ds.mergeSort fun a b => decide (a ≤ b)) := by
  rw [sorted, mapM_proper?]

/-! ## Comparisons -/

theorem compared_proper (a b : Digest) :
    compared (.proper a) (.proper b) =
      .ok { Number.compared (.int a.toNat) (.int b.toNat) with hasSameResidue := a = b } := by
  have hcompared : compared (.proper a) (.proper b) = .ok (a.compared b) := rfl
  rw [hcompared, Digest.compared, Number.compared]
  simp only [lt_iff, le_iff, Number.isLess_int, Number.isAtMost_int, Nat.cast_lt, Nat.cast_le,
    Number.compare, Option.some.injEq, Int.compare_eq_eq, Nat.cast_inj, toNat_inj]

end Given

/-! ## Targets -/

theorem Target.meets_digest (d t : Digest) : meets d (.digest t) = .ok (decide (d ≤ t)) := by
  rw [decide_eq_decide.2 Digest.le_iff]
  rfl

theorem Target.meetsGiven_proper (d t : Digest) :
    meetsGiven (.proper d) (.proper t) = .ok (decide (d ≤ t)) := by
  rw [decide_eq_decide.2 Digest.le_iff]
  rfl

namespace Digest

/-- **Digests are ordered as their numbers.**  Each comparison of two digests, which goes byte by
byte, has the answer of the same comparison of their numbers; as things that are handed over the two
compare like whole numbers in all but their residues.  A digest is made from its own number, and the
integers from 0 and below `2 ^ 256` are the numbers of the digests that they make.  Every other
integer that can be written is refused as no hash; the refusal would name the others too, so that
these fail at the limit for writing instead.  Hence a digest meets a target that is a digest exactly
if it is at most that, and sorting digests sorts their numbers, also where it goes by comparisons
alone. -/
theorem ordered_as_numbers (a b : Digest) (n : Int) (ds : List Digest) :
    ((a < b ↔ a.toNat < b.toNat) ∧ (a ≤ b ↔ a.toNat ≤ b.toNat) ∧
      (a > b ↔ a.toNat > b.toNat) ∧ (a ≥ b ↔ a.toNat ≥ b.toNat) ∧ (a = b ↔ a.toNat = b.toNat) ∧
      Given.compared (.proper a) (.proper b) =
        .ok { Number.compared (.int a.toNat) (.int b.toNat) with hasSameResidue := a = b }) ∧
    ofInt a.toNat = .ok a ∧
    (((∃ d, ofInt n = .ok d ∧ (d.toNat : Int) = n) ↔ 0 ≤ n ∧ n < 2 ^ 256) ∧
      (¬ (0 ≤ n ∧ n < 2 ^ 256) → ofInt n =
        if Numeral.isWritable n then
          .error (.fault (.invalidHash s!"Integer out of range for a 256-bit hash: {n}" []))
        else .error (.badValue Numeral.unwritableText))) ∧
    (Target.meets a (.digest b) = .ok (decide (a ≤ b)) ∧
      Target.meetsGiven (.proper a) (.proper b) = .ok (decide (a ≤ b))) ∧
    ∃ sorted : List Digest, Given.sorted (ds.map .proper) = .ok sorted ∧
      sorted.Perm ds ∧ sorted.map toNat = (ds.map toNat).mergeSort ∧
      Given.inOrder (ds.map .proper) = .ok (sorted.map .proper) := by
  refine ⟨⟨lt_iff, le_iff, lt_iff, le_iff, toNat_inj.symm, Given.compared_proper a b⟩,
    a.ofInt_toNat, ⟨?_, fun hrange => ?_⟩, ⟨Target.meets_digest a b, Target.meetsGiven_proper a b⟩,
    ?_⟩
  · constructor
    · rintro ⟨d, -, rfl⟩
      exact ⟨Int.natCast_nonneg _, by exact_mod_cast d.toNat_lt⟩
    · intro hrange
      obtain ⟨m, rfl⟩ := Int.eq_ofNat_of_zero_le hrange.1
      have hle : m ≤ maxNat := (le_maxNat_iff m).2 (by omega)
      exact ⟨ofNat m, ofInt_natCast hle, by rw [toNat_ofNat hle]⟩
  · rw [ofInt_of_not_inRange hrange]
    exact Failure.error_naming n _
  · obtain ⟨zs, hinOrder, hascending, hperm⟩ := Given.inOrder_proper ds
    obtain rfl := Given.eq_mergeSort_of_ascending hascending hperm
    exact ⟨_, Given.sorted_proper ds, hperm, Given.map_toNat_mergeSort ds, hinOrder⟩

/-- The least number that cannot be written is no digest's, and not refused as no hash either. -/
theorem ofInt_unwritable :
    ¬ (0 ≤ Numeral.unwritable ∧ Numeral.unwritable < 2 ^ 256) ∧
      ofInt Numeral.unwritable = .error (.badValue Numeral.unwritableText) ∧
      ¬ ∃ message details,
        ofInt Numeral.unwritable = .error (.fault (.invalidHash message details)) := by
  have hrange : ¬ (0 ≤ Numeral.unwritable ∧ Numeral.unwritable < 2 ^ 256) := by decide +kernel
  have hrefused : ofInt Numeral.unwritable = .error (.badValue Numeral.unwritableText) := by
    rw [ofInt_of_not_inRange hrange, outOfRange,
      Failure.naming_of_not_isWritable Numeral.isWritable_unwritable]
  refine ⟨hrange, hrefused, ?_⟩
  rintro ⟨message, details, hfault⟩
  rw [hrefused] at hfault
  cases hfault

end Digest

end Attest
