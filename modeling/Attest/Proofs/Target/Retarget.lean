import Attest.Proofs.Target.Compact
import Mathlib.Tactic.Ring

/-!
# Runs of adjustments

One adjustment stays within a factor of four and within 256 bits, and is monotone in the
target and the time taken and antitone in the time expected.  A run of adjustments of proper
intervals is refused nowhere, so it is a recursion on numbers (`retargetRun_eq`), along which
these facts add up.  In a run that rounds each target through its code, the order also has to
pass the rounding (`rounded_le_rounded`).
-/

namespace Attest.Target

/-! ## One adjustment -/

theorem adjusted_le_maxNat (old : Nat) (actual : Int) (expected : Nat) :
    adjusted old actual expected ≤ Digest.maxNat :=
  min_le_right _ _

theorem adjusted_le_mul (old : Nat) (actual : Int) (expected : Nat) :
    adjusted old actual expected ≤ 4 * old := by
  have hlimit : adjusted old actual expected ≤ old * 4 :=
    (min_le_left _ _).trans (min_le_right _ _)
  omega

theorem div_le_adjusted {old : Nat} (h : old ≤ Digest.maxNat) (actual : Int) (expected : Nat) :
    old / 4 ≤ adjusted old actual expected := by
  have hfloor : old / 4 ≤ old := Nat.div_le_self old 4
  apply le_min
  · exact le_min (le_max_right _ _) (by show old / 4 ≤ old * 4; omega)
  · exact hfloor.trans h

theorem adjusted_le_adjusted {old old' : Nat} {actual actual' : Int} {expected expected' : Nat}
    (hold : old ≤ old') (hactual : actual ≤ actual') (hpos : 0 < expected')
    (hexpected : expected' ≤ expected) :
    adjusted old actual expected ≤ adjusted old' actual' expected' := by
  have hscaled : old * actual.toNat / expected ≤ old' * actual'.toNat / expected' :=
    Nat.div_le_div (Nat.mul_le_mul hold (Int.toNat_le_toNat hactual)) hexpected (by omega)
  have hquarter : old / adjustmentLimit ≤ old' / adjustmentLimit := Nat.div_le_div_right hold
  have hlimit : old * adjustmentLimit ≤ old' * adjustmentLimit := Nat.mul_le_mul_right _ hold
  exact min_le_min_right _ (min_le_min (max_le_max hscaled hquarter) hlimit)

theorem retarget_of_spells {old : Input} {t : Nat} {actual expected : Int}
    (hold : old.Spells t) (hexpected : 0 < expected) :
    retarget old actual expected = .ok (.ofNat (adjusted t actual expected.toNat)) := by
  rw [retarget, if_neg (not_le.2 hexpected), hold.value]
  rfl

/-! ## Runs on numbers -/

/-- The number that a run goes on with from a target. -/
def carried (viaCompact : Bool) (n : Nat) : Nat :=
  if viaCompact then rounded n else n

/-- The targets of a run as numbers. -/
def targets (viaCompact : Bool) : Nat → List (Int × Int) → List Nat
  | _, [] => []
  | n, (actual, expected) :: rest =>
    let new := adjusted n actual expected.toNat
    new :: targets viaCompact (carried viaCompact new) rest

/-- A target and its code. -/
def entry (n : Nat) : Digest × Nat :=
  (.ofNat n, compactOf n)

theorem carried_le (viaCompact : Bool) (n : Nat) : carried viaCompact n ≤ n := by
  cases viaCompact with
  | false => exact le_rfl
  | true => exact rounded_le n

theorem carried_le_carried (viaCompact : Bool) {m n : Nat} (h : m ≤ n)
    (hn : n ≤ Digest.maxNat) : carried viaCompact m ≤ carried viaCompact n := by
  cases viaCompact with
  | false => exact h
  | true => exact rounded_le_rounded h hn

@[simp] theorem length_targets (viaCompact : Bool) (n : Nat) (intervals : List (Int × Int)) :
    (targets viaCompact n intervals).length = intervals.length := by
  induction intervals generalizing n with
  | nil => rfl
  | cons interval rest ih => rw [targets, List.length_cons, List.length_cons, ih]

theorem ofCompact_compactOf {n : Nat} (h : n ≤ Digest.maxNat) :
    ∃ d, ofCompact (compactOf n) = .ok d ∧ d.toNat = rounded n :=
  ofCompact_of_readable (readable_compactOf h)

/-- One step of a run: its entry, and the run that goes on from what is carried over. -/
theorem retargetRun_cons (viaCompact : Bool) {old : Input} {t : Nat} {actual expected : Int}
    (rest : List (Int × Int)) (hold : old.Spells t) (hexpected : 0 < expected) :
    ∃ d, (Input.digest d).Spells (carried viaCompact (adjusted t actual expected.toNat)) ∧
      retargetRun viaCompact old ((actual, expected) :: rest) =
        (retargetRun viaCompact (.digest d) rest).map
          (entry (adjusted t actual expected.toNat) :: ·) := by
  have hle := adjusted_le_maxNat t actual expected.toNat
  have hstep : retarget old actual expected = _ := retarget_of_spells hold hexpected
  generalize adjusted t actual expected.toNat = new at hle hstep ⊢
  have hspells : (Input.digest (.ofNat new)).Spells new := Digest.toNat_ofNat hle
  -- What is carried over is the new target itself, or what its code is read as.
  cases viaCompact with
  | false =>
    refine ⟨.ofNat new, hspells, ?_⟩
    simp only [retargetRun, hstep, hspells.toCompact, bind, Except.bind, pure, Except.pure,
      Bool.false_eq_true, if_false]
    cases retargetRun false (.digest (.ofNat new)) rest <;> rfl
  | true =>
    obtain ⟨d, hd, hcarried⟩ := ofCompact_compactOf hle
    refine ⟨d, hcarried, ?_⟩
    simp only [retargetRun, hstep, hspells.toCompact, hd, bind, Except.bind, if_true]
    cases retargetRun true (.digest d) rest <;> rfl

/-- A run of proper intervals is refused nowhere. -/
theorem retargetRun_eq (viaCompact : Bool) {old : Input} {t : Nat}
    {intervals : List (Int × Int)} (hold : old.Spells t)
    (hpos : ∀ interval ∈ intervals, 0 < interval.2) :
    retargetRun viaCompact old intervals = .ok ((targets viaCompact t intervals).map entry) := by
  induction intervals generalizing old t with
  | nil => rfl
  | cons interval rest ih =>
    obtain ⟨hexpected, hrest⟩ := List.forall_mem_cons.1 hpos
    obtain ⟨d, hcarried, hrun⟩ := retargetRun_cons viaCompact rest hold hexpected
    exact hrun.trans (by rw [ih hcarried hrest]; rfl)

/-! ## Bounds along a run -/

theorem le_maxNat_of_mem_targets {viaCompact : Bool} {t n : Nat} {intervals : List (Int × Int)}
    (h : n ∈ targets viaCompact t intervals) : n ≤ Digest.maxNat := by
  induction intervals generalizing t with
  | nil => cases h
  | cons interval rest ih =>
    rcases List.mem_cons.1 h with rfl | h
    · exact adjusted_le_maxNat _ _ _
    · exact ih h

/-- Each step multiplies by four at most, and rounding only lowers. -/
theorem le_mul_of_getElem?_targets {viaCompact : Bool} {t k n : Nat}
    {intervals : List (Int × Int)} (h : (targets viaCompact t intervals)[k]? = some n) :
    n ≤ 4 ^ (k + 1) * t := by
  induction intervals generalizing t k with
  | nil => cases h
  | cons interval rest ih =>
    have hstep := adjusted_le_mul t interval.1 interval.2.toNat
    rw [targets] at h
    cases k with
    | zero =>
      obtain rfl : adjusted t interval.1 interval.2.toNat = n := Option.some.inj h
      omega
    | succ k =>
      have hcarried := carried_le viaCompact (adjusted t interval.1 interval.2.toNat)
      calc n ≤ 4 ^ (k + 1) * carried viaCompact (adjusted t interval.1 interval.2.toNat) := ih h
        _ ≤ 4 ^ (k + 1) * (4 * t) := Nat.mul_le_mul_left _ (hcarried.trans hstep)
        _ = 4 ^ (k + 2) * t := by ring

/-- Without rounding each step divides by four at most. -/
theorem div_le_of_getElem?_targets {t k n : Nat} {intervals : List (Int × Int)}
    (ht : t ≤ Digest.maxNat) (h : (targets false t intervals)[k]? = some n) :
    t / 4 ^ (k + 1) ≤ n := by
  induction intervals generalizing t k with
  | nil => cases h
  | cons interval rest ih =>
    have hstep := div_le_adjusted ht interval.1 interval.2.toNat
    rw [targets] at h
    cases k with
    | zero =>
      obtain rfl : adjusted t interval.1 interval.2.toNat = n := Option.some.inj h
      simpa using hstep
    | succ k =>
      calc t / 4 ^ (k + 2) = t / 4 / 4 ^ (k + 1) := by
            rw [Nat.div_div_eq_div_mul, ← Nat.pow_succ']
        _ ≤ adjusted t interval.1 interval.2.toNat / 4 ^ (k + 1) := Nat.div_le_div_right hstep
        _ ≤ n := ih (adjusted_le_maxNat _ _ _) h

/-! ## Two runs -/

/-- The first interval took no longer than the second and was expected to take no less. -/
def NoLonger (first second : Int × Int) : Prop :=
  first.1 ≤ second.1 ∧ second.2 ≤ first.2

/-- The first target is at most the second, and so is what its code stands for. -/
def EntryLe (first second : Digest × Nat) : Prop :=
  first.1.toNat ≤ second.1.toNat ∧
    ∃ d e, ofCompact first.2 = .ok d ∧ ofCompact second.2 = .ok e ∧ d.toNat ≤ e.toNat

theorem entryLe_entry {m n : Nat} (h : m ≤ n) (hn : n ≤ Digest.maxNat) :
    EntryLe (entry m) (entry n) := by
  obtain ⟨d, hd, hdm⟩ := ofCompact_compactOf (h.trans hn)
  obtain ⟨e, he, hen⟩ := ofCompact_compactOf hn
  refine ⟨?_, d, e, hd, he, ?_⟩
  · show (Digest.ofNat m).toNat ≤ (Digest.ofNat n).toNat
    rw [Digest.toNat_ofNat hn, Digest.toNat_ofNat (h.trans hn)]
    exact h
  · rw [hdm, hen]
    exact rounded_le_rounded h hn

theorem forall₂_targets (viaCompact : Bool) {t u : Nat} {intervals intervals' : List (Int × Int)}
    (htu : t ≤ u) (h : List.Forall₂ NoLonger intervals intervals')
    (hpos : ∀ interval ∈ intervals', 0 < interval.2) :
    List.Forall₂ (fun m n => m ≤ n ∧ n ≤ Digest.maxNat)
      (targets viaCompact t intervals) (targets viaCompact u intervals') := by
  induction h generalizing t u with
  | nil => exact .nil
  | @cons first second rest rest' hfirst _ ih =>
    obtain ⟨hsecond, hrest⟩ := List.forall_mem_cons.1 hpos
    have hexpected : second.2.toNat ≤ first.2.toNat := Int.toNat_le_toNat hfirst.2
    have hle := adjusted_le_maxNat u second.1 second.2.toNat
    have hstep := adjusted_le_adjusted htu hfirst.1 (by omega : 0 < second.2.toNat) hexpected
    exact .cons ⟨hstep, hle⟩ (ih (carried_le_carried viaCompact hstep hle) hrest)

/-- **Runs of adjustments.**  From a target `t`, with intervals that were expected to take
some time, every run goes through.  Its target after `k + 1` intervals is at most
`4 ^ (k + 1) * t` and has at most 256 bits; its code is read, as a target that is no larger;
and without rounding it is at least `t / 4 ^ (k + 1)`.  A run of the same mode from a
target that is no smaller, over intervals that took no less and were expected to take no more,
has no smaller targets, before rounding and after. -/
theorem retargetRun_bounded_monotone (viaCompact : Bool) {old : Input} {t : Nat}
    {intervals : List (Int × Int)} (hold : old.Spells t)
    (hpos : ∀ interval ∈ intervals, 0 < interval.2) :
    ∃ run, retargetRun viaCompact old intervals = .ok run ∧ run.length = intervals.length ∧
      (∀ (k : Nat) (target : Digest) (code : Nat), run[k]? = some (target, code) →
        target.toNat ≤ min (2 ^ 256 - 1) (4 ^ (k + 1) * t) ∧
        toCompact (.digest target) = .ok code ∧
        (∃ d, ofCompact code = .ok d ∧ d.toNat ≤ target.toNat) ∧
        (viaCompact = false → t / 4 ^ (k + 1) ≤ target.toNat)) ∧
      ∀ (old' : Input) (u : Nat) (intervals' : List (Int × Int)), old'.Spells u → t ≤ u →
        List.Forall₂ NoLonger intervals intervals' →
        (∀ interval ∈ intervals', 0 < interval.2) →
        ∃ run', retargetRun viaCompact old' intervals' = .ok run' ∧
          List.Forall₂ EntryLe run run' := by
  refine ⟨_, retargetRun_eq viaCompact hold hpos, ?_, ?_, ?_⟩
  · rw [List.length_map, length_targets]
  · intro k target code hentry
    rw [List.getElem?_map, Option.map_eq_some_iff] at hentry
    obtain ⟨n, hn, hentry⟩ := hentry
    obtain ⟨rfl, rfl⟩ := Prod.mk.inj hentry
    have hle : n ≤ Digest.maxNat := le_maxNat_of_mem_targets (List.mem_of_getElem? hn)
    have hspells : (Input.digest (.ofNat n)).Spells n := Digest.toNat_ofNat hle
    rw [Digest.toNat_ofNat hle]
    refine ⟨le_min hle (le_mul_of_getElem?_targets hn), hspells.toCompact, ?_, ?_⟩
    · obtain ⟨d, hd, hrounded⟩ := ofCompact_compactOf hle
      exact ⟨d, hd, hrounded ▸ rounded_le n⟩
    · rintro rfl
      exact div_le_of_getElem?_targets hold.le_maxNat hn
  · intro old' u intervals' hold' htu hlonger hpos'
    refine ⟨_, retargetRun_eq viaCompact hold' hpos', ?_⟩
    rw [List.forall₂_map_left_iff, List.forall₂_map_right_iff]
    exact (forall₂_targets viaCompact htu hlonger hpos').imp fun _ _ h => entryLe_entry h.1 h.2

/-- Two runs that round, one from the genesis target and one from the largest, through an
interval that took no time or less and one that took far too long. -/
theorem retargetRun_bounded_monotone_genesis :
    (Input.number (0xffff * 256 ^ 26)).Spells (0xffff * 256 ^ 26) ∧
      ∃ run run',
        retargetRun true (.number (0xffff * 256 ^ 26)) [(-5, 600), (90000, 601)] = .ok run ∧
        run.length = 2 ∧
        retargetRun true (.digest largest) [(0, 600), (90000, 600)] = .ok run' ∧
        List.Forall₂ EntryLe run run' := by
  have hspells : (Input.number (0xffff * 256 ^ 26)).Spells (0xffff * 256 ^ 26) :=
    ⟨rfl, by decide⟩
  have hpos : ∀ interval ∈ [((-5 : Int), (600 : Int)), (90000, 601)], 0 < interval.2 := by decide
  obtain ⟨run, hrun, hlength, -, hsecond⟩ := retargetRun_bounded_monotone true hspells hpos
  obtain ⟨run', hrun', hle⟩ := hsecond (.digest largest) Digest.maxNat [(0, 600), (90000, 600)]
    (Digest.toNat_ofNat le_rfl) (by decide)
    (.cons ⟨by decide, by decide⟩ (.cons ⟨by decide, by decide⟩ .nil)) (by decide)
  exact ⟨hspells, run, run', hrun, hlength, hrun', hle⟩

end Attest.Target
