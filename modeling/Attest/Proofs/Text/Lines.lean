import Attest.Text.Lines
import Mathlib.Data.List.Basic

/-!
# Lines that are not empty

A text is cut at every character that ends a line, and a carriage return with a line feed behind it
is one end and not two.  Where empty lines do not count this makes no difference: what is left are
the runs of characters between line ends (`filledLines_eq_runs`).  So what is put on one line is
found again in as many pieces as it has runs, whatever stands on the lines around it.
-/

namespace Attest.Text

/-- The runs of characters between the line ends of a text. -/
def runs (cs : List Char) : List (List Char) :=
  (cs.splitOnP isLineEnd).filter fun run => !run.isEmpty

/-- The runs of a text behind a line that has begun, its last character first. -/
def runsBehind (line cs : List Char) : List (List Char) :=
  ((cs.splitOnP isLineEnd).modifyHead (line.reverse ++ ·)).filter fun run => !run.isEmpty

section runs

variable {line cs run : List Char} {c : Char}

theorem isLineEnd_feed : isLineEnd '\n' = true := by decide

theorem isLineEnd_return : isLineEnd '\r' = true := by decide

theorem runs_append_cons (hc : isLineEnd c = true) (a b : List Char) :
    runs (a ++ c :: b) = runs a ++ runs b := by
  rw [runs, List.splitOnP_append_cons a b hc, List.filter_append]
  rfl

theorem runs_cons (hc : isLineEnd c = true) (cs : List Char) : runs (c :: cs) = runs cs :=
  runs_append_cons hc [] cs

theorem runs_of_not_isLineEnd (hne : cs ≠ []) (h : ∀ c ∈ cs, isLineEnd c = false) :
    runs cs = [cs] := by
  rw [runs, List.splitOnP_eq_singleton h]
  simp [hne]

theorem runsBehind_nil (cs : List Char) : runsBehind [] cs = runs cs := by
  rw [runsBehind, ← List.splitOnPPrepend_eq_modifyHead]
  rfl

theorem runsBehind_cons (hc : isLineEnd c = true) (line cs : List Char) :
    runsBehind line (c :: cs) = runsBehind line [] ++ runs cs := by
  rw [runsBehind, ← List.splitOnPPrepend_eq_modifyHead, List.splitOnPPrepend_cons_pos hc,
    runsBehind, runs, ← List.filter_append]
  simp

theorem runsBehind_cons_of_not (hc : isLineEnd c = false) (line cs : List Char) :
    runsBehind line (c :: cs) = runsBehind (c :: line) cs := by
  rw [runsBehind, ← List.splitOnPPrepend_eq_modifyHead, List.splitOnPPrepend_cons_neg hc,
    List.splitOnPPrepend_eq_modifyHead]
  rfl

theorem isLineEnd_of_mem_runsBehind (hline : ∀ c ∈ line, isLineEnd c = false)
    (h : run ∈ runsBehind line cs) : ∀ c ∈ run, isLineEnd c = false := by
  induction cs generalizing line with
  | nil =>
    obtain ⟨rfl, -⟩ : run = line.reverse ∧ _ := by simpa [runsBehind] using h
    simpa using hline
  | cons d cs ih =>
    cases hd : isLineEnd d with
    | false =>
      rw [runsBehind_cons_of_not hd] at h
      exact ih (List.forall_mem_cons.2 ⟨hd, hline⟩) h
    | true =>
      rw [runsBehind_cons hd, List.mem_append] at h
      rcases h with h | h
      · obtain ⟨rfl, -⟩ : run = line.reverse ∧ _ := by simpa [runsBehind] using h
        simpa using hline
      · exact ih (List.forall_mem_nil _) (runsBehind_nil cs ▸ h)

theorem isLineEnd_of_mem_runs (h : run ∈ runs cs) : ∀ c ∈ run, isLineEnd c = false :=
  isLineEnd_of_mem_runsBehind (List.forall_mem_nil _) (runsBehind_nil cs ▸ h)

end runs

/-- A line end behind another one only opens an empty line, so a pair of them needs no care. -/
theorem filter_splitLinesFrom (line cs : List Char) :
    (splitLinesFrom line cs).filter (fun l => !l.isEmpty) = runsBehind line cs := by
  fun_induction splitLinesFrom line cs with
  | case1 line hline => simp [runsBehind, hline]
  | case2 line hline => simp [runsBehind]
  | case3 line rest ih =>
    rw [runsBehind_cons isLineEnd_return, runs_cons isLineEnd_feed, List.filter_cons, ih,
      runsBehind_nil]
    cases line <;> simp [runsBehind]
  | case4 line c rest _ hc ih =>
    rw [runsBehind_cons hc, List.filter_cons, ih, runsBehind_nil]
    cases line <;> simp [runsBehind]
  | case5 line c rest _ hc ih => rw [ih, runsBehind_cons_of_not (Bool.eq_false_iff.2 hc)]

/-- The lines of a text that are not empty are its runs. -/
theorem filledLines_eq_runs (s : String) :
    (splitLines s).filter (fun l => !l.isEmpty) = (runs s.toList).map String.ofList := by
  have hempty : (fun l : String => !l.isEmpty) ∘ String.ofList = fun l => !l.isEmpty := by
    funext l
    cases l <;> simp [String.isEmpty_eq_false_iff]
  rw [splitLines, List.filter_map, hempty, filter_splitLinesFrom, runsBehind_nil]

/-- The runs of texts on one line each are the runs of one text after the other. -/
theorem runs_intercalate (lines : List (List Char)) :
    runs (['\n'].intercalate lines) = lines.flatMap runs := by
  induction lines with
  | nil => rfl
  | cons line lines ih =>
    cases lines with
    | nil => simp
    | cons next lines =>
      rw [List.intercalate_cons_cons, List.append_assoc, List.singleton_append,
        runs_append_cons isLineEnd_feed, ih]
      rfl

theorem runsBehind_normaliseLineEnds (line cs : List Char) :
    runsBehind line (normaliseLineEnds cs) = runsBehind line cs := by
  fun_induction normaliseLineEnds cs generalizing line with
  | case1 => rfl
  | case2 rest ih =>
    have hruns : runs (normaliseLineEnds rest) = runs rest := by
      rw [← runsBehind_nil, ih, runsBehind_nil]
    rw [runsBehind_cons isLineEnd_feed, runsBehind_cons isLineEnd_return,
      runs_cons isLineEnd_feed, hruns]
  | case3 c rest _ ih =>
    have hruns : runs (normaliseLineEnds rest) = runs rest := by
      rw [← runsBehind_nil, ih, runsBehind_nil]
    by_cases hc : c = '\r'
    · rw [if_pos hc, hc, runsBehind_cons isLineEnd_feed, runsBehind_cons isLineEnd_return, hruns]
    · rw [if_neg hc]
      cases hend : isLineEnd c with
      | false => rw [runsBehind_cons_of_not hend, runsBehind_cons_of_not hend, ih]
      | true => rw [runsBehind_cons hend, runsBehind_cons hend, hruns]

/-- All line ends separate runs, so it does not matter which of them are made line feeds. -/
theorem runs_normaliseLineEnds (cs : List Char) : runs (normaliseLineEnds cs) = runs cs := by
  rw [← runsBehind_nil, runsBehind_normaliseLineEnds, runsBehind_nil]

end Attest.Text
