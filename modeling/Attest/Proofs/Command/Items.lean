import Attest.Proofs.Command.Merkle
import Attest.Proofs.Text.Lines

/-!
# Items from a file

The items of a command are its arguments, or the lines of a file that are not empty.  A line of a
file ends at more characters than the line feed, and an argument ends at none of them: an item on a
line of its own comes back from the file in as many pieces as it has between its line ends
(`exec_loadItems_file`).  So the two ways to name items agree on exactly those without a line end,
as long as the arguments have bytes at all.
-/

namespace Attest.Command

open Journal

/-- The pieces of an item between its line ends. -/
def pieces (s : String) : List String :=
  (Text.runs s.toList).map String.ofList

section pieces

variable {items lines : List String} {s : String}

theorem isLineEnd_of_mem_pieces {t : String} (h : t ∈ pieces s) :
    ∀ c ∈ t.toList, Text.isLineEnd c = false := by
  obtain ⟨run, hrun, rfl⟩ := List.mem_map.1 h
  rw [String.toList_ofList]
  exact Text.isLineEnd_of_mem_runs hrun

theorem pieces_of_not_isLineEnd (hne : s ≠ "") (h : ∀ c ∈ s.toList, Text.isLineEnd c = false) :
    pieces s = [s] := by
  have hne' : s.toList ≠ [] := by simpa using hne
  rw [pieces, Text.runs_of_not_isLineEnd hne' h, List.map_singleton, String.ofList_toList]

theorem flatMap_pieces_filter (lines : List String) :
    (lines.filter fun l => !l.isEmpty).flatMap pieces = lines.flatMap pieces := by
  induction lines with
  | nil => rfl
  | cons line lines ih =>
    by_cases hline : line = ""
    · subst hline
      exact ih
    · rw [List.filter_cons_of_pos (by simpa using hline), List.flatMap_cons, List.flatMap_cons, ih]

theorem flatMap_pieces_eq_self_iff (hne : ∀ s ∈ items, s ≠ "") :
    items.flatMap pieces = items ↔ ∀ s ∈ items, ∀ c ∈ s.toList, Text.isLineEnd c = false := by
  constructor
  · intro h s hs
    rw [← h] at hs
    obtain ⟨t, -, hpiece⟩ := List.mem_flatMap.1 hs
    exact isLineEnd_of_mem_pieces hpiece
  · intro h
    calc items.flatMap pieces = items.flatMap fun s => [s] :=
          List.flatMap_congr fun s hs => pieces_of_not_isLineEnd (hne s hs) (h s hs)
      _ = items := List.flatMap_singleton' items

/-- The items of a file are the pieces of its lines, whichever line ends are made line feeds. -/
theorem itemsOfText_lines (lines : List String) :
    itemsOfText (String.ofList (Text.normaliseLineEnds ("\n".intercalate lines).toList)) =
      (lines.flatMap pieces).map Bytes.ofText := by
  have hfeed : "\n".toList = ['\n'] := rfl
  rw [itemsOfText, Text.filledLines_eq_runs, String.toList_ofList, Text.runs_normaliseLineEnds,
    String.toList_intercalate, hfeed, Text.runs_intercalate, List.flatMap_map, List.map_flatMap]
  rfl

theorem ofText_injective : Function.Injective Bytes.ofText := by
  intro s t h
  have hdecoded := Utf8.decode_ofText s
  rw [h, Utf8.decode_ofText, Except.ok.injEq] at hdecoded
  exact (String.toList_inj.1 hdecoded).symm

end pieces

section files

variable {items lines given : List String} {file text : String} {log : Log} {w : World}

theorem exec_loadItems_file (hne : file ≠ "")
    (hpath : Host.noPath? (Path.normalise file) = none)
    (hread : w.read (Path.normalise file) = .ok (Bytes.ofText ("\n".intercalate lines))) :
    exec (loadItems given (some file)) log text w =
      ((.ok ((lines.flatMap pieces).map Bytes.ofText), text), w) := by
  have hcontent : exec (onHost (Host.readText (Path.normalise file))) log text w =
      ((.ok (String.ofList (Text.normaliseLineEnds ("\n".intercalate lines).toList)), text), w) :=
    exec_onHost (Host.runs_readText hpath hread)
  rw [loadItems, givenPath?_of_ne hne]
  dsimp only
  rw [exec_bind_of_ok hcontent, itemsOfText_lines]
  rfl

end files

/-- A world with a file of items. -/
def itemsWorld (text : String) : World :=
  { World.empty with entries := [(["work", "items.txt"], .file (Bytes.ofText text))] }

end Attest.Command
