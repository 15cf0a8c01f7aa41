import Attest.Proofs.Text.Utf8
import Attest.World
import Mathlib.Data.List.Basic

/-!
# What a change of a file leaves as it is

A file can stand only where no folder is, so writing one changes neither the folders nor what is at
other places, and paths lead where they led before.  `SameFolders` is this part of a world; all
that is asked of a path in a changed world goes through `locate_eq_ok_iff`.
-/

namespace Attest

namespace World

/-! ## Places -/

/-- The same folders stand in two worlds, and they have the same working folder. -/
structure SameFolders (w u : World) : Prop where
  folder : u.folder = w.folder
  entries : ∀ place, u.entryAt? place = some .folder ↔ w.entryAt? place = some .folder

section folders

variable {w u v : World}

theorem SameFolders.refl (w : World) : SameFolders w w :=
  ⟨rfl, fun _ => Iff.rfl⟩

theorem SameFolders.trans (h : SameFolders w u) (h' : SameFolders u v) : SameFolders w v :=
  ⟨h'.folder.trans h.folder, fun place => (h'.entries place).trans (h.entries place)⟩

theorem follow_cons_eq_ok_iff {place goal : Place} {part : String} {rest : List String} :
    w.follow place (part :: rest) = .ok goal ↔ w.entryAt? place = some .folder ∧
      part.utf8ByteSize ≤ longestPart ∧
      w.follow (if part = ".." then place.dropLast else place ++ [part]) rest = .ok goal := by
  rw [follow]
  split
  · next hentry => simp [hentry]
  · next hentry => simp [hentry]
  · next hentry =>
    by_cases hsize : longestPart < part.utf8ByteSize
    · rw [if_pos hsize]
      simp [Nat.not_le.2 hsize]
    · rw [if_neg hsize, ← apply_ite (fun p => w.follow p rest)]
      simp [hentry, Nat.not_lt.1 hsize]

theorem SameFolders.follow_eq_ok_iff (h : SameFolders w u) {place goal : Place}
    {parts : List String} : u.follow place parts = .ok goal ↔ w.follow place parts = .ok goal := by
  induction parts generalizing place with
  | nil => rfl
  | cons part rest ih => rw [follow_cons_eq_ok_iff, follow_cons_eq_ok_iff, h.entries, ih]

theorem SameFolders.locate_eq_ok_iff (h : SameFolders w u) {path : String} {place : Place} :
    u.locate path = .ok place ↔ w.locate path = .ok place := by
  rw [locate, locate, h.folder]
  split
  · rfl
  · split
    · exact h.follow_eq_ok_iff
    · split
      · rfl
      · exact h.follow_eq_ok_iff

end folders

/-! ## Files -/

/-- All that a change of other files leaves as it is: the folders, and what stands at a place. -/
structure Keeps (place : Place) (w u : World) : Prop where
  folders : SameFolders w u
  entry : u.entryAt? place = w.entryAt? place

theorem Keeps.refl (place : Place) (w : World) : Keeps place w w :=
  ⟨.refl w, rfl⟩

section files

variable {w : World} {place other : Place} {content : Bytes}

theorem lookup_filter_ne (h : other ≠ place) (entries : List (Place × Entry)) :
    List.lookup other (entries.filter (·.1 ≠ place)) = List.lookup other entries := by
  induction entries with
  | nil => rfl
  | cons entry entries ih =>
    by_cases hplace : entry.1 = place
    · have hne : (other == entry.1) = false := by simpa [hplace] using h
      rw [List.filter_cons_of_neg (by simpa using hplace), ih, List.lookup_cons, hne]
    · rw [List.filter_cons_of_pos (by simpa using hplace), List.lookup_cons, List.lookup_cons, ih]

theorem entryAt?_put_of_ne (h : other ≠ place) (entry : Entry) :
    (w.put place entry).entryAt? other = w.entryAt? other := by
  have hne : (other == place) = false := by simpa using h
  simp only [entryAt?, put, List.lookup_cons, hne, lookup_filter_ne h]

theorem entryAt?_put_self (h : w.entryAt? place ≠ some .folder) (entry : Entry) :
    (w.put place entry).entryAt? place = some entry := by
  -- Above the working folder and that of the user there are folders whatever the entries say.
  have hkept : (place.isPrefixOf (placeOf w.folder) ||
      place.isPrefixOf (placeOf w.home)) = false := by
    rw [Bool.eq_false_iff]
    intro hprefix
    exact h (by rw [entryAt?, if_pos hprefix])
  simp only [entryAt?, put, hkept, Bool.false_eq_true, if_false, List.lookup_cons, beq_self_eq_true]

theorem sameFolders_put (h : w.entryAt? place ≠ some .folder) (content : Bytes) :
    SameFolders w (w.put place (.file content)) := by
  refine ⟨rfl, fun other => ?_⟩
  by_cases hplace : other = place
  · rw [hplace, entryAt?_put_self h]
    simp [h]
  · rw [entryAt?_put_of_ne hplace]

theorem keeps_put (h : w.entryAt? place ≠ some .folder) (hother : other ≠ place)
    (content : Bytes) : Keeps other w (w.put place (.file content)) :=
  ⟨sameFolders_put h content, entryAt?_put_of_ne hother _⟩

/-- A path that leads to a place where a file stands or may be made. -/
structure Writable (w : World) (path : String) (place : Place) : Prop where
  isPath : Host.noPath? path = none
  leads : w.locate path = .ok place
  free : w.entryAt? place ≠ some .folder

theorem change_eq_ok_iff {path : String} {f : Bytes → Bytes} {u : World} :
    w.change path f = .ok u ↔ ∃ place, w.locate path = .ok place ∧
    ((∃ content, w.entryAt? place = some (.file content) ∧
        u = w.put place (.file (f content))) ∨
      w.entryAt? place = none ∧ u = w.put place (.file (f []))) := by
  rw [change]
  cases w.locate path with
  | error problem => simp [bind, Except.bind]
  | ok place =>
    simp only [bind, Except.bind, Except.ok.injEq, exists_eq_left']
    cases hentry : w.entryAt? place with
    | none => simp [pure, Except.pure, eq_comm]
    | some entry =>
      cases entry with
      | folder => simp [throw, throwThe, MonadExceptOf.throw]
      | file content => simp [pure, Except.pure, eq_comm]

/-- Changing a file ends with a file at the place that its path leads to, or with a problem. -/
theorem change_eq_ok {path : String} {f : Bytes → Bytes} {u : World}
    (h : w.change path f = .ok u) : ∃ place content, w.locate path = .ok place ∧
      w.entryAt? place ≠ some .folder ∧ u = w.put place (.file content) := by
  obtain ⟨place, hplace, ⟨content, hentry, rfl⟩ | ⟨hentry, rfl⟩⟩ := change_eq_ok_iff.1 h
  · exact ⟨place, f content, hplace, by simp [hentry], rfl⟩
  · exact ⟨place, f [], hplace, by simp [hentry], rfl⟩

/-- Changing a file of the host leaves it as it is or changed. -/
theorem update_cases (path : String) (f : Bytes → Bytes) (w : World) :
    ((update path f).run w).2 = w ∨ w.change path f = .ok ((update path f).run w).2 := by
  cases hchange : w.change path f with
  | error problem =>
    left
    simp only [update, StateT.run, hchange]
  | ok u =>
    right
    simp only [update, StateT.run, hchange]

theorem keeps_update {path : String} {f : Bytes → Bytes} (h : w.locate path ≠ .ok other) :
    Keeps other w ((update path f).run w).2 := by
  rcases update_cases path f w with hsame | hchange
  · rw [hsame]
    exact .refl other w
  · obtain ⟨place, content, hplace, hfree, hnext⟩ := change_eq_ok hchange
    -- The path leads to the place that is written, so that is not the other one.
    rw [hnext]
    refine keeps_put hfree ?_ content
    rintro rfl
    exact h hplace

theorem read_eq_ok_iff {path : String} :
    w.read path = .ok content ↔
      ∃ place, w.locate path = .ok place ∧ w.entryAt? place = some (.file content) := by
  rw [read]
  cases w.locate path with
  | error problem => simp [bind, Except.bind]
  | ok place =>
    cases hentry : w.entryAt? place with
    | none => simp [bind, Except.bind, hentry, throw, throwThe, MonadExceptOf.throw]
    | some entry =>
      cases entry with
      | folder => simp [bind, Except.bind, hentry, throw, throwThe, MonadExceptOf.throw]
      | file old => simp [bind, Except.bind, hentry, pure, Except.pure]

theorem Writable.keep {path : String} {u : World} (h : w.Writable path place)
    (hkeeps : Keeps place w u) : u.Writable path place :=
  ⟨h.isPath, hkeeps.folders.locate_eq_ok_iff.2 h.leads, hkeeps.entry ▸ h.free⟩

theorem Writable.read_put {path : String} {u : World} (h : w.Writable path place)
    (hkeeps : Keeps place (w.put place (.file content)) u) : u.read path = .ok content := by
  have hplace : u.locate path = .ok place :=
    ((sameFolders_put h.free content).trans hkeeps.folders).locate_eq_ok_iff.2 h.leads
  have hentry : u.entryAt? place = some (.file content) := by
    rw [hkeeps.entry, entryAt?_put_self h.free]
  exact read_eq_ok_iff.2 ⟨place, hplace, hentry⟩

theorem Writable.change_eq {path : String} (h : w.Writable path place) :
    w.change path (fun _ => content) = .ok (w.put place (.file content)) := by
  have hfree := h.free
  rw [change, h.leads]
  simp only [bind, Except.bind]
  cases hentry : w.entryAt? place with
  | none => rfl
  | some entry =>
    cases entry with
    | folder => exact absurd hentry hfree
    | file old => rfl

theorem isThere_of_read {path : String} (h : w.read path = .ok content) :
    w.isThere path = .ok true := by
  obtain ⟨place, hplace, hentry⟩ := read_eq_ok_iff.1 h
  rw [isThere, hplace]
  simp only [hentry, Option.isSome_some]

end files

/-- A world with nothing but the folders of its user. -/
def empty : World where
  folder := some "/work"
  home := some "/home/user"
  entries := []
  time := 0
  entropy := []

end World

/-! ## Operations -/

section runs

variable {α β : Type} {x : ExceptT Failure (StateM World) α} {a : α} {e : Failure} {w u v : World}

/-- An operation has a result in a world and leaves a world behind. -/
def Runs (x : ExceptT Failure (StateM World) α) (w : World) (r : Except Failure α) (u : World) :
    Prop :=
  x.run.run w = (r, u)

theorem exists_runs (x : ExceptT Failure (StateM World) α) (w : World) : ∃ r u, Runs x w r u :=
  ⟨(x.run.run w).1, (x.run.run w).2, rfl⟩

theorem Runs.unique {r r' : Except Failure α} (h : Runs x w r u) (h' : Runs x w r' v) : r = r' :=
  congrArg Prod.fst (h.symm.trans h')

theorem Runs.pure (a : α) (w : World) : Runs (pure a) w (.ok a) w := rfl

theorem Runs.throw (e : Failure) (w : World) :
    Runs (throw e : ExceptT Failure (StateM World) α) w (.error e) w := rfl

theorem Runs.lift (y : Except Failure α) (w : World) : Runs (liftM y) w y w := by
  cases y <;> rfl

theorem Runs.bind_ok {f : α → ExceptT Failure (StateM World) β} {r : Except Failure β}
    (hx : Runs x w (.ok a) u) (hf : Runs (f a) u r v) : Runs (x >>= f) w r v := by
  unfold Runs at hx hf ⊢
  rw [ExceptT.run_bind, StateT.run_bind, hx]
  exact hf

theorem Runs.bind_error {f : α → ExceptT Failure (StateM World) β}
    (hx : Runs x w (.error e) u) : Runs (x >>= f) w (.error e) u := by
  unfold Runs at hx ⊢
  rw [ExceptT.run_bind, StateT.run_bind, hx]
  rfl

theorem Runs.map {r : Except Failure α} (f : α → β) (h : Runs x w r u) :
    Runs (f <$> x) w (r.map f) u := by
  unfold Runs at h ⊢
  rw [ExceptT.run_map, StateT.run_map, h]
  rfl

theorem runs_atPath {path : String} {y : StateM World (Except FileProblem α)}
    {r : Except FileProblem α} (hpath : Host.noPath? path = none) (h : y.run w = (r, u)) :
    Runs (Host.atPath path y) w (Host.located path r) u := by
  simp only [Host.atPath, hpath]
  show (Host.located path (y.run w).1, (y.run w).2) = _
  rw [h]

end runs

namespace Host

section files

variable {path content : String} {w : World} {place : Place}

theorem runs_writeText (h : w.Writable path place) :
    Runs (writeText path content) w (.ok ())
      (w.put place (.file (Bytes.ofText content))) := by
  have hupdate : (World.update path fun _ => Bytes.ofText content).run w =
      (.ok (), w.put place (.file (Bytes.ofText content))) := by
    simp only [World.update, StateT.run, h.change_eq]
  exact runs_atPath h.isPath hupdate

theorem runs_doesExist (hpath : noPath? path = none) {there : Bool}
    (h : w.isThere path = .ok there) : Runs (doesExist path) w (.ok there) w := by
  have hthere : (Host.isThere path : StateM World (Except FileProblem Bool)).run w =
      (.ok there, w) := by
    rw [← h]
    rfl
  rw [doesExist, if_pos (by rw [hpath]; rfl)]
  exact runs_atPath hpath hthere

theorem runs_readText (hpath : noPath? path = none)
    (h : w.read path = .ok (Bytes.ofText content)) :
    Runs (readText path) w
      (.ok (String.ofList (Text.normaliseLineEnds content.toList))) w := by
  have hread : (Host.read path : StateM World (Except FileProblem Bytes)).run w =
      (.ok (Bytes.ofText content), w) := by
    rw [← h]
    rfl
  refine (runs_atPath hpath hread).bind_ok ?_
  rw [Utf8.decode_ofText]
  exact .pure _ w

end files

section folders

variable {w : World} {folder home : String}

theorem runs_folder (w : World) :
    Runs (liftM (Host.folder : StateM World (Option String))) w (.ok w.folder) w :=
  rfl

theorem runs_home (w : World) :
    Runs (liftM (Host.home : StateM World (Option String))) w (.ok w.home) w :=
  rfl

theorem runs_workingFolder (h : w.folder = some folder) :
    Runs workingFolder w (.ok folder) w := by
  have hfolder := runs_folder w
  rw [h] at hfolder
  exact hfolder.bind_ok (.pure folder w)

theorem runs_workingFolder_of_none (h : w.folder = none) :
    Runs workingFolder w (.error .noFolder) w := by
  have hfolder := runs_folder w
  rw [h] at hfolder
  exact hfolder.bind_ok (.throw .noFolder w)

theorem runs_homeFolder (h : w.home = some home) : Runs homeFolder w (.ok home) w := by
  have hhome := runs_home w
  rw [h] at hhome
  exact hhome.bind_ok (.pure home w)

theorem runs_homeFolder_of_none (h : w.home = none) :
    Runs homeFolder w (.error .noHome) w := by
  have hhome := runs_home w
  rw [h] at hhome
  exact hhome.bind_ok (.throw .noHome w)

end folders

end Host

end Attest
