import Attest.Proofs.Preferences.Environment
import Attest.Proofs.Program

/-!
# What a command starts from

A command is carried out once the preferences are loaded and the log is open.  Opening the log may
leave an empty file where nothing stood, and nothing else (`World.Opened`); a run is then what its
command comes to in the world that is left (`exists_run_of_load`).
-/

namespace Attest

/-! ## Worlds with a log -/

namespace World

/-- All that opening a log changes: where nothing stood there may be an empty file. -/
structure Opened (w u : World) : Prop where
  folders : SameFolders w u
  entries : ∀ place, u.entryAt? place = w.entryAt? place ∨
    w.entryAt? place = none ∧ u.entryAt? place = some (.file [])

section opened

variable {w u v : World} {path : String} {f : Bytes → Bytes}

theorem Opened.refl (w : World) : Opened w w :=
  ⟨.refl w, fun _ => .inl rfl⟩

theorem Opened.trans (h : Opened w u) (h' : Opened u v) : Opened w v := by
  refine ⟨h.folders.trans h'.folders, fun place => ?_⟩
  rcases h'.entries place with hsame | ⟨hnone, hempty⟩
  · rw [hsame]
    exact h.entries place
  · -- Nothing stands there in the second world, so nothing stood there in the first.
    rcases h.entries place with hsame | ⟨-, hfile⟩
    · exact .inr ⟨hsame ▸ hnone, hempty⟩
    · rw [hnone] at hfile
      cases hfile

theorem opened_put {place : Place} {content : Bytes}
    (hentry : w.entryAt? place = some (.file content) ∨
      w.entryAt? place = none ∧ content = []) : Opened w (w.put place (.file content)) := by
  have hfree : w.entryAt? place ≠ some .folder := by
    rcases hentry with hentry | ⟨hentry, -⟩ <;> simp [hentry]
  refine ⟨sameFolders_put hfree content, fun other => ?_⟩
  by_cases hother : other = place
  · subst hother
    rw [entryAt?_put_self hfree]
    rcases hentry with hentry | ⟨hentry, rfl⟩
    · exact .inl hentry.symm
    · exact .inr ⟨hentry, rfl⟩
  · exact .inl (entryAt?_put_of_ne hother _)

theorem opened_of_change (hf : ∀ content, f content = content) (h : w.change path f = .ok u) :
    Opened w u := by
  obtain ⟨place, -, ⟨content, hentry, rfl⟩ | ⟨hentry, rfl⟩⟩ := change_eq_ok_iff.1 h
  · rw [hf]
    exact opened_put (.inl hentry)
  · rw [hf]
    exact opened_put (.inr ⟨hentry, rfl⟩)

theorem opened_update (hf : ∀ content, f content = content) (path : String) (w : World) :
    Opened w ((update path f).run w).2 := by
  rcases update_cases path f w with hsame | hchange
  · rw [hsame]
    exact .refl w
  · exact opened_of_change hf hchange

end opened

end World

/-! ## Opening the log -/

section opens

variable {α β : Type}

/-- An operation changes no more of a world than opening a log does. -/
def Opens (x : ExceptT Failure (StateM World) α) : Prop :=
  ∀ w r u, Runs x w r u → World.Opened w u

theorem Opens.of_runs {x : ExceptT Failure (StateM World) α} {f : World → Except Failure α}
    (h : ∀ w, Runs x w (f w) w) : Opens x := by
  intro w r u hrun
  cases (h w).symm.trans hrun
  exact .refl w

theorem Opens.bind {x : ExceptT Failure (StateM World) α}
    {f : α → ExceptT Failure (StateM World) β} (hx : Opens x) (hf : ∀ a, Opens (f a)) :
    Opens (x >>= f) := by
  intro w r v h
  obtain ⟨r₁, u, hrun⟩ := exists_runs x w
  cases r₁ with
  | error e =>
    cases hrun.bind_error.symm.trans h
    exact hx w _ _ hrun
  | ok a =>
    obtain ⟨r₂, v₂, hnext⟩ := exists_runs (f a) u
    cases (hrun.bind_ok hnext).symm.trans h
    exact (hx w _ u hrun).trans (hf a u _ _ hnext)

theorem Opens.pure (a : α) : Opens (pure a : ExceptT Failure (StateM World) α) :=
  .of_runs (Runs.pure a)

theorem Opens.lift (y : Except Failure α) :
    Opens (liftM y : ExceptT Failure (StateM World) α) :=
  .of_runs (Runs.lift y)

theorem opens_appendText (path : String) :
    Opens (Host.appendText path "" : ExceptT Failure (StateM World) Unit) := by
  have hempty : Bytes.ofText "" = [] := by decide +kernel
  intro w r u h
  unfold Host.appendText Host.atPath at h
  split at h
  · cases h
    exact World.opened_update (fun content => by rw [hempty, List.append_nil]) path w
  · cases h
    exact .refl w

/-- Asking for the working folder changes nothing, whether or not there is one. -/
theorem opens_workingFolder :
    Opens (Host.workingFolder : ExceptT Failure (StateM World) String) := by
  intro w r u h
  cases hfolder : w.folder with
  | some folder =>
    cases (Host.runs_workingFolder hfolder).symm.trans h
    exact .refl w
  | none =>
    cases (Host.runs_workingFolder_of_none hfolder).symm.trans h
    exact .refl w

theorem opens_openFile (path : String) :
    Opens (Journal.openFile path : ExceptT Failure (StateM World) String) := by
  have hrooted : Opens (Journal.rooted path : ExceptT Failure (StateM World) String) := by
    unfold Journal.rooted
    split
    · exact .pure _
    · exact opens_workingFolder.bind fun _ => .pure _
  exact hrooted.bind fun _ => (opens_appendText _).bind fun _ => .pure _

theorem opens_start (level : String) (file : Value) :
    Opens (Journal.start level file : ExceptT Failure (StateM World) Journal.Log) := by
  have hlog : ∀ kept, Opens (do
      return { threshold := ← Journal.thresholdOf level, file := kept } :
      ExceptT Failure (StateM World) Journal.Log) :=
    fun kept => (Opens.lift _).bind fun _ => .pure _
  unfold Journal.start
  refine (Opens.lift _).bind fun name => ?_
  cases name with
  | none => exact (Opens.pure none).bind hlog
  | some path =>
    have hopen : Opens (some <$> Journal.openFile path) := by
      rw [map_eq_pure_bind]
      exact (opens_openFile path).bind fun _ => .pure _
    exact hopen.bind hlog

theorem opens_startLog (i : Invocation) (p : Preferences) :
    Opens (i.startLog p : ExceptT Failure (StateM World) (String × Journal.Log)) := by
  unfold Invocation.startLog
  cases i.logLevel with
  | some level => exact (Opens.pure level).bind fun _ => (opens_start _ _).bind fun _ => .pure _
  | none => exact (Opens.lift _).bind fun _ => (opens_start _ _).bind fun _ => .pure _

end opens

/-! ## Carrying out the command -/

/-- The exit code of a command that has ended or failed. -/
def exitCode : Except Failure Reply → Nat
  | .ok r => r.code
  | .error _ => 1

theorem result_ofCommand (level lines : String) (x : Except Failure Reply) :
    (Outcome.ofCommand level lines x).result = .ok (exitCode x) := by
  cases x <;> rfl

section runs

variable (scheme : SignatureScheme) {env : Environment} {args : List String} {w : World}
  {i : Invocation} {p : Preferences}

/-- A run whose preferences are loaded lets a failure of the log through, or returns the code of
its command in a world with a log. -/
theorem exists_run_of_load (hparse : Invocation.parse args = .ok (some i))
    (hload : Runs (Preferences.load i.config env) w (.ok p) w) :
    ∃ o u, (runProgram scheme env args : StateM World Outcome).run w = (o, u) ∧
      (∀ e, o.result = .error e ↔ LogFails i.logLevel p w e) ∧
      ∀ code, o.result = .ok code → ∃ level log v x lines, World.Opened w v ∧
        Command.exec (i.command.run scheme p) log "" v = ((x, lines), u) ∧
        o = .ofCommand level lines x ∧ code = exitCode x := by
  have hrun : (runProgram scheme env args : StateM World Outcome).run w =
      (i.runUnder scheme p : StateM World Outcome).run w := by
    rw [runProgram, hparse]
    exact run_of_load hload
  rw [hrun]
  obtain ⟨r, v, hlog, hiff⟩ := exists_runs_startLog i p w
  have hopened := opens_startLog i p w r v hlog
  cases r with
  | error e =>
    refine ⟨.escaped e, v, runUnder_of_error hlog, fun e' => ?_, fun code hcode => by cases hcode⟩
    rw [← hiff e', Outcome.escaped, Except.error.injEq, Except.error.injEq]
  | ok opened =>
    obtain ⟨level, log⟩ := opened
    rcases hexec : Command.exec (i.command.run scheme p) log "" v with ⟨⟨x, lines⟩, u⟩
    refine ⟨.ofCommand level lines x, u, runUnder_of_ok hlog hexec, fun e => ?_,
      fun code hcode => ?_⟩
    · rw [← hiff e, result_ofCommand]
      simp
    · rw [result_ofCommand, Except.ok.injEq] at hcode
      exact ⟨level, log, v, x, lines, hopened, hexec, rfl, hcode.symm⟩

end runs

/-! ## Told arguments and the usual preferences -/

/-- What is found of an invocation by looking at it holds of the one that arguments are read as. -/
theorem exists_invocation_of_any {args : List String} {f : Invocation → Bool}
    (h : (Invocation.parse args).toOption.join.any f = true) :
    ∃ i, Invocation.parse args = .ok (some i) ∧ f i = true := by
  rcases hparse : Invocation.parse args with stop | _ | i
  · rw [hparse] at h
    cases h
  · rw [hparse] at h
    cases h
  · rw [hparse] at h
    exact ⟨i, rfl, h⟩

/-- Where no file of preferences is, the environment alone makes them. -/
theorem runs_load_of_absent {w : World} {folder home : String} {p : Preferences}
    {env : Environment} (hfolder : w.folder = some folder) (hhome : w.home = some home)
    (habsent : ∀ path ∈ Preferences.usualPaths folder home,
      Runs (Host.doesExist path) w (.ok false) w)
    (hp : Preferences.default.override env = .ok p) :
    Runs (Preferences.load none env) w (.ok p) w := by
  have hfiles : Preferences.FileSays w (Preferences.pathsFor w none) (.ok .default) := by
    rw [Preferences.pathsFor_none hfolder hhome]
    exact .later (habsent _ (by simp [Preferences.usualPaths]))
      (.later (habsent _ (by simp [Preferences.usualPaths]))
        (.later (habsent _ (by simp [Preferences.usualPaths])) .nothing))
  have hfolders := Preferences.not_lacksFolder hfolder hhome
  rw [← hp]
  exact (Preferences.reads_ofFiles hfiles hfolders).bind_ok (.lift _ w)

theorem doesNotExist_of_isThere {w : World} {paths : List String}
    (h : ∀ path ∈ paths, Host.noPath? path = none ∧ w.isThere path = .ok false) :
    ∀ path ∈ paths, Runs (Host.doesExist path) w (.ok false) w :=
  fun path hpath => Host.runs_doesExist (h path hpath).1 (h path hpath).2

/-- The usual log is opened in every world. -/
theorem not_logFails_default (w : World) (e : Failure) : ¬ LogFails none .default w e := by
  intro h
  cases h with
  | notText _ htext => exact htext "INFO" rfl
  | file _ hfile => cases hfile.isGiven
  | level hlevel _ hname =>
    obtain hlevel | ⟨-, hlevel⟩ := hlevel
    · cases hlevel
    · cases hlevel
      cases hname with
      | format hname => exact absurd hname (by decide +kernel)
      | styles hname => exact absurd hname (by decide +kernel)

end Attest
