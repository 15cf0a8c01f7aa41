import Attest.Program
import Attest.Proofs.Command.Codes
import Attest.Proofs.Preferences

/-!
# How a run ends

A run loads the preferences, opens the log and carries out its command.  Failures of the first are
caught if they concern a file or a value, those of the second are not, and those of the third are
caught whatever they are.  So each stage has a relation of the failures that it lets through
(`Unloadable`, `LogFails`), and a run lets through exactly these (`LetsThrough`).
-/

namespace Attest

/-! ## The log -/

namespace Journal

/-- Why no log can be opened that is kept in a file: the file is named by something else than a
text, or it cannot be opened. -/
inductive FileFails (file : Value) (w : World) : Failure → Prop where
  | notPath (hgiven : file.isGiven = true) (htext : ∀ s, file ≠ .text s) :
      FileFails file w (.notPath file.kind)
  | notOpened {path : String} {e : Failure} {u : World} (hpath : file = .text path)
      (hne : path ≠ "")
      (hopen : Runs (openFile path) w (.error e) u) : FileFails file w e

/-- Why no log can be opened under a name of a level: the name is that of something else. -/
inductive LevelFails (level : String) : Failure → Prop where
  | format (hname : upper level = "BASIC_FORMAT") :
      LevelFails level (.badValue "Unknown level: '%(levelname)s:%(name)s:%(message)s'")
  | styles (hname : upper level = "_STYLES") :
      LevelFails level (.badType ("Level not an integer or a valid string: " ++ styles))

theorem thresholdOf_eq_error_iff {level : String} {e : Failure} :
    thresholdOf level = .error e ↔ LevelFails level e := by
  constructor
  · intro h
    unfold thresholdOf at h
    split at h
    case h_9 hname =>
      cases h
      exact .format hname
    case h_10 hname =>
      cases h
      exact .styles hname
    all_goals cases h
  · intro h
    cases h with
    | format hname => simp only [thresholdOf, hname]
    | styles hname => simp only [thresholdOf, hname]

section start

variable {level path : String} {file : Value} {e : Failure} {w u : World}

theorem runs_threshold (level : String) (kept : Option String) (w : World) :
    Runs (do return { threshold := ← thresholdOf level, file := kept }) w
      ((thresholdOf level).map fun t => Log.mk t kept) w := by
  cases thresholdOf level <;> rfl

theorem runs_start_of_error (h : fileName file = .error e) :
    Runs (start level file) w (.error e) w := by
  rw [start, h]
  exact (Runs.lift (.error e) w).bind_error

theorem runs_start_of_none (h : fileName file = .ok none) :
    Runs (start level file) w ((thresholdOf level).map fun t => ⟨t, none⟩) w := by
  rw [start, h]
  exact (Runs.lift (.ok none) w).bind_ok ((Runs.pure none w).bind_ok (runs_threshold level none w))

theorem runs_start_of_some {kept : String} (h : fileName file = .ok (some path))
    (hopen : Runs (openFile path) w (.ok kept) u) :
    Runs (start level file) w ((thresholdOf level).map fun t => ⟨t, some kept⟩) u := by
  rw [start, h]
  refine (Runs.lift (.ok (some path)) w).bind_ok ?_
  exact (hopen.map some).bind_ok (runs_threshold level (some kept) u)

theorem runs_start_of_not_opened (h : fileName file = .ok (some path))
    (hopen : Runs (openFile path) w (.error e) u) :
    Runs (start level file) w (.error e) u := by
  rw [start, h]
  refine (Runs.lift (.ok (some path)) w).bind_ok ?_
  exact (hopen.map some).bind_error

/-- A file of a log is not given, or given by a text, or by something else. -/
theorem fileName_cases (file : Value) :
    file.isGiven = false ∧ fileName file = .ok none ∨
      (∃ path, file = .text path ∧ path ≠ "" ∧ fileName file = .ok (some path)) ∨
      file.isGiven = true ∧ (∀ s, file ≠ .text s) ∧
        fileName file = .error (.notPath file.kind) := by
  by_cases hgiven : file.isGiven = true
  · right
    cases file with
    | text s =>
      have hne : s ≠ "" := by simpa [Value.isGiven] using hgiven
      exact .inl ⟨s, rfl, hne, by simp [fileName, hgiven]⟩
    | _ => exact .inr ⟨hgiven, by simp, by simp [fileName, hgiven]⟩
  · left
    rw [Bool.not_eq_true] at hgiven
    exact ⟨hgiven, by simp [fileName, hgiven]⟩

theorem FileFails.isGiven (h : FileFails file w e) : file.isGiven = true := by
  cases h with
  | notPath hgiven _ => exact hgiven
  | @notOpened path e u hpath hne _ =>
    subst hpath
    simpa [Value.isGiven] using hne

theorem FileFails.unique {e' : Failure} (h : FileFails file w e) (h' : FileFails file w e') :
    e = e' := by
  cases h with
  | notPath _ htext =>
    cases h' with
    | notPath _ _ => rfl
    | notOpened hpath _ _ => exact absurd hpath (htext _)
  | notOpened hpath _ hopen =>
    cases h' with
    | notPath _ htext => exact absurd hpath (htext _)
    | notOpened hpath' _ hopen' =>
      cases Value.text.inj (hpath.symm.trans hpath')
      exact Except.error.inj (hopen.unique hopen')

theorem error_iff_of_fileFails {e' : Failure} (h : FileFails file w e) :
    (.error e : Except Failure Log) = .error e' ↔
      FileFails file w e' ∨ (∀ e, ¬ FileFails file w e) ∧ LevelFails level e' := by
  rw [Except.error.injEq]
  constructor
  · rintro rfl
    exact .inl h
  · rintro (h' | ⟨hnone, -⟩)
    · exact h.unique h'
    · exact absurd h (hnone e)

theorem map_threshold_eq_error_iff (hnone : ∀ e, ¬ FileFails file w e) {f : Nat → Log} :
    (thresholdOf level).map f = .error e ↔
      FileFails file w e ∨ (∀ e, ¬ FileFails file w e) ∧ LevelFails level e := by
  rw [or_iff_right (hnone e), and_iff_right hnone, ← thresholdOf_eq_error_iff]
  cases thresholdOf level <;> simp [Except.map]

/-- Opening a log fails for its file, or else for the name of its level. -/
theorem exists_runs_start (level : String) (file : Value) (w : World) :
    ∃ r u, Runs (start level file) w r u ∧ ∀ e, r = .error e ↔
      FileFails file w e ∨ (∀ e, ¬ FileFails file w e) ∧ LevelFails level e := by
  obtain ⟨hgiven, hname⟩ | ⟨path, rfl, hne, hname⟩ | ⟨hgiven, htext, hname⟩ := fileName_cases file
  · have hnone : ∀ e, ¬ FileFails file w e := by
      intro e h
      rw [h.isGiven] at hgiven
      cases hgiven
    exact ⟨_, w, runs_start_of_none hname, fun e => map_threshold_eq_error_iff hnone⟩
  · obtain ⟨r, u, hopen⟩ := exists_runs (openFile path) w
    cases r with
    | error e =>
      have hfails : FileFails (.text path) w e := .notOpened rfl hne hopen
      exact ⟨_, u, runs_start_of_not_opened hname hopen, fun e' => error_iff_of_fileFails hfails⟩
    | ok kept =>
      have hnone : ∀ e, ¬ FileFails (.text path) w e := by
        intro e h
        cases h with
        | notPath _ htext => exact htext path rfl
        | notOpened hpath _ hopen' =>
          cases hpath
          cases hopen.unique hopen'
      exact ⟨_, u, runs_start_of_some hname hopen, fun e => map_threshold_eq_error_iff hnone⟩
  · have hfails : FileFails file w (.notPath file.kind) := .notPath hgiven htext
    exact ⟨_, w, runs_start_of_error hname, fun e => error_iff_of_fileFails hfails⟩

end start

end Journal

open Journal

/-- The name of the level that a log is opened under: the one that is told, or else that of the
preferences. -/
def IsLevel (told : Option String) (p : Preferences) (level : String) : Prop :=
  told = some level ∨ told = none ∧ p.logLevel = .text level

/-- Why a log cannot be opened. -/
inductive LogFails (told : Option String) (p : Preferences) (w : World) : Failure → Prop where
  | notText (htold : told = none) (htext : ∀ s, p.logLevel ≠ .text s) :
      LogFails told p w (.lacksAttribute p.logLevel.kind "upper")
  | file {level : String} {e : Failure} (hlevel : IsLevel told p level)
      (hfile : FileFails p.logFile w e) : LogFails told p w e
  | level {level : String} {e : Failure} (hlevel : IsLevel told p level)
      (hfile : ∀ e, ¬ FileFails p.logFile w e) (hname : LevelFails level e) : LogFails told p w e

section startLog

variable {i : Invocation} {p : Preferences} {w : World} {level : String}

theorem IsLevel.unique {told : Option String} {level' : String} (h : IsLevel told p level)
    (h' : IsLevel told p level') : level = level' := by
  rcases h with rfl | ⟨rfl, h⟩
  · rcases h' with h' | ⟨h', -⟩
    · exact Option.some.inj h'
    · cases h'
  · rcases h' with h' | ⟨-, h'⟩
    · cases h'
    · exact Value.text.inj (h.symm.trans h')

theorem logFails_iff (h : IsLevel i.logLevel p level) {e : Failure} :
    LogFails i.logLevel p w e ↔
      FileFails p.logFile w e ∨ (∀ e, ¬ FileFails p.logFile w e) ∧ LevelFails level e := by
  constructor
  · intro hfails
    cases hfails with
    | notText htold htext =>
      rcases h with h | ⟨-, h⟩
      · rw [htold] at h
        cases h
      · exact absurd h (htext level)
    | file _ hfile => exact .inl hfile
    | level hlevel hfile hname => exact .inr ⟨hfile, h.unique hlevel ▸ hname⟩
  · rintro (hfile | ⟨hfile, hname⟩)
    · exact .file h hfile
    · exact .level h hfile hname

theorem runs_startLog_of_isLevel (h : IsLevel i.logLevel p level) {r : Except Failure Log}
    {u : World} (hstart : Runs (start level p.logFile) w r u) :
    Runs (i.startLog p) w (r.map fun log => (level, log)) u := by
  have hlog : Runs (do return (level, ← start level p.logFile)) w
      (r.map fun log => (level, log)) u := by
    cases r with
    | error e => exact hstart.bind_error
    | ok log => exact hstart.bind_ok (.pure _ u)
  rw [Invocation.startLog]
  rcases h with h | ⟨h, hp⟩
  · rw [h]
    exact (Runs.pure level w).bind_ok hlog
  · rw [h, hp]
    exact (Runs.lift (.ok level) w).bind_ok hlog

theorem exists_runs_startLog (i : Invocation) (p : Preferences) (w : World) :
    ∃ r u, Runs (i.startLog p) w r u ∧ ∀ e, r = .error e ↔ LogFails i.logLevel p w e := by
  by_cases h : ∃ level, IsLevel i.logLevel p level
  · obtain ⟨level, h⟩ := h
    obtain ⟨r, u, hstart, hiff⟩ := exists_runs_start level p.logFile w
    refine ⟨_, u, runs_startLog_of_isLevel h hstart, fun e => ?_⟩
    rw [logFails_iff h, ← hiff e]
    cases r <;> simp [Except.map]
  · have htold : i.logLevel = none := by
      rw [Option.eq_none_iff_forall_ne_some]
      exact fun level hlevel => h ⟨level, .inl hlevel⟩
    have htext : ∀ s, p.logLevel ≠ .text s := fun s hs => h ⟨s, .inr ⟨htold, hs⟩⟩
    have hname : levelName p.logLevel = .error (.lacksAttribute p.logLevel.kind "upper") := by
      cases hp : p.logLevel with
      | text s => exact absurd hp (htext s)
      | _ => rfl
    refine ⟨.error (.lacksAttribute p.logLevel.kind "upper"), w, ?_, fun e => ⟨fun he => ?_, ?_⟩⟩
    · rw [Invocation.startLog, htold, hname]
      exact (Runs.lift (.error _) w).bind_error
    · cases he
      exact .notText htold htext
    · intro hfails
      cases hfails with
      | notText _ _ => rfl
      | file hlevel _ => exact absurd ⟨_, hlevel⟩ h
      | level hlevel _ _ => exact absurd ⟨_, hlevel⟩ h

end startLog

/-! ## Runs -/

/-- What lets a failure of a run through: the preferences, by the text of the file that they come
from or for want of a folder of the user, or else the log. -/
inductive LetsThrough (i : Invocation) (env : Environment) (w : World) : Failure → Prop where
  | preferences {e : Failure} (h : Preferences.Unloadable w i.config e) : LetsThrough i env w e
  | log {p : Preferences} {e : Failure} (hload : Runs (Preferences.load i.config env) w (.ok p) w)
      (hlog : LogFails i.logLevel p w e) : LetsThrough i env w e

/-- A run returns one of the codes 0, 1 and 2, or lets one of some failures through. -/
def Outcome.EndsWith (o : Outcome) (P : Failure → Prop) : Prop :=
  (∀ code, o.result = .ok code → code ≤ 2) ∧ ∀ e, o.result = .error e ↔ P e

section outcomes

variable {o : Outcome} {P : Failure → Prop} {e : Failure}

theorem Outcome.endsWith_of_code {code : Nat} (h : o.result = .ok code) (hcode : code ≤ 2)
    (hP : ∀ e, ¬ P e) : o.EndsWith P := by
  refine ⟨fun code' h' => ?_, fun e => ⟨fun h' => ?_, fun he => absurd he (hP e)⟩⟩
  · cases h.symm.trans h'
    exact hcode
  · cases h.symm.trans h'

theorem Outcome.endsWith_of_failure (h : o.result = .error e) (hP : ∀ e', P e' ↔ e' = e) :
    o.EndsWith P := by
  refine ⟨fun code h' => ?_, fun e' => ?_⟩
  · cases h.symm.trans h'
  · rw [hP, h, Except.error.injEq, eq_comm]

theorem Outcome.EndsWith.congr {Q : Failure → Prop} (h : o.EndsWith P) (hPQ : ∀ e, P e ↔ Q e) :
    o.EndsWith Q :=
  ⟨h.1, fun e => (h.2 e).trans (hPQ e)⟩

end outcomes

section runs

variable {i : Invocation} {env : Environment} {w : World} {p : Preferences} {e : Failure}

theorem letsThrough_iff_of_ok (hload : Runs (Preferences.load i.config env) w (.ok p) w) :
    LetsThrough i env w e ↔ LogFails i.logLevel p w e := by
  refine ⟨fun h => ?_, .log hload⟩
  cases h with
  | preferences hpreferences =>
    cases hload.unique (Preferences.runs_load_of_unloadable hpreferences env)
  | log hload' hlog =>
    cases hload.unique hload'
    exact hlog

theorem letsThrough_iff_of_error {e₁ : Failure}
    (hload : Runs (Preferences.load i.config env) w (.error e₁) w) :
    LetsThrough i env w e ↔ ¬ e₁.IsTold ∧ e = e₁ := by
  constructor
  · intro h
    cases h with
    | preferences hpreferences =>
      cases hload.unique (Preferences.runs_load_of_unloadable hpreferences env)
      exact ⟨Preferences.not_isTold_of_unloadable hpreferences, rfl⟩
    | log hload' hlog => cases hload.unique hload'
  · rintro ⟨htold, rfl⟩
    exact .preferences (Preferences.unloadable_of_load hload htold)

theorem runUnder_of_error {scheme : SignatureScheme} {u : World}
    (hlog : Runs (i.startLog p) w (.error e) u) :
    (i.runUnder scheme p : StateM World Outcome).run w = (.escaped e, u) := by
  rw [Invocation.runUnder, StateT.run_bind, hlog]
  rfl

theorem runUnder_of_ok {scheme : SignatureScheme} {level lines : String} {log : Log}
    {x : Except Failure Reply} {u v : World} (hlog : Runs (i.startLog p) w (.ok (level, log)) v)
    (hexec : Command.exec (i.command.run scheme p) log "" v = ((x, lines), u)) :
    (i.runUnder scheme p : StateM World Outcome).run w = (.ofCommand level lines x, u) := by
  let command : Command.Work (StateM World) Reply := i.command.run scheme p
  have hrun : StateT.run ((command.run log).run.run "") v = ((x, lines), u) := hexec
  rw [Invocation.runUnder, StateT.run_bind, hlog]
  change StateT.run ((command.run log).run.run "" >>= fun r =>
    pure (Outcome.ofCommand level r.2 r.1)) v = _
  rw [StateT.run_bind, hrun]
  rfl

theorem run_of_load {scheme : SignatureScheme}
    (hload : Runs (Preferences.load i.config env) w (.ok p) w) :
    (i.run scheme env : StateM World Outcome).run w =
      (i.runUnder scheme p : StateM World Outcome).run w := by
  rw [Invocation.run, StateT.run_bind, hload]
  rfl

theorem exists_runUnder (i : Invocation) (scheme : SignatureScheme) (p : Preferences)
    (w : World) :
    ∃ o u, (i.runUnder scheme p : StateM World Outcome).run w = (o, u) ∧
      o.EndsWith (LogFails i.logLevel p w) := by
  obtain ⟨r, u, hlog, hiff⟩ := exists_runs_startLog i p w
  cases r with
  | error e =>
    refine ⟨.escaped e, u, runUnder_of_error hlog, Outcome.endsWith_of_failure rfl fun e' => ?_⟩
    rw [← hiff e', Except.error.injEq, eq_comm]
  | ok opened =>
    obtain ⟨level, log⟩ := opened
    -- With the log open nothing is let through: a command that fails gives code 1.
    have hnone : ∀ e, ¬ LogFails i.logLevel p w e := fun e h => by cases (hiff e).2 h
    rcases hexec : Command.exec (i.command.run scheme p) log "" u with ⟨⟨x, lines⟩, v⟩
    refine ⟨.ofCommand level lines x, v, runUnder_of_ok hlog hexec, ?_⟩
    cases x with
    | ok r =>
      have hcode := Command.ends_run scheme p i.command log "" u r lines v hexec
      exact Outcome.endsWith_of_code rfl hcode hnone
    | error e => exact Outcome.endsWith_of_code rfl (Nat.le_succ 1) hnone

theorem exists_run (i : Invocation) (scheme : SignatureScheme) (env : Environment) (w : World) :
    ∃ o u, (i.run scheme env : StateM World Outcome).run w = (o, u) ∧
      o.EndsWith (LetsThrough i env w) := by
  obtain ⟨r, hload, -⟩ := Preferences.exists_reads_load i.config env w
  cases r with
  | ok p =>
    obtain ⟨o, u, hrun, hends⟩ := exists_runUnder i scheme p w
    refine ⟨o, u, ?_, hends.congr fun e => (letsThrough_iff_of_ok hload).symm⟩
    rw [run_of_load hload]
    exact hrun
  | error e =>
    let told : Outcome :=
      { result := .ok 1, out := "", err := s!"Error loading configuration: {e.message}\n" }
    have hrun : (i.run scheme env : StateM World Outcome).run w =
        (if e.isFileProblem || e.isValueRefusal then pure told
          else pure (.escaped e) : StateM World Outcome).run w := by
      rw [Invocation.run, StateT.run_bind, hload]
      rfl
    by_cases htold : (e.isFileProblem || e.isValueRefusal) = true
    · rw [if_pos htold] at hrun
      refine ⟨told, w, hrun, Outcome.endsWith_of_code rfl (Nat.le_succ 1) fun e' h => ?_⟩
      exact ((letsThrough_iff_of_error hload).1 h).1 htold
    · rw [if_neg htold] at hrun
      refine ⟨_, w, hrun, Outcome.endsWith_of_failure rfl fun e' => ?_⟩
      exact (letsThrough_iff_of_error hload).trans ⟨(·.2), fun h => ⟨htold, h⟩⟩

theorem exists_code_ofStop (stop : Arguments.Stop) :
    ∃ code, (Outcome.ofStop stop).result = .ok code ∧ code ≤ 2 := by
  cases stop with
  | help usage => exact ⟨0, rfl, Nat.zero_le 2⟩
  | version => exact ⟨0, rfl, Nat.zero_le 2⟩
  | refused program usage c => exact ⟨2, rfl, Nat.le_refl 2⟩

end runs

/-- A world whose file of preferences holds an empty list. -/
def listWorld : World :=
  Preferences.preferring "[]"

end Attest
