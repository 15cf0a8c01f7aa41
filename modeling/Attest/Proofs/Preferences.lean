import Attest.Preferences
import Attest.Proofs.Json.Lines
import Attest.Proofs.Settings
import Attest.Proofs.Value
import Attest.Proofs.World

/-!
# How preferences are loaded

Loading asks the host for files and changes nothing (`ReadsOrTells`), and its failures are of two
sorts: those that are told as such, which concern a file or a value, and those that are let through
(`Unloadable`).  Of the latter there are few.  Most come from the text of the file that is read: it
nests too deeply, or what it holds is not the object that it should be.  And behind that file the
folders of the usual ones are asked for, whether or not one is told, where a user without a folder
is no file problem.  What the environment does to preferences is to lay the overrides that it gives
over them (`override_eq`), which fails only for a value.
-/

namespace Attest

/-! ## Reading -/

/-- A failure is told as one of loading the preferences: it concerns a file or a value. -/
def Failure.IsTold (e : Failure) : Prop :=
  (e.isFileProblem || e.isValueRefusal) = true

/-- An operation only reads, and its failures are told. -/
def ReadsOrTells {α : Type} (x : ExceptT Failure (StateM World) α) : Prop :=
  ∀ w, ∃ r, Runs x w r w ∧ ∀ e, r = .error e → e.IsTold

section rules

variable {α β : Type}

theorem ReadsOrTells.pure (a : α) : ReadsOrTells (pure a : ExceptT Failure (StateM World) α) :=
  fun w => ⟨.ok a, .pure a w, fun _ he => by cases he⟩

theorem ReadsOrTells.throw {e : Failure} (h : e.IsTold) :
    ReadsOrTells (throw e : ExceptT Failure (StateM World) α) :=
  fun w => ⟨.error e, .throw e w, fun _ he => by cases he; exact h⟩

theorem ReadsOrTells.bind {x : ExceptT Failure (StateM World) α}
    {f : α → ExceptT Failure (StateM World) β} (hx : ReadsOrTells x)
    (hf : ∀ a, ReadsOrTells (f a)) : ReadsOrTells (x >>= f) := by
  intro w
  obtain ⟨r, hr, htold⟩ := hx w
  cases r with
  | error e =>
    refine ⟨.error e, hr.bind_error, fun e' he' => ?_⟩
    cases he'
    exact htold e rfl
  | ok a =>
    obtain ⟨r, hr', htold'⟩ := hf a w
    exact ⟨r, hr.bind_ok hr', htold'⟩

end rules

namespace Host

theorem isTold_of_noPath? {path : String} {e : Failure} (h : noPath? path = some e) :
    e.IsTold := by
  unfold noPath? at h
  dsimp only at h
  split at h
  · obtain ⟨message, hmessage⟩ := Failure.exists_withoutBytes_eq
      (path.toList.takeWhile hasBytes).length
      (Text.leadingHalves (path.toList.drop (path.toList.takeWhile hasBytes).length))
    rw [hmessage] at h
    cases h
    rfl
  · split at h
    · cases h
      rfl
    · cases h

theorem isTold_of_located {α : Type} {path : String} {y : Except FileProblem α} {e : Failure}
    (h : located path y = .error e) : e.IsTold := by
  cases y with
  | error problem =>
    cases h
    rfl
  | ok a => cases h

theorem readsOrTells_atPath {α : Type} (path : String) {y : StateM World (Except FileProblem α)}
    (hy : ∀ w, ∃ r, y.run w = (r, w)) : ReadsOrTells (atPath path y) := by
  intro w
  cases hpath : noPath? path with
  | none =>
    obtain ⟨r, hr⟩ := hy w
    exact ⟨located path r, runs_atPath hpath hr, fun e he => isTold_of_located he⟩
  | some e =>
    rw [atPath, hpath]
    exact ReadsOrTells.throw (isTold_of_noPath? hpath) w

theorem readsOrTells_doesExist (path : String) : ReadsOrTells (doesExist path) := by
  unfold doesExist
  split
  · exact readsOrTells_atPath path fun w => ⟨w.isThere path, rfl⟩
  · exact .pure false

theorem readsOrTells_readText (path : String) : ReadsOrTells (readText path) := by
  refine .bind (readsOrTells_atPath path fun w => ⟨w.read path, rfl⟩) fun bs => ?_
  split
  · exact .pure _
  · exact .throw rfl

end Host

/-! ## Files -/

namespace Preferences

/-- What stands at the first of some paths at which there is anything is a file with a text. -/
inductive FirstText (w : World) : List String → String → Prop where
  | here {path : String} {rest : List String} {s : String}
      (hthere : Runs (Host.doesExist path) w (.ok true) w)
      (htext : Runs (Host.readText path) w (.ok s) w) : FirstText w (path :: rest) s
  | later {path : String} {rest : List String} {s : String}
      (habsent : Runs (Host.doesExist path) w (.ok false) w) (hrest : FirstText w rest s) :
      FirstText w (path :: rest) s

/-- The preferences, or the failure, of the first file that is there at some paths, and the usual
preferences if there is none. -/
inductive FileSays (w : World) : List String → Except Failure Preferences → Prop where
  | nothing : FileSays w [] (.ok default)
  | here {path : String} {rest : List String} {f : Except Failure Preferences}
      (hthere : Runs (Host.doesExist path) w (.ok true) w) (hfile : Runs (ofFile path) w f w) :
      FileSays w (path :: rest) f
  | later {path : String} {rest : List String} {f : Except Failure Preferences}
      (habsent : Runs (Host.doesExist path) w (.ok false) w) (hrest : FileSays w rest f) :
      FileSays w (path :: rest) f
  | unclear {path : String} {rest : List String} {e : Failure}
      (hfail : Runs (Host.doesExist path) w (.error e) w) : FileSays w (path :: rest) (.error e)

/-- The paths that are looked at for preferences: the one that is told, or else the usual ones,
which there are only where both folders can be told. -/
def pathsFor (w : World) : Option (Given String) → List String
  | none =>
    match w.folder, w.home with
    | some folder, some home => usualPaths folder home
    | _, _ => []
  | told => toldPaths told

/-- Why one of the folders that are asked for behind the file told cannot be told. -/
inductive LacksFolder (w : World) : Failure → Prop where
  | working (h : w.folder = none) : LacksFolder w .noFolder
  | home {folder : String} (hfolder : w.folder = some folder) (h : w.home = none) :
      LacksFolder w .noHome

section files

variable {w : World} {path : String} {rest paths : List String} {s : String} {e : Failure}
  {f : Except Failure Preferences} {p : Preferences} {told : Option (Given String)}

theorem FileSays.runs_ofFirst (h : FileSays w paths f) : Runs (ofFirst paths) w f w := by
  induction h with
  | nothing => exact .pure _ w
  | here hthere hfile => exact hthere.bind_ok hfile
  | later habsent _ ih => exact habsent.bind_ok ih
  | unclear hfail => exact hfail.bind_error

theorem FileSays.unique {g : Except Failure Preferences} (h : FileSays w paths f)
    (h' : FileSays w paths g) : f = g :=
  h.runs_ofFirst.unique h'.runs_ofFirst

theorem LacksFolder.unique {e' : Failure} (h : LacksFolder w e) (h' : LacksFolder w e') :
    e = e' := by
  cases h with
  | working h =>
    cases h' with
    | working _ => rfl
    | home hfolder _ => cases h.symm.trans hfolder
  | home hfolder _ =>
    cases h' with
    | working h => cases h.symm.trans hfolder
    | home _ _ => rfl

theorem exists_folders (h : ∀ e, ¬ LacksFolder w e) :
    ∃ folder home, w.folder = some folder ∧ w.home = some home := by
  cases hfolder : w.folder with
  | none => exact absurd (.working hfolder) (h _)
  | some folder =>
    cases hhome : w.home with
    | none => exact absurd (.home hfolder hhome) (h _)
    | some home => exact ⟨folder, home, rfl, rfl⟩

theorem not_lacksFolder {folder home : String} (hfolder : w.folder = some folder)
    (hhome : w.home = some home) (e : Failure) : ¬ LacksFolder w e := by
  rintro (hnone | ⟨-, hnone⟩)
  · cases hfolder.symm.trans hnone
  · cases hhome.symm.trans hnone

theorem pathsFor_none {folder home : String} (hfolder : w.folder = some folder)
    (hhome : w.home = some home) : pathsFor w none = usualPaths folder home := by
  simp only [pathsFor, hfolder, hhome]

/-- A folder that cannot be told is a failure behind the file told, and before any usual one. -/
theorem reads_ofFiles_of_lacks (h : FileSays w (pathsFor w told) (.ok p))
    (hlacks : LacksFolder w e) : Runs (ofFiles told) w (.error e) w := by
  have htold : ∃ p, FileSays w (toldPaths told) (.ok p) := by
    cases told with
    | none => exact ⟨default, .nothing⟩
    | some given => exact ⟨p, h⟩
  obtain ⟨p, htold⟩ := htold
  refine htold.runs_ofFirst.bind_ok ?_
  cases hlacks with
  | working hfolder => exact (Host.runs_workingFolder_of_none hfolder).bind_error
  | home hfolder hhome =>
    exact (Host.runs_workingFolder hfolder).bind_ok (Host.runs_homeFolder_of_none hhome).bind_error

theorem reads_ofFiles (h : FileSays w (pathsFor w told) f) (hfolders : ∀ e, ¬ LacksFolder w e) :
    Runs (ofFiles told) w f w := by
  obtain ⟨folder, home, hfolder, hhome⟩ := exists_folders hfolders
  cases told with
  | none =>
    rw [pathsFor_none hfolder hhome] at h
    exact (Runs.pure default w).bind_ok ((Host.runs_workingFolder hfolder).bind_ok
      ((Host.runs_homeFolder hhome).bind_ok h.runs_ofFirst))
  | some given =>
    cases f with
    | error e => exact (h.runs_ofFirst).bind_error
    | ok p =>
      exact h.runs_ofFirst.bind_ok ((Host.runs_workingFolder hfolder).bind_ok
        ((Host.runs_homeFolder hhome).bind_ok (.pure p w)))

theorem reads_ofFiles_of_error (h : FileSays w (pathsFor w told) (.error e)) :
    Runs (ofFiles told) w (.error e) w := by
  cases told with
  | some given => exact h.runs_ofFirst.bind_error
  | none =>
    refine reads_ofFiles h fun e' hlacks => ?_
    -- Without both folders there are no usual paths, and then nothing fails.
    cases hlacks with
    | working hfolder =>
      simp only [pathsFor, hfolder] at h
      cases h
    | home hfolder hhome =>
      simp only [pathsFor, hfolder, hhome] at h
      cases h

theorem FirstText.of_there (hthere : Runs (Host.doesExist path) w (.ok true) w)
    (h : FirstText w (path :: rest) s) : Runs (Host.readText path) w (.ok s) w := by
  cases h with
  | here _ htext => exact htext
  | later habsent _ => cases hthere.unique habsent

theorem FirstText.of_absent (habsent : Runs (Host.doesExist path) w (.ok false) w)
    (h : FirstText w (path :: rest) s) : FirstText w rest s := by
  cases h with
  | here hthere _ => cases hthere.unique habsent
  | later _ hrest => exact hrest

/-- The failures of a file that is there and are not told are those of its text. -/
theorem exists_reads_ofFile (hthere : Runs (Host.doesExist path) w (.ok true) w) :
    ∃ r, Runs (ofFile path) w r w ∧ ∀ e, ¬ e.IsTold →
      (r = .error e ↔ ∃ s, Runs (Host.readText path) w (.ok s) w ∧ ofText s = .error e) := by
  obtain ⟨r, htext, htold⟩ := Host.readsOrTells_readText path w
  cases r with
  | error e₁ =>
    refine ⟨.error e₁, hthere.bind_ok htext.bind_error, fun e he => ⟨fun h => ?_, ?_⟩⟩
    · cases h
      exact absurd (htold _ rfl) he
    · rintro ⟨s, hs, -⟩
      cases htext.unique hs
  | ok s =>
    refine ⟨ofText s, hthere.bind_ok (htext.bind_ok (.lift _ w)), fun e _ => ⟨fun h => ?_, ?_⟩⟩
    · exact ⟨s, htext, h⟩
    · rintro ⟨s', hs', h⟩
      cases htext.unique hs'
      exact h

/-- One thing is said by the files at some paths, and a failure that is not told is said by the text
that is found and by nothing else. -/
theorem exists_fileSays (w : World) (paths : List String) :
    ∃ f, FileSays w paths f ∧ ∀ e, ¬ e.IsTold →
      (f = .error e ↔ ∃ s, FirstText w paths s ∧ ofText s = .error e) := by
  induction paths with
  | nil =>
    refine ⟨.ok default, .nothing, fun e _ => ⟨fun h => (by cases h), ?_⟩⟩
    rintro ⟨s, h, -⟩
    cases h
  | cons path rest ih =>
    obtain ⟨there, hthere, htold⟩ := Host.readsOrTells_doesExist path w
    rcases there with e₁ | there
    · refine ⟨.error e₁, .unclear hthere, fun e he => ⟨fun h => ?_, ?_⟩⟩
      · cases h
        exact absurd (htold _ rfl) he
      · rintro ⟨s, h, -⟩
        cases h with
        | here hthere' _ => cases hthere.unique hthere'
        | later habsent _ => cases hthere.unique habsent
    · -- What stands at this path decides, and only if there is nothing do later paths.
      cases there with
      | true =>
        obtain ⟨r, hr, hiff⟩ := exists_reads_ofFile hthere
        refine ⟨r, .here hthere hr, fun e he => (hiff e he).trans ?_⟩
        exact exists_congr fun s => and_congr_left fun _ =>
          ⟨fun htext => .here hthere htext, fun h => h.of_there hthere⟩
      | false =>
        obtain ⟨f, hf, hiff⟩ := ih
        refine ⟨f, .later hthere hf, fun e he => (hiff e he).trans ?_⟩
        exact exists_congr fun s => and_congr_left fun _ =>
          ⟨fun h => .later hthere h, fun h => h.of_absent hthere⟩

end files

/-! ## Contents -/

/-- Why the text of a file lets a failure through. -/
inductive Misshapen (s : String) : Failure → Prop where
  | tooDeep {container : Json.Container} (hparse : Json.parse s = .error (.tooDeep container)) :
      Misshapen s (.tooDeep (Json.Refusal.tooDeep container).message)
  | notObject {v : Value} (hparse : Json.parse s = .ok v) (hv : ∀ fields, v ≠ .object fields) :
      Misshapen s (.lacksAttribute v.kind "get")
  | powNotObject {fields : Fields} {v : Value} (hparse : Json.parse s = .ok (.object fields))
      (hpow : fields.get? "pow" = some v) (hv : ∀ fields, v ≠ .object fields) :
      Misshapen s (.lacksAttribute v.kind "get")

section contents

variable {s : String} {e : Failure}

theorem fieldsOf_eq_error_iff {v : Value} :
    fieldsOf v = .error e ↔ (∀ fields, v ≠ .object fields) ∧ e = .lacksAttribute v.kind "get" := by
  cases v <;> simp [fieldsOf, eq_comm]

theorem ofValue_of_not_object {v : Value} (h : ∀ fields, v ≠ .object fields) :
    ofValue v = .error (.lacksAttribute v.kind "get") := by
  rw [ofValue, fieldsOf_eq_error_iff.2 ⟨h, rfl⟩]
  rfl

theorem ofValue_object_eq_error_iff {fields : Fields} :
    ofValue (.object fields) = .error e ↔
      fieldsOf ((fields.get? "pow").getD (.object [])) = .error e := by
  change (fieldsOf ((fields.get? "pow").getD (.object [])) >>= _) = _ ↔ _
  cases fieldsOf ((fields.get? "pow").getD (.object [])) <;>
    simp [bind, Except.bind, pure, Except.pure]

theorem Misshapen.of_ofText (he : ¬ e.IsTold) (h : ofText s = .error e) : Misshapen s e := by
  unfold ofText at h
  split at h
  · next v hparse =>
    by_cases hv : ∃ fields : Fields, v = .object fields
    · obtain ⟨fields, rfl⟩ := hv
      rw [ofValue_object_eq_error_iff, fieldsOf_eq_error_iff] at h
      obtain ⟨hnot, rfl⟩ := h
      cases hpow : Fields.get? fields "pow" with
      | none =>
        rw [hpow] at hnot
        exact absurd rfl (hnot [])
      | some pow =>
        rw [hpow] at hnot
        exact .powNotObject hparse hpow hnot
    · have hnot : ∀ fields, v ≠ .object fields := fun fields hfields => hv ⟨fields, hfields⟩
      rw [ofValue_of_not_object hnot] at h
      cases h
      exact .notObject hparse hnot
  · cases h
    exact absurd rfl he
  · next hparse =>
    cases h
    exact .tooDeep hparse
  · cases h
    exact absurd rfl he

theorem Misshapen.ofText_eq (h : Misshapen s e) : ofText s = .error e := by
  cases h with
  | tooDeep hparse => rw [ofText, hparse]
  | notObject hparse hv =>
    rw [ofText, hparse]
    exact ofValue_of_not_object hv
  | powNotObject hparse hpow hv =>
    rw [ofText, hparse]
    refine ofValue_object_eq_error_iff.2 ?_
    rw [hpow]
    exact fieldsOf_eq_error_iff.2 ⟨hv, rfl⟩

theorem not_isTold_of_misshapen (h : Misshapen s e) : ¬ e.IsTold := by
  cases h <;> exact Bool.false_ne_true

end contents

/-! ## The environment -/

/-- Preferences under overrides. -/
def overriddenBy (p : Preferences) (o : Settings.Overrides) : Preferences where
  difficultyBits := (o.difficultyBits.map Value.int).getD p.difficultyBits
  maxNonce := (o.maxNonce.map Value.int).getD p.maxNonce
  addressType := (o.addressType.map Value.text).getD p.addressType
  logLevel := (o.logLevel.map Value.text).getD p.logLevel
  logFile := (o.logFile.map Value.text).getD p.logFile
  outputFormat := p.outputFormat

section environment

variable {env : Environment} {name : String} {own other : Value}

theorem pick_integer {r : Option Int} (h : env.integer? name = .ok r) :
    (if (env.given? name).isSome then (r.map Value.int).getD other else own) =
      (r.map Value.int).getD own := by
  rw [Environment.isSome_of_integer? h]
  cases r <;> rfl

/-- What is set to the empty text is read, but not picked. -/
theorem pick_text :
    (if (env.given? name).isSome then ((env.get? name).map Value.text).getD other else own) =
      ((env.given? name).map Value.text).getD own := by
  cases hgiven : env.given? name with
  | none => rfl
  | some s =>
    rw [Environment.get?_of_given? hgiven]
    rfl

theorem override_eq (p : Preferences) (env : Environment) :
    p.override env = (Settings.Overrides.ofEnvironment env).map p.overriddenBy := by
  rw [override, ofEnvironment, Settings.Overrides.ofEnvironment]
  cases hbits : env.integer? Environment.difficultyBits with
  | error e => rfl
  | ok bits =>
    cases hnonce : env.integer? Environment.maxNonce with
    | error e => rfl
    | ok nonce =>
      simp only [bind, Except.bind, pure, Except.pure, pick_integer hbits, pick_integer hnonce,
        pick_text]
      rfl

theorem override_eq_error_iff {p : Preferences} {e : Failure} :
    p.override env = .error e ↔ env.FirstMisspelt e := by
  rw [override_eq, ← Settings.Overrides.ofEnvironment_eq_error_iff]
  cases Settings.Overrides.ofEnvironment env <;> simp [Except.map]

theorem isTold_of_override {p : Preferences} {e : Failure} (h : p.override env = .error e) :
    e.IsTold := by
  obtain ⟨message, rfl⟩ :=
    Environment.exists_badValue_of_firstMisspelt (override_eq_error_iff.1 h)
  rfl

end environment

/-! ## Loading -/

/-- What is let through of the failures to load preferences: those of the text of the file that is
read, and that there is no folder of the user behind it. -/
inductive Unloadable (w : World) (told : Option (Given String)) : Failure → Prop where
  | text {s : String} {e : Failure} (htext : FirstText w (pathsFor w told) s)
      (hshape : Misshapen s e) : Unloadable w told e
  | home {p : Preferences} {folder : String} (hfile : FileSays w (pathsFor w told) (.ok p))
      (hfolder : w.folder = some folder) (hhome : w.home = none) : Unloadable w told .noHome

section load

variable {told : Option (Given String)} {env : Environment} {w : World} {s : String} {e : Failure}

theorem not_isTold_of_unloadable (h : Unloadable w told e) : ¬ e.IsTold := by
  cases h with
  | text _ hshape => exact not_isTold_of_misshapen hshape
  | home _ _ _ => exact Bool.false_ne_true

theorem unloadable_iff_of_error (he : ¬ e.IsTold) {e₁ : Failure}
    (hfile : FileSays w (pathsFor w told) (.error e₁))
    (hiff : ∀ e, ¬ e.IsTold → ((.error e₁ : Except Failure Preferences) = .error e ↔
      ∃ s, FirstText w (pathsFor w told) s ∧ ofText s = .error e)) :
    (.error e₁ : Except Failure Preferences) = .error e ↔ Unloadable w told e := by
  rw [hiff e he]
  constructor
  · rintro ⟨s, htext, hs⟩
    exact .text htext (.of_ofText he hs)
  · rintro (⟨htext, hshape⟩ | ⟨hfile', -, -⟩)
    · exact ⟨_, htext, hshape.ofText_eq⟩
    · cases hfile.unique hfile'

/-- Loading lets a failure through for the text of the file that it reads or for want of a folder,
and for nothing else. -/
theorem exists_reads_load (told : Option (Given String)) (env : Environment) (w : World) :
    ∃ r, Runs (load told env) w r w ∧ ∀ e, ¬ e.IsTold → (r = .error e ↔ Unloadable w told e) := by
  obtain ⟨f, hf, hiff⟩ := exists_fileSays w (pathsFor w told)
  cases f with
  | error e₁ =>
    exact ⟨.error e₁, (reads_ofFiles_of_error hf).bind_error,
      fun e he => unloadable_iff_of_error he hf hiff⟩
  | ok p =>
    have hnoText : ∀ e, ¬ e.IsTold → ∀ s, FirstText w (pathsFor w told) s → ¬ Misshapen s e := by
      intro e he s htext hshape
      cases (hiff e he).2 ⟨s, htext, hshape.ofText_eq⟩
    by_cases hlacks : ∃ e, LacksFolder w e
    · obtain ⟨e₁, hlacks⟩ := hlacks
      refine ⟨.error e₁, (reads_ofFiles_of_lacks hf hlacks).bind_error, fun e he => ?_⟩
      constructor
      · rintro ⟨⟩
        cases hlacks with
        | working _ => exact absurd rfl he
        | home hfolder hhome => exact .home hf hfolder hhome
      · rintro (⟨htext, hshape⟩ | ⟨-, hfolder, hhome⟩)
        · exact absurd hshape (hnoText e he _ htext)
        · rw [hlacks.unique (.home hfolder hhome)]
    · have hfolders : ∀ e, ¬ LacksFolder w e := fun e h => hlacks ⟨e, h⟩
      refine ⟨p.override env, (reads_ofFiles hf hfolders).bind_ok (.lift _ w), fun e he => ?_⟩
      constructor
      · intro h
        exact absurd (isTold_of_override h) he
      · rintro (⟨htext, hshape⟩ | ⟨-, hfolder, hhome⟩)
        · exact absurd hshape (hnoText e he _ htext)
        · exact absurd (.home hfolder hhome) (hfolders _)

theorem runs_load_of_unloadable (h : Unloadable w told e) (env : Environment) :
    Runs (load told env) w (.error e) w := by
  obtain ⟨r, hr, hiff⟩ := exists_reads_load told env w
  rw [← (hiff e (not_isTold_of_unloadable h)).2 h]
  exact hr

theorem unloadable_of_load (h : Runs (load told env) w (.error e) w) (he : ¬ e.IsTold) :
    Unloadable w told e := by
  obtain ⟨r, hr, hiff⟩ := exists_reads_load told env w
  exact (hiff e he).1 (hr.unique h)

end load

/-! ## One file of preferences -/

/-- A world with nothing in the folders of its user but a file of preferences that has a text. -/
def preferring (text : String) : World :=
  World.empty.put ["work", "kaiblock.json"] (.file (Bytes.ofText text))

section preferring

variable {text : String}

theorem writable_preferences :
    World.empty.Writable (Path.inside "/work" "kaiblock.json") ["work", "kaiblock.json"] :=
  ⟨by decide +kernel, by decide +kernel, by decide +kernel⟩

theorem read_preferring (text : String) :
    (preferring text).read (Path.inside "/work" "kaiblock.json") = .ok (Bytes.ofText text) :=
  writable_preferences.read_put (.refl _ _)

theorem firstText_preferring (text : String) :
    FirstText (preferring text) (pathsFor (preferring text) none)
      (String.ofList (Text.normaliseLineEnds text.toList)) :=
  .here (Host.runs_doesExist writable_preferences.isPath
      (World.isThere_of_read (read_preferring text)))
    (Host.runs_readText writable_preferences.isPath (read_preferring text))

theorem not_lacksFolder_preferring (e : Failure) : ¬ LacksFolder (preferring text) e :=
  not_lacksFolder rfl rfl e

/-- What is said by a file that a value was written to. -/
theorem fileSays_written {v : Value} (h : Json.Carried Json.depthLimit v) :
    FileSays (preferring (Json.write (.spaces 2) v ++ "\n"))
      (pathsFor (preferring (Json.write (.spaces 2) v ++ "\n")) none) (ofValue v) := by
  let text := Json.write (.spaces 2) v ++ "\n"
  have hthere := Host.runs_doesExist writable_preferences.isPath
    (World.isThere_of_read (read_preferring text))
  have hread := Host.runs_readText writable_preferences.isPath (read_preferring text)
  have hspace : ∀ c ∈ ['\n'], Json.isSpace c = true := by simp [Json.isSpace]
  have htext : ofText text = ofValue v := by
    rw [ofText, Json.parse_write_append (Json.Layout.isBlank_spaces 2) h hspace]
  rw [Json.normaliseLineEnds_write h, String.ofList_toList] at hread
  refine .here hthere (hthere.bind_ok (hread.bind_ok ?_))
  exact htext ▸ Runs.lift (ofText text) _

end preferring

end Preferences

end Attest
