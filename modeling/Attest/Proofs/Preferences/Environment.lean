import Attest.Proofs.Preferences

/-!
# Preferences under the environment

Variables of the environment override settings in three ways: over settings one by one, in data
from which settings are read, and over preferences as they are loaded from a file.  The three
read the same overrides, or fail alike, so all that is left to a file is what it says by itself
(`FileSays`), and the environment is laid over that (`override_eq`).  They part where one of them
asks for more than the others do: loading for folders (`LacksFolder`), and overriding settings for
the room to copy them first (`Settings.Overruns`).
-/

namespace Attest.Preferences

/-! ## The environment over a file -/

section overriding

variable {p q : Preferences} {env : Environment} {room : Nat}

theorem map_toSettings_override (h : ¬ Settings.Overruns room p.toSettings env) :
    (p.override env).map toSettings = p.toSettings.underEnvironment room env := by
  rw [override_eq, Settings.underEnvironment_of_not_overruns h]
  cases Settings.Overrides.ofEnvironment env <;> rfl

theorem outputFormat_of_override (h : p.override env = .ok q) :
    q.outputFormat = p.outputFormat := by
  rw [override_eq] at h
  cases ho : Settings.Overrides.ofEnvironment env with
  | error e =>
    rw [ho] at h
    cases h
  | ok o =>
    rw [ho] at h
    cases h
    rfl

end overriding

/-- **The environment overrides alike.**  There is one thing that the file told or found says.  If
that is a failure, loading fails with it.  Else it fails if one of the folders of the usual files
cannot be told, even where it does not look for these.  With both folders the settings by what is
loaded are the settings by what the file says under the environment, and the form of output is as
the file has it; both fail for the first variable that should spell a number and does not, with
what is said of it.  Only where something is overridden and there is no room to copy the settings
do the latter fail by themselves.  The settings that the environment alone gives are the usual ones
under it. -/
theorem load_eq_underEnvironment (told : Option (Given String)) (env : Environment) (w : World) :
    (∃! f, FileSays w (pathsFor w told) f) ∧
    (∀ e, FileSays w (pathsFor w told) (.error e) → Runs (load told env) w (.error e) w) ∧
    (∀ p e, FileSays w (pathsFor w told) (.ok p) → LacksFolder w e →
      Runs (load told env) w (.error e) w) ∧
    (∀ p, FileSays w (pathsFor w told) (.ok p) → (∀ e, ¬ LacksFolder w e) →
      ∃ loaded, Runs (load told env) w loaded w ∧
        (∀ q, loaded = .ok q → q.outputFormat = p.outputFormat) ∧
        (∀ e, loaded = .error e ↔ env.FirstMisspelt e) ∧
        ∀ room,
          (¬ Settings.Overruns room p.toSettings env →
            loaded.map toSettings = p.toSettings.underEnvironment room env) ∧
          (Settings.Overruns room p.toSettings env →
            p.toSettings.underEnvironment room env = .error .tooManyCalls)) ∧
    ∀ room, Settings.default.calls ≤ room →
      Settings.ofEnvironment env = Settings.default.underEnvironment room env := by
  obtain ⟨f, hf, -⟩ := exists_fileSays w (pathsFor w told)
  refine ⟨⟨f, hf, fun g hg => hg.unique hf⟩, ?_, ?_, ?_,
    fun room hroom => Settings.ofEnvironment_eq_underEnvironment hroom env⟩
  · intro e h
    exact (reads_ofFiles_of_error h).bind_error
  · intro p e h hlacks
    exact (reads_ofFiles_of_lacks h hlacks).bind_error
  · intro p h hfolders
    exact ⟨p.override env, (reads_ofFiles h hfolders).bind_ok (.lift _ w),
      fun q => outputFormat_of_override, fun e => override_eq_error_iff,
      fun room => ⟨map_toSettings_override, Settings.underEnvironment_of_overruns⟩⟩

/-! ## Files that set the level of the log -/

/-- What a file of preferences says that sets only the level of the log. -/
def levelled (level : Value) : Preferences :=
  { default with logLevel := level }

/-- The text of a file that sets the level of the log. -/
def levelText (level : Value) : String :=
  Json.write (.spaces 2) (.object [("log_level", level)]) ++ "\n"

theorem fileSays_levelled {level : Value} (h : Json.Carried 989 level) :
    FileSays (preferring (levelText level)) (pathsFor (preferring (levelText level)) none)
      (.ok (levelled level)) := by
  have hnames : ∀ name ∈ ["log_level"], Text.hasHalf name = false := by decide
  have hcarried : Json.Carried Json.depthLimit (.object [("log_level", level)]) :=
    .object (List.nodup_cons.2 ⟨List.not_mem_nil, List.nodup_nil⟩) hnames
      (List.forall_mem_singleton.2 h)
  exact fileSays_written hcarried

theorem calls_levelled (level : Value) :
    (levelled level).toSettings.calls = 8 + Settings.copyCalls level := by
  have hpositive : 2 ≤ Settings.copyCalls level := by
    cases level <;> simp [Settings.copyCalls]
  simp [levelled, toSettings, default, Settings.calls, Settings.copyCallsOfItems,
    Settings.copyCallsOfFields, Settings.copyCalls]
  omega

/-- Only the limit of nonces is given, with a text that spells a number. -/
theorem ofEnvironment_maxNonce {env : Environment} {s : String} {n : Int}
    (hbits : env.given? Environment.difficultyBits = none)
    (hnonce : env.given? Environment.maxNonce = some s) (hs : Numeral.parse s = .ok n)
    (htexts : env.given? Environment.addressType = none ∧
      env.given? Environment.logLevel = none ∧ env.given? Environment.logFile = none) :
    Settings.Overrides.ofEnvironment env = .ok ⟨none, some n, none, none, none⟩ := by
  obtain ⟨haddress, hlevel, hfile⟩ := htexts
  simp only [Settings.Overrides.ofEnvironment, Environment.integer?, hbits, hnonce, hs, haddress,
    hlevel, hfile]
  rfl

/-- A world whose file of preferences sets the level of the log. -/
def debugWorld : World :=
  preferring (levelText (.text "DEBUG"))

/-- An empty text in the environment leaves the level of the log as the file has it, a number takes
the place of the usual limit of nonces, and with a limit that is no number nothing is loaded. -/
theorem load_eq_underEnvironment_levelled :
    FileSays debugWorld (pathsFor debugWorld none) (.ok (levelled (.text "DEBUG"))) ∧
      (∀ e, ¬ LacksFolder debugWorld e) ∧
      (∃ loaded,
        Runs (load none [(Environment.maxNonce, "7"), (Environment.logLevel, "")]) debugWorld loaded
          debugWorld ∧
        loaded.map toSettings =
          .ok { Settings.default with maxNonce := .int 7, logLevel := .text "DEBUG" }) ∧
      ∃ e, Environment.FirstMisspelt [(Environment.maxNonce, "many")] e ∧
        Runs (load none [(Environment.maxNonce, "many")]) debugWorld (.error e) debugWorld := by
  have hfound := fileSays_levelled (.text 989 (s := "DEBUG") (by decide))
  have hfolders : ∀ e, ¬ LacksFolder debugWorld e := not_lacksFolder_preferring
  have hnumber : Environment.FirstMisspelt [(Environment.maxNonce, "many")]
      (.badValue (Numeral.Refusal.malformed.message 10 "many")) := by
    have hunset : ∀ e,
        ¬ Environment.Misspelt [(Environment.maxNonce, "many")] Environment.difficultyBits e := by
      rintro e ⟨hgiven, -⟩
      cases hgiven
    exact .maxNonce hunset (.mk (by decide +kernel) (by decide +kernel))
  obtain ⟨-, -, -, hload, -⟩ := load_eq_underEnvironment none
    [(Environment.maxNonce, "7"), (Environment.logLevel, "")] debugWorld
  obtain ⟨-, -, -, hfail, -⟩ := load_eq_underEnvironment none
    [(Environment.maxNonce, "many")] debugWorld
  obtain ⟨loaded, hloaded, -, -, hsettings⟩ := hload _ hfound hfolders
  obtain ⟨failed, hfailed, -, hiff, -⟩ := hfail _ hfound hfolders
  rw [(hiff _).2 hnumber] at hfailed
  have hroom : ¬ Settings.Overruns 1000 (levelled (.text "DEBUG")).toSettings
      [(Environment.maxNonce, "7"), (Environment.logLevel, "")] := by
    rintro ⟨-, -, hdeep⟩
    rw [calls_levelled] at hdeep
    exact absurd hdeep (by decide)
  refine ⟨hfound, hfolders, ⟨loaded, hloaded, ?_⟩, _, hnumber, hfailed⟩
  have hoverrides : Settings.Overrides.ofEnvironment
      [(Environment.maxNonce, "7"), (Environment.logLevel, "")] =
        .ok ⟨none, some 7, none, none, none⟩ :=
    ofEnvironment_maxNonce (s := "7") rfl rfl (by decide +kernel) ⟨rfl, rfl, rfl⟩
  rw [(hsettings 1000).1 hroom, Settings.underEnvironment_of_not_overruns hroom, hoverrides]
  rfl

/-- Lists in one another. -/
def nested : Nat → Value
  | 0 => .list []
  | n + 1 => .list [nested n]

theorem carried_nested {n levels : Nat} (h : n < levels) : Json.Carried levels (nested n) := by
  induction n generalizing levels with
  | zero =>
    obtain ⟨levels, rfl⟩ := Nat.exists_eq_add_of_lt h
    exact .list (List.forall_mem_nil _)
  | succ n ih =>
    obtain ⟨levels, rfl⟩ : ∃ k, levels = k + 1 := ⟨levels - 1, by omega⟩
    exact .list (List.forall_mem_singleton.2 (ih (by omega)))

theorem copyCalls_nested (n : Nat) : Settings.copyCalls (nested n) = 2 * n + 3 := by
  induction n with
  | zero => rfl
  | succ n ih =>
    rw [nested, Settings.copyCalls, Settings.copyCallsOfItems, Settings.copyCallsOfItems, ih]
    omega

/-- A world whose file of preferences sets the level of the log to five hundred lists in one
another. -/
def nestedWorld : World :=
  preferring (levelText (nested 499))

/-- A level of five hundred lists in one another is loaded, and the environment laid over it; with
room for 992 calls in one another the same settings cannot be copied. -/
theorem underEnvironment_nested :
    FileSays nestedWorld (pathsFor nestedWorld none) (.ok (levelled (nested 499))) ∧
      ∃ q, Runs (load none [(Environment.maxNonce, "5")]) nestedWorld (.ok q) nestedWorld ∧
        (levelled (nested 499)).toSettings.underEnvironment 992 [(Environment.maxNonce, "5")] =
          .error .tooManyCalls ∧
        .ok q.toSettings ≠ (levelled (nested 499)).toSettings.underEnvironment 992
          [(Environment.maxNonce, "5")] := by
  have hfound := fileSays_levelled (carried_nested (show 499 < 989 by decide))
  have hoverrides : Settings.Overrides.ofEnvironment [(Environment.maxNonce, "5")] =
      .ok ⟨none, some 5, none, none, none⟩ :=
    ofEnvironment_maxNonce (s := "5") rfl rfl (by decide +kernel) ⟨rfl, rfl, rfl⟩
  have hoverruns : Settings.Overruns 992 (levelled (nested 499)).toSettings
      [(Environment.maxNonce, "5")] := by
    refine ⟨Settings.not_firstMisspelt hoverrides, ⟨Environment.maxNonce, by decide, rfl⟩, ?_⟩
    rw [calls_levelled, copyCalls_nested]
    omega
  have hcopied := Settings.underEnvironment_of_overruns hoverruns
  have hloaded : Runs (load none [(Environment.maxNonce, "5")]) nestedWorld
      ((levelled (nested 499)).override [(Environment.maxNonce, "5")]) nestedWorld :=
    (reads_ofFiles hfound not_lacksFolder_preferring).bind_ok (.lift _ _)
  rw [override_eq, hoverrides] at hloaded
  refine ⟨hfound, _, hloaded, hcopied, ?_⟩
  rw [hcopied]
  exact nofun

end Attest.Preferences
