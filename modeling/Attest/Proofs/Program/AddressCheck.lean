import Attest.Proofs.Arguments.Exclusive
import Attest.Proofs.Program.Verdict

/-!
# Exit codes for addresses

An address to check is reported as valid or as invalid, with a code for each.  The empty text is no
address either, but it does not count as told: the command then derives an address from a key, and
there is none, since a key and an address exclude each other.
-/

namespace Attest

namespace Command

/-- What is written of an address that was checked. -/
def checkText (json : Bool) : Except Fault Address → String
  | .ok a =>
    (if json then jsonText (.object [("valid", .bool true), ("type", .text a.kind.name)])
      else s!"valid: true ({a.kind.name})") ++ "\n"
  | .error f =>
    (if json then jsonText (.object [("valid", .bool false), ("error", .text f.message)])
      else s!"valid: false ({f.message})") ++ "\n"

section replies

variable {p : Preferences} {key : Value} {s : String} {kind : Option String} {json : Bool}

theorem checkReply_eq (s : String) (json : Bool) : checkReply s json =
    { code := if (Address.parse s).toOption.isSome then 0 else 2
      out := checkText json (Address.parse s)
      err := "" } := by
  rw [checkReply, Address.validate]
  cases hparse : Address.parse s with
  | ok a => cases json <;> simp [Except.map, Except.toOption, checkText, Reply.success, String.join]
  | error f =>
    cases json <;>
      simp [Except.map, Except.toOption, checkText, Reply.verdict, Reply.success, String.join]

theorem addressReply_of_ne (hs : s ≠ "") :
    addressReply p key (some s) kind json = .ok (checkReply s json) := by
  have hgiven : (some s).filter (!·.isEmpty) = some s := by simp [hs]
  rw [addressReply, hgiven]
  rfl

/-- Without a key nothing is derived, whatever kind of address is asked for. -/
theorem exists_addressReply_empty (p : Preferences) (kind : Option String) (json : Bool) :
    ∃ e, addressReply p .null (some "") kind json = .error e := by
  have hgiven : (some "").filter (!·.isEmpty) = none := rfl
  rw [addressReply, hgiven]
  cases hkind : (AddressKind.ofValue ((kind.map Value.text).getD p.addressType)).mapError
      Failure.badValue with
  | error e => exact ⟨e, rfl⟩
  | ok kind => exact ⟨.lacksAttribute "NoneType" "startswith", rfl⟩

end replies

end Command

/-- **How a run tells that an address is valid.**  Once the preferences are loaded, a run lets a
failure through exactly if the log cannot be opened.  A text to check that is not empty is reported
with its kind and code zero if it is an address, and as invalid with code two if not.  The empty
text, which is no address, ends with code one and without a report. -/
theorem runProgram_checksAddress (scheme : SignatureScheme) {env : Environment}
    {args : List String} {w : World} {i : Invocation} {p : Preferences} {key : Value} {s : String}
    {kind : Option String} {json : Bool} (hparse : Invocation.parse args = .ok (some i))
    (hcommand : i.command = .address key (some s) kind json)
    (hload : Runs (Preferences.load i.config env) w (.ok p) w) :
    ∃ o u, (runProgram scheme env args : StateM World Outcome).run w = (o, u) ∧
      (∀ e, o.result = .error e ↔ LogFails i.logLevel p w e) ∧
      ∀ code, o.result = .ok code →
        (s ≠ "" → (code = 0 ↔ ∃ a, Address.parse s = .ok a) ∧
          (code = 2 ↔ ∃ f, Address.parse s = .error f) ∧
          o.out = Command.checkText json (Address.parse s) ∧ o.err = "") ∧
        (s = "" → (∃ f, Address.parse s = .error f) ∧ code = 1 ∧ o.out = "") := by
  obtain rfl : key = .null := key_of_parse_address hparse hcommand
  obtain ⟨o, u, hrun, hfails, hends⟩ := exists_run_of_load scheme hparse hload
  refine ⟨o, u, hrun, hfails, fun code hcode => ?_⟩
  obtain ⟨level, log, v, x, lines, -, hexec, rfl, rfl⟩ := hends code hcode
  rw [hcommand] at hexec
  cases (Command.exec_lift _).symm.trans hexec
  refine ⟨fun hs => ?_, fun hs => ?_⟩
  · rw [Command.addressReply_of_ne hs, Command.checkReply_eq]
    cases Address.parse s <;>
      simp [Except.toOption, exitCode, Outcome.ofCommand, Outcome.ofReply]
  · subst hs
    obtain ⟨e, hreply⟩ := Command.exists_addressReply_empty p kind json
    rw [hreply]
    exact ⟨⟨_, rfl⟩, rfl, rfl⟩

/-! ## Two texts that are no address -/

theorem parse_checkAddress {text : String}
    (hread : (Invocation.parse ["address", "--validate", text]).toOption.join.any
      (fun i => i.config.isNone && i.logLevel.isNone && match i.command with
        | .address key told kind json =>
          key.kind = "NoneType" && told = some text && kind.isNone && !json
        | _ => false) = true) :
    Invocation.parse ["address", "--validate", text] =
      .ok (some ⟨none, none, .address .null (some text) none false⟩) := by
  obtain ⟨⟨config, logLevel, command⟩, hparse, hread⟩ := exists_invocation_of_any hread
  simp only [Bool.and_eq_true, Option.isNone_iff_eq_none] at hread
  obtain ⟨⟨rfl, rfl⟩, hcommand⟩ := hread
  split at hcommand
  · next key told kind json =>
    simp only [Bool.and_eq_true, decide_eq_true_eq, Option.isNone_iff_eq_none,
      Bool.not_eq_true'] at hcommand
    obtain ⟨⟨⟨hkey, rfl⟩, rfl⟩, rfl⟩ := hcommand
    cases key with
    | null => exact hparse
    | _ => simp [Value.kind] at hkey
  · cases hcommand

theorem runs_load_emptyWorld :
    Runs (Preferences.load none []) World.empty (.ok .default) World.empty :=
  runs_load_of_absent rfl rfl (doesNotExist_of_isThere (by decide +kernel)) rfl

theorem runProgram_checksAddress_noAddress :
    Invocation.parse ["address", "--validate", "no address"] =
        .ok (some ⟨none, none, .address .null (some "no address") none false⟩) ∧
      Runs (Preferences.load none []) World.empty (.ok .default) World.empty ∧
      ∃ o u, (runProgram .ed25519 [] ["address", "--validate", "no address"] :
        StateM World Outcome).run World.empty = (o, u) ∧ o.result = .ok 2 := by
  have hparse := @parse_checkAddress "no address" (by decide +kernel)
  have hdetect : Address.detect "no address" = none := by decide +kernel
  have hno : Address.parse "no address" =
      .error (.badAddress "Unknown address format" "no address") := by
    rw [Address.parse, hdetect]
  obtain ⟨o, u, hrun, hfails, hcode⟩ :=
    runProgram_checksAddress .ed25519 hparse rfl runs_load_emptyWorld
  refine ⟨hparse, runs_load_emptyWorld, o, u, hrun, ?_⟩
  cases hresult : o.result with
  | error e => exact absurd ((hfails e).1 hresult) (not_logFails_default _ e)
  | ok code =>
    obtain ⟨-, hinvalid, -⟩ := (hcode code hresult).1 (by decide)
    rw [hinvalid.2 ⟨_, hno⟩]

/-- The empty text is told and is no address, but it is not reported as invalid. -/
theorem runProgram_emptyAddress :
    Invocation.parse ["address", "--validate", ""] =
        .ok (some ⟨none, none, .address .null (some "") none false⟩) ∧
      Runs (Preferences.load none []) World.empty (.ok .default) World.empty ∧
      (∃ f, Address.parse "" = .error f) ∧
      ∃ o u, (runProgram .ed25519 [] ["address", "--validate", ""] :
        StateM World Outcome).run World.empty = (o, u) ∧
          o.result = .ok 1 ∧ o.result ≠ .ok 2 ∧ o.out = "" := by
  have hparse := @parse_checkAddress "" (by decide +kernel)
  obtain ⟨o, u, hrun, hfails, hends⟩ := exists_run_of_load .ed25519 hparse runs_load_emptyWorld
  refine ⟨hparse, runs_load_emptyWorld, ⟨_, rfl⟩, o, u, hrun, ?_⟩
  cases hresult : o.result with
  | error e => exact absurd ((hfails e).1 hresult) (not_logFails_default _ e)
  | ok code =>
    obtain ⟨level, log, v, x, lines, -, hexec, rfl, rfl⟩ := hends code hresult
    obtain ⟨e, hreply⟩ := Command.exists_addressReply_empty .default none false
    cases (Command.exec_lift _).symm.trans hexec
    rw [hreply]
    exact ⟨rfl, by simp [exitCode], rfl⟩

end Attest
