import Attest.Proofs.Command.Merkle
import Attest.Proofs.Program.Dispatch

/-!
# Exit codes of checks

Two commands check something: a proof in a file against a root, and a signature of a message.
Their codes tell how the check went (`Judges`): what is to be checked may be missing or not be what
it should, in many ways, and all of these have one code.  The text of the file is the one that it
has before the run, since the log is the only thing that is written ahead of the command.
-/

namespace Attest

open Merkle

/-! ## Codes -/

/-- An exit code tells how a check went: zero for a yes, two for a no, and one where there is
nothing to be checked. -/
structure Judges (code : Nat) (check : Bool → Prop) : Prop where
  holds : code = 0 ↔ check true
  fails : code = 2 ↔ check false
  stops : code = 1 ↔ ∀ b, ¬ check b

section codes

variable {check check' : Bool → Prop} {code : Nat} {b : Bool}

theorem Judges.of_check (h : ∀ b', check b' ↔ b' = b) : Judges (if b then 0 else 2) check := by
  constructor <;> cases b <;> simp [h]

theorem Judges.of_none (h : ∀ b, ¬ check b) : Judges 1 check := by
  constructor <;> simp [h]

theorem Judges.congr (h : Judges code check) (hiff : ∀ b, check b ↔ check' b) :
    Judges code check' := by
  constructor
  · exact h.holds.trans (hiff true)
  · exact h.fails.trans (hiff false)
  · exact h.stops.trans (forall_congr' fun b => not_congr (hiff b))

end codes

/-! ## Texts of files -/

/-- A file that is there has a text: its content is UTF-8, and line feeds stand for all line
ends. -/
structure World.HasText (w : World) (path text : String) : Prop where
  isPath : Host.noPath? path = none
  isUtf8 : ∃ content cs, w.read path = .ok content ∧ Utf8.decode content = .ok cs ∧
    text = String.ofList (Text.normaliseLineEnds cs)

section texts

variable {w u : World} {path text text' : String}

theorem World.HasText.unique (h : w.HasText path text) (h' : w.HasText path text') :
    text = text' := by
  obtain ⟨content, cs, hread, hdecode, rfl⟩ := h.isUtf8
  obtain ⟨content', cs', hread', hdecode', rfl⟩ := h'.isUtf8
  cases hread.symm.trans hread'
  cases hdecode.symm.trans hdecode'
  rfl

/-- A file has a text, which is what is read of it, or reading it fails. -/
theorem World.hasText_or (w : World) (path : String) :
    (∃ text, w.HasText path text ∧ Runs (Host.doesExist path) w (.ok true) w ∧
        Runs (Host.readText path) w (.ok text) w) ∨
      (∀ text, ¬ w.HasText path text) ∧ ∃ e, Runs (Host.readText path) w (.error e) w := by
  cases hpath : Host.noPath? path with
  | some e =>
    refine .inr ⟨fun text h => ?_, e, ?_⟩
    · rw [h.isPath] at hpath
      cases hpath
    · refine Runs.bind_error ?_
      simp only [Host.readBytes, Host.atPath, hpath]
      exact .throw e w
  | none =>
    have hbytes := runs_atPath hpath (y := Host.read path) (w := w) (u := w) (r := w.read path) rfl
    cases hread : w.read path with
    | error problem =>
      rw [hread] at hbytes
      refine .inr ⟨fun text h => ?_, _, hbytes.bind_error⟩
      obtain ⟨content, cs, hcontent, -⟩ := h.isUtf8
      cases hread.symm.trans hcontent
    | ok content =>
      rw [hread] at hbytes
      have hexists := Host.runs_doesExist hpath (World.isThere_of_read hread)
      cases hdecode : Utf8.decode content with
      | error f =>
        refine .inr ⟨fun text h => ?_, .badText f, hbytes.bind_ok ?_⟩
        · obtain ⟨content', cs, hread', hdecode', -⟩ := h.isUtf8
          cases hread.symm.trans hread'
          cases hdecode.symm.trans hdecode'
        · rw [hdecode]
          exact .throw _ w
      | ok cs =>
        refine .inl ⟨_, ⟨hpath, content, cs, hread, hdecode, rfl⟩, hexists, hbytes.bind_ok ?_⟩
        rw [hdecode]
        exact .pure _ w

theorem World.Opened.hasText (h : World.Opened w u) (htext : w.HasText path text) :
    u.HasText path text := by
  obtain ⟨content, cs, hread, hdecode⟩ := htext.isUtf8
  obtain ⟨place, hplace, hentry⟩ := World.read_eq_ok_iff.1 hread
  have hsame : u.entryAt? place = w.entryAt? place := by
    rcases h.entries place with hsame | ⟨hnone, -⟩
    · exact hsame
    · rw [hentry] at hnone
      cases hnone
  refine ⟨htext.isPath, content, cs, World.read_eq_ok_iff.2 ⟨place, ?_, ?_⟩, hdecode⟩
  · exact h.folders.locate_eq_ok_iff.2 hplace
  · rw [hsame, hentry]

theorem World.Opened.hasText_or_empty (h : World.Opened w u) (htext : u.HasText path text) :
    w.HasText path text ∨ text = "" := by
  obtain ⟨content, cs, hread, hdecode, rfl⟩ := htext.isUtf8
  obtain ⟨place, hplace, hentry⟩ := World.read_eq_ok_iff.1 hread
  rcases h.entries place with hsame | ⟨-, hempty⟩
  · have hread : w.read path = .ok content :=
      World.read_eq_ok_iff.2 ⟨place, h.folders.locate_eq_ok_iff.1 hplace, by rw [← hsame, hentry]⟩
    exact .inl ⟨htext.isPath, content, cs, hread, hdecode, rfl⟩
  · right
    cases hentry.symm.trans hempty
    cases hdecode
    rfl

end texts

/-! ## The two checks -/

/-- What the check of the proof in a file against a root says. -/
def ProofCheck (w : World) (path : String) (root : Value) (b : Bool) : Prop :=
  ∃ text p d, w.HasText path text ∧ Proof.ofJson text = .ok p ∧ Digest.ofValue root = .ok d ∧
    p.verify d = b

/-- What the check of a signature of a message says. A message with halves of characters has no
bytes that could be signed. -/
def SignatureCheck (scheme : SignatureScheme) (key signature : Value) (message : String)
    (b : Bool) : Prop :=
  ∃ k s bytes, PublicKey.ofText key = .ok k ∧ Signature.ofText signature = .ok s ∧
    Bytes.encode message = .ok bytes ∧ k.verify scheme bytes s = b

namespace Command

variable {log : Journal.Log} {lines path file : String} {root : Value} {w u : World}

theorem judges_proofReply {text : String} (htext : w.HasText path text) {p : Proof}
    (hp : Proof.ofJson text = .ok p) (root : Value) (json : Bool) :
    Judges (orRefusal (Digest.ofValue root) fun d => verdictReply p d json).code
      (ProofCheck w path root) := by
  cases hroot : Digest.ofValue root with
  | error f =>
    refine .of_none fun b => ?_
    rintro ⟨text', p', d, -, -, hd, -⟩
    cases hroot.symm.trans hd
  | ok d =>
    refine .of_check fun b' => ⟨?_, ?_⟩
    · rintro ⟨text', p', d', htext', hp', hd', hverify⟩
      cases htext.unique htext'
      cases hp.symm.trans hp'
      cases hroot.symm.trans hd'
      exact hverify.symm
    · rintro rfl
      exact ⟨text, p, d, htext, hp, hroot, rfl⟩

theorem exists_judges_runVerifyProof (file : String) (root : Value) (json : Bool)
    (log : Journal.Log) (lines : String) (w : World) :
    ∃ x, exec (runVerifyProof file root json) log lines w = ((x, lines), w) ∧
      Judges (exitCode x) (ProofCheck w (Path.normalise file) root) := by
  rcases w.hasText_or (Path.normalise file) with ⟨text, htext, hexists, hread⟩ | ⟨hnone, e, hread⟩
  · rw [runVerifyProof, exec_bind_of_ok (exec_onHost hexists)]
    simp only [Bool.not_true, Bool.false_eq_true, if_false]
    rw [exec_bind_of_ok (exec_onHost hread)]
    cases hp : Proof.ofJson text with
    | ok p => exact ⟨_, rfl, judges_proofReply htext hp root json⟩
    | error e =>
      have hnone : ∀ b, ¬ ProofCheck w (Path.normalise file) root b := by
        rintro b ⟨text', p, d, htext', hp', -⟩
        cases htext.unique htext'
        cases hp.symm.trans hp'
      cases e with
      | fault f => exact ⟨_, rfl, .of_none hnone⟩
      | _ => exact ⟨_, rfl, .of_none hnone⟩
  · have hnone : ∀ b, ¬ ProofCheck w (Path.normalise file) root b := by
      rintro b ⟨text, p, d, htext, -⟩
      exact hnone text htext
    -- Whether there is something at the path or not, it ends with a refusal or a failure.
    obtain ⟨there, hthere, -⟩ := Host.readsOrTells_doesExist (Path.normalise file) w
    rw [runVerifyProof]
    cases there with
    | error e => exact ⟨_, exec_bind_of_error (exec_onHost hthere), .of_none hnone⟩
    | ok there =>
      rw [exec_bind_of_ok (exec_onHost hthere)]
      cases there with
      | false => exact ⟨_, rfl, .of_none hnone⟩
      | true =>
        simp only [Bool.not_true, Bool.false_eq_true, if_false]
        exact ⟨_, exec_bind_of_error (exec_onHost hread), .of_none hnone⟩

theorem exitCode_orFailure_error {α : Type} (e : Failure) (reply : α → Reply) :
    exitCode (orFailure (.error e) reply) = 1 := by
  cases e <;> rfl

theorem judges_verifyReply (scheme : SignatureScheme) (key signature : Value) (message : String)
    (json : Bool) : Judges (exitCode (verifyReply scheme key signature message json))
      (SignatureCheck scheme key signature message) := by
  rw [verifyReply]
  cases hkey : PublicKey.ofText key with
  | error e =>
    refine (exitCode_orFailure_error e _).symm ▸ .of_none fun b => ?_
    rintro ⟨k, s, bytes, hk, -⟩
    cases hkey.symm.trans hk
  | ok k =>
    cases hsignature : Signature.ofText signature with
    | error e =>
      refine (exitCode_orFailure_error e _).symm ▸ .of_none fun b => ?_
      rintro ⟨k', s, bytes, -, hs, -⟩
      cases hsignature.symm.trans hs
    | ok s =>
      cases hbytes : Bytes.encode message with
      | error e =>
        refine (exitCode_orFailure_error e _).symm ▸ .of_none fun b => ?_
        rintro ⟨k', s', bytes, -, -, hb, -⟩
        cases hbytes.symm.trans hb
      | ok bytes =>
        refine .of_check fun b' => ⟨?_, ?_⟩
        · rintro ⟨k', s', bytes', hk, hs, hb, hverify⟩
          cases hkey.symm.trans hk
          cases hsignature.symm.trans hs
          cases hbytes.symm.trans hb
          exact hverify.symm
        · rintro rfl
          exact ⟨k, s, bytes, hkey, hsignature, hbytes, rfl⟩

end Command

/-! ## Runs -/

theorem World.Opened.proofCheck_iff {w u : World} (h : World.Opened w u) (path : String)
    (root : Value) (b : Bool) : ProofCheck u path root b ↔ ProofCheck w path root b := by
  have hempty : (Proof.ofJson "").toOption.isSome = false := by decide +kernel
  constructor
  · rintro ⟨text, p, d, htext, hp, hrest⟩
    rcases h.hasText_or_empty htext with htext | rfl
    · exact ⟨text, p, d, htext, hp, hrest⟩
    · -- An empty file that was made for the log is no proof.
      rw [hp] at hempty
      cases hempty
  · rintro ⟨text, p, d, htext, hrest⟩
    exact ⟨text, p, d, h.hasText htext, hrest⟩

section zeroProof

/-- The digest of zeros as text. -/
def zeros : String :=
  "0000000000000000000000000000000000000000000000000000000000000000"

/-- The proof that the only leaf of a tree is its root, for the digest of zeros. -/
def zeroProof : Proof where
  leaf := .zero
  index := 0
  steps := []
  root := .zero

/-- A world with a proof in a file and no file of preferences. -/
def proofWorld : World :=
  { World.empty with
    entries := [(["work", "p.json"],
      .file (Bytes.ofText (Json.write (.spaces 2) zeroProof.toValue ++ "\n")))] }

theorem parse_verifyZeros :
    Invocation.parse ["merkle", "verify", "p.json", "--root", zeros] =
      .ok (some ⟨none, none, .merkleVerify "p.json" (.text zeros) false⟩) := by
  have hread : (Invocation.parse ["merkle", "verify", "p.json", "--root", zeros]).toOption.join.any
      (fun i => i.config.isNone && i.logLevel.isNone && match i.command with
        | .merkleVerify file root json =>
          file = "p.json" && root.kind = "str" && root.plain = zeros && !json
        | _ => false) = true := by decide +kernel
  obtain ⟨⟨config, logLevel, command⟩, hparse, hread⟩ := exists_invocation_of_any hread
  simp only [Bool.and_eq_true, Option.isNone_iff_eq_none] at hread
  obtain ⟨⟨rfl, rfl⟩, hcommand⟩ := hread
  split at hcommand
  · next file root json =>
    simp only [Bool.and_eq_true, decide_eq_true_eq, Bool.not_eq_true'] at hcommand
    obtain ⟨⟨⟨rfl, hkind⟩, hroot⟩, rfl⟩ := hcommand
    cases root with
    | text s => rw [hparse, show s = zeros from hroot]
    | _ => simp [Value.kind] at hkind
  · cases hcommand

theorem proofCheck_proofWorld :
    ProofCheck proofWorld (Path.normalise "p.json") (.text zeros) true := by
  have hlocate : proofWorld.locate (Path.normalise "p.json") = .ok ["work", "p.json"] := by
    decide +kernel
  have hentry : proofWorld.entryAt? ["work", "p.json"] =
      some (.file (Bytes.ofText (Json.write (.spaces 2) zeroProof.toValue ++ "\n"))) :=
    if_neg (by decide +kernel)
  have hread := World.read_eq_ok_iff.2 ⟨_, hlocate, hentry⟩
  have hzeros : zeros = Digest.zero.toHex := by decide +kernel
  have hroot : Digest.ofValue (.text zeros) = .ok .zero := by
    rw [hzeros]
    exact Digest.zero.parse_toHex
  exact ⟨_, zeroProof, .zero, ⟨by decide +kernel, _, _, hread, Utf8.decode_ofText _, rfl⟩,
    Proof.ofJson_fileText (by decide), hroot, by decide⟩

end zeroProof

end Attest
