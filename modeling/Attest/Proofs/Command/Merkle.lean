import Attest.Proofs.Command.Work
import Attest.Proofs.Json.Lines
import Attest.Proofs.Merkle.Completeness
import Attest.Proofs.Merkle.Membership
import Attest.Proofs.Merkle.Wire

/-!
# Roots, proofs and verdicts of one list of items

Three commands work on the same items at different times: one shows the root, one writes a proof to
a file, one reads the file and checks it against a root.  Each is followed through once
(`exists_exec_runRoot`, `exists_exec_runProve_of_lt`, `exec_runVerifyProof`); what holds them
together is the tree, which depends on the items alone, and the file, whose text is read as the
proof it was written for.
-/

namespace Attest

open Journal Merkle

/-! ## Proofs -/

namespace Merkle

theorem Tree.proveAt_int (t : Tree) (i : Int) : t.proveAt (.int i) = t.prove i := by
  show (if (Number.int i).isLess (.int 0) || (Number.int t.leafCount).isAtMost (.int i) then _
    else _) = _
  rw [Number.isLess_int, Number.isAtMost_int, ← Bool.decide_or]
  by_cases hi : 0 ≤ i ∧ i < t.leafCount
  · rw [if_neg (by rw [decide_eq_true_eq]; omega)]
  · rw [if_pos (by rw [decide_eq_true_eq]; omega), t.prove_of_not_inRange hi]
    rfl

/-- A proof holds against the root of its tree and no other. -/
theorem Tree.verify_proofAt_iff (t : Tree) {i : Nat} (hi : i < t.leafCount) (d : Digest) :
    (t.proofAt i).verify d = true ↔ d = t.root := by
  have hproves := (Proof.verify_iff _ _).1 (t.proves_proofAt hi).verified
  rw [Proof.verify_iff, hproves.2]
  exact ⟨fun h => h.2.symm, fun h => ⟨hproves.1, h.symm⟩⟩

/-- A proof is read back from the text of its file. -/
theorem Proof.ofJson_fileText {p : Proof}
    (hindex : (Nat.toDigits 10 p.index).length ≤ Numeral.digitLimit) :
    ofJson (String.ofList (Text.normaliseLineEnds
      (Json.write (.spaces 2) p.toValue ++ "\n").toList)) = .ok p := by
  have hspace : ∀ c ∈ ['\n'], Json.isSpace c = true := by simp [Json.isSpace]
  rw [Json.normaliseLineEnds_write (carried_toValue hindex), String.ofList_toList]
  exact ofJson_write_append hindex (Json.Layout.isBlank_spaces 2) hspace

end Merkle

namespace Command

/-! ## Texts with and without halves of characters -/

theorem hasHalf_append (s t : String) :
    Text.hasHalf (s ++ t) = (Text.hasHalf s || Text.hasHalf t) := by
  rw [Text.hasHalf, String.toList_append, List.any_append]
  rfl

theorem naming_of_not_hasHalf {line : String} (h : Text.hasHalf line = false)
    (rest : List String) : Reply.naming line rest = .ok (.success (line :: rest)) := by
  rw [Reply.naming, Bytes.encode_of_not_hasHalf h]
  rfl

theorem exists_naming_eq_error {line : String} (h : Text.hasHalf line = true)
    (rest : List String) : ∃ message, Reply.naming line rest = .error (.unwritable message) := by
  obtain ⟨message, hrefused⟩ := Bytes.exists_encode_eq_error h
  refine ⟨message, ?_⟩
  rw [Reply.naming, hrefused]
  rfl

theorem hasHalf_written (path : String) :
    Text.hasHalf s!"Proof written to: {path}" = Text.hasHalf path := by
  have hwords : Text.hasHalf "Proof written to: " = false := by decide
  show Text.hasHalf ("Proof written to: " ++ path) = _
  rw [hasHalf_append, hwords, Bool.false_or]

section items

variable {items : List String}

theorem itemsOfArguments_of_not_hasHalf (h : ∀ s ∈ items, Text.hasHalf s = false) :
    itemsOfArguments items = .ok (items.map Bytes.ofText) :=
  mapM_eq_ok fun s hs => Bytes.encode_of_not_hasHalf (h s hs)

theorem not_hasHalf_of_itemsOfArguments {bs : List Bytes} (h : itemsOfArguments items = .ok bs) :
    ∀ s ∈ items, Text.hasHalf s = false := by
  induction items generalizing bs with
  | nil => exact List.forall_mem_nil _
  | cons s items ih =>
    rw [itemsOfArguments, List.mapM_cons] at h
    cases hs : Bytes.encode s with
    | error e =>
      rw [hs] at h
      cases h
    | ok b =>
      cases hrest : items.mapM Bytes.encode with
      | error e =>
        rw [hs, hrest] at h
        cases h
      | ok rest => exact List.forall_mem_cons.2 ⟨(Bytes.encode_eq_ok_iff.1 hs).1, ih hrest⟩

end items

section stages

variable {items : List String} {t : Tree} {log : Log} {lines file : String} {w u : World}
  {place : Place}

theorem exists_exec_buildTree (h : Tree.ofItems (items.map Bytes.ofText) = .ok t) (log : Log)
    (lines : String) (w : World) :
    ∃ after u, exec (buildTree (items.map Bytes.ofText)) log lines w =
      ((.ok (.ok t), after), u) ∧ ∀ place, Avoids log w place → World.Keeps place w u := by
  obtain ⟨after, u, hnote, hkeeps⟩ := exists_exec_note log lines w (treeNote t)
  refine ⟨after, u, ?_, hkeeps⟩
  rw [buildTree, h]
  exact exec_bind_of_ok hnote

theorem exec_loadItems (items : List String) (log : Log) (lines : String) (w : World) :
    exec (loadItems items none) log lines w = ((itemsOfArguments items, lines), w) :=
  exec_lift _

theorem exec_loadItems_of_not_hasHalf (hitems : ∀ s ∈ items, Text.hasHalf s = false) :
    exec (loadItems items none) log lines w = ((.ok (items.map Bytes.ofText), lines), w) := by
  rw [exec_loadItems, itemsOfArguments_of_not_hasHalf hitems]

theorem exists_exec_runRoot (hitems : ∀ s ∈ items, Text.hasHalf s = false)
    (h : Tree.ofItems (items.map Bytes.ofText) = .ok t) (log : Log) (lines : String) (w : World) :
    ∃ after u, exec (runRoot items none false) log lines w =
      ((.ok (.success [t.root.toHex]), after), u) := by
  obtain ⟨after, u, htree, -⟩ := exists_exec_buildTree h log lines w
  refine ⟨after, u, ?_⟩
  rw [runRoot, exec_bind_of_ok (exec_loadItems_of_not_hasHalf hitems), exec_bind_of_ok htree]
  rfl

theorem givenPath?_of_ne (h : file ≠ "") : givenPath? (some file) = some (Path.normalise file) := by
  simp [givenPath?, h]

/-- Behind the tree, making a proof is writing it to its file and a note of that, and then to name
the file. -/
theorem exists_exec_runProve_of_lt (hitems : ∀ s ∈ items, Text.hasHalf s = false)
    (h : Tree.ofItems (items.map Bytes.ofText) = .ok t) {i : Nat} (hi : i < t.leafCount)
    (hindex : Numeral.isWritable i = true) (hfile : file ≠ "")
    (hw : w.Writable (Path.normalise file) place) (hlog : Avoids log w place) (lines : String) :
    ∃ after u, exec (runProve items none (.int i) (some file)) log lines w =
        ((Reply.naming s!"Proof written to: {Path.normalise file}" [s!"root: {t.root.toHex}"],
          after), u) ∧
      u.read (Path.normalise file) =
        .ok (Bytes.ofText (Json.write (.spaces 2) (t.proofAt i).toValue ++ "\n")) := by
  obtain ⟨after, w₁, htree, hkeeps⟩ := exists_exec_buildTree h log lines w
  have hkept : World.Keeps place w w₁ := hkeeps place hlog
  have hproof : t.proveAt (.int i) = .ok (t.proofAt i) := by
    rw [t.proveAt_int, t.prove_of_lt hi]
  have hw₁ : w₁.Writable (Path.normalise file) place := hw.keep hkept
  let text := Json.write (.spaces 2) (t.proofAt i).toValue ++ "\n"
  let w₂ := w₁.put place (.file (Bytes.ofText text))
  have hjson : exec (liftM ((t.proofAt i).toJson (.spaces 2)) : Work (StateM World) String) log
      after w₁ = ((.ok (Json.write (.spaces 2) (t.proofAt i).toValue), after), w₁) := by
    rw [exec_lift, Proof.toJson_of_isWritable hindex]
  have hwrite : exec (onHost (Host.writeText (Path.normalise file) text)) log after w₁ =
      ((.ok (), after), w₂) := exec_onHost (Host.runs_writeText hw₁)
  have hlog₂ : Avoids log w₂ place :=
    hlog.keep (hkept.folders.trans (World.sameFolders_put hw₁.free _))
  obtain ⟨last, u, hnote, hkeeps₂⟩ :=
    exists_exec_note log after w₂ (writtenNote (t.proofAt i) (Path.normalise file))
  -- The note behind the writing goes elsewhere, so the file still has its text in `u`.
  refine ⟨last, u, ?_, hw₁.read_put (hkeeps₂ place hlog₂)⟩
  rw [runProve, exec_bind_of_ok (exec_loadItems_of_not_hasHalf hitems), exec_bind_of_ok htree]
  simp only [hproof]
  rw [exec_bind_of_ok hjson, givenPath?_of_ne hfile]
  dsimp only
  rw [exec_bind_of_ok hwrite, exec_bind_of_ok hnote]
  exact exec_lift _

theorem exists_exec_runProve_of_not_inRange (hitems : ∀ s ∈ items, Text.hasHalf s = false)
    (h : Tree.ofItems (items.map Bytes.ofText) = .ok t) {i : Int}
    (hi : ¬ (0 ≤ i ∧ i < t.leafCount)) (out : Option String) (log : Log) (lines : String)
    (w : World) :
    ∃ r after u, exec (runProve items none (.int i) out) log lines w = ((r, after), u) ∧
      (if Numeral.isWritable i then ∃ reply, r = .ok reply ∧ reply.code = 1
        else r = .error (.badValue Numeral.unwritableText)) ∧
      ∀ place, Avoids log w place → World.Keeps place w u := by
  obtain ⟨after, u, htree, hkeeps⟩ := exists_exec_buildTree h log lines w
  have hproof : t.proveAt (.int i) = .error (.outOfRange (.int i) t.leafCount []) := by
    rw [t.proveAt_int, t.prove_of_not_inRange hi]
  have hitemsLoaded : exec (loadItems items none) log lines w =
      ((.ok (items.map Bytes.ofText), lines), w) := exec_loadItems_of_not_hasHalf hitems
  cases hwritable : Numeral.isWritable i with
  | true =>
    rw [Failure.outOfRange, Failure.naming_of_isWritable hwritable] at hproof
    refine ⟨.ok (.refusal (Fault.indexOutOfRange (.int i) t.leafCount []).message), after, u, ?_,
      ⟨_, rfl, rfl⟩, hkeeps⟩
    rw [runProve, exec_bind_of_ok hitemsLoaded, exec_bind_of_ok htree]
    simp only [hproof]
    rfl
  | false =>
    rw [Failure.outOfRange, Failure.naming_of_not_isWritable hwritable] at hproof
    refine ⟨.error (.badValue Numeral.unwritableText), after, u, ?_, rfl, hkeeps⟩
    rw [runProve, exec_bind_of_ok hitemsLoaded, exec_bind_of_ok htree]
    simp only [hproof]
    rfl

theorem code_verdictReply (p : Proof) (d : Digest) (json : Bool) :
    (verdictReply p d json).code = if p.verify d then 0 else 2 := rfl

/-- A proof whose text a file has is checked against the root that is told. -/
theorem exec_runVerifyProof {p : Proof} (hpath : Host.noPath? (Path.normalise file) = none)
    (hindex : (Nat.toDigits 10 p.index).length ≤ Numeral.digitLimit)
    (hread : u.read (Path.normalise file) =
      .ok (Bytes.ofText (Json.write (.spaces 2) p.toValue ++ "\n")))
    {s : String} {d : Digest} (hs : Digest.parse s = .ok d) (json : Bool) :
    exec (runVerifyProof file (.text s) json) log lines u =
      ((.ok (verdictReply p d json), lines), u) := by
  have hthere : exec (onHost (Host.doesExist (Path.normalise file))) log lines u =
      ((.ok true, lines), u) :=
    exec_onHost (Host.runs_doesExist hpath (World.isThere_of_read hread))
  have hcontent : exec (onHost (Host.readText (Path.normalise file))) log lines u =
      ((.ok (String.ofList (Text.normaliseLineEnds
        (Json.write (.spaces 2) p.toValue ++ "\n").toList)), lines), u) :=
    exec_onHost (Host.runs_readText hpath hread)
  have hroot : Digest.ofValue (.text s) = .ok d := hs
  rw [runVerifyProof, exec_bind_of_ok hthere]
  simp only [Bool.not_true, Bool.false_eq_true, if_false]
  rw [exec_bind_of_ok hcontent, Proof.ofJson_fileText hindex]
  simp only [hroot]
  rfl

end stages

/-! ## The three commands -/

/-- A log of warnings that is not kept. -/
def fleetingLog : Log where
  threshold := 30
  file := none

end Command

end Attest
