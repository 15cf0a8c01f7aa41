import Attest.Proofs.Command.Work

/-!
# Exit codes of commands

A command that ends does so with a reply, and every reply has one of three codes: zero for success,
one for a refusal, two for a negative answer.  The property is followed through a command by the
rules of `Ends`, which say nothing of a command that fails; what becomes of failures is the
program's affair.
-/

namespace Attest

namespace Reply

/-- The codes that replies have. -/
def HasCode (r : Reply) : Prop :=
  r.code ≤ 2

theorem hasCode_success (lines : List String) : (success lines).HasCode :=
  Nat.zero_le 2

theorem hasCode_of_naming {line : String} {rest : List String} {r : Reply}
    (h : naming line rest = .ok r) : r.HasCode := by
  rw [naming] at h
  cases hline : Bytes.encode line with
  | error e =>
    rw [hline] at h
    cases h
  | ok bs =>
    rw [hline] at h
    cases h
    exact hasCode_success _

theorem hasCode_verdict (holds : Bool) (lines : List String) : (verdict holds lines).HasCode := by
  cases holds
  · exact Nat.le_refl 2
  · exact Nat.zero_le 2

theorem hasCode_refusal (message : String) : (refusal message).HasCode :=
  Nat.le_succ 1

end Reply

namespace Command

open Journal Merkle

/-! ## Commands that end -/

section rules

variable {α β : Type} {P : α → Prop}

/-- What a command ends with, if it ends, has a property, in every world. -/
def Ends (P : α → Prop) (x : Work (StateM World) α) : Prop :=
  ∀ log lines w a after u, exec x log lines w = ((.ok a, after), u) → P a

theorem Ends.pure {a : α} (h : P a) : Ends P (pure a) := by
  intro log lines w b after u hexec
  rw [exec_pure] at hexec
  cases hexec
  exact h

theorem Ends.throw (e : Failure) : Ends P (throw e) := by
  intro log lines w b after u hexec
  rw [exec_throw] at hexec
  cases hexec

/-- What comes first does not matter, whatever it gives to what follows. -/
theorem Ends.bind {x : Work (StateM World) β} {f : β → Work (StateM World) α}
    (h : ∀ b, Ends P (f b)) : Ends P (x >>= f) := by
  intro log lines w a after u hexec
  rcases hx : exec x log lines w with ⟨⟨b | e, mid⟩, v⟩
  · rw [exec_bind_of_error hx] at hexec
    cases hexec
  · rw [exec_bind_of_ok hx] at hexec
    exact h _ log mid v a after u hexec

theorem Ends.lift {x : Except Failure α} (h : ∀ a, x = .ok a → P a) :
    Ends P (liftM x : Work (StateM World) α) := by
  cases x with
  | ok a => exact .pure (h a rfl)
  | error e => exact .throw e

end rules

/-! ## All commands -/

theorem hasCode_hashReply (label : String) (data : Bytes) (twice json : Bool) :
    (hashReply label data twice json).HasCode := by
  cases json <;> exact Reply.hasCode_success _

theorem ends_runHash (text file : Option String) (twice json : Bool) :
    Ends Reply.HasCode (runHash text file twice json) := by
  unfold runHash
  split
  · exact .bind fun data => .pure (hasCode_hashReply _ data twice json)
  · exact .bind fun data => .pure (hasCode_hashReply _ data twice json)
  · exact .pure (Reply.hasCode_refusal _)

theorem hasCode_orRefusal {α : Type} {x : Except Fault α} {reply : α → Reply}
    (h : ∀ a, (reply a).HasCode) : (orRefusal x reply).HasCode := by
  cases x with
  | ok a => exact h a
  | error f => exact Reply.hasCode_refusal _

theorem ends_runRoot (items : List String) (file : Option String) (json : Bool) :
    Ends Reply.HasCode (runRoot items file json) := by
  refine .bind fun loaded => .bind fun tree => .pure (hasCode_orRefusal fun t => ?_)
  unfold rootReply
  split <;> exact Reply.hasCode_success _

theorem ends_runProve (items : List String) (file : Option String) (index : Value)
    (out : Option String) : Ends Reply.HasCode (runProve items file index out) := by
  refine .bind fun loaded => .bind fun tree => ?_
  cases tree with
  | error f => exact .pure (Reply.hasCode_refusal _)
  | ok t =>
    dsimp only
    split
    · exact .pure (Reply.hasCode_refusal _)
    · exact .throw _
    · refine .bind fun text => ?_
      split
      · exact .pure (Reply.hasCode_success _)
      · exact .bind fun _ => .bind fun _ => .lift fun _ => Reply.hasCode_of_naming

theorem hasCode_verdictReply (p : Proof) (root : Digest) (json : Bool) :
    (verdictReply p root json).HasCode :=
  Reply.hasCode_verdict _ _

theorem ends_runVerifyProof (file : String) (root : Value) (json : Bool) :
    Ends Reply.HasCode (runVerifyProof file root json) := by
  refine .bind fun there => ?_
  split
  · exact .pure (Reply.hasCode_refusal _)
  · refine .bind fun text => ?_
    split
    · exact .pure (Reply.hasCode_refusal _)
    · exact .throw _
    · exact .pure (hasCode_orRefusal fun root => hasCode_verdictReply _ root json)

theorem hasCode_solutionReply (m : Miner.Unchecked) (s : Solution) (span : Nat) (json : Bool) :
    (solutionReply m s span json).HasCode := by
  unfold solutionReply
  split <;> exact Reply.hasCode_success _

theorem ends_runMine (p : Preferences) (header : String) (bits maxNonce : Option Value)
    (json : Bool) : Ends Reply.HasCode (runMine p header bits maxNonce json) := by
  unfold runMine
  split
  · split
    · exact .pure (Reply.hasCode_refusal _)
    · exact .throw _
  · refine .bind fun header => .bind fun start => .bind fun found => .bind fun stop => ?_
    cases found with
    | none => exact .bind fun _ => .pure (Reply.hasCode_refusal _)
    | some s => exact .bind fun _ => .pure (hasCode_solutionReply _ s _ json)

theorem hasCode_of_targetReply {bits : Value} {json : Bool} {r : Reply}
    (h : targetReply bits json = .ok r) : r.HasCode := by
  unfold targetReply at h
  split at h
  · split at h
    · cases h
      exact Reply.hasCode_refusal _
    · cases h
  · cases h
    exact Reply.hasCode_success _

theorem ends_runGenerate (scheme : SignatureScheme) (out : Option String) :
    Ends Reply.HasCode (runGenerate scheme out) := by
  refine .bind fun seed => .bind fun pair => ?_
  dsimp only
  split
  · exact .pure (Reply.hasCode_success _)
  · refine .bind fun there => ?_
    split
    · exact .pure (Reply.hasCode_refusal _)
    · exact .bind fun _ => .lift fun _ => Reply.hasCode_of_naming

theorem hasCode_of_orFailure {α : Type} {x : Except Failure α} {reply : α → Reply} {r : Reply}
    (hreply : ∀ a, (reply a).HasCode) (h : orFailure x reply = .ok r) : r.HasCode := by
  unfold orFailure at h
  split at h
  · cases h
    exact hreply _
  · cases h
    exact Reply.hasCode_refusal _
  · cases h

theorem hasCode_of_signReply {scheme : SignatureScheme} {key : Value} {message : String}
    {json : Bool} {r : Reply} (h : signReply scheme key message json = .ok r) : r.HasCode := by
  refine hasCode_of_orFailure (fun pair => ?_) h
  dsimp only
  split <;> exact Reply.hasCode_success _

theorem hasCode_of_verifyReply {scheme : SignatureScheme} {key signature : Value}
    {message : String} {json : Bool} {r : Reply}
    (h : verifyReply scheme key signature message json = .ok r) : r.HasCode :=
  hasCode_of_orFailure (fun _ => Reply.hasCode_verdict _ _) h

theorem hasCode_checkReply (address : String) (json : Bool) :
    (checkReply address json).HasCode := by
  unfold checkReply
  split
  · exact Reply.hasCode_success _
  · exact Reply.hasCode_verdict _ _

theorem hasCode_of_addressReply {p : Preferences} {key : Value} {text kind : Option String}
    {json : Bool} {r : Reply} (h : addressReply p key text kind json = .ok r) : r.HasCode := by
  unfold addressReply at h
  split at h
  · cases h
    exact hasCode_checkReply _ json
  · cases hkind : (AddressKind.ofValue ((kind.map Value.text).getD p.addressType)).mapError
        Failure.badValue with
    | error e =>
      rw [hkind] at h
      cases h
    | ok kind =>
      rw [hkind] at h
      exact hasCode_of_orFailure (fun _ => Reply.hasCode_success _) h

theorem ends_runConfig (p : Preferences) (create display : Bool) (path : Value) :
    Ends Reply.HasCode (runConfig p create display path) := by
  unfold runConfig
  split
  · refine .bind fun path => .bind fun there => ?_
    split
    · exact .pure (Reply.hasCode_refusal _)
    · exact .bind fun _ => .lift fun _ => Reply.hasCode_of_naming
  · split
    · exact .pure (Reply.hasCode_success _)
    · exact .pure (Reply.hasCode_success _)

/-- Every command that ends has one of the three codes. -/
theorem ends_run (scheme : SignatureScheme) (p : Preferences) (c : Command) :
    Ends Reply.HasCode (run scheme p c) := by
  cases c with
  | hash text file twice json => exact ends_runHash text file twice json
  | merkleRoot items file json => exact ends_runRoot items file json
  | merkleProve items file index out => exact ends_runProve items file index out
  | merkleVerify proof root json => exact ends_runVerifyProof proof root json
  | mine header bits maxNonce json => exact ends_runMine p header bits maxNonce json
  | target bits json => exact .lift fun _ h => hasCode_of_targetReply h
  | generate out => exact ends_runGenerate scheme out
  | sign key message json => exact .lift fun _ h => hasCode_of_signReply h
  | verify key signature message json => exact .lift fun _ h => hasCode_of_verifyReply h
  | address key text kind json => exact .lift fun _ h => hasCode_of_addressReply h
  | config create display path => exact ends_runConfig p create display path
  | usage text => exact .pure (Reply.hasCode_success _)

end Command

end Attest
