import Attest.Fault.Build
import Mathlib.Tactic.Common

/-!
# Faults as reports and back

A report does not name the kind of its fault; the code stands for it.  Whatever else it is built
from, a fault of a kind with a code of its own has this code (`exists_ofKind_of_fits`), so its kind
is found again.  A general fault may be given any code, and with that of another kind its report is
about a fault of this other kind (`toFault_report_eq_iff`).
-/

namespace Attest.Fault

/-- A fault as a draft, with each part of its type. -/
def draft (f : Fault) : Draft where
  kind := f.kind
  code := .text f.code
  message := .text f.message
  details := .object f.details
  retryable := .bool f.retryable

/-- Arguments of the types of their parameters.  A position, a number of leaves and an address may
be of any type. -/
structure Typed (arguments : Fields) : Prop where
  message : ∀ v, arguments.get? "message" = some v → ∃ s, v = .text s
  details : ∀ v, arguments.get? "details" = some v → v = .null ∨ ∃ fields, v = .object fields
  code : ∀ v, arguments.get? "code" = some v → ∃ s, v = .text s
  retryable : ∀ v, arguments.get? "retryable" = some v → ∃ b, v = .bool b

/-- Each argument is for a parameter of the kind, and all that have to be given are. -/
structure Named (kind : Kind) (arguments : Fields) : Prop where
  known : ∀ a ∈ arguments, ∃ p ∈ kind.parameters, p.name = a.1
  given : ∀ p ∈ kind.parameters, p.isRequired = true → ∃ v, arguments.get? p.name = some v

/-- Arguments that a kind of fault is built from. They are those of its parameters, and what the
message of a position out of range tells can be written. -/
structure Fits (kind : Kind) (arguments : Fields) : Prop extends Named kind arguments where
  written : kind = .indexOutOfRange → ∀ name ∈ ["index", "leaf_count"], ∀ v,
    arguments.get? name = some v → v.isWritable = true

/-! ## Codes -/

theorem Kind.ne_general_of_mem_registered : ∀ k ∈ Kind.registered, k ≠ .general := by
  decide

theorem Kind.code_ne_code_general : ∀ k ∈ Kind.registered, k.code ≠ Kind.general.code := by
  decide

theorem Kind.ofCode_eq_general_iff {code : String} :
    Kind.ofCode code = .general ↔ ∀ k ∈ Kind.registered, k.code ≠ code := by
  unfold Kind.ofCode
  cases hfind : Kind.registered.find? (fun k => k.code = code) with
  | none =>
    rw [List.find?_eq_none] at hfind
    exact iff_of_true rfl fun k hk => by simpa using hfind k hk
  | some k =>
    have hk := List.mem_of_find?_eq_some hfind
    have hcode : k.code = code := by simpa using List.find?_some hfind
    exact iff_of_false (Kind.ne_general_of_mem_registered k hk) fun hnone => hnone k hk hcode

/-! ## Reports -/

theorem report_draft (f : Fault) : f.draft.report = .ok f.report := by
  rfl

/-- A report tells nothing of the kind but what the code tells. -/
theorem toFault_report_eq_iff {f : Fault} :
    f.report.toFault = f ↔ Kind.ofCode f.code = f.kind :=
  ⟨fun h => congrArg Fault.kind h, Report.toFault_report⟩

/-- A report becomes a fault as a general fault would be built from its fields, but for the kind. -/
theorem build_general_fields (m : Report) :
    build .general m.fields = .ok { m.toFault.draft with kind := .general } := by
  obtain ⟨code, message, details, retryable⟩ := m
  cases details <;> rfl

/-! ## Arguments -/

section arguments

variable {kind : Kind} {arguments : Fields}

theorem checkArguments_eq_ok_iff :
    checkArguments kind arguments = .ok () ↔ Named kind arguments := by
  have hknown : arguments.find? (fun a => !kind.parameters.any (·.name = a.1)) = none ↔
      ∀ a ∈ arguments, ∃ p ∈ kind.parameters, p.name = a.1 := by
    simp [List.find?_eq_none]
  have hgiven : kind.parameters.filter (fun p => p.isRequired && (arguments.get? p.name).isNone) =
      [] ↔ ∀ p ∈ kind.parameters, p.isRequired = true → ∃ v, arguments.get? p.name = some v := by
    simp [List.filter_eq_nil_iff, Option.ne_none_iff_exists']
  unfold checkArguments
  dsimp only
  split
  · next name v hfind =>
    refine iff_of_false nofun fun h => ?_
    cases (hknown.2 h.known).symm.trans hfind
  · next hfind =>
    have hnone := Option.eq_none_iff_forall_ne_some.2 fun (a : String × Value) => hfind a.1 a.2
    split
    · next hmissing =>
      refine iff_of_false nofun fun h => ?_
      rw [hgiven.2 h.given] at hmissing
      cases hmissing
    · next hmissing =>
      rw [Bool.not_eq_true, Bool.not_eq_false', List.isEmpty_iff] at hmissing
      exact iff_of_true rfl ⟨hknown.1 hnone, hgiven.1 hmissing⟩

theorem exists_detailsArgument (h : Typed arguments) :
    ∃ fields, detailsArgument arguments = .object fields := by
  unfold detailsArgument
  split
  · exact ⟨[], rfl⟩
  · next v hv =>
    rcases h.details v hv with rfl | ⟨fields, rfl⟩
    · exact ⟨[], rfl⟩
    · split
      · exact ⟨fields, rfl⟩
      · exact ⟨[], rfl⟩

theorem exists_addGiven (fields arguments : Fields) (name : String) :
    ∃ details, addGiven (.object fields) arguments name = .ok (.object details) := by
  unfold addGiven
  split
  · exact ⟨fields, rfl⟩
  · exact ⟨fields, rfl⟩
  · next v _ hv => exact ⟨Fields.set fields name v, rfl⟩

theorem exists_text_getD {name : String}
    (h : ∀ v, arguments.get? name = some v → ∃ s, v = .text s) (default : String) :
    ∃ s, (arguments.get? name).getD (.text default) = .text s := by
  cases hv : arguments.get? name with
  | none => exact ⟨default, rfl⟩
  | some v => exact h v hv

theorem exists_message (htyped : Typed arguments) (hnamed : Named kind arguments)
    (hrequired : ⟨"message", true⟩ ∈ kind.parameters) :
    ∃ s, (arguments.get? "message").getD .null = .text s := by
  obtain ⟨v, hv⟩ := hnamed.given _ hrequired rfl
  obtain ⟨s, rfl⟩ := htyped.message v hv
  exact ⟨s, by rw [hv]; rfl⟩

/-! ## Building -/

/-- A position out of range is told with the number of leaves, and what cannot be written cannot be
told. -/
theorem exists_build_indexOutOfRange (htyped : Typed arguments)
    (hnamed : Named .indexOutOfRange arguments) :
    ∃ index count message details, arguments.get? "index" = some index ∧
      arguments.get? "leaf_count" = some count ∧
      build .indexOutOfRange arguments =
        if index.isWritable && count.isWritable then
          .ok (ofKind .indexOutOfRange message details).draft
        else .error (.badValue Numeral.unwritableText) := by
  obtain ⟨index, hindex⟩ := hnamed.given ⟨"index", true⟩ List.mem_cons_self rfl
  obtain ⟨count, hcount⟩ :=
    hnamed.given ⟨"leaf_count", true⟩ (List.mem_cons_of_mem _ List.mem_cons_self) rfl
  obtain ⟨fields, hdetails⟩ := exists_detailsArgument htyped
  refine ⟨index, count, s!"Leaf index {index.plain} out of range for {count.plain} leaves",
    Fields.set (Fields.set fields "index" index) "leaf_count" count, hindex, hcount, ?_⟩
  simp only [build, checkArguments_eq_ok_iff.2 hnamed, hdetails, hindex, hcount,
    Option.getD_some]
  cases hwritten : index.isWritable && count.isWritable <;> rfl

theorem fits_of_build_eq_ok {d : Draft} (htyped : Typed arguments)
    (h : build kind arguments = .ok d) : Fits kind arguments := by
  have hnamed : Named kind arguments := by
    cases hcheck : checkArguments kind arguments with
    | error e =>
      rw [build, hcheck] at h
      cases h
    | ok _ => exact checkArguments_eq_ok_iff.1 hcheck
  refine ⟨hnamed, ?_⟩
  rintro rfl
  obtain ⟨index, count, message, details, hindex, hcount, hbuild⟩ :=
    exists_build_indexOutOfRange htyped hnamed
  rw [hbuild] at h
  split at h
  · next hwritten =>
    rw [Bool.and_eq_true] at hwritten
    simp [hindex, hcount, hwritten]
  · cases h

/-- Whatever its arguments are merged into, a fault of a kind with a code of its own has this code
and is not to be tried again. -/
theorem exists_ofKind_of_fits (hkind : kind ≠ .general) (htyped : Typed arguments)
    (hfits : Fits kind arguments) :
    ∃ message details, build kind arguments = .ok (ofKind kind message details).draft := by
  obtain ⟨fields, hdetails⟩ := exists_detailsArgument htyped
  have hcheck := checkArguments_eq_ok_iff.2 hfits.toNamed
  -- Only the kinds named here do more than hand the message and the details on.
  cases kind with
  | general => exact absurd rfl hkind
  | emptyInput =>
    obtain ⟨s, hs⟩ := exists_text_getD htyped.message emptyInput.message
    exact ⟨s, fields, by simp only [build, hcheck, hdetails, hs]; rfl⟩
  | indexOutOfRange =>
    obtain ⟨index, count, message, details, hindex, hcount, hbuild⟩ :=
      exists_build_indexOutOfRange htyped hfits.toNamed
    have hwritten := hfits.written rfl
    refine ⟨message, details, hbuild.trans (if_pos ?_)⟩
    rw [hwritten _ (by simp) _ hindex, hwritten _ (by simp) _ hcount, Bool.and_self]
  | address =>
    obtain ⟨s, hs⟩ := exists_message htyped hfits.toNamed List.mem_cons_self
    obtain ⟨details, hadded⟩ := exists_addGiven fields arguments "address"
    exact ⟨s, details, by simp only [build, hcheck, hdetails, hs, hadded]; rfl⟩
  | proofRejected =>
    obtain ⟨s, hs⟩ := exists_message htyped hfits.toNamed List.mem_cons_self
    obtain ⟨details, hadded⟩ := exists_addGiven fields arguments "leaf_index"
    exact ⟨s, details, by simp only [build, hcheck, hdetails, hs, hadded]; rfl⟩
  | _ =>
    obtain ⟨s, hs⟩ := exists_message htyped hfits.toNamed List.mem_cons_self
    exact ⟨s, fields, by simp only [build, hcheck, hdetails, hs]; rfl⟩

/-- A general fault has the code that it is given, and otherwise one of no other kind. -/
theorem exists_general_of_fits (htyped : Typed arguments) (hfits : Fits .general arguments) :
    ∃ f : Fault, build .general arguments = .ok f.draft ∧ f.kind = .general ∧
      ∀ k ∈ Kind.registered, k.code = f.code ↔ arguments.get? "code" = some (.text k.code) := by
  obtain ⟨fields, hdetails⟩ := exists_detailsArgument htyped
  obtain ⟨s, hs⟩ := exists_message htyped hfits.toNamed List.mem_cons_self
  obtain ⟨code, hcode⟩ := exists_text_getD htyped.code Kind.general.code
  obtain ⟨b, hb⟩ : ∃ b, (arguments.get? "retryable").getD (.bool false) = .bool b := by
    cases hv : arguments.get? "retryable" with
    | none => exact ⟨false, rfl⟩
    | some v => exact htyped.retryable v hv
  refine ⟨{ kind := .general, code, message := s, details := fields, retryable := b }, ?_, rfl, ?_⟩
  · simp only [build, checkArguments_eq_ok_iff.2 hfits.toNamed, hdetails, hs, hcode, hb]
    rfl
  · intro k hk
    cases hv : arguments.get? "code" with
    | none =>
      rw [hv] at hcode
      cases hcode
      exact iff_of_false (Kind.code_ne_code_general k hk) nofun
    | some v =>
      rw [hv] at hcode
      cases hcode
      simp [eq_comm]

/-- Arguments that fit build a fault that is the one its report is about, unless it is a general
fault that is given the code of another kind. -/
theorem exists_build_eq_ok (htyped : Typed arguments) (hfits : Fits kind arguments) :
    ∃ f : Fault, build kind arguments = .ok f.draft ∧ f.kind = kind ∧ (f.report.toFault = f ↔
      (kind = .general → ∀ k ∈ Kind.registered, arguments.get? "code" ≠ some (.text k.code))) := by
  by_cases hkind : kind = .general
  · subst hkind
    obtain ⟨f, hbuild, hf, hcode⟩ := exists_general_of_fits htyped hfits
    refine ⟨f, hbuild, hf, ?_⟩
    rw [toFault_report_eq_iff, hf, Kind.ofCode_eq_general_iff, forall_prop_of_true rfl]
    exact forall₂_congr fun k hk => not_congr (hcode k hk)
  · obtain ⟨message, details, hbuild⟩ := exists_ofKind_of_fits hkind htyped hfits
    exact ⟨ofKind kind message details, hbuild, rfl,
      iff_of_true (Report.toFault_report (Kind.ofCode_code hkind)) fun h => absurd h hkind⟩

end arguments

/-- **Faults are reported without loss.**  Arguments of the types of their parameters build a fault
exactly if each is for a parameter, none that is required is missing, and what the message tells of
a position out of range can be written.  The fault is of the kind
asked for, and has a report.  The report is about this fault, with the same kind, code, message,
details and flag, unless it is a general fault that was given the code of another kind.  In turn a
report is about a fault with the parts of a general fault that is built from its fields, and the
report of this fault is the report itself. -/
theorem report_and_back :
    (∀ (kind : Kind) (arguments : Fields), Typed arguments →
      ((∃ d, build kind arguments = .ok d) ↔ Fits kind arguments) ∧
      ∀ d, build kind arguments = .ok d →
        ∃ f : Fault, d = f.draft ∧ f.kind = kind ∧ d.report = .ok f.report ∧
          d.fault f.report = f ∧ (f.report.toFault = f ↔ (kind = .general →
            ∀ k ∈ Kind.registered, arguments.get? "code" ≠ some (.text k.code)))) ∧
    ∀ m : Report, build .general m.fields = .ok { m.toFault.draft with kind := .general } ∧
      m.toFault.draft.report = .ok m := by
  refine ⟨fun kind arguments htyped => ⟨⟨?_, ?_⟩, ?_⟩,
    fun m => ⟨build_general_fields m, report_draft m.toFault⟩⟩
  · rintro ⟨d, h⟩
    exact fits_of_build_eq_ok htyped h
  · intro hfits
    obtain ⟨f, hbuild, -⟩ := exists_build_eq_ok htyped hfits
    exact ⟨f.draft, hbuild⟩
  · intro d h
    obtain ⟨f, hbuild, hf, hback⟩ := exists_build_eq_ok htyped (fits_of_build_eq_ok htyped h)
    obtain rfl := Except.ok.inj (h.symm.trans hbuild)
    obtain rfl := hf
    exact ⟨f, rfl, rfl, report_draft f, rfl, hback⟩

/-- An address that is refused, with details that name another one. -/
def refusedAddress : Fields :=
  [("message", .text "bad checksum"), ("address", .text "1abc"),
    ("details", .object [("address", .text "1xyz"), ("prefix", .int 0)])]

/-- A general fault with a code of its own, that may be tried again. -/
def busy : Fields :=
  [("message", .text "busy"), ("code", .text "BUSY"), ("details", .null), ("retryable", .bool true)]

theorem report_and_back_address_busy :
    (Typed refusedAddress ∧ ∃ f : Fault, build .address refusedAddress = .ok f.draft ∧
      f.details = [("address", .text "1abc"), ("prefix", .int 0)] ∧ f.report.toFault = f) ∧
    (Typed busy ∧ ∃ f : Fault, build .general busy = .ok f.draft ∧
      f.retryable = true ∧ f.report.toFault = f) := by
  have haddress : Typed refusedAddress := by
    constructor
    · rintro v ⟨⟩; exact ⟨_, rfl⟩
    · rintro v ⟨⟩; exact .inr ⟨_, rfl⟩
    · rintro v ⟨⟩
    · rintro v ⟨⟩
  have hbusy : Typed busy := by
    constructor
    · rintro v ⟨⟩; exact ⟨_, rfl⟩
    · rintro v ⟨⟩; exact .inl rfl
    · rintro v ⟨⟩; exact ⟨_, rfl⟩
    · rintro v ⟨⟩; exact ⟨_, rfl⟩
  constructor
  · obtain ⟨f, hbuild, -, -, -, hback⟩ := (report_and_back.1 .address _ haddress).2 _ rfl
    refine ⟨haddress, f, congrArg Except.ok hbuild, ?_, hback.2 nofun⟩
    have hdetails := congrArg Draft.details hbuild
    exact (Value.object.inj hdetails).symm
  · obtain ⟨f, hbuild, -, -, -, hback⟩ := (report_and_back.1 .general _ hbusy).2 _ rfl
    have hcode : ∀ k ∈ Kind.registered, k.code ≠ "BUSY" := by decide
    refine ⟨hbusy, f, congrArg Except.ok hbuild, ?_, hback.2 fun _ k hk h => hcode k hk ?_⟩
    · exact (Value.bool.inj (congrArg Draft.retryable hbuild)).symm
    · exact (Value.text.inj (Option.some.inj h)).symm

end Attest.Fault
