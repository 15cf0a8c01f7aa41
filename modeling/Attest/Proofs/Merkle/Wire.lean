import Attest.Merkle.Unchecked
import Attest.Proofs.Digest
import Attest.Proofs.Json.RoundTrip
import Attest.Proofs.Merkle.Description
import Attest.Proofs.Value

/-!
# Proofs come back from data

What is written for a proof describes it, step by step, so it is read as that proof; and it is
what its JSON text is read as, in every layout that puts nothing but space between tokens.  A
proof nests three containers, far from the reader's limit, so all that is asked of it is an
index that the reader takes: one of at most 4300 decimal digits.
-/

namespace Attest.Merkle

/-! ## Objects -/

theorem spellsDigest_toHex {fields : Fields} {name : String} {d : Digest}
    (h : fields.get? name = some (.text d.toHex)) : SpellsDigest fields name d :=
  ⟨_, h, d.parse_toHex⟩

namespace WireStep

/-- The fields of a step as they are written. -/
def fields (s : WireStep) : Fields :=
  [("hash", .text s.hash.toHex), ("side", .text s.side.name)]

theorem describes_toValue (s : WireStep) : DescribesStep s.toValue s :=
  ⟨s.fields, rfl, fun _ hname => hname, spellsDigest_toHex rfl, rfl⟩

end WireStep

namespace WireProof

/-- The fields of a proof as they are written. -/
def fields (w : WireProof) : Fields :=
  [("schema_version", .text w.version), ("leaf_hash", .text w.leaf.toHex),
    ("leaf_index", .int w.index), ("siblings", .list (w.steps.map WireStep.toValue)),
    ("root", .text w.root.toHex)]

theorem describes_toValue (w : WireProof) : Describes w.toValue w := by
  have hsteps : List.Forall₂ DescribesStep (w.steps.map WireStep.toValue) w.steps :=
    List.forall₂_map_left_iff.2 (List.forall₂_same.2 fun s _ => s.describes_toValue)
  exact ⟨w.fields, rfl, fun _ hname => hname, Or.inr rfl, spellsDigest_toHex rfl,
    ⟨_, rfl, Schema.natural_natCast w.index⟩, Or.inr ⟨_, rfl, hsteps⟩, spellsDigest_toHex rfl⟩

end WireProof

theorem Proof.toProof_toWire (p : Proof) : p.toWire.toProof = p := by
  have hsteps : (p.steps.map fun s => ({ hash := s.hash, side := s.side } : WireStep)).map
      (fun s => ({ hash := s.hash, side := s.side } : Step)) = p.steps := by
    rw [List.map_map]
    exact List.map_id _
  rw [toWire, WireProof.toProof, hsteps]

theorem Proof.ofValue_toValue (p : Proof) : ofValue p.toValue = .ok p :=
  ofValue_eq_ok_iff.2 ⟨p.toWire, p.toWire.describes_toValue, p.toProof_toWire⟩

/-! ## JSON -/

theorem hasHalf_toHex (d : Digest) : Text.hasHalf d.toHex = false := by
  rw [Text.hasHalf, Digest.toList_toHex, List.any_eq_false]
  intro c hc
  obtain ⟨n, hn, rfl⟩ := Hex.exists_digit_of_mem hc
  have hall : ∀ n < 16, Text.half? (Hex.digit n) = none := by decide
  rw [hall n hn]
  exact Bool.false_ne_true

theorem hasHalf_name (s : Side) : Text.hasHalf s.name = false := by
  cases s <;> decide

theorem carried_step (levels : Nat) (s : WireStep) : Json.Carried (levels + 1) s.toValue := by
  have hnames : (s.fields.map (·.1)).Nodup := by
    show ["hash", "side"].Nodup
    decide
  refine .object hnames WireStep.hasHalf_names ?_
  exact List.forall_mem_cons.2 ⟨.text levels (hasHalf_toHex s.hash),
    List.forall_mem_cons.2 ⟨.text levels (hasHalf_name s.side), List.forall_mem_nil _⟩⟩

theorem carried_wire {w : WireProof} (hversion : Text.hasHalf w.version = false)
    (hindex : (Nat.toDigits 10 w.index).length ≤ Numeral.digitLimit) (levels : Nat) :
    Json.Carried (levels + 3) w.toValue := by
  have hnames : (w.fields.map (·.1)).Nodup := by
    show WireProof.fieldNames.Nodup
    decide
  have hsteps : Json.Carried (levels + 2) (.list (w.steps.map WireStep.toValue)) := by
    refine .list fun v hv => ?_
    obtain ⟨s, -, rfl⟩ := List.mem_map.1 hv
    exact carried_step levels s
  refine .object hnames WireProof.hasHalf_names ?_
  simp only [List.forall_mem_cons]
  exact ⟨.text _ hversion, .text _ (hasHalf_toHex w.leaf), .int _ hindex, hsteps,
    .text _ (hasHalf_toHex w.root), List.forall_mem_nil _⟩

theorem Proof.carried_toValue {p : Proof}
    (hindex : (Nat.toDigits 10 p.index).length ≤ Numeral.digitLimit) :
    Json.Carried Json.depthLimit p.toValue := by
  have hversion : Text.hasHalf wireVersion = false := by decide
  exact carried_wire (w := p.toWire) hversion hindex 987

theorem isWritable_step (s : WireStep) : s.toValue.isWritable = true := rfl

theorem areWritable_steps (steps : List WireStep) :
    Value.areWritable (steps.map WireStep.toValue) = true := by
  induction steps with
  | nil => rfl
  | cons s steps ih => rw [List.map_cons, Value.areWritable, isWritable_step, ih, Bool.and_self]

/-- Of a proof only the index may be a number that cannot be written. -/
theorem Proof.isWritable_toValue (p : Proof) :
    p.toValue.isWritable = Numeral.isWritable p.index := by
  simp only [toValue, WireProof.toValue, Value.isWritable, Value.haveWritable, areWritable_steps,
    Bool.true_and, Bool.and_true]
  rfl

theorem Proof.toJson_of_isWritable {p : Proof} (h : Numeral.isWritable p.index = true)
    (layout : Json.Layout) : p.toJson layout = .ok (Json.write layout p.toValue) :=
  if_pos (p.isWritable_toValue ▸ h)

theorem Proof.ofJson_write_append {p : Proof}
    (hindex : (Nat.toDigits 10 p.index).length ≤ Numeral.digitLimit) {layout : Json.Layout}
    (hlayout : layout.IsBlank) {bs : List Char} (hbs : ∀ c ∈ bs, Json.isSpace c = true) :
    ofJson (Json.write layout p.toValue ++ String.ofList bs) = .ok p := by
  rw [ofJson, Json.parse_write_append hlayout (carried_toValue hindex) hbs]
  show Except.widen (ofValue p.toValue) = .ok p
  rw [ofValue_toValue]
  rfl

theorem Proof.ofJson_write {p : Proof}
    (hindex : (Nat.toDigits 10 p.index).length ≤ Numeral.digitLimit) {layout : Json.Layout}
    (hlayout : layout.IsBlank) : ofJson (Json.write layout p.toValue) = .ok p := by
  rw [← ofJson_write_append hindex hlayout (List.forall_mem_nil _), String.ofList_nil,
    String.append_empty]

/-- Data that asks for nothing but space between tokens: none, a number that things can be counted
by, or a text of JSON's space. -/
inductive BlankIndent : Value → Prop where
  | none : BlankIndent .null
  | number {n : Int} (h : isCount n = true) : BlankIndent (.int n)
  | text {s : String} (h : ∀ c ∈ s.toList, Json.isSpace c = true) : BlankIndent (.text s)

theorem layoutOf_int (n : Int) : layoutOf (.int n) =
    if isCount n then .ok (.spaces n.toNat) else .error (.uncountable "int") :=
  rfl

theorem exists_layoutOf {indent : Value} (h : BlankIndent indent) :
    ∃ layout, layoutOf indent = .ok layout ∧ layout.IsBlank := by
  cases h with
  | none => exact ⟨.line, rfl, trivial⟩
  | @number n hn => exact ⟨.spaces n.toNat, if_pos hn, Json.Layout.isBlank_spaces n.toNat⟩
  | @text s hs => exact ⟨.indented s.toList, rfl, hs⟩

/-- **Round trip of proofs.**  A proof of any number of steps, with an index of at most 4300
decimal digits, is read back from the object and from every JSON text that is written for it: on
one line, indented by any number of spaces that things can be counted by, or by any text of JSON's
space.  So what is read back verifies against exactly the same roots. -/
theorem Proof.restored_of_written (p : Proof)
    (hindex : (Nat.toDigits 10 p.index).length ≤ 4300) :
    (ofValue p.toValue = .ok p ∧
      ∀ root, (ofValue p.toValue).map (·.verify root) = .ok (p.verify root)) ∧
    ∀ indent, BlankIndent indent → ∃ layout text, layoutOf indent = .ok layout ∧
      p.toJson layout = .ok text ∧ ofJson text = .ok p ∧
      ∀ root, (ofJson text).map (·.verify root) = .ok (p.verify root) := by
  constructor
  · refine ⟨p.ofValue_toValue, fun root => ?_⟩
    rw [ofValue_toValue]
    rfl
  · intro indent hindent
    obtain ⟨layout, hlayout, hblank⟩ := exists_layoutOf hindent
    have hwritable : Numeral.isWritable p.index = true := Numeral.isWritable_iff_length.2 hindex
    have hread : ofJson (Json.write layout p.toValue) = .ok p := ofJson_write hindex hblank
    refine ⟨layout, _, hlayout, toJson_of_isWritable hwritable layout, hread, fun root => ?_⟩
    rw [hread]
    rfl

/-- A proof with a sibling on either side and an index beyond 64 bits. -/
def Proof.bothSides : Proof where
  leaf := ⟨List.replicate 32 0x0f, by simp⟩
  index := 2 ^ 70 + 1
  steps :=
    [{ hash := .zero, side := .left },
      { hash := ⟨List.replicate 32 0xa5, by simp⟩, side := .right }]
  root := ⟨List.replicate 32 0xff, by simp⟩

theorem Proof.restored_of_written_bothSides :
    (Nat.toDigits 10 bothSides.index).length ≤ 4300 ∧
      ofValue bothSides.toValue = .ok bothSides ∧
      (∃ text, bothSides.toJson .line = .ok text ∧ ofJson text = .ok bothSides) ∧
      (∃ text, bothSides.toJson (.spaces 2) = .ok text ∧ ofJson text = .ok bothSides) ∧
      ∃ text, bothSides.toJson (.indented ['\t', ' ']) = .ok text ∧
        ofJson text = .ok bothSides := by
  have hindex : (Nat.toDigits 10 bothSides.index).length ≤ 4300 := by decide +kernel
  obtain ⟨⟨hvalue, -⟩, hindent⟩ := restored_of_written bothSides hindex
  have htext : BlankIndent (.text "\t ") := .text (by simp [Json.isSpace])
  obtain ⟨_, line, ⟨⟩, hline, hlineRead, -⟩ := hindent .null .none
  obtain ⟨_, spaces, ⟨⟩, hspaces, hspacesRead, -⟩ := hindent (.int 2) (.number (by decide))
  obtain ⟨_, unit, ⟨⟩, hunit, hunitRead, -⟩ := hindent (.text "\t ") htext
  exact ⟨hindex, hvalue, ⟨line, hline, hlineRead⟩, ⟨spaces, hspaces, hspacesRead⟩,
    ⟨unit, hunit, hunitRead⟩⟩

/-- A number just below those that things can be counted by asks for no layout. -/
theorem layoutOf_belowCounts :
    layoutOf (.int (-(2 ^ 63) - 1)) = .error (.uncountable "int") ∧
      ¬ ∃ layout text, layoutOf (.int (-(2 ^ 63) - 1)) = .ok layout ∧
        Proof.bothSides.toJson layout = .ok text ∧
        Proof.ofJson text = .ok Proof.bothSides := by
  have hrefused : layoutOf (.int (-(2 ^ 63) - 1)) = .error (.uncountable "int") := by
    rw [layoutOf_int, if_neg (by decide)]
  refine ⟨hrefused, ?_⟩
  rintro ⟨layout, text, hlayout, -, -⟩
  rw [hrefused] at hlayout
  cases hlayout

end Attest.Merkle
