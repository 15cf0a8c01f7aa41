import Attest.Schema
import Mathlib.Tactic.Common

/-!
# Data that passes its checks

A check of an object looks at the names first, then at each field by itself.  The lemmas say which
part of the data each check is about and leave the rest open: data passes a check exactly if it has
the parts that the check asks for (`required_eq_ok_iff` and the lemmas beside it).
-/

namespace Attest.Schema

variable {α : Type} {fields : Fields} {name : String} {check : Value → Checked α}

theorem characters_of_hasHalf {s : String} (h : Text.hasHalf s = false) :
    characters s = .ok s := by
  rw [characters, h]
  rfl

theorem record_object (h : ∀ name ∈ fields.map (·.1), Text.hasHalf name = false)
    (model : String) : record model (.object fields) = .ok fields := by
  have hnames : fields.mapM (fun f => characters f.1) = .ok (fields.map (·.1)) := by
    induction fields with
    | nil => rfl
    | cons f fields ih =>
      obtain ⟨hf, hfields⟩ := List.forall_mem_cons.1 h
      rw [List.mapM_cons, characters_of_hasHalf hf, ih hfields]
      rfl
  rw [record, hnames]
  rfl

theorem natural_natCast (n : Nat) : natural (.int n) = .ok n := by
  have hpos : (0 : Int) ≤ n := Int.natCast_nonneg n
  simp only [natural, integer, bind, Except.bind, hpos, if_true, Int.toNat_natCast]
  rfl

theorem inside_eq_ok_iff {place : Place} {x : Checked α} {a : α} :
    inside place x = .ok a ↔ x = .ok a := by
  cases x with
  | error is =>
    constructor
    · intro h
      cases h
    · intro h
      cases h
  | ok b => exact Iff.rfl

theorem text_eq_ok_iff {v : Value} {s : String} : text v = .ok s ↔ v = .text s := by
  constructor
  · intro h
    unfold text at h
    split at h
    · cases h; rfl
    · cases h
  · rintro rfl
    rfl

theorem record_eq_ok {model : String} {v : Value} (h : record model v = .ok fields) :
    v = .object fields := by
  unfold record at h
  split at h
  · next given =>
    cases hnames : given.mapM fun f => characters f.1 with
    | error is => rw [hnames] at h; cases h
    | ok names => rw [hnames] at h; cases h; rfl
  · cases h

theorem required_eq_ok_iff {a : α} :
    required fields name check = .ok a ↔ ∃ v, fields.get? name = some v ∧ check v = .ok a := by
  rw [required, inside_eq_ok_iff]
  cases fields.get? name with
  | none => simp [refuse]
  | some v => simp

theorem optional_eq_ok_iff {a default : α} :
    optional fields name default check = .ok a ↔
      (fields.get? name = none ∧ a = default) ∨
        ∃ v, fields.get? name = some v ∧ check v = .ok a := by
  rw [optional]
  cases fields.get? name with
  | none => simp [eq_comm]
  | some v => simp [inside_eq_ok_iff]

theorem unknownFields_eq_nil_iff {known : List String} :
    unknownFields fields known = [] ↔ ∀ name ∈ fields.map (·.1), name ∈ known := by
  simp [unknownFields, List.filter_eq_nil_iff]

theorem forall₂_of_items {vs : List Value} {as : List α} {index : Nat}
    (h : items check index vs = .ok as) : List.Forall₂ (fun v a => check v = .ok a) vs as := by
  induction vs generalizing as index with
  | nil =>
    cases h
    exact .nil
  | cons v vs ih =>
    rw [items] at h
    split at h
    · next a bs ha hbs =>
      cases h
      exact .cons (inside_eq_ok_iff.1 ha) (ih hbs)
    · cases h

theorem items_of_forall₂ {vs : List Value} {as : List α}
    (h : List.Forall₂ (fun v a => check v = .ok a) vs as) (index : Nat) :
    items check index vs = .ok as := by
  induction h generalizing index with
  | nil => rfl
  | cons ha _ ih =>
    rw [items, ha, ih]
    rfl

theorem list_eq_ok_iff {v : Value} {as : List α} :
    list check v = .ok as ↔
      ∃ vs, v = .list vs ∧ List.Forall₂ (fun v a => check v = .ok a) vs as := by
  constructor
  · intro h
    unfold list at h
    split at h
    · next vs => exact ⟨vs, rfl, forall₂_of_items h⟩
    · cases h
  · rintro ⟨vs, rfl, h⟩
    exact items_of_forall₂ h 0

end Attest.Schema
