import Attest.Digest
import Mathlib.Data.List.Nodup

/-!
# Collisions

Nothing here assumes that SHA-256 has no collisions.  A statement that two hashed
structures agree carries `Collide` as its other case, over the strings that the two
sides really hash, so that a failure names two concrete colliding strings.

* `Digest.join_eq_join`: joins that agree join the same digests or collide;
* `Collide.of_doubleSha256`: a collision of double SHA-256 is one of SHA-256, among
  the strings and their inner digests.
-/

namespace Attest

/-- A string of `as` and another one of `bs` have the same hash. -/
def Collide (hash : Bytes → Digest) (as bs : List Bytes) : Prop :=
  ∃ a ∈ as, ∃ b ∈ bs, a ≠ b ∧ hash a = hash b

instance (hash : Bytes → Digest) (as bs : List Bytes) : Decidable (Collide hash as bs) :=
  inferInstanceAs (Decidable (∃ a ∈ as, ∃ b ∈ bs, a ≠ b ∧ hash a = hash b))

theorem Collide.mono {hash : Bytes → Digest} {as as' bs bs' : List Bytes}
    (h : Collide hash as bs) (has : as ⊆ as') (hbs : bs ⊆ bs') :
    Collide hash as' bs' := by
  obtain ⟨a, ha, b, hb, hne, hhash⟩ := h
  exact ⟨a, has ha, b, hbs hb, hne, hhash⟩

theorem Collide.eq_or {hash : Bytes → Digest} {as bs : List Bytes} {a b : Bytes}
    (h : hash a = hash b) (ha : a ∈ as) (hb : b ∈ bs) : a = b ∨ Collide hash as bs := by
  by_cases heq : a = b
  · exact Or.inl heq
  · exact Or.inr ⟨a, ha, b, hb, heq, h⟩

theorem not_collide_of_nodup {hash : Bytes → Digest} {ss : List Bytes}
    (h : (ss.map hash).Nodup) : ¬ Collide hash ss ss := by
  rintro ⟨a, ha, b, hb, hne, hhash⟩
  exact hne (List.inj_on_of_nodup_map h ha hb hhash)

/-- Lists of strings with the same hashes are the same, or two of the strings collide. -/
theorem eq_or_collide_of_map_eq {hash : Bytes → Digest} {as bs : List Bytes}
    (h : as.map hash = bs.map hash) : as = bs ∨ Collide hash as bs := by
  induction as generalizing bs with
  | nil =>
    rw [List.map_nil] at h
    exact Or.inl (List.map_eq_nil_iff.1 h.symm).symm
  | cons a as ih =>
    cases bs with
    | nil => simp at h
    | cons b bs =>
      rw [List.map_cons, List.map_cons, List.cons.injEq] at h
      rcases Collide.eq_or h.1 List.mem_cons_self List.mem_cons_self with hab | hc
      · rcases ih h.2 with hrest | hc
        · exact Or.inl (by rw [hab, hrest])
        · exact Or.inr (hc.mono (List.subset_cons_self _ _) (List.subset_cons_self _ _))
      · exact Or.inr hc

namespace Digest

theorem ext {a b : Digest} (h : a.bytes = b.bytes) : a = b := by
  cases a
  cases b
  simpa using h

/-- The 64 bytes of two digests in order, which their join hashes. -/
def pair (left right : Digest) : Bytes :=
  left.bytes ++ right.bytes

theorem pair_inj {left right left' right' : Digest} :
    pair left right = pair left' right' ↔ left = left' ∧ right = right' := by
  constructor
  · intro h
    have hlength : left.bytes.length = left'.bytes.length := by
      rw [left.length_bytes, left'.length_bytes]
    obtain ⟨hl, hr⟩ := List.append_inj h hlength
    exact ⟨ext hl, ext hr⟩
  · rintro ⟨rfl, rfl⟩
    rfl

/-- Joins that agree join the same digests, or the two joined strings collide. -/
theorem join_eq_join {left right left' right' : Digest} {as bs : List Bytes}
    (h : left.join right = left'.join right')
    (ha : pair left right ∈ as) (hb : pair left' right' ∈ bs) :
    (left = left' ∧ right = right') ∨ Collide doubleSha256 as bs := by
  rcases Collide.eq_or h ha hb with hpair | hc
  · exact Or.inl (pair_inj.1 hpair)
  · exact Or.inr hc

end Digest

/-- The strings that SHA-256 is given while the strings `ss` are hashed twice: each of
them and its inner digest. -/
def innerInputs (ss : List Bytes) : List Bytes :=
  ss.flatMap fun s => [s, (sha256 s).bytes]

theorem mem_innerInputs {ss : List Bytes} {b : Bytes} :
    b ∈ innerInputs ss ↔ ∃ s ∈ ss, b = s ∨ b = (sha256 s).bytes := by
  simp [innerInputs]

theorem Collide.of_doubleSha256 {as bs : List Bytes} (h : Collide doubleSha256 as bs) :
    Collide sha256 (innerInputs as) (innerInputs bs) := by
  obtain ⟨a, ha, b, hb, hne, hhash⟩ := h
  -- Either the inner digests differ and the outer hash collides, or the inner one does.
  by_cases hinner : sha256 a = sha256 b
  · exact ⟨a, mem_innerInputs.2 ⟨a, ha, Or.inl rfl⟩,
      b, mem_innerInputs.2 ⟨b, hb, Or.inl rfl⟩, hne, hinner⟩
  · refine ⟨_, mem_innerInputs.2 ⟨a, ha, Or.inr rfl⟩,
      _, mem_innerInputs.2 ⟨b, hb, Or.inr rfl⟩, ?_, hhash⟩
    exact fun hbytes => hinner (Digest.ext hbytes)

end Attest
