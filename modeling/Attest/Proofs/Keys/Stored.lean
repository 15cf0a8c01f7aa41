import Attest.Proofs.Hex.Lower
import Attest.Proofs.Keys

/-!
# Pairs of keys in storage

A pair is stored as texts, and restored from its signing key alone; the stored verifying key is
only compared with the derived one.  The signing key is read as hexadecimal text, but the verifying
key is compared as a text in lower case.  What is equal in lower case is also read as the same key
(`lower_eq_toHex_iff`), so no pair is restored with another verifying key than the one stored.
How a verifying key is derived plays no part.
-/

namespace Attest

/-! ## Keys and signatures as texts -/

section written

variable {s : String}

theorem PrivateKey.parse_of_hasBody {k : PrivateKey} (h : Hex.HasBody s (Hex.digits k.bytes)) :
    parse s = .ok k :=
  parse_eq_ok_iff.2 (Hex.readsAs_of_hasBody_digits h)

theorem PublicKey.parse_of_hasBody {k : PublicKey} (h : Hex.HasBody s (Hex.digits k.bytes)) :
    parse s = .ok k :=
  parse_eq_ok_iff.2 (Hex.readsAs_of_hasBody_digits h)

/-- The name of the scheme is not written, so what is read is a signature of the scheme in use. -/
theorem Signature.parse_of_hasBody {g : Signature} (h : Hex.HasBody s (Hex.digits g.bytes)) :
    parse s = .ok { g with scheme := schemeName } :=
  parse_eq_ok_iff.2 ⟨Hex.readsAs_of_hasBody_digits h, rfl⟩

/-- In lower case a text is what a key is written as exactly if it is read as this key and has
neither mark nor blank. -/
theorem PublicKey.lower_eq_toHex_iff {k : PublicKey} :
    Text.lower s = k.toHex ↔ parse s = .ok k ∧ s.length = 64 := by
  rw [toHex, Hex.lower_eq_encode_iff, parse_eq_ok_iff, k.length_bytes]

end written

/-- Texts by their names, as stored data. -/
def storedTexts (texts : List (String × String)) : Value :=
  .object (texts.map fun (name, s) => (name, .text s))

theorem lookup_storedTexts (texts : List (String × String)) (name : String) :
    (texts.map fun (name, s) => (name, Value.text s)).lookup name =
      (texts.lookup name).map Value.text := by
  induction texts with
  | nil => rfl
  | cons entry rest ih =>
    rw [List.map_cons, List.lookup_cons, List.lookup_cons, ih]
    split <;> rfl

/-! ## Refused signing keys -/

theorem PrivateKey.exists_invalidKey_of_parse {s : String} {f : Fault}
    (h : parse s = .error f) : ∃ message, f = .invalidKey message := by
  unfold parse at h
  split at h
  · exact ⟨_, (Except.error.inj h).symm⟩
  · unfold ofBytes at h
    split at h
    · cases h
    · exact ⟨_, (Except.error.inj h).symm⟩

namespace Keypair

/-- The pair is that of the signing key in texts, and if a verifying key is stored with it, it is
the one of the pair: it is read as that key, and is how the key is written but for letter case. -/
structure Restores (scheme : SignatureScheme) (texts : List (String × String)) (pair : Keypair) :
    Prop where
  privateKey : ∃ s, texts.lookup "private_key_hex" = some s ∧
    PrivateKey.parse s = .ok pair.privateKey
  derived : pair.publicKey = pair.privateKey.publicKey scheme
  publicKey : ∀ s, texts.lookup "public_key_hex" = some s → s ≠ "" →
    PublicKey.parse s = .ok pair.publicKey ∧ Text.lower s = pair.publicKey.toHex

/-- Why no pair is restored from texts: there is no signing key, or a text that is none, or the
verifying key stored with it is another one. -/
inductive Refuses (scheme : SignatureScheme) (texts : List (String × String)) : Fault → Prop where
  | missing (hnone : texts.lookup "private_key_hex" = none) :
      Refuses scheme texts (.unreadable "Missing keypair field: 'private_key_hex'" [])
  | noKey {s message : String} (hs : texts.lookup "private_key_hex" = some s)
      (hread : PrivateKey.parse s = .error (.invalidKey message)) :
      Refuses scheme texts (.invalidKey message)
  | otherKey {s t : String} {k : PrivateKey} (hs : texts.lookup "private_key_hex" = some s)
      (hread : PrivateKey.parse s = .ok k) (ht : texts.lookup "public_key_hex" = some t)
      (hgiven : t ≠ "") (hother : Text.lower t ≠ (k.publicKey scheme).toHex) :
      Refuses scheme texts (.unreadable "Stored public key does not match private key" [])

theorem Refuses.kind_eq {scheme : SignatureScheme} {texts : List (String × String)} {f : Fault}
    (h : Refuses scheme texts f) : f.kind = .serialization ∨ f.kind = .invalidKey := by
  cases h with
  | missing => exact Or.inl rfl
  | noKey => exact Or.inr rfl
  | otherKey => exact Or.inl rfl

/-! ## Restoring -/

variable {scheme : SignatureScheme} {texts : List (String × String)}

/-- The comparison looks at ASCII letters only, but answers as if the whole text were put in lower
case. -/
theorem checkPublic_text (k : PublicKey) (t : String) :
    checkPublic k.toHex (.text t) =
      if t = "" ∨ Text.lower t = k.toHex then .ok ()
      else .error (.fault (.unreadable "Stored public key does not match private key" [])) := by
  have hlower : t.toList.map Char.toLower = k.toHex.toList ↔ Text.lower t = k.toHex := by
    rw [PublicKey.toHex, Hex.toList_encode, Hex.lower_eq_encode_iff_map_toLower]
  simp only [checkPublic, Bool.or_eq_true, String.isEmpty_iff, decide_eq_true_eq, hlower]

theorem privateField_storedTexts {s : String}
    (hs : texts.lookup "private_key_hex" = some s) :
    privateField (storedTexts texts) = .ok (.text s) := by
  rw [storedTexts, privateField, lookup_storedTexts, hs]
  rfl

/-- Of a stored signing key the comparison of the verifying keys decides. -/
theorem ofValue_of_parse {s : String} {k : PrivateKey}
    (hs : texts.lookup "private_key_hex" = some s) (hk : PrivateKey.parse s = .ok k) :
    ofValue scheme (storedTexts texts) =
      checkPublic (k.publicKey scheme).toHex
        (((texts.lookup "public_key_hex").map Value.text).getD .null) >>= fun _ =>
          .ok (ofPrivate scheme k) := by
  have hpair : ofText scheme (.text s) = .ok (ofPrivate scheme k) := by
    change Except.widen ((PrivateKey.parse s).map (ofPrivate scheme)) = _
    rw [hk]
    rfl
  unfold ofValue
  rw [privateField_storedTexts hs, ← lookup_storedTexts]
  change (ofText scheme (.text s) >>= _) = _
  rw [hpair]
  rfl

theorem checkPublic_of_agrees {k : PublicKey} {stored : Option String}
    (h : ∀ t, stored = some t → t ≠ "" → Text.lower t = k.toHex) :
    checkPublic k.toHex ((stored.map Value.text).getD .null) = .ok () := by
  cases stored with
  | none => rfl
  | some t =>
    rw [Option.map_some, Option.getD_some, checkPublic_text, if_pos]
    exact or_iff_not_imp_left.2 (h t rfl)

theorem ofValue_of_restores {pair : Keypair} (h : Restores scheme texts pair) :
    ofValue scheme (storedTexts texts) = .ok pair := by
  obtain ⟨s, hs, hread⟩ := h.privateKey
  have hpair : ofPrivate scheme pair.privateKey = pair := by
    rw [ofPrivate, ← h.derived]
  have hpublic : ∀ t, texts.lookup "public_key_hex" = some t → t ≠ "" →
      Text.lower t = (pair.privateKey.publicKey scheme).toHex := by
    intro t ht hgiven
    rw [← h.derived]
    exact (h.publicKey t ht hgiven).2
  rw [ofValue_of_parse hs hread, checkPublic_of_agrees hpublic, hpair]
  rfl

theorem ofValue_of_refuses {f : Fault} (h : Refuses scheme texts f) :
    ofValue scheme (storedTexts texts) = .error (.fault f) := by
  cases h with
  | missing hnone =>
    unfold ofValue
    rw [storedTexts, privateField, lookup_storedTexts, hnone]
    rfl
  | @noKey s message hs hread =>
    have hpair : ofText scheme (.text s) = .error (.fault (.invalidKey message)) := by
      change Except.widen ((PrivateKey.parse s).map (ofPrivate scheme)) = _
      rw [hread]
      rfl
    unfold ofValue
    rw [privateField_storedTexts hs]
    change (ofText scheme (.text s) >>= _) = _
    rw [hpair]
    rfl
  | @otherKey s t k hs hread ht hgiven hother =>
    rw [ofValue_of_parse hs hread, ht, Option.map_some, Option.getD_some, checkPublic_text,
      if_neg (not_or.2 ⟨hgiven, hother⟩)]
    rfl

theorem exists_restores_or_refuses (scheme : SignatureScheme) (texts : List (String × String)) :
    (∃ pair, Restores scheme texts pair) ∨ ∃ f, Refuses scheme texts f := by
  cases hs : texts.lookup "private_key_hex" with
  | none => exact Or.inr ⟨_, .missing hs⟩
  | some s =>
    cases hread : PrivateKey.parse s with
    | error f =>
      obtain ⟨message, rfl⟩ := PrivateKey.exists_invalidKey_of_parse hread
      exact Or.inr ⟨_, .noKey hs hread⟩
    | ok k =>
      by_cases hagrees : ∀ t, texts.lookup "public_key_hex" = some t → t ≠ "" →
          Text.lower t = (k.publicKey scheme).toHex
      · refine Or.inl ⟨ofPrivate scheme k, ⟨s, hs, hread⟩, rfl, fun t ht hgiven => ?_⟩
        have hlower := hagrees t ht hgiven
        exact ⟨(PublicKey.lower_eq_toHex_iff.1 hlower).1, hlower⟩
      · simp only [not_forall] at hagrees
        obtain ⟨t, ht, hgiven, hother⟩ := hagrees
        exact Or.inr ⟨_, .otherKey hs hread ht hgiven hother⟩

theorem ofValue_eq_ok_iff {pair : Keypair} :
    ofValue scheme (storedTexts texts) = .ok pair ↔ Restores scheme texts pair := by
  refine ⟨fun h => ?_, ofValue_of_restores⟩
  rcases exists_restores_or_refuses scheme texts with ⟨pair', hrestores⟩ | ⟨f, hrefuses⟩
  · rw [ofValue_of_restores hrestores, Except.ok.injEq] at h
    exact h ▸ hrestores
  · rw [ofValue_of_refuses hrefuses] at h
    cases h

theorem ofValue_eq_error_iff {e : Failure} :
    ofValue scheme (storedTexts texts) = .error e ↔ ∃ f, e = .fault f ∧ Refuses scheme texts f := by
  constructor
  · intro h
    rcases exists_restores_or_refuses scheme texts with ⟨pair, hrestores⟩ | ⟨f, hrefuses⟩
    · rw [ofValue_of_restores hrestores] at h
      cases h
    · rw [ofValue_of_refuses hrefuses, Except.error.injEq] at h
      exact ⟨f, h.symm, hrefuses⟩
  · rintro ⟨f, rfl, hrefuses⟩
    exact ofValue_of_refuses hrefuses

/-- What a pair is stored as restores it. -/
theorem restores_toFields (scheme : SignatureScheme) (k : PrivateKey) :
    ∃ texts, Value.object (ofPrivate scheme k).toFields = storedTexts texts ∧
      Restores scheme texts (ofPrivate scheme k) := by
  refine ⟨[("scheme", schemeName), ("private_key_hex", k.toHex),
    ("public_key_hex", (k.publicKey scheme).toHex)], rfl, ⟨k.toHex, rfl, ?_⟩, rfl, ?_⟩
  · exact PrivateKey.parse_of_hasBody (Hex.hasBody_encode k.bytes)
  · rintro t ⟨⟩ -
    exact ⟨PublicKey.parse_of_hasBody (Hex.hasBody_encode _), Hex.lower_encode _⟩

/-- **Pairs of keys are stored faithfully**, however verifying keys are derived.  A pair is restored
from what it is stored as, and keys and signatures are read from what they are written as, with or
without a mark.  From texts by name a pair is restored exactly if there is a signing key, it is the
pair's, the pair's verifying key is derived from it, and a verifying key stored with it, unless it
is empty, is read as that one and is written like it but for letter case.  Otherwise the texts are
refused: as missing a signing key or with another verifying key they are no stored data, and with a
text that is no signing key they are no key. -/
theorem restores_or_refuses (scheme : SignatureScheme) :
    (∀ k : PrivateKey,
      ofValue scheme (.object (ofPrivate scheme k).toFields) = .ok (ofPrivate scheme k)) ∧
    (∀ k : PrivateKey, PrivateKey.parse k.toHex = .ok k ∧
      PrivateKey.parse (Hex.encodeMarked k.bytes) = .ok k) ∧
    (∀ k : PublicKey, PublicKey.parse k.toHex = .ok k ∧
      PublicKey.parse (Hex.encodeMarked k.bytes) = .ok k) ∧
    (∀ g : Signature, Signature.parse g.toHex = .ok { g with scheme := schemeName } ∧
      Signature.parse (Hex.encodeMarked g.bytes) = .ok { g with scheme := schemeName }) ∧
    ∀ texts : List (String × String),
      (∀ pair, ofValue scheme (storedTexts texts) = .ok pair ↔ Restores scheme texts pair) ∧
      (∀ e, ofValue scheme (storedTexts texts) = .error e ↔
        ∃ f, e = .fault f ∧ Refuses scheme texts f) ∧
      ((∃ pair, ofValue scheme (storedTexts texts) = .ok pair) ∨
        ∃ f, ofValue scheme (storedTexts texts) = .error (.fault f) ∧
          (f.kind = .serialization ∨ f.kind = .invalidKey)) := by
  refine ⟨fun k => ?_, fun k => ⟨?_, ?_⟩, fun k => ⟨?_, ?_⟩, fun g => ⟨?_, ?_⟩, fun texts =>
    ⟨fun pair => ofValue_eq_ok_iff, fun e => ofValue_eq_error_iff, ?_⟩⟩
  · obtain ⟨texts, htexts, hrestores⟩ := restores_toFields scheme k
    rw [htexts, ofValue_of_restores hrestores]
  · exact PrivateKey.parse_of_hasBody (Hex.hasBody_encode k.bytes)
  · exact PrivateKey.parse_of_hasBody (Hex.hasBody_encodeMarked k.bytes)
  · exact PublicKey.parse_of_hasBody (Hex.hasBody_encode k.bytes)
  · exact PublicKey.parse_of_hasBody (Hex.hasBody_encodeMarked k.bytes)
  · exact Signature.parse_of_hasBody (Hex.hasBody_encode g.bytes)
  · exact Signature.parse_of_hasBody (Hex.hasBody_encodeMarked g.bytes)
  · rcases exists_restores_or_refuses scheme texts with ⟨pair, hrestores⟩ | ⟨f, hrefuses⟩
    · exact Or.inl ⟨pair, ofValue_of_restores hrestores⟩
    · exact Or.inr ⟨f, ofValue_of_refuses hrefuses, hrefuses.kind_eq⟩

end Keypair

end Attest
