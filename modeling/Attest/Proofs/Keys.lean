import Attest.Keys
import Attest.Proofs.Hex.Grammar

/-!
# Which texts are keys and signatures

Keys and signatures are read as any hexadecimal text is, and then the number of bytes has to be
right.  So a text of digits is a key exactly if it has 64 of them and a signature exactly if it has
128 (`exists_readsAs_iff`), but a text with blanks between the digits is one too.
-/

namespace Attest

variable {s : String}

/-! ## Bytes of the right number -/

section sized

variable {α : Type} {size : Nat} {bs : Bytes} {a : α}

/-- A check of the number of bytes lets through what has the right number of them. -/
theorem sized_eq_ok_iff {make : bs.length = size → α} {fault : Fault} {p : Prop}
    (hmake : ∀ h, make h = a ↔ p) (hsize : p → bs.length = size) :
    (if h : bs.length = size then .ok (make h) else .error fault : Except Fault α) = .ok a ↔ p := by
  split
  · rw [Except.ok.injEq, hmake]
  · next hlength => exact iff_of_false (by simp) fun hp => hlength (hsize hp)

theorem parsed_eq_ok_iff {make : Bytes → Except Fault α} {refuse : Hex.Refusal → Fault} :
    (match Hex.parse s with
      | .error r => Except.error (refuse r)
      | .ok bs => make bs) = .ok a ↔ ∃ bs, Hex.ReadsAs s bs ∧ make bs = .ok a := by
  simp only [← Hex.parse_eq_ok_iff]
  cases Hex.parse s with
  | error r => simp
  | ok bs => simp

/-- What is known by its bytes is read from the texts of so many bytes. -/
theorem exists_sized_iff {parse : String → Except Fault α} {bytes : α → Bytes}
    (hsize : ∀ a, (bytes a).length = size)
    (hsound : ∀ a, parse s = .ok a → Hex.ReadsAs s (bytes a))
    (hcomplete : ∀ bs, bs.length = size → Hex.ReadsAs s bs → ∃ a, parse s = .ok a) :
    (∃ a, parse s = .ok a) ↔ ∃ bs, Hex.ReadsAs s bs ∧ bs.length = size := by
  constructor
  · rintro ⟨a, ha⟩
    exact ⟨bytes a, hsound a ha, hsize a⟩
  · rintro ⟨bs, hbs, hlength⟩
    exact hcomplete bs hlength hbs

end sized

theorem PrivateKey.parse_eq_ok_iff {k : PrivateKey} :
    parse s = .ok k ↔ Hex.ReadsAs s k.bytes := by
  have hmake (bs : Bytes) : ofBytes bs = .ok k ↔ bs = k.bytes :=
    sized_eq_ok_iff (fun _ => PrivateKey.ext_iff) (fun h => h ▸ k.length_bytes)
  refine parsed_eq_ok_iff.trans ?_
  simp only [hmake, exists_eq_right]

theorem PublicKey.parse_eq_ok_iff {k : PublicKey} :
    parse s = .ok k ↔ Hex.ReadsAs s k.bytes := by
  have hmake (bs : Bytes) : ofBytes bs = .ok k ↔ bs = k.bytes :=
    sized_eq_ok_iff (fun _ => PublicKey.ext_iff) (fun h => h ▸ k.length_bytes)
  refine parsed_eq_ok_iff.trans ?_
  simp only [hmake, exists_eq_right]

theorem Signature.parse_eq_ok_iff {g : Signature} :
    parse s = .ok g ↔ Hex.ReadsAs s g.bytes ∧ g.scheme = schemeName := by
  have hmake (bs : Bytes) : ofBytes bs schemeName = .ok g ↔ bs = g.bytes ∧ g.scheme = schemeName :=
    sized_eq_ok_iff (fun _ => by cases g; rw [Signature.mk.injEq, @eq_comm _ schemeName])
      (fun h => h.1 ▸ g.length_bytes)
  refine parsed_eq_ok_iff.trans ?_
  simp only [hmake, ← and_assoc, exists_and_right, exists_eq_right]

theorem exists_privateKey_iff :
    (∃ k, PrivateKey.parse s = .ok k) ↔ ∃ bs, Hex.ReadsAs s bs ∧ bs.length = 32 :=
  exists_sized_iff PrivateKey.length_bytes (fun _ => PrivateKey.parse_eq_ok_iff.1)
    fun bs hlength hbs => ⟨⟨bs, hlength⟩, PrivateKey.parse_eq_ok_iff.2 hbs⟩

theorem exists_publicKey_iff :
    (∃ k, PublicKey.parse s = .ok k) ↔ ∃ bs, Hex.ReadsAs s bs ∧ bs.length = 32 :=
  exists_sized_iff PublicKey.length_bytes (fun _ => PublicKey.parse_eq_ok_iff.1)
    fun bs hlength hbs => ⟨⟨bs, hlength⟩, PublicKey.parse_eq_ok_iff.2 hbs⟩

theorem exists_signature_iff :
    (∃ g, Signature.parse s = .ok g) ↔ ∃ bs, Hex.ReadsAs s bs ∧ bs.length = 64 :=
  exists_sized_iff Signature.length_bytes (fun _ h => (Signature.parse_eq_ok_iff.1 h).1)
    fun bs hlength hbs => ⟨⟨bs, schemeName, hlength⟩, Signature.parse_eq_ok_iff.2 ⟨hbs, rfl⟩⟩

namespace Hex

/-- Of a text of digits the number of bytes is known without reading it. -/
theorem exists_readsAs_iff {cs : List Char} (h : HasDigits s cs) (size : Nat) :
    (∃ bs, ReadsAs s bs ∧ bs.length = size) ↔ cs.length = 2 * size := by
  constructor
  · rintro ⟨bs, ⟨ds, hbody, -, hds⟩, rfl⟩
    have hsame : ds = cs := by
      rw [← unmark_of_spaced hbody hds, unmark_of_hasDigits h]
    rw [hsame] at hds
    exact length_of_isDigit hds h.isDigit
  · intro hlength
    obtain ⟨bs, hread, -, hsize⟩ := exists_parse_of_hasDigits h (by omega)
    exact ⟨bs, parse_eq_ok_iff.1 hread, by omega⟩

theorem parse_cases (s : String) :
    (∃ bs, parse s = .ok bs) ∨
      ∃ n, parse s = .error (.oddLength n) ∨ parse s = .error (.badCharacter n) := by
  rcases Nat.mod_two_eq_zero_or_one (unmark s.toList).length with heven | hodd
  · rw [parse_of_even heven]
    cases decode (unmark s.toList) with
    | error i => exact Or.inr ⟨i, Or.inr rfl⟩
    | ok bs => exact Or.inl ⟨bs, rfl⟩
  · exact Or.inr ⟨_, Or.inl (parse_of_odd hodd)⟩

/-- **Hexadecimal text is digits, but for blanks.**  A text is read exactly if, behind a mark or
none, it is pairs of digits with blanks in even number between them; keys and signatures are the
texts that are so read as 32 and as 64 bytes.  What is read without a blank is digits only, and what
has a blank in it never is.  Of the texts of digits those in even number are read, and written again
in lower case behind a mark, and those of exactly 64, 64 and 128 digits are keys and signatures.
Any other text is refused, as odd in length or for a character. -/
theorem parse_digits_unless_blank (s : String) :
    (∀ bs, parse s = .ok bs ↔ ReadsAs s bs) ∧
    (∀ bs, parse s = .ok bs → ((∃ cs, HasDigits s cs) ↔ ∀ c ∈ s.toList, isBlank c = false)) ∧
    ((∃ bs, parse s = .ok bs) ∨
      ∃ n, parse s = .error (.oddLength n) ∨ parse s = .error (.badCharacter n)) ∧
    (∀ cs, HasDigits s cs →
      ((∃ bs, parse s = .ok bs) ↔ cs.length % 2 = 0) ∧
      (∀ bs, parse s = .ok bs → encodeMarked bs = "0x" ++ String.ofList (cs.map Char.toLower)) ∧
      ((∃ k, PrivateKey.parse s = .ok k) ↔ cs.length = 64) ∧
      ((∃ k, PublicKey.parse s = .ok k) ↔ cs.length = 64) ∧
      ((∃ g, Signature.parse s = .ok g) ↔ cs.length = 128)) ∧
    (∀ k, PrivateKey.parse s = .ok k ↔ ReadsAs s k.bytes) ∧
    (∀ k, PublicKey.parse s = .ok k ↔ ReadsAs s k.bytes) ∧
    ∀ g, Signature.parse s = .ok g ↔ ReadsAs s g.bytes ∧ g.scheme = schemeName := by
  refine ⟨fun bs => parse_eq_ok_iff, fun bs hbs => hasDigits_iff_of_readsAs (parse_eq_ok_iff.1 hbs),
    parse_cases s, fun cs hcs => ⟨⟨?_, fun heven => ?_⟩, fun bs hbs => ?_, ?_, ?_, ?_⟩,
    fun k => PrivateKey.parse_eq_ok_iff, fun k => PublicKey.parse_eq_ok_iff,
    fun g => Signature.parse_eq_ok_iff⟩
  · rintro ⟨bs, hbs⟩
    have hlength := (exists_readsAs_iff hcs bs.length).1 ⟨bs, parse_eq_ok_iff.1 hbs, rfl⟩
    omega
  · obtain ⟨bs, hbs, -⟩ := exists_parse_of_hasDigits hcs heven
    exact ⟨bs, hbs⟩
  · have hlength := (exists_readsAs_iff hcs bs.length).1 ⟨bs, parse_eq_ok_iff.1 hbs, rfl⟩
    obtain ⟨bs', hbs', hdigits, -⟩ := exists_parse_of_hasDigits hcs (by omega)
    have hsame : bs = bs' := Except.ok.inj (hbs.symm.trans hbs')
    rw [encodeMarked, encode, hsame, hdigits]
  · rw [exists_privateKey_iff, exists_readsAs_iff hcs]
  · rw [exists_publicKey_iff, exists_readsAs_iff hcs]
  · rw [exists_signature_iff, exists_readsAs_iff hcs]

/-- The digits of 32 bytes, and two blanks behind them. -/
def blankedKey : List Char :=
  List.replicate 64 '1' ++ [' ', ' ']

/-- Two blanks are read as no bytes, though a blank is no digit, and 64 digits with two blanks
behind them are a key though they are 66 characters. -/
theorem parse_twoBlanks :
    parse (String.ofList [' ', ' ']) = .ok [] ∧
      (∀ cs, ¬ HasDigits (String.ofList [' ', ' ']) cs) ∧
      (∃ k, PrivateKey.parse (String.ofList blankedKey) = .ok k) ∧
      (∃ k, PublicKey.parse (String.ofList blankedKey) = .ok k) ∧
      ∀ cs, ¬ HasDigits (String.ofList blankedKey) cs := by
  have hnone {cs : List Char} {bs : Bytes} (hbs : ReadsAs (String.ofList cs) bs)
      (hblank : ' ' ∈ cs) : ∀ ds, ¬ HasDigits (String.ofList cs) ds := by
    intro ds hds
    have hnoblank := (hasDigits_iff_of_readsAs hbs).1 ⟨ds, hds⟩ ' '
    rw [String.toList_ofList] at hnoblank
    exact absurd (hnoblank hblank) (by decide)
  have htwo : ReadsAs (String.ofList [' ', ' ']) [] :=
    ⟨_, Or.inl String.toList_ofList, rfl, .blank rfl (.blank rfl .nil)⟩
  have hkey : ReadsAs (String.ofList blankedKey) (List.replicate 32 0x11) :=
    ⟨_, Or.inl String.toList_ofList, rfl, decode_eq_ok_iff.1 (by decide +kernel)⟩
  refine ⟨parse_eq_ok_iff.2 htwo, hnone htwo (by decide), ?_, ?_, hnone hkey (by decide)⟩
  · exact exists_privateKey_iff.2 ⟨_, hkey, by decide⟩
  · exact exists_publicKey_iff.2 ⟨_, hkey, by decide⟩

/-- Behind a capital mark two digits of different case are read as a byte and written again in lower
case, and they are no key. -/
theorem parse_digits_unless_blank_oneByte :
    HasDigits (String.ofList ['0', 'X', 'a', 'B']) ['a', 'B'] ∧
      parse (String.ofList ['0', 'X', 'a', 'B']) = .ok [0xab] ∧
      (∀ c ∈ (String.ofList ['0', 'X', 'a', 'B']).toList, isBlank c = false) ∧
      encodeMarked [0xab] = "0x" ++ String.ofList ['a', 'b'] ∧
      ¬ ∃ k, PrivateKey.parse (String.ofList ['0', 'X', 'a', 'B']) = .ok k := by
  obtain ⟨hread, hblank, -, hdigits, -⟩ :=
    parse_digits_unless_blank (String.ofList ['0', 'X', 'a', 'B'])
  have hbody : HasDigits (String.ofList ['0', 'X', 'a', 'B']) ['a', 'B'] := by
    refine ⟨Or.inr (Or.inr String.toList_ofList), fun c hc => ?_⟩
    obtain rfl | rfl : c = 'a' ∨ c = 'B' := by simpa using hc
    · decide
    · decide
  have hbyte : parse (String.ofList ['0', 'X', 'a', 'B']) = .ok [0xab] :=
    (hread _).2 ⟨_, hbody.hasBody, rfl, decode_eq_ok_iff.1 (by decide)⟩
  obtain ⟨-, hwritten, hkey, -⟩ := hdigits _ hbody
  refine ⟨hbody, hbyte, (hblank _ hbyte).1 ⟨_, hbody⟩, hwritten _ hbyte, ?_⟩
  rw [hkey]
  decide

end Hex

end Attest
