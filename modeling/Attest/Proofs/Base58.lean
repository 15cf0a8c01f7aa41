import Attest.Base58
import Attest.Proofs.Bytes

/-!
# Base58 texts and byte strings

Writing goes from base 256 to base 58 and reading goes back, both keeping the zeros in
front (`toList_encode`, `decode_map_digit`), so both directions are one fact about numerals.
What is left is that the digits of the alphabet stand for the numbers below 58, each for one
(`value?_eq_some_iff`), and that reading stops at the first character that is no digit
(`number_of_find?`).

The checked form adds bytes of a fixed number at both ends, so it is settled by which bytes a
text stands for (`decode_eq_ok_iff`): what is read is one version byte, a payload and the
checksum of both, and there is no second text of these bytes.
-/

namespace Attest.Base58

open Numeral

/-! ## The alphabet -/

theorem length_alphabet : alphabet.length = 58 := by
  decide

theorem nodup_alphabet : alphabet.Nodup := by
  decide

theorem value?_eq_none_iff (c : Char) : value? c = none ↔ c ∉ alphabet :=
  List.idxOf?_eq_none_iff

theorem digit_eq_getElem {d : Nat} (hd : d < alphabet.length) : digit d = alphabet[d] := by
  rw [digit, List.getD_eq_getElem?_getD, List.getElem?_eq_getElem hd, Option.getD_some]

theorem value?_eq_some_iff {c : Char} {d : Nat} :
    value? c = some d ↔ d < 58 ∧ digit d = c := by
  rw [value?, List.idxOf?_eq_some_iff, ← length_alphabet]
  constructor
  · rintro ⟨hlt, hc, -⟩
    exact ⟨hlt, (digit_eq_getElem hlt).trans hc⟩
  · rintro ⟨hlt, hc⟩
    rw [digit_eq_getElem hlt] at hc
    refine ⟨hlt, hc, fun j hj heq => ?_⟩
    have := (nodup_alphabet.getElem_inj_iff).1 (heq.trans hc.symm)
    omega

theorem exists_value? {c : Char} (h : c ∈ alphabet) : ∃ d, value? c = some d := by
  rw [← Option.ne_none_iff_exists']
  exact fun hnone => (value?_eq_none_iff c).1 hnone h

theorem value?_digit {d : Nat} (hd : d < 58) : value? (digit d) = some d :=
  value?_eq_some_iff.2 ⟨hd, rfl⟩

theorem digit_eq_one_iff {d : Nat} (hd : d < 58) : digit d = '1' ↔ d = 0 := by
  have hzero : digit 0 = '1' := by decide
  constructor
  · intro h
    have hvalue := value?_digit hd
    rw [h, ← hzero, value?_digit (by omega), Option.some.injEq] at hvalue
    exact hvalue.symm
  · rintro rfl
    exact hzero

theorem exists_digits {cs : List Char} (h : ∀ c ∈ cs, c ∈ alphabet) :
    ∃ ds : List Nat, (∀ d ∈ ds, d < 58) ∧ cs = ds.map digit := by
  induction cs with
  | nil => exact ⟨[], by simp, rfl⟩
  | cons c cs ih =>
    obtain ⟨ds, hds, rfl⟩ := ih fun c hc => h c (List.mem_cons_of_mem _ hc)
    obtain ⟨d, hd⟩ := exists_value? (h c List.mem_cons_self)
    obtain ⟨hlt, rfl⟩ := value?_eq_some_iff.1 hd
    exact ⟨d :: ds, by simpa [hlt] using hds, rfl⟩

/-! ## Writing -/

theorem digitsOnto_eq (n : Nat) (rest : List Char) :
    digitsOnto n rest = (digits 58 n).map digit ++ rest := by
  fun_induction digitsOnto n rest with
  | case1 rest => simp [digits]
  | case2 n rest hn ih =>
    rw [ih, digits_of_pos (by omega) (Nat.pos_of_ne_zero hn), List.map_append,
      List.append_assoc]
    rfl

theorem zeros_map_toNat (bs : Bytes) :
    zeros (bs.map (·.toNat)) = (bs.takeWhile (· = 0)).length := by
  have hzero : ((fun n : Nat => decide (n = 0)) ∘ UInt8.toNat) = fun b => decide (b = 0) := by
    funext b
    simp [← UInt8.toNat_inj]
  rw [zeros, List.takeWhile_map, hzero, List.length_map]

theorem toList_encode (bs : Bytes) :
    (encode bs).toList = (recode 256 58 (bs.map (·.toNat))).map digit := by
  rw [encode, String.toList_ofList, recode, List.map_append, List.map_replicate,
    digitsOnto_eq, List.append_nil, zeros_map_toNat, Bytes.toNat_eq_value,
    (digit_eq_one_iff (by omega)).2 rfl]

/-! ## Reading -/

theorem number_map_digit (n : Nat) {ds : List Nat} (hds : ∀ d ∈ ds, d < 58) :
    number n (ds.map digit) = .ok (ds.foldl (fun n d => 58 * n + d) n) := by
  induction ds generalizing n with
  | nil => rfl
  | cons d ds ih =>
    obtain ⟨hd, hrest⟩ := List.forall_mem_cons.1 hds
    rw [List.map_cons, number, value?_digit hd]
    exact ih _ hrest

theorem number_of_find? (n : Nat) {cs : List Char} {c : Char}
    (h : cs.find? (· ∉ alphabet) = some c) : number n cs = .error c := by
  induction cs generalizing n with
  | nil => simp at h
  | cons x cs ih =>
    rw [List.find?_cons] at h
    rw [number]
    by_cases hx : x ∈ alphabet
    · -- A digit before it changes the number read so far, but not where reading stops.
      obtain ⟨d, hd⟩ := exists_value? hx
      rw [hd]
      exact ih _ (by simpa [hx] using h)
    · rw [(value?_eq_none_iff x).2 hx]
      have hxc : x = c := by simpa [hx] using h
      rw [hxc]

theorem zeros_eq_of_map_digit {ds : List Nat} (hds : ∀ d ∈ ds, d < 58) :
    ((ds.map digit).takeWhile (· = '1')).length = zeros ds := by
  induction ds with
  | nil => rfl
  | cons d ds ih =>
    obtain ⟨hd, hrest⟩ := List.forall_mem_cons.1 hds
    have hone : decide (digit d = '1') = decide (d = 0) :=
      decide_eq_decide.2 (digit_eq_one_iff hd)
    rw [zeros] at ih ⊢
    rw [List.map_cons, List.takeWhile_cons, List.takeWhile_cons, hone]
    split
    · rw [List.length_cons, List.length_cons, ih hrest]
    · rfl

theorem decode_map_digit {ds : List Nat} (hds : ∀ d ∈ ds, d < 58) {s : String}
    (hs : s.toList = ds.map digit) :
    decode s = .ok ((recode 58 256 ds).map UInt8.ofNat) := by
  rw [decode, hs, number_map_digit 0 hds, zeros_eq_of_map_digit hds]
  show Except.ok (List.replicate (zeros ds) 0 ++ Bytes.ofNat (value 58 ds)) = _
  rw [recode, List.map_append, List.map_replicate, Bytes.ofNat_eq_map]
  rfl

theorem decode_of_find? {s : String} {c : Char}
    (h : s.toList.find? (· ∉ alphabet) = some c) :
    decode s = .error (.badAddress
      s!"Invalid Base58 character: {Quoted.encode (String.singleton c)}" s) := by
  rw [decode, number_of_find? 0 h]

/-! ## Both ways -/

theorem decode_encode (bs : Bytes) : decode (encode bs) = .ok bs := by
  have hbytes : ∀ n ∈ bs.map (·.toNat), n < 256 :=
    List.forall_mem_map.2 fun b _ => b.toNat_lt
  rw [decode_map_digit (fun d => lt_of_mem_recode (by omega)) (toList_encode bs),
    recode_recode (by omega) hbytes, List.map_map]
  congr 1
  exact List.map_id'' (fun b => UInt8.ofNat_toNat) bs

theorem encode_recode {ds : List Nat} (hds : ∀ d ∈ ds, d < 58) :
    encode ((recode 58 256 ds).map UInt8.ofNat) = String.ofList (ds.map digit) := by
  have hbytes : ((recode 58 256 ds).map UInt8.ofNat).map (·.toNat) = recode 58 256 ds := by
    rw [List.map_map]
    refine (List.map_congr_left fun n hn => ?_).trans (List.map_id _)
    have hlt : n < 256 := lt_of_mem_recode (by omega) hn
    exact UInt8.toNat_ofNat_of_lt' hlt
  rw [← String.toList_inj, String.toList_ofList, toList_encode, hbytes,
    recode_recode (by omega) hds]

theorem encode_of_decode {s : String} (h : ∀ c ∈ s.toList, c ∈ alphabet) :
    ∃ bs, decode s = .ok bs ∧ encode bs = s := by
  obtain ⟨ds, hds, hs⟩ := exists_digits h
  exact ⟨_, decode_map_digit hds hs, by rw [encode_recode hds, ← hs, String.ofList_toList]⟩

theorem decode_eq_address_iff (s : String) :
    (∃ f, decode s = .error f ∧ f.kind = .address) ↔ ∃ c ∈ s.toList, c ∉ alphabet := by
  constructor
  · rintro ⟨f, hf, -⟩
    by_contra! hall
    obtain ⟨bs, hbs, -⟩ := encode_of_decode hall
    rw [hbs] at hf
    cases hf
  · rintro ⟨c, hc, hforeign⟩
    have hsome : (s.toList.find? (· ∉ alphabet)).isSome :=
      List.find?_isSome.2 ⟨c, hc, by simpa using hforeign⟩
    obtain ⟨first, hfirst⟩ := Option.isSome_iff_exists.1 hsome
    exact ⟨_, decode_of_find? hfirst, rfl⟩

/-- **Base58 is a bijection.** Every byte string is read back from its text; a text is refused
as an address exactly when some character of it is outside the alphabet, and every other text
is read and is the text of what is read. -/
theorem encode_decode_bijection :
    (∀ bs, decode (encode bs) = .ok bs) ∧
      ∀ s : String,
        ((∃ f, decode s = .error f ∧ f.kind = .address) ↔ ∃ c ∈ s.toList, c ∉ alphabet) ∧
        ((∀ c ∈ s.toList, c ∈ alphabet) → ∃ bs, decode s = .ok bs ∧ encode bs = s) :=
  ⟨decode_encode, fun s => ⟨decode_eq_address_iff s, encode_of_decode⟩⟩

/-- Zeros in front are kept, whether or not another digit follows them. -/
theorem encode_decode_bijection_zeros :
    decode (encode [0, 0]) = .ok [0, 0] ∧ ∃ bs, decode "112" = .ok bs ∧ encode bs = "112" := by
  have hdigits : "112".toList.all (· ∈ alphabet) := by decide
  refine ⟨encode_decode_bijection.1 [0, 0], (encode_decode_bijection.2 "112").2 fun c hc => ?_⟩
  exact of_decide_eq_true (List.all_eq_true.1 hdigits c hc)

/-! ## The checked form -/

@[simp] theorem length_checksum (bs : Bytes) : (checksum bs).length = checksumSize := by
  rw [checksum, List.length_take, (doubleSha256 bs).length_bytes]
  rfl

theorem mem_alphabet_of_decode {s : String} {bs : Bytes} (h : decode s = .ok bs) :
    ∀ c ∈ s.toList, c ∈ alphabet := by
  by_contra! hforeign
  obtain ⟨f, hf, -⟩ := (decode_eq_address_iff s).2 hforeign
  rw [h] at hf
  cases hf

theorem decode_eq_ok_iff {s : String} {bs : Bytes} : decode s = .ok bs ↔ encode bs = s := by
  constructor
  · intro h
    obtain ⟨bs', hbs', hencode⟩ := encode_of_decode (mem_alphabet_of_decode h)
    rw [h, Except.ok.injEq] at hbs'
    rw [hbs', hencode]
  · rintro rfl
    exact decode_encode bs

theorem exists_badAddress_of_decode {s : String} {f : Fault} (h : decode s = .error f) :
    ∃ message, f = .badAddress message s := by
  unfold decode at h
  split at h
  · exact ⟨_, (Except.error.inj h).symm⟩
  · cases h

section checkDecode

variable {s : String} {raw body check : Bytes}

theorem checkDecode_of_decode (h : decode s = .ok raw) :
    checkDecode s =
      if raw.length < checksumSize + 1 then .error (.badAddress "Base58Check string too short" s)
      else if checksum (raw.take (raw.length - checksumSize)) ≠
          raw.drop (raw.length - checksumSize) then
        .error (.badAddress "Invalid Base58Check checksum" s)
      else .ok ((raw.take (raw.length - checksumSize)).take 1,
        (raw.take (raw.length - checksumSize)).drop 1) := by
  unfold checkDecode
  rw [h]
  rfl

theorem checkDecode_of_short (h : decode s = .ok raw) (hshort : raw.length < checksumSize + 1) :
    checkDecode s = .error (.badAddress "Base58Check string too short" s) := by
  rw [checkDecode_of_decode h, if_pos hshort]

theorem checkDecode_of_append (h : decode s = .ok (body ++ check)) (hbody : 1 ≤ body.length)
    (hcheck : check.length = checksumSize) :
    checkDecode s = if checksum body ≠ check then
        .error (.badAddress "Invalid Base58Check checksum" s)
      else .ok (body.take 1, body.drop 1) := by
  have hlong : ¬ (body ++ check).length < checksumSize + 1 := by
    rw [List.length_append]
    omega
  have hlength : (body ++ check).length - checksumSize = body.length := by
    rw [List.length_append]
    omega
  rw [checkDecode_of_decode h, if_neg hlong, hlength, List.take_left' rfl, List.drop_left' rfl]

/-- Bytes of a text are too few, or what is checked and four more. -/
theorem short_or_exists_append (raw : Bytes) :
    raw.length < checksumSize + 1 ∨
      ∃ body check, raw = body ++ check ∧ 1 ≤ body.length ∧ check.length = checksumSize := by
  by_cases hshort : raw.length < checksumSize + 1
  · exact Or.inl hshort
  · refine Or.inr ⟨raw.take (raw.length - checksumSize), raw.drop (raw.length - checksumSize),
      (List.take_append_drop _ raw).symm, ?_, ?_⟩
    · rw [List.length_take]
      omega
    · rw [List.length_drop]
      omega

/-- What reading can come to: a refusal that names the text, or a version byte and a payload
of which the text holds the checksum. -/
theorem checkDecode_cases (s : String) :
    (∃ message, checkDecode s = .error (.badAddress message s)) ∨
      ∃ body, 1 ≤ body.length ∧ decode s = .ok (body ++ checksum body) ∧
        checkDecode s = .ok (body.take 1, body.drop 1) := by
  cases hraw : decode s with
  | error f =>
    obtain ⟨message, rfl⟩ := exists_badAddress_of_decode hraw
    refine Or.inl ⟨message, ?_⟩
    unfold checkDecode
    rw [hraw]
    rfl
  | ok raw =>
    rcases short_or_exists_append raw with hshort | ⟨body, check, rfl, hbody, hcheck⟩
    · exact Or.inl ⟨_, checkDecode_of_short hraw hshort⟩
    · have hread := checkDecode_of_append hraw hbody hcheck
      by_cases hsum : checksum body = check
      · subst hsum
        rw [if_neg (not_not.2 rfl)] at hread
        exact Or.inr ⟨body, hbody, rfl, hread⟩
      · rw [if_pos hsum] at hread
        exact Or.inl ⟨_, hread⟩

theorem checkDecode_eq_ok_iff {version payload : Bytes} :
    checkDecode s = .ok (version, payload) ↔
      version.length = 1 ∧
        decode s = .ok (version ++ payload ++ checksum (version ++ payload)) := by
  constructor
  · intro h
    rcases checkDecode_cases s with ⟨message, hrefused⟩ | ⟨body, hbody, hraw, hread⟩
    · rw [h] at hrefused
      cases hrefused
    · rw [h, Except.ok.injEq, Prod.mk.injEq] at hread
      obtain ⟨rfl, rfl⟩ := hread
      rw [List.take_append_drop, List.length_take]
      exact ⟨by omega, hraw⟩
  · rintro ⟨hversion, hraw⟩
    have hbody : 1 ≤ (version ++ payload).length := by
      rw [List.length_append]
      omega
    rw [checkDecode_of_append hraw hbody (length_checksum _), if_neg (not_not.2 rfl),
      List.take_left' hversion, List.drop_left' hversion]

end checkDecode

/-- **The checked form is read exactly as it is written.**  A text is read as a version and a
payload if and only if the version is one byte and the text is what the two are written as.
Any other text is refused as an address, and the refusal names the text. -/
theorem checkDecode_exactly_checkEncode (s : String) :
    (∀ version payload : Bytes, checkDecode s = .ok (version, payload) ↔
      version.length = 1 ∧ checkEncode payload version = s) ∧
      ((∃ version payload, checkDecode s = .ok (version, payload)) ∨
        ∃ f, checkDecode s = .error f ∧ f.kind = .address ∧
          f.details = [("address", .text s)]) := by
  constructor
  · intro version payload
    rw [checkDecode_eq_ok_iff, decode_eq_ok_iff]
    rfl
  · rcases checkDecode_cases s with ⟨message, hrefused⟩ | ⟨body, -, -, hread⟩
    · exact Or.inr ⟨_, hrefused, rfl, rfl⟩
    · exact Or.inl ⟨_, _, hread⟩

end Attest.Base58
