import Attest.Miner.Unchecked
import Attest.Proofs.Miner
import Attest.Proofs.Target.Compact
import Attest.Proofs.Target.Difficulty

/-!
# Miners and their targets

A miner is made for a difficulty, for a target or for a compact code.  All three ways come to the
miner for a target (`Built.exists_eq_forTarget`), so what holds of that one holds of every miner:
it shows the zero bits that its target begins with, and no hash that it accepts begins with
fewer.  Rounding a target through its code lowers it, and a lower target accepts less
(`verify_of_le`).
-/

namespace Attest.Miner

/-! ## Miners for a target -/

section making

variable {limit : Int}

theorem checkLimit_of_pos (h : 0 < limit) : checkLimit limit = .ok limit.toNat :=
  if_neg (not_le.2 h)

theorem checkLimit_of_nonpos (h : limit ≤ 0) :
    checkLimit limit = .error (limitRefusal (.int limit)) :=
  if_pos h

theorem ofTarget_of_pos (target : Digest) (h : 0 < limit) :
    ofTarget target limit = .ok
      { difficultyBits := target.leadingZeroBits, maxNonce := limit.toNat, target } := by
  rw [ofTarget, checkLimit_of_pos h]
  rfl

/-- The miner for a difficulty is the one for the target of that difficulty. -/
theorem ofBits_natCast {b : Nat} (hb : b ≤ 256) (limit : Int) :
    ofBits b limit = ofTarget (Target.threshold b) limit := by
  rw [ofBits, ofTarget, Target.ofBits_natCast hb, Target.leadingZeroBits_threshold hb]
  cases checkLimit limit <;> rfl

theorem ofCompact_of_eq_ok {code : Int} {target : Digest} (h : Target.ofCompact code = .ok target)
    (limit : Int) : ofCompact code limit = ofTarget target limit := by
  rw [ofCompact, h]
  rfl

end making

/-! ## Checking a nonce -/

section checking

variable {m m' : Miner} {header : Bytes} {nonce : Int}

theorem verify_iff :
    m.verify header nonce = true ↔
      ∃ d, hash header nonce = .ok d ∧ d.toNat ≤ m.target.toNat := by
  unfold verify accepts
  cases hash header nonce <;> simp

theorem verify_of_le (htarget : m.target.toNat ≤ m'.target.toNat)
    (h : m.verify header nonce = true) : m'.verify header nonce = true := by
  obtain ⟨d, hd, hle⟩ := verify_iff.1 h
  exact verify_iff.2 ⟨d, hd, hle.trans htarget⟩

end checking

/-! ## Miners with their settings -/

namespace Unchecked

/-- The miner for a target and a limit, which shows the zero bits that the target begins with. -/
def forTarget (target : Digest) (limit : Nat) : Unchecked where
  miner := { difficultyBits := target.leadingZeroBits, maxNonce := limit, target }
  difficultyBits := .int target.leadingZeroBits
  maxNonce := .int limit

section making

variable {limit : Int} {m : Unchecked}

theorem limitOf_int (limit : Int) : limitOf (.int limit) = checkLimit limit := by
  show (if (Number.int limit).isAtMost (.int 0) = true then _ else _) = _
  by_cases h : limit ≤ 0
  · rw [Number.isAtMost_int, if_pos (decide_eq_true h), checkLimit_of_nonpos h]
    rfl
  · rw [Number.isAtMost_int, if_neg (by simpa using h)]

theorem make_of_nonpos (h : limit ≤ 0) (target : Option (Given Digest)) (bits : Value) :
    make target bits (.int limit) = .error (limitRefusal (.int limit)) := by
  rw [make, limitOf_int, checkLimit_of_nonpos h]
  rfl

theorem make_target (h : 0 < limit) (target : Digest) (bits : Value) :
    make (some (.proper target)) bits (.int limit) = .ok (forTarget target limit.toNat) := by
  have hshown : (limit.toNat : Int) = limit := by omega
  rw [make, limitOf_int, checkLimit_of_pos h]
  simp only [Given.need, hshown, ofTarget_of_pos target h, forTarget, bind, Except.bind, pure,
    Except.pure]

theorem bitsOf_natCast {b : Nat} (hb : b ≤ 256) : Target.bitsOf (.int b) = .ok (b : Int) := by
  simp only [Target.bitsOf, Value.whole?, Target.orFail, Target.ofBits_natCast hb, Except.mapError,
    bind, Except.bind, pure, Except.pure]

theorem bitsOf_of_not_inRange {bits : Int} (h : ¬ (0 ≤ bits ∧ bits ≤ 256)) :
    Target.bitsOf (.int bits) = .error (Target.Refusal.badDifficulty bits).failure := by
  simp only [Target.bitsOf, Value.whole?, Target.orFail, Target.ofBits_of_not_inRange h,
    Except.mapError, bind, Except.bind]

theorem make_bits (h : 0 < limit) {b : Nat} (hb : b ≤ 256) :
    make none (.int b) (.int limit) = .ok (forTarget (Target.threshold b) limit.toNat) := by
  have hshown : (limit.toNat : Int) = limit := by omega
  rw [make, limitOf_int, checkLimit_of_pos h]
  simp only [bitsOf_natCast hb, ofBits_natCast hb, hshown, ofTarget_of_pos _ h, forTarget,
    Target.leadingZeroBits_threshold hb, bind, Except.bind, pure, Except.pure]

theorem make_of_not_inRange (h : 0 < limit) {bits : Int} (hbits : ¬ (0 ≤ bits ∧ bits ≤ 256)) :
    make none (.int bits) (.int limit) =
      .error (Target.Refusal.badDifficulty bits).failure := by
  rw [make, limitOf_int, checkLimit_of_pos h]
  simp only [bitsOf_of_not_inRange hbits, bind, Except.bind]

theorem ofCode_eq {settings : Fields} (hlimit : limitIn settings = .int limit) (code : Int) :
    ofCode (.int code) settings =
      (checkNames "ProofOfWork.from_compact" ["cls", "nbits"] ["max_nonce"] settings >>= fun _ =>
        ofCompact code limit >>= fun miner =>
          .ok ⟨miner, .int miner.difficultyBits, .int limit⟩) := by
  unfold ofCode
  rw [hlimit]
  rfl

theorem checkNames_of_forall {title : String} {taken known : List String} {settings : Fields}
    (h : ∀ field ∈ settings, field.1 ∈ known) :
    checkNames title taken known settings = .ok () := by
  have hfind : settings.find? (fun field => !known.contains field.1) = none := by
    rw [List.find?_eq_none]
    intro field hfield
    simpa using h field hfield
  rw [checkNames, hfind]

theorem ofCode_of_pos (h : 0 < limit) {settings : Fields}
    (hnames : ∀ field ∈ settings, field.1 = "max_nonce") (hlimit : limitIn settings = .int limit)
    {code : Int} {target : Digest} (hcode : Target.ofCompact code = .ok target) :
    ofCode (.int code) settings = .ok (forTarget target limit.toNat) := by
  have hshown : (limit.toNat : Int) = limit := by omega
  have hknown : ∀ field ∈ settings, field.1 ∈ ["max_nonce"] := fun field hfield =>
    List.mem_singleton.2 (hnames field hfield)
  rw [ofCode_eq hlimit, checkNames_of_forall hknown, ofCompact_of_eq_ok hcode,
    ofTarget_of_pos target h, forTarget, hshown]
  rfl

theorem exists_target_of_ofCode {settings : Fields} (hlimit : limitIn settings = .int limit)
    {code : Int} (h : ofCode (.int code) settings = .ok m) :
    ∃ target, 0 < limit ∧ m = forTarget target limit.toNat := by
  rw [ofCode_eq hlimit] at h
  cases hnames : checkNames "ProofOfWork.from_compact" ["cls", "nbits"] ["max_nonce"] settings with
  | error e =>
    rw [hnames] at h
    cases h
  | ok u =>
    cases hcode : Target.ofCompact code with
    | error r =>
      rw [hnames, ofCompact, hcode] at h
      cases h
    | ok target =>
      rw [hnames, ofCompact_of_eq_ok hcode] at h
      by_cases hpos : 0 < limit
      · have hshown : (limit.toNat : Int) = limit := by omega
        rw [ofTarget_of_pos target hpos] at h
        refine ⟨target, hpos, ?_⟩
        rw [forTarget, hshown]
        exact (Except.ok.inj h).symm
      · rw [ofTarget, checkLimit_of_nonpos (not_lt.1 hpos)] at h
        cases h

end making

/-! ## Every miner -/

/-- The miners there are: for a difficulty, for a target, whatever difficulty is given beside it,
and for a code. -/
inductive Built : Unchecked → Prop where
  | ofBits {bits limit : Int} {m : Unchecked} (h : make none (.int bits) (.int limit) = .ok m) :
      Built m
  | ofTarget {target : Digest} {bits : Value} {limit : Int} {m : Unchecked}
      (h : make (some (.proper target)) bits (.int limit) = .ok m) : Built m
  | ofCode {code limit : Int} {settings : Fields} {m : Unchecked}
      (hlimit : limitIn settings = .int limit) (h : ofCode (.int code) settings = .ok m) : Built m

/-- What a miner shows is what it has: the zero bits that its target begins with, and a limit that
leaves nonces to try. -/
structure Consistent (m : Unchecked) : Prop where
  leadingZeroBits_target : m.miner.target.leadingZeroBits = m.miner.difficultyBits
  maxNonce_pos : 0 < m.miner.maxNonce
  difficultyBits_eq : m.difficultyBits = .int m.miner.difficultyBits
  maxNonce_eq : m.maxNonce = .int m.miner.maxNonce

theorem Built.exists_eq_forTarget {m : Unchecked} (h : Built m) :
    ∃ target limit, 0 < limit ∧ m = forTarget target limit := by
  cases h with
  | @ofBits bits limit _ h =>
    by_cases hpos : 0 < limit
    · by_cases hrange : 0 ≤ bits ∧ bits ≤ 256
      · obtain ⟨b, rfl⟩ := Int.eq_ofNat_of_zero_le hrange.1
        rw [make_bits hpos (by omega)] at h
        exact ⟨_, _, by omega, (Except.ok.inj h).symm⟩
      · rw [make_of_not_inRange hpos hrange] at h
        cases h
    · rw [make_of_nonpos (not_lt.1 hpos)] at h
      cases h
  | @ofTarget target bits limit _ h =>
    by_cases hpos : 0 < limit
    · rw [make_target hpos] at h
      exact ⟨_, _, by omega, (Except.ok.inj h).symm⟩
    · rw [make_of_nonpos (not_lt.1 hpos)] at h
      cases h
  | ofCode hlimit h =>
    obtain ⟨target, hpos, rfl⟩ := exists_target_of_ofCode hlimit h
    exact ⟨_, _, by omega, rfl⟩

theorem consistent_forTarget (target : Digest) {limit : Nat} (h : 0 < limit) :
    Consistent (forTarget target limit) :=
  ⟨rfl, h, rfl, rfl⟩

/-- **Miners and their targets.**  Every miner is consistent, and the hash of a nonce that it
accepts begins with as many zero bits as it asks for.  The miner for a difficulty is the miner for
the target of that difficulty, with the same limit.  What the miner for the code of a target
accepts, the miner for the target accepts. -/
theorem built_consistent :
    (∀ m, Built m → Consistent m ∧
      ∀ (header : Bytes) (nonce : Int), m.verify header (.int nonce) = .ok true →
        ∃ d, hash header nonce = .ok d ∧ m.miner.difficultyBits ≤ d.leadingZeroBits) ∧
    (∀ bits limit : Int, 0 ≤ bits → bits ≤ 256 → 0 < limit →
      ∃ target m, Target.ofBits bits = .ok target ∧ make none (.int bits) (.int limit) = .ok m ∧
        m.difficultyBits = .int bits ∧ m.maxNonce = .int limit ∧ m.miner.target = target ∧
        ∀ other, make (some (.proper target)) other (.int limit) = .ok m) ∧
    ∀ (given : Target.Input) (target : Digest) (settings : Fields) (other : Value)
      (limit limit' : Int), given.Spells target.toNat →
      (∀ field ∈ settings, field.1 = "max_nonce") → limitIn settings = .int limit →
      0 < limit → 0 < limit' →
      ∃ code m m', Target.toCompact given = .ok code ∧ ofCode (.int code) settings = .ok m ∧
        make (some (.proper target)) other (.int limit') = .ok m' ∧ m'.miner.target = target ∧
        ∀ (header : Bytes) (nonce : Int), m.verify header (.int nonce) = .ok true →
          m'.verify header (.int nonce) = .ok true := by
  refine ⟨?_, ?_, ?_⟩
  · intro m hm
    obtain ⟨target, limit, hpos, rfl⟩ := hm.exists_eq_forTarget
    refine ⟨consistent_forTarget target hpos, fun header nonce h => ?_⟩
    obtain ⟨d, hd, hle⟩ := verify_iff.1 (Except.ok.inj h)
    exact ⟨d, hd, Digest.leadingZeroBits_le_of_le hle⟩
  · intro bits limit hnonneg hle hpos
    obtain ⟨b, rfl⟩ := Int.eq_ofNat_of_zero_le hnonneg
    have hb : b ≤ 256 := by omega
    have hshown : (limit.toNat : Int) = limit := by omega
    refine ⟨_, _, Target.ofBits_natCast hb, make_bits hpos hb, ?_, ?_, rfl, make_target hpos _⟩
    · rw [forTarget, Target.leadingZeroBits_threshold hb]
    · rw [forTarget, hshown]
  · intro given target settings other limit limit' hgiven hnames hlimit hpos hpos'
    have hreadable := Target.readable_compactOf hgiven.le_maxNat
    obtain ⟨d, hd, hvalue⟩ := Target.ofCompact_of_readable hreadable
    have hrounded : d.toNat ≤ target.toNat := by
      rw [hvalue]
      exact Target.rounded_le target.toNat
    refine ⟨_, _, _, hgiven.toCompact, ofCode_of_pos hpos hnames hlimit hd,
      make_target hpos' target other, rfl, fun header nonce h => ?_⟩
    exact congrArg Except.ok (verify_of_le hrounded (Except.ok.inj h))

/-- After the empty header the nonce one is a solution for a target that begins with three zero
bits.  The least number beyond that target is rounded down to it by its code. -/
theorem built_consistent_threeBits :
    Built (forTarget (.ofNat (2 ^ 252)) 3) ∧
      (forTarget (.ofNat (2 ^ 252)) 3).verify [] (.int 1) = .ok true ∧
      (∃ d, hash [] 1 = .ok d ∧ 3 ≤ d.leadingZeroBits) ∧
      (∃ target m, Target.ofBits 3 = .ok target ∧ make none (.int 3) (.int 3) = .ok m ∧
        make (some (.proper target)) (.int 16) (.int 3) = .ok m) ∧
      (Target.Input.number (2 ^ 252 + 1)).Spells (Digest.ofNat (2 ^ 252 + 1)).toNat ∧
      ∃ code m m', Target.toCompact (.number (2 ^ 252 + 1)) = .ok code ∧
        ofCode (.int code) [] = .ok m ∧
        make (some (.proper (.ofNat (2 ^ 252 + 1)))) .null (.int 3) = .ok m' ∧
        (m.verify [] (.int 1) = .ok true → m'.verify [] (.int 1) = .ok true) := by
  have hbits : (Digest.ofNat (2 ^ 252)).leadingZeroBits = 3 := by decide +kernel
  have hsolves : (forTarget (.ofNat (2 ^ 252)) 3).miner.verify [] 1 = true := by decide +kernel
  have hverify : (forTarget (.ofNat (2 ^ 252)) 3).verify [] (.int 1) = .ok true :=
    congrArg Except.ok hsolves
  have hmade : make (some (.proper (.ofNat (2 ^ 252)))) .null (.int 3) =
      .ok (forTarget (.ofNat (2 ^ 252)) 3) := make_target (by decide) _ _
  have hspells : (Target.Input.number (2 ^ 252 + 1)).Spells (Digest.ofNat (2 ^ 252 + 1)).toNat := by
    rw [Digest.toNat_ofNat (by decide)]
    exact ⟨rfl, by decide⟩
  obtain ⟨hevery, hsame, hrounded⟩ := built_consistent
  obtain ⟨-, hhash⟩ := hevery _ (.ofTarget hmade)
  obtain ⟨d, hd, hle⟩ := hhash [] 1 hverify
  obtain ⟨target, m, htarget, hm, -, -, -, hother⟩ :=
    hsame 3 3 (by decide) (by decide) (by decide)
  obtain ⟨code, n, n', hcode, hn, hn', -, haccepts⟩ :=
    hrounded _ _ [] .null defaultMaxNonce 3 hspells (List.forall_mem_nil _) rfl (by decide)
      (by decide)
  exact ⟨.ofTarget hmade, hverify, ⟨d, hd, hbits ▸ hle⟩, ⟨target, m, htarget, hm, hother _⟩,
    hspells, code, n, n', hcode, hn, hn', haccepts [] 1⟩

end Unchecked

end Attest.Miner
