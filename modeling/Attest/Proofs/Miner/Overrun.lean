import Attest.Proofs.Miner.Target

/-!
# Searches that break off

Checking a nonce that does not fit into its bytes just fails, but a search that comes to one breaks
off.  It comes to one in two ways (`exists_asked_iff`): it starts below zero, or its limit is beyond
the last nonce that fits and none before passes the check.  Any other search ends with the first
solution, or with none.
-/

namespace Attest.Miner

variable {m : Miner} {header : Bytes} {start n : Int}

/-- The search from a start on has nonces to try and comes to one that does not fit: the start,
which is below zero, or one beyond those that fit, as there is no solution up to there. -/
def Overruns (m : Miner) (header : Bytes) (start : Int) : Prop :=
  start < m.maxNonce ∧
    (start < 0 ∨ nonceCount < m.maxNonce ∧
      ∀ n, start ≤ n → n < nonceCount → m.verify header n = false)

instance (n : Int) : Decidable (Fits n) :=
  inferInstanceAs (Decidable (_ ∧ _))

/-! ## The nonces that are asked for -/

theorem Asked.before (h : m.Asked header start n) :
    ∀ k, start ≤ k → k < n → Fits k ∧ m.verify header k = false := by
  induction h with
  | first => intro k hle hlt; omega
  | @later start n hfits hverify hn ih =>
    intro k hle hlt
    by_cases heq : k = start
    · exact heq ▸ ⟨hfits, hverify⟩
    · exact ih k (by omega) hlt

theorem asked_of_before (hle : start ≤ n) (hlimit : n < m.maxNonce)
    (h : ∀ k, start ≤ k → k < n → Fits k ∧ m.verify header k = false) :
    m.Asked header start n := by
  generalize hcount : (n - start).toNat = count
  induction count generalizing start with
  | zero =>
    obtain rfl : start = n := by omega
    exact .first hlimit
  | succ count ih =>
    obtain ⟨hfits, hverify⟩ := h start (by omega) (by omega)
    refine .later hfits hverify (ih (by omega) (fun k hk hlt => h k (by omega) hlt) (by omega))

theorem exists_asked_iff :
    (∃ n, m.Asked header start n ∧ ¬ Fits n) ↔ m.Overruns header start := by
  constructor
  · rintro ⟨n, hn, hnot⟩
    have hle := hn.start_le
    have hlt := hn.lt_limit
    refine ⟨by omega, ?_⟩
    by_cases hneg : start < 0
    · exact Or.inl hneg
    · have hbig : (nonceCount : Int) ≤ n := by
        rw [Fits] at hnot
        omega
      exact Or.inr ⟨by omega, fun k hk hlt => (hn.before k hk (by omega)).2⟩
  · rintro ⟨hlimit, hcase⟩
    by_cases hneg : start < 0
    · exact ⟨start, .first hlimit, fun hfits => by have := hfits.1; omega⟩
    · obtain ⟨hcount, hnone⟩ := hcase.resolve_left hneg
      -- The first that does not fit: the start itself, or the one after the last that fits.
      refine ⟨max start nonceCount, asked_of_before (by omega) (by omega) fun k hk hlt => ?_,
        fun hfits => by have := hfits.2; omega⟩
      have hfits : k < nonceCount := by omega
      exact ⟨⟨by omega, hfits⟩, hnone k hk hfits⟩

/-! ## Mining -/

theorem fits_of_verify (h : m.verify header n = true) : Fits n := by
  by_contra hnot
  rw [verify_of_not_fits hnot] at h
  cases h

theorem mine_cases (m : Miner) (header : Bytes) (start : Int) :
    (((m.mine header start = .ok none ∧
        ∀ n, start ≤ n → n < m.maxNonce → m.verify header n = false) ∨
      ∃ s, m.mine header start = .ok (some s) ∧ m.IsFirst header start s.nonce ∧
        hash header s.nonce = .ok s.hash) ∧ ∀ n, m.Asked header start n → Fits n) ∨
    (∃ message, m.mine header start = .error (.overflow message)) ∧
      ∃ n, m.Asked header start n ∧ ¬ Fits n := by
  have hrun := @search_run m header _ start rfl
  rw [mine]
  generalize m.search header (m.maxNonce - start).toNat start = result at hrun
  cases hrun with
  | none hnone hasked => exact Or.inl ⟨Or.inl ⟨rfl, hnone⟩, hasked⟩
  | @found n hfirst hasked =>
    have hfits : n < nonceCount := by
      have hlt := (fits_of_verify hfirst.verify_eq).2
      omega
    exact Or.inl ⟨Or.inr ⟨_, rfl, hfirst, hash_of_lt hfits⟩, hasked⟩
  | broken hn hnot => exact Or.inr ⟨⟨_, rfl⟩, _, hn, hnot⟩

/-- **Mining ends unless it overruns.**  A search comes to a result exactly if every nonce that it
asks for the hash of fits into its bytes.  It asks for one that does not exactly if it has nonces to
try and starts below zero, or if its limit is beyond the nonces that fit and none of them from the
start on passes the check; then it breaks off with an overflow.  Otherwise it comes to the first
nonce below the limit that passes the check, or to none if none does.  A nonce that does not fit
never passes the check. -/
theorem mine_ok_unless_overruns (m : Miner) (header : Bytes) (start : Int) :
    ((∃ found, m.mine header start = .ok found) ↔ ∀ n, m.Asked header start n → Fits n) ∧
    ((∀ n, m.Asked header start n → Fits n) ↔ ¬ m.Overruns header start) ∧
    (m.Overruns header start → ∃ message, m.mine header start = .error (.overflow message)) ∧
    (¬ m.Overruns header start →
      (m.mine header start = .ok none ∧
        ∀ n, start ≤ n → n < m.maxNonce → m.verify header n = false) ∨
      ∃ s, m.mine header start = .ok (some s) ∧ m.IsFirst header start s.nonce ∧
        hash header s.nonce = .ok s.hash) ∧
    ∀ n, ¬ Fits n → m.verify header n = false := by
  have hall : (∀ n, m.Asked header start n → Fits n) ↔ ¬ m.Overruns header start := by
    rw [← exists_asked_iff]
    push Not
    rfl
  rcases mine_cases m header start with ⟨hmine, hasked⟩ | ⟨⟨message, hmine⟩, hnot⟩
  · have hok : ∃ found, m.mine header start = .ok found := by
      rcases hmine with ⟨hmine, -⟩ | ⟨s, hmine, -⟩
      · exact ⟨_, hmine⟩
      · exact ⟨_, hmine⟩
    exact ⟨iff_of_true hok hasked, hall, fun h => absurd h (hall.1 hasked), fun _ => hmine,
      fun n => verify_of_not_fits⟩
  · have hover := exists_asked_iff.1 hnot
    have hfail : ¬ ∃ found, m.mine header start = .ok found := by
      rintro ⟨found, hfound⟩
      rw [hmine] at hfound
      cases hfound
    exact ⟨iff_of_false hfail fun hasked => hall.1 hasked hover, hall, fun _ => ⟨message, hmine⟩,
      fun h => absurd hover h, fun n => verify_of_not_fits⟩

/-- A miner that is made for the difficulty of 256 bits and a limit of one breaks off when it starts
at minus one, and with a limit beyond the nonces that fit it breaks off when it starts there.  These
nonces are below the limit and no solutions. -/
theorem mine_minusOne :
    (∃ m, ofBits 256 1 = .ok m ∧ m.mine [] (-1) = .error
        (.overflow "can't convert negative int to unsigned") ∧
      m.Asked [] (-1) (-1) ∧ ¬ Fits (-1) ∧ m.verify [] (-1) = false) ∧
    ∃ m, ofBits 256 (nonceCount + 1) = .ok m ∧ m.mine [] nonceCount = .error
        (.overflow "int too big to convert") ∧
      m.Asked [] nonceCount nonceCount ∧ ¬ Fits nonceCount ∧ m.verify [] nonceCount = false := by
  have hbelow : ¬ Fits (-1) := by decide
  have hbeyond : ¬ Fits nonceCount := by decide
  refine ⟨⟨_, rfl, rfl, .first (by decide), hbelow, verify_of_not_fits hbelow⟩,
    ⟨_, rfl, rfl, .first (by decide), hbeyond, verify_of_not_fits hbeyond⟩⟩

/-- From zero on the search of a miner with three nonces asks only for nonces that fit and finds a
solution, which is the nonce one after the empty header; from minus one on it breaks off. -/
theorem mine_ok_unless_overruns_threeNonces :
    ¬ threeNonces.Overruns [] 0 ∧ (∀ n, threeNonces.Asked [] 0 n → Fits n) ∧
      (∃ s, threeNonces.mine [] 0 = .ok (some s)) ∧ threeNonces.Overruns [] (-1) ∧
      (∃ message, threeNonces.mine [] (-1) = .error (.overflow message)) ∧ ¬ Fits nonceCount ∧
      threeNonces.verify [] nonceCount = false := by
  have hone : threeNonces.verify [] 1 = true := by decide +kernel
  have hlimit : ¬ nonceCount < threeNonces.maxNonce := by decide
  have hends : ¬ threeNonces.Overruns [] 0 := by
    rintro ⟨-, hneg | ⟨hbig, -⟩⟩
    · exact absurd hneg (by decide)
    · exact hlimit hbig
  have hbelow : threeNonces.Overruns [] (-1) := ⟨by decide, Or.inl (by decide)⟩
  have hbeyond : ¬ Fits nonceCount := by decide
  obtain ⟨-, hasked, -, hmine, hunfit⟩ := mine_ok_unless_overruns threeNonces [] 0
  obtain ⟨-, -, hover, -, -⟩ := mine_ok_unless_overruns threeNonces [] (-1)
  refine ⟨hends, hasked.2 hends, ?_, hbelow, hover hbelow, hbeyond, hunfit _ hbeyond⟩
  rcases hmine hends with ⟨-, hnone⟩ | ⟨s, hs, -⟩
  · rw [hnone 1 (by decide) (by decide)] at hone
    cases hone
  · exact ⟨s, hs⟩

end Attest.Miner
