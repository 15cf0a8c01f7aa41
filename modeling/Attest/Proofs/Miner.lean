import Attest.Miner
import Mathlib.Algebra.Ring.Nat
import Mathlib.Tactic.Common

/-!
# Mining

A search goes through the nonces below a limit one by one, while checking a nonce asks for
the hash of that nonce only.  The two meet in `search_succ`: as long as nonces fit into their
bytes, a step of the search ends it just when the nonce passes the check.  At a nonce that does
not fit the search breaks off.  The run (`search_run`) is then an induction on the nonces that
are left.
-/

namespace Attest.Miner

variable {m : Miner} {header : Bytes}

/-! ## One nonce -/

theorem nonceCount_eq : nonceCount = 2 ^ 64 := rfl

theorem hash_of_lt {n : Nat} (h : n < nonceCount) : hash header n = .ok (hashAt header n) := by
  have hneg : ¬ (n : Int) < 0 := by omega
  have hbig : ¬ (nonceCount : Int) ≤ n := by omega
  rw [hash, if_neg hneg, if_neg hbig, Int.toNat_natCast]

/-- The nonce fits into its bytes. -/
def Fits (n : Int) : Prop :=
  0 ≤ n ∧ n < nonceCount

theorem exists_hash_of_not_fits {n : Int} (h : ¬ Fits n) :
    ∃ message, hash header n = .error (.overflow message) := by
  by_cases hneg : n < 0
  · exact ⟨_, if_pos hneg⟩
  · have hbig : (nonceCount : Int) ≤ n := by
      rw [Fits] at h
      omega
    exact ⟨_, (if_neg hneg).trans (if_pos hbig)⟩

theorem verify_of_not_fits {n : Int} (h : ¬ Fits n) : m.verify header n = false := by
  obtain ⟨message, hhash⟩ := @exists_hash_of_not_fits header n h
  rw [verify, hhash]

theorem search_succ {n : Nat} (h : n < nonceCount) (count : Nat) :
    m.search header (count + 1) n =
      if m.verify header n then .ok (some (n, hashAt header n))
      else m.search header count (n + 1) := by
  rw [search, verify, hash_of_lt h, Int.toNat_natCast]

theorem exists_search_of_not_fits {n : Int} (h : ¬ Fits n) (count : Nat) :
    ∃ message, m.search header (count + 1) n = .error (.overflow message) := by
  obtain ⟨message, hhash⟩ := @exists_hash_of_not_fits header n h
  exact ⟨message, by rw [search, hhash]⟩

/-! ## The nonces below the limit -/

/-- `n` is the first nonce from `start` on and below the limit that passes the check. -/
structure IsFirst (m : Miner) (header : Bytes) (start n : Int) : Prop where
  start_le : start ≤ n
  lt_limit : n < m.maxNonce
  verify_eq : m.verify header n = true
  verify_before : ∀ k, start ≤ k → k < n → m.verify header k = false

/-- A nonce that fails the check is not the first, whichever comes after it. -/
theorem IsFirst.of_succ {start n : Int} (hstart : m.verify header start = false)
    (h : m.IsFirst header (start + 1) n) : m.IsFirst header start n := by
  refine ⟨by have := h.start_le; omega, h.lt_limit, h.verify_eq, fun k hk hlt => ?_⟩
  by_cases heq : k = start
  · rw [heq, hstart]
  · exact h.verify_before k (by omega) hlt

/-- The search from a start on comes to `n`, for the hash of which it then asks: nonces before it
fit and do not pass the check. -/
inductive Asked (m : Miner) (header : Bytes) : (start n : Int) → Prop where
  | first {start : Int} (hlimit : start < m.maxNonce) : Asked m header start start
  | later {start n : Int} (hfits : Fits start) (hverify : m.verify header start = false)
      (hn : Asked m header (start + 1) n) : Asked m header start n

theorem Asked.lt_limit {start n : Int} (h : m.Asked header start n) : n < m.maxNonce := by
  induction h with
  | first hlimit => exact hlimit
  | later _ _ _ ih => exact ih

theorem Asked.start_le {start n : Int} (h : m.Asked header start n) : start ≤ n := by
  induction h with
  | first => exact Int.le_refl _
  | later _ _ _ ih => omega

theorem Asked.fits_of_succ {start : Int} (hfits : Fits start)
    (h : ∀ n, m.Asked header (start + 1) n → Fits n) : ∀ n, m.Asked header start n → Fits n := by
  intro n hn
  cases hn with
  | first => exact hfits
  | later _ _ hn => exact h n hn

/-! ## Searches -/

/-- What a search from a start on comes to: there is no solution, or the first is found, and all
nonces that were asked for fit; or the search breaks off at a nonce that does not. -/
inductive Ends (m : Miner) (header : Bytes) (start : Int) :
    Except Failure (Option (Nat × Digest)) → Prop where
  | none (hnone : ∀ n, start ≤ n → n < m.maxNonce → m.verify header n = false)
      (hasked : ∀ n, m.Asked header start n → Fits n) : Ends m header start (.ok none)
  | found {n : Nat} (hfirst : m.IsFirst header start n)
      (hasked : ∀ n, m.Asked header start n → Fits n) :
      Ends m header start (.ok (some (n, hashAt header n)))
  | broken {message : String} {n : Int} (hn : m.Asked header start n) (hnot : ¬ Fits n) :
      Ends m header start (.error (.overflow message))

/-- A nonce that fits and fails the check does not change what the search comes to. -/
theorem Ends.of_succ {start : Int} {result : Except Failure (Option (Nat × Digest))}
    (hfits : Fits start) (hverify : m.verify header start = false)
    (h : m.Ends header (start + 1) result) : m.Ends header start result := by
  cases h with
  | none hnone hasked =>
    refine .none (fun n hle hlt => ?_) (Asked.fits_of_succ hfits hasked)
    by_cases heq : n = start
    · rw [heq, hverify]
    · exact hnone n (by omega) hlt
  | found hfirst hasked => exact .found (hfirst.of_succ hverify) (Asked.fits_of_succ hfits hasked)
  | broken hn hnot => exact .broken (.later hfits hverify hn) hnot

theorem search_run (header : Bytes) {count : Nat} {start : Int}
    (hcount : (m.maxNonce - start).toNat = count) :
    m.Ends header start (m.search header count start) := by
  -- The nonces that are left become fewer, until there is none, or one passes or does not fit.
  induction count generalizing start with
  | zero =>
    refine .none (fun n hle hlt => by omega) (fun n hn => ?_)
    have hle := hn.start_le
    have hlt := hn.lt_limit
    omega
  | succ count ih =>
    by_cases hfits : Fits start
    · obtain ⟨first, rfl⟩ := Int.eq_ofNat_of_zero_le hfits.1
      have hfirst : first < nonceCount := by
        have hlt := hfits.2
        omega
      rw [search_succ hfirst]
      cases hverify : m.verify header first with
      | true =>
        rw [if_pos rfl]
        refine .found ⟨Int.le_refl _, by omega, hverify, fun k hle hlt => by omega⟩ fun n hn => ?_
        cases hn with
        | first => exact hfits
        | later _ hfails => rw [hverify] at hfails; cases hfails
      | false =>
        rw [if_neg Bool.false_ne_true]
        have hnext : ((m.maxNonce : Int) - (first + 1)).toNat = count := by omega
        exact (ih hnext).of_succ hfits hverify
    · obtain ⟨message, hsearch⟩ := @exists_search_of_not_fits m header start hfits count
      rw [hsearch]
      exact .broken (.first (by omega)) hfits

theorem search_cases (header : Bytes) (hlimit : m.maxNonce ≤ nonceCount) (start : Nat) :
    (m.search header (m.maxNonce - start) start = .ok none ∧
      ∀ n : Int, start ≤ n → n < m.maxNonce → m.verify header n = false) ∨
    ∃ n : Nat, m.search header (m.maxNonce - start) start = .ok (some (n, hashAt header n)) ∧
      m.IsFirst header start n := by
  have hcount : ((m.maxNonce : Int) - start).toNat = m.maxNonce - start := by omega
  have hrun := search_run header hcount
  generalize m.search header (m.maxNonce - start) start = result at hrun
  cases hrun with
  | none hnone => exact Or.inl ⟨rfl, hnone⟩
  | found hfirst => exact Or.inr ⟨_, rfl, hfirst⟩
  | broken hn hnot =>
    have hle := hn.start_le
    have hlt := hn.lt_limit
    exact absurd ⟨by omega, by omega⟩ hnot

/-- **Mining finds the first nonce that is a solution.**  With a limit up to which all nonces
fit, mining comes to no solution just when no nonce from the start on and below the limit
passes the check.  Otherwise it comes to the first that does, with the hash of that nonce and
the number of nonces tried. -/
theorem mine_first_or_none (m : Miner) (header : Bytes) {start : Int} (hstart : 0 ≤ start)
    (hlimit : m.maxNonce ≤ 2 ^ 64) :
    (m.mine header start = .ok none ↔
      ∀ n : Int, start ≤ n → n < m.maxNonce → m.verify header n = false) ∧
    (m.mine header start ≠ .ok none →
      ∃ s, m.mine header start = .ok (some s) ∧ m.IsFirst header start s.nonce ∧
        hash header s.nonce = .ok s.hash ∧ (s.attempts : Int) = s.nonce - start + 1) := by
  obtain ⟨first, rfl⟩ := Int.eq_ofNat_of_zero_le hstart
  rw [← nonceCount_eq] at hlimit
  have hcount : ((m.maxNonce : Int) - first).toNat = m.maxNonce - first := by omega
  rcases search_cases header hlimit first with ⟨hsearch, hnone⟩ | ⟨n, hsearch, hfirst⟩
  · have hmine : m.mine header first = .ok none := by
      rw [mine, hcount, hsearch]
      rfl
    exact ⟨iff_of_true hmine hnone, fun hne => absurd hmine hne⟩
  · have hmine : m.mine header first = .ok (some
        { nonce := n, hash := hashAt header n, attempts := ((n : Int) - first + 1).toNat }) := by
      rw [mine, hcount, hsearch]
      rfl
    have hle := hfirst.start_le
    have hlt := hfirst.lt_limit
    have hfits : n < nonceCount := by omega
    constructor
    · refine iff_of_false (by rw [hmine]; simp) fun hall => ?_
      have hfalse := hall n hle hlt
      rw [hfirst.verify_eq] at hfalse
      cases hfalse
    · intro _
      refine ⟨_, hmine, hfirst, hash_of_lt hfits, ?_⟩
      show ((((n : Int) - first + 1).toNat : Nat) : Int) = n - first + 1
      omega

/-- A miner whose target has three leading zero bits, with three nonces to try. -/
def threeNonces : Miner where
  difficultyBits := 3
  maxNonce := 3
  target := .ofNat (Nat.pow 2 252)

/-- After the empty header the nonce zero fails the check and the nonce one passes it. -/
theorem mine_first_or_none_threeNonces :
    (0 : Int) ≤ 0 ∧ threeNonces.maxNonce ≤ 2 ^ 64 ∧
      ∃ s, threeNonces.mine [] 0 = .ok (some s) ∧ s.nonce = 1 ∧ s.attempts = 2 ∧
        hash [] 1 = .ok s.hash := by
  have hzero : threeNonces.verify [] 0 = false := by decide +kernel
  have hone : threeNonces.verify [] 1 = true := by decide +kernel
  have hlimit : threeNonces.maxNonce ≤ 2 ^ 64 := by decide
  obtain ⟨hnone, hsome⟩ := mine_first_or_none threeNonces [] (Int.le_refl 0) hlimit
  have hne : threeNonces.mine [] 0 ≠ .ok none := by
    intro hmine
    have hfalse := hnone.1 hmine 1 (by decide) (by decide)
    rw [hone] at hfalse
    cases hfalse
  obtain ⟨s, hmine, hfirst, hhash, hattempts⟩ := hsome hne
  -- The first nonce is not zero, and it does not come after one.
  have hnonce : s.nonce = 1 := by
    have hnotzero : s.nonce ≠ 0 := by
      intro heq
      have hverify := hfirst.verify_eq
      rw [heq, Int.natCast_zero, hzero] at hverify
      cases hverify
    by_contra hne
    have hfalse := hfirst.verify_before 1 (by decide) (by omega)
    rw [hone] at hfalse
    cases hfalse
  rw [hnonce] at hhash hattempts
  exact ⟨Int.le_refl 0, hlimit, s, hmine, hnonce, by omega, hhash⟩

end Attest.Miner
