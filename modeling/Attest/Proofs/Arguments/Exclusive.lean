import Attest.Command
import Mathlib.Data.List.Basic

/-!
# Switches that exclude each other

Of the switches that a program names as alternatives no two are given together.  All that is asked
of a token is that its switch is one of the program's (`Token.IsKnown`), and the invariant of
reading is `Matches.Fits`: each given switch is one of the program's, and of the alternatives only
one is.  So an address that is to be checked never comes with a key
(`key_of_parse_address`).
-/

namespace Attest.Arguments

/-! ## Results -/

section results

variable {α β ε ε' : Type}

theorem exists_of_bind_ok {x : Except ε α} {f : α → Except ε β} {b : β}
    (h : x >>= f = .ok b) : ∃ a, x = .ok a ∧ f a = .ok b := by
  cases x with
  | error e => cases h
  | ok a => exact ⟨a, rfl, h⟩

theorem mapError_eq_ok_iff {x : Except ε α} {f : ε → ε'} {a : α} :
    x.mapError f = .ok a ↔ x = .ok a := by
  cases x <;> simp [Except.mapError]

end results

/-! ## Tokens -/

/-- The switch that a token is read as, if any, is one of some switches. -/
def Token.IsKnown (switches : List Switch) (t : Token) : Prop :=
  ∀ text r, t = .switch text (some r) → r.switch ∈ switches

section tokens

variable {switches : List Switch} {s : Switch} {name : String}

theorem mem_of_mem_namesOf (h : (name, s) ∈ namesOf switches) : s ∈ switches := by
  obtain ⟨s', hs', hname⟩ := List.mem_flatMap.1 h
  obtain ⟨name', -, heq⟩ := List.mem_map.1 hname
  cases heq
  exact hs'

theorem mem_of_lookup_namesOf (h : (namesOf switches).lookup name = some s) : s ∈ switches := by
  obtain ⟨before, after, heq, -⟩ := List.lookup_eq_some_iff.1 h
  have hmem : (name, s) ∈ namesOf switches := by
    rw [heq]
    simp
  exact mem_of_mem_namesOf hmem

theorem switch_mem_of_mem_readings {cs : List Char} {r : Reading}
    (h : r ∈ readings switches cs) : r.switch ∈ switches := by
  unfold readings at h
  split at h
  · obtain ⟨⟨name, s⟩, hmem, hr⟩ := List.mem_filterMap.1 h
    dsimp only at hr
    split at hr
    · cases hr
      exact mem_of_mem_namesOf hmem
    · cases hr
  · obtain ⟨⟨name, s⟩, hmem, hr⟩ := List.mem_filterMap.1 h
    dsimp only at hr
    split at hr
    · cases hr
      exact mem_of_mem_namesOf hmem
    · split at hr
      · cases hr
        exact mem_of_mem_namesOf hmem
      · cases hr

theorem isKnown_operand (text : String) : (Token.operand text).IsKnown switches :=
  fun _ _ h => by cases h

theorem isKnown_switch {text : String} {r : Reading} (h : r.switch ∈ switches) :
    (Token.switch text (some r)).IsKnown switches :=
  fun _ _ heq => by cases heq; exact h

theorem isKnown_of_tokenOf {a : String} {t : Token} (h : tokenOf switches a = .ok t) :
    t.IsKnown switches := by
  unfold tokenOf at h
  dsimp only at h
  split at h
  · cases h
    exact isKnown_operand a
  · split at h
    · next s hlookup =>
      cases h
      exact isKnown_switch (mem_of_lookup_namesOf hlookup)
    · split at h
      · cases h
        exact isKnown_operand a
      · split at h
        · next s _ hlookup =>
          cases h
          exact isKnown_switch (mem_of_lookup_namesOf hlookup)
        · split at h
          · next reading hreadings =>
            cases h
            exact isKnown_switch
              (switch_mem_of_mem_readings (hreadings ▸ List.mem_singleton_self _))
          · split at h
            · cases h
              exact isKnown_operand a
            · cases h
              exact fun _ _ heq => by cases heq
          · cases h

theorem isKnown_of_tokensOf {args : List String} {ts : List Token}
    (h : tokensOf switches args = .ok ts) : ∀ t ∈ ts, t.IsKnown switches := by
  induction args generalizing ts with
  | nil =>
    cases h
    simp
  | cons a args ih =>
    rw [tokensOf] at h
    split at h
    · -- Behind a double dash all arguments are operands.
      cases h
      intro t ht
      rcases List.mem_cons.1 ht with rfl | ht
      · exact fun _ _ heq => by cases heq
      · obtain ⟨text, -, rfl⟩ := List.mem_map.1 ht
        exact isKnown_operand text
    · obtain ⟨t, ht, h⟩ := exists_of_bind_ok h
      obtain ⟨rest, hrest, h⟩ := exists_of_bind_ok h
      cases h
      exact List.forall_mem_cons.2 ⟨isKnown_of_tokenOf ht, ih hrest⟩

theorem takeMany_subset (ts : List Token) : (takeMany ts).2 ⊆ ts := by
  induction ts with
  | nil => exact List.Subset.refl []
  | cons t ts ih =>
    cases t with
    | operand s => exact List.subset_cons_of_subset _ ih
    | dashes => exact List.subset_cons_of_subset _ ih
    | switch text reading => exact List.Subset.refl _

theorem subset_of_takeOne? {ts rest : List Token} (h : takeOne? ts = some (name, rest)) :
    rest ⊆ ts := by
  unfold takeOne? at h
  split at h
  · cases h
    exact fun t ht => .tail _ (.tail _ ht)
  · cases h
    exact fun t ht => .tail _ (.tail _ ht)
  · cases h
    exact List.subset_cons_self _ _
  · cases h

theorem Arity.subset_of_take? {a : Arity} {ts rest : List Token} {taken : List String}
    (h : a.take? ts = some (taken, rest)) : rest ⊆ ts := by
  unfold Arity.take? at h
  split at h
  · have hrest : (takeMany ts).2 = rest := congrArg Prod.snd (Option.some.inj h)
    exact hrest ▸ takeMany_subset ts
  · next hone =>
    cases h
    exact subset_of_takeOne? hone
  · cases h
  · split at h
    · cases h
      exact List.subset_cons_self _ _
    · cases h
      exact List.Subset.refl ts

end tokens

/-! ## What is given -/

/-- Switches of a program are given, and of its alternatives not two. -/
structure Matches.Fits (switches : List Switch) (oneOf : List String) (m : Matches) : Prop where
  path : m.path = []
  known : ∀ g ∈ m.given, g.1 ∈ switches
  apart : ∀ g ∈ m.given, ∀ g' ∈ m.given, g.1.key ∈ oneOf → g'.1.key ∈ oneOf →
    g.1.key = g'.1.key

section given

variable {switches : List Switch} {oneOf : List String} {m m' : Matches} {s : Switch}
  {following : Option String} {held : Held}

theorem Matches.fits_empty : Matches.empty.Fits switches oneOf :=
  ⟨rfl, by simp [Matches.empty], by simp [Matches.empty]⟩

theorem Matches.Fits.congr (h : m.Fits switches oneOf) (hpath : m'.path = m.path)
    (hgiven : m'.given = m.given) : m'.Fits switches oneOf :=
  ⟨hpath.trans h.path, hgiven ▸ h.known, hgiven ▸ h.apart⟩

theorem apart_of_find? (h : (if oneOf.contains s.key then
      (m.given.map (·.1)).find? fun o => o.key ≠ s.key && oneOf.contains o.key
    else none) = none) :
    ∀ g ∈ m.given, s.key ∈ oneOf → g.1.key ∈ oneOf → g.1.key = s.key := by
  intro g hg hone hone'
  rw [if_pos (by simpa using hone), List.find?_eq_none] at h
  simpa [hone'] using h g.1 (List.mem_map_of_mem hg)

theorem exists_of_give {value : String} (h : give oneOf m s value = .ok m') :
    ∃ v, m' = { m with given := m.given ++ [(s, v)] } ∧
      ∀ g ∈ m.given, s.key ∈ oneOf → g.1.key ∈ oneOf → g.1.key = s.key := by
  unfold give at h
  split at h
  · cases h
  · cases h
  all_goals
    dsimp only at h
    split at h
    · cases h
    · split at h
      · cases h
      · next hapart =>
        cases h
        exact ⟨_, rfl, apart_of_find? hapart⟩

/-- What gives a switch keeps the invariant: an alternative is refused beside another. -/
theorem fits_of_give (h : m.Fits switches oneOf) (hs : s ∈ switches) {value : String}
    (hgive : give oneOf m s value = .ok m') : m'.Fits switches oneOf := by
  obtain ⟨v, rfl, hapart⟩ := exists_of_give hgive
  refine ⟨h.path, ?_, ?_⟩
  · intro g hg
    rcases List.mem_append.1 hg with hg | hg
    · exact h.known g hg
    · rw [List.mem_singleton.1 hg]
      exact hs
  · intro g hg g' hg' hone hone'
    rcases List.mem_append.1 hg with hg | hg <;> rcases List.mem_append.1 hg' with hg' | hg'
    · exact h.apart g hg g' hg' hone hone'
    · rw [List.mem_singleton.1 hg'] at hone' ⊢
      exact hapart g hg hone' hone
    · rw [List.mem_singleton.1 hg] at hone ⊢
      exact (hapart g' hg' hone hone').symm
    · rw [List.mem_singleton.1 hg, List.mem_singleton.1 hg']

theorem fits_of_giveAll {given : List (Switch × String)} (h : m.Fits switches oneOf)
    (hgiven : ∀ g ∈ given, g.1 ∈ switches) (hgive : giveAll oneOf m given = .ok m') :
    m'.Fits switches oneOf := by
  induction given generalizing m with
  | nil =>
    cases hgive
    exact h
  | cons g given ih =>
    obtain ⟨hg, hgiven⟩ := List.forall_mem_cons.1 hgiven
    obtain ⟨m₁, hfirst, hrest⟩ := exists_of_bind_ok hgive
    exact ih (fits_of_give h hg hfirst) hgiven hrest

theorem eq_of_settle {assigned : Option (List Char)}
    (h : settle following s assigned = .ok held) : ∀ g ∈ held.given, g.1 = s := by
  unfold settle at h
  split at h
  all_goals cases h
  all_goals simp

theorem mem_of_settleJoined {cs : List Char} (hs : s ∈ switches)
    (h : settleJoined switches following s cs = .ok held) : ∀ g ∈ held.given, g.1 ∈ switches := by
  induction cs generalizing s held with
  | nil => exact fun g hg => eq_of_settle h g hg ▸ hs
  | cons c rest ih =>
    rw [settleJoined] at h
    split at h
    · exact fun g hg => eq_of_settle h g hg ▸ hs
    · split at h
      · cases h
      · next next hlookup =>
        have hnext : next ∈ switches := mem_of_lookup_namesOf hlookup
        dsimp only at h
        split at h
        · obtain ⟨inner, hinner, h⟩ := exists_of_bind_ok h
          cases h
          exact List.forall_mem_cons.2 ⟨hs, fun g hg => eq_of_settle hinner g hg ▸ hnext⟩
        · obtain ⟨inner, hinner, h⟩ := exists_of_bind_ok h
          cases h
          exact List.forall_mem_cons.2 ⟨hs, ih hnext hinner⟩

theorem mem_of_reading {r : Reading} (hr : r.switch ∈ switches)
    (h : r.settle switches following = .ok held) : ∀ g ∈ held.given, g.1 ∈ switches := by
  unfold Reading.settle at h
  split at h
  · exact fun g hg => eq_of_settle h g hg ▸ hr
  · split at h
    · exact fun g hg => eq_of_settle h g hg ▸ hr
    · exact mem_of_settleJoined hr h
  · exact mem_of_settleJoined hr h

end given

/-! ## Reading -/

section reading

variable {switches : List Switch} {oneOf : List String} {m : Matches} {slot : Slot}
  {ts : List Token} {level : Level}

theorem fits_of_finish {next : Slot → Matches → List Token → Except Halt Level}
    (hnext : ∀ slot m ts level, (∀ t ∈ ts, t.IsKnown switches) → m.Fits switches oneOf →
      next slot m ts = .ok level → level.found.Fits switches oneOf)
    (hts : ∀ t ∈ ts, t.IsKnown switches) (hm : m.Fits switches oneOf)
    (h : finish next slot m ts = .ok level) : level.found.Fits switches oneOf := by
  unfold finish at h
  split at h
  · cases h
    exact hm
  · exact hnext _ _ _ _ hts hm h
  · refine hnext _ _ _ _ (List.forall_mem_cons.1 hts).2 ?_ h
    exact hm.congr rfl rfl

/-- The invariant holds wherever reading gets, whatever it has read. -/
theorem fits_of_walk {fuel : Nat} (hts : ∀ t ∈ ts, t.IsKnown switches)
    (hm : m.Fits switches oneOf) (h : walk switches oneOf fuel slot m ts = .ok level) :
    level.found.Fits switches oneOf := by
  induction fuel generalizing slot m ts level with
  | zero =>
    cases h
    exact hm.congr rfl rfl
  | succ fuel ih =>
    have hfinish : ∀ {slot m ts}, (∀ t ∈ ts, t.IsKnown switches) → m.Fits switches oneOf →
        finish (walk switches oneOf fuel) slot m ts = .ok level →
        level.found.Fits switches oneOf :=
      fun hts hm h => fits_of_finish (fun _ _ _ _ => ih) hts hm h
    unfold walk at h
    split at h
    · refine ih (List.forall_mem_cons.1 hts).2 ?_ h
      exact hm.congr rfl rfl
    · next text reading rest =>
      obtain ⟨hreading, hrest⟩ := List.forall_mem_cons.1 hts
      obtain ⟨held, hheld, h⟩ := exists_of_bind_ok h
      obtain ⟨m', hgive, h⟩ := exists_of_bind_ok h
      have hswitches := mem_of_reading (hreading text reading rfl) hheld
      have hm' := fits_of_giveAll hm hswitches hgive
      split at h
      · exact ih (fun t ht => hrest t (List.mem_of_mem_tail ht)) hm' h
      · exact ih hrest hm' h
    · dsimp only at h
      split at h
      · split at h
        · next htake =>
          refine hfinish (fun t ht => hts t (Arity.subset_of_take? htake ht)) ?_ h
          exact hm.congr rfl rfl
        · exact hfinish hts hm h
      · split at h
        · exact hfinish hts hm h
        · split at h
          · exact hfinish hts hm h
          · split at h
            · cases h
              exact hm
            · cases h
      · exact hfinish hts hm h

theorem fits_of_readLevel {args : List String}
    (h : readLevel switches oneOf slot args = .ok level) : level.found.Fits switches oneOf := by
  obtain ⟨ts, hts, h⟩ := exists_of_bind_ok h
  obtain ⟨level', hwalk, h⟩ := exists_of_bind_ok h
  have hknown := isKnown_of_tokensOf (mapError_eq_ok_iff.1 hts)
  split at h
  · cases h
  · cases h
    exact fits_of_walk hknown Matches.fits_empty hwalk

end reading

/-! ## Grammars -/

namespace Grammar

variable {program choice name : String} {switches : List Switch} {oneOf args : List String}
  {operand : Option Operand} {subcommands : List (String × Grammar)} {m : Matches}

theorem fits_of_read_leaf (h : (leaf program switches oneOf operand).read args = .ok m) :
    m.Fits switches oneOf := by
  unfold read at h
  obtain ⟨level, hlevel, h⟩ := exists_of_bind_ok h
  cases h
  exact fits_of_readLevel (mapError_eq_ok_iff.1 hlevel)

theorem exists_of_readIn (h : readIn subcommands name args = .ok m) :
    m = .empty ∨ ∃ g inner, (name, g) ∈ subcommands ∧ g.read args = .ok inner ∧
      m = { inner with path := name :: inner.path } := by
  induction subcommands with
  | nil =>
    rw [readIn] at h
    cases h
    exact .inl rfl
  | cons entry more ih =>
    obtain ⟨n, g⟩ := entry
    rw [readIn] at h
    split at h
    · next hname =>
      subst hname
      cases hread : g.read args with
      | error stop =>
        rw [hread] at h
        cases h
      | ok inner =>
        rw [hread] at h
        cases h
        exact .inr ⟨g, inner, by simp, hread, rfl⟩
    · rcases ih h with hempty | ⟨g', inner, hmem, hread, heq⟩
      · exact .inl hempty
      · exact .inr ⟨g', inner, List.mem_cons_of_mem _ hmem, hread, heq⟩

/-- What a program with subcommands understands is what it is given itself and what the subcommand
understands, if one is chosen. -/
theorem exists_of_read_branch (h : (branch program switches choice subcommands).read args = .ok m) :
    m.path = [] ∨ ∃ name g rest outer inner, (name, g) ∈ subcommands ∧ g.read rest = .ok inner ∧
      Matches.Fits switches [] outer ∧ m.path = name :: inner.path ∧
      m.given = outer.given ++ inner.given := by
  rw [read] at h
  obtain ⟨level, hlevel, h⟩ := exists_of_bind_ok h
  have hfits := fits_of_readLevel (mapError_eq_ok_iff.1 hlevel)
  split at h
  · cases h
    exact .inl hfits.path
  · next name rest _ =>
    obtain ⟨found, hfound, h⟩ := exists_of_bind_ok h
    cases h
    rcases exists_of_readIn hfound with rfl | ⟨g, inner, hmem, hread, rfl⟩
    · left
      simp [Matches.append, Matches.empty, hfits.path]
    · refine .inr ⟨name, g, rest, level.found, inner, hmem, hread, hfits, ?_, rfl⟩
      simp [Matches.append, hfits.path]

theorem read_of_parse {g : Grammar} (h : g.parse args = .ok m) : g.read args = .ok m := by
  obtain ⟨m', hread, h⟩ := exists_of_bind_ok h
  split at h
  · cases h
    exact hread
  · cases h

end Grammar

end Attest.Arguments

namespace Attest

open Arguments

namespace Command

variable {args : List String} {m : Matches}

/-- The key and the address to check are not given together. -/
theorem apart_of_parse (h : grammar.parse args = .ok m) (hpath : m.path = ["address"]) :
    (∀ g ∈ m.given, g.1.key ≠ "--pubkey") ∨ ∀ g ∈ m.given, g.1.key ≠ "--validate" := by
  have hread := Grammar.read_of_parse h
  rw [grammar] at hread
  rcases Grammar.exists_of_read_branch hread with
    hnone | ⟨name, g, rest, outer, inner, hmem, hinner, houter, hname, hgiven⟩
  · rw [hnone] at hpath
    cases hpath
  · rw [hname] at hpath
    obtain ⟨rfl, -⟩ := List.cons.inj hpath
    obtain rfl : g = addressGrammar := by simpa using hmem
    have hfits := Grammar.fits_of_read_leaf hinner
    have houtside : ∀ g ∈ outer.given, g.1.key ≠ "--pubkey" ∧ g.1.key ≠ "--validate" := by
      intro g hg
      have hknown := houter.known g hg
      revert hknown
      generalize g.1 = s
      revert s
      decide +kernel
    rw [hgiven]
    by_cases hkey : ∃ g ∈ inner.given, g.1.key = "--pubkey"
    · obtain ⟨g, hg, hkey⟩ := hkey
      right
      intro g' hg' hvalidate
      rcases List.mem_append.1 hg' with hg' | hg'
      · exact (houtside g' hg').2 hvalidate
      · have hsame := hfits.apart g hg g' hg' (by simp [hkey]) (by simp [hvalidate])
        rw [hkey, hvalidate] at hsame
        exact absurd hsame (by decide)
    · left
      intro g hg
      rcases List.mem_append.1 hg with hg | hg
      · exact (houtside g hg).1
      · exact fun h => hkey ⟨g, hg, h⟩

theorem value?_eq_none {key : String} (h : ∀ g ∈ m.given, g.1.key ≠ key) :
    m.value? key = none := by
  rw [Matches.value?, Option.map_eq_none_iff, List.find?_eq_none]
  exact fun g hg => by simpa using h g (List.mem_reverse.1 hg)

theorem of_ofMatches_eq_address {key : Value} {text kind : Option String} {json : Bool}
    (h : ofMatches m = some (.address key text kind json)) :
    m.path = ["address"] ∧ text = m.text? "--validate" ∧
      (m.value? "--pubkey" = none → key = .null) := by
  unfold ofMatches at h
  dsimp only at h
  split at h
  case h_10 hpath =>
    cases h
    exact ⟨hpath, rfl, fun hnone => by rw [hnone]⟩
  all_goals cases h

end Command

/-- **A key or an address.**  Where an address to check is told, there is no key to derive one
from. -/
theorem key_of_parse_address {args : List String} {i : Invocation} {key : Value} {s : String}
    {kind : Option String} {json : Bool} (h : Invocation.parse args = .ok (some i))
    (hcommand : i.command = .address key (some s) kind json) : key = .null := by
  obtain ⟨m, hparse, h⟩ := exists_of_bind_ok h
  obtain ⟨command, hmatches, rfl⟩ := Option.map_eq_some_iff.1 (Except.ok.inj h)
  obtain rfl : command = _ := hcommand
  obtain ⟨hpath, htext, hkey⟩ := Command.of_ofMatches_eq_address hmatches
  refine hkey ?_
  rcases Command.apart_of_parse hparse hpath with hnone | hnone
  · exact Command.value?_eq_none hnone
  · rw [Matches.text?, Command.value?_eq_none hnone] at htext
    cases htext

end Attest
