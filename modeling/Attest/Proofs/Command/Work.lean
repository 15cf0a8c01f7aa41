import Attest.Command.Execution
import Attest.Proofs.World

/-!
# Commands in a world

What a command comes to depends on its log, on the lines logged so far and on the world, and `exec`
gives all three.  A note may fail to reach its file and is then lost without a failure, so all that
matters of it here is which places it leaves alone (`Avoids`).
-/

namespace Attest

open Journal

namespace Command

section exec

variable {α β : Type}

/-- Carries out a command in a world, behind the lines that its log has already. -/
def exec (x : Work (StateM World) α) (log : Log) (lines : String) (w : World) :
    (Except Failure α × String) × World :=
  ((x.run log).run.run lines).run w

variable {x : Work (StateM World) α} {f : α → Work (StateM World) β} {a : α} {e : Failure}
  {log : Log} {lines after : String} {w u : World}

theorem exec_pure (a : α) : exec (pure a) log lines w = ((.ok a, lines), w) := rfl

theorem exec_bind_of_ok (h : exec x log lines w = ((.ok a, after), u)) :
    exec (x >>= f) log lines w = exec (f a) log after u := by
  unfold exec at h ⊢
  rw [ReaderT.run_bind, ExceptT.run_bind, StateT.run_bind, StateT.run_bind, h]
  rfl

theorem exec_bind_of_error (h : exec x log lines w = ((.error e, after), u)) :
    exec (x >>= f) log lines w = ((.error e, after), u) := by
  unfold exec at h ⊢
  rw [ReaderT.run_bind, ExceptT.run_bind, StateT.run_bind, StateT.run_bind, h]
  rfl

theorem exec_bind_congr {y : Work (StateM World) α} (h : exec x log lines w = exec y log lines w) :
    exec (x >>= f) log lines w = exec (y >>= f) log lines w := by
  rcases hx : exec x log lines w with ⟨⟨a | e, after⟩, u⟩
  · rw [exec_bind_of_error hx, exec_bind_of_error (h.symm.trans hx)]
  · rw [exec_bind_of_ok hx, exec_bind_of_ok (h.symm.trans hx)]

theorem exec_throw (e : Failure) :
    exec (throw e : Work (StateM World) α) log lines w = ((.error e, lines), w) := rfl

theorem exec_lift (y : Except Failure α) :
    exec (liftM y : Work (StateM World) α) log lines w = ((y, lines), w) := by
  cases y <;> rfl

theorem exec_onHost {y : ExceptT Failure (StateM World) α} {r : Except Failure α}
    (h : Runs y w r u) : exec (onHost y) log lines w = ((r, lines), u) := by
  show (((y.run.run w).1, lines), (y.run.run w).2) = _
  rw [h]

theorem exec_note (n : Note) : exec (note n) log lines w =
    ((.ok (), lines ++ ((log.write n : StateM World String).run w).1),
      ((log.write n : StateM World String).run w).2) := rfl

end exec

/-! ## Notes -/

/-- The file of a log, if it has one, is not at a place. -/
def Avoids (log : Log) (w : World) (place : Place) : Prop :=
  ∀ path, log.file = some path → w.locate path ≠ .ok place

theorem Avoids.keep {log : Log} {w u : World} {place : Place} (h : Avoids log w place)
    (hfolders : World.SameFolders w u) : Avoids log u place :=
  fun path hpath hplace => h path hpath (hfolders.locate_eq_ok_iff.1 hplace)

theorem keeps_appendText {path content : String} {w : World} {place : Place}
    (h : w.locate path ≠ .ok place) :
    World.Keeps place w
      ((Host.appendText path content : ExceptT Failure (StateM World) Unit).run.run w).2 := by
  unfold Host.appendText Host.atPath
  split
  · exact World.keeps_update h
  · exact .refl place w

theorem run_write_of_file {log : Log} {path : String} (hfile : log.file = some path) {n : Note}
    (hpasses : ¬ n.level.weight < log.threshold) (w : World) :
    ((log.write n : StateM World String).run w).2 =
      if Text.hasHalf (n.line w.time) then w
      else ((Host.appendText path (n.line w.time) :
        ExceptT Failure (StateM World) Unit).run.run w).2 := by
  have hclock : (Host.clock : StateM World Nat).run w = (w.time, w) := rfl
  unfold Log.write
  rw [if_neg hpasses, hfile, StateT.run_bind, hclock]
  show ((if !Text.hasHalf (n.line w.time) then _ else _ : StateM World String).run w).2 = _
  cases Text.hasHalf (n.line w.time) with
  | true => rfl
  | false =>
    rw [Bool.not_false, if_pos rfl, if_neg Bool.false_ne_true]
    rfl

theorem keeps_write {log : Log} {w : World} {place : Place} (h : Avoids log w place) (n : Note) :
    World.Keeps place w ((log.write n : StateM World String).run w).2 := by
  by_cases hpasses : n.level.weight < log.threshold
  · unfold Log.write
    rw [if_pos hpasses]
    exact .refl place w
  · cases hfile : log.file with
    | none =>
      unfold Log.write
      rw [if_neg hpasses, hfile]
      exact .refl place w
    | some path =>
      rw [run_write_of_file hfile hpasses]
      split
      · exact .refl place w
      · exact keeps_appendText (h path hfile)

theorem exists_exec_note (log : Log) (lines : String) (w : World) (n : Note) :
    ∃ after u, exec (note n) log lines w = ((.ok (), after), u) ∧
      ∀ place, Avoids log w place → World.Keeps place w u :=
  ⟨_, _, exec_note n, fun _ h => keeps_write h n⟩

end Command

end Attest
