/-
**Who holds `service_table_mutex`.**

`guarded thread`: the thread is between a `lock()` and the `unlock()` that belongs to it: the
`push_back` of `bind`, the loops of `send_heartbeat` and `check_node_failure`, the second status
check of `run_streamer`. Every statement keeps the lock discipline except one (`next_disciplined`):
the `unlock()` at the end of the worker's loop body, reached through the activation branch, whose
lock was already given back (`trailingUnlock`).

* `unlocks_owned_iff`: in every run, every `unlock()` is executed by the holder exactly when no
  worker executes that trailing unlock; and then no two threads are in guarded regions.
* `trailingUnlock_breaks_exclusion`: a run in which it frees the lock of another thread, and two
  calls are in the loop of `check_node_failure` at once.
-/

import GstPipeline.Binder.Threads
import Mathlib.Data.Fin.VecNotation

namespace GstPipeline.Binder

open GstPipeline.Lib

/-- The thread is inside a region that the mutex guards. -/
def guarded : Thread → Bool
  | .runStreamer (.recheckStatus _) => true
  | .runStreamer (.unlockEarly _) => true
  | .runStreamer (.unlock _ activated) => !activated
  | .bind _ (.push _ _) => true
  | .bind _ (.unlock _) => true
  | .sendHeartbeat _ .lock => false
  | .sendHeartbeat _ .returned => false
  | .sendHeartbeat _ _ => true
  | .checkNodeFailure .lock => false
  | .checkNodeFailure (.returned _) => false
  | .checkNodeFailure _ => true
  | _ => false

/-- The worker gave the lock back to start a stream, and has not reached its loop again. -/
def activating : Thread → Bool
  | .runStreamer (.setStatus _) => true
  | .runStreamer (.takeInfo _) => true
  | .runStreamer (.callCreate _ _) => true
  | .runStreamer (.create _ _ _) => true
  | .runStreamer (.unlock _ activated) => activated
  | _ => false

/-- The worker is at the `unlock()` at the end of the loop body, after an activation. -/
def trailingUnlock : Thread → Bool
  | .runStreamer (.unlock _ activated) => activated
  | _ => false

section Discipline

variable {T : Type}

theorem apply_lockUse {thread : T} {operation : Operation} {shared after : Shared T}
    (applied : shared.apply thread operation = some after) :
    operation.lockUse.apply thread shared.serviceTableMutex = some after.serviceTableMutex := by
  cases operation with
  | lock =>
    obtain ⟨free, rfl⟩ := apply_lock applied
    simp [Operation.lockUse, LockUse.apply, free]
  | _ =>
    cases applied
    rfl

/-- **Every statement but the trailing unlock keeps the lock discipline.** -/
theorem next_disciplined {binder : ServerBinder} {mine mine' : Thread} {operation : Operation}
    (move : Move binder mine operation mine')
    (inside : trailingUnlock mine = false) :
    operation.lockUse.Disciplined (guarded mine) (guarded mine') := by
  cases move with
  | @workerUnlock i activated =>
    cases activated with
    | false => simp [Operation.lockUse, LockUse.Disciplined, guarded]
    | true => cases inside
  | _ => simp [Operation.lockUse, LockUse.Disciplined, guarded]

/-- An append is made inside the guarded region of a `bind`. -/
theorem guarded_of_push {binder : ServerBinder} {mine mine' : Thread} {newService : ServiceInfo}
    (move : Move binder mine (.pushBack newService) mine') : guarded mine = true := by
  cases move
  rfl

/-- A worker is activating only after an `unlock()` of its own, and takes no lock while it is. -/
theorem next_activating {binder : ServerBinder} {mine mine' : Thread} {operation : Operation}
    (move : Move binder mine operation mine') (active : activating mine') :
    operation = .unlock ∨ (operation.lockUse = .none ∧ activating mine) := by
  cases move <;> simp_all [Operation.lockUse, activating]

end Discipline

/-! ### Runs -/

section Runs

variable {T : Type}

/-- The thread's next step is not the `unlock()` at the end of the loop body after an activation. -/
def NoTrailingUnlock (config : ServerConfig T) (thread : T) : Prop :=
  trailingUnlock (config.threads thread) = false

instance (config : ServerConfig T) (thread : T) : Decidable (NoTrailingUnlock config thread) :=
  inferInstanceAs (Decidable (_ = _))

/-- If the thread's next step is an `unlock()`, it holds the mutex. -/
def UnlockOwned (config : ServerConfig T) (thread : T) : Prop :=
  ∀ mine', nextStatement config.shared.toServerBinder (config.threads thread) =
    some (.unlock, mine') → config.shared.serviceTableMutex = some thread

/-- No two threads are in guarded regions. -/
def ExclusiveRegions (config : ServerConfig T) : Prop :=
  ∀ first second, guarded (config.threads first) → guarded (config.threads second) →
    first = second

/-- The thread in a guarded region is the holder of the mutex. -/
def HolderInside (config : ServerConfig T) : Prop :=
  ∀ thread, guarded (config.threads thread) ↔ config.shared.serviceTableMutex = some thread

/-- No activating worker holds the mutex. -/
def ActivatingOutside (config : ServerConfig T) : Prop :=
  ∀ thread, activating (config.threads thread) → config.shared.serviceTableMutex ≠ some thread

theorem holderInside_start (binder : ServerBinder) (task : T → Task) :
    HolderInside (ServerConfig.start binder task) := by
  intro thread
  show guarded (task thread).start ↔ none = some thread
  cases task thread <;> simp [Task.start, guarded]

theorem activatingOutside_start (binder : ServerBinder) (task : T → Task) :
    ActivatingOutside (ServerConfig.start binder task) := by
  intro thread _ held
  cases held

/-- A disciplined `unlock()` is the holder's. -/
theorem unlockOwned_of_inside {config : ServerConfig T} {thread : T} (inside : HolderInside config)
    (clear : NoTrailingUnlock config thread) : UnlockOwned config thread := by
  intro mine' chosen
  have disciplined := next_disciplined (move_of_next chosen) clear
  exact (inside thread).mp disciplined.1

/-- The trailing unlock is not the holder's. -/
theorem noTrailingUnlock_of_owned {config : ServerConfig T} {thread : T}
    (outside : ActivatingOutside config) (owned : UnlockOwned config thread) :
    NoTrailingUnlock config thread := by
  by_contra trailing
  cases place : config.threads thread with
  | runStreamer pc =>
    cases pc with
    | unlock i activated =>
      have active : activated = true := by
        simpa [NoTrailingUnlock, place, trailingUnlock] using trailing
      refine outside thread (by rw [place]; exact active)
        (owned (.runStreamer (.loopTest (i + 1))) ?_)
      rw [place]
      rfl
    | _ => simp [NoTrailingUnlock, place, trailingUnlock] at trailing
  | _ => simp [NoTrailingUnlock, place, trailingUnlock] at trailing

variable [DecidableEq T]

theorem holderInside_step {config after : ServerConfig T} {thread : T}
    (inside : HolderInside config) (clear : NoTrailingUnlock config thread)
    (stepped : serverStep config thread = some after) : HolderInside after :=
  holder_step Shared.serviceTableMutex Operation.lockUse (guarded · = true)
    (fun _ _ _ _ applied => apply_lockUse applied) inside stepped
    fun _ _ chosen => next_disciplined (move_of_next chosen) clear

theorem activatingOutside_step {config after : ServerConfig T} {thread : T}
    (outside : ActivatingOutside config) (stepped : serverStep config thread = some after) :
    ActivatingOutside after := by
  obtain ⟨operation, mine', move, applied, mine, others⟩ := serverStep_cases stepped
  have used := apply_lockUse applied
  intro u active
  by_cases same : u = thread
  · rw [same, mine] at active
    rw [same]
    rcases next_activating move active with rfl | ⟨free, before⟩
    · rw [← Option.some.inj used]
      simp
    · rw [free] at used
      rw [← Option.some.inj used]
      exact outside thread before
  · rw [others u same] at active
    have before := outside u active
    cases kind : operation.lockUse with
    | lock =>
      rw [kind] at used
      cases held : config.shared.serviceTableMutex with
      | none =>
        rw [held] at used
        rw [← Option.some.inj used]
        simp [Ne.symm same]
      | some other =>
        rw [held] at used
        cases used
    | unlock =>
      rw [kind] at used
      rw [← Option.some.inj used]
      simp
    | none =>
      rw [kind] at used
      rw [← Option.some.inj used]
      exact before

variable {binder : ServerBinder} {task : T → Task} {schedule : List T} {final : ServerConfig T}

theorem holderInside_run
    (reached : runSteps serverStep (ServerConfig.start binder task) schedule = some final)
    (clear : Along serverStep NoTrailingUnlock (ServerConfig.start binder task) schedule) :
    HolderInside final :=
  run_invariant_along (fun _ _ _ inside clear stepped => holderInside_step inside clear stepped)
    reached clear (holderInside_start binder task)

/-- **Ownership of `unlock()`.** In every run of any threads, every `unlock()` is executed by the
thread that holds the mutex exactly when no worker executes the trailing `unlock()` of an
activation; and in every state such a run reaches, no two threads are in guarded regions. -/
theorem unlocks_owned_iff
    (reached : runSteps serverStep (ServerConfig.start binder task) schedule = some final) :
    (Along serverStep UnlockOwned (ServerConfig.start binder task) schedule ↔
      Along serverStep NoTrailingUnlock (ServerConfig.start binder task) schedule) ∧
    (Along serverStep NoTrailingUnlock (ServerConfig.start binder task) schedule →
      ExclusiveRegions final) := by
  refine ⟨⟨fun owned => ?_, fun clear => ?_⟩, fun clear => ?_⟩
  · exact along_of_invariant
      (fun _ _ _ outside _ stepped => activatingOutside_step outside stepped)
      (fun _ _ _ outside owned _ => noTrailingUnlock_of_owned outside owned)
      reached owned (activatingOutside_start binder task)
  · exact along_of_invariant
      (fun _ _ _ inside clear stepped => holderInside_step inside clear stepped)
      (fun _ _ _ inside clear _ => unlockOwned_of_inside inside clear)
      reached clear (holderInside_start binder task)
  · intro first second firstInside secondInside
    exact guarded_unique Shared.serviceTableMutex (guarded · = true) (holderInside_run reached clear)
      firstInside secondInside

end Runs

/-! ### Two runs -/

/-- One client, one worker, two calls of `check_node_failure`. -/
def trailingTasks : Fin 4 → Task :=
  ![.bind "10.0.0.1", .runStreamer, .checkNodeFailure, .checkNodeFailure]

/-- The client binds, the worker starts the stream while the first call is in its loop, and the
stream does not end. -/
def clearSchedule : List (Fin 4) :=
  List.replicate 9 0 ++ List.replicate 6 1 ++ [2, 2, 1, 1, 2, 1, 2, 2, 2, 3] ++ List.replicate 7 1

theorem unlocks_owned_clear :
    ∃ final, runSteps serverStep
        (ServerConfig.start (.new "0.0.0.0" 3000 0 (2 * ·)) trailingTasks) clearSchedule =
          some final ∧
      Along serverStep UnlockOwned
        (ServerConfig.start (.new "0.0.0.0" 3000 0 (2 * ·)) trailingTasks) clearSchedule ∧
      ExclusiveRegions final := by
  have runs : (runSteps serverStep
      (ServerConfig.start (.new "0.0.0.0" 3000 0 (2 * ·)) trailingTasks) clearSchedule).isSome := by
    decide
  obtain ⟨final, reached⟩ := Option.isSome_iff_exists.mp runs
  have clear : Along serverStep NoTrailingUnlock
      (ServerConfig.start (.new "0.0.0.0" 3000 0 (2 * ·)) trailingTasks) clearSchedule := by decide
  obtain ⟨owned, exclusive⟩ := unlocks_owned_iff reached
  exact ⟨final, reached, owned.mpr clear, exclusive clear⟩

/-- The client binds; the worker activates its entry and the stream ends; the first call takes the
lock; the worker's trailing unlock frees it; the second call takes it too. -/
def trailingSchedule : List (Fin 4) :=
  List.replicate 9 0 ++ List.replicate 16 1 ++ [2, 1, 3]

/-- **The trailing unlock frees the lock of another thread.** -/
theorem trailingUnlock_breaks_exclusion :
    ∃ final, runSteps serverStep
        (ServerConfig.start (.new "0.0.0.0" 3000 0 (2 * ·)) trailingTasks) trailingSchedule =
          some final ∧
      ¬ ExclusiveRegions final ∧
      ¬ Along serverStep UnlockOwned
        (ServerConfig.start (.new "0.0.0.0" 3000 0 (2 * ·)) trailingTasks) trailingSchedule := by
  have ends : (runSteps serverStep
      (ServerConfig.start (.new "0.0.0.0" 3000 0 (2 * ·)) trailingTasks) trailingSchedule).map
        (fun final => (final.threads 2, final.threads 3)) =
      some (.checkNodeFailure .first, .checkNodeFailure .first) := by decide
  obtain ⟨final, reached, places⟩ := Option.map_eq_some_iff.mp ends
  simp only [Prod.mk.injEq] at places
  have shared : ¬ ExclusiveRegions final := by
    intro exclusive
    have same := exclusive 2 3 (by rw [places.1]; trivial) (by rw [places.2]; trivial)
    exact absurd same (by decide)
  refine ⟨final, reached, shared, fun owned => ?_⟩
  have outside := along_of_invariant
    (fun _ _ _ outside _ stepped => activatingOutside_step outside stepped)
    (fun _ _ _ outside owned _ => noTrailingUnlock_of_owned outside owned)
    reached owned (activatingOutside_start _ _)
  exact shared fun _ _ => guarded_unique Shared.serviceTableMutex (guarded · = true)
    (holderInside_run reached outside)

end GstPipeline.Binder
