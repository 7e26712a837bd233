/-
**Threads that interleave on a shared state.**

A `Program` says what a thread does next: from the shared state and its own local state it picks
one atomic operation and its next local state (`next`), and the operation acts on the shared state
(`apply`; `none` is an operation that blocks). A `Config` is the shared state with the local state
of every thread, over any type of threads. One step of the system is one operation of one thread,
so a run (`runSteps`) is the list of the threads that take its steps: every list is an
interleaving.

* `step_eq_some`: what one step does, once for all programs.
* `perThread_step`: the rule of Owicki and Gries. A property of the shared state with a property of
  each thread is kept when the moving thread keeps both and no move of one thread breaks the
  property of another.
* `Program.Alone`, `run_of_alone`: what a thread does while no other moves is a run of the system.
* `alone_leaves`: a thread alone gets out of a region in which all its moves are enabled and lower a
  measure.
* `card_update_add_one`: how many threads are in a kind of local state after one enters it.

The second part is about a mutex that keeps its holder. `unlock` by any thread frees it.
`holder_step` is the lock discipline: when threads enter a guarded region only by `lock` and leave
it only by `unlock`, the thread in the region is the holder, so there is at most one
(`guarded_unique`).
-/

import GstPipeline.Lib.Run
import Mathlib.Data.Fintype.Card
import Mathlib.Logic.Function.Basic

namespace GstPipeline.Lib

/-- The shared state, and the local state of every thread. -/
structure Config (T S L : Type) where
  shared : S
  threads : T → L

/-- What a thread does next, and what its operations do to the shared state. -/
structure Program (T S L O : Type) where
  next : S → L → Option (O × L)
  apply : T → O → S → Option S

section Step

variable {T S L O : Type} [DecidableEq T] (program : Program T S L O)

/-- One atomic operation of one thread. -/
def Program.step (config : Config T S L) (thread : T) : Option (Config T S L) :=
  (program.next config.shared (config.threads thread)).bind fun move =>
    (program.apply thread move.1 config.shared).map fun shared =>
      ⟨shared, Function.update config.threads thread move.2⟩

variable {program}

/-- What one step does: the thread's next operation acts on the shared state, and only this
thread's local state changes. -/
theorem step_eq_some {config after : Config T S L} {thread : T} :
    program.step config thread = some after ↔
      ∃ operation local' shared,
        program.next config.shared (config.threads thread) = some (operation, local') ∧
        program.apply thread operation config.shared = some shared ∧
        after = ⟨shared, Function.update config.threads thread local'⟩ := by
  simp only [Program.step, Option.bind_eq_some_iff, Option.map_eq_some_iff, Prod.exists]
  constructor
  · rintro ⟨operation, local', chosen, shared, applied, rfl⟩
    exact ⟨operation, local', shared, chosen, applied, rfl⟩
  · rintro ⟨operation, local', shared, chosen, applied, rfl⟩
    exact ⟨operation, local', chosen, shared, applied, rfl⟩

/-- The same, read off the state after the step. -/
theorem step_cases {config after : Config T S L} {thread : T}
    (stepped : program.step config thread = some after) :
    ∃ operation mine',
      program.next config.shared (config.threads thread) = some (operation, mine') ∧
      program.apply thread operation config.shared = some after.shared ∧
      after.threads thread = mine' ∧ ∀ u, u ≠ thread → after.threads u = config.threads u := by
  obtain ⟨operation, mine', shared', chosen, applied, rfl⟩ := step_eq_some.mp stepped
  exact ⟨operation, mine', chosen, applied, Function.update_self .., fun _ other =>
    Function.update_of_ne other ..⟩

omit [DecidableEq T] in
/-- A reading of local states that the move keeps for its own thread is kept for every thread. -/
theorem reading_unchanged {α : Type} (reading : L → α) {config after : Config T S L} {thread : T}
    {mine' : L} (mine : after.threads thread = mine')
    (others : ∀ u, u ≠ thread → after.threads u = config.threads u)
    (same : reading mine' = reading (config.threads thread)) (u : T) :
    reading (after.threads u) = reading (config.threads u) := by
  by_cases here : u = thread
  · rw [here, mine, same]
  · rw [others u here]

omit [DecidableEq T] in
/-- What a reading gives after the move, it gives of the local state moved to, or gave before. -/
theorem reading_after {α : Type} (reading : L → α) {config after : Config T S L} {thread : T}
    {mine' : L} (mine : after.threads thread = mine')
    (others : ∀ u, u ≠ thread → after.threads u = config.threads u) {u : T} {value : α}
    (read : reading (after.threads u) = value) :
    (u = thread ∧ reading mine' = value) ∨ (u ≠ thread ∧ reading (config.threads u) = value) := by
  by_cases here : u = thread
  · exact Or.inl ⟨here, by rw [← mine, ← here, read]⟩
  · exact Or.inr ⟨here, by rw [← others u here, read]⟩

/-- **The rule of Owicki and Gries**, for one step. -/
theorem perThread_step {G : S → Prop} {P : T → S → L → Prop}
    (moves : ∀ thread shared mine operation mine' shared',
      G shared → P thread shared mine →
      program.next shared mine = some (operation, mine') →
      program.apply thread operation shared = some shared' →
      G shared' ∧ P thread shared' mine' ∧
        ∀ other theirs, other ≠ thread → P other shared theirs → P other shared' theirs)
    {config after : Config T S L} {thread : T}
    (holds : G config.shared ∧ ∀ u, P u config.shared (config.threads u))
    (stepped : program.step config thread = some after) :
    G after.shared ∧ ∀ u, P u after.shared (after.threads u) := by
  obtain ⟨operation, mine', chosen, applied, mine, same⟩ := step_cases stepped
  obtain ⟨global, own, others⟩ :=
    moves thread _ _ operation mine' _ holds.1 (holds.2 thread) chosen applied
  refine ⟨global, fun u => ?_⟩
  by_cases here : u = thread
  · rw [here, mine]
    exact own
  · rw [same u here]
    exact others u _ here (holds.2 u)

/-- One thread moves and no other does. -/
inductive Program.Alone (program : Program T S L O) (thread : T) : S → L → S → L → Prop
  | done {shared : S} {mine : L} : program.Alone thread shared mine shared mine
  | step {shared shared' shared'' : S} {mine mine' mine'' : L} {operation : O}
      (chosen : program.next shared mine = some (operation, mine'))
      (applied : program.apply thread operation shared = some shared')
      (rest : program.Alone thread shared' mine' shared'' mine'') :
      program.Alone thread shared mine shared'' mine''

omit [DecidableEq T] in
theorem Program.Alone.trans {thread : T} {shared shared' shared'' : S} {mine mine' mine'' : L}
    (first : program.Alone thread shared mine shared' mine')
    (second : program.Alone thread shared' mine' shared'' mine'') :
    program.Alone thread shared mine shared'' mine'' := by
  induction first with
  | done => exact second
  | step chosen applied _ ih => exact .step chosen applied (ih second)

/-- What a thread does alone, it does in a run of the system. -/
theorem run_of_alone {config : Config T S L} {thread : T} {shared' : S} {mine' : L}
    (alone : program.Alone thread config.shared (config.threads thread) shared' mine') :
    ∃ turns, runSteps program.step config (List.replicate turns thread) =
      some ⟨shared', Function.update config.threads thread mine'⟩ := by
  obtain ⟨shared, threads⟩ := config
  change program.Alone thread shared (threads thread) shared' mine' at alone
  generalize place : threads thread = mine at alone
  induction alone generalizing threads with
  | done =>
    refine ⟨0, ?_⟩
    rw [← place, Function.update_eq_self]
    rfl
  | @step shared next final mine moved ended operation chosen applied _ ih =>
    obtain ⟨turns, reached⟩ := ih (Function.update threads thread moved) (Function.update_self ..)
    rw [Function.update_idem] at reached
    refine ⟨turns + 1, runSteps_cons.mpr ⟨_, step_eq_some.mpr ⟨operation, moved, next, ?_, applied, rfl⟩,
      reached⟩⟩
    rw [← chosen, ← place]

variable (program) in
/-- **A thread alone leaves a region** in which each of its moves is enabled and lowers a measure; it
makes no move outside of it. -/
theorem alone_leaves (thread : T) (I inside : S → L → Prop) (left : S → L → ℕ)
    (moves : ∀ shared mine, I shared mine → inside shared mine → ∃ operation mine' shared',
      program.next shared mine = some (operation, mine') ∧
      program.apply thread operation shared = some shared' ∧
      I shared' mine' ∧ (inside shared' mine' → left shared' mine' < left shared mine))
    {config : Config T S L} (holds : I config.shared (config.threads thread)) :
    ∃ turns final, runSteps program.step config turns = some final ∧
      Along program.step (fun config label => label = thread ∧
        I config.shared (config.threads label) ∧ inside config.shared (config.threads label))
        config turns ∧
      I final.shared (final.threads thread) ∧ ¬ inside final.shared (final.threads thread) := by
  induction bound : left config.shared (config.threads thread) using Nat.strong_induction_on
    generalizing config with
  | _ n ih =>
    by_cases within : inside config.shared (config.threads thread)
    · obtain ⟨operation, mine', shared', chosen, applied, kept, lower⟩ :=
        moves config.shared (config.threads thread) holds within
      have stepped := step_eq_some.mpr ⟨operation, mine', shared', chosen, applied, rfl⟩
      generalize same : Config.mk shared' (Function.update config.threads thread mine') = next
        at stepped
      have shares : next.shared = shared' := by rw [← same]
      have mine : next.threads thread = mine' := by
        rw [← same]
        exact Function.update_self ..
      rw [← shares, ← mine] at kept lower
      by_cases still : inside next.shared (next.threads thread)
      · obtain ⟨turns, final, reached, along, keeps, outside⟩ :=
          ih (left next.shared (next.threads thread)) (bound ▸ lower still) kept rfl
        refine ⟨thread :: turns, final, runSteps_cons.mpr ⟨next, stepped, reached⟩,
          ⟨⟨rfl, holds, within⟩, fun other otherStepped => ?_⟩, keeps, outside⟩
        obtain rfl : other = next := Option.some.inj (otherStepped.symm.trans stepped)
        exact along
      · exact ⟨[thread], next, runSteps_cons.mpr ⟨next, stepped, rfl⟩,
          ⟨⟨rfl, holds, within⟩, fun _ _ => trivial⟩, kept, still⟩
    · exact ⟨[], config, rfl, trivial, holds, within⟩

end Step

/-! ### Counting threads -/

section Count

variable {T L : Type} [Fintype T] [DecidableEq T] (kind : L → Prop) [DecidablePred kind]

theorem card_update_add_one (threads : T → L) (thread : T) (moved : L)
    (before : ¬ kind (threads thread)) (now : kind moved) :
    (Finset.univ.filter fun u => kind (Function.update threads thread moved u)).card =
      (Finset.univ.filter fun u => kind (threads u)).card + 1 := by
  have grown : (Finset.univ.filter fun u => kind (Function.update threads thread moved u)) =
      insert thread (Finset.univ.filter fun u => kind (threads u)) := by
    ext u
    simp only [Finset.mem_filter, Finset.mem_univ, true_and, Finset.mem_insert]
    by_cases here : u = thread
    · subst here
      simp [now]
    · simp [here]
  rw [grown, Finset.card_insert_of_notMem (by simp [before])]

end Count

/-! ### A mutex that keeps its holder -/

/-- What an operation does to the mutex. -/
inductive LockUse
  | lock
  | unlock
  | none
  deriving DecidableEq

/-- The holder after an operation: `lock` blocks while there is one, and `unlock` frees the mutex,
whichever thread calls it. -/
def LockUse.apply {T : Type} (thread : T) : LockUse → Option T → Option (Option T)
  | .lock, .none => some (some thread)
  | .lock, .some _ => .none
  | .unlock, _ => some .none
  | .none, holder => some holder

/-- A move keeps the lock discipline: it enters the guarded region by `lock` and leaves it by
`unlock`. -/
def LockUse.Disciplined : LockUse → Prop → Prop → Prop
  | .lock, before, after => ¬ before ∧ after
  | .unlock, before, after => before ∧ ¬ after
  | .none, before, after => after ↔ before

section Mutex

variable {T S L O : Type} [DecidableEq T] {program : Program T S L O}
  (holder : S → Option T) (use : O → LockUse) (guarded : L → Prop)

/-- **The lock discipline, for one step.** If the thread in the guarded region is the holder before
a disciplined move, it is the holder after it. -/
theorem holder_step
    (uses : ∀ thread operation shared shared',
      program.apply thread operation shared = some shared' →
      (use operation).apply thread (holder shared) = some (holder shared'))
    {config after : Config T S L} {thread : T}
    (owned : ∀ u, guarded (config.threads u) ↔ holder config.shared = some u)
    (stepped : program.step config thread = some after)
    (disciplined : ∀ operation mine',
      program.next config.shared (config.threads thread) = some (operation, mine') →
      (use operation).Disciplined (guarded (config.threads thread)) (guarded mine')) :
    ∀ u, guarded (after.threads u) ↔ holder after.shared = some u := by
  obtain ⟨operation, mine', chosen, applied, now, others⟩ := step_cases stepped
  have used := uses thread operation _ _ applied
  have keeps := disciplined operation mine' chosen
  intro u
  have theirs := owned u
  cases kind : use operation with
  | lock =>
    rw [kind] at used keeps
    cases before : holder config.shared with
    | some other =>
      rw [before] at used
      cases used
    | none =>
      rw [before] at used theirs
      rw [← Option.some.inj used]
      by_cases same : u = thread
      · rw [same, now]
        simp [keeps.2]
      · rw [others u same, theirs]
        simp [Ne.symm same]
  | unlock =>
    rw [kind] at used keeps
    rw [← Option.some.inj used]
    by_cases same : u = thread
    · rw [same, now]
      simp [keeps.2]
    · have mineNow : holder config.shared = some thread := (owned thread).mp keeps.1
      rw [others u same, theirs, mineNow]
      simp [Ne.symm same]
  | none =>
    rw [kind] at used keeps
    rw [← Option.some.inj used]
    by_cases same : u = thread
    · rw [same, now]
      exact keeps.trans (owned thread)
    · rw [others u same]
      exact theirs

omit [DecidableEq T] in
/-- The holder is the only thread in the guarded region. -/
theorem guarded_unique {config : Config T S L}
    (owned : ∀ u, guarded (config.threads u) ↔ holder config.shared = some u)
    {first second : T} (inside : guarded (config.threads first))
    (insideToo : guarded (config.threads second)) : first = second :=
  Option.some.inj (((owned first).mp inside).symm.trans ((owned second).mp insideToo))

end Mutex

end GstPipeline.Lib
