/-
**No thread of the server waits for ever on the others.**

A statement of a thread is not enabled in three cases: the thread has returned, the mutex is held, or
the statement reads an entry that does not exist. The last never happens: what a thread may still
read, the table has (`reaches`), and the table never shrinks. The thread that holds the mutex is
inside a guarded region in every run, whether or not a worker freed the mutex of another before
(`holderGuarded_step`), and no statement of such a region waits.

The range-for loops of `send_heartbeat` and `check_node_failure` walk the table with iterators that
they take once. In a run without a trailing `unlock()` no other thread appends while they do, so an
iterator and the index it was taken at denote one entry (`iterators_step`). After a trailing
`unlock()` they can dangle, which indices do not show: the results on these loops are about the runs
without.

* `accesses_in_bounds`: no access to the table is out of its bounds, and no iterator dangles.
* `no_deadlock`: a thread that cannot move has returned, or waits for a holder that can.
* `statementsLeft` bounds what a thread does alone until it has returned, or until its pass over the
  table ends. So from every reachable state the holder can be run until the mutex is free, and then
  any other thread to its end (`can_end`).
* `calls_can_return`: every call can still return. `pending_can_activate`: while there is a worker,
  every entry can still be activated.
-/

import GstPipeline.Binder.Scan
import GstPipeline.Binder.Locking
import GstPipeline.Binder.InfoPointer

namespace GstPipeline.Binder

open GstPipeline.Lib

/-! ### What a thread may still read -/

/-- The index at which the thread's next statement reads or writes the table. -/
def accessed : Thread → Option ℕ
  | .runStreamer (.checkStatus i) => some i
  | .runStreamer (.recheckStatus i) => some i
  | .runStreamer (.setStatus i) => some i
  | .runStreamer (.takeInfo i) => some i
  | .sendHeartbeat _ (.scan i last) => if i < last then some i else none
  | .sendHeartbeat _ (.setLastSeen i _) => some i
  | .checkNodeFailure (.readLastSeen i _ _) => some i
  | _ => none

/-- The thread has seen that the table has this many entries. -/
def reaches : Thread → ℕ
  | .runStreamer (.checkStatus i) => i + 1
  | .runStreamer (.lock i) => i + 1
  | .runStreamer (.recheckStatus i) => i + 1
  | .runStreamer (.unlockEarly i) => i + 1
  | .runStreamer (.setStatus i) => i + 1
  | .runStreamer (.takeInfo i) => i + 1
  | .runStreamer (.callCreate _ info) => info.index + 1
  | .runStreamer (.create _ info _) => info.index + 1
  | .sendHeartbeat _ (.scan _ last) => last
  | .sendHeartbeat _ (.readTimestamp i) => i + 1
  | .sendHeartbeat _ (.setLastSeen i _) => i + 1
  | .checkNodeFailure (.readTimestamp _ last) => last
  | .checkNodeFailure (.readLastSeen i last _) => max (i + 1) last
  | _ => 0

/-- The call is in its range-for loop, with the iterators it took at the start. -/
def iterating : Thread → Bool
  | .sendHeartbeat _ (.scan _ _) => true
  | .sendHeartbeat _ (.readTimestamp _) => true
  | .sendHeartbeat _ (.setLastSeen _ _) => true
  | .checkNodeFailure (.readTimestamp _ _) => true
  | .checkNodeFailure (.readLastSeen _ _ _) => true
  | _ => false

/-- The call has left its range-for loop. -/
def iterated : Thread → Bool
  | .sendHeartbeat _ .unlock => true
  | .sendHeartbeat _ .returned => true
  | .checkNodeFailure (.unlock _) => true
  | .checkNodeFailure (.returned _) => true
  | _ => false

/-- The call has returned. -/
def returned : Thread → Bool
  | .bind _ (.returned _) => true
  | .sendHeartbeat _ .returned => true
  | .checkNodeFailure (.returned _) => true
  | .updateTimestamp _ done => done
  | _ => false

/-- The thread's next statement is a `lock()`. -/
def awaiting : Thread → Bool
  | .runStreamer (.lock _) => true
  | .bind _ (.lock _ _) => true
  | .sendHeartbeat _ .lock => true
  | .checkNodeFailure .lock => true
  | _ => false

theorem accessed_lt {mine : Thread} {i : ℕ} (access : accessed mine = some i) :
    i < reaches mine := by
  unfold accessed at access
  split at access <;> simp_all [reaches]
  exact access.2 ▸ access.1

theorem pointing_lt {mine : Thread} {info : Address} (points : pointing mine = some info) :
    info.index < reaches mine := by
  unfold pointing at points
  split at points <;> simp_all [reaches]

theorem reaches_move {binder : ServerBinder} {mine mine' : Thread} {operation : Operation}
    (move : Move binder mine operation mine') :
    reaches mine' ≤ reaches mine ∨ reaches mine' ≤ binder.serviceTable.size := by
  cases move with
  | loopEnter inside => exact Or.inr inside
  | heartbeatFirst => exact Or.inr (Nat.le_refl _)
  | checkFirst => exact Or.inr (Nat.le_refl _)
  | heartbeatMatch inside => exact Or.inl inside
  | checkTimestamp inside => exact Or.inl (Nat.max_le.mpr ⟨inside, Nat.le_refl _⟩)
  | checkRecent => exact Or.inl (Nat.le_max_right _ _)
  | takeInfo => exact Or.inl (Nat.le_refl _)
  | _ => exact Or.inl (by simp [reaches])

/-- A loop that is left is not entered again. -/
theorem iterating_move {binder : ServerBinder} {mine mine' : Thread} {operation : Operation}
    (move : Move binder mine operation mine') :
    (iterating mine = true → iterating mine' = true ∨ iterated mine' = true) ∧
      (iterated mine = true → iterated mine' = true) := by
  cases move <;> simp [iterating, iterated]

theorem not_iterating_of_iterated {mine : Thread} (left : iterated mine = true) :
    iterating mine = false := by
  unfold iterated at left
  split at left <;> first | rfl | cases left

theorem guarded_of_iterating {mine : Thread} (loops : iterating mine = true) :
    guarded mine = true := by
  unfold iterating at loops
  split at loops <;> first | rfl | cases loops

theorem not_iterating_of_push {binder : ServerBinder} {mine mine' : Thread}
    {newService : ServiceInfo} (move : Move binder mine (.pushBack newService) mine') :
    iterating mine = false := by
  cases move
  rfl

theorem not_awaiting_of_guarded {mine : Thread} (inside : guarded mine) :
    awaiting mine = false := by
  unfold guarded at inside
  split at inside <;> simp_all [awaiting]

theorem not_returned_of_guarded {mine : Thread} (inside : guarded mine) :
    returned mine = false := by
  unfold guarded at inside
  split at inside <;> simp_all [returned]

section Statements

variable {binder : ServerBinder} {mine : Thread}

theorem entry_of_lt {i : ℕ} (inside : i < binder.serviceTable.size) :
    ∃ entry, binder.serviceTable.entries[i]? = some entry :=
  ⟨_, List.getElem?_eq_getElem inside⟩

theorem next_runStreamer {pc : WorkerPc}
    (reach : reaches (.runStreamer pc) ≤ binder.serviceTable.size) :
    ∃ move, runStreamer binder pc = some move := by
  cases pc with
  | loopTest i =>
    by_cases inside : i < binder.serviceTable.size
    · exact ⟨_, by rw [runStreamer, if_pos inside]⟩
    · exact ⟨_, by rw [runStreamer, if_neg inside]⟩
  | checkStatus i =>
    obtain ⟨entry, found⟩ := entry_of_lt reach
    exact ⟨_, by rw [runStreamer, found, Option.map_some]⟩
  | recheckStatus i =>
    obtain ⟨entry, found⟩ := entry_of_lt reach
    exact ⟨_, by rw [runStreamer, found, Option.map_some]⟩
  | _ => exact ⟨_, rfl⟩

theorem next_heartbeatHandler {bindInfo : BindInfo} {pc : HeartbeatPc}
    (reach : reaches (.sendHeartbeat bindInfo pc) ≤ binder.serviceTable.size)
    (open' : returned (.sendHeartbeat bindInfo pc) = false) :
    ∃ move, heartbeatHandler binder bindInfo pc = some move := by
  cases pc with
  | scan i last =>
    by_cases inside : i < last
    · obtain ⟨entry, found⟩ := entry_of_lt (Nat.lt_of_lt_of_le inside reach)
      exact ⟨_, by rw [heartbeatHandler, if_pos inside, found, Option.map_some]⟩
    · exact ⟨_, by rw [heartbeatHandler, if_neg inside]⟩
  | returned => cases open'
  | _ => exact ⟨_, rfl⟩

theorem next_checkCall {pc : CheckPc}
    (reach : reaches (.checkNodeFailure pc) ≤ binder.serviceTable.size)
    (open' : returned (.checkNodeFailure pc) = false) :
    ∃ move, checkCall binder pc = some move := by
  cases pc with
  | readTimestamp i last =>
    by_cases inside : i < last
    · exact ⟨_, by rw [checkCall, if_pos inside]⟩
    · exact ⟨_, by rw [checkCall, if_neg inside]⟩
  | readLastSeen i last timestamp =>
    obtain ⟨entry, found⟩ := entry_of_lt (Nat.lt_of_lt_of_le (Nat.le_max_left (i + 1) last) reach)
    exact ⟨_, by rw [checkCall, found, Option.map_some]⟩
  | returned result => cases open'
  | _ => exact ⟨_, rfl⟩

/-- **A thread that has not returned has a next statement**, when the table has what it may read. -/
theorem next_of_reaches (reach : reaches mine ≤ binder.serviceTable.size)
    (open' : returned mine = false) :
    ∃ operation mine', nextStatement binder mine = some (operation, mine') := by
  cases mine with
  | runStreamer pc =>
    obtain ⟨move, chosen⟩ := next_runStreamer reach
    exact ⟨_, _, by rw [nextStatement, chosen, Option.map_some]⟩
  | bind inAddr pc =>
    cases pc with
    | returned bindInfo => cases open'
    | _ => exact ⟨_, _, rfl⟩
  | sendHeartbeat bindInfo pc =>
    obtain ⟨move, chosen⟩ := next_heartbeatHandler reach open'
    exact ⟨_, _, by rw [nextStatement, chosen, Option.map_some]⟩
  | checkNodeFailure pc =>
    obtain ⟨move, chosen⟩ := next_checkCall reach open'
    exact ⟨_, _, by rw [nextStatement, chosen, Option.map_some]⟩
  | updateTimestamp now done =>
    cases done with
    | false => exact ⟨_, _, rfl⟩
    | true => cases open'

theorem awaiting_of_lock {mine' : Thread} (move : Move binder mine .lock mine') :
    awaiting mine = true := by
  cases move <;> rfl

end Statements

/-! ### Waiting -/

section Waiting

variable {T : Type} {thread : T} {operation : Operation} {shared after : Shared T}

/-- Only an append changes the size of the table. -/
theorem size_eq_apply (applied : shared.apply thread operation = some after)
    (noPush : ∀ newService, operation ≠ .pushBack newService) :
    after.serviceTable.size = shared.serviceTable.size := by
  have same := congrArg List.length (table_apply applied noPush).2.2
  simp only [List.length_map] at same
  exact same

theorem size_apply (applied : shared.apply thread operation = some after) :
    shared.serviceTable.size ≤ after.serviceTable.size := by
  by_cases push : ∃ newService, operation = .pushBack newService
  · obtain ⟨newService, rfl⟩ := push
    cases applied
    simp [StdVector.size]
  · push Not at push
    exact Nat.le_of_eq (size_eq_apply applied push).symm

/-- Only a `lock()` on a mutex that is held does not go on. -/
theorem apply_of_free (thread : T) (operation : Operation) (shared : Shared T)
    (free : operation = .lock → shared.serviceTableMutex = none) :
    ∃ after, shared.apply thread operation = some after := by
  cases operation with
  | lock =>
    simp only [Shared.apply, free rfl]
    exact ⟨_, rfl⟩
  | _ => exact ⟨_, rfl⟩

/-- After a statement the mutex is free, if it was, or the thread is inside a guarded region. -/
theorem freed_or_guarded_move {mine mine' : Thread}
    (move : Move shared.toServerBinder mine operation mine')
    (applied : shared.apply thread operation = some after)
    (before : shared.serviceTableMutex = none ∨ guarded mine = true) :
    after.serviceTableMutex = none ∨ guarded mine' = true := by
  have used := apply_lockUse applied
  cases kind : operation.lockUse with
  | unlock =>
    rw [kind] at used
    exact Or.inl (Option.some.inj used).symm
  | lock =>
    have locks : operation = .lock := by cases operation <;> first | rfl | cases kind
    subst locks
    exact Or.inr (next_disciplined move (by cases move <;> rfl)).2
  | none =>
    rw [kind] at used
    have steady : trailingUnlock mine = false := by
      cases move <;> first | rfl | cases kind
    have keeps := next_disciplined move steady
    rw [kind] at keeps
    exact before.imp (fun free => (Option.some.inj used).symm.trans free) keeps.mpr

end Waiting

section Runs

variable {T : Type}

/-- The holder of the mutex is inside a guarded region. -/
def HolderGuarded (config : ServerConfig T) : Prop :=
  ∀ thread, config.shared.serviceTableMutex = some thread → guarded (config.threads thread) = true

/-- What the threads may still read, the table has. -/
def WithinTable (config : ServerConfig T) : Prop :=
  ∀ thread, reaches (config.threads thread) ≤ config.shared.serviceTable.size

theorem withinTable_start (binder : ServerBinder) (task : T → Task) :
    WithinTable (ServerConfig.start binder task) := by
  intro thread
  show reaches (task thread).start ≤ _
  cases task thread <;> exact Nat.zero_le _

theorem holderGuarded_start (binder : ServerBinder) (task : T → Task) :
    HolderGuarded (ServerConfig.start binder task) := by
  intro thread held
  cases held

variable [DecidableEq T]

theorem withinTable_step {config after : ServerConfig T} {thread : T} (within : WithinTable config)
    (stepped : serverStep config thread = some after) : WithinTable after := by
  obtain ⟨operation, mine', move, applied, mine, others⟩ := serverStep_cases stepped
  have grows := size_apply applied
  intro u
  by_cases same : u = thread
  · rw [same, mine]
    exact ((reaches_move move).elim (fun less => less.trans (within thread)) id).trans grows
  · rw [others u same]
    exact (within u).trans grows

/-- **The holder is inside**, in every run: the trailing `unlock()` frees the mutex, and so does not
leave it with a thread that is outside. -/
theorem holderGuarded_step {config after : ServerConfig T} {thread : T}
    (inside : HolderGuarded config) (stepped : serverStep config thread = some after) :
    HolderGuarded after := by
  obtain ⟨operation, mine', move, applied, mine, others⟩ := serverStep_cases stepped
  have used := apply_lockUse applied
  intro u held
  by_cases same : u = thread
  · subst same
    rw [mine]
    have before : config.shared.serviceTableMutex = none ∨
        guarded (config.threads u) = true := by
      cases kind : operation.lockUse with
      | unlock =>
        rw [kind] at used
        cases (Option.some.inj used).trans held
      | lock =>
        rw [kind] at used
        cases free : config.shared.serviceTableMutex with
        | none => exact Or.inl rfl
        | some other =>
          rw [free] at used
          cases used
      | none =>
        rw [kind] at used
        exact Or.inr (inside u ((Option.some.inj used).trans held))
    refine (freed_or_guarded_move move applied before).resolve_left fun free => ?_
    cases free.symm.trans held
  · rw [others u same]
    refine inside u ?_
    cases kind : operation.lockUse with
    | unlock =>
      rw [kind] at used
      cases (Option.some.inj used).trans held
    | lock =>
      rw [kind] at used
      cases free : config.shared.serviceTableMutex with
      | none =>
        rw [free] at used
        exact (same (Option.some.inj ((Option.some.inj used).trans held)).symm).elim
      | some other =>
        rw [free] at used
        cases used
    | none =>
      rw [kind] at used
      exact (Option.some.inj used).trans held

/-- A thread whose reads are in the table moves, unless it has returned or waits for the mutex. -/
theorem moves_of_within {config : ServerConfig T} {thread : T} (within : WithinTable config)
    (open' : returned (config.threads thread) = false)
    (free : awaiting (config.threads thread) = true → config.shared.serviceTableMutex = none) :
    ∃ after, serverStep config thread = some after := by
  obtain ⟨operation, mine', chosen⟩ := next_of_reaches (within thread) open'
  have move := move_of_next chosen
  obtain ⟨shared, applied⟩ := apply_of_free thread operation config.shared fun locks =>
    free (awaiting_of_lock (locks ▸ move))
  exact ⟨_, step_eq_some.mpr ⟨operation, mine', shared, chosen, applied, rfl⟩⟩

variable {binder : ServerBinder} {task : T → Task} {schedule : List T} {final : ServerConfig T}

theorem withinTable_run
    (reached : runSteps serverStep (ServerConfig.start binder task) schedule = some final) :
    WithinTable final :=
  run_invariant (fun _ _ _ within stepped => withinTable_step within stepped) reached
    (withinTable_start binder task)

theorem holderGuarded_run
    (reached : runSteps serverStep (ServerConfig.start binder task) schedule = some final) :
    HolderGuarded final :=
  run_invariant (fun _ _ _ inside stepped => holderGuarded_step inside stepped) reached
    (holderGuarded_start binder task)

/-- While a call is in its loop, no step of another thread appends, and none of its own does. -/
theorem iterators_step {config after : ServerConfig T} {thread u : T} (inside : HolderInside config)
    (loops : iterating (config.threads u) = true) (stepped : serverStep config thread = some after) :
    after.shared.serviceTable.buffer = config.shared.serviceTable.buffer ∧
      after.shared.serviceTable.size = config.shared.serviceTable.size := by
  obtain ⟨operation, mine', move, applied, mine, others⟩ := serverStep_cases stepped
  have noPush : ∀ newService, operation ≠ .pushBack newService := by
    rintro newService rfl
    have same : u = thread := guarded_unique Shared.serviceTableMutex (guarded · = true) inside
      (guarded_of_iterating loops) (guarded_of_push move)
    have outside := not_iterating_of_push move
    rw [← same, loops] at outside
    cases outside
  exact ⟨(table_apply applied noPush).2.1, size_eq_apply applied noPush⟩

/-- **Iterators do not dangle** from one state of a loop to a later one. -/
theorem iteratorsValid_run {middle : ServerConfig T} {more : List T} {u : T}
    (inside : HolderInside middle) (goesOn : runSteps serverStep middle more = some final)
    (clear : Along serverStep NoTrailingUnlock middle more)
    (loops : iterating (middle.threads u) = true) (still : iterating (final.threads u) = true) :
    StdVector.IteratorsValid middle.shared.serviceTable final.shared.serviceTable := by
  have kept : HolderInside final ∧ (iterated (final.threads u) = true ∨
      iterating (final.threads u) = true ∧
        final.shared.serviceTable.buffer = middle.shared.serviceTable.buffer ∧
        final.shared.serviceTable.size = middle.shared.serviceTable.size) := by
    refine run_invariant_along (I := fun config => HolderInside config ∧
      (iterated (config.threads u) = true ∨ iterating (config.threads u) = true ∧
        config.shared.serviceTable.buffer = middle.shared.serviceTable.buffer ∧
        config.shared.serviceTable.size = middle.shared.serviceTable.size))
      (fun config thread after both clear stepped => ?_) goesOn clear
      ⟨inside, Or.inr ⟨loops, rfl, rfl⟩⟩
    obtain ⟨inside, place⟩ := both
    refine ⟨holderInside_step inside clear stepped, ?_⟩
    obtain ⟨operation, mine', move, applied, mine, others⟩ := serverStep_cases stepped
    have goes : (iterating (config.threads u) = true →
        iterating (after.threads u) = true ∨ iterated (after.threads u) = true) ∧
        (iterated (config.threads u) = true → iterated (after.threads u) = true) := by
      by_cases here : u = thread
      · rw [here, mine]
        exact iterating_move move
      · rw [others u here]
        exact ⟨Or.inl, id⟩
    rcases place with left | ⟨looping, sameBuffer, sameSize⟩
    · exact Or.inl (goes.2 left)
    · obtain ⟨buffer, size⟩ := iterators_step inside looping stepped
      rcases goes.1 looping with looping | left
      · exact Or.inr ⟨looping, buffer.trans sameBuffer, size.trans sameSize⟩
      · exact Or.inl left
  rcases kept.2 with left | ⟨_, sameBuffer, sameSize⟩
  · cases still.symm.trans (not_iterating_of_iterated left)
  · exact StdVector.iteratorsValid_of_same sameBuffer sameSize

/-- **No access is out of bounds** in a run without a trailing `unlock()`. Indices are below the size.
A worker's `info` is too, and denotes an entry as long as the table is in the buffer it was taken in.
The iterators of a loop are good from each state of the loop to each later one. -/
theorem accesses_in_bounds {middle : ServerConfig T} {more : List T}
    (reached : runSteps serverStep (ServerConfig.start binder task) schedule = some middle)
    (goesOn : runSteps serverStep middle more = some final)
    (clear : Along serverStep NoTrailingUnlock (ServerConfig.start binder task) (schedule ++ more))
    (thread : T) :
    (∀ i, accessed (final.threads thread) = some i → i < final.shared.serviceTable.size) ∧
      (∀ info, pointing (final.threads thread) = some info →
        info.index < final.shared.serviceTable.size ∧
          ((final.shared.serviceTable.deref info).isSome ↔
            info.buffer = final.shared.serviceTable.buffer)) ∧
      (iterating (middle.threads thread) = true → iterating (final.threads thread) = true →
        StdVector.IteratorsValid middle.shared.serviceTable final.shared.serviceTable) := by
  have within := withinTable_run (runSteps_append.mpr ⟨middle, reached, goesOn⟩) thread
  refine ⟨fun i access => Nat.lt_of_lt_of_le (accessed_lt access) within, fun info points => ?_,
    fun loops still => ?_⟩
  · have inside := Nat.lt_of_lt_of_le (pointing_lt points) within
    refine ⟨inside, fun denotes => ?_, fun current => ?_⟩
    · by_contra moved
      rw [StdVector.deref, if_neg moved] at denotes
      cases denotes
    · rw [StdVector.deref_of_eq current, List.getElem?_eq_getElem inside]
      rfl
  · exact iteratorsValid_run (holderInside_run reached (along_before ⟨more, rfl⟩ clear)) goesOn
      (along_after reached clear) loops still

/-- **No deadlock.** In every state of a run without a trailing `unlock()`, a thread that cannot move
has returned, or it is at a `lock()` while another thread holds the mutex; that thread is the only one
in a guarded region, and can move. -/
theorem no_deadlock
    (reached : runSteps serverStep (ServerConfig.start binder task) schedule = some final)
    (clear : Along serverStep NoTrailingUnlock (ServerConfig.start binder task) schedule)
    {thread : T} (stuck : serverStep final thread = none) :
    returned (final.threads thread) = true ∨
      awaiting (final.threads thread) = true ∧ ∃ holder, holder ≠ thread ∧
        final.shared.serviceTableMutex = some holder ∧
        (∀ u, guarded (final.threads u) = true ↔ u = holder) ∧
        (serverStep final holder).isSome = true := by
  have within := withinTable_run reached
  by_cases open' : returned (final.threads thread) = true
  · exact Or.inl open'
  · have blocked : ¬ (awaiting (final.threads thread) = true →
        final.shared.serviceTableMutex = none) := by
      intro free
      obtain ⟨after, stepped⟩ := moves_of_within within (Bool.not_eq_true _ ▸ open') free
      cases stuck.symm.trans stepped
    push Not at blocked
    obtain ⟨waits, held⟩ := blocked
    obtain ⟨holder, held⟩ := Option.ne_none_iff_exists'.mp held
    have only : ∀ u, guarded (final.threads u) = true ↔ u = holder := by
      intro u
      rw [holderInside_run reached clear u, held, Option.some.injEq, eq_comm]
    have inside := (only holder).mpr rfl
    have outside := not_awaiting_of_guarded inside
    obtain ⟨after, stepped⟩ := moves_of_within within (not_returned_of_guarded inside) fun waits =>
      absurd waits (by rw [outside]; decide)
    refine Or.inr ⟨waits, holder, ?_, held, only, by rw [stepped]; rfl⟩
    rintro rfl
    cases outside.symm.trans waits

end Runs

/-! ### How far a thread is from its end -/

/-- The call has returned, or the worker's pass over the table is at its end. -/
def ended (size : ℕ) : Thread → Bool
  | .runStreamer (.loopTest i) => size ≤ i
  | mine => returned mine

def createStatements : CreatePc → ℕ
  | .debugClientIp => 12
  | .debugServerIp => 11
  | .debugPort => 10
  | .readClientIp => 9
  | .readPort _ => 8
  | .setup _ _ => 7
  | .run => 6

/-- A bound on the statements to the end of the pass, on a table of this size. -/
def workerStatements (size : ℕ) : WorkerPc → ℕ
  | .sleep => 20 * size + 1
  | .loopTest i => 20 * (size - i)
  | .checkStatus i => 20 * (size - (i + 1)) + 19
  | .lock i => 20 * (size - (i + 1)) + 18
  | .recheckStatus i => 20 * (size - (i + 1)) + 17
  | .unlockEarly i => 20 * (size - (i + 1)) + 16
  | .setStatus i => 20 * (size - (i + 1)) + 15
  | .takeInfo i => 20 * (size - (i + 1)) + 14
  | .callCreate i _ => 20 * (size - (i + 1)) + 13
  | .create i _ pc => 20 * (size - (i + 1)) + createStatements pc
  | .unlock i _ => 20 * (size - (i + 1)) + 5

/-- A bound on the statements that are left to the end of the call, or of the pass. -/
def statementsLeft (size : ℕ) : Thread → ℕ
  | .runStreamer pc => workerStatements size pc
  | .bind _ .debug => 9
  | .bind _ .setReply => 8
  | .bind _ (.setRecord _) => 7
  | .bind _ (.setLastSeen _ _) => 6
  | .bind _ (.lock _ _) => 5
  | .bind _ (.push _ _) => 4
  | .bind _ (.unlock _) => 3
  | .bind _ (.loadPort _) => 2
  | .bind _ (.storePort _ _) => 1
  | .bind _ (.returned _) => 0
  | .sendHeartbeat _ .lock => size + 6
  | .sendHeartbeat _ .first => size + 5
  | .sendHeartbeat _ (.scan i last) => (last - i) + 4
  | .sendHeartbeat _ (.readTimestamp _) => 3
  | .sendHeartbeat _ (.setLastSeen _ _) => 2
  | .sendHeartbeat _ .unlock => 1
  | .sendHeartbeat _ .returned => 0
  | .checkNodeFailure .lock => 2 * size + 5
  | .checkNodeFailure .first => 2 * size + 4
  | .checkNodeFailure (.readTimestamp i _) => 2 * (size - i) + 3
  | .checkNodeFailure (.readLastSeen i _ _) => 2 * (size - i) + 2
  | .checkNodeFailure (.unlock _) => 1
  | .checkNodeFailure (.returned _) => 0
  | .updateTimestamp _ done => if done then 0 else 1

/-- **Each statement of a thread brings it nearer to its end**, when the table has what it may
read. -/
theorem statementsLeft_move {binder : ServerBinder} {mine mine' : Thread} {operation : Operation}
    (move : Move binder mine operation mine') (reach : reaches mine ≤ binder.serviceTable.size)
    (open' : ended binder.serviceTable.size mine = false) :
    statementsLeft binder.serviceTable.size mine' < statementsLeft binder.serviceTable.size mine := by
  cases move with
  | loopExit outside => simp [ended, Nat.le_of_not_lt outside] at open'
  | loopEnter inside =>
    simp only [statementsLeft, workerStatements]
    omega
  | checkRecent =>
    have inside := Nat.lt_of_lt_of_le (Nat.le_max_left _ _) reach
    simp only [statementsLeft]
    omega
  | _ =>
    simp only [statementsLeft, workerStatements, createStatements]
    grind

theorem ended_of_returned {size : ℕ} {mine : Thread} (done : returned mine = true) :
    ended size mine = true := by
  unfold ended
  split
  · cases done
  · exact done

theorem not_ended_of_guarded {size : ℕ} {mine : Thread} (inside : guarded mine = true) :
    ended size mine = false := by
  have open' := not_returned_of_guarded inside
  unfold ended
  split
  · cases inside
  · exact open'

/-- What a thread was started for. -/
def taskOf : Thread → Task
  | .runStreamer _ => .runStreamer
  | .bind inAddr _ => .bind inAddr
  | .sendHeartbeat bindInfo _ => .sendHeartbeat bindInfo
  | .checkNodeFailure _ => .checkNodeFailure
  | .updateTimestamp now _ => .updateTimestamp now

theorem taskOf_move {binder : ServerBinder} {mine mine' : Thread} {operation : Operation}
    (move : Move binder mine operation mine') : taskOf mine' = taskOf mine := by
  cases move <;> rfl

theorem taskOf_start (task : Task) : taskOf task.start = task := by
  cases task <;> rfl

theorem not_trailing_of_guarded {mine : Thread} (inside : guarded mine = true) :
    trailingUnlock mine = false := by
  unfold trailingUnlock
  split
  · simpa [guarded] using inside
  · rfl

/-- Only workers make the trailing `unlock()`. -/
theorem not_trailing_of_task {mine : Thread} (call : taskOf mine ≠ .runStreamer) :
    trailingUnlock mine = false := by
  unfold trailingUnlock
  split
  · exact (call rfl).elim
  · rfl

section Alone

variable {T : Type}

/-- A thread that is not kept from moving: what it may read is there, and the mutex is free unless
the thread itself is inside a guarded region. -/
def Unhindered (shared : Shared T) (mine : Thread) : Prop :=
  reaches mine ≤ shared.serviceTable.size ∧
    (shared.serviceTableMutex = none ∨ guarded mine = true)

theorem unhindered_move {shared : Shared T} {mine : Thread} (thread : T)
    (unhindered : Unhindered shared mine)
    (open' : ended shared.serviceTable.size mine = false) :
    ∃ operation mine' shared', server.next shared mine = some (operation, mine') ∧
      server.apply thread operation shared = some shared' ∧ Unhindered shared' mine' ∧
      taskOf mine' = taskOf mine ∧
      statementsLeft shared'.serviceTable.size mine' <
        statementsLeft shared.serviceTable.size mine := by
  obtain ⟨reach, freed⟩ := unhindered
  have notReturned : returned mine = false := by
    by_contra done
    rw [ended_of_returned (Bool.not_eq_false _ ▸ done)] at open'
    cases open'
  obtain ⟨operation, mine', chosen⟩ := next_of_reaches reach notReturned
  have move := move_of_next chosen
  obtain ⟨shared', applied⟩ := apply_of_free thread operation shared fun locks => by
    refine freed.resolve_right fun inside => ?_
    have outside := not_awaiting_of_guarded inside
    rw [awaiting_of_lock (locks ▸ move)] at outside
    cases outside
  have grows := size_apply applied
  refine ⟨operation, mine', shared', chosen, applied,
    ⟨((reaches_move move).elim (fun less => less.trans reach) id).trans grows,
      freed_or_guarded_move move applied freed⟩, taskOf_move move, ?_⟩
  have lower := statementsLeft_move move reach open'
  by_cases push : ∃ newService, operation = .pushBack newService
  · obtain ⟨newService, rfl⟩ := push
    cases move
    exact lower
  · push Not at push
    rw [size_eq_apply applied push]
    exact lower

variable [DecidableEq T] {config : ServerConfig T} {thread : T}

/-- The holder alone gives the mutex back, with the `unlock()` that belongs to its `lock()`. -/
theorem release_alone
    (reach : reaches (config.threads thread) ≤ config.shared.serviceTable.size)
    (inside : guarded (config.threads thread) = true) :
    ∃ turns final, runSteps serverStep config turns = some final ∧
      Along serverStep NoTrailingUnlock config turns ∧ final.shared.serviceTableMutex = none := by
  obtain ⟨turns, final, reached, along, ⟨_, freed⟩, outside⟩ := alone_leaves server thread
    Unhindered (fun _ mine => guarded mine = true)
    (fun shared => statementsLeft shared.serviceTable.size)
    (fun shared mine unhindered inside => by
      obtain ⟨operation, mine', shared', chosen, applied, kept, _, lower⟩ :=
        unhindered_move thread unhindered (not_ended_of_guarded inside)
      exact ⟨operation, mine', shared', chosen, applied, kept, fun _ => lower⟩)
    (⟨reach, Or.inr inside⟩ : Unhindered config.shared (config.threads thread))
  exact ⟨turns, final, reached,
    along_mono (fun _ _ within => not_trailing_of_guarded within.2.2) along,
    freed.resolve_right outside⟩

/-- A thread alone gets to its end, once the mutex is free. -/
theorem end_alone (reach : reaches (config.threads thread) ≤ config.shared.serviceTable.size)
    (free : config.shared.serviceTableMutex = none) :
    ∃ turns final, runSteps serverStep config turns = some final ∧
      Along serverStep (fun state label =>
        taskOf (state.threads label) = taskOf (config.threads thread)) config turns ∧
      ended final.shared.serviceTable.size (final.threads thread) = true := by
  obtain ⟨turns, final, reached, along, _, outside⟩ := alone_leaves server thread
    (fun shared mine => Unhindered shared mine ∧ taskOf mine = taskOf (config.threads thread))
    (fun shared mine => ended shared.serviceTable.size mine = false)
    (fun shared => statementsLeft shared.serviceTable.size)
    (fun shared mine holds open' => by
      obtain ⟨operation, mine', shared', chosen, applied, kept, same, lower⟩ :=
        unhindered_move thread holds.1 open'
      exact ⟨operation, mine', shared', chosen, applied, ⟨kept, same.trans holds.2⟩,
        fun _ => lower⟩)
    (⟨⟨reach, Or.inl free⟩, rfl⟩ : Unhindered config.shared (config.threads thread) ∧
      taskOf (config.threads thread) = taskOf (config.threads thread))
  exact ⟨turns, final, reached, along_mono (fun _ _ within => within.2.1.2) along,
    Bool.eq_true_of_not_eq_false outside⟩

end Alone

/-! ### Every thread can get to its end -/

section Ends

variable {T : Type} [DecidableEq T] {binder : ServerBinder} {task : T → Task} {schedule : List T}
  {final : ServerConfig T}

theorem taskOf_run
    (reached : runSteps serverStep (ServerConfig.start binder task) schedule = some final)
    (thread : T) : taskOf (final.threads thread) = task thread := by
  refine run_invariant (I := fun config => taskOf (config.threads thread) = task thread)
    (fun config label after same stepped => ?_) reached (taskOf_start (task thread))
  obtain ⟨operation, mine', move, applied, mine, others⟩ := serverStep_cases stepped
  exact (reading_unchanged taskOf mine others (taskOf_move move) thread).trans same

/-- From every reachable state the mutex can be freed. -/
theorem can_free
    (reached : runSteps serverStep (ServerConfig.start binder task) schedule = some final) :
    ∃ more after, runSteps serverStep final more = some after ∧
      Along serverStep NoTrailingUnlock final more ∧ after.shared.serviceTableMutex = none := by
  cases held : final.shared.serviceTableMutex with
  | none => exact ⟨[], final, rfl, trivial, held⟩
  | some holder =>
    exact release_alone (withinTable_run reached holder) (holderGuarded_run reached holder held)

/-- **Every thread can get to its end** from every reachable state, and a call without a trailing
`unlock()` on the way. -/
theorem can_end
    (reached : runSteps serverStep (ServerConfig.start binder task) schedule = some final)
    (thread : T) :
    ∃ more after, runSteps serverStep (ServerConfig.start binder task) (schedule ++ more) =
        some after ∧
      runSteps serverStep final more = some after ∧
      (task thread ≠ .runStreamer → Along serverStep NoTrailingUnlock final more) ∧
      ended after.shared.serviceTable.size (after.threads thread) = true := by
  obtain ⟨first, middle, frees, clear, free⟩ := can_free reached
  have reaches := runSteps_append.mpr ⟨final, reached, frees⟩
  obtain ⟨turns, after, runs, along, ends⟩ := end_alone (withinTable_run reaches thread) free
  have goesOn := runSteps_append.mpr ⟨middle, frees, runs⟩
  refine ⟨first ++ turns, after, runSteps_append.mpr ⟨final, reached, goesOn⟩, goesOn,
    fun call => along_append frees clear (along_mono (fun state label same => ?_) along), ends⟩
  refine not_trailing_of_task fun worker => call ?_
  rw [← taskOf_run reaches thread, ← same, worker]

/-- **Every call can return.** In every run without a trailing `unlock()` there is a way to go on,
without one either, in which the call returns. -/
theorem calls_can_return
    (reached : runSteps serverStep (ServerConfig.start binder task) schedule = some final)
    (clear : Along serverStep NoTrailingUnlock (ServerConfig.start binder task) schedule)
    {thread : T} (call : task thread ≠ .runStreamer) :
    ∃ more after, runSteps serverStep final more = some after ∧
      Along serverStep NoTrailingUnlock (ServerConfig.start binder task) (schedule ++ more) ∧
      returned (after.threads thread) = true := by
  obtain ⟨more, after, reaches, goesOn, steady, ends⟩ := can_end reached thread
  refine ⟨more, after, goesOn, along_append reached clear (steady call), ?_⟩
  have kind := taskOf_run reaches thread
  cases place : after.threads thread with
  | runStreamer pc =>
    rw [place] at kind
    exact (call kind.symm).elim
  | _ =>
    rw [place] at ends
    exact ends

variable {ip : String} {port now : Int} {growth : ℕ → ℕ}

/-- **No request is stranded.** From every reachable state in which there is a worker there is a way
to go on after which every entry of the table is `activated`, those of the state with it. -/
theorem pending_can_activate
    (reached : runSteps serverStep (ServerConfig.start (.new ip port now growth) task) schedule =
      some final)
    {worker : T} (works : task worker = .runStreamer) :
    ∃ more after, runSteps serverStep final more = some after ∧
      final.shared.serviceTable.entries.map ServiceInfo.bindInfo <+:
        after.shared.serviceTable.entries.map ServiceInfo.bindInfo ∧
      ∀ entry ∈ after.shared.serviceTable.entries, entry.status = .activated := by
  obtain ⟨more, after, reaches, goesOn, _, ends⟩ := can_end reached worker
  refine ⟨more, after, goesOn, ⟨_, (bindings_run goesOn).symm⟩, fun entry member => ?_⟩
  have knows := run_invariant (fun _ _ _ => scanning_step) reaches
    ⟨noneToActivate_new ip port now growth, fun u => scanKnows_start _ (task u)⟩
  have kind := (taskOf_run reaches worker).trans works
  obtain ⟨j, below, found⟩ := List.mem_iff_getElem.mp member
  have passed : statusAt after.shared.toServerBinder j = some .activated := by
    refine (knows.2 worker).passed j ?_
    cases place : after.threads worker with
    | runStreamer pc =>
      rw [place] at ends
      cases pc with
      | loopTest i => exact Nat.lt_of_lt_of_le below (of_decide_eq_true ends)
      | _ => cases ends
    | _ =>
      rw [place] at kind
      cases kind
  rw [statusAt_of_entry (List.getElem?_eq_some_iff.mpr ⟨below, found⟩)] at passed
  exact Option.some.inj passed

end Ends

/-! ### A run on which a call waits -/

inductive Party
  | client
  | worker
  | holding
  | waiting
  deriving DecidableEq

/-- A client, a worker, and two calls of `check_node_failure`. -/
def partyTasks : Party → Task
  | .client => .bind "10.0.0.1"
  | .worker => .runStreamer
  | .holding => .checkNodeFailure
  | .waiting => .checkNodeFailure

/-- The client binds, the worker takes the address of the entry, and the first call of
`check_node_failure` starts its loop. -/
def loopStarts : List Party :=
  List.replicate 9 .client ++ List.replicate 8 .worker ++ List.replicate 2 .holding

/-- The worker calls `create_streamer`, and the loop goes on to its first read. -/
def loopGoesOn : List Party := [.worker, .holding, .worker]

theorem accesses_in_bounds_insideLoop :
    ∃ middle final : ServerConfig Party,
      runSteps serverStep (ServerConfig.start (.new "0.0.0.0" 3000 0 (2 * ·)) partyTasks) loopStarts =
          some middle ∧
      runSteps serverStep middle loopGoesOn = some final ∧
      accessed (final.threads .holding) = some 0 ∧ 0 < final.shared.serviceTable.size ∧
      pointing (final.threads .worker) = some ⟨1, 0⟩ ∧
      (final.shared.serviceTable.deref ⟨1, 0⟩).isSome = true ∧
      StdVector.IteratorsValid middle.shared.serviceTable final.shared.serviceTable := by
  have ends : ((runSteps serverStep
      (ServerConfig.start (.new "0.0.0.0" 3000 0 (2 * ·)) partyTasks) loopStarts).bind
        fun middle => (runSteps serverStep middle loopGoesOn).map fun final =>
          (middle.threads .holding, final.threads .holding, final.threads .worker,
            final.shared.serviceTable.buffer)) =
      some (.checkNodeFailure (.readTimestamp 0 1), .checkNodeFailure (.readLastSeen 0 1 0),
        .runStreamer (.create 0 ⟨1, 0⟩ .debugServerIp), 1) := by decide
  obtain ⟨middle, reached, ends⟩ := Option.bind_eq_some_iff.mp ends
  obtain ⟨final, goesOn, same⟩ := Option.map_eq_some_iff.mp ends
  simp only [Prod.mk.injEq] at same
  obtain ⟨starts, loops, points, buffer⟩ := same
  have clear : Along serverStep NoTrailingUnlock
      (ServerConfig.start (.new "0.0.0.0" 3000 0 (2 * ·)) partyTasks) (loopStarts ++ loopGoesOn) := by
    decide
  obtain ⟨inside, _, valid⟩ := accesses_in_bounds reached goesOn clear .holding
  obtain ⟨_, denotes, _⟩ := accesses_in_bounds reached goesOn clear .worker
  rw [starts, loops] at valid
  rw [loops] at inside
  rw [points] at denotes
  refine ⟨middle, final, reached, goesOn, by rw [loops]; rfl, inside 0 rfl, by rw [points]; rfl, ?_,
    valid rfl rfl⟩
  exact (denotes ⟨1, 0⟩ rfl).2.mpr buffer.symm

/-- The client binds, the first call of `check_node_failure` takes the lock, and the second waits. -/
def waitingSchedule : List Party := List.replicate 9 .client ++ List.replicate 3 .holding

/-- The state this run ends in. -/
theorem waiting_reached :
    ∃ final, runSteps serverStep
        (ServerConfig.start (.new "0.0.0.0" 3000 0 (2 * ·)) partyTasks) waitingSchedule =
          some final ∧
      final.threads .holding = .checkNodeFailure (.readLastSeen 0 1 0) ∧
      final.threads .waiting = .checkNodeFailure .lock ∧ final.shared.serviceTableMutex = some .holding ∧
      (final.shared.serviceTable.entries.map (·.status)) = [.nonActivated] := by
  have ends : (runSteps serverStep
      (ServerConfig.start (.new "0.0.0.0" 3000 0 (2 * ·)) partyTasks) waitingSchedule).map
        (fun final => (final.threads .holding, final.threads .waiting, final.shared.serviceTableMutex,
          final.shared.serviceTable.entries.map (·.status))) =
      some (.checkNodeFailure (.readLastSeen 0 1 0), .checkNodeFailure .lock, some .holding,
        [.nonActivated]) := by decide
  obtain ⟨final, reached, same⟩ := Option.map_eq_some_iff.mp ends
  simp only [Prod.mk.injEq] at same
  exact ⟨final, reached, same⟩

theorem no_deadlock_waiting :
    ∃ final : ServerConfig Party,
      runSteps serverStep (ServerConfig.start (.new "0.0.0.0" 3000 0 (2 * ·)) partyTasks)
          waitingSchedule = some final ∧
      serverStep final .waiting = none ∧
      ∃ holder, holder ≠ .waiting ∧ final.shared.serviceTableMutex = some holder ∧
        (serverStep final holder).isSome = true := by
  obtain ⟨final, reached, _, waits, held, _⟩ := waiting_reached
  have stuck : serverStep final .waiting = none := by
    have chosen : server.next final.shared (final.threads .waiting) =
        some (Operation.lock, Thread.checkNodeFailure .first) := by
      rw [waits]
      rfl
    have blocked : final.shared.apply Party.waiting .lock = none := by
      simp only [Shared.apply, held]
    show (server.next final.shared (final.threads .waiting)).bind _ = none
    rw [chosen]
    show (final.shared.apply Party.waiting .lock).map _ = none
    rw [blocked]
    rfl
  refine ⟨final, reached, stuck, ?_⟩
  rcases no_deadlock reached (by decide) stuck with done | ⟨_, holder, other, holds, _, moves⟩
  · rw [waits] at done
    cases done
  · exact ⟨holder, other, holds, moves⟩

theorem calls_can_return_waiting :
    ∃ (final : ServerConfig Party) (more : List Party) (after : ServerConfig Party),
      runSteps serverStep (ServerConfig.start (.new "0.0.0.0" 3000 0 (2 * ·)) partyTasks)
          waitingSchedule = some final ∧
      returned (final.threads .waiting) = false ∧ runSteps serverStep final more = some after ∧
      returned (after.threads .waiting) = true := by
  obtain ⟨final, reached, _, waits, _⟩ := waiting_reached
  obtain ⟨more, after, goesOn, _, done⟩ := calls_can_return reached (by decide)
    (show partyTasks .waiting ≠ .runStreamer by decide)
  exact ⟨final, more, after, reached, by rw [waits]; rfl, goesOn, done⟩

theorem pending_can_activate_waiting :
    ∃ (final : ServerConfig Party) (more : List Party) (after : ServerConfig Party),
      runSteps serverStep (ServerConfig.start (.new "0.0.0.0" 3000 0 (2 * ·)) partyTasks)
          waitingSchedule = some final ∧
      statusAt final.shared.toServerBinder 0 = some .nonActivated ∧
      runSteps serverStep final more = some after ∧
      ∀ entry ∈ after.shared.serviceTable.entries, entry.status = .activated := by
  obtain ⟨final, reached, _, _, _, pending⟩ := waiting_reached
  obtain ⟨more, after, goesOn, _, activated⟩ := pending_can_activate reached
    (show partyTasks .worker = .runStreamer from rfl)
  refine ⟨final, more, after, reached, ?_, goesOn, activated⟩
  unfold statusAt
  rw [← List.getElem?_map, pending]
  rfl

end GstPipeline.Binder
