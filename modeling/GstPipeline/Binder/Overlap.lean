/-
**A check for failed nodes while the clock ticks and heartbeats come.**

`check_node_failure` reads the timestamp once for each entry, and `update_timestamp` writes it without
the mutex. So one call can compare its entries with different timestamps, and the sequential server
of `GstPipeline.Binder.Atomic`, which takes a call as a whole, is no account of it. But the clock does
not go back, and the call holds the mutex, so that no heartbeat and no `bind` changes what it reads.

* `TimesOrdered`: no `last_seen` in the table or in the hands of a thread is later than the timestamp.
* `Between`: what the call has seen, against the timestamp at its start and the timestamp now.
* `lastSeen_grows`: no heartbeat overwrites a later one, so `last_seen` never goes back.
* `check_between`: a call that answers that a node failed is right when it gives the mutex back, and
  one that answers that none failed was right when it took the mutex.

Clock values are nonnegative and fit in 32 bits, so that differences of timestamps are exact.
-/

import GstPipeline.Binder.Atomic

namespace GstPipeline.Binder

open GstPipeline.Lib

/-! ### Times -/

/-- The times that a thread has read and has yet to use. -/
def heldTimes : Thread → List Int
  | .bind _ (.lock _ newService) => [newService.lastSeen]
  | .bind _ (.push _ newService) => [newService.lastSeen]
  | .sendHeartbeat _ (.setLastSeen _ timestamp) => [timestamp]
  | .checkNodeFailure (.readLastSeen _ _ timestamp) => [timestamp]
  | _ => []

/-- The time is one that the clock has shown. -/
def Shown (timestamp time : Int) : Prop := 0 ≤ time ∧ time ≤ timestamp

theorem shown_later {timestamp later time : Int} (shown : Shown timestamp time)
    (grows : timestamp ≤ later) : Shown later time := ⟨shown.1, shown.2.trans grows⟩

/-- **No time is ahead of the clock.** -/
structure TimesOrdered {T : Type} (config : ServerConfig T) : Prop where
  nonneg : 0 ≤ config.shared.timestamp
  fits : InInt32 config.shared.timestamp
  table : ∀ seen ∈ config.shared.heard, Shown config.shared.timestamp seen.2
  held : ∀ u, ∀ time ∈ heldTimes (config.threads u), Shown config.shared.timestamp time

/-- What the thread is about to write to the timestamp. -/
def ticksTo : Thread → Option Int
  | .updateTimestamp now false => some now
  | _ => none

/-- If the thread's next step writes the timestamp, the clock did not go back, and fits 32 bits. -/
def ClockForward {T : Type} (config : ServerConfig T) (thread : T) : Prop :=
  ∀ now ∈ ticksTo (config.threads thread), config.shared.timestamp ≤ now ∧ InInt32 now

instance {T : Type} (config : ServerConfig T) (thread : T) :
    Decidable (ClockForward config thread) :=
  inferInstanceAs (Decidable (∀ now ∈ ticksTo (config.threads thread), _ ∧ _))

section Moves

variable {T : Type} {thread : T} {operation : Operation} {shared after : Shared T}
  {mine mine' : Thread}

/-- A thread reads times from the clock only. -/
theorem heldTimes_move {binder : ServerBinder} (move : Move binder mine operation mine')
    {time : Int} (held : time ∈ heldTimes mine') :
    time ∈ heldTimes mine ∨ time = binder.timestamp := by
  cases move <;> simp_all [heldTimes]

theorem held_of_append {binder : ServerBinder} {newService : ServiceInfo}
    (move : Move binder mine (.pushBack newService) mine') :
    newService.lastSeen ∈ heldTimes mine := by
  cases move
  exact List.mem_singleton_self _

theorem held_of_seen {binder : ServerBinder} {i : ℕ} {timestamp : Int}
    (move : Move binder mine (.setLastSeen i timestamp) mine') : timestamp ∈ heldTimes mine := by
  cases move
  exact List.mem_singleton_self _

theorem writer_of_seen {binder : ServerBinder} {i : ℕ} {timestamp : Int}
    (move : Move binder mine (.setLastSeen i timestamp) mine') :
    ∃ bindInfo, mine = .sendHeartbeat bindInfo (.setLastSeen i timestamp) := by
  cases move
  exact ⟨_, rfl⟩

/-- What a thread hears in the table, it heard before or was just written. -/
theorem heard_cases (applied : shared.apply thread operation = some after) {seen : String × Int}
    (member : seen ∈ after.heard) :
    seen ∈ shared.heard ∨ (∃ newService, operation = .pushBack newService ∧
        seen.2 = newService.lastSeen) ∨ ∃ i timestamp, operation = .setLastSeen i timestamp ∧
        seen.2 = timestamp := by
  cases operation with
  | pushBack newService =>
    cases applied
    rw [ServerBinder.heard, StdVector.entries_pushBack, List.map_append] at member
    rcases List.mem_append.mp member with before | last
    · exact Or.inl before
    · rw [List.map_singleton, List.mem_singleton] at last
      exact Or.inr (Or.inl ⟨newService, rfl, by rw [last]⟩)
  | setLastSeen i timestamp =>
    cases applied
    obtain ⟨entry, inside, rfl⟩ := List.mem_map.mp member
    rw [StdVector.entries_modifyAt] at inside
    obtain ⟨j, below, rfl⟩ := List.mem_iff_getElem.mp inside
    rw [List.getElem_modify]
    split
    · exact Or.inr (Or.inr ⟨i, timestamp, rfl, rfl⟩)
    · rw [List.length_modify] at below
      exact Or.inl (List.mem_map_of_mem (List.getElem_mem below))
  | _ =>
    exact Or.inl (heard_apply applied (fun _ same => by cases same)
      (fun _ _ same => by cases same) ▸ member)

theorem timestamp_store {timestamp : Int}
    (applied : shared.apply thread (.storeTimestamp timestamp) = some after) :
    after.timestamp = timestamp := by
  cases applied
  rfl

theorem tick_cases {binder : ServerBinder} {timestamp : Int}
    (move : Move binder mine (.storeTimestamp timestamp) mine') :
    ∃ now ∈ ticksTo mine, timestamp = toInt32 now := by
  cases move
  exact ⟨_, rfl, rfl⟩

end Moves

section Steps

variable {T : Type} [DecidableEq T] {config after : ServerConfig T} {thread : T}

/-- The clock after a step. -/
theorem timestamp_step (forward : ClockForward config thread) (fits : InInt32 config.shared.timestamp)
    (stepped : serverStep config thread = some after) :
    config.shared.timestamp ≤ after.shared.timestamp ∧ InInt32 after.shared.timestamp := by
  obtain ⟨operation, mine', move, applied, _, _⟩ := serverStep_cases stepped
  by_cases tick : ∃ timestamp, operation = .storeTimestamp timestamp
  · obtain ⟨timestamp, rfl⟩ := tick
    obtain ⟨now, next, rfl⟩ := tick_cases move
    obtain ⟨grows, fitsToo⟩ := forward now next
    rw [timestamp_store applied, toInt32_eq_self fitsToo]
    exact ⟨grows, fitsToo⟩
  · rw [timestamp_apply applied fun timestamp same => tick ⟨timestamp, same⟩]
    exact ⟨le_rfl, fits⟩

theorem timesOrdered_step (times : TimesOrdered config) (forward : ClockForward config thread)
    (stepped : serverStep config thread = some after) : TimesOrdered after := by
  obtain ⟨grows, fits⟩ := timestamp_step forward times.fits stepped
  obtain ⟨operation, mine', move, applied, mine, others⟩ := serverStep_cases stepped
  have older : ∀ time, Shown config.shared.timestamp time → Shown after.shared.timestamp time :=
    fun time shown => shown_later shown grows
  have mineHeld := times.held thread
  refine ⟨times.nonneg.trans grows, fits, fun seen member => older _ ?_, fun u time held => ?_⟩
  · rcases heard_cases applied member with before | ⟨newService, rfl, same⟩ | ⟨i, timestamp, rfl, same⟩
    · exact times.table seen before
    · exact same ▸ mineHeld _ (held_of_append move)
    · exact same ▸ mineHeld _ (held_of_seen move)
  · by_cases here : u = thread
    · rw [here, mine] at held
      rcases heldTimes_move move held with before | rfl
      · exact older time (mineHeld time before)
      · exact older _ ⟨times.nonneg, le_rfl⟩
    · rw [others u here] at held
      exact older time (times.held u time held)

omit [DecidableEq T] in
theorem timesOrdered_start {ip : String} {port now : Int} {growth : ℕ → ℕ} {task : T → Task}
    (nonneg : 0 ≤ now) (fits : InInt32 now) :
    TimesOrdered (ServerConfig.start (.new ip port now growth) task) where
  nonneg := by
    show 0 ≤ toInt32 now
    rwa [toInt32_eq_self fits]
  fits := by
    show InInt32 (toInt32 now)
    rwa [toInt32_eq_self fits]
  table := nofun
  held u time held := by
    have none' : heldTimes (task u).start = [] := by cases task u <;> rfl
    rw [show (ServerConfig.start (.new ip port now growth) task).threads u = (task u).start from rfl,
      none'] at held
    cases held

end Steps

/-! ### What the call has seen -/

/-- What a call of `check_node_failure` has seen of the table it found, when it took the mutex at the
timestamp `since`. -/
def Between (since : Int) (found : List (String × Int)) (binder : ServerBinder) : Thread → Prop
  | .checkNodeFailure .first => binder.heard = found
  | .checkNodeFailure (.readTimestamp i last) =>
    binder.heard = found ∧ last = found.length ∧
      ∀ seen ∈ found.take i, since - seen.2 ≤ failureTimelimit
  | .checkNodeFailure (.readLastSeen i last timestamp) =>
    binder.heard = found ∧ (last = found.length ∧
      ∀ seen ∈ found.take i, since - seen.2 ≤ failureTimelimit) ∧ since ≤ timestamp
  | .checkNodeFailure (.unlock true) =>
    binder.heard = found ∧ ∃ seen ∈ found, failureTimelimit < binder.timestamp - seen.2
  | .checkNodeFailure (.unlock false) =>
    binder.heard = found ∧ ∀ seen ∈ found, since - seen.2 ≤ failureTimelimit
  | .checkNodeFailure (.returned _) => True
  | _ => False

section Between

variable {since : Int} {found : List (String × Int)} {binder after : ServerBinder}

/-- It stays while the clock goes forward, and the table stays as long as the call has the mutex. -/
theorem between_congr {mine : Thread} (between : Between since found binder mine)
    (grows : binder.timestamp ≤ after.timestamp)
    (table : guarded mine = true → after.heard = binder.heard) : Between since found after mine := by
  cases mine with
  | checkNodeFailure pc =>
    cases pc with
    | lock => exact between
    | first => exact (table rfl).trans between
    | readTimestamp i last => exact ⟨(table rfl).trans between.1, between.2⟩
    | readLastSeen i last timestamp => exact ⟨(table rfl).trans between.1, between.2⟩
    | unlock result =>
      cases result with
      | true =>
        obtain ⟨same, seen, member, overdue⟩ := between
        exact ⟨(table rfl).trans same, seen, member, by omega⟩
      | false => exact ⟨(table rfl).trans between.1, between.2⟩
    | returned result => trivial
  | _ => exact between

variable {T : Type} {config : ServerConfig T} {thread : T} {operation : Operation} {mine' : Thread}

/-- Differences of times that the clock has shown are exact. -/
theorem difference_exact (times : TimesOrdered config) {time seen : Int}
    (shown : Shown config.shared.timestamp time) (shownToo : Shown config.shared.timestamp seen) :
    toInt32 (time - seen) = time - seen := by
  have fits : ∀ {time}, Shown config.shared.timestamp time → InInt32 time := by
    rintro time ⟨low, high⟩
    obtain ⟨_, below⟩ := times.fits
    exact ⟨by omega, by omega⟩
  exact toInt32_sub (fits shown) (fits shownToo) shown.1 shownToo.1

/-- The entry at an index is heard. -/
theorem heard_of_found {i : ℕ} {entry : ServiceInfo}
    (here : binder.serviceTable.entries[i]? = some entry) :
    binder.heard[i]? = some (entry.clientIp, entry.lastSeen) := by
  rw [ServerBinder.heard, List.getElem?_map, here]
  rfl

/-- **The call's own statement** compares one entry more. -/
theorem between_move (times : TimesOrdered config) (started : since ≤ config.shared.timestamp)
    (between : Between since found config.shared.toServerBinder (config.threads thread))
    (move : Move config.shared.toServerBinder (config.threads thread) operation mine') :
    Between since found config.shared.toServerBinder mine' := by
  have held := times.held thread
  generalize config.threads thread = mine at between move held
  cases move with
  | checkFirst =>
    have size : config.shared.serviceTable.size = found.length := by
      rw [← between]
      exact (List.length_map _).symm
    exact ⟨between, size, fun seen member => by simp at member⟩
  | checkTimestamp inside => exact ⟨between.1, between.2, started⟩
  | checkDone outside =>
    obtain ⟨same, rfl, recent⟩ := between
    rw [List.take_of_length_le (Nat.le_of_not_lt outside)] at recent
    exact ⟨same, recent⟩
  | @checkOverdue i last timestamp entry here overdue =>
    obtain ⟨same, _, _⟩ := between
    have shown : Shown config.shared.timestamp timestamp := held _ (List.mem_singleton_self _)
    have heard := List.mem_of_getElem? (heard_of_found here)
    rw [difference_exact times shown (times.table _ heard)] at overdue
    have later := shown.2
    exact ⟨same, _, same ▸ heard, by simp only; omega⟩
  | @checkRecent i last timestamp entry here recent =>
    obtain ⟨same, ⟨size, before⟩, later⟩ := between
    have shown : Shown config.shared.timestamp timestamp := held _ (List.mem_singleton_self _)
    have heard := heard_of_found here
    rw [difference_exact times shown (times.table _ (List.mem_of_getElem? heard))] at recent
    refine ⟨same, size, fun seen member => ?_⟩
    rw [List.take_add_one, ← same, heard] at member
    rcases List.mem_append.mp member with earlier | last'
    · exact before seen (same ▸ earlier)
    · rw [List.mem_singleton.mp last']
      simp only
      omega
  | checkUnlock => trivial
  | _ => exact between.elim

/-- The call writes no time to the table. -/
theorem quiet_of_between {mine : Thread} (between : Between since found binder mine)
    (move : Move binder mine operation mine') :
    (∀ newService, operation ≠ .pushBack newService) ∧
      ∀ i timestamp, operation ≠ .setLastSeen i timestamp := by
  cases move with
  | bindPush | heartbeatSet => exact between.elim
  | _ => exact ⟨(fun _ same => by cases same), (fun _ _ same => by cases same)⟩

end Between

/-! ### Runs -/

section Runs

variable {T : Type} [DecidableEq T]

/-- The thread's next step is no trailing unlock, and does not turn the clock back. -/
def CheckClear (config : ServerConfig T) (thread : T) : Prop :=
  NoTrailingUnlock config thread ∧ ClockForward config thread

instance (config : ServerConfig T) (thread : T) : Decidable (CheckClear config thread) :=
  inferInstanceAs (Decidable (_ ∧ _))

/-- The call of `caller` against what it found, with what it rests on. -/
structure Watching (caller : T) (since : Int) (found : List (String × Int))
    (config : ServerConfig T) : Prop where
  inside : HolderInside config
  times : TimesOrdered config
  started : since ≤ config.shared.timestamp
  between : Between since found config.shared.toServerBinder (config.threads caller)

variable {config after : ServerConfig T} {thread caller : T} {since : Int}
  {found : List (String × Int)}

/-- Who writes a time to the table holds the mutex; so no other thread does while one is inside. -/
theorem heard_step_other (inside : HolderInside config) {u : T}
    (region : guarded (config.threads u) = true) (other : u ≠ thread)
    (stepped : serverStep config thread = some after) :
    after.shared.heard = config.shared.heard := by
  obtain ⟨operation, mine', move, applied, _, _⟩ := serverStep_cases stepped
  have alone : guarded (config.threads thread) ≠ true := fun both =>
    other (Option.some.inj (((inside u).mp region).symm.trans ((inside thread).mp both)))
  exact heard_apply applied (fun newService same => alone (guarded_of_push (same ▸ move)))
    (fun i timestamp same => alone (guarded_of_seen (same ▸ move)))

theorem watching_step (watching : Watching caller since found config)
    (clear : CheckClear config thread) (stepped : serverStep config thread = some after) :
    Watching caller since found after := by
  obtain ⟨inside, times, started, between⟩ := watching
  obtain ⟨grows, _⟩ := timestamp_step clear.2 times.fits stepped
  refine ⟨holderInside_step inside clear.1 stepped, timesOrdered_step times clear.2 stepped,
    started.trans grows, ?_⟩
  obtain ⟨operation, mine', move, applied, mine, others⟩ := serverStep_cases stepped
  by_cases here : caller = thread
  · rw [← here] at move mine
    have quiet := quiet_of_between between move
    rw [mine]
    exact between_congr (between_move times started between move) grows
      fun _ => heard_apply applied quiet.1 quiet.2
  · rw [others caller here]
    exact between_congr between grows fun region => heard_step_other inside region here stepped

omit [DecidableEq T] in
/-- What `check_node_failure` would answer to a server in which no time is ahead of the clock. -/
theorem checkNodeFailure_iff_heard (times : TimesOrdered config) :
    config.shared.checkNodeFailure = true ↔
      ∃ seen ∈ config.shared.heard, failureTimelimit < config.shared.timestamp - seen.2 := by
  have now : Shown config.shared.timestamp config.shared.timestamp := ⟨times.nonneg, le_rfl⟩
  rw [ServerBinder.checkNodeFailure, anyOverdue_eq_any, List.any_eq_true]
  constructor
  · rintro ⟨time, listed, overdue⟩
    obtain ⟨entry, member, rfl⟩ := List.mem_map.mp listed
    have heard : (entry.clientIp, entry.lastSeen) ∈ config.shared.heard :=
      List.mem_map_of_mem member
    refine ⟨_, heard, ?_⟩
    rw [← difference_exact times now (times.table _ heard)]
    exact of_decide_eq_true overdue
  · rintro ⟨seen, heard, overdue⟩
    rw [← difference_exact times now (times.table _ heard)] at overdue
    obtain ⟨entry, member, rfl⟩ := List.mem_map.mp heard
    exact ⟨_, List.mem_map_of_mem member, decide_eq_true overdue⟩

/-! ### Heartbeats -/

/-- A heartbeat about to be written is as late as any in the table. -/
def WritesLatest (config : ServerConfig T) : Prop :=
  ∀ u bindInfo i timestamp, config.threads u = .sendHeartbeat bindInfo (.setLastSeen i timestamp) →
    ∀ seen ∈ config.shared.heard, seen.2 ≤ timestamp

/-- The entries are still there, each last seen no earlier. -/
def Grown (before after : List (String × Int)) : Prop :=
  ∀ (i : ℕ) (seen : String × Int), before[i]? = some seen → ∃ later, after[i]? = some (seen.1, later) ∧ seen.2 ≤ later

omit [DecidableEq T] in
theorem writesLatest_start (binder : ServerBinder) (task : T → Task) :
    WritesLatest (ServerConfig.start binder task) := by
  intro u bindInfo i timestamp place
  have start : (task u).start = .sendHeartbeat bindInfo (.setLastSeen i timestamp) := place
  cases taken : task u <;> rw [taken] at start <;> cases start

theorem writesLatest_step (latest : WritesLatest config) (times : TimesOrdered config)
    (inside : HolderInside config) (stepped : serverStep config thread = some after) :
    WritesLatest after := by
  obtain ⟨operation, mine', move, applied, mine, others⟩ := serverStep_cases stepped
  intro u bindInfo i timestamp place seen member
  by_cases here : u = thread
  · -- The timestamp was just read, and no time in the table is ahead of it.
    rw [here, mine] at place
    subst place
    generalize config.threads thread = before at move
    cases move
    have same : config.shared = after.shared := Option.some.inj applied
    rw [← same] at member
    exact (times.table seen member).2
  · rw [others u here] at place
    have region : guarded (config.threads u) = true := by
      rw [place]
      rfl
    have same := heard_step_other inside region here stepped
    exact latest u bindInfo i timestamp place seen (same ▸ member)

theorem grown_step (latest : WritesLatest config)
    (stepped : serverStep config thread = some after) :
    Grown config.shared.heard after.shared.heard := by
  obtain ⟨operation, mine', move, applied, _, _⟩ := serverStep_cases stepped
  intro j seen found
  cases operation with
  | pushBack newService =>
    have same : after.shared.heard =
        config.shared.heard ++ [(newService.clientIp, newService.lastSeen)] := by
      rw [← Option.some.inj applied, ServerBinder.heard, StdVector.entries_pushBack,
        List.map_append]
      rfl
    obtain ⟨below, _⟩ := List.getElem?_eq_some_iff.mp found
    exact ⟨seen.2, by rw [same, List.getElem?_append_left below]; exact found, le_rfl⟩
  | setLastSeen i timestamp =>
    have written : after.shared.heard[j]? =
        config.shared.heard[j]?.map fun seen => if i = j then (seen.1, timestamp) else seen := by
      rw [← Option.some.inj applied, ServerBinder.heard, StdVector.entries_modifyAt,
        ServerBinder.heard, List.getElem?_map, List.getElem?_map, List.getElem?_modify]
      cases config.shared.serviceTable.entries[j]? with
      | none => rfl
      | some entry => by_cases here : i = j <;> simp [here]
    rw [written, found]
    by_cases here : i = j
    · subst here
      obtain ⟨bindInfo, place⟩ := writer_of_seen move
      exact ⟨timestamp, by simp,
        latest thread bindInfo i timestamp place seen (List.mem_of_getElem? found)⟩
    · exact ⟨seen.2, by simp [here], le_rfl⟩
  | _ =>
    have same := heard_apply applied (fun _ same => by cases same) (fun _ _ same => by cases same)
    exact ⟨seen.2, by rw [same]; exact found, le_rfl⟩

/-- Times are in order, and heartbeats are the latest, after every clear step. -/
theorem ordered_step (inv : (HolderInside config ∧ TimesOrdered config) ∧ WritesLatest config)
    (clear : CheckClear config thread) (stepped : serverStep config thread = some after) :
    (HolderInside after ∧ TimesOrdered after) ∧ WritesLatest after :=
  ⟨⟨holderInside_step inv.1.1 clear.1 stepped, timesOrdered_step inv.1.2 clear.2 stepped⟩,
    writesLatest_step inv.2 inv.1.2 inv.1.1 stepped⟩

/-! ### Results -/

variable {ip : String} {port now : Int} {growth : ℕ → ℕ} {task : T → Task} {first more : List T}
  {locked final : ServerConfig T}

theorem ordered_run (nonneg : 0 ≤ now) (fits : InInt32 now)
    (reached : runSteps serverStep (ServerConfig.start (.new ip port now growth) task) first =
      some locked)
    (clear : Along serverStep CheckClear (ServerConfig.start (.new ip port now growth) task) first) :
    (HolderInside locked ∧ TimesOrdered locked) ∧ WritesLatest locked :=
  run_invariant_along (fun _ _ _ inv clear stepped => ordered_step inv clear stepped) reached clear
    ⟨⟨holderInside_start _ task, timesOrdered_start nonneg fits⟩, writesLatest_start _ task⟩

/-- **A check is right at one of its ends.** In a run in which no worker makes the trailing unlock and
the clock, within the nonnegative 32-bit values, does not go back: when a call of `check_node_failure`
is about to give the mutex back with `true`, a node has failed by then; and with `false`, none had
failed when it had taken the mutex. -/
theorem check_between (nonneg : 0 ≤ now) (fits : InInt32 now)
    (reached : runSteps serverStep (ServerConfig.start (.new ip port now growth) task) first =
      some locked)
    (goesOn : runSteps serverStep locked more = some final)
    (clear : Along serverStep CheckClear (ServerConfig.start (.new ip port now growth) task)
      (first ++ more))
    {caller : T} {result : Bool} (taken : locked.threads caller = .checkNodeFailure .first)
    (decided : final.threads caller = .checkNodeFailure (.unlock result)) :
    (result = true → final.shared.checkNodeFailure = true) ∧
      (result = false → locked.shared.checkNodeFailure = false) := by
  have atLock := (ordered_run nonneg fits reached (along_before (List.prefix_append _ _) clear)).1
  have watching : Watching caller locked.shared.timestamp locked.shared.heard final :=
    run_invariant_along (fun _ _ _ watching clear stepped => watching_step watching clear stepped)
      goesOn (along_after reached clear) ⟨atLock.1, atLock.2, le_rfl, by rw [taken]; rfl⟩
  have between := watching.between
  rw [decided] at between
  constructor
  · rintro rfl
    obtain ⟨same, seen, member, overdue⟩ := between
    exact (checkNodeFailure_iff_heard watching.times).mpr ⟨seen, same.symm ▸ member, overdue⟩
  · rintro rfl
    rw [← Bool.not_eq_true, checkNodeFailure_iff_heard atLock.2]
    rintro ⟨seen, member, overdue⟩
    exact absurd overdue (Int.not_lt.mpr (between.2 seen member))

/-- **No heartbeat overwrites a later one.** In a run in which no worker makes the trailing unlock and
the clock, within the nonnegative 32-bit values, does not go back, each entry of a reachable table is
still there in every later one, with the same address and a `last_seen` that is no earlier. -/
theorem lastSeen_grows (nonneg : 0 ≤ now) (fits : InInt32 now)
    (reached : runSteps serverStep (ServerConfig.start (.new ip port now growth) task) first =
      some locked)
    (goesOn : runSteps serverStep locked more = some final)
    (clear : Along serverStep CheckClear (ServerConfig.start (.new ip port now growth) task)
      (first ++ more)) :
    Grown locked.shared.heard final.shared.heard := by
  have before := ordered_run nonneg fits reached (along_before (List.prefix_append _ _) clear)
  refine (run_invariant_along
    (I := fun config : ServerConfig T => ((HolderInside config ∧ TimesOrdered config) ∧
      WritesLatest config) ∧ Grown locked.shared.heard config.shared.heard)
    (fun config thread after inv clear stepped => ⟨ordered_step inv.1 clear stepped,
      fun i seen found => ?_⟩)
    goesOn (along_after reached clear) ⟨before, fun i seen found => ⟨seen.2, found, le_rfl⟩⟩).2
  obtain ⟨later, there, ordered⟩ := inv.2 i seen found
  obtain ⟨latest, still, orderedToo⟩ := grown_step inv.1.2 stepped i _ there
  exact ⟨latest, still, ordered.trans orderedToo⟩

end Runs

/-! ### A run -/

/-- A client binds, and a call of `check_node_failure` takes the mutex. -/
def checkStarts : List (Bool × Bool) := List.replicate 9 (false, false) ++ [(true, false)]

/-- The clock shows twenty seconds more before the call has read the timestamp. -/
def tickInside : List (Bool × Bool) := [(true, false), (true, true), (true, false), (true, false)]

theorem check_between_tickInside :
    ∃ locked final,
      runSteps serverStep (ServerConfig.start (.new "0.0.0.0" 3000 0 (2 * ·)) fourTasks)
        checkStarts = some locked ∧
      runSteps serverStep locked tickInside = some final ∧
      locked.shared.checkNodeFailure = false ∧
      final.threads (true, false) = .checkNodeFailure (.unlock true) ∧
      final.shared.checkNodeFailure = true := by
  obtain ⟨locked, reached⟩ : ∃ locked, runSteps serverStep
      (ServerConfig.start (.new "0.0.0.0" 3000 0 (2 * ·)) fourTasks) checkStarts = some locked :=
    ⟨_, rfl⟩
  obtain ⟨final, goesOn⟩ : ∃ final, runSteps serverStep locked tickInside = some final := by
    cases reached
    exact ⟨_, rfl⟩
  have taken : locked.threads (true, false) = .checkNodeFailure .first := by
    cases reached
    rfl
  have decided : final.threads (true, false) = .checkNodeFailure (.unlock true) := by
    cases reached
    cases goesOn
    rfl
  have answer := check_between (by decide) (by decide) reached goesOn (by decide) taken decided
  refine ⟨locked, final, reached, goesOn, ?_, decided, answer.1 rfl⟩
  cases reached
  decide

/-- A client binds. -/
def bindAlone : List (Bool × Bool) := List.replicate 9 (false, false)

/-- The clock shows twenty seconds more, and the client's heartbeat comes. -/
def heartbeatLater : List (Bool × Bool) := (true, true) :: List.replicate 6 (false, true)

theorem lastSeen_grows_heartbeatLater :
    ∃ locked final,
      runSteps serverStep (ServerConfig.start (.new "0.0.0.0" 3000 0 (2 * ·)) fourTasks)
        bindAlone = some locked ∧
      runSteps serverStep locked heartbeatLater = some final ∧
      locked.shared.heard = [("10.0.0.1", 0)] ∧ final.shared.heard = [("10.0.0.1", 20)] ∧
      Grown locked.shared.heard final.shared.heard := by
  obtain ⟨locked, reached⟩ : ∃ locked, runSteps serverStep
      (ServerConfig.start (.new "0.0.0.0" 3000 0 (2 * ·)) fourTasks) bindAlone = some locked :=
    ⟨_, rfl⟩
  obtain ⟨final, goesOn⟩ : ∃ final, runSteps serverStep locked heartbeatLater = some final := by
    cases reached
    exact ⟨_, rfl⟩
  have grown := lastSeen_grows (by decide) (by decide) reached goesOn (by decide)
  refine ⟨locked, final, reached, goesOn, ?_, ?_, grown⟩
  · cases reached
    rfl
  · cases reached
    cases goesOn
    rfl

end GstPipeline.Binder
