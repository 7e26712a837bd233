/-
**The two threads of a feed.**

`Feed.lean` takes a call of `start_feed` or `stop_feed` as one step. The program has two threads for
them, and no lock: the streaming thread of the `appsrc` emits `need-data` when it waits for a
buffer, and the main loop calls `push_data`, whose `push-buffer` may emit `enough-data`. Both
callbacks read `source_id` first and write it last, with a call of GLib between. Here each of these
is a step of its own, and the threads take their steps in any order.

* `startFeed_alone`, `stopFeed_alone`: the steps of a call, with no other between, are the call of
  `Feed.lean`.
* `calls_settle`: in any order of the steps, the calls take effect as in a run of `Feed.lean`,
  `start_feed` with its `g_idle_add` and `stop_feed` with its `g_source_remove`. The data of the
  threads lacks only what is left to be written (`settle`).
* `one_source`: in every run whose buffers are taken at most one source is attached, and
  `g_source_remove` is called for the one that is.
* `attached_iff_checked_last`: when neither thread is in a call, a source is attached exactly if
  `start_feed` has compared the id since `stop_feed` last reset it. A `need-data` that comes between
  the comparison of `stop_feed` and its reset does nothing, as the id is not zero yet, and is lost.
-/

import GstPipeline.Lib.Trace
import GstPipeline.Tutorials.Samples
import Mathlib.Data.List.Nodup

namespace GstPipeline.Tutorials

open GstPipeline.Lib

/-! ### The streaming thread -/

/-- The streaming thread: waiting for data, or before a statement of `start_feed`. -/
inductive StartPc
  | waiting
  | check
  | idleAdd
  | store (id : ℕ)
  deriving DecidableEq

/-- `start_feed` has found the id zero and has not written it yet. -/
def StartPc.begun : StartPc → Bool
  | .idleAdd | .store _ => true
  | _ => false

inductive StartMove
  | needData
  | check
  | idleAdd (id : ℕ)
  | store
  deriving DecidableEq

/-- A step of the streaming thread. `g_idle_add` returns an id that is not zero and that no attached
source has. -/
def startStep (copy : Copy) : StartPc → CustomData → StartMove → Option (CustomData × StartPc)
  | .waiting, data, .needData => some (data, .check)
  | .check, data, .check => some (data, if data.sourceId = 0 then .idleAdd else .waiting)
  | .idleAdd, data, .idleAdd id =>
    if id ≠ 0 ∧ id ∉ data.attached then
      some ({ data with
        printed := data.printed ++ [copy.startText]
        attached := data.attached ++ [id] }, .store id)
    else none
  | .store id, data, .store => some ({ data with sourceId := id }, .waiting)
  | _, _, _ => none

/-! ### The main loop -/

/-- Before which statement of `stop_feed` the main loop is. -/
inductive StopPc
  | outside
  | check
  | remove
  | reset
  deriving DecidableEq

def StopPc.begun : StopPc → Bool
  | .remove | .reset => true
  | _ => false

/-- The main loop: waiting, or in the `push-buffer` of `push_data`, which will answer `ret`. The
source that it calls is `running`, as long as this is attached. -/
inductive LoopPc
  | waiting
  | pushing (running : Option ℕ) (ret : FlowReturn) (stop : StopPc)
  deriving DecidableEq

/-- `stop_feed` has found the id nonzero and has not reset it yet. -/
def LoopPc.begun : LoopPc → Bool
  | .waiting => false
  | .pushing _ _ stop => stop.begun

def LoopPc.resets : LoopPc → Bool
  | .pushing _ _ .reset => true
  | _ => false

def LoopPc.running : LoopPc → Option ℕ
  | .waiting => none
  | .pushing running _ _ => running

inductive LoopMove
  | dispatch (id : ℕ) (ret : FlowReturn)
  | enoughData
  | check
  | remove
  | reset
  | pushReturns
  deriving DecidableEq

/-- The sources after `push_data`: the one that was called is detached if its buffer was refused. One
that was removed while it ran is not detached again. -/
def detach (running : Option ℕ) (ret : FlowReturn) (attached : List ℕ) : List ℕ :=
  match running with
  | some id => if ret = .ok then attached else attached.erase id
  | none => attached

/-- A step of the main loop. -/
def loopStep (copy : Copy) : LoopPc → CustomData → LoopMove → Option (CustomData × LoopPc)
  | .waiting, data, .dispatch id ret =>
    if id ∈ data.attached then
      some ((pushData copy data ret).1, .pushing (some id) ret .outside)
    else none
  | .pushing running ret .outside, data, .enoughData => some (data, .pushing running ret .check)
  | .pushing running ret .check, data, .check =>
    some (data, .pushing running ret (if data.sourceId ≠ 0 then .remove else .outside))
  | .pushing running ret .remove, data, .remove =>
    some ({ data with
      printed := data.printed ++ [copy.stopText]
      attached := data.attached.erase data.sourceId },
      .pushing (if running = some data.sourceId then none else running) ret .reset)
  | .pushing running ret .reset, data, .reset =>
    some ({ data with sourceId := 0 }, .pushing running ret .outside)
  | .pushing running ret .outside, data, .pushReturns =>
    some ({ data with attached := detach running ret data.attached }, .waiting)
  | _, _, _ => none

/-! ### Both -/

structure FeedThreads where
  data : CustomData
  streaming : StartPc
  main : LoopPc

def FeedThreads.start : FeedThreads := ⟨.start, .waiting, .waiting⟩

inductive FeedMove
  | streaming (move : StartMove)
  | main (move : LoopMove)
  deriving DecidableEq

def feedThreadsStep (copy : Copy) (threads : FeedThreads) : FeedMove → Option FeedThreads
  | .streaming move => (startStep copy threads.streaming threads.data move).map
      fun after => ⟨after.1, after.2, threads.main⟩
  | .main move => (loopStep copy threads.main threads.data move).map
      fun after => ⟨after.1, threads.streaming, after.2⟩

/-- Neither thread is in a call. -/
def FeedThreads.Outside (threads : FeedThreads) : Prop :=
  threads.streaming = .waiting ∧ threads.main = .waiting

/-- What the step makes of a call of `Feed.lean`. -/
def FeedMove.effect : FeedMove → List FeedEvent
  | .streaming (.idleAdd id) => [.needData id]
  | .main (.dispatch id ret) => [.dispatch id ret]
  | .main .remove => [.enoughData]
  | _ => []

/-- The id, once the calls that have taken effect have written it. -/
def LoopPc.settledId (sourceId : ℕ) : LoopPc → ℕ
  | .pushing _ _ .reset => 0
  | _ => sourceId

def StartPc.settledId (sourceId : ℕ) : StartPc → ℕ
  | .store id => id
  | _ => sourceId

/-- The sources, once `push_data` has returned. -/
def LoopPc.settled (attached : List ℕ) : LoopPc → List ℕ
  | .waiting => attached
  | .pushing running ret _ => detach running ret attached

/-- The data, once the calls that have taken effect have returned. -/
def settle (data : CustomData) (streaming : StartPc) (main : LoopPc) : CustomData :=
  { data with
    sourceId := streaming.settledId (main.settledId data.sourceId)
    attached := main.settled data.attached }

def FeedThreads.settled (threads : FeedThreads) : CustomData :=
  settle threads.data threads.streaming threads.main

section Alone

variable (copy : Copy) (data : CustomData)

/-- **`start_feed` with no other step between.** -/
theorem startFeed_alone (main : LoopPc) {id : ℕ} (fresh : id ≠ 0 ∧ id ∉ data.attached) :
    runSteps (feedThreadsStep copy) ⟨data, .waiting, main⟩
      ([.streaming .needData, .streaming .check] ++
        if data.sourceId = 0 then [.streaming (.idleAdd id), .streaming .store] else []) =
      some ⟨startFeed copy id data, .waiting, main⟩ := by
  by_cases stopped : data.sourceId = 0 <;>
    simp [runSteps, feedThreadsStep, startStep, startFeed, stopped, fresh]

/-- **`stop_feed` with no other step between.** -/
theorem stopFeed_alone (streaming : StartPc) (running : Option ℕ) (ret : FlowReturn) :
    ∃ left, runSteps (feedThreadsStep copy) ⟨data, streaming, .pushing running ret .outside⟩
      ([.main .enoughData, .main .check] ++
        if data.sourceId ≠ 0 then [.main .remove, .main .reset] else []) =
      some ⟨stopFeed copy data, streaming, .pushing left ret .outside⟩ := by
  by_cases stopped : data.sourceId = 0 <;>
    simp [runSteps, feedThreadsStep, loopStep, stopFeed, stopped]

end Alone

/-! ### What is left to write -/

section Settle

variable {main : LoopPc} {streaming : StartPc} {running : Option ℕ} {ret : FlowReturn}
  {attached : List ℕ}

theorem detach_sublist : (detach running ret attached).Sublist attached := by
  unfold detach
  split
  · split
    · exact List.Sublist.refl _
    · exact List.erase_sublist
  · exact List.Sublist.refl _

theorem detach_append (id : ℕ)
    (runs : ∀ id, running = some id → id ∈ attached) :
    detach running ret (attached ++ [id]) = detach running ret attached ++ [id] := by
  unfold detach
  split
  · split
    · rfl
    · rw [List.erase_append_left _ (runs _ rfl)]
  · rfl

/-- To remove the source that runs is to detach it. -/
theorem detach_erase (id : ℕ)
    (nodup : attached.Nodup) :
    detach (if running = some id then none else running) ret (attached.erase id) =
      (detach running ret attached).erase id := by
  by_cases own : running = some id
  · rw [if_pos own, own]
    simp only [detach]
    split
    · rfl
    · exact (List.erase_of_not_mem (nodup.not_mem_erase)).symm
  · rw [if_neg own]
    unfold detach
    split
    · split
      · rfl
      · exact List.erase_comm ..
    · rfl

theorem settled_sublist : (main.settled attached).Sublist attached := by
  cases main with
  | waiting => exact List.Sublist.refl _
  | pushing running ret stop => exact detach_sublist

theorem settled_append (id : ℕ) (runs : ∀ id, main.running = some id → id ∈ attached) :
    main.settled (attached ++ [id]) = main.settled attached ++ [id] := by
  cases main with
  | waiting => rfl
  | pushing running ret stop => exact detach_append id runs

theorem settledId_zero (main : LoopPc) : main.settledId 0 = 0 := by
  unfold LoopPc.settledId
  split <;> rfl

theorem settledId_of_not_resets (idle : main.resets = false) (sourceId : ℕ) :
    main.settledId sourceId = sourceId := by
  unfold LoopPc.settledId
  split
  · cases idle
  · rfl

theorem not_resets_of_not_begun (idle : main.begun = false) : main.resets = false := by
  unfold LoopPc.resets
  split
  · cases idle
  · rfl

theorem startSettledId_of_not_begun (idle : streaming.begun = false) (sourceId : ℕ) :
    streaming.settledId sourceId = sourceId := by
  unfold StartPc.settledId
  split
  · cases idle
  · rfl

end Settle

/-! ### How the calls exclude each other -/

/-- What holds throughout: `start_feed` is between its comparison and its write only while the id is
zero, `stop_feed` only while it is not. -/
structure Excluded (data : CustomData) (streaming : StartPc) (main : LoopPc) : Prop where
  starts : streaming.begun = true → data.sourceId = 0
  stops : main.begun = true → data.sourceId ≠ 0
  runs : ∀ id, main.running = some id → id ∈ data.attached
  nodup : data.attached.Nodup

section Steps

variable {copy : Copy} {data data' : CustomData} {streaming streaming' : StartPc}
  {main main' : LoopPc}

theorem excluded_start : Excluded .start .waiting .waiting :=
  ⟨nofun, nofun, nofun, List.nodup_nil⟩

theorem excluded_startStep {move : StartMove} (excluded : Excluded data streaming main)
    (moved : startStep copy streaming data move = some (data', streaming')) :
    Excluded data' streaming' main := by
  obtain ⟨starts, stops, runs, nodup⟩ := excluded
  unfold startStep at moved
  split at moved
  · cases moved
    exact ⟨nofun, stops, runs, nodup⟩
  · cases moved
    refine ⟨fun begun => ?_, stops, runs, nodup⟩
    by_contra feeding
    rw [if_neg feeding] at begun
    cases begun
  · split at moved <;> cases moved
    rename_i id fresh
    exact ⟨fun _ => starts rfl, stops, fun id' at' => List.mem_append_left _ (runs id' at'),
      List.Nodup.append nodup (List.nodup_singleton id) (List.disjoint_singleton.mpr fresh.2)⟩
  · cases moved
    exact ⟨nofun, fun begun => (stops begun (starts rfl)).elim, runs, nodup⟩
  · cases moved

theorem excluded_loopStep {move : LoopMove} (excluded : Excluded data streaming main)
    (moved : loopStep copy main data move = some (data', main')) :
    Excluded data' streaming main' := by
  obtain ⟨starts, stops, runs, nodup⟩ := excluded
  unfold loopStep at moved
  split at moved
  · rename_i id ret
    split at moved
    · rename_i called
      obtain ⟨rfl, rfl⟩ := Prod.mk.inj (Option.some.inj moved)
      refine ⟨fun begun => ?_, nofun, fun id' at' => ?_, ?_⟩
      · rw [sourceId_pushData]
        exact starts begun
      · rw [attached_pushData]
        cases at'
        exact called
      · rw [attached_pushData]
        exact nodup
    · cases moved
  · cases moved
    exact ⟨starts, nofun, runs, nodup⟩
  · cases moved
    refine ⟨starts, fun begun stopped => ?_, runs, nodup⟩
    rw [if_neg (not_not.mpr stopped)] at begun
    cases begun
  · cases moved
    rename_i running ret
    refine ⟨starts, fun _ => stops rfl, fun id at' => ?_, nodup.erase _⟩
    simp only [LoopPc.running] at at' runs
    split at at'
    · cases at'
    · rename_i other
      refine (List.mem_erase_of_ne fun same => other ?_).mpr (runs id at')
      rw [at', same]
  · cases moved
    exact ⟨fun _ => rfl, nofun, runs, nodup⟩
  · cases moved
    exact ⟨starts, nofun, nofun, nodup.sublist detach_sublist⟩
  · cases moved

/-! ### Calls as single steps -/

theorem Excluded.not_stops (excluded : Excluded data streaming main)
    (begun : streaming.begun = true) : main.begun = false := by
  by_contra stops
  exact excluded.stops (by simpa using stops) (excluded.starts begun)

theorem Excluded.not_starts (excluded : Excluded data streaming main)
    (begun : main.begun = true) : streaming.begun = false := by
  by_contra starts
  exact excluded.stops begun (excluded.starts (by simpa using starts))

/-- `push_data` neither reads the id and the sources nor writes them. -/
theorem pushData_with (sourceId : ℕ) (attached : List ℕ) (ret : FlowReturn) :
    pushData copy { data with sourceId := sourceId, attached := attached } ret =
      ({ (pushData copy data ret).1 with sourceId := sourceId, attached := attached },
        (pushData copy data ret).2) := by
  have plain : pushData copy data ret = _ := pushData_eq ret
  refine (pushData_eq ret).trans ?_
  generalize pushData copy data ret = pushed at plain
  subst plain
  dsimp only

theorem settle_dispatch (streaming : StartPc) {id : ℕ} (ret : FlowReturn)
    (called : id ∈ data.attached) :
    feedStep copy (settle data streaming .waiting) (.dispatch id ret) =
      some (settle (pushData copy data ret).1 streaming (.pushing (some id) ret .outside)) := by
  have again : (pushData copy data ret).2 = true ↔ ret = .ok := again_pushData ret
  have sameId : (pushData copy data ret).1.sourceId = data.sourceId := sourceId_pushData ret
  have sameAttached : (pushData copy data ret).1.attached = data.attached := attached_pushData ret
  simp only [feedStep, settle, LoopPc.settled, LoopPc.settledId, if_pos called, pushData_with]
  generalize pushData copy data ret = pushed at again sameId sameAttached
  rw [sameId, sameAttached]
  by_cases taken : ret = .ok
  · rw [if_pos (again.mpr taken)]
    simp [detach, taken]
  · rw [if_neg (mt again.mp taken)]
    simp [detach, taken]

/-- **A step of the streaming thread does to the settled data what its effect does.** -/
theorem settle_startStep {move : StartMove} (excluded : Excluded data streaming main)
    (moved : startStep copy streaming data move = some (data', streaming')) :
    runSteps (feedStep copy) (settle data streaming main) (FeedMove.streaming move).effect =
      some (settle data' streaming' main) := by
  unfold startStep at moved
  split at moved
  · cases moved
    rfl
  · cases moved
    simp only [FeedMove.effect, runSteps_nil, settle]
    split <;> rfl
  · split at moved <;> cases moved
    rename_i id fresh
    have stopped : data.sourceId = 0 := excluded.starts rfl
    have free : id ≠ 0 ∧ id ∉ main.settled data.attached :=
      ⟨fresh.1, fun member => fresh.2 (settled_sublist.mem member)⟩
    simp [FeedMove.effect, runSteps, feedStep, startFeed, settle, StartPc.settledId, stopped, free,
      settledId_zero, settled_append id excluded.runs]
  · cases moved
    rename_i id
    have same := settledId_of_not_resets (not_resets_of_not_begun (excluded.not_stops rfl)) id
    simp [FeedMove.effect, settle, StartPc.settledId, same]
  · cases moved

/-- **So does a step of the main loop.** -/
theorem settle_loopStep {move : LoopMove} (excluded : Excluded data streaming main)
    (moved : loopStep copy main data move = some (data', main')) :
    runSteps (feedStep copy) (settle data streaming main) (FeedMove.main move).effect =
      some (settle data' streaming main') := by
  unfold loopStep at moved
  split at moved
  · rename_i id ret
    split at moved
    · rename_i called
      obtain ⟨rfl, rfl⟩ := Prod.mk.inj (Option.some.inj moved)
      exact runSteps_cons.mpr ⟨_, settle_dispatch streaming ret called, rfl⟩
    · cases moved
  · cases moved
    rfl
  · cases moved
    simp only [FeedMove.effect, runSteps_nil, settle]
    split <;> rfl
  · cases moved
    rename_i running ret
    have feeding : data.sourceId ≠ 0 := excluded.stops rfl
    have same := startSettledId_of_not_begun (excluded.not_starts rfl)
    simp [FeedMove.effect, runSteps, feedStep, stopFeed, settle, LoopPc.settledId, LoopPc.settled,
      same, feeding, detach_erase data.sourceId excluded.nodup]
  · cases moved
    have same := startSettledId_of_not_begun (excluded.not_starts rfl)
    simp [FeedMove.effect, settle, LoopPc.settledId, same]
    rfl
  · cases moved
    rfl
  · cases moved

end Steps

/-- One invariant for both. -/
def FeedThreads.Separate (threads : FeedThreads) : Prop :=
  Excluded threads.data threads.streaming threads.main

section Runs

variable {copy : Copy} {threads after final : FeedThreads} {move : FeedMove} {moves : List FeedMove}

theorem separate_step (separate : threads.Separate)
    (stepped : feedThreadsStep copy threads move = some after) : after.Separate := by
  cases move with
  | streaming move =>
    obtain ⟨moved, found, rfl⟩ := Option.map_eq_some_iff.mp stepped
    exact excluded_startStep separate found
  | main move =>
    obtain ⟨moved, found, rfl⟩ := Option.map_eq_some_iff.mp stepped
    exact excluded_loopStep separate found

theorem settled_step (separate : threads.Separate)
    (stepped : feedThreadsStep copy threads move = some after) :
    runSteps (feedStep copy) threads.settled move.effect = some after.settled := by
  cases move with
  | streaming move =>
    obtain ⟨moved, found, rfl⟩ := Option.map_eq_some_iff.mp stepped
    exact settle_startStep separate found
  | main move =>
    obtain ⟨moved, found, rfl⟩ := Option.map_eq_some_iff.mp stepped
    exact settle_loopStep separate found

theorem settled_of_outside (outside : final.Outside) : final.settled = final.data := by
  obtain ⟨data, streaming, main⟩ := final
  obtain ⟨rfl, rfl⟩ := outside
  rfl

/-- **The threads make the calls one after the other**: in whatever order they take their steps, the
data that they leave, or are about to leave, is that of a run of `feedStep`, in which `start_feed`
is where the threads called `g_idle_add`, `stop_feed` where they called `g_source_remove`, and
`push_data` where the main loop called it. -/
theorem calls_settle (reached : runSteps (feedThreadsStep copy) .start moves = some final) :
    runSteps (feedStep copy) .start (moves.flatMap FeedMove.effect) = some final.settled ∧
      (final.Outside → final.settled = final.data) := by
  refine ⟨(history_invariant (H := fun history threads => threads.Separate ∧
    runSteps (feedStep copy) .start (history.flatMap FeedMove.effect) = some threads.settled)
    ?_ reached ⟨excluded_start, rfl⟩).2, settled_of_outside⟩
  rintro history threads move next ⟨separate, ran⟩ stepped
  refine ⟨separate_step separate stepped, ?_⟩
  rw [List.flatMap_append, List.flatMap_singleton]
  exact runSteps_append.mpr ⟨threads.settled, ran, settled_step separate stepped⟩

end Runs

/-! ### Runs whose buffers are taken -/

/-- Which came last: a comparison of `start_feed`, or a reset of `stop_feed`. -/
def FeedMove.mark (checked : Bool) : FeedMove → Bool
  | .streaming .check => true
  | .main .reset => false
  | _ => checked

/-- `start_feed` has compared the id since `stop_feed` last reset it. -/
def checkedLast (moves : List FeedMove) : Bool := moves.foldl FeedMove.mark false

/-- What the buffer that is being pushed will be answered. -/
def LoopPc.answer : LoopPc → FlowReturn
  | .waiting => .ok
  | .pushing _ ret _ => ret

/-- Where the last mark comes from. -/
def Marked (checked : Bool) (data : CustomData) (streaming : StartPc) (main : LoopPc) : Prop :=
  checked = true ↔ streaming = .idleAdd ∨ data.attached ≠ [] ∨ main.resets = true

section Taken

variable {copy : Copy} {data data' : CustomData} {streaming streaming' : StartPc}
  {main main' : LoopPc} {checked : Bool}

theorem settled_of_answer (answered : main.answer = .ok) (attached : List ℕ) :
    main.settled attached = attached := by
  cases main with
  | waiting => rfl
  | pushing running ret stop =>
    obtain rfl : ret = .ok := answered
    cases running <;> rfl

/-- What is attached, where no call has an id left to write. -/
theorem attached_of_fed (fed : Fed (settle data streaming main)) (answered : main.answer = .ok)
    (idle : streaming.begun = false) :
    data.attached =
      if main.settledId data.sourceId = 0 then [] else [main.settledId data.sourceId] := by
  have same := startSettledId_of_not_begun idle (main.settledId data.sourceId)
  simpa only [Fed, settle, settled_of_answer answered, same] using fed

theorem answered_loopStep {move : LoopMove} (answered : main.answer = .ok)
    (taken : ∀ event ∈ (FeedMove.main move).effect, Taken event)
    (moved : loopStep copy main data move = some (data', main')) : main'.answer = .ok := by
  unfold loopStep at moved
  split at moved
  · split at moved
    · obtain ⟨_, rfl⟩ := Prod.mk.inj (Option.some.inj moved)
      exact taken (.dispatch _ _) (List.mem_singleton_self _)
    · cases moved
  · cases moved
    exact answered
  · cases moved
    exact answered
  · cases moved
    exact answered
  · cases moved
    exact answered
  · cases moved
    rfl
  · cases moved

theorem marked_startStep {move : StartMove} (fed : Fed (settle data streaming main))
    (answered : main.answer = .ok) (marked : Marked checked data streaming main)
    (moved : startStep copy streaming data move = some (data', streaming')) :
    Marked ((FeedMove.streaming move).mark checked) data' streaming' main := by
  unfold startStep at moved
  split at moved
  · cases moved
    simpa [Marked, FeedMove.mark] using marked
  · cases moved
    refine ⟨fun _ => ?_, fun _ => rfl⟩
    by_cases stopped : data.sourceId = 0
    · exact Or.inl (if_pos stopped)
    · cases resets : main.resets with
      | true => exact Or.inr (Or.inr rfl)
      | false =>
        have attached := attached_of_fed fed answered rfl
        rw [settledId_of_not_resets resets, if_neg stopped] at attached
        exact Or.inr (Or.inl (by rw [attached]; exact List.cons_ne_nil _ _))
  · split at moved <;> cases moved
    simpa [Marked, FeedMove.mark] using marked
  · cases moved
    simpa [Marked, FeedMove.mark] using marked
  · cases moved

theorem marked_loopStep {move : LoopMove} (excluded : Excluded data streaming main)
    (fed : Fed (settle data streaming main))
    (answered : main.answer = .ok) (marked : Marked checked data streaming main)
    (moved : loopStep copy main data move = some (data', main')) :
    Marked ((FeedMove.main move).mark checked) data' streaming main' := by
  unfold loopStep at moved
  split at moved
  · split at moved
    · obtain ⟨rfl, rfl⟩ := Prod.mk.inj (Option.some.inj moved)
      unfold Marked
      rw [attached_pushData]
      exact marked
    · cases moved
  · cases moved
    exact marked
  · cases moved
    split <;> exact marked
  · cases moved
    have feeding : data.sourceId ≠ 0 := excluded.stops rfl
    have attached := attached_of_fed fed answered (excluded.not_starts rfl)
    rw [settledId_of_not_resets rfl, if_neg feeding] at attached
    refine ⟨fun _ => Or.inr (Or.inr rfl), fun _ => marked.mpr (Or.inr (Or.inl ?_))⟩
    rw [attached]
    exact List.cons_ne_nil _ _
  · cases moved
    have idle := excluded.not_starts rfl
    have attached : data.attached = [] := attached_of_fed fed answered idle
    refine ⟨nofun, ?_⟩
    rintro (rfl | some | resets)
    · cases idle
    · exact (some attached).elim
    · cases resets
  · cases moved
    unfold Marked
    rw [← LoopPc.settled, settled_of_answer answered]
    exact marked
  · cases moved

end Taken

/-- What a run keeps whose buffers are taken. -/
structure Watched (checked : Bool) (threads : FeedThreads) : Prop where
  separate : threads.Separate
  fed : Fed threads.settled
  answered : threads.main.answer = .ok
  marked : Marked checked threads.data threads.streaming threads.main

section TakenRuns

variable {copy : Copy} {threads after final : FeedThreads} {move : FeedMove} {moves : List FeedMove}
  {checked : Bool}

theorem watched_start : Watched false .start :=
  ⟨excluded_start, rfl, rfl, by
    simp [Marked, FeedThreads.start, CustomData.start, LoopPc.resets]⟩

/-- **One step.** -/
theorem watched_step (watched : Watched checked threads)
    (taken : ∀ event ∈ move.effect, Taken event)
    (stepped : feedThreadsStep copy threads move = some after) :
    Watched (move.mark checked) after := by
  obtain ⟨separate, fed, answered, marked⟩ := watched
  have kept : Fed after.settled :=
    run_invariant_along (fun _ _ _ fed => fed_step fed) (settled_step separate stepped)
      (along_of_forall taken) fed
  refine ⟨separate_step separate stepped, kept, ?_, ?_⟩
  · cases move with
    | streaming move =>
      obtain ⟨moved, found, rfl⟩ := Option.map_eq_some_iff.mp stepped
      exact answered
    | main move =>
      obtain ⟨moved, found, rfl⟩ := Option.map_eq_some_iff.mp stepped
      exact answered_loopStep answered taken found
  · cases move with
    | streaming move =>
      obtain ⟨moved, found, rfl⟩ := Option.map_eq_some_iff.mp stepped
      exact marked_startStep fed answered marked found
    | main move =>
      obtain ⟨moved, found, rfl⟩ := Option.map_eq_some_iff.mp stepped
      exact marked_loopStep separate fed answered marked found

/-- **Runs.** -/
theorem watched_run (reached : runSteps (feedThreadsStep copy) .start moves = some final)
    (taken : ∀ event ∈ moves.flatMap FeedMove.effect, Taken event) :
    Watched (checkedLast moves) final := by
  refine history_invariant (H := fun history threads =>
    (∀ event ∈ history.flatMap FeedMove.effect, Taken event) →
      Watched (checkedLast history) threads) ?_ reached (fun _ => watched_start) taken
  intro history threads move next watched stepped taken
  rw [List.flatMap_append, List.flatMap_singleton] at taken
  have marks : checkedLast (history ++ [move]) = move.mark (checkedLast history) := by
    rw [checkedLast, List.foldl_append]
    rfl
  rw [marks]
  exact watched_step (watched fun event member => taken event (List.mem_append_left _ member))
    (fun event member => taken event (List.mem_append_right _ member)) stepped

/-- **One source.** However the threads interleave, as long as every buffer is taken there is at most
one source of `push_data`, and the one that `stop_feed` removes is that one. -/
theorem one_source (reached : runSteps (feedThreadsStep copy) .start moves = some final)
    (taken : ∀ event ∈ moves.flatMap FeedMove.effect, Taken event) :
    final.data.attached.length ≤ 1 ∧
      ∀ running ret, final.main = .pushing running ret .remove →
        final.data.attached = [final.data.sourceId] := by
  obtain ⟨separate, fed, answered, -⟩ := watched_run reached taken
  constructor
  · have same : final.settled.attached = final.data.attached := settled_of_answer answered _
    rw [← same, fed]
    split <;> simp
  · obtain ⟨data, streaming, main⟩ := final
    rintro running ret rfl
    have feeding : data.sourceId ≠ 0 := separate.stops rfl
    have attached := attached_of_fed fed answered (separate.not_starts rfl)
    rwa [settledId_of_not_resets rfl, if_neg feeding] at attached

/-- **Which call is served.** When neither thread is in a call, the feed is as its id says, and it is
on if and only if `start_feed` compared the id after the last reset. -/
theorem attached_iff_checked_last
    (reached : runSteps (feedThreadsStep copy) .start moves = some final)
    (taken : ∀ event ∈ moves.flatMap FeedMove.effect, Taken event) (outside : final.Outside) :
    FeedKept copy final.data ∧ (final.data.attached ≠ [] ↔ checkedLast moves = true) := by
  obtain ⟨separate, fed, answered, marked⟩ := watched_run reached taken
  rw [settled_of_outside outside] at fed
  refine ⟨feedKept_of_fed fed, ?_⟩
  obtain ⟨data, streaming, main⟩ := final
  obtain ⟨rfl, rfl⟩ := outside
  simpa [Marked, LoopPc.resets] using marked.symm

end TakenRuns

/-! ### A run -/

/-- `need-data` comes again when `stop_feed` has compared the id and not reset it yet. -/
def wantedWhileStopped : List FeedMove :=
  [.streaming .needData, .streaming .check, .streaming (.idleAdd 7), .streaming .store,
    .main (.dispatch 7 .ok), .main .enoughData, .main .check,
    .streaming .needData, .streaming .check,
    .main .remove, .main .reset, .main .pushReturns]

theorem wantedWhileStopped_runs : ∃ final,
    runSteps (feedThreadsStep appSrcSink) .start wantedWhileStopped = some final ∧
      final.Outside := by
  have ends : (runSteps (feedThreadsStep appSrcSink) .start wantedWhileStopped).map
      (fun final => (final.streaming, final.main)) = some (.waiting, .waiting) := rfl
  obtain ⟨final, reached, same⟩ := Option.map_eq_some_iff.mp ends
  exact ⟨final, reached, Prod.mk.inj same⟩

/-- The `need-data` that came in between finds no place among the calls. -/
theorem calls_settle_wantedWhileStopped : ∃ final : FeedThreads,
    runSteps (feedThreadsStep appSrcSink) .start wantedWhileStopped = some final ∧ final.Outside ∧
      runSteps (feedStep appSrcSink) .start [.needData 7, .dispatch 7 .ok, .enoughData] =
        some final.data := by
  obtain ⟨final, reached, outside⟩ := wantedWhileStopped_runs
  obtain ⟨settles, same⟩ := calls_settle reached
  exact ⟨final, reached, outside, (same outside) ▸ settles⟩

theorem one_source_wantedWhileStopped : ∃ final,
    runSteps (feedThreadsStep appSrcSink) .start wantedWhileStopped = some final ∧
      final.data.attached.length ≤ 1 := by
  obtain ⟨final, reached, -⟩ := wantedWhileStopped_runs
  exact ⟨final, reached, (one_source reached (by decide)).1⟩

/-- **A lost `need-data`.** The streaming thread waits for a buffer, and nothing is attached that
would push one. -/
theorem attached_iff_checked_last_wantedWhileStopped : ∃ final,
    runSteps (feedThreadsStep appSrcSink) .start wantedWhileStopped = some final ∧
      final.Outside ∧ FeedKept appSrcSink final.data ∧ final.data.attached = [] := by
  obtain ⟨final, reached, outside⟩ := wantedWhileStopped_runs
  obtain ⟨kept, attached⟩ := attached_iff_checked_last reached (by decide) outside
  refine ⟨final, reached, outside, kept, ?_⟩
  by_contra some
  have last := attached.mp some
  revert last
  decide

end GstPipeline.Tutorials
