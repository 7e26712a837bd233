/-
**Feeding an `appsrc` from the main loop.**

`app_src_sink.c` and `appsrc_playbin.c` feed an `appsrc` in the same way. On `need-data`,
`start_feed` attaches `push_data` to the main loop as an idle source and keeps the source's id; on
`enough-data`, `stop_feed` removes the source and forgets the id. The main loop calls an attached
`push_data` again and again, and detaches it by itself when it returns `FALSE`, which it does when
the `appsrc` did not take the buffer. The two copies differ in one statement of the waveform and in
what they print (`Copy`).

* `FeedKept`: the id is nonzero exactly while the source with that id is attached, at most one is
  attached, a start finds its way in when none is, and a stop removes one that is.
* `feed_kept_iff`: this holds throughout a run exactly when every buffer of the run was taken. After
  a buffer that was not, the id of the detached source stays.

The `gfloat` fields of the waveform are exact rationals here.
-/

import GstPipeline.Lib.Run
import GstPipeline.Lib.Truncate

namespace GstPipeline.Tutorials

open GstPipeline.Lib

/-! ### The data of a feed -/

/-- `BUF_SIZE`, in bytes; a sample has two. -/
def bufSize : ℕ := 1024

/-- `SAMPLE_RATE`. -/
def sampleRate : ℕ := 44100

/-- `GST_SECOND`, in nanoseconds. -/
def gstSecond : ℕ := 1000000000

/-- The waveform fields of `CustomData_t`. -/
structure Wave where
  a : ℚ
  b : ℚ
  c : ℚ
  d : ℚ

/-- What a buffer carries. -/
structure Buffer where
  timestamp : ℕ
  duration : ℕ
  raw : List Int

/-- `GstFlowReturn`. -/
inductive FlowReturn
  | ok
  | notLinked
  | flushing
  | eos
  | notNegotiated
  | error
  | notSupported
  | customSuccess
  | customError
  deriving DecidableEq

/-- `CustomData_t`, with the `push_data` sources that the main loop has, the buffers that were
pushed and the lines that were printed. -/
structure CustomData where
  numSamples : ℕ
  wave : Wave
  sourceId : ℕ
  attached : List ℕ
  pushed : List Buffer
  printed : List String

/-- What one copy has for itself: the new value of `c`, and two lines. -/
structure Copy where
  nextC : Wave → ℚ
  startText : String
  stopText : String

/-- `app_src_sink.c`: `data->c += data->d`. -/
def appSrcSink : Copy := ⟨fun wave => wave.c + wave.d, "start feeding. \n", "Stop feeding. \n"⟩

/-- `appsrc_playbin.c`: `data->c = data->d`. -/
def appsrcPlaybin : Copy := ⟨fun wave => wave.d, "Start feeding \n", "Stop feeding\n"⟩

/-- `gst_util_uint64_scale`: `value * num / denom`, and the greatest value where that is too
large. -/
def uint64Scale (value num denom : ℕ) : ℕ := min (value * num / denom) (2 ^ 64 - 1)

/-! ### The callbacks -/

/-- The loop over the samples of a buffer. -/
def fill (freq : ℚ) : ℕ → Wave → List Int × Wave
  | 0, wave => ([], wave)
  | n + 1, wave =>
    let a := wave.a + wave.b
    let sampled := { wave with a := a, b := wave.b - a / freq }
    let rest := fill freq n sampled
    (truncate (500 * a) :: rest.1, rest.2)

/-- `push_data`, when the `appsrc` answers `ret` to its buffer: the data after it, and whether it
is to be called again. -/
def pushData (copy : Copy) (data : CustomData) (ret : FlowReturn) : CustomData × Bool :=
  let numSamples := bufSize / 2
  let c := copy.nextC data.wave
  let d := data.wave.d - c / 1000
  let filled := fill (1100 + 1000 * d) numSamples { data.wave with c := c, d := d }
  ({ data with
      numSamples := (data.numSamples + numSamples) % 2 ^ 64
      wave := filled.2
      pushed := data.pushed ++
        [⟨uint64Scale data.numSamples gstSecond sampleRate,
          uint64Scale numSamples gstSecond sampleRate, filled.1⟩] },
    ret = .ok)

/-- `start_feed`; `id` is what `g_idle_add` returns when it is called. -/
def startFeed (copy : Copy) (id : ℕ) (data : CustomData) : CustomData :=
  if data.sourceId = 0 then
    { data with
      printed := data.printed ++ [copy.startText]
      attached := data.attached ++ [id]
      sourceId := id }
  else data

/-- `stop_feed`. -/
def stopFeed (copy : Copy) (data : CustomData) : CustomData :=
  if data.sourceId ≠ 0 then
    { data with
      printed := data.printed ++ [copy.stopText]
      attached := data.attached.erase data.sourceId
      sourceId := 0 }
  else data

/-- The data that `main` starts with. -/
def CustomData.start : CustomData := ⟨0, ⟨0, 1, 0, 1⟩, 0, [], [], []⟩

/-! ### Runs -/

inductive FeedEvent
  | needData (id : ℕ)
  | enoughData
  | dispatch (id : ℕ) (ret : FlowReturn)
  deriving DecidableEq

/-- One event. `g_idle_add` returns an id that is not zero and that no attached source has; the
main loop calls sources that are attached, and detaches one that returns `FALSE`. -/
def feedStep (copy : Copy) (data : CustomData) : FeedEvent → Option CustomData
  | .needData id =>
    if id ≠ 0 ∧ id ∉ data.attached then some (startFeed copy id data) else none
  | .enoughData => some (stopFeed copy data)
  | .dispatch id ret =>
    if id ∈ data.attached then
      let after := pushData copy data ret
      some (if after.2 then after.1 else { after.1 with attached := after.1.attached.erase id })
    else none

/-- What the id is kept for. -/
structure FeedKept (copy : Copy) (data : CustomData) : Prop where
  tracked : data.sourceId ≠ 0 ↔ data.sourceId ∈ data.attached
  single : data.attached.length ≤ 1
  starts : data.attached = [] → ∀ id, (startFeed copy id data).attached = [id]
  stops : data.sourceId = 0 ∨ (stopFeed copy data).attached ≠ data.attached

/-- If the event is a call of `push_data`, its buffer is taken. -/
def Taken : FeedEvent → Prop
  | .dispatch _ ret => ret = .ok
  | _ => True

instance (event : FeedEvent) : Decidable (Taken event) := by
  cases event <;> unfold Taken <;> infer_instance

/-- The one source that is attached is the one with the id. -/
def Fed (data : CustomData) : Prop :=
  data.attached = if data.sourceId = 0 then [] else [data.sourceId]

section Steps

variable {copy : Copy} {data after : CustomData} {event : FeedEvent}

@[simp] theorem sourceId_pushData (ret : FlowReturn) :
    (pushData copy data ret).1.sourceId = data.sourceId := by
  dsimp only [pushData]

@[simp] theorem attached_pushData (ret : FlowReturn) :
    (pushData copy data ret).1.attached = data.attached := by
  dsimp only [pushData]

/-- `push_data` asks to be called again when its buffer was taken. -/
theorem again_pushData (ret : FlowReturn) : (pushData copy data ret).2 = true ↔ ret = .ok := by
  simp only [pushData, decide_eq_true_eq]

theorem feedKept_of_fed (fed : Fed data) : FeedKept copy data := by
  unfold Fed at fed
  by_cases stopped : data.sourceId = 0
  · rw [if_pos stopped] at fed
    refine ⟨by simp [fed, stopped], by simp [fed], fun _ id => ?_, Or.inl stopped⟩
    simp [startFeed, stopped, fed]
  · rw [if_neg stopped] at fed
    refine ⟨by simp [fed, stopped], by simp [fed], fun none => ?_, Or.inr ?_⟩
    · rw [fed] at none
      cases none
    · simp [stopFeed, stopped, fed]

/-- **One event whose buffer, if it pushes one, is taken.** -/
theorem fed_step (fed : Fed data) (taken : Taken event)
    (stepped : feedStep copy data event = some after) : Fed after := by
  cases event with
  | needData id =>
    simp only [feedStep] at stepped
    split at stepped <;> cases stepped
    rename_i fresh
    unfold startFeed
    split
    · rename_i stopped
      unfold Fed at fed ⊢
      simp [fed, stopped, fresh.1]
    · exact fed
  | enoughData =>
    cases stepped
    unfold stopFeed
    split
    · rename_i feeding
      unfold Fed at fed ⊢
      simp [fed, feeding]
    · exact fed
  | dispatch id ret =>
    simp only [feedStep] at stepped
    split at stepped <;> cases stepped
    obtain rfl : ret = .ok := taken
    unfold Fed at fed ⊢
    rw [if_pos ((again_pushData .ok).mpr rfl)]
    simpa using fed

/-- A buffer that is not taken detaches the source whose id is kept. -/
theorem not_feedKept_of_untaken (fed : Fed data) (untaken : ¬ Taken event)
    (stepped : feedStep copy data event = some after) : ¬ FeedKept copy after := by
  cases event with
  | dispatch id ret =>
    have failed : ¬ ret = .ok := untaken
    simp only [feedStep] at stepped
    split at stepped <;> cases stepped
    rename_i called
    intro kept
    unfold Fed at fed
    by_cases stopped : data.sourceId = 0
    · rw [if_pos stopped] at fed
      rw [fed] at called
      cases called
    · rw [if_neg stopped] at fed
      rw [fed, List.mem_singleton] at called
      rw [if_neg (mt (again_pushData ret).mp failed)] at kept
      have tracked := kept.tracked
      simp [fed, called, stopped] at tracked
  | _ => exact (untaken trivial).elim

end Steps

section Runs

variable {copy : Copy} {events : List FeedEvent} {final : CustomData}

/-- **The feed's state machine.** `FeedKept` holds throughout a run if every buffer that the run
pushes is taken, and only then. -/
theorem feed_kept_iff (reached : runSteps (feedStep copy) .start events = some final) :
    (∀ before, before <+: events → ∀ data, runSteps (feedStep copy) .start before = some data →
      FeedKept copy data) ↔ ∀ event ∈ events, Taken event := by
  refine Iff.trans (kept_iff_along (fun _ => feedKept_of_fed) (fun _ _ _ => fed_step)
    (fun _ _ _ => not_feedKept_of_untaken) reached rfl) ?_
  exact ⟨forall_of_along reached, along_of_forall⟩

end Runs

/-! ### Two runs -/

/-- Feeding starts, stops and starts again, with another id. -/
def startedAgain : List FeedEvent :=
  [.needData 7, .dispatch 7 .ok, .enoughData, .needData 8, .dispatch 8 .ok]

theorem feed_kept_startedAgain :
    ∃ final, runSteps (feedStep appSrcSink) .start startedAgain = some final ∧
      FeedKept appSrcSink final := by
  refine ⟨_, rfl, (feed_kept_iff rfl).mpr ?_ startedAgain ⟨[], rfl⟩ _ rfl⟩
  decide

/-- The buffer is not taken, and then more data is wanted. -/
def refused : List FeedEvent := [.needData 7, .dispatch 7 .flushing, .needData 8]

/-- Nothing is attached, the id of the detached source is still kept, and the feed does not start
again. -/
def Lost (copy : Copy) : Prop :=
  ∃ final, runSteps (feedStep copy) .start refused = some final ∧ final.sourceId = 7 ∧
    final.attached = [] ∧ ¬ FeedKept copy final

theorem lost_of_refused (copy : Copy) : Lost copy := by
  have ends : (runSteps (feedStep copy) .start refused).map
      (fun final => (final.sourceId, final.attached)) = some (7, []) := rfl
  obtain ⟨final, reached, same⟩ := Option.map_eq_some_iff.mp ends
  simp only [Prod.mk.injEq] at same
  refine ⟨final, reached, same.1, same.2, fun kept => ?_⟩
  have tracked := kept.tracked
  simp [same] at tracked

/-- **A refused buffer ends the feed**, in both copies. -/
theorem feed_lost : Lost appSrcSink ∧ Lost appsrcPlaybin :=
  ⟨lost_of_refused appSrcSink, lost_of_refused appsrcPlaybin⟩

end GstPipeline.Tutorials
