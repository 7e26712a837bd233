/-
**Buffering and playback.**

`streaming.c` and `progressive_streaming.c` set a pipeline to `PLAYING` and then handle the messages
of its bus in `cb_msg`: a stream that is not live is paused while its buffer is below 100 percent
and played when it is full. When the clock is lost both set the pipeline to `PAUSED` and back to
`PLAYING`, for a new clock, and do not look at the buffer then; the head of `streaming.c` says that
this is what an application does. `progressive_streaming.c` also keeps the percentage, for its
display.

* `requests`: the states that one message makes either program request.
* `playback_gated`: after any messages that end neither program, the last state requested is
  `PLAYING` if the latest percentage is 100, or if the clock was lost since, and `PAUSED` otherwise.
* `clock_lost_resumes`: a lost clock while the buffer is at 50 percent.
-/

import Mathlib.Data.List.Induction

namespace GstPipeline.Tutorials

/-! ### Messages and states -/

/-- `GstState`. -/
inductive GstState
  | null
  | ready
  | paused
  | playing
  deriving DecidableEq

/-- `GstStateChangeReturn`. -/
inductive StateChangeReturn
  | failure
  | success
  | async
  | noPreroll
  deriving DecidableEq

/-- What a `BUFFERING` message carries. -/
structure Percent where
  value : Int
  low : 0 ≤ value
  high : value ≤ 100

/-- A message of the bus, by the cases of `cb_msg`. -/
inductive Message
  | error
  | eos
  | buffering (percent : Percent)
  | clockLost
  | other

/-- A message after which the main loop goes on. -/
def Message.Continues : Message → Prop
  | .error => False
  | .eos => False
  | _ => True

instance (message : Message) : Decidable message.Continues := by
  cases message <;> unfold Message.Continues <;> infer_instance

/-- `CustomData_t` of `streaming.c`: whether the stream is live, the states requested of the
pipeline, and whether the main loop was asked to quit. -/
structure Player where
  isLive : Bool
  requested : List GstState
  quit : Bool

namespace Player

/-- `gst_element_set_state`. -/
def setState (player : Player) (state : GstState) : Player :=
  { player with requested := player.requested ++ [state] }

/-- `g_main_loop_quit`. -/
def quitLoop (player : Player) : Player := { player with quit := true }

end Player

/-! ### The two programs -/

namespace Streaming

/-- `main`, up to the main loop, when setting the pipeline to `PLAYING` returns `ret`. -/
def main (ret : StateChangeReturn) : Player :=
  { isLive := ret = .noPreroll, requested := [.playing], quit := false }

/-- `cb_msg`. -/
def cbMsg (data : Player) : Message → Player
  | .error => (data.setState .ready).quitLoop
  | .eos => (data.setState .ready).quitLoop
  | .buffering percent =>
    if data.isLive then data
    else if percent.value < 100 then data.setState .paused
    else data.setState .playing
  | .clockLost => (data.setState .paused).setState .playing
  | .other => data

end Streaming

namespace ProgressiveStreaming

/-- `CustomData_t` of `progressive_streaming.c`, which has the percentage as well. -/
structure CustomData extends Player where
  bufLv : Int

/-- `main`, up to the main loop: it returns when the pipeline cannot be set to `PLAYING`. -/
def main (ret : StateChangeReturn) : Option CustomData :=
  if ret = .failure then none
  else some { isLive := ret = .noPreroll, requested := [.playing], quit := false, bufLv := 100 }

/-- `cb_msg`. -/
def cbMsg (data : CustomData) : Message → CustomData
  | .error => { data with toPlayer := (data.setState .ready).quitLoop }
  | .eos => { data with toPlayer := (data.setState .ready).quitLoop }
  | .buffering percent =>
    if data.isLive then data
    else
      { toPlayer :=
          if percent.value < 100 then data.setState .paused else data.setState .playing
        bufLv := percent.value }
  | .clockLost => { data with toPlayer := (data.setState .paused).setState .playing }
  | .other => data

end ProgressiveStreaming

/-! ### What one message requests -/

/-- The states that a message makes either program request. -/
def requests (isLive : Bool) : Message → List GstState
  | .error => [.ready]
  | .eos => [.ready]
  | .buffering percent =>
    if isLive then [] else if percent.value < 100 then [.paused] else [.playing]
  | .clockLost => [.paused, .playing]
  | .other => []

theorem Streaming.cbMsg_requests (data : Player) (message : Message) :
    (Streaming.cbMsg data message).isLive = data.isLive ∧
      (Streaming.cbMsg data message).requested =
        data.requested ++ requests data.isLive message := by
  cases message with
  | buffering percent =>
    simp only [Streaming.cbMsg, requests]
    split
    · exact ⟨rfl, (List.append_nil _).symm⟩
    · split <;> exact ⟨rfl, rfl⟩
  | clockLost => exact ⟨rfl, by simp [Streaming.cbMsg, requests, Player.setState]⟩
  | other => exact ⟨rfl, (List.append_nil _).symm⟩
  | _ => exact ⟨rfl, rfl⟩

/-- `progressive_streaming.c` handles a message as `streaming.c` does, and keeps the percentage. -/
theorem ProgressiveStreaming.toPlayer_cbMsg (data : CustomData) (message : Message) :
    (ProgressiveStreaming.cbMsg data message).toPlayer =
      Streaming.cbMsg data.toPlayer message := by
  cases message with
  | buffering percent =>
    simp only [ProgressiveStreaming.cbMsg, Streaming.cbMsg]
    split
    · rfl
    · rfl
  | _ => rfl

/-! ### Runs -/

/-- The percentage of the latest `BUFFERING` message, after one more message. -/
def percentAfter (latest : Int) : Message → Int
  | .buffering percent => percent.value
  | _ => latest

/-- Whether the clock was lost after the latest `BUFFERING` message, after one more message. -/
def lostAfter (lost : Bool) : Message → Bool
  | .buffering _ => false
  | .clockLost => true
  | _ => lost

/-- The percentage of the latest `BUFFERING` message, 100 if there is none. -/
def latestPercent (messages : List Message) : Int := messages.foldl percentAfter 100

/-- The clock was lost after the latest `BUFFERING` message. -/
def clockLostSince (messages : List Message) : Bool := messages.foldl lostAfter false

theorem Streaming.run_requests (data : Player) (messages : List Message) :
    (messages.foldl Streaming.cbMsg data).requested =
      data.requested ++ messages.flatMap (requests data.isLive) := by
  induction messages generalizing data with
  | nil => exact (List.append_nil _).symm
  | cons message rest ih =>
    obtain ⟨sameLive, requested⟩ := Streaming.cbMsg_requests data message
    rw [List.foldl_cons, ih, sameLive, requested, List.flatMap_cons, List.append_assoc]

theorem ProgressiveStreaming.toPlayer_run (data : CustomData) (messages : List Message) :
    (messages.foldl ProgressiveStreaming.cbMsg data).toPlayer =
      messages.foldl Streaming.cbMsg data.toPlayer := by
  induction messages generalizing data with
  | nil => rfl
  | cons message rest ih =>
    rw [List.foldl_cons, List.foldl_cons, ih, ProgressiveStreaming.toPlayer_cbMsg]

/-- The state that the messages leave a stream that is not live in. -/
def gate (messages : List Message) : GstState :=
  if latestPercent messages = 100 ∨ clockLostSince messages = true then .playing else .paused

theorem gate_snoc (messages : List Message) (message : Message) :
    gate (messages ++ [message]) =
      if percentAfter (latestPercent messages) message = 100 ∨
        lostAfter (clockLostSince messages) message = true then .playing else .paused := by
  unfold gate latestPercent clockLostSince
  rw [List.foldl_append, List.foldl_append]
  rfl

/-- **The last request**, by the last message that makes one. -/
theorem last_requested {messages : List Message} (continues : ∀ m ∈ messages, m.Continues) :
    (.playing :: messages.flatMap (requests false)).getLast? = some (gate messages) := by
  induction messages using List.reverseRecOn with
  | nil => rfl
  | append_singleton messages message ih =>
    have earlier := ih fun m member => continues m (List.mem_append_left _ member)
    have last := continues message (by simp)
    rw [gate_snoc, List.flatMap_append, ← List.cons_append, List.flatMap_singleton]
    cases message with
    | buffering percent =>
      have high := percent.high
      by_cases low : percent.value < 100
      · have notFull : ¬ (percent.value = 100 ∨ false = true) := by simp; omega
        rw [requests, if_neg nofun, if_pos low, List.getLast?_concat]
        exact congrArg some (if_neg notFull).symm
      · have full : percent.value = 100 := by omega
        rw [requests, if_neg nofun, if_neg low, List.getLast?_concat]
        exact congrArg some (if_pos (Or.inl full)).symm
    | clockLost =>
      rw [requests, List.append_cons, List.getLast?_concat]
      exact congrArg some (if_pos (Or.inr rfl)).symm
    | other =>
      rw [requests, List.append_nil, earlier]
      rfl
    | _ => cases last

/-- **Buffering and playback.** In both programs, when the stream is not live and no message has
ended it, the last state requested is `PLAYING` if the latest percentage is 100 or the clock was
lost since, and `PAUSED` otherwise. -/
theorem playback_gated {ret : StateChangeReturn} {messages : List Message}
    (set : ret = .success ∨ ret = .async) (continues : ∀ m ∈ messages, m.Continues) :
    (messages.foldl Streaming.cbMsg (Streaming.main ret)).requested.getLast? =
        some (gate messages) ∧
      ∃ data, ProgressiveStreaming.main ret = some data ∧
        (messages.foldl ProgressiveStreaming.cbMsg data).requested.getLast? =
          some (gate messages) := by
  have started : Streaming.main ret = ⟨false, [.playing], false⟩ := by
    rcases set with rfl | rfl <;> rfl
  have startedToo : ProgressiveStreaming.main ret = some ⟨⟨false, [.playing], false⟩, 100⟩ := by
    rcases set with rfl | rfl <;> rfl
  refine ⟨?_, _, startedToo, ?_⟩
  · rw [started, Streaming.run_requests]
    exact last_requested continues
  · rw [ProgressiveStreaming.toPlayer_run, Streaming.run_requests]
    exact last_requested continues

/-! ### Two runs -/

/-- Half a buffer. -/
def half : Percent := ⟨50, by decide, by decide⟩

/-- The clock is lost, and then the buffer runs low. -/
def lostThenLow : List Message := [.clockLost, .buffering half, .other]

theorem playback_gated_lostThenLow :
    (lostThenLow.foldl Streaming.cbMsg (Streaming.main .async)).requested.getLast? =
        some .paused ∧
      ∃ data, ProgressiveStreaming.main .async = some data ∧
        (lostThenLow.foldl ProgressiveStreaming.cbMsg data).requested.getLast? =
          some .paused :=
  playback_gated (Or.inr rfl) (show ∀ m ∈ lostThenLow, m.Continues by decide)

/-- **A lost clock resumes playback** with half a buffer, in both programs. -/
theorem clock_lost_resumes :
    latestPercent [.buffering half, .clockLost] = 50 ∧
      ([Message.buffering half, .clockLost].foldl Streaming.cbMsg
        (Streaming.main .success)).requested.getLast? = some .playing ∧
      ((ProgressiveStreaming.main .success).map fun data =>
        ([Message.buffering half, .clockLost].foldl ProgressiveStreaming.cbMsg
          data).requested.getLast?) = some (some .playing) :=
  ⟨rfl, rfl, rfl⟩

end GstPipeline.Tutorials
