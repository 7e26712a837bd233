/-
**What a feed pushes.**

The buffers that `push_data` pushes are stamped by a counter of the samples before them, and filled
by a loop that divides by a frequency which swings with `d`. Neither is touched by `start_feed` or
`stop_feed`. Here these functions are called in any order (`callAll`), whether or not the main loop
could do so, and `Stream` is what of their data only `push_data` moves:

* `stream_callAll`, `stream_of_run`: a list of calls, and a run of the feed, leave the stream that
  their calls of `push_data` alone leave.
* `pushed_gapless`: the buffers' timestamps leave no gap of more than the nanosecond that is lost in
  rounding, and no overlap.
* `freq_pos`: the frequency is positive. In `app_src_sink.c`, `c` and `d` are the position and the
  velocity of an oscillator, which never gets so fast that `d` is `-1.1`.
-/

import GstPipeline.Tutorials.Feed
import GstPipeline.Lib.Oscillator
import Mathlib.Data.Nat.ModEq

namespace GstPipeline.Tutorials

open GstPipeline.Lib

/-! ### Calls in any order -/

inductive Call
  | startFeed (id : ℕ)
  | stopFeed
  | pushData (ret : FlowReturn)
  deriving DecidableEq

def call (copy : Copy) (data : CustomData) : Call → CustomData
  | .startFeed id => startFeed copy id data
  | .stopFeed => stopFeed copy data
  | .pushData ret => (pushData copy data ret).1

def callAll (copy : Copy) (calls : List Call) : CustomData := calls.foldl (call copy) .start

def Call.pushes : Call → Bool
  | .pushData _ => true
  | _ => false

def FeedEvent.pushes : FeedEvent → Bool
  | .dispatch _ _ => true
  | _ => false

/-! ### The stream -/

/-- The fields that only `push_data` moves. -/
structure Stream where
  numSamples : ℕ
  wave : Wave
  pushed : List Buffer

def CustomData.stream (data : CustomData) : Stream := ⟨data.numSamples, data.wave, data.pushed⟩

/-- `c` and `d` move before the sample loop. -/
def Wave.swung (copy : Copy) (wave : Wave) : Wave :=
  { wave with c := copy.nextC wave, d := wave.d - copy.nextC wave / 1000 }

/-- `freq`, in the next call of `push_data`: what the sample loop divides by. -/
def Copy.freq (copy : Copy) (wave : Wave) : ℚ := 1100 + 1000 * (wave.swung copy).d

/-- A call of `push_data`. -/
def Stream.push (copy : Copy) (stream : Stream) : Stream :=
  let filled := fill (copy.freq stream.wave) (bufSize / 2) (stream.wave.swung copy)
  { numSamples := (stream.numSamples + bufSize / 2) % 2 ^ 64
    wave := filled.2
    pushed := stream.pushed ++
      [⟨uint64Scale stream.numSamples gstSecond sampleRate,
        uint64Scale (bufSize / 2) gstSecond sampleRate, filled.1⟩] }

/-- The stream after `n` calls of `push_data`. -/
def streamAfter (copy : Copy) (n : ℕ) : Stream := (Stream.push copy)^[n] CustomData.start.stream

section Streams

variable {copy : Copy} {data : CustomData}

@[simp] theorem stream_startFeed (id : ℕ) : (startFeed copy id data).stream = data.stream := by
  unfold startFeed
  split <;> rfl

@[simp] theorem stream_stopFeed : (stopFeed copy data).stream = data.stream := by
  unfold stopFeed
  split <;> rfl

theorem pushData_eq (ret : FlowReturn) :
    pushData copy data ret =
      ({ data with
          numSamples := (data.numSamples + bufSize / 2) % 2 ^ 64
          wave := (fill (copy.freq data.wave) (bufSize / 2) (data.wave.swung copy)).2
          pushed := data.pushed ++
            [⟨uint64Scale data.numSamples gstSecond sampleRate,
              uint64Scale (bufSize / 2) gstSecond sampleRate,
              (fill (copy.freq data.wave) (bufSize / 2) (data.wave.swung copy)).1⟩] },
        decide (ret = .ok)) := rfl

@[simp] theorem stream_pushData (ret : FlowReturn) :
    (pushData copy data ret).1.stream = data.stream.push copy := by
  have wave : data.stream.wave = data.wave := rfl
  rw [pushData_eq, Stream.push, wave]
  -- The loop stays closed: it has 512 steps.
  generalize fill _ _ _ = filled
  rfl

theorem stream_foldl (calls : List Call) :
    (calls.foldl (call copy) data).stream =
      (Stream.push copy)^[calls.countP Call.pushes] data.stream := by
  induction calls generalizing data with
  | nil => rfl
  | cons next calls ih =>
    rw [List.foldl_cons, ih]
    cases next with
    | startFeed id => rw [List.countP_cons_of_neg Bool.false_ne_true, call, stream_startFeed]
    | stopFeed => rw [List.countP_cons_of_neg Bool.false_ne_true, call, stream_stopFeed]
    | pushData ret =>
      rw [List.countP_cons_of_pos rfl, Function.iterate_succ_apply, call, stream_pushData]

/-- **Calls in any order.** -/
theorem stream_callAll (calls : List Call) :
    (callAll copy calls).stream = streamAfter copy (calls.countP Call.pushes) :=
  stream_foldl calls

/-- Detaching a source leaves the stream. -/
theorem stream_detach (attached : List ℕ) :
    ({ data with attached := attached } : CustomData).stream = data.stream := rfl

theorem stream_runSteps {events : List FeedEvent} {final : CustomData}
    (reached : runSteps (feedStep copy) data events = some final) :
    final.stream = (Stream.push copy)^[events.countP FeedEvent.pushes] data.stream := by
  induction events generalizing data with
  | nil =>
    cases reached
    rfl
  | cons event events ih =>
    obtain ⟨next, stepped, later⟩ := runSteps_cons.mp reached
    rw [ih later]
    cases event with
    | needData id =>
      simp only [feedStep] at stepped
      split at stepped <;> cases stepped
      rw [List.countP_cons_of_neg Bool.false_ne_true, stream_startFeed]
    | enoughData =>
      cases stepped
      rw [List.countP_cons_of_neg Bool.false_ne_true, stream_stopFeed]
    | dispatch id ret =>
      simp only [feedStep] at stepped
      split at stepped <;> cases stepped
      rw [List.countP_cons_of_pos rfl, Function.iterate_succ_apply]
      split
      · rw [stream_pushData]
      · rw [stream_detach, stream_pushData]

/-- **Runs of the feed.** -/
theorem stream_of_run {events : List FeedEvent} {final : CustomData}
    (reached : runSteps (feedStep copy) .start events = some final) :
    final.stream = streamAfter copy (events.countP FeedEvent.pushes) :=
  stream_runSteps reached

end Streams

/-- What every push keeps. -/
theorem streamAfter_invariant (copy : Copy) {I : Stream → Prop}
    (initially : I CustomData.start.stream) (keeps : ∀ stream, I stream → I (stream.push copy))
    (n : ℕ) : I (streamAfter copy n) := by
  induction n with
  | zero => exact initially
  | succ n ih =>
    unfold streamAfter at ih ⊢
    rw [Function.iterate_succ_apply']
    exact keeps _ ih

/-! ### Timestamps -/

/-- The time before the `k`-th buffer, in nanoseconds. -/
def bufferTime (k : ℕ) : ℕ := 512 * k * 10 ^ 9 / 44100

/-- As long as the time fits 64 bits, buffers have the time before them as their timestamp, later
buffers have later ones, and a buffer ends where the next one starts or a nanosecond before. -/
structure Gapless (buffers : List Buffer) : Prop where
  timestamp : ∀ k buffer, buffers[k]? = some buffer → bufferTime k < 2 ^ 64 →
    buffer.timestamp = bufferTime k
  increasing : ∀ i k earlier later, i < k → buffers[i]? = some earlier →
    buffers[k]? = some later → bufferTime k < 2 ^ 64 → earlier.timestamp < later.timestamp
  contiguous : ∀ k buffer next, buffers[k]? = some buffer → buffers[k + 1]? = some next →
    bufferTime (k + 1) < 2 ^ 64 →
      buffer.timestamp + buffer.duration ≤ next.timestamp ∧
        next.timestamp ≤ buffer.timestamp + buffer.duration + 1

/-- The counter and the stamps of a stream. -/
structure Counted (stream : Stream) : Prop where
  counter : stream.numSamples = 512 * stream.pushed.length % 2 ^ 64
  stamps : ∀ k buffer, stream.pushed[k]? = some buffer →
    buffer.timestamp = uint64Scale (512 * k % 2 ^ 64) gstSecond sampleRate ∧
      buffer.duration = uint64Scale 512 gstSecond sampleRate

/-- **One push.** -/
theorem counted_push {copy : Copy} {stream : Stream} (counted : Counted stream) :
    Counted (stream.push copy) := by
  obtain ⟨counter, stamps⟩ := counted
  constructor
  · have next : (stream.push copy).numSamples = (stream.numSamples + 512) % 2 ^ 64 := rfl
    rw [next, counter, Stream.push, List.length_append, List.length_singleton]
    omega
  · intro k buffer here
    rw [Stream.push, List.getElem?_append] at here
    split at here
    · exact stamps k buffer here
    · rename_i last
      obtain ⟨same, rfl⟩ := List.getElem?_eq_some_iff.mp here
      rw [List.length_singleton] at same
      obtain rfl : k = stream.pushed.length := by omega
      rw [← counter, List.getElem_singleton]
      exact ⟨rfl, rfl⟩

theorem counted_streamAfter (copy : Copy) (n : ℕ) : Counted (streamAfter copy n) :=
  streamAfter_invariant copy ⟨rfl, nofun⟩ (fun _ counted => counted_push counted) n

/-- A counter whose time fits has not wrapped around. -/
theorem uint64Scale_counter {k : ℕ} (fits : bufferTime k < 2 ^ 64) :
    uint64Scale (512 * k % 2 ^ 64) gstSecond sampleRate = bufferTime k := by
  unfold bufferTime at fits ⊢
  have counter : 512 * k < 2 ^ 64 := by omega
  rw [Nat.mod_eq_of_lt counter]
  unfold uint64Scale gstSecond sampleRate
  omega

theorem bufferTime_lt {i k : ℕ} (before : i < k) : bufferTime i < bufferTime k := by
  unfold bufferTime
  omega

/-- **Rounding.** The rounded time of one more buffer is the sum of the rounded times, or one more. -/
theorem bufferTime_succ (k : ℕ) :
    bufferTime k + bufferTime 1 ≤ bufferTime (k + 1) ∧
      bufferTime (k + 1) ≤ bufferTime k + bufferTime 1 + 1 := by
  have sum : 512 * (k + 1) * 10 ^ 9 = 512 * k * 10 ^ 9 + 512 * 1 * 10 ^ 9 := by ring
  unfold bufferTime
  rw [sum]
  exact ⟨Nat.div_add_div_le_add_div, Nat.add_div_le_div_add_div_add_one _ _ _⟩

theorem gapless_of_counted {stream : Stream} (counted : Counted stream) :
    Gapless stream.pushed := by
  have stamped : ∀ k buffer, stream.pushed[k]? = some buffer → bufferTime k < 2 ^ 64 →
      buffer.timestamp = bufferTime k := fun k buffer here fits =>
    (counted.stamps k buffer here).1.trans (uint64Scale_counter fits)
  refine ⟨stamped, fun i k earlier later before first second fits => ?_,
    fun k buffer next here after fits => ?_⟩
  · have times := bufferTime_lt before
    rw [stamped i earlier first (times.trans fits), stamped k later second fits]
    exact times
  · have times := bufferTime_lt (Nat.lt_succ_self k)
    have duration : buffer.duration = bufferTime 1 := (counted.stamps k buffer here).2
    rw [stamped k buffer here (times.trans fits), stamped (k + 1) next after fits, duration]
    exact bufferTime_succ k

theorem gapless_of_stream {copy : Copy} {data : CustomData} {n : ℕ}
    (same : data.stream = streamAfter copy n) : Gapless data.pushed := by
  have counted : Counted data.stream := same ▸ counted_streamAfter copy n
  exact gapless_of_counted counted

/-- **Gapless timestamps**, for the calls in any order. -/
theorem pushed_gapless (copy : Copy) (calls : List Call) : Gapless (callAll copy calls).pushed :=
  gapless_of_stream (stream_callAll calls)

theorem gapless_of_run {copy : Copy} {events : List FeedEvent} {final : CustomData}
    (reached : runSteps (feedStep copy) .start events = some final) : Gapless final.pushed :=
  gapless_of_stream (stream_of_run reached)

/-- Feeding stops and starts again between the buffers, and the last one is not taken. -/
example : (callAll appSrcSink [.startFeed 7, .pushData .ok, .stopFeed, .startFeed 8,
    .pushData .ok, .pushData .flushing]).pushed.map (fun buffer => buffer.timestamp) =
      [0, 11609977, 23219954] := by decide +kernel

/-! ### The frequency -/

/-- The sample loop leaves `c` and `d` as they are. -/
theorem fill_keeps (freq : ℚ) (n : ℕ) (wave : Wave) :
    (fill freq n wave).2.c = wave.c ∧ (fill freq n wave).2.d = wave.d := by
  induction n generalizing wave with
  | zero => exact ⟨rfl, rfl⟩
  | succ n ih => exact ih _

theorem wave_push (copy : Copy) (stream : Stream) :
    (stream.push copy).wave.c = (stream.wave.swung copy).c ∧
      (stream.push copy).wave.d = (stream.wave.swung copy).d := by
  rw [Stream.push]
  exact fill_keeps _ _ _

/-- `c` and `d` in `app_src_sink.c`. -/
def Stream.phase (stream : Stream) : ℚ × ℚ := (stream.wave.c, stream.wave.d)

@[simp] theorem phase_snd (stream : Stream) : stream.phase.2 = stream.wave.d := rfl

theorem phase_push (stream : Stream) :
    (stream.push appSrcSink).phase = swing (1 / 1000) stream.phase := by
  obtain ⟨c, d⟩ := wave_push appSrcSink stream
  have next : (stream.wave.swung appSrcSink).d =
      stream.wave.d - 1 / 1000 * (stream.wave.c + stream.wave.d) := by
    show stream.wave.d - (stream.wave.c + stream.wave.d) / 1000 = _
    ring
  unfold Stream.phase swing
  rw [c, d, next]
  rfl

/-- **The oscillator in `app_src_sink.c`.** -/
theorem phase_streamAfter (n : ℕ) :
    (streamAfter appSrcSink n).phase = (swing (1 / 1000))^[n] (0, 1) := by
  have swings : Function.Semiconj Stream.phase (Stream.push appSrcSink) (swing (1 / 1000)) :=
    phase_push
  exact (swings.iterate_right n) CustomData.start.stream

theorem energy_streamAfter (n : ℕ) :
    energy (1 / 1000) (streamAfter appSrcSink n).phase = 1 := by
  rw [phase_streamAfter, energy_iterate_swing]
  norm_num [energy]

/-- `d` never gets to `-1.1`. -/
theorem appSrcSink_freq_pos {stream : Stream} (same : energy (1 / 1000) stream.phase = 1) :
    0 < appSrcSink.freq stream.wave := by
  have weak : 4 * energy (1 / 1000) (stream.push appSrcSink).phase <
      (4 - 1 / 1000) * (11 / 10) ^ 2 := by
    rw [phase_push, energy_swing, same]
    norm_num
  have slow := abs_velocity_lt (by norm_num) (by norm_num) (by norm_num) weak
  rw [phase_snd, (wave_push appSrcSink stream).2] at slow
  have next := (abs_lt.mp slow).1
  unfold Copy.freq
  linarith

/-- `d` loses a thousandth in each step. -/
theorem appsrcPlaybin_d_pos (n : ℕ) : 0 < (streamAfter appsrcPlaybin n).wave.d := by
  refine streamAfter_invariant appsrcPlaybin (I := fun stream => 0 < stream.wave.d) ?_
    (fun stream positive => ?_) n
  · exact one_pos
  · rw [(wave_push appsrcPlaybin stream).2]
    show 0 < stream.wave.d - stream.wave.d / 1000
    linarith

theorem appsrcPlaybin_freq_pos {stream : Stream} (positive : 0 < stream.wave.d) :
    0 < appsrcPlaybin.freq stream.wave := by
  show 0 < 1100 + 1000 * (stream.wave.d - stream.wave.d / 1000)
  linarith

/-- **The divisor of the sample loop is positive**, in the next call after any others. -/
theorem freq_pos (calls : List Call) :
    0 < appSrcSink.freq (callAll appSrcSink calls).wave ∧
      0 < appsrcPlaybin.freq (callAll appsrcPlaybin calls).wave := by
  have wave : ∀ copy, (callAll copy calls).wave = (streamAfter copy _).wave := fun _ =>
    congrArg Stream.wave (stream_callAll calls)
  rw [wave, wave]
  exact ⟨appSrcSink_freq_pos (energy_streamAfter _),
    appsrcPlaybin_freq_pos (appsrcPlaybin_d_pos _)⟩

end GstPipeline.Tutorials
