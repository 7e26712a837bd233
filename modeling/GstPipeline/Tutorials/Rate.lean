/-
**The playback rate and the seeks that carry it.**

In `playback_basic.c` the keys `S` and `s` double and halve `data->rate` and `D` turns it round. Then
`send_seek_event` tells the pipeline, by a seek event with the new rate at the current position. It
gives up when the position is not known, and does not look at whether the event was accepted; the
rate stays as the key left it.

* `InStep`: the rate is that of the last seek event that was accepted, `1.0` if none was.
* `inStep_iff`: this holds after every line exactly when every line that changes the rate has its
  seek event sent and accepted.

The arithmetic of `gdouble` is a parameter (`Rates`), and so is what the pipeline answers to each
line (`Line`).
-/

import GstPipeline.Lib.Run
import GstPipeline.Tutorials.Buffering
import Mathlib.Data.Rat.Floor

namespace GstPipeline.Tutorials.PlaybackBasic

open GstPipeline.Lib

/-! ### The data -/

/-- The arithmetic of the rate, and its text under `%g`. -/
structure Rates (R : Type) where
  one : R
  double : R → R
  halve : R → R
  negate : R → R
  abs : R → R
  positive : R → Bool
  format : R → String

/-- `GstSeekType`. -/
inductive SeekType
  | set
  | fromEnd

/-- The events that are sent. Seeks are in `GST_FORMAT_TIME`, flushing and accurate; steps are in
`GST_FORMAT_BUFFERS` and flushing. -/
inductive Event (R : Type)
  | seek (rate : R) (startType : SeekType) (start : ℤ) (stopType : SeekType) (stop : ℤ)
  | step (amount : ℕ) (rate : R)

/-- A call of `gst_element_send_event`, and whether it returned `TRUE`. -/
structure Sent (R : Type) where
  sink : Option ℕ
  event : Event R
  accepted : Bool

/-- `CustomData_t`, with the states that the pipeline was set to, the events that were sent, the lines
that were printed and whether the main loop was quit. -/
structure CustomData (R : Type) where
  videoSink : Option ℕ
  playing : Bool
  rate : R
  requested : List GstState
  sent : List (Sent R)
  printed : List String
  quit : Bool

/-- A call of `handle_keyboard`: the line, where `g_io_channel_read_line` returns
`G_IO_STATUS_NORMAL`, and what the pipeline answers when it is asked for its position, for its
`video-sink` and to take an event. -/
structure Line where
  text : Option String
  position : Option ℤ
  sink : Option ℕ
  accepted : Bool

section Keyboard

variable {R : Type} (rates : Rates R)

/-- The data that `main` runs its loop with. -/
def CustomData.start : CustomData R := ⟨none, true, rates.one, [.playing], [], [], false⟩

/-- `video_sink`, got where it is not known. -/
def CustomData.gotSink (line : Line) (data : CustomData R) : CustomData R :=
  if data.videoSink = none then { data with videoSink := line.sink } else data

/-- `send_seek_event`. -/
def sendSeekEvent (line : Line) (data : CustomData R) : CustomData R :=
  match line.position with
  | none => { data with printed := data.printed ++ ["Unable to retrieve current position. \n"] }
  | some position =>
    let seekEvent :=
      if rates.positive data.rate then Event.seek data.rate .set position .fromEnd 0
      else Event.seek data.rate .set 0 .set position
    let data := data.gotSink line
    let text := rates.format data.rate
    { data with
      sent := data.sent ++ [⟨data.videoSink, seekEvent, line.accepted⟩]
      printed := data.printed ++ [s!"Current rate: {text}\n"] }

/-- `str[0]`. -/
def first (str : String) : Char := str.toList.headD '\x00'

/-- `handle_keyboard`. -/
def handleKeyboard (data : CustomData R) (line : Line) : CustomData R × Bool :=
  match line.text with
  | none => (data, true)
  | some str =>
    match (first str).toLower with
    | 'p' =>
      let playing := !data.playing
      let text := if playing then "PLAYING" else "PAUSE"
      ({ data with
          playing := playing
          requested := data.requested ++ [if playing then .playing else .paused]
          printed := data.printed ++ [s!"Setting state to {text} \n"] }, true)
    | 's' =>
      let rate := if (first str).isUpper then rates.double data.rate else rates.halve data.rate
      (sendSeekEvent rates line { data with rate := rate }, true)
    | 'd' => (sendSeekEvent rates line { data with rate := rates.negate data.rate }, true)
    | 'n' =>
      let data := data.gotSink line
      ({ data with
          sent := data.sent ++ [⟨data.videoSink, .step 1 (rates.abs data.rate), line.accepted⟩]
          printed := data.printed ++ ["Stepping one frame \n"] }, true)
    | 'q' => ({ data with quit := true }, true)
    | _ => (data, true)

/-- The lines, one after another. -/
def handleAll (lines : List Line) : CustomData R :=
  lines.foldl (fun data line => (handleKeyboard rates data line).1) (.start rates)

def keyboardStep (data : CustomData R) (line : Line) : Option (CustomData R) :=
  some (handleKeyboard rates data line).1

/-! ### The rate that was accepted -/

/-- The rate of a seek event that was accepted. -/
def Sent.seekRate : Sent R → Option R
  | ⟨_, .seek rate _ _ _ _, true⟩ => some rate
  | _ => none

def lastRate (sent : List (Sent R)) : R := ((sent.filterMap Sent.seekRate).getLast?).getD rates.one

/-- The rate is that of the last seek event that was accepted. -/
def InStep (data : CustomData R) : Prop := data.rate = lastRate rates data.sent

/-- The rate that a line asks for. -/
def newRate (line : Line) (rate : R) : R :=
  match line.text with
  | none => rate
  | some str =>
    if (first str).toLower = 's' then
      if (first str).isUpper then rates.double rate else rates.halve rate
    else if (first str).toLower = 'd' then rates.negate rate
    else rate

/-- The line leaves the rate as it is, or its seek event is sent and accepted. -/
def Clear (data : CustomData R) (line : Line) : Prop :=
  newRate rates line data.rate = data.rate ∨ line.position.isSome ∧ line.accepted

instance [DecidableEq R] (data : CustomData R) (line : Line) : Decidable (Clear rates data line) :=
  inferInstanceAs (Decidable (_ ∨ _))

instance [DecidableEq R] (data : CustomData R) : Decidable (InStep rates data) :=
  inferInstanceAs (Decidable (_ = _))

/-! ### One line -/

variable {rates} {data : CustomData R} {line : Line}

theorem lastRate_append (sent : List (Sent R)) (last : Sent R) :
    lastRate rates (sent ++ [last]) = last.seekRate.getD (lastRate rates sent) := by
  unfold lastRate
  rw [List.filterMap_append]
  cases found : last.seekRate with
  | none => simp [found]
  | some rate => simp [found]

@[simp] theorem rate_gotSink : (data.gotSink line).rate = data.rate := by
  unfold CustomData.gotSink
  split <;> rfl

@[simp] theorem sent_gotSink : (data.gotSink line).sent = data.sent := by
  unfold CustomData.gotSink
  split <;> rfl

@[simp] theorem rate_sendSeekEvent : (sendSeekEvent rates line data).rate = data.rate := by
  unfold sendSeekEvent
  split
  · rfl
  · exact rate_gotSink

/-- **One seek.** The rate is accepted when the event is. -/
theorem lastRate_sendSeekEvent :
    lastRate rates (sendSeekEvent rates line data).sent =
      if line.position.isSome ∧ line.accepted then data.rate else lastRate rates data.sent := by
  unfold sendSeekEvent
  split
  · rename_i unknown
    simp [unknown]
  · rename_i position known
    dsimp only
    rw [lastRate_append, sent_gotSink]
    cases line.accepted <;> split <;> simp [known, Sent.seekRate]

/-- **One line** sends a seek with the rate it asks for, or leaves both rates. -/
theorem handleKeyboard_cases (data : CustomData R) (line : Line) :
    (handleKeyboard rates data line).1 =
        sendSeekEvent rates line { data with rate := newRate rates line data.rate } ∨
      newRate rates line data.rate = data.rate ∧
        (handleKeyboard rates data line).1.rate = data.rate ∧
          lastRate rates (handleKeyboard rates data line).1.sent = lastRate rates data.sent := by
  unfold handleKeyboard newRate
  split
  · exact Or.inr ⟨rfl, rfl, rfl⟩
  · split
    · rename_i key
      simp [key]
    · rename_i key
      simp [key]
    · rename_i key
      simp [key]
    · rename_i key
      simp [key, lastRate_append, Sent.seekRate]
    · rename_i key
      simp [key]
    · rename_i speed direction _ _
      rw [if_neg speed, if_neg direction]
      exact Or.inr ⟨rfl, rfl, rfl⟩

/-- **The rate after one line.** -/
theorem inStep_handleKeyboard (inStep : InStep rates data) :
    InStep rates (handleKeyboard rates data line).1 ↔ Clear rates data line := by
  unfold InStep at inStep ⊢
  unfold Clear
  obtain seek | ⟨kept, rate, last⟩ := handleKeyboard_cases data line
  · rw [seek, rate_sendSeekEvent, lastRate_sendSeekEvent, ← inStep]
    split
    · rename_i taken
      simp [taken]
    · rename_i refused
      simp [refused]
  · rw [rate, last]
    exact ⟨fun _ => Or.inl kept, fun _ => inStep⟩

/-- **The rate over any lines.** -/
theorem inStep_iff (rates : Rates R) (lines : List Line) :
    (∀ before, before <+: lines → InStep rates (handleAll rates before)) ↔
      Along (keyboardStep rates) (Clear rates) (.start rates) lines := by
  have start : InStep rates (.start rates) := rfl
  exact kept_foldl_iff_along (I := InStep rates) (P := InStep rates)
    (fun data line => (handleKeyboard rates data line).1) (fun _ inStep => inStep)
    (fun _ _ inStep clear => (inStep_handleKeyboard inStep).mpr clear)
    (fun _ _ inStep unclear => mt (inStep_handleKeyboard inStep).mp unclear) start lines

end Keyboard

/-! ### Some lines -/

/-- Rates as exact rationals. -/
def exact : Rates ℚ where
  one := 1
  double rate := rate * 2
  halve rate := rate / 2
  negate rate := rate * -1
  abs rate := if rate < 0 then -rate else rate
  positive rate := 0 < rate
  format rate := toString rate

/-- Twice as fast, then a frame, then backwards, and every seek event is accepted. -/
def doubledAndTurned : List Line :=
  [⟨some "S\n", some 5, some 1, true⟩, ⟨some "n\n", none, none, false⟩,
    ⟨some "D\n", some 9, none, true⟩]

theorem inStep_doubledAndTurned :
    (∀ before, before <+: doubledAndTurned → InStep exact (handleAll exact before)) ∧
      (handleAll exact doubledAndTurned).rate = -2 :=
  ⟨(inStep_iff exact doubledAndTurned).mpr (by decide +kernel), by decide +kernel⟩

/-- **A seek that was not sent, and one that was refused.** The rate is `2` after them, where `1.0` is
the last that was accepted. -/
theorem out_of_step :
    ¬ InStep exact (handleAll exact [⟨some "S\n", none, some 1, true⟩]) ∧
      ¬ InStep exact (handleAll exact [⟨some "S\n", some 5, some 1, false⟩]) := by
  decide +kernel

end GstPipeline.Tutorials.PlaybackBasic
