/-
**The seek and the duration of `time_management.c`.**

The main loop waits 100 ms for a message. It handles one that comes, and otherwise, while the pipeline
plays, prints the position and the duration and seeks once the position is past ten seconds. What it
does then depends on all the messages before it, which the fields of `CustomData_t` stand for: a state
change of the playbin sets `playing` and asks whether the stream can be seeked, `DURATION` makes
`duration` invalid again, and a query that answers makes it valid.

* `isPlaying`, `lastSeekable`, `EverDue`, `Cached`: what the passes made so far say, without the
  fields.
* `History`: the fields are what the history says. Every pass keeps it.
* `seeks_at_first_due`: the program seeks at the first pass at which a seek is due, to 30 seconds, and
  at no other.
* `durations_fresh`: a duration that is printed was answered after the last `DURATION` message.
-/

import GstPipeline.Lib.Trace
import GstPipeline.Tutorials.Buffering
import Mathlib.Data.Int.Notation
import Mathlib.Data.List.Basic

namespace GstPipeline.Tutorials.TimeManagement

open GstPipeline.Lib

/-! ### The program -/

/-- `GST_SECOND`, in nanoseconds. -/
def second : ℤ := 1000000000

/-- `GST_CLOCK_TIME_NONE` as a `gint64`. -/
def clockTimeNone : ℤ := -1

/-- What `gst_query_parse_seeking` gives. -/
structure Seeking where
  seekable : Bool
  start : ℤ
  stop : ℤ

/-- A message of the bus. A `STATE_CHANGED` carries what the playbin answers to a seeking query, if it
is asked then. -/
inductive Message
  | error (source message : String) (debugInfo : Option String)
  | eos
  | duration
  | stateChanged (fromPlaybin : Bool) (old new : GstState) (query : Option Seeking)
  | other

/-- What a pass of the loop meets: a message, or none within 100 ms. With none it has the answers of
the playbin to the queries for the position and the duration, if it asks. -/
inductive Pass
  | message (msg : Message)
  | timeout (position duration : Option ℤ)

/-- What the program prints, and the seeks it asks for. -/
inductive Output
  | print (text : String)
  | printerr (text : String)
  | printPosition (current duration : ℤ)
  | printSeekable (start stop : ℤ)
  | seekSimple (flush keyUnit : Bool) (position : ℤ)
  deriving DecidableEq

/-- `CustomData_t`, without the playbin. -/
structure CustomData where
  playing : Bool
  terminated : Bool
  seekEnabled : Bool
  seekDone : Bool
  duration : ℤ
  deriving DecidableEq

/-- The data at the start of the loop. -/
def CustomData.start : CustomData := ⟨false, false, false, false, clockTimeNone⟩

/-- `gst_element_state_get_name`. -/
def stateName : GstState → String
  | .null => "NULL"
  | .ready => "READY"
  | .paused => "PAUSED"
  | .playing => "PLAYING"

/-- `handle_message`. -/
def handleMessage (data : CustomData) : Message → CustomData × List Output
  | .error source message debugInfo =>
    let debug := debugInfo.getD "none"
    ({ data with terminated := true },
      [.printerr s!"Error received from element {source}: {message} \n",
        .printerr s!"Debugging information: {debug} \n"])
  | .eos => ({ data with terminated := true }, [.print "End-of-Stream reached. \n"])
  | .duration => ({ data with duration := clockTimeNone }, [])
  | .stateChanged true old new query =>
    let oldName := stateName old
    let newName := stateName new
    let changed := Output.print s!"Pipeline state changed from {oldName} to {newName}: \n"
    if new = .playing then
      match query with
      | some seeking =>
        ({ data with playing := true, seekEnabled := seeking.seekable },
          [changed, if seeking.seekable then .printSeekable seeking.start seeking.stop
            else .print "Seeking is DISABLED for this stream. \n"])
      | none => ({ data with playing := true }, [changed, .printerr "Seeking query failed."])
    else ({ data with playing := false }, [changed])
  | .stateChanged false _ _ _ => (data, [])
  | .other => (data, [.printerr "Unexpected message received"])

/-- The branch of the loop without a message. -/
def timedOut (data : CustomData) (position duration : Option ℤ) : CustomData × List Output :=
  if data.playing then
    let current := position.getD (-1)
    let now := if data.duration = clockTimeNone then duration.getD data.duration else data.duration
    let seeks := data.seekEnabled && !data.seekDone && decide (10 * second < current)
    ({ data with duration := now, seekDone := data.seekDone || seeks },
      (if position.isSome then [] else [.printerr "Could not query current position. \n"]) ++
        (if data.duration = clockTimeNone ∧ duration = none then
          [.printerr "Could not query current duration. \n"] else []) ++
        [.printPosition current now] ++
        if seeks then
          [.print "\nReached 10s, performing seek...\n", .seekSimple true true (30 * second)]
        else [])
  else (data, [])

/-- One pass of the loop in `main`. -/
def pass (data : CustomData) : Pass → CustomData × List Output
  | .message msg => handleMessage data msg
  | .timeout position duration => timedOut data position duration

/-- The loop in `main`: `none` when it has ended. -/
def step (data : CustomData) (met : Pass) : Option CustomData :=
  if data.terminated then none else some (pass data met).1

/-- What a pass prints and asks for. -/
def shows (data : CustomData) (met : Pass) : List Output := (pass data met).2

/-! ### What the history says -/

/-- The state that a pass says the playbin has changed to. -/
def changedTo : Pass → Option GstState
  | .message (.stateChanged true _ new _) => some new
  | _ => none

/-- The answer of a pass to a seeking query. -/
def answeredSeekable : Pass → Option Bool
  | .message (.stateChanged true _ .playing (some seeking)) => some seeking.seekable
  | _ => none

/-- The last state change of the playbin was to `PLAYING`. -/
def isPlaying (passes : List Pass) : Bool := (passes.filterMap changedTo).getLast? = some .playing

/-- The last answer to a seeking query was that the stream can be seeked. -/
def lastSeekable (passes : List Pass) : Bool :=
  (passes.filterMap answeredSeekable).getLast? = some true

/-- The pass ends the loop. -/
def Ends : Pass → Prop
  | .message (.error _ _ _) => True
  | .message .eos => True
  | _ => False

/-- A seek is due at the pass. -/
def Due (before : List Pass) (met : Pass) : Prop :=
  isPlaying before = true ∧ lastSeekable before = true ∧
    ∃ position duration, met = .timeout (some position) duration ∧ 10 * second < position

/-- A seek was due at one of the passes. -/
def EverDue (passes : List Pass) : Prop :=
  ∃ before met after, passes = before ++ met :: after ∧ Due before met

/-- The pass has a valid duration, of the pipeline as it plays. -/
def Answers (before : List Pass) (met : Pass) (duration : ℤ) : Prop :=
  isPlaying before = true ∧ duration ≠ clockTimeNone ∧
    ∃ position, met = .timeout position (some duration)

/-- The pass is a `DURATION` message. -/
def Resets (met : Pass) : Prop := met = .message .duration

/-- The duration is the first valid one since the last `DURATION` message. -/
def Cached (passes : List Pass) (duration : ℤ) : Prop :=
  ∃ before met after, passes = before ++ met :: after ∧ Answers before met duration ∧
    (∀ later ∈ after, ¬ Resets later) ∧
    ∀ earlier other between old, before = earlier ++ other :: between →
      Answers earlier other old → ∃ reset ∈ between, Resets reset

section Histories

variable {passes : List Pass} {met : Pass}

/-- What is there with one pass more, by where it is. -/
theorem snoc_eq_append_cons {before after : List Pass} {other : Pass} :
    passes ++ [met] = before ++ other :: after ↔
      (before = passes ∧ other = met ∧ after = []) ∨
        ∃ rest, after = rest ++ [met] ∧ passes = before ++ other :: rest := by
  rcases List.eq_nil_or_concat after with rfl | ⟨rest, last, rfl⟩
  · constructor
    · intro same
      obtain ⟨rfl, rfl⟩ := List.append_inj' same rfl |>.imp id List.singleton_inj.mp
      exact Or.inl ⟨rfl, rfl, rfl⟩
    · rintro (⟨rfl, rfl, _⟩ | ⟨rest, impossible, _⟩)
      · rfl
      · simp at impossible
  · rw [List.concat_eq_append, ← List.cons_append, ← List.append_assoc]
    constructor
    · intro same
      obtain ⟨rfl, last⟩ := List.append_inj' same rfl
      exact Or.inr ⟨rest, by rw [List.singleton_inj.mp last], rfl⟩
    · rintro (⟨_, _, impossible⟩ | ⟨others, same, rfl⟩)
      · simp at impossible
      · obtain ⟨rfl, last⟩ := List.append_inj' same rfl
        rw [List.singleton_inj.mp last]

theorem isPlaying_snoc :
    isPlaying (passes ++ [met]) =
      match changedTo met with
      | some state => decide (state = .playing)
      | none => isPlaying passes := by
  unfold isPlaying
  rw [List.filterMap_append]
  cases changed : changedTo met with
  | none => simp [changed]
  | some state => simp [changed]

theorem lastSeekable_snoc :
    lastSeekable (passes ++ [met]) =
      match answeredSeekable met with
      | some seekable => seekable
      | none => lastSeekable passes := by
  unfold lastSeekable
  rw [List.filterMap_append]
  cases answered : answeredSeekable met with
  | none => simp [answered]
  | some seekable => simp [answered]

theorem everDue_snoc : EverDue (passes ++ [met]) ↔ EverDue passes ∨ Due passes met := by
  constructor
  · rintro ⟨before, other, after, same, due⟩
    rcases snoc_eq_append_cons.mp same with ⟨rfl, rfl, _⟩ | ⟨rest, _, earlier⟩
    · exact Or.inr due
    · exact Or.inl ⟨before, other, rest, earlier, due⟩
  · rintro (⟨before, other, rest, rfl, due⟩ | due)
    · exact ⟨before, other, rest ++ [met], by simp, due⟩
    · exact ⟨passes, met, [], rfl, due⟩

theorem not_resets_of_answers {before : List Pass} {duration : ℤ}
    (answers : Answers before met duration) : ¬ Resets met := by
  obtain ⟨_, _, position, rfl⟩ := answers
  intro reset
  cases reset

/-- After a valid answer and before a `DURATION` message there is a cached duration. -/
theorem exists_cached {earlier between : List Pass} {old : ℤ}
    (answers : Answers earlier met old) (noReset : ∀ later ∈ between, ¬ Resets later) :
    ∃ duration, Cached (earlier ++ met :: between) duration := by
  -- The first of the answers without a reset behind it is the one that is cached.
  induction size : earlier.length using Nat.strongRecOn generalizing earlier met between old with
  | ind n ih =>
    by_cases first : ∀ before other rest older, earlier = before ++ other :: rest →
        Answers before other older → ∃ reset ∈ rest, Resets reset
    · exact ⟨old, earlier, met, between, rfl, answers, noReset, first⟩
    · push Not at first
      obtain ⟨before, other, rest, older, rfl, answersToo, none'⟩ := first
      have shorter : before.length < n := by
        rw [← size, List.length_append, List.length_cons]
        omega
      have noResetToo : ∀ later ∈ rest ++ met :: between, ¬ Resets later := by
        intro later member
        rcases List.mem_append.mp member with inside | behind
        · exact none' later inside
        · rcases List.mem_cons.mp behind with rfl | after
          · exact not_resets_of_answers answers
          · exact noReset later after
      obtain ⟨duration, cached⟩ := ih before.length shorter answersToo noResetToo rfl
      refine ⟨duration, ?_⟩
      rwa [List.append_assoc, List.cons_append]

/-- **The cached duration, after one pass more**: what was cached stays unless the pass is a
`DURATION` message, and where nothing is cached a pass that answers is. -/
theorem cached_snoc {duration : ℤ} :
    Cached (passes ++ [met]) duration ↔
      ¬ Resets met ∧ (Cached passes duration ∨
        Answers passes met duration ∧ ∀ old, ¬ Cached passes old) := by
  constructor
  · rintro ⟨before, other, after, same, answers, noReset, first⟩
    rcases snoc_eq_append_cons.mp same with ⟨rfl, rfl, rfl⟩ | ⟨rest, rfl, rfl⟩
    · refine ⟨not_resets_of_answers answers, Or.inr ⟨answers, ?_⟩⟩
      rintro old ⟨earlier, another, between, rfl, answered, unreset, _⟩
      obtain ⟨reset, member, resets⟩ := first earlier another between old rfl answered
      exact unreset reset member resets
    · exact ⟨noReset met (by simp), Or.inl ⟨before, other, rest, rfl, answers,
        fun later member => noReset later (List.mem_append_left _ member), first⟩⟩
  · rintro ⟨kept, ⟨before, other, rest, rfl, answers, noReset, first⟩ | ⟨answers, none'⟩⟩
    · refine ⟨before, other, rest ++ [met], by simp, answers, fun later member => ?_, first⟩
      rcases List.mem_append.mp member with inside | last
      · exact noReset later inside
      · rwa [List.mem_singleton.mp last]
    · refine ⟨passes, met, [], rfl, answers, by simp, ?_⟩
      rintro earlier other between old rfl answered
      by_contra unreset
      push Not at unreset
      obtain ⟨cached, found⟩ := exists_cached answered unreset
      exact none' cached found

end Histories

/-! ### What one pass does -/

section OnePass

variable {data : CustomData} {met : Pass}

theorem pass_playing :
    (pass data met).1.playing =
      match changedTo met with
      | some state => decide (state = .playing)
      | none => data.playing := by
  cases met with
  | timeout position duration =>
    simp only [pass, timedOut, changedTo]
    split <;> rfl
  | message msg =>
    cases msg with
    | stateChanged fromPlaybin old new query =>
      cases fromPlaybin with
      | false => rfl
      | true =>
        simp only [pass, handleMessage, changedTo]
        by_cases plays : new = .playing
        · rw [if_pos plays]
          cases query <;> simp [plays]
        · rw [if_neg plays]
          simp [plays]
    | _ => rfl

theorem pass_seekEnabled :
    (pass data met).1.seekEnabled =
      match answeredSeekable met with
      | some seekable => seekable
      | none => data.seekEnabled := by
  cases met with
  | timeout position duration =>
    simp only [pass, timedOut, answeredSeekable]
    split <;> rfl
  | message msg =>
    cases msg with
    | stateChanged fromPlaybin old new query =>
      cases fromPlaybin with
      | false => rfl
      | true => cases new <;> cases query <;> rfl
    | _ => rfl

theorem pass_terminated : (pass data met).1.terminated = true ↔ data.terminated = true ∨ Ends met := by
  cases met with
  | timeout position duration =>
    simp only [pass, timedOut, Ends, or_false]
    split <;> exact Iff.rfl
  | message msg =>
    cases msg with
    | stateChanged fromPlaybin old new query =>
      cases fromPlaybin <;> cases new <;> cases query <;> simp [pass, handleMessage, Ends]
    | _ => simp [pass, handleMessage, Ends]

/-- The pass is one without a message, at which the program seeks. -/
def Seeks (data : CustomData) (met : Pass) : Prop :=
  data.playing = true ∧ data.seekEnabled = true ∧ data.seekDone = false ∧
    ∃ position duration, met = .timeout (some position) duration ∧ 10 * second < position

theorem seeks_timeout {position duration : Option ℤ} :
    Seeks data (.timeout position duration) ↔ data.playing = true ∧
      (data.seekEnabled && !data.seekDone && decide (10 * second < position.getD (-1))) = true := by
  cases position with
  | none => simp [Seeks, second]
  | some position => simp [Seeks, and_assoc]

theorem pass_seekDone : (pass data met).1.seekDone = true ↔ data.seekDone = true ∨ Seeks data met := by
  cases met with
  | timeout position duration =>
    rw [seeks_timeout]
    simp only [pass, timedOut]
    split
    · simp_all
    · simp_all
  | message msg =>
    have noSeek : ¬ Seeks data (.message msg) := by
      rintro ⟨_, _, _, _, _, impossible, _⟩
      cases impossible
    cases msg with
    | stateChanged fromPlaybin old new query =>
      cases fromPlaybin <;> cases new <;> cases query <;> simp [pass, handleMessage, noSeek]
    | _ => simp [pass, handleMessage, noSeek]

theorem pass_duration {duration : ℤ} (valid : duration ≠ clockTimeNone) :
    (pass data met).1.duration = duration ↔ ¬ Resets met ∧ (data.duration = duration ∨
      data.duration = clockTimeNone ∧ data.playing = true ∧
        ∃ position, met = .timeout position (some duration)) := by
  cases met with
  | timeout position answer =>
    have kept : ¬ Resets (.timeout position answer) := fun reset => by cases reset
    simp only [pass, timedOut]
    by_cases plays : data.playing = true
    · rw [if_pos plays]
      by_cases none' : data.duration = clockTimeNone
      · cases answer with
        | none => simp [kept, none', valid.symm]
        | some answer => simp [kept, none', valid.symm, plays]
      · simp [kept, none']
    · rw [if_neg plays]
      simp [kept, plays]
  | message msg =>
    cases msg with
    | duration => simp [pass, handleMessage, Resets, valid.symm]
    | stateChanged fromPlaybin old new query =>
      cases fromPlaybin <;> cases new <;> cases query <;> simp [pass, handleMessage, Resets]
    | _ => simp [pass, handleMessage, Resets]

end OnePass

/-! ### The fields are what the history says -/

/-- The fields of `CustomData_t` against the passes made so far. -/
structure History (passes : List Pass) (data : CustomData) : Prop where
  playing : data.playing = isPlaying passes
  seekEnabled : data.seekEnabled = lastSeekable passes
  seekDone : data.seekDone = true ↔ EverDue passes
  duration : ∀ duration, duration ≠ clockTimeNone →
    (data.duration = duration ↔ Cached passes duration)
  terminated : data.terminated = true ↔ ∃ met ∈ passes, Ends met

theorem history_start : History [] .start where
  playing := rfl
  seekEnabled := rfl
  seekDone := by
    simp [CustomData.start, EverDue]
  duration duration valid := by
    simp [CustomData.start, Cached, valid.symm]
  terminated := by simp [CustomData.start]

section OneStep

variable {passes : List Pass} {data next : CustomData} {met : Pass}

theorem step_eq_some :
    step data met = some next ↔ data.terminated = false ∧ next = (pass data met).1 := by
  unfold step
  cases data.terminated <;> simp [eq_comm]

/-- A seek is due by the history when the fields say so, and it was not done. -/
theorem seeks_iff_due (history : History passes data) :
    Seeks data met ↔ Due passes met ∧ ¬ EverDue passes := by
  rw [← history.seekDone, Bool.not_eq_true]
  unfold Seeks Due
  rw [history.playing, history.seekEnabled]
  tauto

theorem history_step (history : History passes data) (stepped : step data met = some next) :
    History (passes ++ [met]) next := by
  obtain ⟨going, rfl⟩ := step_eq_some.mp stepped
  constructor
  · rw [pass_playing, isPlaying_snoc, history.playing]
  · rw [pass_seekEnabled, lastSeekable_snoc, history.seekEnabled]
  · rw [pass_seekDone, everDue_snoc, seeks_iff_due history, history.seekDone]
    tauto
  · intro duration valid
    have none' : data.duration = clockTimeNone ↔ ∀ old, ¬ Cached passes old := by
      constructor
      · rintro unknown old cached
        have valid' : old ≠ clockTimeNone := by
          obtain ⟨_, _, _, _, ⟨_, valid', _⟩, _⟩ := cached
          exact valid'
        exact valid' (((history.duration old valid').mpr cached).symm.trans unknown)
      · intro none'
        by_contra known
        exact none' _ ((history.duration _ known).mp rfl)
    rw [pass_duration valid, cached_snoc, history.duration duration valid, none', history.playing]
    unfold Answers
    tauto
  · rw [pass_terminated, history.terminated]
    simp [or_and_right, exists_or]

end OneStep

variable {passes : List Pass} {data : CustomData}

/-- **The invariant of the loop.** -/
theorem history_run (reached : runSteps step .start passes = some data) : History passes data :=
  history_invariant (fun _ _ _ _ history stepped => history_step history stepped) reached
    history_start

/-! ### Seeks -/

/-- The output is a seek. -/
def Output.isSeek : Output → Bool
  | .seekSimple _ _ _ => true
  | _ => false

/-- The seek of the program: flushing, to a key unit, to 30 seconds. -/
def seekTo30 : Output := .seekSimple true true (30 * second)

/-- The seeks of one pass. -/
theorem filter_shows (met : Pass) :
    Seeks data met ∧ (shows data met).filter Output.isSeek = [seekTo30] ∨
      ¬ Seeks data met ∧ (shows data met).filter Output.isSeek = [] := by
  cases met with
  | timeout position duration =>
    rw [seeks_timeout]
    by_cases plays : data.playing = true
    · simp only [shows, pass, timedOut, if_pos plays, List.filter_append]
      have texts : ∀ (c : Prop) [Decidable c] (text : String),
          (if c then [] else [Output.printerr text]).filter Output.isSeek = [] ∧
            (if c then [Output.printerr text] else []).filter Output.isSeek = [] := by
        intro c _ text
        by_cases holds : c <;> simp [holds, Output.isSeek]
      rw [(texts _ _).1, (texts _ _).2]
      by_cases due : (data.seekEnabled && !data.seekDone &&
          decide (10 * second < position.getD (-1))) = true
      · exact Or.inl ⟨⟨plays, due⟩, by rw [if_pos due]; rfl⟩
      · exact Or.inr ⟨fun both => due both.2, by rw [if_neg due]; rfl⟩
    · simp only [shows, pass, timedOut, if_neg plays]
      exact Or.inr ⟨fun both => plays both.1, rfl⟩
  | message msg =>
    refine Or.inr ⟨?_, ?_⟩
    · rintro ⟨_, _, _, _, _, impossible, _⟩
      cases impossible
    · cases msg with
      | stateChanged fromPlaybin old new query =>
        cases fromPlaybin with
        | false => rfl
        | true =>
          cases new <;> try rfl
          cases query with
          | none => rfl
          | some seeking =>
            obtain ⟨seekable, start, stop⟩ := seeking
            cases seekable <;> rfl
      | _ => rfl

/-- **The program seeks at the first pass at which a seek is due**, to 30 seconds, and at no other.
A seek is due when the position is past ten seconds, the playbin's last state change was to `PLAYING`
and its last answer was that the stream can be seeked. -/
theorem seeks_at_first_due (reached : runSteps step .start passes = some data) :
    (∀ before met after, passes = before ++ met :: after →
      ∃ middle, runSteps step .start before = some middle ∧
        (Due before met ∧ ¬ EverDue before ∧
            (shows middle met).filter Output.isSeek = [seekTo30] ∨
          ¬ (Due before met ∧ ¬ EverDue before) ∧
            (shows middle met).filter Output.isSeek = [])) ∧
      (EverDue passes ∧ (trace step shows .start passes).filter Output.isSeek = [seekTo30] ∨
        ¬ EverDue passes ∧ (trace step shows .start passes).filter Output.isSeek = []) := by
  constructor
  · rintro before met after rfl
    obtain ⟨middle, reaches, _⟩ := runSteps_append.mp reached
    refine ⟨middle, reaches, ?_⟩
    rw [← and_assoc, ← seeks_iff_due (history_run reaches)]
    exact filter_shows met
  · -- The seeks shown so far are one if `seek_done` is set, and none otherwise.
    have shown := trace_invariant
      (H := fun shown (data : CustomData) =>
        shown.filter Output.isSeek = if data.seekDone then [seekTo30] else [])
      (fun shown data met next counted stepped => by
        obtain ⟨_, rfl⟩ := step_eq_some.mp stepped
        have done : (pass data met).1.seekDone = true ↔ data.seekDone = true ∨ Seeks data met :=
          pass_seekDone
        rw [List.filter_append, counted]
        rcases filter_shows met with ⟨seeks, one⟩ | ⟨noSeek, none'⟩
        · have first : data.seekDone = false := seeks.2.2.1
          rw [one, if_neg (by simp [first]), if_pos (done.mpr (Or.inr seeks))]
          rfl
        · rw [none', List.append_nil]
          simp only [noSeek, or_false] at done
          by_cases before : data.seekDone = true
          · rw [if_pos before, if_pos (done.mpr before)]
          · rw [if_neg before, if_neg (fun now => before (done.mp now))])
      reached rfl
    rw [shown, ← (history_run reached).seekDone]
    cases data.seekDone
    · exact Or.inr ⟨nofun, rfl⟩
    · exact Or.inl ⟨rfl, rfl⟩

/-! ### Durations -/

/-- What a pass prints of the position and the duration. -/
theorem printPosition_mem_shows {met : Pass} {current duration : ℤ} :
    .printPosition current duration ∈ shows data met ↔ data.playing = true ∧
      ∃ position answer, met = .timeout position answer ∧ current = position.getD (-1) ∧
        duration = (pass data met).1.duration := by
  cases met with
  | timeout position answer =>
    by_cases plays : data.playing = true
    · have seek : ∀ (c : Prop) [Decidable c], Output.printPosition current duration ∉
          (if c then [Output.print "\nReached 10s, performing seek...\n",
            .seekSimple true true (30 * second)] else []) := by
        intro c _
        by_cases holds : c <;> simp [holds]
      have texts : ∀ (c : Prop) [Decidable c] (text : String),
          Output.printPosition current duration ∉ (if c then [] else [Output.printerr text]) ∧
            Output.printPosition current duration ∉
              (if c then [Output.printerr text] else []) := by
        intro c _ text
        by_cases holds : c <;> simp [holds]
      simp only [shows, pass, timedOut, if_pos plays]
      simp only [plays, List.mem_append, (texts _ _).1, (texts _ _).2, seek, false_or, or_false,
        true_and, List.mem_singleton]
      constructor
      · intro same
        injection same with current' duration'
        exact ⟨position, answer, rfl, current', duration'⟩
      · rintro ⟨_, _, same, rfl, rfl⟩
        cases same
        rfl
    · simp [shows, pass, timedOut, plays]
  | message msg =>
    have silent : .printPosition current duration ∉ (handleMessage data msg).2 := by
      cases msg with
      | stateChanged fromPlaybin old new query =>
        cases fromPlaybin with
        | false => exact List.not_mem_nil
        | true =>
          simp only [handleMessage]
          split
          · cases query with
            | none => simp
            | some seeking =>
              obtain ⟨seekable, start, stop⟩ := seeking
              cases seekable <;> simp
          · simp
      | _ => simp [handleMessage]
    constructor
    · exact fun printed => (silent printed).elim
    · rintro ⟨_, _, _, impossible, _⟩
      cases impossible

/-- **Durations are fresh.** A pass prints the position exactly when the wait times out while the
playbin's last state change was to `PLAYING`. With it goes the first valid duration that the pipeline
answered since the last `DURATION` message, or none if there is no such answer. -/
theorem durations_fresh {next : CustomData} {met : Pass}
    (reached : runSteps step .start passes = some data) (stepped : step data met = some next)
    (current duration : ℤ) :
    .printPosition current duration ∈ shows data met ↔ isPlaying passes = true ∧
      ∃ position answer, met = .timeout position answer ∧ current = position.getD (-1) ∧
        (duration ≠ clockTimeNone ∧ Cached (passes ++ [met]) duration ∨
          duration = clockTimeNone ∧ ∀ old, ¬ Cached (passes ++ [met]) old) := by
  have before := history_run reached
  have now := history_step before stepped
  have cached : duration = next.duration ↔
      (duration ≠ clockTimeNone ∧ Cached (passes ++ [met]) duration ∨
        duration = clockTimeNone ∧ ∀ old, ¬ Cached (passes ++ [met]) old) := by
    by_cases valid : duration = clockTimeNone
    · constructor
      · rintro rfl
        refine Or.inr ⟨valid, fun old cached => ?_⟩
        have valid' : old ≠ clockTimeNone := by
          obtain ⟨_, _, _, _, ⟨_, valid', _⟩, _⟩ := cached
          exact valid'
        exact valid' (((now.duration old valid').mpr cached).symm.trans valid)
      · rintro (⟨known, _⟩ | ⟨_, none'⟩)
        · exact (known valid).elim
        · by_contra other
          exact none' _ ((now.duration _ fun none'' => other (valid.trans none''.symm)).mp rfl)
    · rw [eq_comm, now.duration duration valid]
      simp [valid]
  rw [printPosition_mem_shows, before.playing, ← cached, (step_eq_some.mp stepped).2]

/-! ### Two runs -/

/-- The playbin goes to `PLAYING`, with a stream that can be seeked. -/
def plays : Pass := .message (.stateChanged true .paused .playing (some ⟨true, 0, 52 * second⟩))

/-- Two passes past ten seconds, with a pause between them. -/
def twicePastTen : List Pass :=
  [plays, .timeout (some (11 * second)) (some (52 * second)),
    .message (.stateChanged true .playing .paused none), plays,
    .timeout (some (31 * second)) none, .message .eos]

theorem seeks_at_first_due_twicePastTen :
    ∃ data, runSteps step .start twicePastTen = some data ∧ EverDue twicePastTen ∧
      (trace step shows .start twicePastTen).filter Output.isSeek = [seekTo30] := by
  have due : EverDue twicePastTen :=
    ⟨[plays], .timeout (some (11 * second)) (some (52 * second)), _, rfl, rfl, rfl, _, _, rfl,
      by decide⟩
  obtain ⟨data, reached⟩ : ∃ data, runSteps step .start twicePastTen = some data := ⟨_, rfl⟩
  rcases (seeks_at_first_due reached).2 with seeks | ⟨notDue, _⟩
  · exact ⟨data, reached, seeks⟩
  · exact (notDue due).elim

/-- The duration is known, changes, and is not answered then. -/
def changedDuration : List Pass :=
  [plays, .timeout (some second) (some (52 * second)), .message .duration]

theorem durations_fresh_changedDuration :
    ∃ data next, runSteps step .start changedDuration = some data ∧
      step data (.timeout (some (2 * second)) none) = some next ∧
      ∀ duration, ¬ Cached (changedDuration ++ [.timeout (some (2 * second)) none]) duration := by
  obtain ⟨data, reached⟩ : ∃ data, runSteps step .start changedDuration = some data := ⟨_, rfl⟩
  obtain ⟨next, stepped⟩ : ∃ next, step data (.timeout (some (2 * second)) none) = some next := by
    cases reached
    exact ⟨_, rfl⟩
  have printed : .printPosition (2 * second) clockTimeNone ∈
      shows data (.timeout (some (2 * second)) none) := by
    cases reached
    decide
  obtain ⟨_, _, _, _, _, ⟨known, _⟩ | ⟨_, none'⟩⟩ := (durations_fresh reached stepped _ _).mp printed
  · exact (known rfl).elim
  · exact ⟨data, next, reached, stepped, none'⟩

end GstPipeline.Tutorials.TimeManagement
