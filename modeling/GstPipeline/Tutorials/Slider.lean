/-
**The slider of `gtk_player.c`.**

The slider is both an input and an output: a user who moves it seeks (`slider_cb`), and `refresh_ui`
moves it to the position of the stream. `refresh_ui` blocks the handler around that, so that it does
not seek to where the stream is already. It does not block it where it sets the range, and a range
that is shorter than the slider's value moves the slider too.

* `GtkRange`: what the program uses of GTK's range is a parameter, with what GTK says about it
  (`RangeSpec`): values are clamped to the range. A call emits `value-changed` at most once, for a
  change or not.
* `Sound`: the handler is not blocked between two events, and the value is within the range, which is
  that of the duration once it is known.
* `seeks_bounded`: in every run there are at most as many seeks as moves of the user, and one more
  once the duration is known; each is to a value that the slider can have.
* `duration_kept`: a duration that is known stays, through every change of the stream.

Values of the slider are of any linear order, with the conversions from and to nanoseconds (`Times`).
-/

import GstPipeline.Lib.Trace
import GstPipeline.Tutorials.Buffering
import Mathlib.Data.Int.Notation
import Mathlib.Order.Lattice

namespace GstPipeline.Tutorials.GtkPlayer

open GstPipeline.Lib

/-- The values of the slider: 0 and 100, the seconds of a time in nanoseconds and the time of a value. -/
structure Times (V : Type) [LinearOrder V] where
  zero : V
  hundred : V
  toSeconds : ℤ → V
  toTime : V → ℤ
  ordered : zero ≤ hundred
  negative : toSeconds (-1) < zero

/-! ### The range of GTK -/

/-- What the program uses of a `GtkRange` in a state of `R`: its value and its ends, and what setting
them leaves, with whether `value-changed` is emitted. -/
structure GtkRange (R V : Type) where
  scaleNewWithRange : V → V → R
  value : R → V
  lower : R → V
  upper : R → V
  setValue : R → V → R × Bool
  setRange : R → V → V → R × Bool

/-- What GTK says about its ranges. A scale starts at its lower end. A value that is set is clamped to
the range, and a range that is set clamps the value; ends that are out of order are refused. -/
structure RangeSpec {R V : Type} [LinearOrder V] (gtk : GtkRange R V) : Prop where
  scale : ∀ low high, low ≤ high → gtk.lower (gtk.scaleNewWithRange low high) = low ∧
    gtk.upper (gtk.scaleNewWithRange low high) = high ∧
    gtk.value (gtk.scaleNewWithRange low high) = low
  value : ∀ range value, gtk.lower (gtk.setValue range value).1 = gtk.lower range ∧
    gtk.upper (gtk.setValue range value).1 = gtk.upper range ∧
    gtk.value (gtk.setValue range value).1 = max (gtk.lower range) (min value (gtk.upper range))
  range : ∀ range low high, low ≤ high → gtk.lower (gtk.setRange range low high).1 = low ∧
    gtk.upper (gtk.setRange range low high).1 = high ∧
    gtk.value (gtk.setRange range low high).1 = max low (min (gtk.value range) high)
  refused : ∀ range low high, ¬ low ≤ high → gtk.setRange range low high = (range, false)

/-! ### The program -/

/-- `CustomData_t`, with the slider, whether its handler is blocked, the seeks asked for, the states
requested of the playbin and whether the main loop was quit. The state is `none` before the playbin
has told one. -/
structure Ui (R : Type) where
  slider : R
  blocked : Bool
  state : Option GstState
  duration : ℤ
  seeks : List ℤ
  requested : List GstState
  quit : Bool

/-- What the main loop dispatches. `refresh` is the timer; it and a state change carry what the playbin
answers to the queries for the duration and the position. -/
inductive Event (V : Type)
  | refresh (duration position : Option ℤ)
  | stateChanged (fromPlaybin : Bool) (old new : GstState) (duration position : Option ℤ)
  | move (value : V)
  | play
  | pause
  | stop
  | deleteEvent
  | error
  | eos

section Program

variable {R V : Type} [LinearOrder V] (gtk : GtkRange R V) (times : Times V)

/-- The data and the slider after `create_ui`, with the pipeline set to `PLAYING`. -/
def Ui.start : Ui R :=
  ⟨gtk.scaleNewWithRange times.zero times.hundred, false, none, -1, [], [.playing], false⟩

/-- `slider_cb`. -/
def Ui.sliderCb (ui : Ui R) : Ui R :=
  { ui with seeks := ui.seeks ++ [times.toTime (gtk.value ui.slider)] }

/-- The slider changes; when it emits `value-changed`, the handler is called unless it is blocked. -/
def Ui.setSlider (ui : Ui R) (set : R × Bool) : Ui R :=
  if set.2 = true ∧ ui.blocked = false then ({ ui with slider := set.1 } : Ui R).sliderCb gtk times
  else { ui with slider := set.1 }

/-- The part of `refresh_ui` about the duration. -/
def Ui.refreshDuration (ui : Ui R) (duration : Option ℤ) : Ui R :=
  if ui.duration = -1 then
    match duration with
    | none => ui
    | some duration => ({ ui with duration := duration } : Ui R).setSlider gtk times
        (gtk.setRange ui.slider times.zero (times.toSeconds duration))
  else ui

/-- The part of `refresh_ui` about the position. -/
def Ui.refreshPosition (ui : Ui R) (position : Option ℤ) : Ui R :=
  match position with
  | none => ui
  | some current =>
    { ({ ui with blocked := true } : Ui R).setSlider gtk times
        (gtk.setValue ui.slider (times.toSeconds current)) with blocked := false }

/-- `refresh_ui`. -/
def Ui.refreshUi (ui : Ui R) (duration position : Option ℤ) : Ui R :=
  if ui.state = some .paused ∨ ui.state = some .playing then
    (ui.refreshDuration gtk times duration).refreshPosition gtk times position
  else ui

/-- `gst_element_set_state` on the playbin. -/
def Ui.setState (ui : Ui R) (state : GstState) : Ui R :=
  { ui with requested := ui.requested ++ [state] }

/-- The callbacks. -/
def Ui.dispatch (ui : Ui R) : Event V → Ui R
  | .refresh duration position => ui.refreshUi gtk times duration position
  | .stateChanged true old new duration position =>
    if old = .ready ∧ new = .paused then
      ({ ui with state := some new } : Ui R).refreshUi gtk times duration position
    else { ui with state := some new }
  | .stateChanged false _ _ _ _ => ui
  | .move value => ui.setSlider gtk times (gtk.setValue ui.slider value)
  | .play => ui.setState .playing
  | .pause => ui.setState .paused
  | .stop => ui.setState .ready
  | .deleteEvent => { ui.setState .ready with quit := true }
  | .error => ui.setState .ready
  | .eos => ui.setState .ready

/-- The main loop: `none` once it has quit. -/
def Ui.step (ui : Ui R) (event : Event V) : Option (Ui R) :=
  if ui.quit then none else some (ui.dispatch gtk times event)

/-! ### The invariant -/

/-- The end of the range: that of the duration, once it is known and one. -/
def upperEnd (duration : ℤ) : V :=
  if duration = -1 then times.hundred
  else if times.zero ≤ times.toSeconds duration then times.toSeconds duration
  else times.hundred

/-- A value that the slider can have, before or after the duration is known. -/
def Reachable (duration : ℤ) (value : V) : Prop :=
  times.zero ≤ value ∧ (value ≤ times.hundred ∨ value ≤ upperEnd times duration)

/-- How many seeks there can be besides those of the user. -/
def extraSeeks (duration : ℤ) : ℕ := if duration = -1 then 0 else 1

/-- **The invariant of the slider**, after `moves` moves of the user. -/
structure Sound (moves : ℕ) (ui : Ui R) : Prop where
  unblocked : ui.blocked = false
  lower : gtk.lower ui.slider = times.zero
  upper : gtk.upper ui.slider = upperEnd times ui.duration
  inRange : gtk.lower ui.slider ≤ gtk.value ui.slider ∧ gtk.value ui.slider ≤ gtk.upper ui.slider
  count : ui.seeks.length ≤ moves + extraSeeks ui.duration
  seeks : ∀ time ∈ ui.seeks, ∃ value, time = times.toTime value ∧ Reachable times ui.duration value

end Program

section Invariant

variable {R V : Type} [LinearOrder V] {gtk : GtkRange R V} {times : Times V} {ui : Ui R} {moves : ℕ}

theorem clamp_mem {low high : V} (value : V) (ordered : low ≤ high) :
    low ≤ max low (min value high) ∧ max low (min value high) ≤ high :=
  ⟨le_max_left _ _, max_le ordered (min_le_right _ _)⟩

/-- What a change of the slider does, and whether it seeks. -/
theorem setSlider_cases (gtk : GtkRange R V) (times : Times V) (ui : Ui R) (set : R × Bool) :
    ui.setSlider gtk times set = { ui with slider := set.1 } ∨
      set.2 = true ∧ ui.blocked = false ∧
        ui.setSlider gtk times set =
          { ui with slider := set.1, seeks := ui.seeks ++ [times.toTime (gtk.value set.1)] } := by
  unfold Ui.setSlider
  split
  · rename_i emits
    exact Or.inr ⟨emits.1, emits.2, rfl⟩
  · exact Or.inl rfl

theorem sound_start (spec : RangeSpec gtk) : Sound gtk times 0 (.start gtk times) := by
  obtain ⟨lower, upper, value⟩ := spec.scale times.zero times.hundred times.ordered
  refine ⟨rfl, lower, upper, ?_, Nat.zero_le _, nofun⟩
  show gtk.lower (gtk.scaleNewWithRange _ _) ≤ gtk.value (gtk.scaleNewWithRange _ _) ∧
    gtk.value (gtk.scaleNewWithRange _ _) ≤ gtk.upper (gtk.scaleNewWithRange _ _)
  rw [lower, upper, value]
  exact ⟨le_rfl, times.ordered⟩

/-- A value that is set is in the range, which stays. -/
theorem setValue_inRange (spec : RangeSpec gtk) {range : R} (value : V)
    (ordered : gtk.lower range ≤ gtk.upper range) :
    gtk.lower (gtk.setValue range value).1 ≤ gtk.value (gtk.setValue range value).1 ∧
      gtk.value (gtk.setValue range value).1 ≤ gtk.upper (gtk.setValue range value).1 := by
  obtain ⟨lower, upper, clamped⟩ := spec.value range value
  rw [lower, upper, clamped]
  exact clamp_mem value ordered

/-- **A move of the user** seeks at most once, to where the slider is. -/
theorem sound_move (spec : RangeSpec gtk) (sound : Sound gtk times moves ui) (value : V) :
    Sound gtk times (moves + 1) (ui.setSlider gtk times (gtk.setValue ui.slider value)) := by
  obtain ⟨lower, upper, _⟩ := spec.value ui.slider value
  have low := lower.trans sound.lower
  have high := upper.trans sound.upper
  have inRange := setValue_inRange spec value (sound.inRange.1.trans sound.inRange.2)
  have count := sound.count
  rcases setSlider_cases gtk times ui (gtk.setValue ui.slider value) with same | ⟨_, _, seeks⟩
  · rw [same]
    exact ⟨sound.unblocked, low, high, inRange, by simp only; omega, sound.seeks⟩
  · rw [seeks]
    refine ⟨sound.unblocked, low, high, inRange, ?_, fun time member => ?_⟩
    · simp only [List.length_append, List.length_singleton]
      omega
    · rcases List.mem_append.mp member with before | last
      · exact sound.seeks time before
      · exact ⟨_, List.mem_singleton.mp last, low.ge.trans inRange.1,
          Or.inr (inRange.2.trans_eq high)⟩

/-- What can be reached can be reached when the duration is known. -/
theorem reachable_of_unknown {duration : ℤ} {value : V} (reachable : Reachable times (-1) value) :
    Reachable times duration value := by
  obtain ⟨low, high | high⟩ := reachable
  · exact ⟨low, Or.inl high⟩
  · exact ⟨low, Or.inl high⟩

/-- The range for a duration that gets known is that of the duration, with the value in it. -/
theorem setRange_ends (spec : RangeSpec gtk) {range : R}
    (lower : gtk.lower range = times.zero) (upper : gtk.upper range = times.hundred)
    (inRange : gtk.lower range ≤ gtk.value range ∧ gtk.value range ≤ gtk.upper range)
    (duration : ℤ) :
    gtk.lower (gtk.setRange range times.zero (times.toSeconds duration)).1 = times.zero ∧
      gtk.upper (gtk.setRange range times.zero (times.toSeconds duration)).1 =
        upperEnd times duration ∧
      gtk.lower (gtk.setRange range times.zero (times.toSeconds duration)).1 ≤
        gtk.value (gtk.setRange range times.zero (times.toSeconds duration)).1 ∧
      gtk.value (gtk.setRange range times.zero (times.toSeconds duration)).1 ≤
        gtk.upper (gtk.setRange range times.zero (times.toSeconds duration)).1 := by
  by_cases ordered : times.zero ≤ times.toSeconds duration
  · obtain ⟨low, high, clamped⟩ := spec.range range times.zero (times.toSeconds duration) ordered
    have known : duration ≠ -1 := by
      rintro rfl
      exact absurd ordered (not_le.mpr times.negative)
    rw [low, high, clamped]
    refine ⟨rfl, ?_, clamp_mem _ ordered⟩
    rw [upperEnd, if_neg known, if_pos ordered]
  · rw [spec.refused range times.zero (times.toSeconds duration) ordered]
    refine ⟨lower, upper.trans ?_, inRange⟩
    rw [upperEnd, if_neg ordered, ite_self]

/-- **A duration that gets known** seeks at most once, and is known then. -/
theorem sound_refreshDuration (spec : RangeSpec gtk) (sound : Sound gtk times moves ui)
    (duration : Option ℤ) : Sound gtk times moves (ui.refreshDuration gtk times duration) := by
  unfold Ui.refreshDuration
  by_cases unknown : ui.duration = -1
  · rw [if_pos unknown]
    cases duration with
    | none => exact sound
    | some duration =>
      have upper := sound.upper
      have count := sound.count
      have earlier := sound.seeks
      simp only [unknown, upperEnd, if_pos, extraSeeks] at upper count earlier
      obtain ⟨low, high, inRange⟩ := setRange_ends spec sound.lower upper sound.inRange duration
      rcases setSlider_cases gtk times { ui with duration := duration }
        (gtk.setRange ui.slider times.zero (times.toSeconds duration)) with same | ⟨emits, _, seeks⟩
      · simp only [same]
        exact ⟨sound.unblocked, low, high, inRange, by simp only; omega,
          fun time member => (earlier time member).imp fun _ both =>
            ⟨both.1, reachable_of_unknown both.2⟩⟩
      · -- The range was set, so the duration is not `-1`.
        have known : duration ≠ -1 := by
          rintro rfl
          rw [spec.refused _ _ _ (not_le.mpr times.negative)] at emits
          cases emits
        simp only [seeks]
        refine ⟨sound.unblocked, low, high, inRange, ?_, fun time member => ?_⟩
        · simp only [List.length_append, List.length_singleton, extraSeeks, if_neg known]
          omega
        · rcases List.mem_append.mp member with before | last
          · exact (earlier time before).imp fun _ both => ⟨both.1, reachable_of_unknown both.2⟩
          · exact ⟨_, List.mem_singleton.mp last, low.ge.trans inRange.1,
              Or.inr (inRange.2.trans_eq high)⟩
  · rw [if_neg unknown]
    exact sound

/-- **A refreshed position** does not seek: the handler is blocked. -/
theorem sound_refreshPosition (spec : RangeSpec gtk) (sound : Sound gtk times moves ui)
    (position : Option ℤ) : Sound gtk times moves (ui.refreshPosition gtk times position) := by
  cases position with
  | none => exact sound
  | some current =>
    obtain ⟨lower, upper, _⟩ := spec.value ui.slider (times.toSeconds current)
    have inRange := setValue_inRange spec (times.toSeconds current)
      (sound.inRange.1.trans sound.inRange.2)
    have quiet : ({ ui with blocked := true } : Ui R).setSlider gtk times
        (gtk.setValue ui.slider (times.toSeconds current)) =
          { ui with
            blocked := true
            slider := (gtk.setValue ui.slider (times.toSeconds current)).1 } :=
      if_neg fun emits => by cases emits.2
    simp only [Ui.refreshPosition, quiet]
    exact ⟨rfl, lower.trans sound.lower, upper.trans sound.upper, inRange, sound.count, sound.seeks⟩

theorem sound_refreshUi (spec : RangeSpec gtk) (sound : Sound gtk times moves ui)
    (duration position : Option ℤ) :
    Sound gtk times moves (ui.refreshUi gtk times duration position) := by
  unfold Ui.refreshUi
  split
  · exact sound_refreshPosition spec (sound_refreshDuration spec sound duration) position
  · exact sound

theorem sound_of_same {other : Ui R} (sound : Sound gtk times moves ui)
    (slider : other.slider = ui.slider) (blocked : other.blocked = ui.blocked)
    (duration : other.duration = ui.duration) (seeks : other.seeks = ui.seeks) :
    Sound gtk times moves other := by
  obtain ⟨unblocked, lower, upper, inRange, count, earlier⟩ := sound
  constructor
  · exact blocked.trans unblocked
  · rw [slider, lower]
  · rw [slider, duration, upper]
  · rw [slider]
    exact inRange
  · rw [seeks, duration]
    exact count
  · rw [seeks, duration]
    exact earlier

/-- The event is a move of the user. -/
def Event.isMove : Event V → Bool
  | .move _ => true
  | _ => false

theorem sound_dispatch (spec : RangeSpec gtk) (sound : Sound gtk times moves ui) (event : Event V) :
    Sound gtk times (moves + if event.isMove then 1 else 0) (ui.dispatch gtk times event) := by
  cases event with
  | refresh duration position => exact sound_refreshUi spec sound duration position
  | stateChanged fromPlaybin old new duration position =>
    have told : Sound gtk times moves { ui with state := some new } :=
      sound_of_same sound rfl rfl rfl rfl
    cases fromPlaybin with
    | false => exact sound
    | true =>
      show Sound gtk times moves (if old = .ready ∧ new = .paused then _ else _)
      split
      · exact sound_refreshUi spec told duration position
      · exact told
  | move value => exact sound_move spec sound value
  | _ => exact sound_of_same sound rfl rfl rfl rfl

theorem step_eq_some {event : Event V} {next : Ui R} :
    ui.step gtk times event = some next ↔ ui.quit = false ∧ next = ui.dispatch gtk times event := by
  unfold Ui.step
  cases ui.quit <;> simp [eq_comm]

/-- The invariant of every run. -/
theorem sound_run (spec : RangeSpec gtk) {events : List (Event V)}
    (reached : runSteps (Ui.step gtk times) (.start gtk times) events = some ui) :
    Sound gtk times (events.countP Event.isMove) ui := by
  refine history_invariant
    (H := fun events ui => Sound gtk times (events.countP Event.isMove) ui)
    (fun history ui event next sound stepped => ?_) reached (sound_start spec)
  obtain ⟨_, rfl⟩ := step_eq_some.mp stepped
  rw [List.countP_append, List.countP_singleton]
  exact sound_dispatch spec sound event

/-- **Seeks are moves of the user**, but for one. With a range that does what GTK says, in every run
there are at most as many seeks as the user has moved the slider, and one more if the duration is
known; every seek is to a value from 0 to 100 or to the duration; and between two events the handler
is connected and the slider is in its range. -/
theorem seeks_bounded (spec : RangeSpec gtk) {events : List (Event V)}
    (reached : runSteps (Ui.step gtk times) (.start gtk times) events = some ui) :
    ui.seeks.length ≤ events.countP Event.isMove + extraSeeks ui.duration ∧
      (∀ time ∈ ui.seeks, ∃ value, time = times.toTime value ∧
        Reachable times ui.duration value) ∧
      ui.blocked = false ∧ times.zero ≤ gtk.value ui.slider ∧
      gtk.value ui.slider ≤ upperEnd times ui.duration := by
  have sound := sound_run spec reached
  exact ⟨sound.count, sound.seeks, sound.unblocked, sound.lower ▸ sound.inRange.1,
    sound.upper ▸ sound.inRange.2⟩

/-! ### The duration -/

theorem setSlider_duration (set : R × Bool) :
    (ui.setSlider gtk times set).duration = ui.duration := by
  rcases setSlider_cases gtk times ui set with same | ⟨_, _, seeks⟩
  · rw [same]
  · rw [seeks]

theorem refreshUi_duration (known : ui.duration ≠ -1) (duration position : Option ℤ) :
    (ui.refreshUi gtk times duration position).duration = ui.duration := by
  unfold Ui.refreshUi
  split
  · have keeps : ui.refreshDuration gtk times duration = ui := if_neg known
    rw [keeps]
    cases position with
    | none => rfl
    | some current => exact setSlider_duration _
  · rfl

/-- **A known duration stays**, whatever happens to the stream. -/
theorem duration_kept {final : Ui R} {events : List (Event V)}
    (reached : runSteps (Ui.step gtk times) ui events = some final) (known : ui.duration ≠ -1) :
    final.duration = ui.duration := by
  refine run_invariant (I := fun other : Ui R => other.duration = ui.duration)
    (fun other event next same stepped => ?_) reached rfl
  obtain ⟨_, rfl⟩ := step_eq_some.mp stepped
  have knownToo : other.duration ≠ -1 := same ▸ known
  rw [← same]
  cases event with
  | refresh duration position => exact refreshUi_duration knownToo duration position
  | stateChanged fromPlaybin old new duration position =>
    cases fromPlaybin with
    | false => rfl
    | true =>
      show Ui.duration (if old = .ready ∧ new = .paused then _ else _) = _
      split
      · have told : ({ other with state := some new } : Ui R).duration ≠ -1 := knownToo
        exact refreshUi_duration told duration position
      · rfl
  | move value => exact setSlider_duration _
  | _ => rfl

end Invariant

/-! ### A run -/

/-- The value and the ends of a range. -/
structure Ends where
  value : ℤ
  lower : ℤ
  upper : ℤ
  deriving DecidableEq

/-- A range that does what GTK says. -/
def plainRange : GtkRange Ends ℤ where
  scaleNewWithRange low high := ⟨low, low, high⟩
  value := Ends.value
  lower := Ends.lower
  upper := Ends.upper
  setValue range value :=
    let set := max range.lower (min value range.upper)
    ({ range with value := set }, set != range.value)
  setRange range low high :=
    if low ≤ high then
      let set := max low (min range.value high)
      (⟨set, low, high⟩, set != range.value)
    else (range, false)

theorem plainRange_spec : RangeSpec plainRange where
  scale _ _ _ := ⟨rfl, rfl, rfl⟩
  value _ _ := ⟨rfl, rfl, rfl⟩
  range range low high ordered := by
    have set : plainRange.setRange range low high =
        (⟨max low (min range.value high), low, high⟩,
          max low (min range.value high) != range.value) := if_pos ordered
    rw [set]
    exact ⟨rfl, rfl, rfl⟩
  refused range low high ordered := if_neg ordered

/-- Whole seconds. -/
def wholeSeconds : Times ℤ where
  zero := 0
  hundred := 100
  toSeconds time := time / 1000000000
  toTime value := value * 1000000000
  ordered := by decide
  negative := by decide

/-- The position is known before the duration, and past it; then the user moves the slider. -/
def lateDuration : List (Event ℤ) :=
  [.stateChanged true .ready .paused none none, .refresh none (some 40000000000),
    .refresh (some 30000000000) (some 30000000000), .move 25]

theorem seeks_bounded_lateDuration :
    ∃ ui, runSteps (Ui.step plainRange wholeSeconds) (.start plainRange wholeSeconds) lateDuration =
        some ui ∧
      ui.seeks = [30000000000, 25000000000] ∧
      ui.seeks.length ≤ lateDuration.countP Event.isMove + extraSeeks ui.duration := by
  obtain ⟨ui, reached⟩ : ∃ ui, runSteps (Ui.step plainRange wholeSeconds)
      (.start plainRange wholeSeconds) lateDuration = some ui := ⟨_, rfl⟩
  refine ⟨ui, reached, ?_, (seeks_bounded plainRange_spec reached).1⟩
  cases reached
  decide

end GstPipeline.Tutorials.GtkPlayer
