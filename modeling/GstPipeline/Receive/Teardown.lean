/-
**What is left when the viewer is gone.**

`Viewer::~Viewer` drops the pipeline, which drops its reference to the RTP bin. A bin without
references finalises the closures of its signals, and the notifiers of a session's closures give up
its last references. But every session that was set up holds a reference to the bin, in `rtp_bin`,
and no statement gives it up.

* `teardown_leaves`: the bin keeps one reference for each session that was set up, and each of these
  keeps the two of its closures.
* `teardown_releases_iff`: everything is released if and only if no session was set up.
* `released_without_session_refs`: were it not for the sessions' references to the bin, all of it
  would be.
-/

import GstPipeline.Receive.RtpBin

namespace GstPipeline.Receive

open GstPipeline.Lib GstPipeline.Rtp GstPipeline.Session

/-! ### Finalising -/

/-- The closure of a signal is finalised, and its notifier runs. -/
def finaliseClosure (session : StreamSession) (signal : Signal) : StreamSession :=
  match session.closures signal with
  | .live true => (session.setClosure signal .finalised).unref
  | .live false => session.setClosure signal .finalised
  | _ => session

/-- While no handler runs, it is the session's own step. -/
theorem step_finalise {session : StreamSession} {signal : Signal} (idle : session.frames = [])
    (live : (session.closures signal).isLive = true) :
    StreamSession.step (some session) (.finalise signal) =
      some (some (finaliseClosure session signal)) := by
  simp only [StreamSession.step, finaliseClosure]
  cases closure : session.closures signal with
  | live notify => cases notify <;> simp [idle]
  | _ =>
    rw [closure] at live
    cases live

section Teardown

variable {S : Type} [DecidableEq S]

def signals : List Signal := [.requestAuxSender, .requestAuxReceiver, .padAdded, .requestPtMap]

/-- The RTP bin is finalised, with the closures of all its signals. -/
def Viewer.finaliseRtpBin (viewer : Viewer S) : Viewer S :=
  { viewer with
    sessions := fun s => (viewer.sessions s).map fun session =>
      { session with
        counts := (signals.filter fun signal => s ∈ viewer.rtpBin.handlers signal).foldl
          finaliseClosure session.counts }
    rtpBin := { viewer.rtpBin with handlers := fun _ => [] } }

/-- A reference to the RTP bin is dropped. -/
def Viewer.unrefRtpBin (viewer : Viewer S) : Viewer S :=
  let dropped := { viewer with rtpBin := { viewer.rtpBin with refs := viewer.rtpBin.refs - 1 } }
  if dropped.rtpBin.refs = 0 then dropped.finaliseRtpBin else dropped

/-- `Viewer::~Viewer`: the pipeline goes, and with it its reference to the bin. -/
def Viewer.destroy (viewer : Viewer S) : Viewer S := viewer.unrefRtpBin

/-- A session's `num_ref`. -/
def Viewer.numRef (viewer : Viewer S) (s : S) : Option Int :=
  (viewer.sessions s).map fun session => session.counts.numRef

variable {viewer final : Viewer S} {events : List (Event S)}

theorem refs_destroy (viewer : Viewer S) :
    viewer.destroy.rtpBin.refs = viewer.rtpBin.refs - 1 := by
  unfold Viewer.destroy Viewer.unrefRtpBin
  dsimp only
  split <;> rfl

theorem destroy_of_held (held : viewer.rtpBin.refs - 1 ≠ 0) :
    viewer.destroy.sessions = viewer.sessions := by
  unfold Viewer.destroy Viewer.unrefRtpBin
  dsimp only
  rw [if_neg held]

/-- A session that was set up has been given two references by its closures. -/
theorem numRef_connected (inv : Accounted viewer) {s : S} (member : s ∈ viewer.connected) :
    viewer.numRef s = some 2 := by
  obtain ⟨session, made⟩ := inv.known s member
  have settles := inv.sessions s session made
  rw [if_pos member] at settles
  unfold Viewer.numRef
  rw [made, settles]
  rfl

/-- **What is left.** -/
theorem teardown_leaves (reached : runSteps Viewer.step Viewer.make events = some final) :
    final.destroy.rtpBin.refs = (setUpIn events).length ∧
      ∀ s ∈ setUpIn events, final.destroy.numRef s = some 2 := by
  obtain ⟨inv, connected⟩ := accounted_run accounted_make reached
  have same : final.connected = setUpIn events := connected
  have refs := inv.refs
  rw [same] at refs
  refine ⟨by rw [refs_destroy]; omega, fun s member => ?_⟩
  have held : final.rtpBin.refs - 1 ≠ 0 := by
    have some' := List.length_pos_of_mem member
    omega
  unfold Viewer.numRef
  rw [destroy_of_held held]
  exact numRef_connected inv (same ▸ member)

/-- **Teardown.** When the viewer is gone the RTP bin and every session that was set up are released
if and only if none was set up. -/
theorem teardown_releases_iff (reached : runSteps Viewer.step Viewer.make events = some final) :
    (final.destroy.rtpBin.refs = 0 ∧ ∀ s ∈ setUpIn events, final.destroy.numRef s = some 0) ↔
      setUpIn events = [] := by
  obtain ⟨refs, _⟩ := teardown_leaves reached
  rw [refs]
  constructor
  · exact fun released => List.eq_nil_of_length_eq_zero released.1
  · intro none
    rw [none]
    exact ⟨rfl, nofun⟩

/-- The sessions give back their references to the RTP bin. -/
def Viewer.withoutSessionRefs (viewer : Viewer S) : Viewer S :=
  { viewer with
    rtpBin := { viewer.rtpBin with refs := viewer.rtpBin.refs - viewer.connected.length } }

/-- **The cycle.** If the sessions gave back their references to the RTP bin first, the bin and every
session that was set up would be released. -/
theorem released_without_session_refs (inv : Accounted viewer) :
    viewer.withoutSessionRefs.destroy.rtpBin.refs = 0 ∧
      ∀ s ∈ viewer.connected, viewer.withoutSessionRefs.destroy.numRef s = some 0 := by
  have dropped : viewer.withoutSessionRefs.rtpBin.refs - 1 = 0 := by
    have refs := inv.refs
    unfold Viewer.withoutSessionRefs
    dsimp only
    omega
  refine ⟨by rw [refs_destroy, dropped], fun s member => ?_⟩
  obtain ⟨session, made⟩ := inv.known s member
  have settles := inv.sessions s session made
  rw [if_pos member] at settles
  have closures : (signals.filter fun signal => s ∈ viewer.rtpBin.handlers signal) =
      [.requestAuxReceiver, .padAdded, .requestPtMap] := by
    have others : ∀ signal, signal ≠ .requestAuxSender →
        decide (s ∈ viewer.rtpBin.handlers signal) = true := by
      intro signal other
      rw [inv.handlers signal, if_neg other]
      exact decide_eq_true member
    have sender : decide (s ∈ viewer.rtpBin.handlers .requestAuxSender) = false := by
      rw [inv.handlers .requestAuxSender]
      exact decide_eq_false List.not_mem_nil
    unfold signals
    simp only [List.filter, sender, others .requestAuxReceiver nofun, others .padAdded nofun,
      others .requestPtMap nofun]
  unfold Viewer.destroy Viewer.unrefRtpBin
  dsimp only
  rw [if_pos dropped]
  show ((viewer.sessions s).map _).map _ = _
  rw [made, settles, Option.map_some, Option.map_some]
  show some (((signals.filter fun signal => s ∈ viewer.rtpBin.handlers signal).foldl
    finaliseClosure settled).numRef) = _
  rw [closures]
  rfl

/-- A session that has been made, and not set up. -/
theorem teardown_releases_unused : ∃ final,
    runSteps Viewer.step Viewer.make [Event.makeVideoSession () 0] = some final ∧
      final.destroy.rtpBin.refs = 0 := by
  obtain ⟨final, reached⟩ := Option.isSome_iff_exists.mp
    (show (runSteps Viewer.step Viewer.make [Event.makeVideoSession () 0]).isSome = true by decide)
  exact ⟨final, reached, ((teardown_releases_iff reached).mpr rfl).1⟩

/-- One session that has been set up. -/
theorem teardown_leaves_session : ∃ final,
    runSteps Viewer.step Viewer.make
        [Event.makeVideoSession () 0, .setup () "10.0.0.1" 3000] = some final ∧
      ¬ (final.destroy.rtpBin.refs = 0 ∧ final.destroy.numRef () = some 0) := by
  have ends : (runSteps Viewer.step Viewer.make
      [Event.makeVideoSession () 0, .setup () "10.0.0.1" 3000]).map
        (fun final => final.destroy.rtpBin.refs) = some 1 := by
    decide
  obtain ⟨final, reached, refs⟩ := Option.map_eq_some_iff.mp ends
  exact ⟨final, reached, fun released => by cases refs.symm.trans released.1⟩

end Teardown

end GstPipeline.Receive
