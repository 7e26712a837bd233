/-
**The viewer, and what its set-ups leave on the RTP bin.**

`setup_rtp_receiver_with_stream_session` (`viewer.cpp`) is called for each session. Its statements
(`setupRtpReceiver`) take a reference to the RTP bin, which the session keeps in `rtp_bin`, and
connect the session's handlers to the bin's signals.

* `RtpBin`: the reference count of the bin, and the handlers of each signal in their order.
* `Viewer.step`: a session is made, or set up, or the bin has a new pad and emits pad-added.
* `accounted_run`: in every run the connected sessions are the ones that were set up, in order; the
  bin has a reference for each, and the pipeline's; a session has its creator's reference before its
  set-up, and those of its two closures after it.

The set-up of a session is the run that `StreamSession.step` makes of the same statements
(`setUp_runs`).
-/

import GstPipeline.Receive.Handlers
import Mathlib.Data.List.Nodup

namespace GstPipeline.Receive

open GstPipeline.Lib GstPipeline.Rtp GstPipeline.Session

/-! ### The RTP bin -/

section Bin

variable {S : Type}

/-- The RTP bin: its reference count, and for each signal the sessions whose handlers are connected,
in the order of the connections. -/
structure RtpBin (S : Type) where
  refs : ℕ
  handlers : Signal → List S

/-- `g_signal_connect` and `g_signal_connect_data`. -/
def RtpBin.connect (bin : RtpBin S) (signal : Signal) (s : S) : RtpBin S :=
  { bin with handlers := Function.update bin.handlers signal (bin.handlers signal ++ [s]) }

/-- What a statement of a session's set-up does to the bin. -/
def RtpBin.execute (s : S) (bin : RtpBin S) : Statement → RtpBin S
  -- `session->rtp_bin = g_object_ref(common_data->rtp_bin)`
  | .writeField .rtpBin => { bin with refs := bin.refs + 1 }
  | .connect signal => bin.connect signal s
  | .connectRef signal => bin.connect signal s
  | _ => bin

/-- What a statement of its set-up does to a session. -/
def VideoSession.execute (session : VideoSession S) (statement : Statement) : VideoSession S :=
  { session with
    rtpBin := session.rtpBin || statement = .writeField .rtpBin
    counts := session.counts.execute statement }

/-- The statements of its set-up, for a session. -/
def VideoSession.setUp (session : VideoSession S) (statements : List Statement) : VideoSession S :=
  let ran := statements.foldl VideoSession.execute session
  { ran with counts := ran.counts.setSetup [] }

/-- **A set-up, for the bin.** -/
theorem execute_setupRtpReceiver (s : S) (bin : RtpBin S) (addr : String) (portBase : Int) :
    (setupRtpReceiver addr portBase).foldl (RtpBin.execute s) bin =
      ⟨bin.refs + 1, fun signal =>
        bin.handlers signal ++ if signal = .requestAuxSender then [] else [s]⟩ := by
  show RtpBin.mk _ _ = _
  congr 1
  funext signal
  cases signal with
  | requestAuxSender => exact (List.append_nil _).symm
  | _ => rfl

/-- A session that has been set up, as far as its references go. -/
def settled : StreamSession :=
  ((setupRtpReceiver "" 0).foldl StreamSession.execute (StreamSession.make .viewer)).setSetup []

/-- **A set-up, for the session.** -/
theorem setUp_setupRtpReceiver (s : S) (id : UInt32) (addr : String) (portBase : Int) :
    (makeVideoSession s id).setUp (setupRtpReceiver addr portBase) =
      ⟨id, true, videoCaps s, settled⟩ := rfl

theorem executes_run (session : StreamSession) (statements : List Statement) :
    runSteps StreamSession.step (some (session.setSetup statements))
        (List.replicate statements.length .statement) =
      some (some ((statements.foldl StreamSession.execute session).setSetup [])) := by
  induction statements generalizing session with
  | nil => rfl
  | cons statement rest ih =>
    have commutes : ((session.setSetup (statement :: rest)).execute statement).setSetup rest =
        (session.execute statement).setSetup rest := by
      cases statement <;> rfl
    rw [List.foldl_cons, ← ih (session.execute statement), ← commutes]
    rfl

theorem counts_setUp (session : VideoSession S) (statements : List Statement) :
    (session.setUp statements).counts =
      (statements.foldl StreamSession.execute session.counts).setSetup [] := by
  unfold VideoSession.setUp
  induction statements generalizing session with
  | nil => rfl
  | cons statement rest ih => exact ih (session.execute statement)

/-- **The same set-up, statement by statement.** -/
theorem setUp_runs (session : VideoSession S) (addr : String) (portBase : Int)
    (viewers : session.counts.kind = .viewer) (uncalled : session.counts.setup = none) :
    ∃ steps, runSteps StreamSession.step (some session.counts) (.setup addr portBase :: steps) =
      some (some (session.setUp (setupRtpReceiver addr portBase)).counts) := by
  refine ⟨List.replicate (setupRtpReceiver addr portBase).length .statement, ?_⟩
  have called : StreamSession.step (some session.counts) (.setup addr portBase) =
      some (some (session.counts.setSetup (setupRtpReceiver addr portBase))) := by
    simp only [StreamSession.step, uncalled, viewers, StreamSession.setupOf]
  rw [counts_setUp]
  exact runSteps_cons.mpr ⟨_, called, executes_run session.counts _⟩

end Bin

/-! ### The viewer -/

/-- A viewer: its sessions and the RTP bin; the session bins that were added to the pipeline, the
links from pads of the RTP bin to session bins, and the pads that there have been. -/
structure Viewer (S : Type) where
  sessions : S → Option (VideoSession S)
  rtpBin : RtpBin S
  children : List S
  links : List (ℕ × S)
  seen : List ℕ
  aborted : Bool

inductive Event (S : Type)
  | makeVideoSession (s : S) (id : UInt32)
  | setup (s : S) (addr : String) (portBase : Int)
  | padAdded (pad : Pad)
  deriving DecidableEq

/-- The session that an event sets up. -/
def Event.setsUp {S : Type} : Event S → Option S
  | .setup s _ _ => some s
  | _ => none

/-- The sessions that are set up in a run, in order. -/
def setUpIn {S : Type} (events : List (Event S)) : List S := events.filterMap Event.setsUp

namespace Viewer

variable {S : Type} [DecidableEq S]

/-- `Viewer::Viewer`: the RTP bin is a child of the pipeline, which holds the one reference. -/
def make : Viewer S := ⟨fun _ => none, ⟨1, fun _ => []⟩, [], [], [], false⟩

/-- A session whose set-up has been called has its three handlers. -/
def connected (viewer : Viewer S) : List S := viewer.rtpBin.handlers .padAdded

/-- One call of the pad-added handler to GStreamer. An element that has a parent is not added, and
pads of which one is linked already are not linked; the assertion then ends the program. -/
def perform (viewer : Viewer S) (call : Call S) : Viewer S :=
  if viewer.aborted then viewer
  else match call with
    | .binAdd bin =>
      if bin ∈ viewer.children then viewer
      else { viewer with children := viewer.children ++ [bin] }
    | .syncStateWithParent _ => viewer
    | .padLink pad bin =>
      if pad.object ∈ viewer.links.map Prod.fst ∨ bin ∈ viewer.links.map Prod.snd then
        { viewer with aborted := true }
      else { viewer with links := viewer.links ++ [(pad.object, bin)] }

/-- What the pad-added handler of a session asks for. -/
def callsOf (viewer : Viewer S) (pad : Pad) (s : S) : List (Call S) :=
  ((viewer.sessions s).map fun session => rtpPadAddedHandler s session pad).getD []

/-- What all of them ask for, one after the other. -/
def callsFor (viewer : Viewer S) (pad : Pad) : List (Call S) :=
  viewer.connected.flatMap (viewer.callsOf pad)

/-- `Viewer::setup_rtp_receiver_with_stream_session`. -/
def setup (viewer : Viewer S) (s : S) (session : VideoSession S) (addr : String) (portBase : Int) :
    Viewer S :=
  { viewer with
    sessions := Function.update viewer.sessions s
      (some (session.setUp (setupRtpReceiver addr portBase)))
    rtpBin := (setupRtpReceiver addr portBase).foldl (RtpBin.execute s) viewer.rtpBin }

/-- The RTP bin has a new pad, and emits pad-added. -/
def padAdded (viewer : Viewer S) (pad : Pad) : Viewer S :=
  (viewer.callsFor pad).foldl perform { viewer with seen := viewer.seen ++ [pad.object] }

/-- One step of the viewer: a session is made once and set up once, and a pad is new. -/
def step (viewer : Viewer S) (event : Event S) : Option (Viewer S) :=
  if viewer.aborted then none
  else match event with
    | .makeVideoSession s id =>
      match viewer.sessions s with
      | none => some { viewer with
          sessions := Function.update viewer.sessions s (some (Receive.makeVideoSession s id)) }
      | some _ => none
    | .setup s addr portBase =>
      match viewer.sessions s with
      | some session =>
        if session.counts.setup = none then some (viewer.setup s session addr portBase) else none
      | none => none
    | .padAdded pad => if pad.object ∈ viewer.seen then none else some (viewer.padAdded pad)

/-! ### What a step does -/

/-- **The steps.** -/
theorem step_cases {viewer next : Viewer S} {event : Event S}
    (stepped : viewer.step event = some next) :
    viewer.aborted = false ∧
      ((∃ s id, event = .makeVideoSession s id ∧ viewer.sessions s = none ∧
          next = { viewer with
            sessions := Function.update viewer.sessions s (some (Receive.makeVideoSession s id)) }) ∨
        (∃ s addr portBase session, event = .setup s addr portBase ∧
          viewer.sessions s = some session ∧ session.counts.setup = none ∧
          next = viewer.setup s session addr portBase) ∨
        ∃ pad, event = .padAdded pad ∧ pad.object ∉ viewer.seen ∧ next = viewer.padAdded pad) := by
  unfold step at stepped
  split at stepped
  · cases stepped
  · rename_i running
    refine ⟨Bool.eq_false_iff.mpr running, ?_⟩
    cases event with
    | makeVideoSession s id =>
      simp only at stepped
      split at stepped <;> cases stepped
      exact Or.inl ⟨s, id, rfl, ‹_›, rfl⟩
    | setup s addr portBase =>
      simp only at stepped
      split at stepped
      · split at stepped <;> cases stepped
        exact Or.inr (Or.inl ⟨s, addr, portBase, _, rfl, ‹_›, ‹_›, rfl⟩)
      · cases stepped
    | padAdded pad =>
      simp only at stepped
      split at stepped <;> cases stepped
      exact Or.inr (Or.inr ⟨pad, rfl, ‹_›, rfl⟩)

theorem perform_frame (viewer : Viewer S) (call : Call S) :
    (viewer.perform call).sessions = viewer.sessions ∧
      (viewer.perform call).rtpBin = viewer.rtpBin ∧ (viewer.perform call).seen = viewer.seen := by
  unfold perform
  split
  · exact ⟨rfl, rfl, rfl⟩
  · cases call with
    | binAdd bin => dsimp only; split <;> exact ⟨rfl, rfl, rfl⟩
    | syncStateWithParent bin => exact ⟨rfl, rfl, rfl⟩
    | padLink pad bin => dsimp only; split <;> exact ⟨rfl, rfl, rfl⟩

theorem foldl_perform_frame (calls : List (Call S)) (viewer : Viewer S) :
    (calls.foldl perform viewer).sessions = viewer.sessions ∧
      (calls.foldl perform viewer).rtpBin = viewer.rtpBin ∧
      (calls.foldl perform viewer).seen = viewer.seen := by
  induction calls generalizing viewer with
  | nil => exact ⟨rfl, rfl, rfl⟩
  | cons call calls ih =>
    obtain ⟨sessions, rtpBin, seen⟩ := ih (viewer.perform call)
    obtain ⟨sessions', rtpBin', seen'⟩ := perform_frame viewer call
    exact ⟨sessions.trans sessions', rtpBin.trans rtpBin', seen.trans seen'⟩

/-- **A new pad changes no session and no handler.** -/
theorem padAdded_frame (viewer : Viewer S) (pad : Pad) :
    (viewer.padAdded pad).sessions = viewer.sessions ∧
      (viewer.padAdded pad).rtpBin = viewer.rtpBin ∧
      (viewer.padAdded pad).seen = viewer.seen ++ [pad.object] :=
  foldl_perform_frame _ _

theorem rtpBin_setup (viewer : Viewer S) (s : S) (session : VideoSession S) (addr : String)
    (portBase : Int) :
    (viewer.setup s session addr portBase).rtpBin =
      ⟨viewer.rtpBin.refs + 1, fun signal =>
        viewer.rtpBin.handlers signal ++ if signal = .requestAuxSender then [] else [s]⟩ :=
  execute_setupRtpReceiver s viewer.rtpBin addr portBase

theorem connected_setup (viewer : Viewer S) (s : S) (session : VideoSession S) (addr : String)
    (portBase : Int) :
    (viewer.setup s session addr portBase).connected = viewer.connected ++ [s] := by
  unfold connected
  rw [rtpBin_setup]
  rfl

end Viewer

/-! ### What every step keeps -/

section Accounting

variable {S : Type} [DecidableEq S] {viewer next : Viewer S}

/-- What the set-ups have left: a reference and three handlers each. -/
structure Accounted (viewer : Viewer S) : Prop where
  refs : viewer.rtpBin.refs = 1 + viewer.connected.length
  handlers : ∀ signal, viewer.rtpBin.handlers signal =
    if signal = .requestAuxSender then [] else viewer.connected
  sessions : ∀ s session, viewer.sessions s = some session → session =
    if s ∈ viewer.connected then ⟨session.id, true, videoCaps s, settled⟩
    else makeVideoSession s session.id
  known : ∀ s ∈ viewer.connected, ∃ session, viewer.sessions s = some session
  once : viewer.connected.Nodup

theorem accounted_make : Accounted (Viewer.make : Viewer S) := by
  refine ⟨rfl, fun signal => ?_, nofun, nofun, List.nodup_nil⟩
  split <;> rfl

/-- A session that has not been set up is not connected. -/
theorem Accounted.not_connected (inv : Accounted viewer) {s : S} {session : VideoSession S}
    (made : viewer.sessions s = some session) (uncalled : session.counts.setup = none) :
    s ∉ viewer.connected := by
  intro member
  have settled := inv.sessions s session made
  rw [if_pos member] at settled
  rw [settled] at uncalled
  cases uncalled

theorem accounted_makeVideoSession (inv : Accounted viewer) {s : S}
    (unmade : viewer.sessions s = none) (id : UInt32) :
    Accounted { viewer with
      sessions := Function.update viewer.sessions s (some (makeVideoSession s id)) } := by
  have fresh : s ∉ viewer.connected := by
    intro member
    obtain ⟨session, made⟩ := inv.known s member
    cases unmade.symm.trans made
  refine ⟨inv.refs, inv.handlers, fun other session made => ?_, fun other member => ?_, inv.once⟩
  · by_cases here : other = s
    · subst here
      have stored := Function.update_self other (some (makeVideoSession other id)) viewer.sessions
      obtain rfl := Option.some.inj (stored.symm.trans made)
      exact (if_neg fresh).symm
    · exact inv.sessions other session ((Function.update_of_ne here ..).symm.trans made)
  · obtain ⟨session, made⟩ := inv.known other member
    have here : other ≠ s := fun same => fresh (same ▸ member)
    exact ⟨session, (Function.update_of_ne here ..).trans made⟩

theorem accounted_setup (inv : Accounted viewer) {s : S} {session : VideoSession S}
    (made : viewer.sessions s = some session) (uncalled : session.counts.setup = none)
    (addr : String) (portBase : Int) : Accounted (viewer.setup s session addr portBase) := by
  have fresh := inv.not_connected made uncalled
  obtain ⟨id, rfl⟩ : ∃ id, session = makeVideoSession s id :=
    ⟨session.id, (inv.sessions s session made).trans (if_neg fresh)⟩
  have connected := viewer.connected_setup s (makeVideoSession s id) addr portBase
  refine ⟨?_, fun signal => ?_, fun other after now => ?_, fun other member => ?_, ?_⟩
  · rw [connected, Viewer.rtpBin_setup, List.length_append, inv.refs]
    rfl
  · rw [connected, Viewer.rtpBin_setup]
    show viewer.rtpBin.handlers signal ++ _ = _
    rw [inv.handlers signal]
    split <;> rfl
  · rw [connected]
    by_cases here : other = s
    · subst here
      have stored := Function.update_self other
        (some ((makeVideoSession other id).setUp (setupRtpReceiver addr portBase))) viewer.sessions
      obtain rfl := Option.some.inj (stored.symm.trans now)
      rw [if_pos (by simp)]
      exact setUp_setupRtpReceiver other id addr portBase
    · have before := inv.sessions other after ((Function.update_of_ne here ..).symm.trans now)
      rw [before]
      simp only [List.mem_append, List.mem_singleton, here, or_false]
      split <;> rfl
  · rw [connected] at member
    by_cases here : other = s
    · subst here
      exact ⟨_, Function.update_self ..⟩
    · have old := (List.mem_append.mp member).resolve_right fun last =>
        here (List.mem_singleton.mp last)
      obtain ⟨session, made⟩ := inv.known other old
      exact ⟨session, (Function.update_of_ne here ..).trans made⟩
  · rw [connected, ← List.concat_eq_append]
    exact List.Nodup.concat fresh inv.once

theorem accounted_padAdded (inv : Accounted viewer) (pad : Pad) :
    Accounted (viewer.padAdded pad) := by
  obtain ⟨sessions, rtpBin, _⟩ := viewer.padAdded_frame pad
  have connected : (viewer.padAdded pad).connected = viewer.connected := by
    unfold Viewer.connected
    rw [rtpBin]
  refine ⟨?_, ?_, ?_, ?_, ?_⟩
  · rw [rtpBin, connected]
    exact inv.refs
  · rw [rtpBin, connected]
    exact inv.handlers
  · rw [sessions, connected]
    exact inv.sessions
  · rw [sessions, connected]
    exact inv.known
  · rw [connected]
    exact inv.once

/-- **One step of the viewer.** -/
theorem accounted_step {event : Event S} (inv : Accounted viewer)
    (stepped : viewer.step event = some next) :
    Accounted next ∧ next.connected = viewer.connected ++ setUpIn [event] := by
  obtain ⟨_, ⟨s, id, rfl, unmade, rfl⟩ | ⟨s, addr, portBase, session, rfl, made, uncalled, rfl⟩ |
    ⟨pad, rfl, _, rfl⟩⟩ := Viewer.step_cases stepped
  · exact ⟨accounted_makeVideoSession inv unmade id, (List.append_nil _).symm⟩
  · exact ⟨accounted_setup inv made uncalled addr portBase,
      viewer.connected_setup s session addr portBase⟩
  · refine ⟨accounted_padAdded inv pad, ?_⟩
    unfold Viewer.connected
    rw [(viewer.padAdded_frame pad).2.1]
    exact (List.append_nil _).symm

/-- **Every run of the viewer.** -/
theorem accounted_run {start final : Viewer S} {events : List (Event S)} (inv : Accounted start)
    (reached : runSteps Viewer.step start events = some final) :
    Accounted final ∧ final.connected = start.connected ++ setUpIn events := by
  induction events generalizing start with
  | nil =>
    cases reached
    exact ⟨inv, (List.append_nil _).symm⟩
  | cons event rest ih =>
    obtain ⟨next, stepped, later⟩ := runSteps_cons.mp reached
    obtain ⟨invNext, connected⟩ := accounted_step inv stepped
    obtain ⟨invFinal, connectedFinal⟩ := ih invNext later
    refine ⟨invFinal, ?_⟩
    rw [connectedFinal, connected, List.append_assoc]
    show _ = start.connected ++ setUpIn ([event] ++ rest)
    unfold setUpIn
    rw [List.filterMap_append]

end Accounting

end GstPipeline.Receive
