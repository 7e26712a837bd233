/-
**The reference count of a stream session.**

A session (`stream_session.h`) is made with one reference, its creator's. The set-up of a streamer or
a viewer connects handlers to signals of the RTP bin, some with the session as it is, some with a
reference of their own that is given up when the signal's closure is finalised, and ends by giving up
the creator's reference. The session is freed when the count comes to zero.

`StreamSession.step` runs one session, with the set-up statement by statement and any number of
handler runs at a time, each one field access after another:

* a closure is finalised at most once, and not while its handler runs;
* `touched` lists the session fields that a step reads or writes, the count included;
* `holders` counts the holders of a reference: the creator until the set-up gives its reference up,
  and each live pad-added and request-pt-map closure.

`sessions_counted`: in every run of any number of sessions the count is the number of holders, the
session has been freed once if there are none and never if there are some, and no step touches a
freed session. What a set-up has to do for this is `Orderly`.
-/

import GstPipeline.Lib.Run
import GstPipeline.Rtp.Setup

namespace GstPipeline.Session

open GstPipeline.Lib GstPipeline.Rtp

/-! ### Sessions, closures and handlers -/

/-- Whose `make_video_session` made the session. -/
inductive Kind
  | streamer
  | viewer
  deriving DecidableEq

/-- The closure that connects a handler; `notify` says that `stream_session_unref` runs when it is
finalised. -/
inductive Closure
  | none
  | live (notify : Bool)
  | finalised
  deriving DecidableEq

def Closure.isLive : Closure → Bool
  | .live _ => true
  | _ => false

/-- A handler that runs: its signal, and the session fields it is still to read. -/
structure Frame where
  signal : Signal
  accesses : List Field
  deriving DecidableEq

/-- The fields that a handler reads, in order. `hit` says that the new pad is one of this session
(`rtp_pad_added_handler`), or that the requested session id is this one's (`request_pt_map`). -/
def handlerAccesses : Signal → Bool → List Field
  | .requestAuxSender, _ => []
  | .requestAuxReceiver, _ => []
  | .padAdded, false => [.id]
  | .padAdded, true => [.id, .rtpBin, .bin, .bin, .bin]
  | .requestPtMap, false => [.id, .id]
  | .requestPtMap, true => [.id, .id, .vCaps, .vCaps]

/-- A session: its count, how often it was freed, the statements of its set-up that are still to run
(`none` before the call), its closures, and the handlers that run. -/
structure StreamSession where
  kind : Kind
  numRef : Int
  frees : ℕ
  setup : Option (List Statement)
  closures : Signal → Closure
  frames : List Frame

inductive Event
  | makeVideoSession (kind : Kind)
  | setup (addr : String) (portBase : Int)
  | statement
  | emit (signal : Signal) (hit : Bool)
  | handler (frame : ℕ)
  | finalise (signal : Signal)
  deriving DecidableEq

namespace StreamSession

/-- `stream_session_ref`. -/
def ref (session : StreamSession) : StreamSession :=
  { session with numRef := session.numRef + 1 }

/-- `stream_session_unref`: decrement, and free the session if that gives zero. -/
def unref (session : StreamSession) : StreamSession :=
  { session with
    numRef := session.numRef - 1
    frees := if session.numRef - 1 = 0 then session.frees + 1 else session.frees }

/-- `make_video_session`, with `create_stream_session`: a zeroed session, and one reference. -/
def make (kind : Kind) : StreamSession :=
  ref ⟨kind, 0, 0, none, fun _ => .none, []⟩

def setSetup (session : StreamSession) (rest : List Statement) : StreamSession :=
  { session with setup := some rest }

def setFrames (session : StreamSession) (frames : List Frame) : StreamSession :=
  { session with frames := frames }

def setClosure (session : StreamSession) (signal : Signal) (closure : Closure) : StreamSession :=
  { session with closures := Function.update session.closures signal closure }

/-- The set-up of a session of this kind. -/
def setupOf : Kind → String → Int → List Statement
  | .streamer => setupRtpSender
  | .viewer => setupRtpReceiver

/-- What a statement does to the session. -/
def execute (session : StreamSession) : Statement → StreamSession
  | .connect signal => session.setClosure signal (.live false)
  | .connectRef signal => session.ref.setClosure signal (.live true)
  | .unref => session.unref
  | _ => session

/-- One step of a session; before `make_video_session` there is none. -/
def step : Option StreamSession → Event → Option (Option StreamSession)
  | none, .makeVideoSession kind => some (some (make kind))
  | none, _ => none
  | some _, .makeVideoSession _ => none
  | some session, .setup addr portBase =>
    match session.setup with
    | none => some (some (session.setSetup (setupOf session.kind addr portBase)))
    | some _ => none
  | some session, .statement =>
    match session.setup with
    | some (statement :: rest) => some (some ((session.execute statement).setSetup rest))
    | _ => none
  | some session, .emit signal hit =>
    if (session.closures signal).isLive then
      some (some (session.setFrames (session.frames ++ [⟨signal, handlerAccesses signal hit⟩])))
    else none
  | some session, .handler frame =>
    match session.frames[frame]? with
    | some ⟨signal, _ :: rest⟩ =>
      some (some (session.setFrames (session.frames.set frame ⟨signal, rest⟩)))
    | some ⟨_, []⟩ => some (some (session.setFrames (session.frames.eraseIdx frame)))
    | none => none
  | some session, .finalise signal =>
    match session.closures signal with
    | .live notify =>
      if ∃ frame ∈ session.frames, frame.signal = signal then none
      else
        let finalised := session.setClosure signal .finalised
        some (some (if notify then finalised.unref else finalised))
    | _ => none

/-- The fields that a statement reads or writes. -/
def touchedBy : Statement → List Field
  | .readField field => [field]
  | .writeField field => [field]
  | .connectRef _ => [.numRef]
  | .unref => [.numRef]
  | _ => []

/-- The fields that a step reads or writes. -/
def touched (session : StreamSession) : Event → List Field
  | .statement => ((session.setup.getD []).head?.map touchedBy).getD []
  | .handler frame => ((session.frames[frame]?).bind fun frame => frame.accesses.head?).toList
  | .finalise signal => if session.closures signal = .live true then [.numRef] else []
  | _ => []

/-! ### Holders -/

/-- The set-up has not given up the creator's reference. -/
def creatorHolds (session : StreamSession) : Bool :=
  match session.setup with
  | none => true
  | some rest => rest.contains .unref

/-- The live closures that hold a reference. -/
def liveClosures (session : StreamSession) : Int :=
  (session.closures .padAdded).isLive.toNat + (session.closures .requestPtMap).isLive.toNat

/-- The holders of a reference. -/
def holders (session : StreamSession) : Int :=
  session.creatorHolds.toNat + session.liveClosures

end StreamSession

/-! ### Orderly set-ups -/

/-- The signals whose closures are holders. -/
def counted : Signal → Bool
  | .padAdded => true
  | .requestPtMap => true
  | _ => false

/-- The signal that a statement connects. -/
def connects : Statement → Option Signal
  | .connect signal => some signal
  | .connectRef signal => some signal
  | _ => none

/-- A statement is connected with a reference if its handler is to hold one. -/
def connectsRight : Statement → Bool
  | .connect signal => !counted signal
  | .connectRef signal => counted signal
  | _ => true

/-- No signal is connected twice, each in the right way, and the creator's reference is given up by
the last statement. -/
def Orderly : List Statement → Prop
  | [] => True
  | statement :: rest =>
    (statement = .unref ↔ rest = []) ∧ connectsRight statement = true ∧
      (∀ signal ∈ connects statement, signal ∉ rest.filterMap connects) ∧ Orderly rest

instance decidableOrderly : ∀ rest, Decidable (Orderly rest)
  | [] => isTrue trivial
  | _ :: rest =>
    have : Decidable (Orderly rest) := decidableOrderly rest
    inferInstanceAs (Decidable (_ ∧ _ ∧ _ ∧ _))

/-- Whatever the address and the port. -/
theorem orderly_setup (kind : Kind) (addr : String) (portBase : Int) :
    Orderly (StreamSession.setupOf kind addr portBase) := by
  cases kind with
  | streamer => exact of_decide_eq_true rfl
  | viewer => exact of_decide_eq_true rfl

theorem unref_mem_of_orderly {rest : List Statement} (orderly : Orderly rest) (some' : rest ≠ []) :
    .unref ∈ rest := by
  induction rest with
  | nil => exact (some' rfl).elim
  | cons statement rest ih =>
    obtain ⟨last, _, _, orderly⟩ := orderly
    by_cases here : rest = []
    · rw [last.mpr here]
      exact List.mem_cons_self
    · exact List.mem_cons_of_mem _ (ih orderly here)

/-! ### What every step keeps -/

/-- The count of a session, with what it rests on. -/
structure Counted (session : StreamSession) : Prop where
  count : session.numRef = session.holders
  freed : session.frees = if session.numRef = 0 then 1 else 0
  notify : ∀ signal notify, session.closures signal = .live notify → notify = counted signal
  frames : ∀ frame ∈ session.frames, (session.closures frame.signal).isLive = true ∧
    (frame.accesses ≠ [] → counted frame.signal = true)
  before : session.setup = none → ∀ signal, session.closures signal = .none
  pending : ∀ rest, session.setup = some rest → Orderly rest ∧
    ∀ signal ∈ rest.filterMap connects, session.closures signal = .none

section Count

variable {session : StreamSession}

theorem closures_setClosure (session : StreamSession) (signal other : Signal) (closure : Closure) :
    (session.setClosure signal closure).closures other =
      if other = signal then closure else session.closures other :=
  Function.update_apply ..

theorem liveClosures_setClosure (session : StreamSession) (signal : Signal) (closure : Closure) :
    (session.setClosure signal closure).liveClosures = session.liveClosures +
      if counted signal then
        (closure.isLive.toNat : Int) - (session.closures signal).isLive.toNat
      else 0 := by
  unfold StreamSession.liveClosures
  rw [closures_setClosure, closures_setClosure]
  cases signal with
  | requestAuxSender => exact (Int.add_zero _).symm
  | requestAuxReceiver => exact (Int.add_zero _).symm
  | padAdded =>
    have holds : counted .padAdded = true := rfl
    rw [if_pos rfl, if_neg nofun, if_pos holds]
    omega
  | requestPtMap =>
    have holds : counted .requestPtMap = true := rfl
    rw [if_neg nofun, if_pos rfl, if_pos holds]
    omega

theorem liveClosures_nonneg (session : StreamSession) : 0 ≤ session.liveClosures := by
  unfold StreamSession.liveClosures
  omega

/-- A live closure that is counted is a holder. -/
theorem liveClosures_pos {signal : Signal} (holds : counted signal = true)
    (live : (session.closures signal).isLive = true) : 1 ≤ session.liveClosures := by
  unfold StreamSession.liveClosures
  cases signal with
  | padAdded =>
    rw [live]
    simp only [Bool.toNat_true]
    omega
  | requestPtMap =>
    rw [live]
    simp only [Bool.toNat_true]
    omega
  | _ => cases holds

/-- A session with a holder has not been freed. -/
theorem Counted.unfreed (inv : Counted session) (held : 1 ≤ session.holders) : session.frees = 0 := by
  rw [inv.freed, if_neg]
  rw [inv.count]
  omega

/-- While statements of the set-up are left, the creator holds its reference. -/
theorem creatorHolds_of_pending {statement : Statement} {rest : List Statement}
    (orderly : Orderly (statement :: rest)) (setup : session.setup = some (statement :: rest)) :
    session.creatorHolds = true := by
  have member := unref_mem_of_orderly orderly (by simp)
  unfold StreamSession.creatorHolds
  rw [setup]
  exact List.contains_iff_mem.mpr member

theorem holders_pos_of_pending {statement : Statement} {rest : List Statement}
    (orderly : Orderly (statement :: rest)) (setup : session.setup = some (statement :: rest)) :
    1 ≤ session.holders := by
  have closures := liveClosures_nonneg session
  unfold StreamSession.holders
  rw [creatorHolds_of_pending orderly setup]
  simp only [Bool.toNat_true]
  omega

theorem holders_setSetup (session : StreamSession) (rest : List Statement) :
    (session.setSetup rest).holders = (rest.contains .unref).toNat + session.liveClosures := rfl

theorem holders_setClosure (session : StreamSession) (signal : Signal) (closure : Closure) :
    (session.setClosure signal closure).holders = session.holders +
      if counted signal then
        (closure.isLive.toNat : Int) - (session.closures signal).isLive.toNat
      else 0 := by
  have closures := liveClosures_setClosure session signal closure
  have creator : (session.setClosure signal closure).creatorHolds = session.creatorHolds := rfl
  unfold StreamSession.holders
  rw [creator, closures]
  omega

/-- The statements that are left after one. -/
theorem pending_tail {statement : Statement} {rest : List Statement} (inv : Counted session)
    (setup : session.setup = some (statement :: rest)) :
    Orderly rest ∧ ∀ signal ∈ rest.filterMap connects, session.closures signal = .none := by
  obtain ⟨⟨_, _, _, later⟩, fresh⟩ := inv.pending _ setup
  refine ⟨later, fun signal member => fresh signal ?_⟩
  rw [List.filterMap_cons]
  split
  · exact member
  · exact List.mem_cons_of_mem _ member

/-- A statement that is not the last leaves the creator its reference. -/
theorem counted_advance {statement : Statement} {rest : List Statement} (inv : Counted session)
    (setup : session.setup = some (statement :: rest)) (more : statement ≠ .unref) :
    Counted (session.setSetup rest) := by
  obtain ⟨⟨last, _, _, later⟩, _⟩ := inv.pending _ setup
  have left : rest.contains .unref = true :=
    List.contains_iff_mem.mpr (unref_mem_of_orderly later fun none => more (last.mpr none))
  refine ⟨?_, inv.freed, inv.notify, inv.frames, nofun, ?_⟩
  · rw [holders_setSetup, left]
    show session.numRef = _
    rw [inv.count]
    unfold StreamSession.holders
    rw [creatorHolds_of_pending (inv.pending _ setup).1 setup]
  · have left := pending_tail inv setup
    intro others same
    cases same
    exact left

/-- The last statement gives up the creator's reference. -/
theorem counted_unref {rest : List Statement} (inv : Counted session)
    (setup : session.setup = some (.unref :: rest)) : Counted (session.unref.setSetup rest) := by
  obtain ⟨orderly, _⟩ := inv.pending _ setup
  obtain rfl : rest = [] := orderly.1.mp rfl
  have held := holders_pos_of_pending orderly setup
  have unfreed := inv.unfreed held
  have holds := creatorHolds_of_pending orderly setup
  refine ⟨?_, ?_, inv.notify, inv.frames, nofun, ?_⟩
  · show session.numRef - 1 = _
    rw [holders_setSetup, inv.count]
    unfold StreamSession.holders
    rw [holds]
    show (1 : Int) + session.liveClosures - 1 = 0 + session.liveClosures
    omega
  · show (if session.numRef - 1 = 0 then session.frees + 1 else session.frees) = _
    rw [unfreed]
    rfl
  · intro others same
    cases same
    exact ⟨trivial, nofun⟩

/-- A closure changes, and the count with it if the closure is a holder. -/
theorem counted_setClosure {signal : Signal} {closure : Closure} {changed : StreamSession}
    (inv : Counted session) (sameSetup : changed.setup = session.setup)
    (sameClosures : changed.closures = session.closures) (sameFrames : changed.frames = session.frames)
    (count : changed.numRef = session.numRef + if counted signal then
      (closure.isLive.toNat : Int) - (session.closures signal).isLive.toNat else 0)
    (freed : changed.frees = if changed.numRef = 0 then 1 else 0)
    (notify : ∀ notify, closure = .live notify → notify = counted signal)
    (idle : closure.isLive = true ∨ ∀ frame ∈ session.frames, frame.signal ≠ signal)
    (called : session.setup ≠ none)
    (once : ∀ rest, session.setup = some rest → signal ∉ rest.filterMap connects) :
    Counted (changed.setClosure signal closure) := by
  have mine : (changed.setClosure signal closure).closures signal = closure :=
    Function.update_self ..
  have others : ∀ other, other ≠ signal →
      (changed.setClosure signal closure).closures other = session.closures other := by
    intro other differs
    rw [← sameClosures]
    exact Function.update_of_ne differs ..
  have sameHolders : changed.holders = session.holders := by
    unfold StreamSession.holders StreamSession.liveClosures StreamSession.creatorHolds
    rw [sameSetup, sameClosures]
  refine ⟨?_, freed, ?_, ?_, fun none => (called (sameSetup.symm.trans none)).elim, ?_⟩
  · show changed.numRef = _
    rw [holders_setClosure, sameHolders, sameClosures, count, inv.count]
  · intro other
    by_cases here : other = signal
    · rw [here, mine]
      exact notify
    · rw [others other here]
      exact inv.notify other
  · intro frame member
    have old : frame ∈ session.frames := sameFrames ▸ member
    by_cases here : frame.signal = signal
    · refine ⟨?_, (inv.frames frame old).2⟩
      rw [here, mine]
      exact idle.resolve_right fun none => none frame old here
    · rw [others _ here]
      exact inv.frames frame old
  · intro rest left
    have setup : session.setup = some rest := sameSetup.symm.trans left
    obtain ⟨orderly, fresh⟩ := inv.pending rest setup
    refine ⟨orderly, fun other member => ?_⟩
    have differs : other ≠ signal := fun same => once rest setup (same ▸ member)
    rw [others other differs]
    exact fresh other member

/-- **One statement of the set-up.** -/
theorem counted_statement {statement : Statement} {rest : List Statement} (inv : Counted session)
    (setup : session.setup = some (statement :: rest)) :
    Counted ((session.execute statement).setSetup rest) := by
  obtain ⟨⟨last, right, once, later⟩, fresh⟩ := inv.pending _ setup
  have held := holders_pos_of_pending (inv.pending _ setup).1 setup
  have unfreed := inv.unfreed held
  have positive : 1 ≤ session.numRef := inv.count ▸ held
  cases statement with
  | unref => exact counted_unref inv setup
  | connect signal =>
    have advanced := counted_advance inv setup nofun
    have uncounted : counted signal = false := by simpa [connectsRight] using right
    show Counted ((session.setSetup rest).setClosure signal (.live false))
    refine counted_setClosure advanced rfl rfl rfl ?_ advanced.freed ?_ (Or.inl rfl) nofun ?_
    · simp [uncounted]
    · intro notify same
      cases same
      exact uncounted.symm
    · intro others same
      cases same
      exact once signal rfl
  | connectRef signal =>
    have advanced := counted_advance inv setup nofun
    have holds : counted signal = true := right
    have unconnected : session.closures signal = .none := fresh signal (by simp [connects])
    show Counted ((session.setSetup rest).ref.setClosure signal (.live true))
    refine counted_setClosure advanced rfl rfl rfl ?_ ?_ ?_ (Or.inl rfl) nofun ?_
    · show session.numRef + 1 = session.numRef + _
      rw [if_pos holds]
      show _ = _ + ((1 : Int) - (session.closures signal).isLive.toNat)
      rw [unconnected]
      rfl
    · show session.frees = if session.numRef + 1 = 0 then 1 else 0
      rw [unfreed, if_neg (by omega)]
    · intro notify same
      cases same
      exact holds.symm
    · intro others same
      cases same
      exact once signal rfl
  | _ => exact counted_advance inv setup nofun

/-- A handler starts, reads a field or returns. -/
theorem counted_setFrames {frames : List Frame} (inv : Counted session)
    (own : ∀ frame ∈ frames, (session.closures frame.signal).isLive = true ∧
      (frame.accesses ≠ [] → counted frame.signal = true)) : Counted (session.setFrames frames) :=
  ⟨inv.count, inv.freed, inv.notify, own, inv.before, inv.pending⟩

/-- Handlers of closures that hold no reference read no field. -/
theorem counted_of_accesses {signal : Signal} {hit : Bool} (reads : handlerAccesses signal hit ≠ []) :
    counted signal = true := by
  cases signal with
  | requestAuxSender => exact (reads rfl).elim
  | requestAuxReceiver => exact (reads rfl).elim
  | _ => rfl

/-- A closure is finalised while none of its handlers runs. -/
theorem counted_finalise {signal : Signal} {notify : Bool} (inv : Counted session)
    (live : session.closures signal = .live notify)
    (idle : ∀ frame ∈ session.frames, frame.signal ≠ signal) :
    Counted (if notify then (session.setClosure signal .finalised).unref
      else session.setClosure signal .finalised) := by
  have kind : notify = counted signal := inv.notify signal notify live
  have called : session.setup ≠ none := by
    intro none
    cases live.symm.trans (inv.before none signal)
  have once : ∀ rest, session.setup = some rest → signal ∉ rest.filterMap connects := by
    intro rest setup member
    cases live.symm.trans ((inv.pending rest setup).2 signal member)
  cases notify with
  | true =>
    have held : 1 ≤ session.liveClosures := liveClosures_pos kind.symm (by rw [live]; rfl)
    have unfreed := inv.unfreed (by unfold StreamSession.holders; omega)
    show Counted (session.unref.setClosure signal .finalised)
    refine counted_setClosure inv rfl rfl rfl ?_ ?_ nofun (Or.inr idle) called once
    · rw [if_pos kind.symm, live]
      rfl
    · show (if session.numRef - 1 = 0 then session.frees + 1 else session.frees) = _
      rw [unfreed]
      rfl
  | false =>
    show Counted (session.setClosure signal .finalised)
    refine counted_setClosure inv rfl rfl rfl ?_ inv.freed nofun (Or.inr idle) called once
    rw [if_neg (by rw [← kind]; nofun), Int.add_zero]

end Count

/-! ### Runs -/

theorem counted_make (kind : Kind) : Counted (StreamSession.make kind) :=
  ⟨rfl, rfl, nofun, nofun, fun _ _ => rfl, nofun⟩

/-- **One step of a session.** -/
theorem counted_step {session : StreamSession} {event : Event} {next : Option StreamSession}
    (inv : Counted session) (stepped : StreamSession.step (some session) event = some next) :
    ∃ after, next = some after ∧ Counted after := by
  cases event with
  | makeVideoSession kind => cases stepped
  | setup addr portBase =>
    simp only [StreamSession.step] at stepped
    split at stepped <;> cases stepped
    rename_i uncalled
    refine ⟨_, rfl, ?_, inv.freed, inv.notify, inv.frames, nofun, ?_⟩
    · rw [holders_setSetup]
      show session.numRef = _
      rw [inv.count]
      unfold StreamSession.holders StreamSession.creatorHolds
      rw [uncalled]
      cases session.kind <;> rfl
    · intro rest same
      cases same
      exact ⟨orderly_setup session.kind addr portBase, fun signal _ => inv.before uncalled signal⟩
  | statement =>
    simp only [StreamSession.step] at stepped
    split at stepped <;> cases stepped
    rename_i setup
    exact ⟨_, rfl, counted_statement inv setup⟩
  | emit signal hit =>
    simp only [StreamSession.step] at stepped
    split at stepped <;> cases stepped
    rename_i live
    refine ⟨_, rfl, counted_setFrames inv fun frame member => ?_⟩
    rcases List.mem_append.mp member with member | fresh
    · exact inv.frames frame member
    · cases List.mem_singleton.mp fresh
      exact ⟨live, counted_of_accesses⟩
  | handler frame =>
    simp only [StreamSession.step] at stepped
    split at stepped <;> cases stepped
    · rename_i signal field rest running
      have own := inv.frames _ (List.mem_of_getElem? running)
      refine ⟨_, rfl, counted_setFrames inv fun other member => ?_⟩
      rcases List.mem_or_eq_of_mem_set member with member | rfl
      · exact inv.frames other member
      · exact ⟨own.1, fun _ => own.2 nofun⟩
    · refine ⟨_, rfl, counted_setFrames inv fun other member => ?_⟩
      exact inv.frames other (List.mem_of_mem_eraseIdx member)
  | finalise signal =>
    simp only [StreamSession.step] at stepped
    split at stepped
    · rename_i notify live
      split at stepped <;> cases stepped
      rename_i running
      refine ⟨_, rfl, counted_finalise inv live fun frame member same => ?_⟩
      exact running ⟨frame, member, same⟩
    · cases stepped

/-- **No step touches a freed session.** -/
theorem unfreed_of_touched {session : StreamSession} {event : Event} (inv : Counted session)
    (touches : session.touched event ≠ []) : session.frees = 0 := by
  refine inv.unfreed ?_
  have closures : ∀ {signal : Signal}, counted signal = true →
      (session.closures signal).isLive = true → 1 ≤ session.holders := by
    intro signal holds live
    have held := liveClosures_pos holds live
    unfold StreamSession.holders
    omega
  cases event with
  | statement =>
    cases setup : session.setup with
    | none => simp [StreamSession.touched, setup] at touches
    | some rest =>
      cases rest with
      | nil => simp [StreamSession.touched, setup] at touches
      | cons statement rest => exact holders_pos_of_pending (inv.pending _ setup).1 setup
  | handler index =>
    cases running : session.frames[index]? with
    | none => simp [StreamSession.touched, running] at touches
    | some frame =>
      obtain ⟨live, reads⟩ := inv.frames frame (List.mem_of_getElem? running)
      refine closures (reads fun none => ?_) live
      simp [StreamSession.touched, running, none] at touches
  | finalise signal =>
    by_cases live : session.closures signal = .live true
    · exact closures (inv.notify signal true live).symm (by rw [live]; rfl)
    · simp [StreamSession.touched, live] at touches
  | _ => exact (touches rfl).elim

section Runs

variable {S : Type} [DecidableEq S] {events : List (S × Event)}
  {final : S → Option StreamSession}

/-- What a run keeps of each session. -/
theorem counted_run
    (reached : runSteps (familyStep StreamSession.step) (fun _ => none) events = some final) (s : S) :
    ∀ session, final s = some session → Counted session := by
  refine family_invariant (I := fun state => ∀ session, state = some session → Counted session)
    ?_ reached (fun _ => nofun) s
  intro state event next inv stepped session made
  cases state with
  | none =>
    cases event with
    | makeVideoSession kind =>
      cases stepped
      cases made
      exact counted_make kind
    | _ => cases stepped
  | some before =>
    obtain ⟨after, rfl, counted⟩ := counted_step (inv before rfl) stepped
    cases made
    exact counted

/-- **Session reference counting.** In every run the count of every session is the number of its
holders and not negative; it has been freed once if there is none, and never if there is one. Every
further step that touches a field of it finds it not freed, and frees it exactly when the step brings
the count to zero. -/
theorem sessions_counted
    (reached : runSteps (familyStep StreamSession.step) (fun _ => none) events = some final) {s : S}
    {session : StreamSession} (made : final s = some session) :
    session.numRef = session.holders ∧ 0 ≤ session.numRef ∧
      session.frees = (if session.numRef = 0 then 1 else 0) ∧
      ∀ event after, familyStep StreamSession.step final (s, event) = some after →
        (session.touched event ≠ [] → session.frees = 0) ∧
        ∀ later, after s = some later →
          (later.frees = session.frees + 1 ↔ session.numRef ≠ 0 ∧ later.numRef = 0) := by
  have inv := counted_run reached s session made
  refine ⟨inv.count, ?_, inv.freed, fun event after stepped => ?_⟩
  · have closures := liveClosures_nonneg session
    rw [inv.count]
    unfold StreamSession.holders
    omega
  · refine ⟨unfreed_of_touched inv, fun later now => ?_⟩
    have longer : runSteps (familyStep StreamSession.step) (fun _ => none) (events ++ [(s, event)]) =
        some after := runSteps_snoc reached stepped
    have invLater := counted_run longer s later now
    rw [inv.freed, invLater.freed]
    split <;> split <;> simp_all

end Runs

/-! ### A run of a streamer and a viewer -/

/-- The streamer's session is freed by its set-up; the viewer's handlers run before and after its own
set-up has ended, and the last closure frees it. -/
def bothEnds : List (Kind × Event) :=
  [[(.streamer, .makeVideoSession .streamer), (.viewer, .makeVideoSession .viewer),
      (.streamer, .setup "10.0.0.2" 3000), (.viewer, .setup "10.0.0.1" 3000)],
    List.replicate 12 (.streamer, .statement),
    List.replicate 8 (.viewer, .statement),
    [(.viewer, .emit .padAdded true), (.viewer, .handler 0)],
    List.replicate 7 (.viewer, .statement),
    [(.streamer, .emit .requestAuxSender true), (.streamer, .handler 0),
      (.viewer, .emit .requestPtMap true)],
    List.replicate 5 (.viewer, .handler 1),
    [(.viewer, .finalise .requestPtMap)],
    List.replicate 5 (.viewer, .handler 0),
    [(.viewer, .finalise .requestAuxReceiver), (.viewer, .finalise .padAdded)]].flatten

theorem sessions_counted_bothEnds :
    ∃ final streamer viewer,
      runSteps (familyStep StreamSession.step) (fun _ => none) bothEnds = some final ∧
      final .streamer = some streamer ∧ final .viewer = some viewer ∧
      streamer.numRef = streamer.holders ∧ streamer.frees = 1 ∧
      viewer.numRef = viewer.holders ∧ viewer.frees = 1 := by
  have ends : ((runSteps (familyStep StreamSession.step) (fun _ => none) bothEnds).bind fun final =>
      (final .streamer).bind fun streamer => (final .viewer).map fun viewer =>
        (streamer.numRef, viewer.numRef)) = some (0, 0) := by decide
  obtain ⟨final, reached, ends⟩ := Option.bind_eq_some_iff.mp ends
  obtain ⟨streamer, made, ends⟩ := Option.bind_eq_some_iff.mp ends
  obtain ⟨viewer, madeToo, ends⟩ := Option.map_eq_some_iff.mp ends
  simp only [Prod.mk.injEq] at ends
  obtain ⟨count, _, freed, _⟩ := sessions_counted reached made
  obtain ⟨countToo, _, freedToo, _⟩ := sessions_counted reached madeToo
  rw [ends.1] at freed
  rw [ends.2] at freedToo
  exact ⟨final, streamer, viewer, reached, made, madeToo, count, freed, countToo, freedToo⟩

end GstPipeline.Session
