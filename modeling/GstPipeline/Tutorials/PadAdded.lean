/-
**Linking the pads of a source that has them sometimes.**

Three programs link the raw audio and raw video pads of a source from a pad-added handler:
`pad_added_handler` of `dynamic_pipeline.c` and of `transcoder.c`, which differ in one element only,
and `file_pad_added_handler` of `creator.h`. A call takes references to the caps of the new pad and
to the sink it links it to, and gives them up behind the label `exit`. In the first two programs the
sink is in a variable of the inner block, and `exit` looks at one of the outer block with the same
name, which stays `NULL`. The third one has no branch for a pad that is not raw, and goes on to test
the result of a link that was not made.

* `Kept`: the calls give up what they took and test results of their own links, they leave other pads
  alone, and each sink is linked once at most.
* `kept_iff`: this holds throughout a run exactly when the first two programs get no raw pad, and the
  third one gets no other.
* `sinks_single`, `released_filePadAddedHandler` and `tested_padAddedHandler` are what holds in every
  run.
-/

import GstPipeline.Lib.Run
import GstPipeline.Receive.Handlers

namespace GstPipeline.Tutorials.PadAdded

open GstPipeline.Lib
open GstPipeline.Receive (gStrHasPrefix)

/-! ### Signals and acts -/

/-- The elements whose sinks are linked. `audioBin` and `videoBin` are the bins of `a_session` and
`v_session`. -/
inductive Element
  | audioConvert
  | videoConvert
  | scale
  | audioBin
  | videoBin
  deriving DecidableEq

/-- `GstPadLinkReturn`. -/
inductive PadLinkReturn
  | ok
  | wrongHierarchy
  | wasLinked
  | wrongDirection
  | noformat
  | nosched
  | refused
  deriving DecidableEq

/-- `GST_PAD_LINK_FAILED`. -/
def PadLinkReturn.failed (ret : PadLinkReturn) : Bool := ret ≠ .ok

/-- What a call takes a reference to. -/
inductive Object
  | caps (pad : ℕ)
  | sink (element : Element)
  deriving DecidableEq

/-- What a call does to pads and their references. -/
inductive Act
  | take (object : Object)
  | release (object : Object)
  | link (pad : ℕ) (sink : Element) (outcome : PadLinkReturn)
  | test (result : Option PadLinkReturn)
  deriving DecidableEq

/-- The signal: the source, the new pad and the name of its caps, if it has any. With what the call
meets: whether the sessions' bins are there, what `gst_pad_link` returns, and what happens to be in a
variable that was not written. -/
structure Signal where
  src : String
  pad : ℕ
  padName : String
  caps : Option String
  audioReady : Bool
  videoReady : Bool
  outcome : PadLinkReturn
  stale : PadLinkReturn

/-- The local variables of a call, what it did and what it printed. `ret` is `none` as long as it is
not written. -/
structure Frame where
  ret : Option PadLinkReturn
  audioSinkPad : Option Element
  videoSinkPad : Option Element
  acts : List Act
  printed : List String

def Frame.did (frame : Frame) (act : Act) : Frame := { frame with acts := frame.acts ++ [act] }

def Frame.print (frame : Frame) (text : String) : Frame :=
  { frame with printed := frame.printed ++ [text] }

/-- `newPadType`. Without caps it is `NULL`, and no text begins it. -/
def Signal.begins (signal : Signal) (target : String) : Bool :=
  signal.caps.any fun name => gStrHasPrefix name target

/-- `newPadType`, under `%s`. -/
def Signal.typeText (signal : Signal) : String := signal.caps.getD "(null)"

/-! ### The handlers -/

section Handlers

variable (linked : Element → List ℕ) (signal : Signal)

/-- The declarations. -/
def opened : Frame :=
  ⟨none, none, none, if signal.caps.isSome then [.take (.caps signal.pad)] else [], []⟩

/-- The link to a sink that has none yet. `error` is `goto exit`. -/
def tryLink (sink : Element) (already : String) (frame : Frame) : Except Frame Frame :=
  if linked sink ≠ [] then .error (frame.print already)
  else .ok { frame.did (.link signal.pad sink signal.outcome) with ret := some signal.outcome }

/-- The test of `ret`. -/
def testRet (failed succeeded : String) (frame : Frame) : Frame :=
  (frame.did (.test frame.ret)).print
    (if (frame.ret.getD signal.stale).failed then failed else succeeded)

/-- What is behind `exit`. -/
def exit (frame : Frame) : Frame :=
  let frame := if signal.caps.isSome then frame.did (.release (.caps signal.pad)) else frame
  let frame := (frame.audioSinkPad.map fun sink => frame.did (.release (.sink sink))).getD frame
  (frame.videoSinkPad.map fun sink => frame.did (.release (.sink sink))).getD frame

/-- The end of a call, after the branches. -/
def finish (failed succeeded : String) : Except Frame Frame → Frame
  | .ok frame => exit signal (testRet signal failed succeeded frame)
  | .error frame => exit signal frame

/-- The declarations and the first line of `pad_added_handler`. -/
def received : Frame :=
  let src := signal.src
  let padName := signal.padName
  (opened signal).print s!"Received new pad '{padName}' from '{src}': \n"

/-- `pad_added_handler`, with the elements that it links to. -/
def padAddedHandler (audio video : Element) : Frame :=
  let newPadType := signal.typeText
  let frame := received signal
  finish signal s!"Type is {newPadType} but link failed. \n"
    s!"Link succeeded (type: {newPadType}). \n"
    (if signal.begins "audio/x-raw" then
      -- The variable of this block is not the one that `exit` looks at.
      tryLink linked signal audio "We are already linked. Ignoring. \n"
        (frame.did (.take (.sink audio)))
    else if signal.begins "video/x-raw" then
      tryLink linked signal video "We are already linked. Ignoring. \n"
        (frame.did (.take (.sink video)))
    else
      .error (frame.print
        s!"It has type {newPadType} which is not raw audio or raw video. Ignoring. \n"))

/-- `pad_added_handler` of `dynamic_pipeline.c`. -/
def DynamicPipeline.padAddedHandler : Frame :=
  PadAdded.padAddedHandler linked signal .audioConvert .videoConvert

/-- `pad_added_handler` of `transcoder.c`. -/
def Transcoder.padAddedHandler : Frame :=
  PadAdded.padAddedHandler linked signal .audioConvert .scale

/-- `file_pad_added_handler` of `creator.h`. -/
def Creator.filePadAddedHandler : Frame :=
  let newCapsType := signal.typeText
  let frame := opened signal
  finish signal s!"Type {newCapsType}: link failed \n" s!"Type {newCapsType}: link success \n"
    (if signal.begins "audio/x-raw" then
      if !signal.audioReady then .error (frame.print "The audio session bin is not ready. \n")
      else
        tryLink linked signal .audioBin "The audio convert sink is already linked. \n"
          { frame.did (.take (.sink .audioBin)) with audioSinkPad := some .audioBin }
    else if signal.begins "video/x-raw" then
      if !signal.videoReady then .error (frame.print "The video Session bin is not ready. \n")
      else
        tryLink linked signal .videoBin "The video convert sink is already linked. \n"
          { frame.did (.take (.sink .videoBin)) with videoSinkPad := some .videoBin }
    else .ok frame)

end Handlers

inductive Handler
  | dynamicPipeline
  | transcoder
  | creator
  deriving DecidableEq

def Handler.call : Handler → (Element → List ℕ) → Signal → Frame
  | .dynamicPipeline => DynamicPipeline.padAddedHandler
  | .transcoder => Transcoder.padAddedHandler
  | .creator => Creator.filePadAddedHandler

/-! ### Runs -/

/-- A link that succeeds. -/
def perform (linked : Element → List ℕ) : Act → Element → List ℕ
  | .link pad sink .ok => Function.update linked sink (linked sink ++ [pad])
  | _ => linked

/-- The pads that the sinks are linked to, and the calls that were made. -/
structure World where
  linked : Element → List ℕ
  calls : List (Signal × Frame)

def World.start : World := ⟨fun _ => [], []⟩

/-- pad-added is emitted. -/
def World.padAdded (handler : Handler) (world : World) (signal : Signal) : World :=
  let frame := handler.call world.linked signal
  ⟨frame.acts.foldl perform world.linked, world.calls ++ [(signal, frame)]⟩

/-- The pad is raw audio or raw video. -/
def Signal.Raw (signal : Signal) : Prop :=
  signal.begins "audio/x-raw" = true ∨ signal.begins "video/x-raw" = true

instance (signal : Signal) : Decidable signal.Raw := inferInstanceAs (Decidable (_ ∨ _))

/-- Every reference that is taken is given up. -/
def Released (acts : List Act) : Prop :=
  ∀ object, acts.count (.take object) = acts.count (.release object)

/-- What is tested is the result of a link of the pad that was made before. -/
def Tested (signal : Signal) (acts : List Act) : Prop :=
  ∀ result, .test result ∈ acts → ∃ sink outcome, result = some outcome ∧
    List.Sublist [.link signal.pad sink outcome, .test result] acts

/-- Neither a link is made nor a result tested. -/
def LeftAlone (acts : List Act) : Prop :=
  (∀ pad sink outcome, .link pad sink outcome ∉ acts) ∧ ∀ result, .test result ∉ acts

/-- What a call is to do. -/
structure CallKept (signal : Signal) (acts : List Act) : Prop where
  released : Released acts
  tested : Tested signal acts
  ignores : ¬ signal.Raw → LeftAlone acts

/-- What the calls of a run are to do. -/
structure Kept (world : World) : Prop where
  calls : ∀ call ∈ world.calls, CallKept call.1 call.2.acts
  single : ∀ sink, (world.linked sink).length ≤ 1

/-- The first two programs are right about pads that are not raw, the third one about those that
are. -/
def Handler.Clear : Handler → Signal → Prop
  | .creator, signal => signal.Raw
  | _, signal => ¬ signal.Raw

instance (handler : Handler) (signal : Signal) : Decidable (handler.Clear signal) := by
  cases handler <;> unfold Handler.Clear <;> infer_instance

/-! ### What a call does -/

/-- The reference to the caps is taken. -/
def Signal.takes (signal : Signal) : List Act :=
  if signal.caps.isSome then [.take (.caps signal.pad)] else []

/-- The reference to the caps is given up. -/
def Signal.releases (signal : Signal) : List Act :=
  if signal.caps.isSome then [.release (.caps signal.pad)] else []

/-- A sink is taken and, if it has no link yet, linked. -/
inductive Tried (linked : Element → List ℕ) (signal : Signal) (sink : Element) : List Act → Prop
  | already : linked sink ≠ [] → Tried linked signal sink [.take (.sink sink)]
  | new : linked sink = [] → Tried linked signal sink
      [.take (.sink sink), .link signal.pad sink signal.outcome, .test (some signal.outcome)]

/-- What a call does between taking the caps and giving them up, and what it gives up after them. -/
inductive Shape (linked : Element → List ℕ) (signal : Signal) : Handler → List Act → List Act → Prop
  | ignored {handler : Handler} : handler ≠ .creator → ¬ signal.Raw →
      Shape linked signal handler [] []
  | leaked {handler : Handler} {sink : Element} {tried : List Act} : handler ≠ .creator →
      signal.Raw → Tried linked signal sink tried → Shape linked signal handler tried []
  | stale : ¬ signal.Raw → Shape linked signal .creator [.test none] []
  | notReady : signal.Raw → Shape linked signal .creator [] []
  | balanced {sink : Element} {tried : List Act} : signal.Raw → Tried linked signal sink tried →
      Shape linked signal .creator tried [.release (.sink sink)]

section Calls

variable {linked : Element → List ℕ} {signal : Signal} {frame : Frame} {sink : Element}

theorem acts_exit :
    (exit signal frame).acts = frame.acts ++ (signal.releases ++
      (frame.audioSinkPad.toList ++ frame.videoSinkPad.toList).map fun sink =>
        .release (.sink sink)) := by
  unfold exit Signal.releases Frame.did
  cases signal.caps <;> cases audio : frame.audioSinkPad <;> cases video : frame.videoSinkPad <;>
    simp [audio, video]

/-- **A call that tries a sink.** -/
theorem acts_tryLink (linked : Element → List ℕ) (signal : Signal) (sink : Element) (frame : Frame)
    {before : List Act} (taken : frame.acts = before ++ [.take (.sink sink)]) :
    ∃ tried, Tried linked signal sink tried ∧ ∀ failed succeeded already,
      (finish signal failed succeeded (tryLink linked signal sink already frame)).acts =
        before ++ tried ++ (signal.releases ++
          (frame.audioSinkPad.toList ++ frame.videoSinkPad.toList).map fun sink =>
            .release (.sink sink)) := by
  unfold tryLink
  by_cases free : linked sink = []
  · refine ⟨_, .new free, fun failed succeeded already => ?_⟩
    simp [free, finish, acts_exit, testRet, Frame.did, Frame.print, taken]
  · refine ⟨_, .already free, fun failed succeeded already => ?_⟩
    simp [free, finish, acts_exit, Frame.print, taken]

/-- The calls of the first two programs. -/
theorem shape_padAddedHandler (handler : Handler) (linked : Element → List ℕ) (signal : Signal)
    (audio video : Element) (other : handler ≠ .creator) :
    ∃ middle given, Shape linked signal handler middle given ∧
      (padAddedHandler linked signal audio video).acts =
        signal.takes ++ middle ++ (signal.releases ++ given) := by
  unfold padAddedHandler
  split
  · rename_i begins
    obtain ⟨tried, tries, acts⟩ := acts_tryLink linked signal audio
      ((received signal).did (.take (.sink audio))) rfl
    exact ⟨tried, [], .leaked other (Or.inl begins) tries, acts _ _ _⟩
  · split
    · rename_i begins
      obtain ⟨tried, tries, acts⟩ := acts_tryLink linked signal video
        ((received signal).did (.take (.sink video))) rfl
      exact ⟨tried, [], .leaked other (Or.inr begins) tries, acts _ _ _⟩
    · rename_i audioFree videoFree
      refine ⟨[], [], .ignored other (not_or.mpr ⟨audioFree, videoFree⟩), ?_⟩
      simp [finish, acts_exit, Frame.print, received, opened, Signal.takes]

/-- A call of the third program for a raw pad. `taken` are the variables when the sink is taken. -/
theorem shape_session {taken : Frame} (raw : signal.Raw)
    (acts : taken.acts = signal.takes ++ [.take (.sink sink)])
    (holds : taken.audioSinkPad.toList ++ taken.videoSinkPad.toList = [sink])
    (ready : Bool) (failed succeeded notReady already : String) :
    ∃ middle given, Shape linked signal .creator middle given ∧
      (finish signal failed succeeded
          (if !ready then .error ((opened signal).print notReady)
          else tryLink linked signal sink already taken)).acts =
        signal.takes ++ middle ++ (signal.releases ++ given) := by
  split
  · refine ⟨[], [], .notReady raw, ?_⟩
    simp [finish, acts_exit, Frame.print, opened, Signal.takes]
  · obtain ⟨tried, tries, called⟩ := acts_tryLink linked signal sink taken acts
    refine ⟨tried, [.release (.sink sink)], .balanced raw tries, ?_⟩
    rw [called, holds]
    rfl

/-- The calls of the third program. -/
theorem shape_filePadAddedHandler (linked : Element → List ℕ) (signal : Signal) :
    ∃ middle given, Shape linked signal .creator middle given ∧
      (Creator.filePadAddedHandler linked signal).acts =
        signal.takes ++ middle ++ (signal.releases ++ given) := by
  unfold Creator.filePadAddedHandler
  split
  · rename_i begins
    exact shape_session (Or.inl begins) rfl rfl _ _ _ _ _
  · split
    · rename_i begins
      exact shape_session (Or.inr begins) rfl rfl _ _ _ _ _
    · rename_i audioFree videoFree
      refine ⟨[.test none], [], .stale (not_or.mpr ⟨audioFree, videoFree⟩), ?_⟩
      simp [finish, acts_exit, testRet, Frame.did, Frame.print, opened, Signal.takes]

/-- **What a call does.** -/
theorem shape_call (handler : Handler) (linked : Element → List ℕ) (signal : Signal) :
    ∃ middle given, Shape linked signal handler middle given ∧
      (handler.call linked signal).acts =
        signal.takes ++ middle ++ (signal.releases ++ given) := by
  cases handler with
  | dynamicPipeline => exact shape_padAddedHandler _ linked signal _ _ nofun
  | transcoder => exact shape_padAddedHandler _ linked signal _ _ nofun
  | creator => exact shape_filePadAddedHandler linked signal

/-! ### What of it is right -/

variable {handler : Handler} {middle given tried : List Act}

/-- The caps are balanced, so the rest has to be. -/
theorem released_iff :
    Released (signal.takes ++ middle ++ (signal.releases ++ given)) ↔ Released (middle ++ given) := by
  unfold Released Signal.takes Signal.releases
  refine forall_congr' fun object => ?_
  cases signal.caps with
  | none => simp
  | some name =>
    simp only [Option.isSome_some, if_true, List.count_append, List.count_cons, List.count_nil]
    simp
    omega

@[simp] theorem mem_takes {act : Act} :
    act ∈ signal.takes ↔ act = .take (.caps signal.pad) ∧ signal.caps.isSome := by
  unfold Signal.takes
  split <;> simp [*]

@[simp] theorem mem_releases {act : Act} :
    act ∈ signal.releases ↔ act = .release (.caps signal.pad) ∧ signal.caps.isSome := by
  unfold Signal.releases
  split <;> simp [*]

/-- A sink that is tried is taken once, and not given up. -/
theorem count_tried (tries : Tried linked signal sink tried) (object : Object) :
    tried.count (.take object) = [Act.release (.sink sink)].count (.release object) ∧
      tried.count (.release object) = 0 := by
  cases tries <;> simp [List.count_cons]

/-- The result that is tested after a sink was tried is that of the link to it. -/
theorem tested_tried (tries : Tried linked signal sink tried)
    (quiet : ∀ result, .test result ∉ given) :
    Tested signal (signal.takes ++ tried ++ (signal.releases ++ given)) := by
  intro result member
  have member : .test result ∈ tried := by simpa [quiet] using member
  cases tries with
  | already => simp at member
  | new =>
    obtain rfl : result = some signal.outcome := by simpa using member
    refine ⟨sink, signal.outcome, rfl, ?_⟩
    have inner : List.Sublist [.link signal.pad sink signal.outcome, .test (some signal.outcome)]
        [Act.take (.sink sink), .link signal.pad sink signal.outcome,
          .test (some signal.outcome)] := List.sublist_cons_self _ _
    exact (inner.trans (List.sublist_append_right _ _)).trans (List.sublist_append_left _ _)

/-- **References.** The third program gives up what its calls take, the others keep the sinks. -/
theorem released_shape_iff (shape : Shape linked signal handler middle given) :
    Released (signal.takes ++ middle ++ (signal.releases ++ given)) ↔
      (signal.Raw → handler = .creator) := by
  rw [released_iff]
  cases shape with
  | ignored other plain => exact ⟨fun _ raw => (plain raw).elim, fun _ object => rfl⟩
  | @leaked _ sink _ other raw tries =>
    refine ⟨fun released => ?_, fun third => (other (third raw)).elim⟩
    have balance := released (.sink sink)
    obtain ⟨taken, kept⟩ := count_tried tries (.sink sink)
    rw [List.append_nil, taken, kept] at balance
    simp at balance
  | stale => exact ⟨fun _ _ => rfl, fun _ object => by simp⟩
  | notReady => exact ⟨fun _ _ => rfl, fun _ object => rfl⟩
  | balanced _ tries =>
    refine ⟨fun _ _ => rfl, fun _ object => ?_⟩
    obtain ⟨taken, kept⟩ := count_tried tries object
    rw [List.count_append, List.count_append, taken, kept]
    simp

/-- **Results.** The third program tests one that was not written where the pad is not raw. -/
theorem tested_shape_iff (shape : Shape linked signal handler middle given) :
    Tested signal (signal.takes ++ middle ++ (signal.releases ++ given)) ↔
      (handler = .creator → signal.Raw) := by
  cases shape with
  | ignored other =>
    exact ⟨fun _ third => (other third).elim, fun _ result member => by simp at member⟩
  | leaked _ raw tries => exact ⟨fun _ _ => raw, fun _ => tested_tried tries (by simp)⟩
  | stale plain =>
    refine ⟨fun tested => ?_, fun written => (plain (written rfl)).elim⟩
    obtain ⟨_, _, written, _⟩ := tested none (by simp)
    cases written
  | notReady raw => exact ⟨fun _ _ => raw, fun _ result member => by simp at member⟩
  | balanced raw tries => exact ⟨fun _ _ => raw, fun _ => tested_tried tries (by simp)⟩

theorem leftAlone_of_shape (other : handler ≠ .creator) (plain : ¬ signal.Raw)
    (shape : Shape linked signal handler middle given) :
    LeftAlone (signal.takes ++ middle ++ (signal.releases ++ given)) := by
  cases shape with
  | ignored => exact ⟨fun pad sink outcome => by simp, fun result => by simp⟩
  | leaked _ raw => exact (plain raw).elim
  | _ => exact (other rfl).elim

/-- **One call.** -/
theorem callKept_iff (shape : Shape linked signal handler middle given) :
    CallKept signal (signal.takes ++ middle ++ (signal.releases ++ given)) ↔
      handler.Clear signal := by
  have clear : handler.Clear signal ↔ (signal.Raw ↔ handler = .creator) := by
    cases handler <;> simp [Handler.Clear]
  rw [clear]
  constructor
  · exact fun kept => ⟨(released_shape_iff shape).mp kept.released,
      (tested_shape_iff shape).mp kept.tested⟩
  · intro third
    exact ⟨(released_shape_iff shape).mpr third.mp, (tested_shape_iff shape).mpr third.mpr,
      fun plain => leftAlone_of_shape (mt third.mpr plain) plain shape⟩

/-! ### What the sinks are linked to -/

/-- Acts that are no links leave the links. -/
theorem foldl_perform_of_noLink {acts : List Act}
    (none : ∀ pad sink outcome, .link pad sink outcome ∉ acts) (linked : Element → List ℕ) :
    acts.foldl perform linked = linked := by
  induction acts with
  | nil => rfl
  | cons act acts ih =>
    have rest := ih fun pad sink outcome member =>
      none pad sink outcome (List.mem_cons_of_mem _ member)
    cases act with
    | link pad sink outcome => exact (none pad sink outcome List.mem_cons_self).elim
    | _ => exact rest

/-- A sink that is tried has no link, or gets none. -/
theorem single_tried (tries : Tried linked signal sink tried)
    (single : ∀ sink, (linked sink).length ≤ 1) (other : Element) :
    (tried.foldl perform linked other).length ≤ 1 := by
  cases tries with
  | already => exact single other
  | new free =>
    show (perform linked (.link signal.pad sink signal.outcome) other).length ≤ 1
    cases signal.outcome with
    | ok =>
      show (Function.update linked sink (linked sink ++ [signal.pad]) other).length ≤ 1
      by_cases same : other = sink
      · subst same
        rw [Function.update_self, free]
        exact le_rfl
      · rw [Function.update_of_ne same]
        exact single other
    | _ => exact single other

theorem single_shape (shape : Shape linked signal handler middle given)
    (single : ∀ sink, (linked sink).length ≤ 1) (sink : Element) :
    ((signal.takes ++ middle ++ (signal.releases ++ given)).foldl perform linked sink).length
      ≤ 1 := by
  have quiet : ∀ pad sink outcome, .link pad sink outcome ∉ signal.releases ++ given := by
    intro pad sink outcome
    cases shape <;> simp
  have opening : ∀ pad sink outcome, .link pad sink outcome ∉ signal.takes :=
    fun pad sink outcome => by simp
  rw [List.foldl_append, foldl_perform_of_noLink quiet, List.foldl_append,
    foldl_perform_of_noLink opening]
  cases shape with
  | leaked _ _ tries => exact single_tried tries single sink
  | balanced _ tries => exact single_tried tries single sink
  | _ => exact single sink

/-! ### Runs of a handler -/

theorem kept_start : Kept .start :=
  ⟨fun _ member => (List.not_mem_nil member).elim, fun _ => Nat.zero_le 1⟩

/-- **One signal.** -/
theorem kept_padAdded {world : World} (kept : Kept world) :
    Kept (world.padAdded handler signal) ↔ handler.Clear signal := by
  obtain ⟨middle, given, shape, acts⟩ := shape_call handler world.linked signal
  rw [← callKept_iff shape, ← acts]
  constructor
  · exact fun after => after.calls _ (List.mem_append_right _ List.mem_cons_self)
  · intro call
    refine ⟨fun other member => ?_, fun sink => ?_⟩
    · rcases List.mem_append.mp member with before | here
      · exact kept.calls other before
      · obtain rfl := List.mem_singleton.mp here
        exact call
    · unfold World.padAdded
      dsimp only
      rw [acts]
      exact single_shape shape kept.single sink

end Calls

/-- **The handlers over any signals.** -/
theorem kept_iff (handler : Handler) (signals : List Signal) :
    (∀ before, before <+: signals → Kept (before.foldl (World.padAdded handler) .start)) ↔
      ∀ signal ∈ signals, handler.Clear signal := by
  refine Iff.trans (kept_foldl_iff_along (I := Kept) (P := Kept) (World.padAdded handler)
    (fun _ kept => kept) (fun _ _ kept clear => (kept_padAdded kept).mpr clear)
    (fun _ _ kept unclear => mt (kept_padAdded kept).mp unclear) kept_start signals) ?_
  exact ⟨forall_of_along (runSteps_total _ _ signals), along_of_forall⟩

/-- Whatever the signals, a sink is linked once at most. -/
theorem sinks_single (handler : Handler) (signals : List Signal) (sink : Element) :
    ((signals.foldl (World.padAdded handler) .start).linked sink).length ≤ 1 := by
  refine run_invariant (I := fun world : World => ∀ sink, (world.linked sink).length ≤ 1)
    (fun world signal next single stepped sink => ?_)
    (runSteps_total (World.padAdded handler) .start signals) (fun _ => Nat.zero_le 1) sink
  cases stepped
  obtain ⟨middle, given, shape, acts⟩ := shape_call handler world.linked signal
  unfold World.padAdded
  dsimp only
  rw [acts]
  exact single_shape shape single sink

/-- Whatever the signal, the third program gives up what it takes. -/
theorem released_filePadAddedHandler (linked : Element → List ℕ) (signal : Signal) :
    Released (Creator.filePadAddedHandler linked signal).acts := by
  obtain ⟨middle, given, shape, acts⟩ := shape_filePadAddedHandler linked signal
  rw [acts]
  exact (released_shape_iff shape).mpr fun _ => rfl

/-- Whatever the signal, the first two programs test results of their own links. -/
theorem tested_padAddedHandler (linked : Element → List ℕ) (signal : Signal)
    (audio video : Element) :
    Tested signal (padAddedHandler linked signal audio video).acts := by
  obtain ⟨middle, given, shape, acts⟩ :=
    shape_padAddedHandler .dynamicPipeline linked signal audio video nofun
  rw [acts]
  refine (tested_shape_iff shape).mpr fun third => ?_
  cases third

/-! ### Two signals -/

/-- A raw audio pad. -/
def rawAudio : Signal := ⟨"source", 1, "src_0", some "audio/x-raw", true, true, .ok, .ok⟩

/-- A pad with compressed video. -/
def mpegVideo : Signal := ⟨"source", 2, "src_1", some "video/mpeg", true, true, .ok, .ok⟩

theorem kept_clear :
    Kept (World.padAdded .dynamicPipeline .start mpegVideo) ∧
      Kept (World.padAdded .transcoder .start mpegVideo) ∧
        Kept (World.padAdded .creator .start rawAudio) :=
  ⟨(kept_iff .dynamicPipeline [mpegVideo]).mpr (by decide) [mpegVideo] ⟨[], rfl⟩,
    (kept_iff .transcoder [mpegVideo]).mpr (by decide) [mpegVideo] ⟨[], rfl⟩,
    (kept_iff .creator [rawAudio]).mpr (by decide) [rawAudio] ⟨[], rfl⟩⟩

/-- **Each handler has a pad that it is wrong about.** Two leave a sink taken, and the third one tests
a result that it has not got. -/
theorem not_kept :
    ¬ Kept (World.padAdded .dynamicPipeline .start rawAudio) ∧
      ¬ Kept (World.padAdded .transcoder .start rawAudio) ∧
        ¬ Kept (World.padAdded .creator .start mpegVideo) :=
  ⟨mt (kept_padAdded kept_start).mp (by decide), mt (kept_padAdded kept_start).mp (by decide),
    mt (kept_padAdded kept_start).mp (by decide)⟩

end GstPipeline.Tutorials.PadAdded
