/-
**Pads that are linked, and the assertion.**

`rtp_pad_added_handler` links each pad whose name it takes to the sink of the session's bin, under an
assertion that the linking goes well, and looks neither at the pad nor at the sink before
(`file_pad_added_handler` in `creator.h` asks whether the sink is linked, and does nothing then). A
session bin has one sink.

`assertion_holds_iff`: in a run the assertion never fails, and every session bin is added to the
pipeline at most once, if and only if every new pad is `PadClear`: at most one session takes it, and
no pad of that session has been linked before.
-/

import GstPipeline.Receive.RtpBin

namespace GstPipeline.Receive

open GstPipeline.Lib GstPipeline.Rtp

section Pads

variable {S : Type}

/-! ### The condition -/

/-- The handler of a session takes the pad. -/
def Viewer.takes (viewer : Viewer S) (pad : Pad) (s : S) : Bool :=
  ((viewer.sessions s).map fun session =>
    gStrHasPrefix pad.name (targetPrefix session.id)).getD false

/-- The connected sessions that take a pad. -/
def Viewer.takers (viewer : Viewer S) (pad : Pad) : List S := viewer.connected.filter (viewer.takes pad)

/-- The sink of a session's bin is linked. -/
def Viewer.Linked (viewer : Viewer S) (s : S) : Prop := s ∈ viewer.links.map Prod.snd

/-- A new pad goes to at most one session, and to one without a linked pad. -/
def PadClear (viewer : Viewer S) : Event S → Prop
  | .padAdded pad => (viewer.takers pad).length ≤ 1 ∧ ∀ s ∈ viewer.takers pad, ¬ viewer.Linked s
  | _ => True

variable {viewer : Viewer S}

/-! ### The calls of a handler -/

namespace Viewer

theorem callsOf_of_not_takes {pad : Pad} {s : S} (refused : viewer.takes pad s = false) :
    viewer.callsOf pad s = [] := by
  unfold takes at refused
  unfold callsOf
  cases made : viewer.sessions s with
  | none => rfl
  | some session =>
    rw [made] at refused
    exact if_neg (Bool.eq_false_iff.mp refused)

theorem callsOf_of_takes {pad : Pad} {s : S} (taken : viewer.takes pad s = true) :
    ∃ session, viewer.sessions s = some session ∧ viewer.callsOf pad s =
      (if session.rtpBin then [.binAdd s] else []) ++
        [.syncStateWithParent s, .padLink pad s] := by
  unfold takes at taken
  unfold callsOf
  cases made : viewer.sessions s with
  | none =>
    rw [made] at taken
    cases taken
  | some session =>
    rw [made] at taken
    exact ⟨session, rfl, if_pos taken⟩

/-- Only handlers that take the pad ask for anything. -/
theorem flatMap_callsOf (handlers : List S) (pad : Pad) :
    handlers.flatMap (viewer.callsOf pad) =
      (handlers.filter (viewer.takes pad)).flatMap (viewer.callsOf pad) := by
  induction handlers with
  | nil => rfl
  | cons s handlers ih =>
    rw [List.flatMap_cons, ih]
    cases taken : viewer.takes pad s with
    | false =>
      rw [callsOf_of_not_takes taken, List.filter_cons_of_neg (Bool.eq_false_iff.mp taken)]
      rfl
    | true => rw [List.filter_cons_of_pos taken, List.flatMap_cons]

variable [DecidableEq S]

instance decidableLinked (viewer : Viewer S) (s : S) : Decidable (viewer.Linked s) :=
  inferInstanceAs (Decidable (s ∈ _))

instance decidablePadClear (viewer : Viewer S) : ∀ event, Decidable (PadClear viewer event)
  | .padAdded _ => inferInstanceAs (Decidable (_ ∧ _))
  | .makeVideoSession _ _ => isTrue trivial
  | .setup _ _ _ => isTrue trivial

/-! ### What the calls do -/

theorem perform_aborted (aborted : viewer.aborted = true) (call : Call S) :
    viewer.perform call = viewer := if_pos aborted

theorem foldl_perform_aborted (aborted : viewer.aborted = true) (calls : List (Call S)) :
    calls.foldl perform viewer = viewer := by
  induction calls with
  | nil => rfl
  | cons call calls ih => rwa [List.foldl_cons, perform_aborted aborted]

theorem perform_binAdd (running : viewer.aborted = false) (bin : S) :
    ∃ children, viewer.perform (.binAdd bin) = { viewer with children := children } ∧
      bin ∈ children ∧ (∀ other ∈ viewer.children, other ∈ children) ∧
      (viewer.children.Nodup → children.Nodup) := by
  unfold perform
  rw [if_neg (Bool.eq_false_iff.mp running)]
  dsimp only
  split
  · rename_i member
    exact ⟨viewer.children, rfl, member, fun _ => id, id⟩
  · rename_i fresh
    refine ⟨viewer.children ++ [bin], rfl, by simp, fun other => List.mem_append_left _, fun once => ?_⟩
    rw [← List.concat_eq_append]
    exact once.concat fresh

theorem perform_padLink (running : viewer.aborted = false) (pad : Pad) (bin : S) :
    viewer.perform (.padLink pad bin) =
      if pad.object ∈ viewer.links.map Prod.fst ∨ viewer.Linked bin then
        { viewer with aborted := true }
      else { viewer with links := viewer.links ++ [(pad.object, bin)] } := by
  unfold perform
  rw [if_neg (Bool.eq_false_iff.mp running)]
  rfl

/-- **A handler that takes the pad.** -/
theorem foldl_callsOf {state : Viewer S} {pad : Pad} {s : S} (taken : viewer.takes pad s = true)
    (running : state.aborted = false) :
    ∃ session children, viewer.sessions s = some session ∧
      (session.rtpBin = true → s ∈ children) ∧ (∀ other ∈ state.children, other ∈ children) ∧
      (viewer.callsOf pad s).foldl perform state =
        if pad.object ∈ state.links.map Prod.fst ∨ state.Linked s then
          { state with children := children, aborted := true }
        else { state with
          children := children, links := state.links ++ [(pad.object, s)] } := by
  obtain ⟨session, made, calls⟩ := callsOf_of_takes taken
  rw [calls]
  have sync : ∀ now : Viewer S, now.perform (.syncStateWithParent s) = now := by
    intro now
    unfold perform
    split <;> rfl
  cases set : session.rtpBin with
  | false =>
    refine ⟨session, state.children, made, fun here => ?_, fun _ => id, ?_⟩
    · cases set.symm.trans here
    · show (state.perform (.syncStateWithParent s)).perform (.padLink pad s) = _
      rw [sync, perform_padLink running]
  | true =>
    obtain ⟨children, added, member, kept, _⟩ := perform_binAdd running s
    refine ⟨session, children, made, fun _ => member, kept, ?_⟩
    show ((state.perform (.binAdd s)).perform (.syncStateWithParent s)).perform (.padLink pad s) = _
    rw [sync, added]
    have runs : ({ state with children := children } : Viewer S).aborted = false := running
    exact perform_padLink runs pad s

/-! ### All handlers -/

/-- **The assertion, over the handlers that take a new pad**: the first links it if its own sink is
free, and then every further one fails. -/
theorem foldl_callsOf_takers {state : Viewer S} {pad : Pad} {takers : List S}
    (take : ∀ s ∈ takers, viewer.takes pad s = true) (running : state.aborted = false)
    (fresh : pad.object ∉ state.links.map Prod.fst) :
    ((takers.flatMap (viewer.callsOf pad)).foldl perform state).aborted = false ↔
      takers.length ≤ 1 ∧ ∀ s ∈ takers, ¬ state.Linked s := by
  cases takers with
  | nil => exact iff_of_true running ⟨Nat.zero_le _, nofun⟩
  | cons s others =>
    obtain ⟨_, children, _, _, _, after⟩ := foldl_callsOf (take s List.mem_cons_self) running
    rw [List.flatMap_cons, List.foldl_append, after]
    by_cases linked : state.Linked s
    · rw [if_pos (Or.inr linked), foldl_perform_aborted rfl]
      exact iff_of_false nofun fun clear => clear.2 s List.mem_cons_self linked
    · rw [if_neg (not_or.mpr ⟨fresh, linked⟩)]
      cases others with
      | nil =>
        refine iff_of_true running ⟨Nat.le_refl 1, fun other member => ?_⟩
        rwa [List.mem_singleton.mp member]
      | cons other others =>
        have runs : ({ state with
            children := children
            links := state.links ++ [(pad.object, s)] } : Viewer S).aborted = false := running
        obtain ⟨_, _, _, _, _, fails⟩ :=
          foldl_callsOf (take other (List.mem_cons_of_mem _ List.mem_cons_self)) runs
        rw [List.flatMap_cons, List.foldl_append, fails, if_pos (Or.inl (by simp)),
          foldl_perform_aborted rfl]
        refine iff_of_false nofun fun clear => absurd clear.1 ?_
        simp

/-- The bins that are linked are children of the pipeline. -/
def Joined (viewer : Viewer S) : Prop := ∀ s, viewer.Linked s → s ∈ viewer.children

theorem joined_foldl_callsOf {state : Viewer S} {pad : Pad} (handlers : List S)
    (set : ∀ s ∈ handlers, ∀ session, viewer.sessions s = some session → session.rtpBin = true)
    (joined : state.Joined) :
    ((handlers.flatMap (viewer.callsOf pad)).foldl perform state).Joined := by
  induction handlers generalizing state with
  | nil => exact joined
  | cons s handlers ih =>
    have later := fun other member => set other (List.mem_cons_of_mem _ member)
    rw [List.flatMap_cons, List.foldl_append]
    cases taken : viewer.takes pad s with
    | false =>
      rw [callsOf_of_not_takes taken]
      exact ih later joined
    | true =>
      refine ih later ?_
      cases running : state.aborted with
      | true =>
        rw [foldl_perform_aborted running]
        exact joined
      | false =>
        obtain ⟨session, children, made, here, kept, after⟩ := foldl_callsOf taken running
        have member := here (set s List.mem_cons_self session made)
        rw [after]
        split
        · exact fun other linked => kept other (joined other linked)
        · intro other linked
          unfold Linked at linked
          rw [List.map_append] at linked
          rcases List.mem_append.mp linked with old | new
          · exact kept other (joined other old)
          · rw [List.mem_singleton.mp new]
            exact member

/-! ### Runs -/

/-- What no call changes: no bin is added twice, and the pads that are linked have been seen. -/
structure Sound (viewer : Viewer S) : Prop where
  once : viewer.children.Nodup
  seen : ∀ object ∈ viewer.links.map Prod.fst, object ∈ viewer.seen

theorem sound_perform (sound : viewer.Sound) {call : Call S}
    (known : ∀ pad bin, call = .padLink pad bin → pad.object ∈ viewer.seen) :
    (viewer.perform call).Sound := by
  cases running : viewer.aborted with
  | true => rwa [perform_aborted running]
  | false =>
    cases call with
    | binAdd bin =>
      obtain ⟨children, added, _, _, once⟩ := perform_binAdd running bin
      rw [added]
      exact ⟨once sound.once, sound.seen⟩
    | syncStateWithParent bin =>
      unfold perform
      rwa [if_neg (Bool.eq_false_iff.mp running)]
    | padLink pad bin =>
      rw [perform_padLink running]
      split
      · exact ⟨sound.once, sound.seen⟩
      · refine ⟨sound.once, fun object member => ?_⟩
        rw [List.map_append] at member
        rcases List.mem_append.mp member with old | new
        · exact sound.seen object old
        · rw [List.mem_singleton.mp new]
          exact known pad bin rfl

theorem sound_foldl_perform (calls : List (Call S)) (sound : viewer.Sound)
    (known : ∀ pad bin, Call.padLink pad bin ∈ calls → pad.object ∈ viewer.seen) :
    (calls.foldl perform viewer).Sound := by
  induction calls generalizing viewer with
  | nil => exact sound
  | cons call calls ih =>
    refine ih (sound_perform sound fun pad bin same => ?_) fun pad bin member => ?_
    · exact known pad bin (same ▸ List.mem_cons_self)
    · rw [(viewer.perform_frame call).2.2]
      exact known pad bin (List.mem_cons_of_mem _ member)

theorem sound_padAdded (sound : viewer.Sound) (pad : Pad) : (viewer.padAdded pad).Sound := by
  refine sound_foldl_perform _ ⟨sound.once, fun object member => ?_⟩ fun other bin member => ?_
  · exact List.mem_append_left _ (sound.seen object member)
  · obtain ⟨s, _, asked⟩ := List.mem_flatMap.mp member
    unfold callsOf at asked
    cases made : viewer.sessions s with
    | none =>
      rw [made] at asked
      cases asked
    | some session =>
      rw [made] at asked
      rw [(padLink_mem_handler.mp asked).2.1]
      simp

theorem sound_step {next : Viewer S} {event : Event S} (sound : viewer.Sound)
    (stepped : viewer.step event = some next) : next.Sound := by
  obtain ⟨_, ⟨s, id, rfl, _, rfl⟩ | ⟨s, addr, portBase, session, rfl, _, _, rfl⟩ |
    ⟨pad, rfl, _, rfl⟩⟩ := step_cases stepped
  · exact ⟨sound.once, sound.seen⟩
  · exact ⟨sound.once, sound.seen⟩
  · exact sound_padAdded sound pad

/-- **One step.** -/
theorem aborts_iff {next : Viewer S} {event : Event S} (sound : viewer.Sound)
    (stepped : viewer.step event = some next) : ¬ next.aborted = true ↔ PadClear viewer event := by
  rw [Bool.not_eq_true]
  obtain ⟨running, ⟨s, id, rfl, _, rfl⟩ | ⟨s, addr, portBase, session, rfl, _, _, rfl⟩ |
    ⟨pad, rfl, unseen, rfl⟩⟩ := step_cases stepped
  · exact iff_of_true running trivial
  · exact iff_of_true running trivial
  · unfold padAdded callsFor
    rw [flatMap_callsOf]
    refine foldl_callsOf_takers (fun s member => (List.mem_filter.mp member).2) running ?_
    exact fun linked => unseen (sound.seen _ linked)

theorem joined_step {next : Viewer S} {event : Event S}
    (inv : Accounted viewer) (joined : viewer.Joined) (stepped : viewer.step event = some next) :
    next.Joined := by
  obtain ⟨_, ⟨s, id, rfl, _, rfl⟩ | ⟨s, addr, portBase, session, rfl, _, _, rfl⟩ |
    ⟨pad, rfl, _, rfl⟩⟩ := step_cases stepped
  · exact joined
  · exact joined
  · refine joined_foldl_callsOf viewer.connected (fun s member session made => ?_) joined
    rw [inv.sessions s session made, if_pos member]

end Viewer

/-- **Linked bins.** In every run, each session bin with a linked pad is a child of the pipeline. -/
theorem linked_added [DecidableEq S] {events : List (Event S)} {final : Viewer S}
    (reached : runSteps Viewer.step Viewer.make events = some final) {s : S}
    (linked : final.Linked s) : s ∈ final.children := by
  have both : Accounted final ∧ final.Joined :=
    run_invariant (I := fun viewer => Accounted viewer ∧ viewer.Joined)
      (fun _ _ _ inv stepped =>
        ⟨(accounted_step inv.1 stepped).1, Viewer.joined_step inv.1 inv.2 stepped⟩)
      reached ⟨accounted_make, nofun⟩
  exact both.2 s linked

/-- **The assertion.** In a run it never fails, and no session's bin is added to the pipeline twice,
if and only if every new pad goes to at most one session, and to one without a linked pad. -/
theorem assertion_holds_iff [DecidableEq S] {events : List (Event S)} {final : Viewer S}
    (reached : runSteps Viewer.step Viewer.make events = some final) :
    (final.aborted = false ∧ ∀ s, final.children.count s ≤ 1) ↔
      Along Viewer.step PadClear Viewer.make events := by
  have initially : (Viewer.make : Viewer S).Sound := ⟨List.nodup_nil, nofun⟩
  have sound : final.Sound :=
    run_invariant (fun _ _ _ sound stepped => Viewer.sound_step sound stepped) reached initially
  have stops : ¬ final.aborted = true ↔ Along Viewer.step PadClear Viewer.make events := by
    have halts : ∀ (viewer : Viewer S) (event : Event S), viewer.aborted = true →
        viewer.step event = none := fun _ _ aborted => if_pos aborted
    refine not_stopped_iff_along (I := Viewer.Sound) halts ?_ ?_ reached initially
      Bool.false_ne_true
    · intro viewer event next sound stepped
      exact Viewer.sound_step sound stepped
    · intro viewer event next sound stepped
      exact Viewer.aborts_iff sound stepped
  rw [← stops, Bool.not_eq_true]
  exact ⟨fun both => both.1, fun running => ⟨running, List.nodup_iff_count_le_one.mp sound.once⟩⟩

/-- One session, and one pad of it. -/
def onePad : List (Event Unit) :=
  [.makeVideoSession () 0, .setup () "10.0.0.1" 3000, .padAdded ⟨0, recvRtpSrcName 0 111 96⟩]

theorem assertion_holds_onePad : ∃ final,
    runSteps Viewer.step Viewer.make onePad = some final ∧ final.aborted = false ∧
      ∀ s, final.children.count s ≤ 1 := by
  obtain ⟨final, reached⟩ := Option.isSome_iff_exists.mp
    (show (runSteps Viewer.step Viewer.make onePad).isSome = true by decide)
  exact ⟨final, reached, (assertion_holds_iff reached).mpr (by decide)⟩

/-- A pad of the session for a second source. -/
theorem second_pad_aborts : ∃ final,
    runSteps Viewer.step Viewer.make
        (onePad ++ [.padAdded ⟨1, recvRtpSrcName 0 222 96⟩]) = some final ∧
      ¬ (final.aborted = false ∧ ∀ s, final.children.count s ≤ 1) := by
  have ends : (runSteps Viewer.step Viewer.make
      (onePad ++ [.padAdded ⟨1, recvRtpSrcName 0 222 96⟩])).map Viewer.aborted = some true := by
    decide
  obtain ⟨final, reached, aborted⟩ := Option.map_eq_some_iff.mp ends
  exact ⟨final, reached, fun holds => by cases aborted.symm.trans holds.1⟩

end Pads

end GstPipeline.Receive
