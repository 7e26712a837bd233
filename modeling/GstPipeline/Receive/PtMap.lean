/-
**The payload map of several sessions.**

The RTP bin asks for the caps of a session by emitting request-pt-map. Every session that was set up
has its handler connected, `request_pt_map` (`aux.h`), which gives its caps for its own id and `NULL`
for any other. All handlers run, and each result takes the place of the one before.

* `emitRequestPtMap_eq`: what the emission gives is what the session that was set up last gives.
* `ptMap_right_iff`: it is right for an id, if and only if no session with the id was set up or it
  is the last one.
-/

import GstPipeline.Receive.RtpBin

namespace GstPipeline.Receive

open GstPipeline.Lib GstPipeline.Rtp

section PtMap

variable {S : Type}

/-- The emission of request-pt-map: the handlers run in the order of their connection, and a result
replaces the one before it. -/
def Viewer.emitRequestPtMap (viewer : Viewer S) (sessionId pt : UInt32) : Option (Caps S) :=
  (viewer.rtpBin.handlers .requestPtMap).foldl
    (fun _ s => (viewer.sessions s).bind (requestPtMap sessionId pt)) none

/-- A session's id. -/
def Viewer.idOf (viewer : Viewer S) (s : S) : Option UInt32 := (viewer.sessions s).map VideoSession.id

/-- An emission is right for an id: it gives the caps of the session with the id, and `NULL` if none
of the sessions has it. -/
def PtMapRight (viewer : Viewer S) (sessions : List S) (sessionId pt : UInt32) : Prop :=
  (∀ s ∈ sessions, ∀ session, viewer.sessions s = some session → session.id = sessionId →
      viewer.emitRequestPtMap sessionId pt = some session.vCaps) ∧
    ((∀ s ∈ sessions, viewer.idOf s ≠ some sessionId) →
      viewer.emitRequestPtMap sessionId pt = none)

theorem idOf_eq {viewer : Viewer S} {s : S} {session : VideoSession S}
    (made : viewer.sessions s = some session) : viewer.idOf s = some session.id := by
  unfold Viewer.idOf
  rw [made]
  rfl

theorem foldl_last {α β : Type} (result : α → Option β) (handlers : List α) :
    handlers.foldl (fun _ handler => result handler) none = handlers.getLast?.bind result := by
  induction handlers using List.reverseRecOn with
  | nil => rfl
  | append_singleton earlier last =>
    rw [List.foldl_append, List.getLast?_append]
    rfl

variable [DecidableEq S] {final : Viewer S} {events : List (Event S)}

/-- **The last handler decides.** -/
theorem emitRequestPtMap_eq {viewer : Viewer S} (inv : Accounted viewer) (sessionId pt : UInt32) :
    viewer.emitRequestPtMap sessionId pt = viewer.connected.getLast?.bind fun s =>
      (viewer.sessions s).bind (requestPtMap sessionId pt) := by
  have handlers := inv.handlers .requestPtMap
  rw [if_neg nofun] at handlers
  unfold Viewer.emitRequestPtMap
  rw [handlers, foldl_last]

/-- **The payload map of several sessions.** For sessions with different ids the emission is right
for an id if and only if the id is none of theirs or that of the session that was set up last. -/
theorem ptMap_right_iff (reached : runSteps Viewer.step Viewer.make events = some final)
    (distinct : ((setUpIn events).map final.idOf).Nodup) (sessionId pt : UInt32) :
    PtMapRight final (setUpIn events) sessionId pt ↔
      (some sessionId ∈ (setUpIn events).map final.idOf →
        ((setUpIn events).map final.idOf).getLast? = some (some sessionId)) := by
  obtain ⟨inv, connected⟩ := accounted_run accounted_make reached
  have same : final.connected = setUpIn events := connected
  have emission := emitRequestPtMap_eq inv sessionId pt
  have known := inv.known
  rw [same] at emission known
  rcases List.eq_nil_or_concat (setUpIn events) with none | ⟨earlier, last, split⟩
  · rw [none] at emission ⊢
    exact ⟨fun _ => nofun, fun _ => ⟨nofun, fun _ => emission⟩⟩
  rw [List.concat_eq_append] at split
  have member : last ∈ setUpIn events := by simp [split]
  obtain ⟨session, made⟩ := known last member
  have lastId : ((setUpIn events).map final.idOf).getLast? = some (some session.id) := by
    rw [split, List.map_append, List.map_singleton, List.getLast?_concat, idOf_eq made]
  have given : final.emitRequestPtMap sessionId pt = requestPtMap sessionId pt session := by
    rw [emission, split, List.getLast?_concat]
    show (final.sessions last).bind _ = _
    rw [made]
    rfl
  rw [lastId]
  constructor
  · rintro ⟨own, _⟩ wanted
    obtain ⟨s, member, hasId⟩ := List.mem_map.mp wanted
    obtain ⟨wantedSession, itsMade, itsId⟩ := Option.map_eq_some_iff.mp hasId
    have answered := given.symm.trans (own s member wantedSession itsMade itsId)
    unfold requestPtMap at answered
    split at answered
    · rename_i isLast
      rw [isLast]
    · cases answered
  · intro answers
    refine ⟨fun s own wantedSession itsMade itsId => ?_, fun absent => ?_⟩
    · have hasId : final.idOf s = some sessionId := (idOf_eq itsMade).trans (congrArg some itsId)
      have isLast := Option.some.inj (Option.some.inj
        (answers (List.mem_map.mpr ⟨s, own, hasId⟩)))
      -- ids are different, so the session with the last one's id is the last one
      obtain rfl : s = last := List.inj_on_of_nodup_map distinct own member
        (by rw [hasId, idOf_eq made, isLast])
      obtain rfl := Option.some.inj (made.symm.trans itsMade)
      rw [given]
      exact if_pos isLast.symm
    · rw [given]
      refine if_neg fun isLast => absent last member ?_
      rw [idOf_eq made, isLast]

/-- Two sessions, set up one after the other. -/
def twoSessions : List (Event Bool) :=
  [.makeVideoSession false 0, .makeVideoSession true 1, .setup false "10.0.0.1" 3000,
    .setup true "10.0.0.1" 3003]

theorem twoSessions_runs : ∃ final, runSteps Viewer.step Viewer.make twoSessions = some final ∧
    (setUpIn twoSessions).map final.idOf = [some 0, some 1] := ⟨_, rfl, rfl⟩

theorem ptMap_right_last : ∃ final,
    runSteps Viewer.step Viewer.make twoSessions = some final ∧
      PtMapRight final (setUpIn twoSessions) 1 96 := by
  obtain ⟨final, reached, ids⟩ := twoSessions_runs
  refine ⟨final, reached, (ptMap_right_iff reached ?_ 1 96).mpr fun _ => ?_⟩
  · rw [ids]
    decide
  · rw [ids]
    rfl

/-- The caps of the first session are not found any more. -/
theorem first_session_unanswered : ∃ final,
    runSteps Viewer.step Viewer.make twoSessions = some final ∧
      ((setUpIn twoSessions).map final.idOf).Nodup ∧
      ¬ PtMapRight final (setUpIn twoSessions) 0 96 := by
  refine ⟨_, rfl, by decide, fun right => ?_⟩
  have answered := right.1 false (by decide) _ rfl rfl
  cases answered

end PtMap

end GstPipeline.Receive
