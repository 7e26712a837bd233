/-
**Which clients `check_node_failure` reports.**

The purpose of the heartbeat is that the server knows when each binding was last presented: by the
`bind` that made it, or by a `send_heartbeat` that carries it. `Watched` runs the server's calls one
after another and keeps these times beside the server (`presented`), per binding.

* `Detects`: `check_node_failure` returns true exactly when some binding was last presented more
  than `failureTimelimit` seconds before the current timestamp.
* `CreditsOwn` says of a call: a heartbeat carries the binding of the first table entry with its
  client address. `send_heartbeat` compares only addresses and stops at the first match, so these
  are the heartbeats that refresh the entry of their own binding.
* `failures_detected`: while every call meets it, `Detects` holds. After a run that does not meet
  it, the bindings of that run are enough for a client that has just presented every binding it holds
  to be reported as failed.
* `heartbeats_miscredited`: both ways to be wrong, with one client that binds twice.

Clock values are nonnegative and fit in 32 bits, so that differences of timestamps are exact.
-/

import GstPipeline.Lib.Run
import GstPipeline.Binder.Server
import Mathlib.Data.List.Nodup

namespace GstPipeline.Binder

open GstPipeline.Lib

/-! ### Sequential runs -/

/-- A call on the server; `updateTimestamp now` is a call made when the clock shows `now`. -/
inductive Call
  | bind (inAddr : String)
  | sendHeartbeat (bindInfo : BindInfo)
  | updateTimestamp (now : Int)
  | checkNodeFailure
  deriving DecidableEq

/-- The server, and the timestamp at which each binding was last presented. -/
structure Watched where
  binder : ServerBinder
  presented : BindInfo → Option Int

namespace Watched

/-- A server just constructed. -/
def start (ip : String) (port now : Int) (growth : ℕ → ℕ) : Watched :=
  ⟨.new ip port now growth, fun _ => none⟩

/-- The binding was presented now. -/
def present (state : Watched) (bindInfo : BindInfo) : BindInfo → Option Int :=
  Function.update state.presented bindInfo (some state.binder.timestamp)

@[simp] theorem present_self (state : Watched) (bindInfo : BindInfo) :
    state.present bindInfo bindInfo = some state.binder.timestamp :=
  Function.update_self ..

theorem present_other (state : Watched) {bindInfo other : BindInfo} (differs : other ≠ bindInfo) :
    state.present bindInfo other = state.presented other :=
  Function.update_of_ne differs ..

/-- One call. A heartbeat carries a binding that an earlier `bind` returned, and the clock does not
go back. -/
def step (state : Watched) : Call → Option Watched
  | .bind inAddr =>
    some ⟨(state.binder.bind inAddr).binder,
      state.present (state.binder.bind inAddr).bindInfo⟩
  | .sendHeartbeat bindInfo =>
    if (state.presented bindInfo).isSome then
      some ⟨state.binder.sendHeartbeat bindInfo, state.present bindInfo⟩
    else none
  | .updateTimestamp now =>
    if state.binder.timestamp ≤ now ∧ InInt32 now then
      some { state with binder := state.binder.updateTimestamp now }
    else none
  | .checkNodeFailure => some state

/-- Some binding has not been presented for too long. -/
def Overdue (state : Watched) : Prop :=
  ∃ bindInfo timestamp, state.presented bindInfo = some timestamp ∧
    state.binder.timestamp - timestamp > failureTimelimit

/-- `check_node_failure` is right. -/
def Detects (state : Watched) : Prop :=
  state.binder.checkNodeFailure = true ↔ state.Overdue

/-- The binding whose entry a heartbeat refreshes. -/
def credited (state : Watched) (bindInfo : BindInfo) : Option BindInfo :=
  (state.binder.serviceTable.entries.find? fun entry => entry.clientIp = bindInfo.clientIp).map
    ServiceInfo.bindInfo

/-- A heartbeat refreshes the entry of the binding it carries. -/
def CreditsOwn (state : Watched) : Call → Prop
  | .sendHeartbeat bindInfo => state.credited bindInfo = some bindInfo
  | _ => True

instance (state : Watched) (call : Call) : Decidable (state.CreditsOwn call) := by
  cases call <;> unfold CreditsOwn <;> infer_instance

end Watched

/-! ### What every run keeps -/

/-- Every entry is the entry of one binding, made and last seen at times not after the timestamp. -/
structure TableKept (state : Watched) : Prop where
  clock : 0 ≤ state.binder.timestamp ∧ InInt32 state.binder.timestamp
  seen : ∀ entry ∈ state.binder.serviceTable.entries,
    0 ≤ entry.lastSeen ∧ entry.lastSeen ≤ state.binder.timestamp
  below : ∀ bindInfo ∈ state.binder.serviceTable.entries.map ServiceInfo.bindInfo,
    bindInfo.port < state.binder.portBase
  distinct : (state.binder.serviceTable.entries.map ServiceInfo.bindInfo).Nodup
  known : ∀ bindInfo, (state.presented bindInfo).isSome ↔
    bindInfo ∈ state.binder.serviceTable.entries.map ServiceInfo.bindInfo

theorem tableKept_start {now : Int} (ip : String) (port : Int) (growth : ℕ → ℕ) (nonneg : 0 ≤ now)
    (fits : InInt32 now) : TableKept (Watched.start ip port now growth) where
  clock := by
    show 0 ≤ toInt32 now ∧ InInt32 (toInt32 now)
    rw [toInt32_eq_self fits]
    exact ⟨nonneg, fits⟩
  seen entry member := by cases member
  below bindInfo member := by cases member
  distinct := List.nodup_nil
  known bindInfo := by simp [Watched.start]

/-- An entry after a heartbeat is an entry from before it, with the same or the current time. -/
theorem mem_refreshFirst {timestamp : Int} {clientIp : String} {entries : List ServiceInfo}
    {entry : ServiceInfo} (member : entry ∈ ServerBinder.refreshFirst timestamp clientIp entries) :
    entry.lastSeen = timestamp ∨ entry ∈ entries := by
  rw [ServerBinder.refreshFirst_eq_modify] at member
  rcases mem_modify member with old | ⟨before, _, rfl⟩
  · exact Or.inr old
  · exact Or.inl rfl

section Steps

variable {state after : Watched} {call : Call}

theorem known_present {bindings : List BindInfo} {bindInfo : BindInfo}
    (known : ∀ other, (state.presented other).isSome ↔ other ∈ bindings) (other : BindInfo) :
    (state.present bindInfo other).isSome ↔ other ∈ bindings ∨ other = bindInfo := by
  by_cases here : other = bindInfo
  · simp [here]
  · rw [state.present_other here, known]
    simp [here]

/-- **One call keeps the table.** -/
theorem tableKept_step (inv : TableKept state) (stepped : state.step call = some after) :
    TableKept after := by
  cases call with
  | bind inAddr =>
    cases stepped
    refine ⟨inv.clock, ?_, ?_, ?_, ?_⟩
    · intro entry member
      rw [ServerBinder.entries_bind, List.mem_append, List.mem_singleton] at member
      rcases member with member | rfl
      · exact inv.seen entry member
      · exact ⟨inv.clock.1, Int.le_refl _⟩
    · intro bindInfo member
      rw [ServerBinder.entries_bind, List.map_append, List.mem_append] at member
      rw [ServerBinder.portBase_bind]
      rcases member with member | member
      · have lower := inv.below bindInfo member
        omega
      · cases List.mem_singleton.mp member
        show state.binder.portBase < state.binder.portBase + 3
        omega
    · rw [ServerBinder.entries_bind, List.map_append]
      refine List.Nodup.append inv.distinct (List.nodup_singleton _) ?_
      intro bindInfo member fresh
      cases List.mem_singleton.mp fresh
      exact absurd (inv.below _ member) (Int.lt_irrefl _)
    · intro bindInfo
      rw [ServerBinder.entries_bind, List.map_append, List.mem_append, List.map_singleton,
        List.mem_singleton]
      exact known_present inv.known bindInfo
  | sendHeartbeat bindInfo =>
    simp only [Watched.step] at stepped
    split at stepped
    · rename_i returned
      cases stepped
      have bindings : (state.binder.sendHeartbeat bindInfo).serviceTable.entries.map
          ServiceInfo.bindInfo = state.binder.serviceTable.entries.map ServiceInfo.bindInfo :=
        ServerBinder.map_bindInfo_refreshFirst ..
      refine ⟨inv.clock, ?_, ?_, ?_, ?_⟩
      · intro entry member
        rcases mem_refreshFirst member with now | member
        · rw [now]
          exact ⟨inv.clock.1, Int.le_refl _⟩
        · exact inv.seen entry member
      · rw [bindings]
        exact inv.below
      · rw [bindings]
        exact inv.distinct
      · intro other
        rw [bindings, known_present inv.known]
        have member := (inv.known bindInfo).mp returned
        exact ⟨fun either => either.elim id fun same => same ▸ member, Or.inl⟩
    · cases stepped
  | updateTimestamp now =>
    simp only [Watched.step] at stepped
    split at stepped
    · rename_i forward
      cases stepped
      have exact : (state.binder.updateTimestamp now).timestamp = now := toInt32_eq_self forward.2
      refine ⟨?_, ?_, inv.below, inv.distinct, inv.known⟩
      · rw [exact]
        exact ⟨Int.le_trans inv.clock.1 forward.1, forward.2⟩
      · intro entry member
        rw [exact]
        obtain ⟨nonneg, before⟩ := inv.seen entry member
        exact ⟨nonneg, Int.le_trans before forward.1⟩
    · cases stepped
  | checkNodeFailure =>
    cases stepped
    exact inv

end Steps

/-! ### Heartbeats that refresh their own entry -/

/-- Among distinct bindings, a heartbeat refreshes one entry: that of the binding it is credited
to. -/
theorem refreshFirst_eq_map {timestamp : Int} {clientIp : String} {entries : List ServiceInfo}
    {own : BindInfo} (distinct : (entries.map ServiceInfo.bindInfo).Nodup)
    (credited : (entries.find? fun entry => entry.clientIp = clientIp).map ServiceInfo.bindInfo =
      some own) :
    ServerBinder.refreshFirst timestamp clientIp entries =
      entries.map fun entry =>
        if entry.bindInfo = own then { entry with lastSeen := timestamp } else entry := by
  induction entries with
  | nil => cases credited
  | cons first rest ih =>
    rw [List.map_cons, List.nodup_cons] at distinct
    unfold ServerBinder.refreshFirst
    by_cases here : first.clientIp = clientIp
    · rw [List.find?_cons_of_pos (by simpa using here), Option.map_some] at credited
      have same : first.bindInfo = own := Option.some.inj credited
      rw [if_pos here, List.map_cons, if_pos same]
      congr 1
      symm
      refine (List.map_congr_left fun entry member => if_neg fun claimed => ?_).trans
        (List.map_id rest)
      exact distinct.1 (same.trans claimed.symm ▸ List.mem_map_of_mem member)
    · rw [List.find?_cons_of_neg (by simpa using here)] at credited
      have other : first.bindInfo ≠ own := by
        rintro rfl
        obtain ⟨entry, found, same⟩ := Option.map_eq_some_iff.mp credited
        exact distinct.1 (same ▸ List.mem_map_of_mem (List.mem_of_find?_eq_some found))
      rw [if_neg here, List.map_cons, if_neg other, ih distinct.2 credited]

/-- Every entry was last seen when its binding was last presented. -/
def Tracked (state : Watched) : Prop :=
  ∀ entry ∈ state.binder.serviceTable.entries, state.presented entry.bindInfo = some entry.lastSeen

theorem tracked_step {state after : Watched} {call : Call} (inv : TableKept state)
    (tracked : Tracked state) (own : state.CreditsOwn call)
    (stepped : state.step call = some after) : Tracked after := by
  cases call with
  | bind inAddr =>
    cases stepped
    intro entry member
    rw [ServerBinder.entries_bind, List.mem_append, List.mem_singleton] at member
    rcases member with member | rfl
    · have older : entry.bindInfo ≠ state.binder.reply inAddr := by
        intro same
        have lower := inv.below _ (List.mem_map_of_mem member)
        rw [same] at lower
        exact absurd lower (Int.lt_irrefl _)
      exact (state.present_other older).trans (tracked entry member)
    · exact state.present_self _
  | sendHeartbeat bindInfo =>
    simp only [Watched.step] at stepped
    split at stepped
    · cases stepped
      intro entry member
      rw [ServerBinder.entries_sendHeartbeat, refreshFirst_eq_map inv.distinct own,
        List.mem_map] at member
      obtain ⟨before, member, rfl⟩ := member
      show state.present bindInfo _ = _
      split
      · rename_i same
        show state.present bindInfo before.bindInfo = _
        rw [same, state.present_self]
      · rename_i other
        rw [state.present_other other]
        exact tracked before member
    · cases stepped
  | updateTimestamp now =>
    simp only [Watched.step] at stepped
    split at stepped <;> cases stepped
    exact tracked
  | checkNodeFailure =>
    cases stepped
    exact tracked

/-- Differences of the timestamps of a run are exact. -/
theorem overdue_exact {state : Watched} (inv : TableKept state) {entry : ServiceInfo}
    (member : entry ∈ state.binder.serviceTable.entries) :
    toInt32 (state.binder.timestamp - entry.lastSeen) = state.binder.timestamp - entry.lastSeen := by
  obtain ⟨nonneg, fits⟩ := inv.clock
  obtain ⟨seenNonneg, before⟩ := inv.seen entry member
  unfold InInt32 at fits
  exact toInt32_sub fits ⟨by omega, by omega⟩ nonneg seenNonneg

theorem checkNodeFailure_iff {state : Watched} (inv : TableKept state) :
    state.binder.checkNodeFailure = true ↔
      ∃ entry ∈ state.binder.serviceTable.entries,
        state.binder.timestamp - entry.lastSeen > failureTimelimit := by
  unfold ServerBinder.checkNodeFailure
  rw [ServerBinder.anyOverdue_iff]
  constructor
  · rintro ⟨entry, member, overdue⟩
    exact ⟨entry, member, overdue_exact inv member ▸ overdue⟩
  · rintro ⟨entry, member, overdue⟩
    exact ⟨entry, member, (overdue_exact inv member).symm ▸ overdue⟩

theorem detects_of_tracked {state : Watched} (inv : TableKept state) (tracked : Tracked state) :
    state.Detects := by
  unfold Watched.Detects
  rw [checkNodeFailure_iff inv]
  constructor
  · rintro ⟨entry, member, overdue⟩
    exact ⟨entry.bindInfo, entry.lastSeen, tracked entry member, overdue⟩
  · rintro ⟨bindInfo, timestamp, presented, overdue⟩
    have known := (inv.known bindInfo).mp (by rw [presented]; rfl)
    obtain ⟨entry, member, rfl⟩ := List.mem_map.mp known
    have same : entry.lastSeen = timestamp :=
      Option.some.inj ((tracked entry member).symm.trans presented)
    exact ⟨entry, member, same ▸ overdue⟩

/-! ### Heartbeats that refresh another entry -/

/-- The client addresses in the table. -/
def addresses (state : Watched) : List String :=
  state.binder.serviceTable.entries.map ServiceInfo.clientIp

/-- The entry at an index has the client address of an earlier one. -/
def Shadowed (state : Watched) (index : ℕ) : Prop :=
  ∃ first clientIp, first < index ∧ (addresses state)[first]? = some clientIp ∧
    (addresses state)[index]? = some clientIp

/-- A call adds addresses at the end of the table, and changes none. -/
theorem addresses_step {state after : Watched} {call : Call} (stepped : state.step call = some after) :
    ∃ made, addresses after = addresses state ++ made := by
  cases call with
  | bind inAddr =>
    cases stepped
    refine ⟨[inAddr], ?_⟩
    unfold addresses
    rw [ServerBinder.entries_bind, List.map_append]
    rfl
  | sendHeartbeat bindInfo =>
    simp only [Watched.step] at stepped
    split at stepped <;> cases stepped
    refine ⟨[], ?_⟩
    have bindings := ServerBinder.map_bindInfo_refreshFirst state.binder.timestamp
      bindInfo.clientIp state.binder.serviceTable.entries
    have clients := congrArg (List.map BindInfo.clientIp) bindings
    rw [List.map_map, List.map_map] at clients
    rw [List.append_nil]
    exact clients
  | updateTimestamp now =>
    simp only [Watched.step] at stepped
    split at stepped <;> cases stepped
    exact ⟨[], (List.append_nil _).symm⟩
  | checkNodeFailure =>
    cases stepped
    exact ⟨[], (List.append_nil _).symm⟩

theorem shadowed_step {state after : Watched} {call : Call} {index : ℕ}
    (shadowed : Shadowed state index) (stepped : state.step call = some after) :
    Shadowed after index := by
  obtain ⟨first, clientIp, before, atFirst, atIndex⟩ := shadowed
  obtain ⟨made, grown⟩ := addresses_step stepped
  have kept : ∀ {i : ℕ}, (addresses state)[i]? = some clientIp →
      (addresses after)[i]? = some clientIp := by
    intro i here
    obtain ⟨inside, _⟩ := List.getElem?_eq_some_iff.mp here
    rw [grown, List.getElem?_append_left inside, here]
  exact ⟨first, clientIp, before, kept atFirst, kept atIndex⟩

/-- No heartbeat refreshes a shadowed entry. -/
theorem refresh_shadowed {state : Watched} {index : ℕ} (shadowed : Shadowed state index)
    (timestamp : Int) (clientIp : String) :
    (ServerBinder.refreshFirst timestamp clientIp state.binder.serviceTable.entries)[index]? =
      state.binder.serviceTable.entries[index]? := by
  obtain ⟨first, shared, before, atFirst, atIndex⟩ := shadowed
  rw [ServerBinder.getElem?_refreshFirst]
  refine if_neg fun found => ?_
  unfold addresses at atFirst atIndex
  rw [List.getElem?_map, Option.map_eq_some_iff] at atFirst atIndex
  obtain ⟨earlier, atFirst, sameFirst⟩ := atFirst
  obtain ⟨later, atIndex, sameIndex⟩ := atIndex
  obtain ⟨inside, rfl⟩ := List.getElem?_eq_some_iff.mp atIndex
  obtain ⟨insideFirst, rfl⟩ := List.getElem?_eq_some_iff.mp atFirst
  subst found
  have matching := List.findIdx_getElem (w := inside)
  have skipped := List.not_of_lt_findIdx before
  simp only [decide_eq_true_eq, decide_eq_false_iff_not] at matching skipped
  exact skipped (sameFirst.trans (sameIndex.symm.trans matching))

/-- A binding whose heartbeats are credited to another has a shadowed entry. -/
theorem shadowed_of_miscredited {state after : Watched} {call : Call} (inv : TableKept state)
    (wrong : ¬ state.CreditsOwn call) (stepped : state.step call = some after) :
    ∃ index, Shadowed state index := by
  cases call with
  | sendHeartbeat bindInfo =>
    simp only [Watched.step] at stepped
    split at stepped
    · rename_i returned
      obtain ⟨entry, member, own⟩ := List.mem_map.mp ((inv.known bindInfo).mp returned)
      obtain ⟨index, inside, here⟩ := List.getElem_of_mem member
      have matching : entry.clientIp = bindInfo.clientIp := congrArg BindInfo.clientIp own
      -- the first entry with the address exists, and it is not this one
      cases found : state.binder.serviceTable.entries.find?
          fun entry => entry.clientIp = bindInfo.clientIp with
      | none =>
        have skipped := List.find?_eq_none.mp found entry member
        simp only [decide_eq_true_eq] at skipped
        exact (skipped matching).elim
      | some earlier =>
        obtain ⟨same, first, insideFirst, hereFirst, skipped⟩ :=
          List.find?_eq_some_iff_getElem.mp found
        simp only [decide_eq_true_eq] at same
        have order : first < index := by
          rcases Nat.lt_trichotomy first index with before | rfl | beyond
          · exact before
          · have credited : earlier = entry := hereFirst.symm.trans here
            refine (wrong ?_).elim
            show Option.map _ _ = _
            rw [found, Option.map_some, credited, own]
          · have passed := skipped index beyond
            simp only [here, Bool.not_eq_true', decide_eq_false_iff_not] at passed
            exact (passed matching).elim
        refine ⟨index, first, bindInfo.clientIp, order, ?_, ?_⟩
        · unfold addresses
          rw [List.getElem?_map, List.getElem?_eq_getElem insideFirst, hereFirst, Option.map_some,
            same]
        · unfold addresses
          rw [List.getElem?_map, List.getElem?_eq_getElem inside, here, Option.map_some, matching]
    · cases stepped
  | _ => exact (wrong trivial).elim

/-- A client presents some bindings, one after another: each is presented now, and a shadowed entry
stays as it was. -/
theorem run_heartbeats {state : Watched} {index : ℕ} (shadowed : Shadowed state index)
    (bindings : List BindInfo) (returned : ∀ b ∈ bindings, (state.presented b).isSome) :
    ∃ ended, runSteps Watched.step state (bindings.map Call.sendHeartbeat) = some ended ∧
      ended.binder.timestamp = state.binder.timestamp ∧
      ended.binder.serviceTable.entries[index]? = state.binder.serviceTable.entries[index]? ∧
      ∀ b, ended.presented b =
        if b ∈ bindings then some state.binder.timestamp else state.presented b := by
  induction bindings generalizing state with
  | nil => exact ⟨state, rfl, rfl, rfl, fun b => by simp⟩
  | cons bindInfo rest ih =>
    have stepped : state.step (.sendHeartbeat bindInfo) =
        some ⟨state.binder.sendHeartbeat bindInfo, state.present bindInfo⟩ :=
      if_pos (returned bindInfo List.mem_cons_self)
    have later : ∀ b ∈ rest, (state.present bindInfo b).isSome := by
      intro b member
      by_cases here : b = bindInfo
      · rw [here, state.present_self]
        rfl
      · rw [state.present_other here]
        exact returned b (List.mem_cons_of_mem _ member)
    obtain ⟨ended, reached, clock, entry, presented⟩ := ih (shadowed_step shadowed stepped) later
    refine ⟨ended, runSteps_cons.mpr ⟨_, stepped, reached⟩, clock, ?_, fun b => ?_⟩
    · exact entry.trans (refresh_shadowed shadowed ..)
    · rw [presented]
      by_cases member : b ∈ rest
      · rw [if_pos member, if_pos (List.mem_cons_of_mem _ member)]
        rfl
      · rw [if_neg member]
        by_cases here : b = bindInfo
        · rw [here, if_pos List.mem_cons_self]
          exact state.present_self bindInfo
        · rw [if_neg (by simp [here, member])]
          exact state.present_other here

/-- **A client that presents all it holds is reported.** With a shadowed entry in the table, the
clock can advance and every binding be presented after that, with no further `bind`, and
`check_node_failure` returns true. -/
theorem reported_of_shadowed {state : Watched} {index : ℕ} (inv : TableKept state)
    (shadowed : Shadowed state index)
    (room : InInt32 (state.binder.timestamp + (failureTimelimit + 1))) :
    ∃ later ended, (∀ call ∈ later, ∀ inAddr, call ≠ .bind inAddr) ∧
      runSteps Watched.step state later = some ended ∧
      ended.binder.checkNodeFailure = true ∧ ¬ ended.Overdue := by
  let now := state.binder.timestamp + (failureTimelimit + 1)
  let waited : Watched := { state with binder := state.binder.updateTimestamp now }
  have forward : state.binder.timestamp ≤ now := by
    show state.binder.timestamp ≤ state.binder.timestamp + (10 + 1)
    omega
  have waits : state.step (.updateTimestamp now) = some waited := if_pos ⟨forward, room⟩
  have clockNow : waited.binder.timestamp = now := toInt32_eq_self room
  let bindings := state.binder.serviceTable.entries.map ServiceInfo.bindInfo
  obtain ⟨ended, reached, clock, entry, presented⟩ := run_heartbeats
    (shadowed_step shadowed waits) bindings fun b member => (inv.known b).mpr member
  have reachedAll : runSteps Watched.step state
      (.updateTimestamp now :: bindings.map Call.sendHeartbeat) = some ended :=
    runSteps_cons.mpr ⟨waited, waits, reached⟩
  have invEnded : TableKept ended :=
    run_invariant (fun _ _ _ inv stepped => tableKept_step inv stepped) reachedAll inv
  refine ⟨_, ended, ?_, reachedAll, (checkNodeFailure_iff invEnded).mpr ?_, ?_⟩
  · rintro call member inAddr rfl
    simp at member
  · obtain ⟨first, clientIp, before, atFirst, atIndex⟩ := shadowed
    unfold addresses at atIndex
    rw [List.getElem?_map, Option.map_eq_some_iff] at atIndex
    obtain ⟨old, atIndex, _⟩ := atIndex
    have seen := (inv.seen old (List.mem_of_getElem? atIndex)).2
    refine ⟨old, List.mem_of_getElem? (entry.trans atIndex), ?_⟩
    rw [clock, clockNow]
    show state.binder.timestamp + (10 + 1) - old.lastSeen > 10
    omega
  · rintro ⟨b, timestamp, last, overdue⟩
    have fresh : timestamp = now := by
      rw [presented] at last
      split at last
      · exact (Option.some.inj last).symm.trans clockNow
      · rename_i unknown
        exact (unknown ((inv.known b).mp (by rw [show state.presented b = _ from last]; rfl))).elim
    rw [clock, clockNow, fresh] at overdue
    unfold failureTimelimit at overdue
    omega

/-! ### Runs -/

section Runs

variable {ip : String} {port now : Int} {growth : ℕ → ℕ} {calls : List Call} {final : Watched}

/-- **Failure detection per binding.** While every heartbeat of a run is credited to the binding it
carries, `check_node_failure` returns true exactly when a binding was last presented too long ago.
After a run with a heartbeat that is not, and with room on the clock, it can be wrong about the
bindings of that run: with no further `bind`, it reports a failure when none was last presented too
long ago. -/
theorem failures_detected (nonneg : 0 ≤ now) (fits : InInt32 now)
    (reached : runSteps Watched.step (.start ip port now growth) calls = some final) :
    (Along Watched.step Watched.CreditsOwn (.start ip port now growth) calls → final.Detects) ∧
    (¬ Along Watched.step Watched.CreditsOwn (.start ip port now growth) calls →
      InInt32 (final.binder.timestamp + (failureTimelimit + 1)) →
      ∃ later ended, (∀ call ∈ later, ∀ inAddr, call ≠ .bind inAddr) ∧
        runSteps Watched.step final later = some ended ∧
        ended.binder.checkNodeFailure = true ∧ ¬ ended.Overdue) := by
  have initially := tableKept_start ip port growth nonneg fits
  refine ⟨fun own => ?_, fun miscredited room => ?_⟩
  · have both : TableKept final ∧ Tracked final := run_invariant_along
      (I := fun state => TableKept state ∧ Tracked state)
      (fun _ _ _ both own stepped =>
        ⟨tableKept_step both.1 stepped, tracked_step both.1 both.2 own stepped⟩)
      reached own ⟨initially, fun entry member => by cases member⟩
    exact detects_of_tracked both.1 both.2
  · obtain ⟨index, stays⟩ := flawed_of_not_along (F := fun state => ∃ index, Shadowed state index)
      reached miscredited initially (fun _ _ _ inv _ stepped => tableKept_step inv stepped)
      (fun _ _ _ inv wrong stepped =>
        have ⟨index, shadowed⟩ := shadowed_of_miscredited inv wrong stepped
        ⟨index, shadowed_step shadowed stepped⟩)
      (fun _ _ _ ⟨index, shadowed⟩ stepped => ⟨index, shadowed_step shadowed stepped⟩)
    have inv : TableKept final :=
      run_invariant (fun _ _ _ inv stepped => tableKept_step inv stepped) reached initially
    exact reported_of_shadowed inv stays room

end Runs

/-! ### Runs of one client -/

/-- Two clients; each presents its binding. -/
def twoClients : List Call :=
  [.bind "10.0.0.1", .bind "10.0.0.2", .updateTimestamp 8,
    .sendHeartbeat ⟨"0.0.0.0", "10.0.0.1", 3000⟩, .updateTimestamp 11,
    .sendHeartbeat ⟨"0.0.0.0", "10.0.0.2", 3003⟩, .checkNodeFailure]

theorem failures_detected_twoClients :
    ∃ final, runSteps Watched.step (.start "0.0.0.0" 3000 0 (2 * ·)) twoClients = some final ∧
      final.Detects := by
  have ends : (runSteps Watched.step (.start "0.0.0.0" 3000 0 (2 * ·)) twoClients).isSome := by
    decide
  obtain ⟨final, reached⟩ := Option.isSome_iff_exists.mp ends
  exact ⟨final, reached, (failures_detected (by decide) (by decide) reached).1 (by decide)⟩

/-- One client binds twice, and presents both bindings after eleven seconds. -/
def bothPresented : List Call :=
  [.bind "0.0.0.0", .bind "0.0.0.0", .updateTimestamp 11,
    .sendHeartbeat ⟨"0.0.0.0", "0.0.0.0", 3000⟩, .sendHeartbeat ⟨"0.0.0.0", "0.0.0.0", 3003⟩,
    .checkNodeFailure]

/-- One client binds twice, eight seconds apart, and presents only its second binding. -/
def firstSilent : List Call :=
  [.bind "0.0.0.0", .updateTimestamp 8, .bind "0.0.0.0", .updateTimestamp 11,
    .sendHeartbeat ⟨"0.0.0.0", "0.0.0.0", 3003⟩, .checkNodeFailure]

/-- **A live client is reported, and a silent binding is kept alive by another.** -/
theorem heartbeats_miscredited :
    (∃ final, runSteps Watched.step (.start "0.0.0.0" 3000 0 (2 * ·)) bothPresented = some final ∧
      final.binder.checkNodeFailure = true ∧ ¬ final.Overdue) ∧
    (∃ final, runSteps Watched.step (.start "0.0.0.0" 3000 0 (2 * ·)) firstSilent = some final ∧
      final.binder.checkNodeFailure = false ∧ final.Overdue) := by
  constructor
  · have ends : (runSteps Watched.step (.start "0.0.0.0" 3000 0 (2 * ·)) bothPresented).map
        (fun final => (final.binder.checkNodeFailure, final.binder.timestamp,
          final.binder.serviceTable.entries.map fun entry =>
            (entry.bindInfo, final.presented entry.bindInfo))) =
        some (true, 11, [(⟨"0.0.0.0", "0.0.0.0", 3000⟩, some 11),
          (⟨"0.0.0.0", "0.0.0.0", 3003⟩, some 11)]) := by decide
    obtain ⟨final, reached, same⟩ := Option.map_eq_some_iff.mp ends
    simp only [Prod.mk.injEq] at same
    obtain ⟨reported, clock, bindings⟩ := same
    refine ⟨final, reached, reported, ?_⟩
    rintro ⟨bindInfo, timestamp, last, overdue⟩
    have inv : TableKept final := run_invariant
      (fun _ _ _ inv stepped => tableKept_step inv stepped) reached
      (tableKept_start "0.0.0.0" 3000 (2 * ·) (by decide) (by decide))
    obtain ⟨entry, member, rfl⟩ := List.mem_map.mp ((inv.known bindInfo).mp (by rw [last]; rfl))
    have listed : (entry.bindInfo, final.presented entry.bindInfo) ∈ _ :=
      List.mem_map_of_mem (f := fun entry : ServiceInfo =>
        (entry.bindInfo, final.presented entry.bindInfo)) member
    rw [bindings, last] at listed
    have fresh : timestamp = 11 := by
      simp only [List.mem_cons, Prod.mk.injEq, Option.some.injEq, List.not_mem_nil, or_false]
        at listed
      omega
    rw [clock, fresh] at overdue
    exact absurd overdue (by decide)
  · exact ⟨_, rfl, by decide, ⟨"0.0.0.0", "0.0.0.0", 3000⟩, 0, by decide, by decide⟩

end GstPipeline.Binder
