/-
**What the elapsed times of `check_node_failure` are worth.**

`time(0)` gives 64 bits. The server narrows it to an `int` when it sets its timestamp, copies the
timestamp into an `int32` field of the entry it appends or refreshes, and subtracts the two in
`int`. `Clocked` runs the server's calls one after another and keeps the clock readings beside it:
the one its timestamp was made from, and for each entry the one that was current when its
`last_seen` was written.

* `ClockKept`: the timestamp and every `last_seen` are narrowed readings, those of the entries not
  after the current one.
* `elapsed_exact_iff`: the subtraction fits and gives the difference of the two readings exactly
  when both are wrapped around equally often and are less than `2 ^ 31` apart. While the clock is
  below `2 ^ 31` they are.
* `elapsed_overflow`: one second across that boundary.
-/

import GstPipeline.Lib.Run
import GstPipeline.Binder.Failure

namespace GstPipeline.Binder

open GstPipeline.Lib

/-! ### Runs with their clock readings -/

/-- The server, the reading of its timestamp, and the reading of each entry's `last_seen`. -/
structure Clocked where
  binder : ServerBinder
  reading : Int
  written : List Int

namespace Clocked

/-- A server constructed when the clock shows `now`. -/
def start (ip : String) (port now : Int) (growth : ℕ → ℕ) : Clocked :=
  ⟨.new ip port now growth, now, []⟩

/-- The readings after a heartbeat from this address. -/
def refresh (state : Clocked) (clientIp : String) : List Int :=
  state.written.modify
    (state.binder.serviceTable.entries.findIdx fun entry => entry.clientIp = clientIp)
    fun _ => state.reading

/-- One call. The clock does not go back, and its readings have 64 bits. -/
def step (state : Clocked) : Call → Option Clocked
  | .bind inAddr =>
    some ⟨(state.binder.bind inAddr).binder, state.reading, state.written ++ [state.reading]⟩
  | .sendHeartbeat bindInfo =>
    some ⟨state.binder.sendHeartbeat bindInfo, state.reading, state.refresh bindInfo.clientIp⟩
  | .updateTimestamp now =>
    if state.reading ≤ now ∧ now < 2 ^ 63 then
      some ⟨state.binder.updateTimestamp now, now, state.written⟩
    else none
  | .checkNodeFailure => some state

/-- What `check_node_failure` subtracts for an entry, before any overflow. -/
def elapsed (state : Clocked) (entry : ServiceInfo) : Int :=
  state.binder.timestamp - entry.lastSeen

end Clocked

/-- Two readings that narrowing wraps around equally often, less than `2 ^ 31` seconds apart. -/
def NarrowTogether (reading later : Int) : Prop :=
  turns reading = turns later ∧ later - reading < 2 ^ 31

/-- The timestamps are narrowed readings. -/
structure ClockKept (state : Clocked) : Prop where
  timestamp : state.binder.timestamp = toInt32 state.reading
  lastSeen : state.binder.serviceTable.entries.map ServiceInfo.lastSeen =
    state.written.map toInt32
  earlier : ∀ reading ∈ state.written, 0 ≤ reading ∧ reading ≤ state.reading
  nonneg : 0 ≤ state.reading

theorem clockKept_start {now : Int} (ip : String) (port : Int) (growth : ℕ → ℕ)
    (nonneg : 0 ≤ now) : ClockKept (Clocked.start ip port now growth) :=
  ⟨rfl, rfl, nofun, nonneg⟩

/-- A heartbeat writes the timestamp to the entry whose reading it writes. -/
theorem lastSeen_refresh {timestamp : Int} {clientIp : String} {entries : List ServiceInfo} :
    (ServerBinder.refreshFirst timestamp clientIp entries).map ServiceInfo.lastSeen =
      (entries.map ServiceInfo.lastSeen).modify
        (entries.findIdx fun entry => entry.clientIp = clientIp) fun _ => timestamp := by
  rw [ServerBinder.refreshFirst_eq_modify]
  exact map_modify fun _ => rfl

section Steps

variable {state after : Clocked} {call : Call}

/-- **One call keeps the timestamps narrowed readings.** -/
theorem clockKept_step (inv : ClockKept state) (stepped : state.step call = some after) :
    ClockKept after := by
  cases call with
  | bind inAddr =>
    cases stepped
    refine ⟨inv.timestamp, ?_, ?_, inv.nonneg⟩
    · rw [ServerBinder.entries_bind, List.map_append, List.map_append, inv.lastSeen]
      show _ ++ [state.binder.timestamp] = _ ++ [toInt32 state.reading]
      rw [inv.timestamp]
    · intro reading member
      rcases List.mem_append.mp member with member | now
      · exact inv.earlier reading member
      · rw [List.mem_singleton.mp now]
        exact ⟨inv.nonneg, Int.le_refl _⟩
  | sendHeartbeat bindInfo =>
    cases stepped
    refine ⟨inv.timestamp, ?_, ?_, inv.nonneg⟩
    · rw [ServerBinder.entries_sendHeartbeat, lastSeen_refresh, inv.lastSeen, inv.timestamp]
      have narrowed : (state.refresh bindInfo.clientIp).map toInt32 =
          (state.written.map toInt32).modify
            (state.binder.serviceTable.entries.findIdx fun entry =>
              entry.clientIp = bindInfo.clientIp) fun _ => toInt32 state.reading :=
        map_modify fun _ => rfl
      exact narrowed.symm
    · intro reading member
      rcases mem_modify member with member | ⟨_, _, rfl⟩
      · exact inv.earlier reading member
      · exact ⟨inv.nonneg, Int.le_refl _⟩
  | updateTimestamp now =>
    simp only [Clocked.step] at stepped
    split at stepped <;> cases stepped
    rename_i forward
    refine ⟨rfl, inv.lastSeen, fun reading member => ?_, Int.le_trans inv.nonneg forward.1⟩
    obtain ⟨nonneg, before⟩ := inv.earlier reading member
    exact ⟨nonneg, Int.le_trans before forward.1⟩
  | checkNodeFailure =>
    cases stepped
    exact inv

end Steps

section Runs

variable {ip : String} {port now : Int} {growth : ℕ → ℕ} {calls : List Call} {state : Clocked}

/-- **Elapsed times.** Every entry has a reading that its `last_seen` was written at, not after the
current one. The subtraction of `check_node_failure` does not overflow and gives the difference of
the two readings exactly when narrowing wraps both around equally often and they are less than
`2 ^ 31` apart, as they are while the clock is below `2 ^ 31`; and then it is not negative. -/
theorem elapsed_exact_iff (nonneg : 0 ≤ now)
    (reached : runSteps Clocked.step (.start ip port now growth) calls = some state) {i : ℕ}
    {entry : ServiceInfo} (found : state.binder.serviceTable.entries[i]? = some entry) :
    ∃ reading, state.written[i]? = some reading ∧ 0 ≤ reading ∧ reading ≤ state.reading ∧
      (InInt32 (state.elapsed entry) ∧ state.elapsed entry = state.reading - reading ↔
        NarrowTogether reading state.reading) ∧
      (NarrowTogether reading state.reading → 0 ≤ state.elapsed entry) ∧
      (state.reading < 2 ^ 31 → NarrowTogether reading state.reading) := by
  have inv : ClockKept state := run_invariant (fun _ _ _ => clockKept_step) reached
    (clockKept_start ip port growth nonneg)
  have place : (state.written.map toInt32)[i]? = some entry.lastSeen := by
    rw [← inv.lastSeen, List.getElem?_map, found]
    rfl
  rw [List.getElem?_map] at place
  obtain ⟨reading, written, seen⟩ := Option.map_eq_some_iff.mp place
  obtain ⟨readNonneg, before⟩ := inv.earlier reading (List.mem_of_getElem? written)
  have exact : InInt32 (state.elapsed entry) ∧ state.elapsed entry = state.reading - reading ↔
      NarrowTogether reading state.reading := by
    unfold Clocked.elapsed
    rw [inv.timestamp, ← seen]
    exact toInt32_sub_exact_iff before
  refine ⟨reading, written, readNonneg, before, exact, fun near => ?_, fun low => ?_⟩
  · rw [(exact.mpr near).2]
    omega
  · unfold NarrowTogether
    rw [turns_of_fits ⟨by omega, by omega⟩, turns_of_fits ⟨by omega, low⟩]
    exact ⟨rfl, by omega⟩

end Runs

/-! ### Two runs -/

/-- A client that binds, eleven seconds before the clock is read again. -/
theorem elapsed_exact_eleven :
    ∃ state entry, runSteps Clocked.step (.start "0.0.0.0" 3000 1000 (2 * ·))
        [.bind "10.0.0.1", .updateTimestamp 1011, .checkNodeFailure] = some state ∧
      state.binder.serviceTable.entries[0]? = some entry ∧ InInt32 (state.elapsed entry) ∧
      state.elapsed entry = 11 := by
  have ends : (runSteps Clocked.step (.start "0.0.0.0" 3000 1000 (2 * ·))
      [.bind "10.0.0.1", .updateTimestamp 1011, .checkNodeFailure]).bind
        (fun state => state.binder.serviceTable.entries[0]?.map fun _ =>
          (state.reading, state.written)) = some (1011, [1000]) := by decide
  obtain ⟨state, reached, ends⟩ := Option.bind_eq_some_iff.mp ends
  obtain ⟨entry, found, ends⟩ := Option.map_eq_some_iff.mp ends
  simp only [Prod.mk.injEq] at ends
  obtain ⟨reading, written, _, _, exact, _, low⟩ := elapsed_exact_iff (by decide) reached found
  rw [ends.2] at written
  cases written
  rw [ends.1] at exact low
  obtain ⟨fits, same⟩ := exact.mpr (low (by decide))
  exact ⟨state, entry, reached, found, fits, by rw [same]; rfl⟩

/-- **One second that does not fit in 32 bits.** A client binds at the last second that an `int`
holds, and the clock is read one second later. -/
theorem elapsed_overflow :
    ∃ state entry, runSteps Clocked.step (.start "0.0.0.0" 3000 (2 ^ 31 - 1) (2 * ·))
        [.bind "10.0.0.1", .updateTimestamp (2 ^ 31), .checkNodeFailure] = some state ∧
      state.binder.serviceTable.entries[0]? = some entry ∧
      state.written[0]? = some (2 ^ 31 - 1) ∧ state.reading = 2 ^ 31 ∧
      ¬ InInt32 (state.elapsed entry) ∧ state.elapsed entry ≠ 1 ∧ state.elapsed entry < 0 := by
  have ends : (runSteps Clocked.step (.start "0.0.0.0" 3000 (2 ^ 31 - 1) (2 * ·))
      [.bind "10.0.0.1", .updateTimestamp (2 ^ 31), .checkNodeFailure]).bind
        (fun state => state.binder.serviceTable.entries[0]?.map fun entry =>
          (state.written[0]?, state.reading, state.elapsed entry)) =
      some (some (2 ^ 31 - 1), 2 ^ 31, - 2 ^ 31 - (2 ^ 31 - 1)) := by decide
  obtain ⟨state, reached, ends⟩ := Option.bind_eq_some_iff.mp ends
  obtain ⟨entry, found, ends⟩ := Option.map_eq_some_iff.mp ends
  simp only [Prod.mk.injEq] at ends
  obtain ⟨written, reading, elapsed⟩ := ends
  refine ⟨state, entry, reached, found, written, reading, ?_⟩
  rw [elapsed]
  decide

end GstPipeline.Binder
