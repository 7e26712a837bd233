/-
**Calls that nothing interrupts.**

The handlers of the server, statement by statement, against its operations: a call that runs alone,
with the mutex free, leaves the server that the sequential operation leaves, returns what it
returns, and leaves the mutex free.

* `bind_alone`, `sendHeartbeat_alone`, `checkNodeFailure_alone`, `updateTimestamp_alone`. The two
  loops over the table are by induction on the entries that are left.
-/

import GstPipeline.Binder.Threads

namespace GstPipeline.Binder

open GstPipeline.Lib

section Alone

variable {T : Type} {thread : T} {shared : Shared T}

/-- The server is replaced; the mutex and the histories stay. -/
def Shared.onBinder (shared : Shared T) (binder : ServerBinder) : Shared T :=
  { shared with toServerBinder := binder }

/-- **`bind` alone.** Its entry is noted as this thread's. -/
theorem bind_alone (free : shared.serviceTableMutex = none) (inAddr : String) :
    server.Alone thread shared (Task.bind inAddr).start
      { shared.onBinder (shared.bind inAddr).binder with
        appendedBy := shared.appendedBy ++ [thread] }
      (.bind inAddr (.returned (shared.bind inAddr).bindInfo)) := by
  obtain ⟨binder, mutex, appendedBy, streams, senders⟩ := shared
  obtain rfl : mutex = none := free
  refine .step rfl rfl (.step rfl rfl (.step rfl rfl (.step rfl rfl (.step rfl rfl
    (.step rfl rfl (.step rfl rfl (.step rfl rfl (.step rfl rfl ?_))))))))
  exact .done

/-- **`update_timestamp` alone**; it does not take the mutex. -/
theorem updateTimestamp_alone (now : Int) :
    server.Alone thread shared (Task.updateTimestamp now).start
      (shared.onBinder (shared.updateTimestamp now)) (.updateTimestamp now true) :=
  .step rfl rfl .done

/-! ### The loop of `check_node_failure` -/

/-- From an index on, the loop finds what `anyOverdue` finds in the entries from there. -/
theorem check_scan {i : ℕ} {rest : List ServiceInfo}
    (left : shared.serviceTable.entries.drop i = rest) :
    server.Alone thread shared (.checkNodeFailure (.readTimestamp i shared.serviceTable.size)) shared
      (.checkNodeFailure (.unlock (ServerBinder.anyOverdue shared.timestamp rest))) := by
  induction rest generalizing i with
  | nil =>
    have outside : ¬ i < shared.serviceTable.size := by
      have short := List.drop_eq_nil_iff.mp left
      unfold StdVector.size
      omega
    have ends : server.next shared (.checkNodeFailure (.readTimestamp i shared.serviceTable.size)) =
        some (Operation.read, Thread.checkNodeFailure (.unlock false)) := by
      simp [server, nextStatement, checkCall, outside]
    exact .step ends rfl .done
  | cons entry rest ih =>
    obtain ⟨found, next⟩ := getElem?_of_drop left
    have inside : i < shared.serviceTable.size := (List.getElem?_eq_some_iff.mp found).1
    have reads : server.next shared (.checkNodeFailure (.readTimestamp i shared.serviceTable.size)) =
        some (Operation.read,
          Thread.checkNodeFailure (.readLastSeen i shared.serviceTable.size shared.timestamp)) := by
      simp [server, nextStatement, checkCall, inside]
    unfold ServerBinder.anyOverdue
    by_cases overdue : toInt32 (shared.timestamp - entry.lastSeen) > failureTimelimit
    · rw [if_pos overdue]
      have stops : server.next shared
          (.checkNodeFailure (.readLastSeen i shared.serviceTable.size shared.timestamp)) =
          some (Operation.read, Thread.checkNodeFailure (.unlock true)) := by
        simp [server, nextStatement, checkCall, found, overdue]
      exact .step reads rfl (.step stops rfl .done)
    · rw [if_neg overdue]
      have continues : server.next shared
          (.checkNodeFailure (.readLastSeen i shared.serviceTable.size shared.timestamp)) =
          some (Operation.read,
            Thread.checkNodeFailure (.readTimestamp (i + 1) shared.serviceTable.size)) := by
        simp [server, nextStatement, checkCall, found, overdue]
      exact .step reads rfl (.step continues rfl (ih next))

/-- **`check_node_failure` alone.** -/
theorem checkNodeFailure_alone (free : shared.serviceTableMutex = none) :
    server.Alone thread shared Task.checkNodeFailure.start shared
      (.checkNodeFailure (.returned shared.checkNodeFailure)) := by
  obtain ⟨binder, mutex, appendedBy, streams, senders⟩ := shared
  obtain rfl : mutex = none := free
  refine .step rfl rfl (.step rfl rfl ?_)
  exact (check_scan List.drop_zero).trans (.step rfl rfl .done)

/-! ### The loop of `send_heartbeat` -/

/-- The loop passes the entries before the first one with the caller's address. -/
theorem heartbeat_scan {bindInfo : BindInfo} {i : ℕ} {rest : List ServiceInfo}
    (left : shared.serviceTable.entries.drop i = rest) :
    server.Alone thread shared (.sendHeartbeat bindInfo (.scan i shared.serviceTable.size)) shared
      (.sendHeartbeat bindInfo (.scan
        (i + rest.findIdx fun entry => entry.clientIp = bindInfo.clientIp)
        shared.serviceTable.size)) := by
  induction rest generalizing i with
  | nil => exact .done
  | cons entry rest ih =>
    obtain ⟨found, next⟩ := getElem?_of_drop left
    have inside : i < shared.serviceTable.size := (List.getElem?_eq_some_iff.mp found).1
    by_cases matching : entry.clientIp = bindInfo.clientIp
    · rw [List.findIdx_cons]
      simp only [matching, decide_true, cond_true]
      exact .done
    · have skips : server.next shared (.sendHeartbeat bindInfo (.scan i shared.serviceTable.size)) =
          some (Operation.read,
            Thread.sendHeartbeat bindInfo (.scan (i + 1) shared.serviceTable.size)) := by
        simp [server, nextStatement, heartbeatHandler, inside, found, matching]
      rw [List.findIdx_cons]
      simp only [matching, decide_false, cond_false]
      have shift : ∀ k : ℕ, i + (k + 1) = i + 1 + k := by omega
      rw [shift]
      exact .step skips rfl (ih next)

/-- The table after a heartbeat, as the statement that sets `last_seen` leaves it. -/
theorem sendHeartbeat_eq (binder : ServerBinder) (bindInfo : BindInfo) :
    binder.sendHeartbeat bindInfo = { binder with
      serviceTable := binder.serviceTable.modifyAt
        (binder.serviceTable.entries.findIdx fun entry => entry.clientIp = bindInfo.clientIp)
        fun entry => { entry with lastSeen := binder.timestamp } } := by
  unfold ServerBinder.sendHeartbeat StdVector.modifyAt
  congr 2
  exact ServerBinder.refreshFirst_eq_modify ..

/-- The whole loop. -/
theorem heartbeat_loop (bindInfo : BindInfo) :
    server.Alone thread shared (.sendHeartbeat bindInfo (.scan 0 shared.serviceTable.size))
      (shared.onBinder (shared.sendHeartbeat bindInfo)) (.sendHeartbeat bindInfo .unlock) := by
  refine (heartbeat_scan List.drop_zero).trans ?_
  rw [Nat.zero_add, sendHeartbeat_eq]
  by_cases inside : (shared.serviceTable.entries.findIdx fun entry =>
      entry.clientIp = bindInfo.clientIp) < shared.serviceTable.size
  · have matching := List.findIdx_getElem (w := inside)
    have found := List.getElem?_eq_getElem inside
    generalize (shared.serviceTable.entries.findIdx fun entry =>
      entry.clientIp = bindInfo.clientIp) = i at *
    have stops : server.next shared (.sendHeartbeat bindInfo (.scan i shared.serviceTable.size)) =
        some (Operation.read, Thread.sendHeartbeat bindInfo (.readTimestamp i)) := by
      simp only [decide_eq_true_eq] at matching
      simp [server, nextStatement, heartbeatHandler, inside, found, matching]
    exact .step stops rfl (.step rfl rfl (.step rfl rfl .done))
  · have passes : server.next shared (.sendHeartbeat bindInfo (.scan
        (shared.serviceTable.entries.findIdx fun entry => entry.clientIp = bindInfo.clientIp)
        shared.serviceTable.size)) =
        some (Operation.read, Thread.sendHeartbeat bindInfo .unlock) := by
      simp [server, nextStatement, heartbeatHandler, inside]
    have same : shared.serviceTable.modifyAt
        (shared.serviceTable.entries.findIdx fun entry => entry.clientIp = bindInfo.clientIp)
        (fun entry => { entry with lastSeen := shared.timestamp }) = shared.serviceTable :=
      StdVector.modifyAt_of_beyond inside _
    rw [same]
    exact .step passes rfl .done

/-- **`send_heartbeat` alone.** -/
theorem sendHeartbeat_alone (free : shared.serviceTableMutex = none) (bindInfo : BindInfo) :
    server.Alone thread shared (Task.sendHeartbeat bindInfo).start
      (shared.onBinder (shared.sendHeartbeat bindInfo)) (.sendHeartbeat bindInfo .returned) := by
  obtain ⟨binder, mutex, appendedBy, streams, senders⟩ := shared
  obtain rfl : mutex = none := free
  refine .step rfl rfl (.step rfl rfl ?_)
  exact (heartbeat_loop bindInfo).trans (.step rfl rfl .done)

/-- **A call in a run.** The threads can be scheduled so that a `bind` that finds the mutex free runs
from start to end: the server is then that of the sequential `bind`. -/
theorem bind_run [DecidableEq T] {config : ServerConfig T} {inAddr : String}
    (free : config.shared.serviceTableMutex = none)
    (place : config.threads thread = (Task.bind inAddr).start) :
    ∃ turns after, runSteps serverStep config (List.replicate turns thread) = some after ∧
      after.shared.toServerBinder = (config.shared.bind inAddr).binder ∧
      after.threads thread = .bind inAddr (.returned (config.shared.bind inAddr).bindInfo) := by
  have alone : server.Alone thread config.shared (Task.bind inAddr).start _ _ :=
    bind_alone free inAddr
  rw [← place] at alone
  obtain ⟨turns, reached⟩ := run_of_alone alone
  exact ⟨turns, _, reached, rfl, Function.update_self ..⟩

end Alone

end GstPipeline.Binder
