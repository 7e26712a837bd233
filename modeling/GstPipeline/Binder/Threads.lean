/-
**The threads of the server, statement by statement.**

The server runs `run_streamer` workers (`ex_server.cpp`), the handlers of the calls `bind` and
`send_heartbeat`, calls of `check_node_failure` and of `update_timestamp`, all on one
`ServerBinder`. Each thread is a program counter with its local variables, and one step of it is
one access to a shared field, one `lock()` or one `unlock()` (`Operation`):

* `runStreamer`: the worker's loop. After the second status check finds an entry `nonActivated` the
  source unlocks, and only then sets the status, takes the address of the entry, and calls
  `create_streamer`; the `unlock()` at the end of the loop body is reached from there too.
* `createStreamer`: the reads that `create_streamer` makes through `info`, up to the call of
  `setup_rtp_sender_with_stream_session`. A read through an address that denotes no entry gives no
  value. The stream ends in a step of its own, which a run need not take.
* `bindHandler`: `port_base` is read for the debug line, for the reply and for the record, and read
  once more and written by `port_base += 3`; only the `push_back` is under the mutex.
* `sendHeartbeat`, `checkNodeFailure`: the loops are under a `lock_guard`. Their iterators are indices
  here, which is the same as long as no other thread appends during the loop: in every run in which no
  worker makes the `unlock()` of a lock that it gave back before (`GstPipeline.Binder.Progress`).

`Shared` adds to the server's fields the holder of `service_table_mutex` and three histories that
no statement reads: which thread appended each entry, the entries `create_streamer` was called for,
and the arguments of the sender set-ups. `serverStep_cases` says what one step of one thread does, in
terms of `Move`, which has a constructor for each way a statement can go.
-/

import GstPipeline.Lib.Threads
import GstPipeline.Binder.Server

namespace GstPipeline.Binder

open GstPipeline.Lib

/-! ### Program counters -/

/-- `create_streamer`, with the arguments read so far. -/
inductive CreatePc
  | debugClientIp
  | debugServerIp
  | debugPort
  | readClientIp
  | readPort (clientIp : Option String)
  | setup (clientIp : Option String) (port : Option Int)
  | run
  deriving DecidableEq

/-- `run_streamer`; `i` is the loop variable. -/
inductive WorkerPc
  | sleep
  | loopTest (i : ℕ)
  | checkStatus (i : ℕ)
  | lock (i : ℕ)
  | recheckStatus (i : ℕ)
  | unlockEarly (i : ℕ)
  | setStatus (i : ℕ)
  | takeInfo (i : ℕ)
  | callCreate (i : ℕ) (info : Address)
  | create (i : ℕ) (info : Address) (pc : CreatePc)
  | unlock (i : ℕ) (activated : Bool)
  deriving DecidableEq

/-- `ServerBinder::bind`. -/
inductive BindPc
  | debug
  | setReply
  | setRecord (bindInfo : BindInfo)
  | setLastSeen (bindInfo : BindInfo) (newService : ServiceInfo)
  | lock (bindInfo : BindInfo) (newService : ServiceInfo)
  | push (bindInfo : BindInfo) (newService : ServiceInfo)
  | unlock (bindInfo : BindInfo)
  | loadPort (bindInfo : BindInfo)
  | storePort (bindInfo : BindInfo) (loaded : Int)
  | returned (bindInfo : BindInfo)
  deriving DecidableEq

/-- `ServerBinder::send_heartbeat`; `last` is the end of the table when the loop starts. -/
inductive HeartbeatPc
  | lock
  | first
  | scan (i last : ℕ)
  | readTimestamp (i : ℕ)
  | setLastSeen (i : ℕ) (timestamp : Int)
  | unlock
  | returned
  deriving DecidableEq

/-- `ServerBinder::check_node_failure`. -/
inductive CheckPc
  | lock
  | first
  | readTimestamp (i last : ℕ)
  | readLastSeen (i last : ℕ) (timestamp : Int)
  | unlock (result : Bool)
  | returned (result : Bool)
  deriving DecidableEq

/-- A thread: which function it is in, with what arguments, and where. -/
inductive Thread
  | runStreamer (pc : WorkerPc)
  | bind (inAddr : String) (pc : BindPc)
  | sendHeartbeat (bindInfo : BindInfo) (pc : HeartbeatPc)
  | checkNodeFailure (pc : CheckPc)
  | updateTimestamp (now : Int) (done : Bool)
  deriving DecidableEq

/-- What a thread is started for. -/
inductive Task
  | runStreamer
  | bind (inAddr : String)
  | sendHeartbeat (bindInfo : BindInfo)
  | checkNodeFailure
  | updateTimestamp (now : Int)
  deriving DecidableEq

def Task.start : Task → Thread
  | .runStreamer => .runStreamer .sleep
  | .bind inAddr => .bind inAddr .debug
  | .sendHeartbeat bindInfo => .sendHeartbeat bindInfo .lock
  | .checkNodeFailure => .checkNodeFailure .lock
  | .updateTimestamp now => .updateTimestamp now false

/-! ### Shared state and operations -/

/-- A call of `setup_rtp_sender_with_stream_session` for a table entry. -/
structure SenderCall where
  entry : ℕ
  receiverAddr : Option String
  portBase : Option Int
  deriving DecidableEq, Repr

/-- What the threads share, with the histories. -/
structure Shared (T : Type) extends ServerBinder where
  serviceTableMutex : Option T
  appendedBy : List T
  streams : List (T × ℕ)
  senders : List SenderCall

/-- One atomic step of a thread; `read` is any step that writes nothing shared. -/
inductive Operation
  | read
  | lock
  | unlock
  | pushBack (newService : ServiceInfo)
  | setActivated (i : ℕ)
  | setLastSeen (i : ℕ) (timestamp : Int)
  | storePortBase (port : Int)
  | storeTimestamp (timestamp : Int)
  | createStreamer (i : ℕ)
  | setupRtpSender (call : SenderCall)
  deriving DecidableEq

/-- What an operation does to the mutex. -/
def Operation.lockUse : Operation → LockUse
  | .lock => .lock
  | .unlock => .unlock
  | _ => .none

namespace Shared

variable {T : Type}

/-- The operations on the shared state; only `lock` can block. An `unlock` by a thread that is not
the holder frees the mutex all the same. -/
def apply (thread : T) (operation : Operation) (shared : Shared T) : Option (Shared T) :=
  match operation with
  | .read => some shared
  | .lock =>
    match shared.serviceTableMutex with
    | none => some { shared with serviceTableMutex := some thread }
    | some _ => none
  | .unlock => some { shared with serviceTableMutex := none }
  | .pushBack newService =>
    some { shared with
      serviceTable := shared.serviceTable.pushBack newService
      appendedBy := shared.appendedBy ++ [thread] }
  | .setActivated i =>
    some { shared with
      serviceTable := shared.serviceTable.modifyAt i fun entry =>
        { entry with status := .activated } }
  | .setLastSeen i timestamp =>
    some { shared with
      serviceTable := shared.serviceTable.modifyAt i fun entry =>
        { entry with lastSeen := timestamp } }
  | .storePortBase port => some { shared with portBase := port }
  | .storeTimestamp timestamp => some { shared with timestamp := timestamp }
  | .createStreamer i => some { shared with streams := shared.streams ++ [(thread, i)] }
  | .setupRtpSender call => some { shared with senders := shared.senders ++ [call] }

/-- The start: nothing locked, nothing recorded. -/
def start (binder : ServerBinder) : Shared T :=
  { binder with serviceTableMutex := none, appendedBy := [], streams := [], senders := [] }

end Shared

/-! ### What an operation leaves as it was -/

section Frame

variable {T : Type} {thread : T} {operation : Operation} {shared after : Shared T}

/-- `lock()` takes a free mutex. -/
theorem apply_lock (applied : shared.apply thread .lock = some after) :
    shared.serviceTableMutex = none ∧ after = { shared with serviceTableMutex := some thread } := by
  simp only [Shared.apply] at applied
  split at applied
  · rename_i free
    exact ⟨free, (Option.some.inj applied).symm⟩
  · cases applied

theorem portBase_apply (applied : shared.apply thread operation = some after)
    (noStore : ∀ port, operation ≠ .storePortBase port) : after.portBase = shared.portBase := by
  cases operation with
  | storePortBase port => exact (noStore port rfl).elim
  | lock =>
    obtain ⟨_, rfl⟩ := apply_lock applied
    rfl
  | _ =>
    cases applied
    rfl

theorem portBase_store {port : Int}
    (applied : shared.apply thread (.storePortBase port) = some after) : after.portBase = port := by
  cases applied
  rfl

theorem serverIp_apply (applied : shared.apply thread operation = some after) :
    after.serverIp = shared.serverIp := by
  cases operation with
  | lock =>
    obtain ⟨_, rfl⟩ := apply_lock applied
    rfl
  | _ =>
    cases applied
    rfl

/-- Only an append moves the table or changes which bindings it has. -/
theorem table_apply (applied : shared.apply thread operation = some after)
    (noPush : ∀ entry, operation ≠ .pushBack entry) :
    after.appendedBy = shared.appendedBy ∧
      after.serviceTable.buffer = shared.serviceTable.buffer ∧
      after.serviceTable.entries.map ServiceInfo.bindInfo =
        shared.serviceTable.entries.map ServiceInfo.bindInfo := by
  cases operation with
  | pushBack entry => exact (noPush entry rfl).elim
  | lock =>
    obtain ⟨_, rfl⟩ := apply_lock applied
    exact ⟨rfl, rfl, rfl⟩
  | setActivated i =>
    cases applied
    exact ⟨rfl, rfl, map_modify_same fun _ => rfl⟩
  | setLastSeen i timestamp =>
    cases applied
    exact ⟨rfl, rfl, map_modify_same fun _ => rfl⟩
  | _ =>
    cases applied
    exact ⟨rfl, rfl, rfl⟩

end Frame

/-! ### The statements -/

/-- `create_streamer` for entry `i`, reading through `info`. -/
def createStreamer (binder : ServerBinder) (i : ℕ) (info : Address) :
    CreatePc → Operation × WorkerPc
  | .debugClientIp => (.read, .create i info .debugServerIp)
  | .debugServerIp => (.read, .create i info .debugPort)
  | .debugPort => (.read, .create i info .readClientIp)
  | .readClientIp =>
    (.read, .create i info (.readPort ((binder.serviceTable.deref info).map (·.clientIp))))
  | .readPort clientIp =>
    (.read, .create i info (.setup clientIp ((binder.serviceTable.deref info).map (·.port))))
  | .setup clientIp port => (.setupRtpSender ⟨i, clientIp, port⟩, .create i info .run)
  | .run => (.read, .unlock i true)

/-- `run_streamer`. -/
def runStreamer (binder : ServerBinder) : WorkerPc → Option (Operation × WorkerPc)
  | .sleep => some (.read, .loopTest 0)
  | .loopTest i =>
    if i < binder.serviceTable.size then some (.read, .checkStatus i) else some (.read, .sleep)
  | .checkStatus i =>
    binder.serviceTable.entries[i]?.map fun entry =>
      (.read, if entry.status = .nonActivated then .lock i else .loopTest (i + 1))
  | .lock i => some (.lock, .recheckStatus i)
  | .recheckStatus i =>
    binder.serviceTable.entries[i]?.map fun entry =>
      (.read, if entry.status = .nonActivated then .unlockEarly i else .unlock i false)
  | .unlockEarly i => some (.unlock, .setStatus i)
  | .setStatus i => some (.setActivated i, .takeInfo i)
  | .takeInfo i => some (.read, .callCreate i (binder.serviceTable.addressOf i))
  | .callCreate i info => some (.createStreamer i, .create i info .debugClientIp)
  | .create i info pc => some (createStreamer binder i info pc)
  | .unlock i _ => some (.unlock, .loopTest (i + 1))

/-- `ServerBinder::bind`. -/
def bindHandler (binder : ServerBinder) (inAddr : String) : BindPc → Option (Operation × BindPc)
  | .debug => some (.read, .setReply)
  | .setReply => some (.read, .setRecord (binder.reply inAddr))
  | .setRecord bindInfo =>
    some (.read, .setLastSeen bindInfo ⟨binder.serverIp, inAddr, binder.portBase, 0, .nonActivated⟩)
  | .setLastSeen bindInfo newService =>
    some (.read, .lock bindInfo
      { newService with lastSeen := binder.timestamp, status := .nonActivated })
  | .lock bindInfo newService => some (.lock, .push bindInfo newService)
  | .push bindInfo newService => some (.pushBack newService, .unlock bindInfo)
  | .unlock bindInfo => some (.unlock, .loadPort bindInfo)
  | .loadPort bindInfo => some (.read, .storePort bindInfo binder.portBase)
  | .storePort bindInfo loaded => some (.storePortBase (loaded + 3), .returned bindInfo)
  | .returned _ => none

/-- `ServerBinder::send_heartbeat`. -/
def heartbeatHandler (binder : ServerBinder) (bindInfo : BindInfo) :
    HeartbeatPc → Option (Operation × HeartbeatPc)
  | .lock => some (.lock, .first)
  | .first => some (.read, .scan 0 binder.serviceTable.size)
  | .scan i last =>
    if i < last then
      binder.serviceTable.entries[i]?.map fun entry =>
        (.read, if entry.clientIp = bindInfo.clientIp then .readTimestamp i else .scan (i + 1) last)
    else some (.read, .unlock)
  | .readTimestamp i => some (.read, .setLastSeen i binder.timestamp)
  | .setLastSeen i timestamp => some (.setLastSeen i timestamp, .unlock)
  | .unlock => some (.unlock, .returned)
  | .returned => none

/-- `ServerBinder::check_node_failure`. -/
def checkCall (binder : ServerBinder) : CheckPc → Option (Operation × CheckPc)
  | .lock => some (.lock, .first)
  | .first => some (.read, .readTimestamp 0 binder.serviceTable.size)
  | .readTimestamp i last =>
    if i < last then some (.read, .readLastSeen i last binder.timestamp)
    else some (.read, .unlock false)
  | .readLastSeen i last timestamp =>
    binder.serviceTable.entries[i]?.map fun entry =>
      (.read, if toInt32 (timestamp - entry.lastSeen) > failureTimelimit then .unlock true
        else .readTimestamp (i + 1) last)
  | .unlock result => some (.unlock, .returned result)
  | .returned _ => none

/-- The next operation of a thread. -/
def nextStatement (binder : ServerBinder) : Thread → Option (Operation × Thread)
  | .runStreamer pc => (runStreamer binder pc).map fun move => (move.1, .runStreamer move.2)
  | .bind inAddr pc => (bindHandler binder inAddr pc).map fun move => (move.1, .bind inAddr move.2)
  | .sendHeartbeat bindInfo pc =>
    (heartbeatHandler binder bindInfo pc).map fun move => (move.1, .sendHeartbeat bindInfo move.2)
  | .checkNodeFailure pc => (checkCall binder pc).map fun move => (move.1, .checkNodeFailure move.2)
  | .updateTimestamp now false => some (.storeTimestamp (toInt32 now), .updateTimestamp now true)
  | .updateTimestamp _ true => none

/-! ### What a statement can do -/

/-- The moves of a thread, one constructor for each way a statement can go. -/
inductive Move (binder : ServerBinder) : Thread → Operation → Thread → Prop
  | wake : Move binder (.runStreamer .sleep) .read (.runStreamer (.loopTest 0))
  | loopEnter {i : ℕ} (inside : i < binder.serviceTable.size) :
      Move binder (.runStreamer (.loopTest i)) .read (.runStreamer (.checkStatus i))
  | loopExit {i : ℕ} (outside : ¬ i < binder.serviceTable.size) :
      Move binder (.runStreamer (.loopTest i)) .read (.runStreamer .sleep)
  | checkFree {i : ℕ} {entry : ServiceInfo} (found : binder.serviceTable.entries[i]? = some entry)
      (free : entry.status = .nonActivated) :
      Move binder (.runStreamer (.checkStatus i)) .read (.runStreamer (.lock i))
  | checkTaken {i : ℕ} {entry : ServiceInfo} (found : binder.serviceTable.entries[i]? = some entry)
      (taken : entry.status ≠ .nonActivated) :
      Move binder (.runStreamer (.checkStatus i)) .read (.runStreamer (.loopTest (i + 1)))
  | workerLock {i : ℕ} :
      Move binder (.runStreamer (.lock i)) .lock (.runStreamer (.recheckStatus i))
  | recheckFree {i : ℕ} {entry : ServiceInfo} (found : binder.serviceTable.entries[i]? = some entry)
      (free : entry.status = .nonActivated) :
      Move binder (.runStreamer (.recheckStatus i)) .read (.runStreamer (.unlockEarly i))
  | recheckTaken {i : ℕ} {entry : ServiceInfo} (found : binder.serviceTable.entries[i]? = some entry)
      (taken : entry.status ≠ .nonActivated) :
      Move binder (.runStreamer (.recheckStatus i)) .read (.runStreamer (.unlock i false))
  | unlockEarly {i : ℕ} :
      Move binder (.runStreamer (.unlockEarly i)) .unlock (.runStreamer (.setStatus i))
  | setStatus {i : ℕ} :
      Move binder (.runStreamer (.setStatus i)) (.setActivated i) (.runStreamer (.takeInfo i))
  | takeInfo {i : ℕ} :
      Move binder (.runStreamer (.takeInfo i)) .read
        (.runStreamer (.callCreate i (binder.serviceTable.addressOf i)))
  | callCreate {i : ℕ} {info : Address} :
      Move binder (.runStreamer (.callCreate i info)) (.createStreamer i)
        (.runStreamer (.create i info .debugClientIp))
  | debugClientIp {i : ℕ} {info : Address} :
      Move binder (.runStreamer (.create i info .debugClientIp)) .read
        (.runStreamer (.create i info .debugServerIp))
  | debugServerIp {i : ℕ} {info : Address} :
      Move binder (.runStreamer (.create i info .debugServerIp)) .read
        (.runStreamer (.create i info .debugPort))
  | debugPort {i : ℕ} {info : Address} :
      Move binder (.runStreamer (.create i info .debugPort)) .read
        (.runStreamer (.create i info .readClientIp))
  | readClientIp {i : ℕ} {info : Address} :
      Move binder (.runStreamer (.create i info .readClientIp)) .read
        (.runStreamer (.create i info
          (.readPort ((binder.serviceTable.deref info).map (·.clientIp)))))
  | readPort {i : ℕ} {info : Address} {clientIp : Option String} :
      Move binder (.runStreamer (.create i info (.readPort clientIp))) .read
        (.runStreamer (.create i info
          (.setup clientIp ((binder.serviceTable.deref info).map (·.port)))))
  | setup {i : ℕ} {info : Address} {clientIp : Option String} {port : Option Int} :
      Move binder (.runStreamer (.create i info (.setup clientIp port)))
        (.setupRtpSender ⟨i, clientIp, port⟩) (.runStreamer (.create i info .run))
  | streamEnds {i : ℕ} {info : Address} :
      Move binder (.runStreamer (.create i info .run)) .read (.runStreamer (.unlock i true))
  | workerUnlock {i : ℕ} {activated : Bool} :
      Move binder (.runStreamer (.unlock i activated)) .unlock (.runStreamer (.loopTest (i + 1)))
  | bindDebug {inAddr : String} : Move binder (.bind inAddr .debug) .read (.bind inAddr .setReply)
  | bindReply {inAddr : String} :
      Move binder (.bind inAddr .setReply) .read
        (.bind inAddr (.setRecord (binder.reply inAddr)))
  | bindRecord {inAddr : String} {bindInfo : BindInfo} :
      Move binder (.bind inAddr (.setRecord bindInfo)) .read
        (.bind inAddr (.setLastSeen bindInfo
          ⟨binder.serverIp, inAddr, binder.portBase, 0, .nonActivated⟩))
  | bindLastSeen {inAddr : String} {bindInfo : BindInfo} {newService : ServiceInfo} :
      Move binder (.bind inAddr (.setLastSeen bindInfo newService)) .read
        (.bind inAddr (.lock bindInfo
          { newService with lastSeen := binder.timestamp, status := .nonActivated }))
  | bindLock {inAddr : String} {bindInfo : BindInfo} {newService : ServiceInfo} :
      Move binder (.bind inAddr (.lock bindInfo newService)) .lock
        (.bind inAddr (.push bindInfo newService))
  | bindPush {inAddr : String} {bindInfo : BindInfo} {newService : ServiceInfo} :
      Move binder (.bind inAddr (.push bindInfo newService)) (.pushBack newService)
        (.bind inAddr (.unlock bindInfo))
  | bindUnlock {inAddr : String} {bindInfo : BindInfo} :
      Move binder (.bind inAddr (.unlock bindInfo)) .unlock (.bind inAddr (.loadPort bindInfo))
  | bindLoad {inAddr : String} {bindInfo : BindInfo} :
      Move binder (.bind inAddr (.loadPort bindInfo)) .read
        (.bind inAddr (.storePort bindInfo binder.portBase))
  | bindStore {inAddr : String} {bindInfo : BindInfo} {loaded : Int} :
      Move binder (.bind inAddr (.storePort bindInfo loaded)) (.storePortBase (loaded + 3))
        (.bind inAddr (.returned bindInfo))
  | heartbeatLock {bindInfo : BindInfo} :
      Move binder (.sendHeartbeat bindInfo .lock) .lock (.sendHeartbeat bindInfo .first)
  | heartbeatFirst {bindInfo : BindInfo} :
      Move binder (.sendHeartbeat bindInfo .first) .read
        (.sendHeartbeat bindInfo (.scan 0 binder.serviceTable.size))
  | heartbeatMatch {bindInfo : BindInfo} {i last : ℕ} {entry : ServiceInfo} (inside : i < last)
      (found : binder.serviceTable.entries[i]? = some entry)
      (matching : entry.clientIp = bindInfo.clientIp) :
      Move binder (.sendHeartbeat bindInfo (.scan i last)) .read
        (.sendHeartbeat bindInfo (.readTimestamp i))
  | heartbeatSkip {bindInfo : BindInfo} {i last : ℕ} {entry : ServiceInfo} (inside : i < last)
      (found : binder.serviceTable.entries[i]? = some entry)
      (differing : entry.clientIp ≠ bindInfo.clientIp) :
      Move binder (.sendHeartbeat bindInfo (.scan i last)) .read
        (.sendHeartbeat bindInfo (.scan (i + 1) last))
  | heartbeatDone {bindInfo : BindInfo} {i last : ℕ} (outside : ¬ i < last) :
      Move binder (.sendHeartbeat bindInfo (.scan i last)) .read (.sendHeartbeat bindInfo .unlock)
  | heartbeatTimestamp {bindInfo : BindInfo} {i : ℕ} :
      Move binder (.sendHeartbeat bindInfo (.readTimestamp i)) .read
        (.sendHeartbeat bindInfo (.setLastSeen i binder.timestamp))
  | heartbeatSet {bindInfo : BindInfo} {i : ℕ} {timestamp : Int} :
      Move binder (.sendHeartbeat bindInfo (.setLastSeen i timestamp)) (.setLastSeen i timestamp)
        (.sendHeartbeat bindInfo .unlock)
  | heartbeatUnlock {bindInfo : BindInfo} :
      Move binder (.sendHeartbeat bindInfo .unlock) .unlock (.sendHeartbeat bindInfo .returned)
  | checkLock : Move binder (.checkNodeFailure .lock) .lock (.checkNodeFailure .first)
  | checkFirst :
      Move binder (.checkNodeFailure .first) .read
        (.checkNodeFailure (.readTimestamp 0 binder.serviceTable.size))
  | checkTimestamp {i last : ℕ} (inside : i < last) :
      Move binder (.checkNodeFailure (.readTimestamp i last)) .read
        (.checkNodeFailure (.readLastSeen i last binder.timestamp))
  | checkDone {i last : ℕ} (outside : ¬ i < last) :
      Move binder (.checkNodeFailure (.readTimestamp i last)) .read
        (.checkNodeFailure (.unlock false))
  | checkOverdue {i last : ℕ} {timestamp : Int} {entry : ServiceInfo}
      (found : binder.serviceTable.entries[i]? = some entry)
      (overdue : toInt32 (timestamp - entry.lastSeen) > failureTimelimit) :
      Move binder (.checkNodeFailure (.readLastSeen i last timestamp)) .read
        (.checkNodeFailure (.unlock true))
  | checkRecent {i last : ℕ} {timestamp : Int} {entry : ServiceInfo}
      (found : binder.serviceTable.entries[i]? = some entry)
      (recent : ¬ toInt32 (timestamp - entry.lastSeen) > failureTimelimit) :
      Move binder (.checkNodeFailure (.readLastSeen i last timestamp)) .read
        (.checkNodeFailure (.readTimestamp (i + 1) last))
  | checkUnlock {result : Bool} :
      Move binder (.checkNodeFailure (.unlock result)) .unlock (.checkNodeFailure (.returned result))
  | tick {now : Int} :
      Move binder (.updateTimestamp now false) (.storeTimestamp (toInt32 now))
        (.updateTimestamp now true)

section Moves

variable {binder : ServerBinder} {operation : Operation}

theorem move_runStreamer {pc pc' : WorkerPc}
    (chosen : runStreamer binder pc = some (operation, pc')) :
    Move binder (.runStreamer pc) operation (.runStreamer pc') := by
  cases pc with
  | loopTest i =>
    simp only [runStreamer] at chosen
    split at chosen <;> cases chosen
    · exact .loopEnter ‹_›
    · exact .loopExit ‹_›
  | checkStatus i =>
    obtain ⟨entry, found, same⟩ := Option.map_eq_some_iff.mp chosen
    split at same <;> cases same
    · exact .checkFree found ‹_›
    · exact .checkTaken found ‹_›
  | recheckStatus i =>
    obtain ⟨entry, found, same⟩ := Option.map_eq_some_iff.mp chosen
    split at same <;> cases same
    · exact .recheckFree found ‹_›
    · exact .recheckTaken found ‹_›
  | create i info pc => cases pc <;> cases chosen <;> constructor
  | _ =>
    cases chosen
    constructor

theorem move_bindHandler {inAddr : String} {pc pc' : BindPc}
    (chosen : bindHandler binder inAddr pc = some (operation, pc')) :
    Move binder (.bind inAddr pc) operation (.bind inAddr pc') := by
  cases pc <;> cases chosen <;> constructor

theorem move_heartbeatHandler {bindInfo : BindInfo} {pc pc' : HeartbeatPc}
    (chosen : heartbeatHandler binder bindInfo pc = some (operation, pc')) :
    Move binder (.sendHeartbeat bindInfo pc) operation (.sendHeartbeat bindInfo pc') := by
  cases pc with
  | scan i last =>
    simp only [heartbeatHandler] at chosen
    split at chosen
    · obtain ⟨entry, found, same⟩ := Option.map_eq_some_iff.mp chosen
      split at same <;> cases same
      · exact .heartbeatMatch ‹_› found ‹_›
      · exact .heartbeatSkip ‹_› found ‹_›
    · cases chosen
      exact .heartbeatDone ‹_›
  | _ => cases chosen <;> constructor

theorem move_checkCall {pc pc' : CheckPc} (chosen : checkCall binder pc = some (operation, pc')) :
    Move binder (.checkNodeFailure pc) operation (.checkNodeFailure pc') := by
  cases pc with
  | readTimestamp i last =>
    simp only [checkCall] at chosen
    split at chosen <;> cases chosen
    · exact .checkTimestamp ‹_›
    · exact .checkDone ‹_›
  | readLastSeen i last timestamp =>
    obtain ⟨entry, found, same⟩ := Option.map_eq_some_iff.mp chosen
    split at same <;> cases same
    · exact .checkOverdue found ‹_›
    · exact .checkRecent found ‹_›
  | _ => cases chosen <;> constructor

/-- **Every statement of every thread is one of the moves.** -/
theorem move_of_next {mine mine' : Thread}
    (chosen : nextStatement binder mine = some (operation, mine')) :
    Move binder mine operation mine' := by
  cases mine with
  | runStreamer pc =>
    obtain ⟨⟨_, pc'⟩, inner, same⟩ := Option.map_eq_some_iff.mp chosen
    cases same
    exact move_runStreamer inner
  | bind inAddr pc =>
    obtain ⟨⟨_, pc'⟩, inner, same⟩ := Option.map_eq_some_iff.mp chosen
    cases same
    exact move_bindHandler inner
  | sendHeartbeat bindInfo pc =>
    obtain ⟨⟨_, pc'⟩, inner, same⟩ := Option.map_eq_some_iff.mp chosen
    cases same
    exact move_heartbeatHandler inner
  | checkNodeFailure pc =>
    obtain ⟨⟨_, pc'⟩, inner, same⟩ := Option.map_eq_some_iff.mp chosen
    cases same
    exact move_checkCall inner
  | updateTimestamp now done =>
    cases done <;> cases chosen
    exact .tick

end Moves

/-! ### The system -/

section System

variable {T : Type}

/-- The server's threads as one program. -/
def server : Program T (Shared T) Thread Operation where
  next shared := nextStatement shared.toServerBinder
  apply := Shared.apply

/-- The state of the server and all its threads. -/
abbrev ServerConfig (T : Type) := Config T (Shared T) Thread

/-- Every thread at the start of its task, on a server just constructed. -/
def ServerConfig.start (binder : ServerBinder) (task : T → Task) : ServerConfig T :=
  ⟨.start binder, fun thread => (task thread).start⟩

variable [DecidableEq T]

/-- One step of one thread. -/
abbrev serverStep : ServerConfig T → T → Option (ServerConfig T) := server.step

/-- **What one step does**: a move of the thread, its operation on the shared state, and nothing to
the other threads. -/
theorem serverStep_cases {config after : ServerConfig T} {thread : T}
    (stepped : serverStep config thread = some after) :
    ∃ operation mine',
      Move config.shared.toServerBinder (config.threads thread) operation mine' ∧
      config.shared.apply thread operation = some after.shared ∧
      after.threads thread = mine' ∧ ∀ u, u ≠ thread → after.threads u = config.threads u := by
  obtain ⟨operation, mine', chosen, applied, mine, others⟩ := step_cases stepped
  exact ⟨operation, mine', move_of_next chosen, applied, mine, others⟩

end System

end GstPipeline.Binder
