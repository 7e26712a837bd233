/-
**The binder server: its messages, its state and its operations.**

`ServerBinder` (`grpc_server.hpp`, `grpc_server.cpp`) keeps a table of the bindings it made. A
client calls `bind` with its address and gets a `BindInfo`: the server address, its own address and
the first of three UDP ports. The table gets a `ServiceInfo` with the same values, the current
timestamp and the status `nonActivated`. `sendHeartbeat` refreshes the timestamp of the first entry
with the caller's address, and `checkNodeFailure` looks for an entry not seen for more than
`failureTimelimit` seconds. `updateTimestamp` reads the clock.

Here each operation is one function on the state; `GstPipeline.Binder.Threads` has the same
operations statement by statement. Ports are unbounded integers: where `port_base += 3` leaves the
32-bit range the source is undefined (`GstPipeline.Rtp.Ports`). Timestamps are narrowed to 32 bits
where the source narrows them.
-/

import GstPipeline.Lib.Int32
import GstPipeline.Lib.Vector

namespace GstPipeline.Binder

open GstPipeline.Lib

/-! ### Messages -/

/-- `NON_ACTIVATED`, `TO_ACTIVATE`, `ACTIVATED`. -/
inductive ServiceStatus
  | nonActivated
  | toActivate
  | activated
  deriving DecidableEq, Repr

/-- What a client gets from `bind`. -/
structure BindInfo where
  serverIp : String
  clientIp : String
  port : Int
  deriving DecidableEq, Repr

/-- A protobuf message as it is constructed: empty strings and a zero. -/
def BindInfo.default : BindInfo := ⟨"", "", 0⟩

/-- An entry of the service table. -/
structure ServiceInfo where
  serverIp : String
  clientIp : String
  port : Int
  lastSeen : Int
  status : ServiceStatus
  deriving DecidableEq, Repr

/-- The part of an entry that names its binding. -/
def ServiceInfo.bindInfo (entry : ServiceInfo) : BindInfo :=
  ⟨entry.serverIp, entry.clientIp, entry.port⟩

/-- The result of a call, `grpc::Status`. -/
inductive Status
  | ok
  | failed
  deriving DecidableEq, Repr

/-- `FAILURE_TIMELIMIT`, in seconds. -/
def failureTimelimit : Int := 10

/-! ### The server -/

/-- The fields of the server that its operations use. -/
structure ServerBinder where
  timestamp : Int
  portBase : Int
  serverIp : String
  serviceTable : StdVector ServiceInfo

/-- What a call of `bind` leaves: its status, its reply and the server. -/
structure BindReturn where
  status : Status
  bindInfo : BindInfo
  binder : ServerBinder

namespace ServerBinder

/-- `ServerBinder(ip, port)`, constructed when the clock shows `now`. -/
def new (ip : String) (port now : Int) (growth : ℕ → ℕ) : ServerBinder where
  timestamp := toInt32 now
  portBase := port
  serverIp := ip
  serviceTable := .empty growth

/-- `update_timestamp`, when the clock shows `now`. -/
def updateTimestamp (binder : ServerBinder) (now : Int) : ServerBinder :=
  { binder with timestamp := toInt32 now }

/-- The loop of `check_node_failure`: it returns at the first entry not seen for too long. -/
def anyOverdue (timestamp : Int) : List ServiceInfo → Bool
  | [] => false
  | entry :: rest =>
    if toInt32 (timestamp - entry.lastSeen) > failureTimelimit then true
    else anyOverdue timestamp rest

def checkNodeFailure (binder : ServerBinder) : Bool :=
  anyOverdue binder.timestamp binder.serviceTable.entries

/-- The loop of `send_heartbeat`: it stops at the first entry with the caller's address. -/
def refreshFirst (timestamp : Int) (clientIp : String) : List ServiceInfo → List ServiceInfo
  | [] => []
  | entry :: rest =>
    if entry.clientIp = clientIp then { entry with lastSeen := timestamp } :: rest
    else entry :: refreshFirst timestamp clientIp rest

theorem length_refreshFirst (timestamp : Int) (clientIp : String) (entries : List ServiceInfo) :
    (refreshFirst timestamp clientIp entries).length = entries.length := by
  induction entries with
  | nil => rfl
  | cons entry rest ih =>
    unfold refreshFirst
    split
    · rfl
    · rw [List.length_cons, List.length_cons, ih]

def sendHeartbeat (binder : ServerBinder) (bindInfo : BindInfo) : ServerBinder :=
  { binder with
    serviceTable := binder.serviceTable.rewrite
      (refreshFirst binder.timestamp bindInfo.clientIp binder.serviceTable.entries)
      (length_refreshFirst ..) }

/-- The reply of a `bind` call. -/
def reply (binder : ServerBinder) (inAddr : String) : BindInfo :=
  ⟨binder.serverIp, inAddr, binder.portBase⟩

/-- The entry a `bind` call appends. -/
def newService (binder : ServerBinder) (inAddr : String) : ServiceInfo :=
  ⟨binder.serverIp, inAddr, binder.portBase, binder.timestamp, .nonActivated⟩

/-- `bind`: reply, append the entry, advance the port. There is no other path. -/
def bind (binder : ServerBinder) (inAddr : String) : BindReturn where
  status := .ok
  bindInfo := binder.reply inAddr
  binder := { binder with
    serviceTable := binder.serviceTable.pushBack (binder.newService inAddr)
    portBase := binder.portBase + 3 }

/-! ### What an operation does to each field -/

section Fields

variable (binder : ServerBinder)

@[simp] theorem entries_new (ip : String) (port now : Int) (growth : ℕ → ℕ) :
    (new ip port now growth).serviceTable.entries = [] := rfl

@[simp] theorem entries_bind (inAddr : String) :
    (binder.bind inAddr).binder.serviceTable.entries =
      binder.serviceTable.entries ++ [binder.newService inAddr] :=
  StdVector.entries_pushBack ..

@[simp] theorem portBase_bind (inAddr : String) :
    (binder.bind inAddr).binder.portBase = binder.portBase + 3 := rfl

@[simp] theorem entries_sendHeartbeat (bindInfo : BindInfo) :
    (binder.sendHeartbeat bindInfo).serviceTable.entries =
      refreshFirst binder.timestamp bindInfo.clientIp binder.serviceTable.entries := rfl

end Fields

/-! ### The two loops -/

/-- `checkNodeFailure` finds an overdue entry exactly when there is one. -/
theorem anyOverdue_iff (timestamp : Int) (entries : List ServiceInfo) :
    anyOverdue timestamp entries = true ↔
      ∃ entry ∈ entries, toInt32 (timestamp - entry.lastSeen) > failureTimelimit := by
  induction entries with
  | nil => simp [anyOverdue]
  | cons entry rest ih =>
    unfold anyOverdue
    split
    · rename_i overdue
      simp [overdue]
    · rename_i recent
      simp [ih, recent]

/-- A heartbeat rewrites the first entry with the address where it is. -/
theorem refreshFirst_eq_modify (timestamp : Int) (clientIp : String) (entries : List ServiceInfo) :
    refreshFirst timestamp clientIp entries =
      entries.modify (entries.findIdx fun entry => entry.clientIp = clientIp)
        fun entry => { entry with lastSeen := timestamp } := by
  induction entries with
  | nil => rfl
  | cons entry rest ih =>
    unfold refreshFirst
    by_cases same : entry.clientIp = clientIp
    · rw [if_pos same]
      simp [List.findIdx_cons, same]
    · rw [if_neg same, ih]
      simp [List.findIdx_cons, same]

theorem getElem?_refreshFirst (timestamp : Int) (clientIp : String) (entries : List ServiceInfo)
    (index : ℕ) :
    (refreshFirst timestamp clientIp entries)[index]? =
      if entries.findIdx (fun entry => entry.clientIp = clientIp) = index then
        entries[index]?.map fun entry => { entry with lastSeen := timestamp }
      else entries[index]? := by
  rw [refreshFirst_eq_modify, List.getElem?_modify]
  split
  · rfl
  · exact Option.map_id'

/-- A heartbeat changes no binding. -/
theorem map_bindInfo_refreshFirst (timestamp : Int) (clientIp : String)
    (entries : List ServiceInfo) :
    (refreshFirst timestamp clientIp entries).map ServiceInfo.bindInfo =
      entries.map ServiceInfo.bindInfo := by
  rw [refreshFirst_eq_modify]
  exact map_modify_same fun _ => rfl

end ServerBinder

end GstPipeline.Binder
