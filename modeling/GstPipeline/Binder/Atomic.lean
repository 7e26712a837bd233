/-
**When the server's threads are the sequential server.**

A call takes effect with one statement of its own (`effect`): `bind` with its `push_back`,
`send_heartbeat` with the write of `last_seen` or with the end of a loop that found no entry,
`check_node_failure` with its `unlock()`. `AtomicClear` says of a step that the call that made it
cannot have looked at a server that has changed since:

* no worker makes the trailing `unlock()` of an activation (`NoTrailingUnlock`);
* a call of `bind` reads its port while no other is in its port section (`PortReadClear`);
* `update_timestamp` writes while no call has read the timestamp, or a part of the table, and not yet
  taken effect (`TickClear`).

What a call has read then still holds (`Knows`), by the rule of Owicki and Gries, and the statement
that takes effect does to the server what the whole call does on the sequential server.

* `calls_linearize`: the calls of a run, in the order in which they take effect, are a run of the
  sequential server that ends with the same table and returns the same replies.
* `outcome_shown`: each call that has returned is in this order once, with what it returned. As it
  takes effect between its first statement and its last, the order respects that of calls one after
  the other.
-/

import GstPipeline.Lib.Trace
import GstPipeline.Binder.Alone
import GstPipeline.Binder.Locking
import GstPipeline.Binder.PortGrant
import Mathlib.Data.Fintype.Prod

namespace GstPipeline.Binder

open GstPipeline.Lib

/-! ### The sequential server -/

/-- A call on the server, with what it returns; `setActivated i` is what a worker does. -/
inductive ServerCall
  | bind (inAddr : String) (reply : BindInfo)
  | sendHeartbeat (bindInfo : BindInfo)
  | checkNodeFailure (result : Bool)
  | updateTimestamp (now : Int)
  | setActivated (i : ℕ)
  deriving DecidableEq

namespace ServerBinder

def setActivated (binder : ServerBinder) (i : ℕ) : ServerBinder :=
  { binder with
    serviceTable := binder.serviceTable.modifyAt i fun entry =>
      { entry with status := .activated } }

/-- The server takes a call, if that is what the call returns. -/
def call (binder : ServerBinder) : ServerCall → Option ServerBinder
  | .bind inAddr reply =>
    if (binder.bind inAddr).bindInfo = reply then some (binder.bind inAddr).binder else none
  | .sendHeartbeat bindInfo => some (binder.sendHeartbeat bindInfo)
  | .checkNodeFailure result => if binder.checkNodeFailure = result then some binder else none
  | .updateTimestamp now => some (binder.updateTimestamp now)
  | .setActivated i => some (binder.setActivated i)

/-- The index of the first entry with the address; the size of the table, if there is none. -/
def firstWith (binder : ServerBinder) (clientIp : String) : ℕ :=
  binder.serviceTable.entries.findIdx fun entry => entry.clientIp = clientIp

/-- What the loops over the table read of an entry. -/
def heard (binder : ServerBinder) : List (String × Int) :=
  binder.serviceTable.entries.map fun entry => (entry.clientIp, entry.lastSeen)

end ServerBinder

/-! ### Where a call takes effect -/

/-- The call that takes effect with the thread's next statement. -/
def effect : Thread → Option ServerCall
  | .runStreamer (.setStatus i) => some (.setActivated i)
  | .bind inAddr (.push bindInfo _) => some (.bind inAddr bindInfo)
  | .sendHeartbeat bindInfo (.scan i last) =>
    if i < last then none else some (.sendHeartbeat bindInfo)
  | .sendHeartbeat bindInfo (.setLastSeen _ _) => some (.sendHeartbeat bindInfo)
  | .checkNodeFailure (.unlock result) => some (.checkNodeFailure result)
  | .updateTimestamp now false => some (.updateTimestamp now)
  | _ => none

/-- The call that a thread has made, once it has taken effect. -/
def made : Thread → Option ServerCall
  | .bind inAddr (.unlock bindInfo) => some (.bind inAddr bindInfo)
  | .bind inAddr (.loadPort bindInfo) => some (.bind inAddr bindInfo)
  | .bind inAddr (.storePort bindInfo _) => some (.bind inAddr bindInfo)
  | .bind inAddr (.returned bindInfo) => some (.bind inAddr bindInfo)
  | .sendHeartbeat bindInfo .unlock => some (.sendHeartbeat bindInfo)
  | .sendHeartbeat bindInfo .returned => some (.sendHeartbeat bindInfo)
  | .checkNodeFailure (.returned result) => some (.checkNodeFailure result)
  | .updateTimestamp now true => some (.updateTimestamp now)
  | _ => none

/-- The call has returned, and this is what it was. -/
def outcome : Thread → Option ServerCall
  | .bind inAddr (.returned bindInfo) => some (.bind inAddr bindInfo)
  | .sendHeartbeat bindInfo .returned => some (.sendHeartbeat bindInfo)
  | .checkNodeFailure (.returned result) => some (.checkNodeFailure result)
  | .updateTimestamp now true => some (.updateTimestamp now)
  | _ => none

/-- The thread is a worker. -/
def isWorker : Thread → Bool
  | .runStreamer _ => true
  | _ => false

theorem made_of_outcome {thread : Thread} {call : ServerCall} (done : outcome thread = some call) :
    made thread = some call := by
  unfold outcome at done
  split at done
  case h_5 => cases done
  all_goals exact done

/-- A call takes effect once. -/
theorem made_move {binder : ServerBinder} {mine mine' : Thread} {operation : Operation}
    (move : Move binder mine operation mine') (call : isWorker mine = false) :
    (made mine').toList = (made mine).toList ++ (effect mine).toList := by
  cases move with
  | heartbeatDone outside => simp [made, effect, outside]
  | _ => simp_all [made, effect, isWorker]

theorem isWorker_move {binder : ServerBinder} {mine mine' : Thread} {operation : Operation}
    (move : Move binder mine operation mine') : isWorker mine' = isWorker mine := by
  cases move <;> rfl

/-! ### What a call has read -/

/-- The call has pushed its entry and not yet written `port_base`. -/
def pushed : Thread → Bool
  | .bind _ (.unlock _) => true
  | .bind _ (.loadPort _) => true
  | .bind _ (.storePort _ _) => true
  | _ => false

/-- The call has read the timestamp, or a part of the table against it, and not taken effect. -/
def timed : Thread → Bool
  | .bind _ (.lock _ _) => true
  | .bind _ (.push _ _) => true
  | .sendHeartbeat _ (.setLastSeen _ _) => true
  | .checkNodeFailure (.readTimestamp _ _) => true
  | .checkNodeFailure (.readLastSeen _ _ _) => true
  | .checkNodeFailure (.unlock _) => true
  | _ => false

/-- The thread is about to write the timestamp. -/
def ticking : Thread → Bool
  | .updateTimestamp _ false => true
  | _ => false

/-- What a call has read is what the server has. -/
def Knows (binder : ServerBinder) : Thread → Prop
  | .bind inAddr (.setRecord bindInfo) => bindInfo = binder.reply inAddr
  | .bind inAddr (.setLastSeen bindInfo newService) =>
    bindInfo = binder.reply inAddr ∧
      newService = ⟨binder.serverIp, inAddr, binder.portBase, 0, .nonActivated⟩
  | .bind inAddr (.lock bindInfo newService) =>
    bindInfo = binder.reply inAddr ∧ newService = binder.newService inAddr
  | .bind inAddr (.push bindInfo newService) =>
    bindInfo = binder.reply inAddr ∧ newService = binder.newService inAddr
  | .bind _ (.storePort _ loaded) => loaded = binder.portBase
  | .sendHeartbeat bindInfo (.scan i last) =>
    last = binder.serviceTable.size ∧ i ≤ binder.firstWith bindInfo.clientIp
  | .sendHeartbeat bindInfo (.readTimestamp i) => i = binder.firstWith bindInfo.clientIp
  | .sendHeartbeat bindInfo (.setLastSeen i timestamp) =>
    i = binder.firstWith bindInfo.clientIp ∧ timestamp = binder.timestamp
  | .checkNodeFailure (.readTimestamp i last) =>
    last = binder.serviceTable.size ∧ binder.checkNodeFailure =
      ServerBinder.anyOverdue binder.timestamp (binder.serviceTable.entries.drop i)
  | .checkNodeFailure (.readLastSeen i last timestamp) =>
    (last = binder.serviceTable.size ∧ binder.checkNodeFailure =
      ServerBinder.anyOverdue binder.timestamp (binder.serviceTable.entries.drop i)) ∧
      timestamp = binder.timestamp
  | .checkNodeFailure (.unlock result) => binder.checkNodeFailure = result
  | _ => True

section Readings

variable {binder after : ServerBinder}

theorem anyOverdue_eq_any (timestamp : Int) (entries : List ServiceInfo) :
    ServerBinder.anyOverdue timestamp entries =
      (entries.map (·.lastSeen)).any fun seen => toInt32 (timestamp - seen) > failureTimelimit := by
  induction entries with
  | nil => rfl
  | cons entry rest ih =>
    unfold ServerBinder.anyOverdue
    split
    · rename_i overdue
      simp [overdue]
    · rename_i recent
      simp [recent, ih]

theorem lastSeen_of_heard (same : after.heard = binder.heard) :
    after.serviceTable.entries.map (·.lastSeen) = binder.serviceTable.entries.map (·.lastSeen) := by
  simpa [ServerBinder.heard, Function.comp_def] using congrArg (List.map Prod.snd) same

theorem size_of_heard (same : after.heard = binder.heard) :
    after.serviceTable.size = binder.serviceTable.size := by
  have lengths := congrArg List.length same
  simp only [ServerBinder.heard, List.length_map] at lengths
  exact lengths

theorem firstWith_of_heard (same : after.heard = binder.heard) (clientIp : String) :
    after.firstWith clientIp = binder.firstWith clientIp := by
  have clients : after.serviceTable.entries.map (·.clientIp) =
      binder.serviceTable.entries.map (·.clientIp) := by
    simpa [ServerBinder.heard, Function.comp_def] using congrArg (List.map Prod.fst) same
  have found := congrArg (List.findIdx fun ip => decide (ip = clientIp)) clients
  rwa [List.findIdx_map, List.findIdx_map] at found

theorem anyOverdue_of_heard (same : after.heard = binder.heard) (timestamp : Int) (i : ℕ) :
    ServerBinder.anyOverdue timestamp (after.serviceTable.entries.drop i) =
      ServerBinder.anyOverdue timestamp (binder.serviceTable.entries.drop i) := by
  rw [anyOverdue_eq_any, anyOverdue_eq_any, List.map_drop, List.map_drop, lastSeen_of_heard same]

theorem checkNodeFailure_of_heard (same : after.heard = binder.heard)
    (clock : after.timestamp = binder.timestamp) :
    after.checkNodeFailure = binder.checkNodeFailure := by
  have whole := anyOverdue_of_heard same binder.timestamp 0
  rw [List.drop_zero, List.drop_zero] at whole
  unfold ServerBinder.checkNodeFailure
  rw [clock, whole]

/-- **What a call has read stays**, when the fields it depends on do. -/
theorem knows_congr {theirs : Thread} (knows : Knows binder theirs)
    (ip : after.serverIp = binder.serverIp)
    (port : (granting theirs).isSome = true → after.portBase = binder.portBase)
    (clock : timed theirs = true → after.timestamp = binder.timestamp)
    (table : guarded theirs = true → after.heard = binder.heard) :
    Knows after theirs := by
  cases theirs with
  | bind inAddr pc =>
    cases pc with
    | lock bindInfo newService =>
      simp only [Knows, ServerBinder.reply, ServerBinder.newService] at knows ⊢
      rw [ip, port rfl, clock rfl]
      exact knows
    | push bindInfo newService =>
      simp only [Knows, ServerBinder.reply, ServerBinder.newService] at knows ⊢
      rw [ip, port rfl, clock rfl]
      exact knows
    | setRecord bindInfo =>
      simp only [Knows, ServerBinder.reply] at knows ⊢
      rw [ip, port rfl]
      exact knows
    | setLastSeen bindInfo newService =>
      simp only [Knows, ServerBinder.reply] at knows ⊢
      rw [ip, port rfl]
      exact knows
    | storePort bindInfo loaded => exact knows.trans (port rfl).symm
    | _ => trivial
  | sendHeartbeat bindInfo pc =>
    cases pc with
    | scan i last =>
      have same := table rfl
      exact ⟨knows.1.trans (size_of_heard same).symm,
        (firstWith_of_heard same bindInfo.clientIp).symm ▸ knows.2⟩
    | readTimestamp i =>
      exact knows.trans (firstWith_of_heard (table rfl) bindInfo.clientIp).symm
    | setLastSeen i timestamp =>
      exact ⟨knows.1.trans (firstWith_of_heard (table rfl) bindInfo.clientIp).symm,
        knows.2.trans (clock rfl).symm⟩
    | _ => trivial
  | checkNodeFailure pc =>
    cases pc with
    | readTimestamp i last =>
      have same := table rfl
      refine ⟨knows.1.trans (size_of_heard same).symm, ?_⟩
      rw [checkNodeFailure_of_heard same (clock rfl), clock rfl, anyOverdue_of_heard same]
      exact knows.2
    | readLastSeen i last timestamp =>
      have same := table rfl
      refine ⟨⟨knows.1.1.trans (size_of_heard same).symm, ?_⟩, knows.2.trans (clock rfl).symm⟩
      rw [checkNodeFailure_of_heard same (clock rfl), clock rfl, anyOverdue_of_heard same]
      exact knows.1.2
    | unlock result =>
      exact (checkNodeFailure_of_heard (table rfl) (clock rfl)).trans knows
    | _ => trivial
  | _ => trivial

/-- The entry at an index is the next one that the loop of `check_node_failure` reads. -/
theorem anyOverdue_drop {timestamp : Int} {i : ℕ} {entry : ServiceInfo}
    (found : binder.serviceTable.entries[i]? = some entry) :
    ServerBinder.anyOverdue timestamp (binder.serviceTable.entries.drop i) =
      if toInt32 (timestamp - entry.lastSeen) > failureTimelimit then true
      else ServerBinder.anyOverdue timestamp (binder.serviceTable.entries.drop (i + 1)) := by
  obtain ⟨inside, same⟩ := List.getElem?_eq_some_iff.mp found
  rw [List.drop_eq_getElem_cons inside, same]
  rfl

theorem firstWith_le {clientIp : String} {i : ℕ} {entry : ServiceInfo}
    (found : binder.serviceTable.entries[i]? = some entry) (matching : entry.clientIp = clientIp) :
    binder.firstWith clientIp ≤ i := by
  obtain ⟨inside, same⟩ := List.getElem?_eq_some_iff.mp found
  by_contra later
  have before := List.not_of_lt_findIdx (Nat.lt_of_not_le later)
  simp [same, matching] at before

theorem ne_firstWith {clientIp : String} {i : ℕ} {entry : ServiceInfo}
    (found : binder.serviceTable.entries[i]? = some entry) (differing : entry.clientIp ≠ clientIp) :
    i ≠ binder.firstWith clientIp := by
  rintro rfl
  have matching := List.findIdx_of_getElem?_eq_some found
  exact differing (of_decide_eq_true matching)

/-- A heartbeat of an address that is in no entry changes nothing. -/
theorem sendHeartbeat_of_absent {bindInfo : BindInfo}
    (absent : binder.serviceTable.size ≤ binder.firstWith bindInfo.clientIp) :
    binder.sendHeartbeat bindInfo = binder := by
  rw [sendHeartbeat_eq]
  have same := StdVector.modifyAt_of_beyond (Nat.not_lt.mpr absent)
    fun entry : ServiceInfo => { entry with lastSeen := binder.timestamp }
  unfold ServerBinder.firstWith at same
  rw [same]

end Readings

/-! ### One step -/

section Moves

variable {T : Type} {thread : T} {operation : Operation} {shared after : Shared T}
  {mine mine' : Thread}

/-- The operation leaves the fields of the server as they are. -/
def Operation.leavesBinder : Operation → Bool
  | .read | .lock | .unlock | .createStreamer _ | .setupRtpSender _ => true
  | _ => false

theorem binder_apply (applied : shared.apply thread operation = some after)
    (quiet : operation.leavesBinder = true) :
    after.toServerBinder = shared.toServerBinder := by
  cases operation with
  | lock =>
    obtain ⟨_, rfl⟩ := apply_lock applied
    rfl
  | read | unlock | createStreamer | setupRtpSender =>
    cases applied
    rfl
  | _ => cases quiet

theorem timestamp_apply (applied : shared.apply thread operation = some after)
    (noTick : ∀ timestamp, operation ≠ .storeTimestamp timestamp) :
    after.timestamp = shared.timestamp := by
  cases operation with
  | storeTimestamp timestamp => exact (noTick timestamp rfl).elim
  | lock =>
    obtain ⟨_, rfl⟩ := apply_lock applied
    rfl
  | _ =>
    cases applied
    rfl

theorem heard_apply (applied : shared.apply thread operation = some after)
    (noPush : ∀ newService, operation ≠ .pushBack newService)
    (noSeen : ∀ i timestamp, operation ≠ .setLastSeen i timestamp) :
    after.heard = shared.heard := by
  cases operation with
  | pushBack newService => exact (noPush newService rfl).elim
  | setLastSeen i timestamp => exact (noSeen i timestamp rfl).elim
  | lock =>
    obtain ⟨_, rfl⟩ := apply_lock applied
    rfl
  | setActivated i =>
    cases applied
    exact map_modify_same fun _ => rfl
  | _ =>
    cases applied
    rfl

/-- A statement with which no call takes effect leaves the server, or is the write of `port_base`. -/
theorem quiet_of_effect {binder : ServerBinder} (move : Move binder mine operation mine')
    (none' : effect mine = none) :
    (operation.leavesBinder = true ∧ pushed mine' = pushed mine) ∨
      ∃ inAddr bindInfo loaded, mine = .bind inAddr (.storePort bindInfo loaded) ∧
        mine' = .bind inAddr (.returned bindInfo) ∧ operation = .storePortBase (loaded + 3) := by
  cases move with
  | bindStore => exact Or.inr ⟨_, _, _, rfl, rfl, rfl⟩
  | setStatus | bindPush | heartbeatSet | checkUnlock | tick => cases none'
  | _ => exact Or.inl ⟨rfl, rfl⟩

/-- **A call's own statement keeps what it has read.** -/
theorem knows_move (knows : Knows shared.toServerBinder mine)
    (move : Move shared.toServerBinder mine operation mine')
    (applied : shared.apply thread operation = some after) :
    Knows after.toServerBinder mine' := by
  cases move with
  | bindReply =>
    cases applied
    rfl
  | bindRecord =>
    cases applied
    exact ⟨knows, rfl⟩
  | bindLastSeen =>
    cases applied
    obtain ⟨reply, rfl⟩ := knows
    exact ⟨reply, rfl⟩
  | bindLock =>
    obtain ⟨_, rfl⟩ := apply_lock applied
    exact knows
  | bindLoad =>
    cases applied
    rfl
  | heartbeatFirst =>
    cases applied
    exact ⟨rfl, Nat.zero_le _⟩
  | heartbeatMatch inside found matching =>
    cases applied
    exact Nat.le_antisymm knows.2 (firstWith_le found matching)
  | heartbeatSkip inside found differing =>
    cases applied
    exact ⟨knows.1, Nat.lt_of_le_of_ne knows.2 (ne_firstWith found differing)⟩
  | heartbeatTimestamp =>
    cases applied
    exact ⟨knows, rfl⟩
  | checkFirst =>
    cases applied
    exact ⟨rfl, rfl⟩
  | checkTimestamp =>
    cases applied
    exact ⟨knows, rfl⟩
  | checkDone outside =>
    cases applied
    obtain ⟨rfl, verdict⟩ := knows
    rw [List.drop_eq_nil_iff.mpr (Nat.le_of_not_lt outside)] at verdict
    exact verdict
  | checkOverdue found overdue =>
    cases applied
    obtain ⟨⟨_, verdict⟩, rfl⟩ := knows
    rw [anyOverdue_drop found, if_pos overdue] at verdict
    exact verdict
  | checkRecent found recent =>
    cases applied
    obtain ⟨⟨size, verdict⟩, rfl⟩ := knows
    rw [anyOverdue_drop found, if_neg recent] at verdict
    exact ⟨size, verdict⟩
  | _ => trivial

theorem guarded_of_seen {binder : ServerBinder} {i : ℕ} {timestamp : Int}
    (move : Move binder mine (.setLastSeen i timestamp) mine') : guarded mine = true := by
  cases move
  rfl

theorem ticking_of_tick {binder : ServerBinder} {timestamp : Int}
    (move : Move binder mine (.storeTimestamp timestamp) mine') : ticking mine = true := by
  cases move
  rfl

theorem granting_of_store {binder : ServerBinder} {port : Int}
    (move : Move binder mine (.storePortBase port) mine') : (granting mine).isSome = true := by
  cases move
  rfl

theorem granting_of_pushed (behind : pushed mine = true) : (granting mine).isSome = true := by
  unfold pushed at behind
  split at behind <;> first | rfl | cases behind

end Moves

/-! ### Runs -/

section Runs

variable {T : Type}

/-- If the thread's next step writes the timestamp, no call has read it and not taken effect. -/
def TickClear (config : ServerConfig T) (thread : T) : Prop :=
  ticking (config.threads thread) = true → ∀ other, timed (config.threads other) = false

instance [Fintype T] (config : ServerConfig T) (thread : T) : Decidable (TickClear config thread) :=
  inferInstanceAs (Decidable (_ = _ → ∀ _, _ = _))

/-- The thread's next step changes nothing that another call has looked at and not taken effect. -/
def AtomicClear (config : ServerConfig T) (thread : T) : Prop :=
  NoTrailingUnlock config thread ∧ PortReadClear config thread ∧ TickClear config thread

instance [Fintype T] (config : ServerConfig T) (thread : T) :
    Decidable (AtomicClear config thread) :=
  inferInstanceAs (Decidable (_ ∧ _ ∧ _))

/-- What a run keeps while its steps are clear. -/
structure Sequential (config : ServerConfig T) : Prop where
  holder : HolderInside config
  alone : ∀ t u, (granting (config.threads t)).isSome = true →
    (granting (config.threads u)).isSome = true → t = u
  knows : ∀ t, Knows config.shared.toServerBinder (config.threads t)

/-- The sequential server has what the threads' server has, but for the write of `port_base` by a
call that has pushed its entry and not got to it. -/
structure Matches (config : ServerConfig T) (binder : ServerBinder) : Prop where
  serverIp : binder.serverIp = config.shared.serverIp
  timestamp : binder.timestamp = config.shared.timestamp
  table : binder.serviceTable = config.shared.serviceTable
  behind : ∀ t, pushed (config.threads t) = true → binder.portBase = config.shared.portBase + 3
  level : (∀ t, pushed (config.threads t) = false) → binder.portBase = config.shared.portBase

/-- What a step shows: the call that takes effect with it. -/
def shows (config : ServerConfig T) (thread : T) : List (T × ServerCall) :=
  ((effect (config.threads thread)).map fun call => (thread, call)).toList

theorem start_unread (task : Task) : granting task.start = none ∧ pushed task.start = false ∧
    made task.start = none := by
  cases task <;> exact ⟨rfl, rfl, rfl⟩

theorem sequential_start (binder : ServerBinder) (task : T → Task) :
    Sequential (ServerConfig.start binder task) where
  holder := holderInside_start binder task
  alone t u reads := by
    rw [show granting ((ServerConfig.start binder task).threads t) = none from
      (start_unread (task t)).1] at reads
    cases reads
  knows t := by
    show Knows _ (task t).start
    cases task t <;> trivial

theorem matches_start (binder : ServerBinder) (task : T → Task) :
    Matches (ServerConfig.start binder task) binder where
  serverIp := rfl
  timestamp := rfl
  table := rfl
  behind t pushes := by cases (start_unread (task t)).2.1.symm.trans pushes
  level _ := rfl

variable [DecidableEq T]

theorem alone_step {config after : ServerConfig T} {thread : T}
    (alone : ∀ t u, (granting (config.threads t)).isSome = true →
      (granting (config.threads u)).isSome = true → t = u)
    (clear : PortReadClear config thread) (stepped : serverStep config thread = some after) :
    ∀ t u, (granting (after.threads t)).isSome = true →
      (granting (after.threads u)).isSome = true → t = u := by
  obtain ⟨operation, mine', move, applied, mine, others⟩ := serverStep_cases stepped
  have same : ∀ u, granting mine' = granting (config.threads thread) →
      granting (after.threads u) = granting (config.threads u) := fun u kept =>
    reading_unchanged granting mine others kept u
  cases portMove_of_move move with
  | keep _ sameGranting =>
    intro t u first second
    rw [same t sameGranting] at first
    rw [same u sameGranting] at second
    exact alone t u first second
  | load before now =>
    intro t u first second
    rw [same t (now.trans before.symm)] at first
    rw [same u (now.trans before.symm)] at second
    exact alone t u first second
  | enter reads =>
    have only : ∀ u, (granting (after.threads u)).isSome = true → u = thread := by
      intro u claimed
      by_contra other
      rw [others u other, clear reads u] at claimed
      cases claimed
    intro t u first second
    rw [only t first, only u second]
  | leave before read notGranted left =>
    have older : ∀ u, (granting (after.threads u)).isSome = true →
        (granting (config.threads u)).isSome = true := by
      intro u claimed
      by_cases here : u = thread
      · rw [here, mine, left] at claimed
        cases claimed
      · rwa [others u here] at claimed
    exact fun t u first second => alone t u (older t first) (older u second)

/-- **One clear step.** -/
theorem sequential_step {config after : ServerConfig T} {thread : T} (inv : Sequential config)
    (clear : AtomicClear config thread) (stepped : serverStep config thread = some after) :
    Sequential after := by
  obtain ⟨noTrailing, portClear, tickClear⟩ := clear
  refine ⟨holderInside_step inv.holder noTrailing stepped, alone_step inv.alone portClear stepped,
    fun u => ?_⟩
  obtain ⟨operation, mine', move, applied, mine, others⟩ := serverStep_cases stepped
  by_cases here : u = thread
  · rw [here, mine]
    exact knows_move (inv.knows thread) move applied
  · rw [others u here]
    refine knows_congr (inv.knows u) (serverIp_apply applied) (fun reads => ?_) (fun reads => ?_)
      fun inside => ?_
    · refine portBase_apply applied ?_
      rintro port rfl
      exact here (inv.alone u thread reads (granting_of_store move))
    · refine timestamp_apply applied ?_
      rintro timestamp rfl
      cases (tickClear (ticking_of_tick move) u).symm.trans reads
    · have exclusive : guarded (config.threads thread) = true → False := fun insideToo =>
        here (guarded_unique Shared.serviceTableMutex (guarded · = true) inv.holder inside insideToo)
      refine heard_apply applied ?_ ?_
      · rintro newService rfl
        exact exclusive (guarded_of_push move)
      · rintro i timestamp rfl
        exact exclusive (guarded_of_seen move)

omit [DecidableEq T] in
/-- A step that leaves the fields of the server. -/
theorem matches_quiet {config after : ServerConfig T} {sequential : ServerBinder}
    (matched : Matches config sequential)
    (binder : after.shared.toServerBinder = config.shared.toServerBinder)
    (pushes : ∀ u, pushed (after.threads u) = pushed (config.threads u)) :
    Matches after sequential where
  serverIp := matched.serverIp.trans (congrArg (·.serverIp) binder).symm
  timestamp := matched.timestamp.trans (congrArg (·.timestamp) binder).symm
  table := matched.table.trans (congrArg (·.serviceTable) binder).symm
  behind t claimed := by
    rw [pushes] at claimed
    exact (matched.behind t claimed).trans
      (congrArg (fun binder => ServerBinder.portBase binder + 3) binder).symm
  level none' := by
    simp only [pushes] at none'
    exact (matched.level none').trans (congrArg (·.portBase) binder).symm

omit [DecidableEq T] in
/-- A step that changes the table or the timestamp, and does not write `port_base`. -/
theorem matches_changed {config after : ServerConfig T} {sequential next : ServerBinder}
    (matched : Matches config sequential)
    (serverIp : after.shared.serverIp = config.shared.serverIp)
    (portBase : after.shared.portBase = config.shared.portBase)
    (pushes : ∀ u, pushed (after.threads u) = pushed (config.threads u))
    (nextIp : next.serverIp = sequential.serverIp) (nextPort : next.portBase = sequential.portBase)
    (timestamp : next.timestamp = after.shared.timestamp)
    (table : next.serviceTable = after.shared.serviceTable) : Matches after next where
  serverIp := (nextIp.trans matched.serverIp).trans serverIp.symm
  timestamp := timestamp
  table := table
  behind t claimed := by
    rw [pushes] at claimed
    rw [nextPort, portBase]
    exact matched.behind t claimed
  level none' := by
    simp only [pushes] at none'
    rw [nextPort, portBase]
    exact matched.level none'

/-- The write of `port_base`: it was the only thing the sequential server was ahead by. -/
theorem matches_store {config after : ServerConfig T} {thread : T} {sequential : ServerBinder}
    {inAddr : String} {bindInfo : BindInfo} {loaded : Int} (inv : Sequential config)
    (matched : Matches config sequential)
    (place : config.threads thread = .bind inAddr (.storePort bindInfo loaded))
    (applied : config.shared.apply thread (.storePortBase (loaded + 3)) = some after.shared)
    (mine : after.threads thread = .bind inAddr (.returned bindInfo))
    (others : ∀ u, u ≠ thread → after.threads u = config.threads u) : Matches after sequential := by
  have nobody : ∀ u, pushed (after.threads u) = false := by
    intro u
    by_cases here : u = thread
    · rw [here, mine]
      rfl
    · rw [others u here]
      by_contra claimed
      refine here (inv.alone u thread (granting_of_pushed (Bool.not_eq_false _ ▸ claimed)) ?_)
      rw [place]
      rfl
  have read := inv.knows thread
  have behind := matched.behind thread
  rw [place] at read behind
  obtain rfl : loaded = config.shared.portBase := read
  have same := Option.some.inj applied
  exact ⟨matched.serverIp.trans (congrArg (·.serverIp) same),
    matched.timestamp.trans (congrArg (·.timestamp) same),
    matched.table.trans (congrArg (·.serviceTable) same),
    fun u claimed => (by cases (nobody u).symm.trans claimed),
    fun _ => (behind rfl).trans (congrArg (·.portBase) same)⟩

omit [DecidableEq T] in
/-- The `push_back` of a call is its `bind` on the sequential server. -/
theorem matches_push {config after : ServerConfig T} {thread : T} {sequential : ServerBinder}
    {inAddr : String} {bindInfo : BindInfo} {newService : ServiceInfo} (inv : Sequential config)
    (matched : Matches config sequential)
    (place : config.threads thread = .bind inAddr (.push bindInfo newService))
    (applied : config.shared.apply thread (.pushBack newService) = some after.shared)
    (mine : after.threads thread = .bind inAddr (.unlock bindInfo))
    (others : ∀ u, u ≠ thread → after.threads u = config.threads u) :
    ∃ next, sequential.call (.bind inAddr bindInfo) = some next ∧ Matches after next := by
  have nobody : ∀ u, pushed (config.threads u) = false := by
    intro u
    by_contra claimed
    have pushes := Bool.not_eq_false _ ▸ claimed
    obtain rfl := inv.alone u thread (granting_of_pushed pushes) (by rw [place]; rfl)
    rw [place] at pushes
    cases pushes
  have level := matched.level nobody
  have read := inv.knows thread
  rw [place] at read
  obtain ⟨rfl, rfl⟩ := read
  have reply : (sequential.bind inAddr).bindInfo = config.shared.reply inAddr := by
    simp only [ServerBinder.bind, ServerBinder.reply, matched.serverIp, level]
  have record : sequential.newService inAddr = config.shared.newService inAddr := by
    simp only [ServerBinder.newService, matched.serverIp, matched.timestamp, level]
  have same := Option.some.inj applied
  have port : (sequential.bind inAddr).binder.portBase = after.shared.portBase + 3 := by
    rw [ServerBinder.portBase_bind, level, ← same]
  refine ⟨_, if_pos reply, matched.serverIp.trans (congrArg (·.serverIp) same),
    matched.timestamp.trans (congrArg (·.timestamp) same), ?_, fun _ _ => port, fun none' => ?_⟩
  · rw [← same]
    show sequential.serviceTable.pushBack (sequential.newService inAddr) =
      config.shared.serviceTable.pushBack (config.shared.newService inAddr)
    rw [matched.table, record]
  · have pushes := none' thread
    rw [mine] at pushes
    cases pushes

/-- **What takes effect with a clear step is the call, on the sequential server.** -/
theorem matches_step {config after : ServerConfig T} {thread : T} {sequential : ServerBinder}
    (inv : Sequential config) (stepped : serverStep config thread = some after)
    (matched : Matches config sequential) :
    ∃ next, runSteps (fun binder (event : T × ServerCall) => binder.call event.2) sequential
        (shows config thread) = some next ∧ Matches after next := by
  obtain ⟨operation, mine', move, applied, mine, others⟩ := serverStep_cases stepped
  have knows := inv.knows thread
  have samePushed := fun kept => reading_unchanged pushed mine others kept
  have same := serverIp_apply applied
  unfold shows
  generalize place : config.threads thread = own at move knows samePushed ⊢
  by_cases quiet : effect own = none
  · rw [quiet]
    rcases quiet_of_effect move quiet with ⟨leaves, kept⟩ | ⟨inAddr, bindInfo, loaded, rfl, rfl, rfl⟩
    · exact ⟨sequential, rfl, matches_quiet matched (binder_apply applied leaves) (samePushed kept)⟩
    · exact ⟨sequential, rfl, matches_store inv matched place applied mine others⟩
  · cases move with
    | bindPush =>
      obtain ⟨next, called, now⟩ := matches_push inv matched place applied mine others
      exact ⟨next, runSteps_cons.mpr ⟨next, called, rfl⟩, now⟩
    | setStatus =>
      refine ⟨_, rfl, matches_changed matched same (portBase_apply applied nofun) (samePushed rfl)
        rfl rfl (matched.timestamp.trans (timestamp_apply applied nofun).symm) ?_⟩
      rw [← Option.some.inj applied]
      exact congrArg (StdVector.modifyAt · _ _) matched.table
    | tick =>
      refine ⟨_, rfl, matches_changed matched same (portBase_apply applied nofun) (samePushed rfl)
        rfl rfl ?_ ?_⟩
      · rw [← Option.some.inj applied]
        rfl
      · rw [← Option.some.inj applied]
        exact matched.table
    | @heartbeatSet bindInfo i timestamp =>
      obtain ⟨rfl, rfl⟩ := knows
      refine ⟨_, rfl, matches_changed matched same (portBase_apply applied nofun) (samePushed rfl)
        rfl rfl (matched.timestamp.trans (timestamp_apply applied nofun).symm) ?_⟩
      rw [← Option.some.inj applied, sendHeartbeat_eq, matched.table, matched.timestamp]
      rfl
    | @heartbeatDone bindInfo i last outside =>
      have unchanged : sequential.sendHeartbeat bindInfo = sequential := by
        refine sendHeartbeat_of_absent ?_
        unfold ServerBinder.firstWith
        rw [matched.table]
        exact knows.1 ▸ (Nat.le_of_not_lt outside).trans knows.2
      refine ⟨sequential, ?_, matches_quiet matched (binder_apply applied rfl) (samePushed rfl)⟩
      rw [show effect (.sendHeartbeat bindInfo (.scan i last)) = some (.sendHeartbeat bindInfo) from
        if_neg outside]
      exact runSteps_cons.mpr ⟨sequential, congrArg some unchanged, rfl⟩
    | @checkUnlock result =>
      have verdict : sequential.checkNodeFailure = result := by
        have table : ServerBinder.heard sequential = config.shared.heard := by
          unfold ServerBinder.heard
          rw [matched.table]
        exact (checkNodeFailure_of_heard table matched.timestamp).trans knows
      exact ⟨sequential, runSteps_cons.mpr ⟨sequential, if_pos verdict, rfl⟩,
        matches_quiet matched (binder_apply applied rfl) (samePushed rfl)⟩
    | heartbeatMatch inside => exact (quiet (if_pos inside)).elim
    | heartbeatSkip inside => exact (quiet (if_pos inside)).elim
    | _ => exact (quiet rfl).elim

omit [DecidableEq T] in
theorem toList_tagged (thread : T) (call : Option ServerCall) :
    (call.map fun call => (thread, call)).toList = call.toList.map fun call => (thread, call) := by
  cases call <;> rfl

/-- A call that has taken effect has shown it once. -/
theorem made_step {config after : ServerConfig T} {thread t : T} {shown : List (T × ServerCall)}
    (kept : isWorker (config.threads t) = false →
      (shown.filter fun event => event.1 = t) =
        ((made (config.threads t)).map fun call => (t, call)).toList)
    (stepped : serverStep config thread = some after)
    (call : isWorker (after.threads t) = false) :
    ((shown ++ shows config thread).filter fun event => event.1 = t) =
      ((made (after.threads t)).map fun call => (t, call)).toList := by
  obtain ⟨operation, mine', move, applied, mine, others⟩ := serverStep_cases stepped
  rw [List.filter_append, shows, toList_tagged, toList_tagged, List.filter_map]
  by_cases here : t = thread
  · subst here
    rw [mine] at call ⊢
    have callToo : isWorker (config.threads t) = false := (isWorker_move move).symm.trans call
    rw [kept callToo, made_move move callToo, toList_tagged, List.map_append]
    simp [Function.comp_def]
  · rw [others t here] at call ⊢
    rw [kept call, toList_tagged]
    simp [Function.comp_def, Ne.symm here]

variable {binder : ServerBinder} {task : T → Task} {schedule : List T} {final : ServerConfig T}

/-- **Linearization.** In a run whose steps are clear, the calls in the order in which they take
effect are a run of the sequential server, with the same replies. It ends with the table and the
timestamp of the threads' server, and, when no call is between its `push_back` and its write of
`port_base`, with all of its fields. Each call that has returned is in that order once, with what it
returned. -/
theorem calls_linearize
    (reached : runSteps serverStep (ServerConfig.start binder task) schedule = some final)
    (clear : Along serverStep AtomicClear (ServerConfig.start binder task) schedule) :
    ∃ sequential, runSteps (fun binder (event : T × ServerCall) => binder.call event.2) binder
        (trace serverStep shows (ServerConfig.start binder task) schedule) = some sequential ∧
      sequential.serviceTable = final.shared.serviceTable ∧
      sequential.timestamp = final.shared.timestamp ∧
      ((∀ t, pushed (final.threads t) = false) → sequential = final.shared.toServerBinder) ∧
      ∀ t call, outcome (final.threads t) = some call →
        ((trace serverStep shows (ServerConfig.start binder task) schedule).filter
          fun event => event.1 = t) = [(t, call)] := by
  obtain ⟨sequential, ran, matched⟩ := refines_run (R := Matches) (I := Sequential)
    (fun _ _ _ inv clear stepped => sequential_step inv clear stepped)
    (fun _ _ _ _ inv _ stepped matched => matches_step inv stepped matched)
    reached clear (sequential_start binder task) (matches_start binder task)
  refine ⟨sequential, ran, matched.table, matched.timestamp, fun none' => ?_, fun t call done => ?_⟩
  · obtain ⟨serverIp, timestamp, table, _, level⟩ := matched
    have port := level none'
    cases sequential
    simp only at serverIp timestamp table port
    rw [serverIp, timestamp, table, port]
  · have worker : isWorker (final.threads t) = false := by
      cases place : final.threads t with
      | runStreamer pc =>
        rw [place] at done
        cases done
      | _ => rfl
    have once : isWorker (final.threads t) = false →
        ((trace serverStep shows (ServerConfig.start binder task) schedule).filter
          fun event => event.1 = t) =
            ((made (final.threads t)).map fun call => (t, call)).toList := trace_invariant
      (H := fun shown config => isWorker (config.threads t) = false →
        (shown.filter fun event => event.1 = t) =
          ((made (config.threads t)).map fun call => (t, call)).toList)
      (fun _ _ _ _ kept stepped call => made_step kept stepped call) reached
      (fun _ => by
        show [] = ((made (task t).start).map _).toList
        rw [(start_unread (task t)).2.2]
        rfl)
    rw [once worker, made_of_outcome done]
    rfl

end Runs

/-! ### Four calls -/

/-- A `bind`, a heartbeat for it, a check, and a reading of the clock. -/
def fourTasks : Bool × Bool → Task
  | (false, false) => .bind "10.0.0.1"
  | (false, true) => .sendHeartbeat ⟨"0.0.0.0", "10.0.0.1", 3000⟩
  | (true, false) => .checkNodeFailure
  | (true, true) => .updateTimestamp 20

/-- The clock is read inside the `bind`, before it reads the timestamp; the heartbeat starts before
the last statements of the `bind`, and the check before the `bind` returns. -/
def overlappingCalls : List (Bool × Bool) :=
  List.replicate 3 (false, false) ++ [(true, true)] ++ List.replicate 4 (false, false) ++
    List.replicate 6 (false, true) ++ List.replicate 2 (true, false) ++
    List.replicate 2 (false, false) ++ List.replicate 4 (true, false)

theorem calls_linearize_overlapping :
    ∃ final sequential,
      runSteps serverStep (ServerConfig.start (.new "0.0.0.0" 3000 0 (2 * ·)) fourTasks)
        overlappingCalls = some final ∧
      runSteps (fun (binder : ServerBinder) (event : (Bool × Bool) × ServerCall) =>
          binder.call event.2) (.new "0.0.0.0" 3000 0 (2 * ·))
        (trace serverStep shows (ServerConfig.start (.new "0.0.0.0" 3000 0 (2 * ·)) fourTasks)
          overlappingCalls) = some sequential ∧
      sequential.serviceTable = final.shared.serviceTable ∧
      outcome (final.threads (true, false)) = some (.checkNodeFailure false) ∧
      ((trace serverStep shows (ServerConfig.start (.new "0.0.0.0" 3000 0 (2 * ·)) fourTasks)
        overlappingCalls).filter fun event => event.1 = (true, false)) =
          [((true, false), .checkNodeFailure false)] := by
  have ends : (runSteps serverStep
      (ServerConfig.start (.new "0.0.0.0" 3000 0 (2 * ·)) fourTasks) overlappingCalls).map
        (fun final => outcome (final.threads (true, false))) =
      some (some (.checkNodeFailure false)) := by decide
  obtain ⟨final, reached, done⟩ := Option.map_eq_some_iff.mp ends
  obtain ⟨sequential, ran, table, _, _, once⟩ := calls_linearize reached (by decide)
  exact ⟨final, sequential, reached, ran, table, done, once _ _ done⟩

end GstPipeline.Binder
