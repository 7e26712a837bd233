/-
**The `bind` call between clients and the server, when calls can fail.**

A client (`ex_client.cpp`) calls `bind_request` (`grpc_client.cpp`) once and sets up its viewer with
the `bind_info` that call left. `bind_request` prints whether the status was `OK` and returns
nothing, so the client goes on in either case. The server runs a handler for each request that
arrives, statement by statement, with the other handlers and with threads of its own
(`GstPipeline.Binder.Threads`).

* `Label` lists what can happen, for any number of clients in any order: a client calls, its request
  arrives, a thread of the server makes a statement, a handler that has returned sends its reply, a
  request or a reply is lost, a request is rejected, a reply is delivered, and a client whose call has
  ended goes on. The handler of a call whose reply is lost goes on, too.
* `ViewsBound`: a client that runs its viewer had its call succeed, and runs it with a server address
  and a port that the table records for its address.
* `views_bound`: `ViewsBound` holds while no call is lost or rejected and no `port_base` is changed
  between the two reads of a call (`StoreClear`); and a run in which every client whose call ended has
  gone on, and `ViewsBound` holds, lost and rejected none.
* `views_unbound`: a client whose request is lost runs its viewer with what it was constructed with;
  and a client whose call succeeds views a port other than the one its record has.
-/

import GstPipeline.Binder.Record
import Mathlib.Data.Fintype.Sum

namespace GstPipeline.Client

open GstPipeline.Lib GstPipeline.Binder

/-! ### Clients, messages and the server -/

/-- The client's `main`, with the status of its call and the arguments of its viewer's set-up. -/
inductive MainPc
  | start
  | calling
  | returned (status : Status)
  | viewing (status : Status) (addr : String) (portBase : Int)
  deriving DecidableEq

/-- A client: where its `main` is, and the `bind_info` of its `GrpcClient`. -/
structure ClientMain where
  pc : MainPc
  bindInfo : BindInfo
  deriving DecidableEq

/-- How far a client's call is: its request is in flight, the client waits for its handler, or its
reply is in flight. -/
inductive Message
  | none
  | request
  | serving
  | reply (bindInfo : BindInfo)
  deriving DecidableEq

/-- The clients, their calls, and the server with a handler for each client and threads of its own;
a handler runs once its request has arrived. -/
structure Net (C W : Type) where
  clients : C → ClientMain
  inFlight : C → Message
  arrived : C → Bool
  server : ServerConfig (C ⊕ W)

/-- What can happen next. -/
inductive Label (C W : Type)
  | call (client : C)
  | arrive (client : C)
  | statement (thread : C ⊕ W)
  | respond (client : C)
  | loseRequest (client : C)
  | rejectRequest (client : C)
  | loseReply (client : C)
  | deliver (client : C)
  | goOn (client : C)
  deriving DecidableEq

/-- The call of no client fails. -/
def Label.Succeeds {C W : Type} : Label C W → Prop
  | .loseRequest _ => False
  | .rejectRequest _ => False
  | .loseReply _ => False
  | _ => True

instance {C W : Type} (label : Label C W) : Decidable label.Succeeds := by
  cases label <;> unfold Label.Succeeds <;> infer_instance

namespace Net

variable {C W : Type}

/-- Every client at its start, with a message as constructed; a server just constructed. `address` is
what each client calls with, and `task` what the threads of the server do. -/
def start (address : C → String) (task : W → Task) (ip : String) (port now : Int)
    (growth : ℕ → ℕ) : Net C W where
  clients _ := ⟨.start, .default⟩
  inFlight _ := .none
  arrived _ := false
  server := .start (.new ip port now growth) (Sum.elim (fun client => .bind (address client)) task)

/-- A handler runs from the arrival of its request on; the server's own threads always run. -/
def runs (net : Net C W) : C ⊕ W → Bool
  | .inl client => net.arrived client
  | .inr _ => true

variable [DecidableEq C]

/-- A client and its call change. -/
def put (net : Net C W) (client : C) (mine : ClientMain) (message : Message) : Net C W :=
  { net with
    clients := Function.update net.clients client mine
    inFlight := Function.update net.inFlight client message }

theorem put_self (net : Net C W) (client : C) (mine : ClientMain) (message : Message) :
    (net.put client mine message).clients client = mine ∧
      (net.put client mine message).inFlight client = message :=
  ⟨Function.update_self .., Function.update_self ..⟩

theorem put_other (net : Net C W) {client other : C} (differs : other ≠ client) (mine : ClientMain)
    (message : Message) :
    (net.put client mine message).clients other = net.clients other ∧
      (net.put client mine message).inFlight other = net.inFlight other :=
  ⟨Function.update_of_ne differs .., Function.update_of_ne differs ..⟩

/-- The call of a client ends with a status that is not `OK`; its `bind_info` stays. -/
def fail (net : Net C W) (client : C) : Net C W :=
  net.put client { net.clients client with pc := .returned .failed } .none

variable [DecidableEq W]

/-- One step. -/
def step (net : Net C W) : Label C W → Option (Net C W)
  | .call client =>
    match (net.clients client).pc with
    | .start => some (net.put client { net.clients client with pc := .calling } .request)
    | _ => none
  | .arrive client =>
    match net.inFlight client with
    | .request =>
      some { net.put client (net.clients client) .serving with
        arrived := Function.update net.arrived client true }
    | _ => none
  | .statement thread =>
    if net.runs thread then
      (serverStep net.server thread).map fun server => { net with server := server }
    else none
  | .respond client =>
    match net.inFlight client, granted (net.server.threads (.inl client)) with
    | .serving, some bindInfo => some (net.put client (net.clients client) (.reply bindInfo))
    | _, _ => none
  | .loseRequest client =>
    match net.inFlight client with
    | .request => some (net.fail client)
    | _ => none
  | .rejectRequest client =>
    match net.inFlight client with
    | .request => some (net.fail client)
    | _ => none
  | .loseReply client =>
    match net.inFlight client with
    | .serving => some (net.fail client)
    | .reply _ => some (net.fail client)
    | _ => none
  | .deliver client =>
    match net.inFlight client with
    | .reply bindInfo => some (net.put client ⟨.returned .ok, bindInfo⟩ .none)
    | _ => none
  | .goOn client =>
    match (net.clients client).pc with
    | .returned status =>
      let mine := net.clients client
      some (net.put client
        { mine with pc := .viewing status mine.bindInfo.serverIp mine.bindInfo.port }
        (net.inFlight client))
    | _ => none

end Net

/-! ### What the table records -/

/-- The table records this server address and port for a client address. -/
def Recorded (binder : ServerBinder) (clientIp serverIp : String) (port : Int) : Prop :=
  ∃ entry ∈ binder.serviceTable.entries,
    entry.clientIp = clientIp ∧ entry.serverIp = serverIp ∧ entry.port = port

theorem recorded_of_recordsOf {T : Type} [DecidableEq T] {shared : Shared T} {thread : T}
    {bindInfo : BindInfo} (records : shared.recordsOf thread = [bindInfo]) :
    Recorded shared.toServerBinder bindInfo.clientIp bindInfo.serverIp bindInfo.port := by
  have member : bindInfo ∈ shared.recordsOf thread := by
    rw [records]
    exact List.mem_singleton_self _
  obtain ⟨⟨owner, own⟩, record, rfl⟩ := List.mem_map.mp member
  have appended := (List.of_mem_zip (List.mem_filter.mp record).1).2
  obtain ⟨entry, entered, rfl⟩ := List.mem_map.mp appended
  exact ⟨entry, entered, rfl, rfl, rfl⟩

/-- The handler answers the client with this address. -/
def Answering (clientIp : String) (handler : Thread) : Prop :=
  (∃ pc, handler = .bind clientIp pc) ∧
    ∀ bindInfo, granting handler = some bindInfo ∨ granted handler = some bindInfo →
      bindInfo.clientIp = clientIp

theorem answering_start (clientIp : String) : Answering clientIp (.bind clientIp .debug) := by
  refine ⟨⟨_, rfl⟩, fun bindInfo given => ?_⟩
  rcases given with given | given <;> cases given

theorem answering_move {clientIp : String} {binder : ServerBinder} {handler handler' : Thread}
    {operation : Operation} (answering : Answering clientIp handler)
    (move : Move binder handler operation handler') : Answering clientIp handler' := by
  obtain ⟨⟨pc, rfl⟩, answers⟩ := answering
  cases move with
  | bindReply =>
    refine ⟨⟨_, rfl⟩, fun bindInfo given => ?_⟩
    rcases given with given | given <;> cases given
    rfl
  | bindStore =>
    refine ⟨⟨_, rfl⟩, fun bindInfo given => answers bindInfo (Or.inl ?_)⟩
    rcases given with given | given
    · cases given
    · exact given
  | _ => exact ⟨⟨_, rfl⟩, answers⟩

theorem not_granted_of_move {binder : ServerBinder} {handler handler' : Thread}
    {operation : Operation} (move : Move binder handler operation handler') :
    granted handler = none := by
  cases move <;> rfl

section Protocol

variable {C W : Type}

/-- **A client views only what it was bound to.** -/
def ViewsBound (address : C → String) (net : Net C W) : Prop :=
  ∀ client status addr portBase, (net.clients client).pc = .viewing status addr portBase →
    status = .ok ∧ Recorded net.server.shared.toServerBinder (address client) addr portBase

/-- Every client whose call has ended has gone on. -/
def Settled (net : Net C W) : Prop :=
  ∀ client status, (net.clients client).pc ≠ .returned status

/-- The step fails no call, and changes `port_base` only while no call is between its two reads. -/
def StepClear (net : Net C W) : Label C W → Prop
  | .statement thread => StoreClear net.server thread
  | label => label.Succeeds

instance [Fintype C] [Fintype W] (net : Net C W) (label : Label C W) :
    Decidable (StepClear net label) := by
  cases label <;> unfold StepClear <;> infer_instance

theorem succeeds_of_clear {net : Net C W} {label : Label C W} (clear : StepClear net label) :
    label.Succeeds := by
  cases label with
  | statement thread => trivial
  | _ => exact clear

/-- What a client has is what its handler returned. -/
structure Backed (clientIp : String) (mine : ClientMain) (message : Message) (handler : Thread) :
    Prop where
  answers : Answering clientIp handler
  replied : ∀ bindInfo, message = .reply bindInfo → granted handler = some bindInfo
  returned : ∀ status, mine.pc = .returned status →
    status = .ok ∧ granted handler = some mine.bindInfo
  views : ∀ status addr portBase, mine.pc = .viewing status addr portBase →
    status = .ok ∧ ∃ bindInfo, granted handler = some bindInfo ∧ addr = bindInfo.serverIp ∧
      portBase = bindInfo.port

/-- A handler that makes a statement has returned nothing yet. -/
theorem Backed.move {clientIp : String} {mine : ClientMain} {message : Message}
    {binder : ServerBinder} {handler handler' : Thread} {operation : Operation}
    (backed : Backed clientIp mine message handler) (move : Move binder handler operation handler') :
    Backed clientIp mine message handler' where
  answers := answering_move backed.answers move
  replied bindInfo same := by cases (not_granted_of_move move).symm.trans (backed.replied bindInfo same)
  returned status same := by cases (not_granted_of_move move).symm.trans (backed.returned status same).2
  views status addr portBase same := by
    obtain ⟨_, bindInfo, given, _⟩ := backed.views status addr portBase same
    cases (not_granted_of_move move).symm.trans given

/-- What a run keeps while no call fails. -/
def AllBacked (address : C → String) (net : Net C W) : Prop :=
  ∀ client, Backed (address client) (net.clients client) (net.inFlight client)
    (net.server.threads (.inl client))

theorem allBacked_start (address : C → String) (task : W → Task) (ip : String) (port now : Int)
    (growth : ℕ → ℕ) : AllBacked address (Net.start address task ip port now growth) :=
  fun client => ⟨answering_start (address client), nofun, nofun, nofun⟩

variable [DecidableEq C] {address : C → String} {net after : Net C W} {label : Label C W}

/-- One client and its call change, and stay backed. -/
theorem allBacked_put {client : C} {mine : ClientMain} {message : Message}
    (inv : AllBacked address net)
    (backed : Backed (address client) mine message (net.server.threads (.inl client))) :
    AllBacked address (net.put client mine message) := by
  intro other
  by_cases here : other = client
  · subst here
    rw [(net.put_self other mine message).1, (net.put_self other mine message).2]
    exact backed
  · rw [(net.put_other here mine message).1, (net.put_other here mine message).2]
    exact inv other

variable [DecidableEq W]

theorem statement_eq_some {thread : C ⊕ W} :
    net.step (.statement thread) = some after ↔
      net.runs thread = true ∧ ∃ server, serverStep net.server thread = some server ∧
        { net with server := server } = after := by
  simp only [Net.step]
  split
  · rename_i running
    rw [Option.map_eq_some_iff]
    exact ⟨fun made => ⟨running, made⟩, fun made => made.2⟩
  · rename_i waiting
    exact ⟨nofun, fun made => (waiting made.1).elim⟩

theorem respond_eq_some {client : C} :
    net.step (.respond client) = some after ↔
      ∃ bindInfo, net.inFlight client = .serving ∧
        granted (net.server.threads (.inl client)) = some bindInfo ∧
        net.put client (net.clients client) (.reply bindInfo) = after := by
  simp only [Net.step]
  split
  · rename_i bindInfo serving given
    rw [Option.some.injEq]
    refine ⟨fun same => ⟨bindInfo, serving, given, same⟩, ?_⟩
    rintro ⟨other, _, givenToo, same⟩
    cases given.symm.trans givenToo
    exact same
  · rename_i idle
    refine ⟨nofun, ?_⟩
    rintro ⟨bindInfo, serving, given, _⟩
    exact (idle bindInfo serving given).elim

/-- **One step that fails no call.** -/
theorem allBacked_step (inv : AllBacked address net) (succeeds : label.Succeeds)
    (stepped : net.step label = some after) : AllBacked address after := by
  cases label with
  | call client =>
    simp only [Net.step] at stepped
    split at stepped <;> cases stepped
    exact allBacked_put inv ⟨(inv client).answers, nofun, nofun, nofun⟩
  | arrive client =>
    simp only [Net.step] at stepped
    split at stepped <;> cases stepped
    have mine := inv client
    exact allBacked_put inv ⟨mine.answers, nofun, mine.returned, mine.views⟩
  | statement thread =>
    obtain ⟨_, server, made, rfl⟩ := statement_eq_some.mp stepped
    obtain ⟨operation, mine', move, applied, mine, others⟩ := serverStep_cases made
    intro client
    show Backed _ _ _ (server.threads (.inl client))
    by_cases here : Sum.inl client = thread
    · subst here
      rw [mine]
      exact (inv client).move move
    · rw [others (.inl client) here]
      exact inv client
  | respond client =>
    obtain ⟨bindInfo, _, given, rfl⟩ := respond_eq_some.mp stepped
    have mine := inv client
    refine allBacked_put inv ⟨mine.answers, fun other same => ?_, mine.returned, mine.views⟩
    cases same
    exact given
  | deliver client =>
    simp only [Net.step] at stepped
    split at stepped <;> cases stepped
    rename_i bindInfo replied
    have mine := inv client
    refine allBacked_put inv ⟨mine.answers, nofun, fun status same => ?_, nofun⟩
    cases same
    exact ⟨rfl, mine.replied bindInfo replied⟩
  | goOn client =>
    simp only [Net.step] at stepped
    split at stepped <;> cases stepped
    rename_i status ended
    have mine := inv client
    refine allBacked_put inv ⟨mine.answers, mine.replied, nofun, fun _ _ _ same => ?_⟩
    cases same
    obtain ⟨ok, given⟩ := mine.returned status ended
    exact ⟨ok, _, given, rfl, rfl⟩
  | loseRequest client => exact succeeds.elim
  | rejectRequest client => exact succeeds.elim
  | loseReply client => exact succeeds.elim

/-- Only a statement of the server changes the server. -/
theorem recordsKept_net (inv : RecordsKept net.server) (clear : StepClear net label)
    (stepped : net.step label = some after) : RecordsKept after.server := by
  cases label with
  | statement thread =>
    obtain ⟨_, server, made, rfl⟩ := statement_eq_some.mp stepped
    exact recordsKept_step inv clear made
  | respond client =>
    obtain ⟨bindInfo, _, _, rfl⟩ := respond_eq_some.mp stepped
    exact inv
  | _ =>
    simp only [Net.step] at stepped
    split at stepped <;> cases stepped <;> exact inv

/-- What a client views is recorded, when every returned call is recorded as it replied. -/
theorem viewsBound_of_kept (inv : AllBacked address net) (kept : RecordsKept net.server) :
    ViewsBound address net := by
  intro client status addr portBase viewing
  obtain ⟨ok, bindInfo, given, rfl, rfl⟩ := (inv client).views status addr portBase viewing
  refine ⟨ok, ?_⟩
  rw [← (inv client).answers.2 bindInfo (Or.inr given)]
  exact recorded_of_recordsOf (kept.recorded (.inl client) bindInfo (appended_of_granted given))

/-! ### Calls that fail -/

/-- The call of the client failed, and none of its messages is in flight. -/
def Failed (client : C) (net : Net C W) : Prop :=
  net.inFlight client = .none ∧
    ((net.clients client).pc = .returned .failed ∨
      ∃ addr portBase, (net.clients client).pc = .viewing .failed addr portBase)

omit [DecidableEq W] in
theorem failed_fail (net : Net C W) (client : C) : Failed client (net.fail client) := by
  obtain ⟨mine, message⟩ := net.put_self client
    { net.clients client with pc := .returned .failed } .none
  exact ⟨message, Or.inl (congrArg ClientMain.pc mine)⟩

omit [DecidableEq W] in
/-- A step of one client leaves a failed call of another as it was. -/
theorem failed_put {owner client : C} {mine : ClientMain} {message : Message} (differs : owner ≠ client)
    (failed : Failed owner net) : Failed owner (net.put client mine message) := by
  obtain ⟨same, sameMessage⟩ := net.put_other differs mine message
  unfold Failed
  rw [same, sameMessage]
  exact failed

/-- A failed call stays failed: there is nothing to lose, reject or deliver, and the client goes on. -/
theorem failed_step {owner : C} (failed : Failed owner net)
    (stepped : net.step label = some after) : Failed owner after := by
  have quiet : ∀ {client : C}, net.inFlight client ≠ .none → owner ≠ client := by
    rintro client busy rfl
    exact busy failed.1
  cases label with
  | call client =>
    simp only [Net.step] at stepped
    split at stepped <;> cases stepped
    rename_i fresh
    refine failed_put ?_ failed
    rintro rfl
    rcases failed.2 with ended | ⟨_, _, ended⟩ <;> cases fresh.symm.trans ended
  | statement thread =>
    obtain ⟨_, server, _, rfl⟩ := statement_eq_some.mp stepped
    exact failed
  | respond client =>
    obtain ⟨bindInfo, serving, _, rfl⟩ := respond_eq_some.mp stepped
    exact failed_put (quiet (by rw [serving]; nofun)) failed
  | goOn client =>
    simp only [Net.step] at stepped
    split at stepped <;> cases stepped
    rename_i status ended
    by_cases here : owner = client
    · subst here
      obtain ⟨mine, message⟩ := net.put_self owner
        { net.clients owner with
          pc := .viewing status (net.clients owner).bindInfo.serverIp (net.clients owner).bindInfo.port }
        (net.inFlight owner)
      refine ⟨message.trans failed.1, Or.inr ?_⟩
      rcases failed.2 with still | ⟨_, _, viewing⟩
      · cases ended.symm.trans still
        exact ⟨_, _, congrArg ClientMain.pc mine⟩
      · cases ended.symm.trans viewing
    · exact failed_put here failed
  | _ =>
    simp only [Net.step] at stepped
    split at stepped <;> cases stepped <;> rename_i busy <;>
      exact failed_put (quiet (by rw [busy]; nofun)) failed

theorem failed_of_unsuccessful (fails : ¬ label.Succeeds) (stepped : net.step label = some after) :
    ∃ client, Failed client after := by
  cases label with
  | loseRequest client | rejectRequest client | loseReply client =>
    simp only [Net.step] at stepped
    split at stepped <;> cases stepped <;> exact ⟨client, failed_fail net client⟩
  | _ => exact (fails trivial).elim

variable {task : W → Task} {ip : String} {port now : Int} {growth : ℕ → ℕ}
  {labels : List (Label C W)} {final : Net C W}

/-- **The bind protocol under failures.** While no call is lost or rejected and no `port_base` is
changed between the two reads of a call, every client that runs its viewer runs it with what the table
records for its address; and a run in which all clients whose calls ended have gone on, and do so,
lost and rejected no call. -/
theorem views_bound
    (reached : runSteps Net.step (.start address task ip port now growth) labels = some final) :
    (Along Net.step StepClear (.start address task ip port now growth) labels →
      ViewsBound address final) ∧
    (Settled final → ViewsBound address final →
      Along Net.step (fun _ label => label.Succeeds) (.start address task ip port now growth)
        labels) := by
  refine ⟨fun clear => ?_, fun settled bound => ?_⟩
  · obtain ⟨backed, kept⟩ := run_invariant_along
      (I := fun net : Net C W => AllBacked address net ∧ RecordsKept net.server)
      (fun net label after inv clear stepped =>
        ⟨allBacked_step inv.1 (succeeds_of_clear clear) stepped,
          recordsKept_net inv.2 clear stepped⟩)
      reached clear
      ⟨allBacked_start address task ip port now growth, recordsKept_start ip port now growth _⟩
    exact viewsBound_of_kept backed kept
  · by_contra unsuccessful
    obtain ⟨client, ends⟩ := flawed_of_not_along (I := fun _ => True)
      (F := fun net => ∃ client, Failed client net) reached unsuccessful trivial
      (fun _ _ _ _ _ _ => trivial)
      (fun _ _ _ _ fails stepped => failed_of_unsuccessful fails stepped)
      (fun _ _ _ ⟨client, failed⟩ stepped => ⟨client, failed_step failed stepped⟩)
    rcases ends.2 with returned | ⟨addr, portBase, viewing⟩
    · exact settled client .failed returned
    · cases (bound client .failed addr portBase viewing).1

end Protocol

/-! ### Three runs -/

/-- The addresses of two clients. -/
def clientAddress : Bool → String
  | false => "10.0.0.1"
  | true => "10.0.0.2"

/-- The server has one worker. -/
def oneWorker : Unit → Task := fun _ => .runStreamer

/-- The server after it starts, for two clients. -/
def twoClients : Net Bool Unit := .start clientAddress oneWorker "0.0.0.0" 3000 0 (2 * ·)

/-- Statements of one thread of the server. -/
def statements (n : ℕ) (thread : Bool ⊕ Unit) : List (Label Bool Unit) :=
  List.replicate n (.statement thread)

/-- Two clients bind. The second handler starts inside the first, the worker activates the first
entry in between, and the replies come in the other order. -/
def crossed : List (Label Bool Unit) :=
  [.call false, .call true, .arrive true, .arrive false] ++ statements 7 (.inl false) ++
    statements 1 (.inl true) ++ statements 7 (.inr ()) ++ statements 2 (.inl false) ++
    statements 8 (.inl true) ++
    [.respond false, .respond true, .deliver true, .deliver false, .goOn false, .goOn true]

theorem views_bound_crossed :
    ∃ final, runSteps Net.step twoClients crossed = some final ∧
      (final.clients true).pc = .viewing .ok "0.0.0.0" 3003 ∧ ViewsBound clientAddress final := by
  have ends : (runSteps Net.step twoClients crossed).map (fun final => (final.clients true).pc) =
      some (.viewing .ok "0.0.0.0" 3003) := by decide
  obtain ⟨final, reached, viewing⟩ := Option.map_eq_some_iff.mp ends
  exact ⟨final, reached, viewing, (views_bound reached).1 (by decide)⟩

/-- The request of the second client is lost. -/
def requestLost : List (Label Bool Unit) := [.call true, .loseRequest true, .goOn true]

/-- The second call replies, the first advances the port, and then the second records; no call
fails. -/
def storedBetween : List (Label Bool Unit) :=
  [.call false, .call true, .arrive false, .arrive true] ++ statements 8 (.inl false) ++
    statements 2 (.inl true) ++ statements 1 (.inl false) ++ statements 7 (.inl true) ++
    [.respond true, .deliver true, .goOn true]

/-- **Viewers that no record backs**: one with an empty address and port zero, after a request that
is lost; and one whose record has another port, with no call that fails. -/
theorem views_unbound :
    (∃ final, runSteps Net.step twoClients requestLost = some final ∧
      (final.clients true).pc = .viewing .failed "" 0 ∧ ¬ ViewsBound clientAddress final) ∧
    (∀ label ∈ storedBetween, label.Succeeds) ∧
    ∃ final, runSteps Net.step twoClients storedBetween = some final ∧
      (final.clients true).pc = .viewing .ok "0.0.0.0" 3000 ∧
      final.server.shared.serviceTable.entries.map ServiceInfo.bindInfo =
        [⟨"0.0.0.0", "10.0.0.1", 3000⟩, ⟨"0.0.0.0", "10.0.0.2", 3003⟩] ∧
      ¬ ViewsBound clientAddress final := by
  refine ⟨?_, by decide, ?_⟩
  · have ends : (runSteps Net.step twoClients requestLost).map
        (fun final => (final.clients true).pc) = some (.viewing .failed "" 0) := by decide
    obtain ⟨final, reached, viewing⟩ := Option.map_eq_some_iff.mp ends
    refine ⟨final, reached, viewing, fun bound => ?_⟩
    cases (bound true .failed "" 0 viewing).1
  · have ends : (runSteps Net.step twoClients storedBetween).map
        (fun final => ((final.clients true).pc,
          final.server.shared.serviceTable.entries.map ServiceInfo.bindInfo)) =
        some (.viewing .ok "0.0.0.0" 3000,
          [⟨"0.0.0.0", "10.0.0.1", 3000⟩, ⟨"0.0.0.0", "10.0.0.2", 3003⟩]) := by decide
    obtain ⟨final, reached, same⟩ := Option.map_eq_some_iff.mp ends
    simp only [Prod.mk.injEq] at same
    obtain ⟨viewing, table⟩ := same
    refine ⟨final, reached, viewing, table, fun bound => ?_⟩
    obtain ⟨_, entry, member, own, _, recorded⟩ := bound true .ok "0.0.0.0" 3000 viewing
    have record : (entry.bindInfo : BindInfo) ∈
        [(⟨"0.0.0.0", "10.0.0.1", 3000⟩ : BindInfo), ⟨"0.0.0.0", "10.0.0.2", 3003⟩] := by
      rw [← table]
      exact List.mem_map_of_mem member
    simp only [List.mem_cons, List.not_mem_nil, or_false, ServiceInfo.bindInfo,
      BindInfo.mk.injEq] at record
    rw [own, recorded] at record
    rcases record with ⟨_, same, _⟩ | ⟨_, _, same⟩
    · exact absurd same (by decide)
    · exact absurd same (by decide)

end GstPipeline.Client
