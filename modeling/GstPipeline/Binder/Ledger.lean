/-
**Every activation has its stream, and every stream its own client.**

A worker writes `activated` to an entry and calls `create_streamer` two statements later; it is
*starting* the entry in between. Two workers can start one entry (`Activation`), but none is lost:

* `activated_iff_started`: in every state of every run an entry is `activated` if and only if
  `create_streamer` was called for it or a worker is starting it.
* `senders_own`: what `create_streamer` passes to `setup_rtp_sender_with_stream_session`, it has read
  from the entry it was called for, whatever happened to the table before or between its reads. A
  read through an address of an older buffer gives nothing, and never the address or the port of
  another client.
-/

import GstPipeline.Binder.Scan

namespace GstPipeline.Binder

open GstPipeline.Lib

/-! ### Activations and streams -/

/-- The entry that the worker has written `activated` to, and not called `create_streamer` for. -/
def starting : Thread → Option ℕ
  | .runStreamer (.takeInfo i) => some i
  | .runStreamer (.callCreate i _) => some i
  | _ => none

/-- What a move does to the start of its thread. -/
inductive StartMove (mine : Thread) : Operation → Thread → Prop
  | keep {operation : Operation} {mine' : Thread} (noWrite : ∀ i, operation ≠ .setActivated i)
      (noStart : ∀ i, operation ≠ .createStreamer i) (same : starting mine' = starting mine) :
      StartMove mine operation mine'
  | write {i : ℕ} {mine' : Thread} (visits : visiting mine = some i) (before : starting mine = none)
      (now : starting mine' = some i) : StartMove mine (.setActivated i) mine'
  | start {i : ℕ} {mine' : Thread} (before : starting mine = some i)
      (now : starting mine' = none) : StartMove mine (.createStreamer i) mine'

theorem startMove_of_move {binder : ServerBinder} {mine mine' : Thread} {operation : Operation}
    (move : Move binder mine operation mine') : StartMove mine operation mine' := by
  cases move with
  | setStatus => exact .write rfl rfl rfl
  | callCreate => exact .start rfl rfl
  | _ => exact .keep (fun _ same => by cases same) (fun _ same => by cases same) rfl

section Apply

variable {T : Type} {thread : T} {operation : Operation} {shared after : Shared T} {i : ℕ}

/-- Where an activation comes from, when the entries that are appended are not activated. -/
theorem activated_cases (applied : shared.apply thread operation = some after)
    (fresh : ∀ newService, operation = .pushBack newService → newService.status = .nonActivated)
    (activated : statusAt after.toServerBinder i = some .activated) :
    statusAt shared.toServerBinder i = some .activated ∨ operation = .setActivated i := by
  by_cases write : operation = .setActivated i
  · exact Or.inr write
  · refine Or.inl ?_
    cases operation with
    | lock =>
      obtain ⟨_, rfl⟩ := apply_lock applied
      exact activated
    | pushBack newService =>
      cases applied
      obtain ⟨entry, found, status⟩ := Option.map_eq_some_iff.mp activated
      rw [StdVector.entries_pushBack, List.getElem?_append] at found
      split at found
      · exact Option.map_eq_some_iff.mpr ⟨entry, found, status⟩
      · rw [List.mem_singleton.mp (List.mem_of_getElem? found), fresh _ rfl] at status
        cases status
    | setActivated j =>
      cases applied
      have other : j ≠ i := fun here => write (here ▸ rfl)
      simpa [statusAt, List.getElem?_modify, other] using activated
    | setLastSeen j timestamp =>
      cases applied
      simp only [statusAt, StdVector.entries_modifyAt, List.getElem?_modify] at activated ⊢
      by_cases here : j = i
      · simpa [here, Function.comp_def] using activated
      · simpa [here] using activated
    | _ =>
      cases applied
      exact activated

end Apply

section Runs

variable {T : Type}

/-- An entry is activated exactly when its stream was, or is being, started. -/
def LedgerKept (config : ServerConfig T) : Prop :=
  ∀ i, statusAt config.shared.toServerBinder i = some .activated ↔
    i ∈ config.shared.streams.map Prod.snd ∨ ∃ t, starting (config.threads t) = some i

variable [DecidableEq T]

/-- **One step.** -/
theorem ledger_step {config after : ServerConfig T} {thread : T} (kept : LedgerKept config)
    (knows : ∀ u, ScanKnows config.shared.toServerBinder (config.threads u))
    (stepped : serverStep config thread = some after) : LedgerKept after := by
  obtain ⟨operation, mine', move, applied, mine, others⟩ := serverStep_cases stepped
  have fresh : ∀ newService, operation = .pushBack newService →
      newService.status = .nonActivated := by
    rintro newService rfl
    exact (knows thread).fresh newService (appending_of_push move)
  intro i
  have cases' := fun activated => activated_cases (i := i) applied fresh activated
  cases startMove_of_move move with
  | keep noWrite noStart same =>
    have starts := reading_unchanged starting mine others same
    rw [streams_apply applied noStart]
    simp only [starts]
    rw [← kept i]
    exact ⟨fun activated => (cases' activated).resolve_right (noWrite i),
      fun activated => activated_apply applied activated⟩
  | @write j _ visits before now =>
    have streams : after.shared.streams = config.shared.streams :=
      streams_apply applied nofun
    rw [streams]
    constructor
    · intro activated
      rcases cases' activated with older | same
      · refine ((kept i).mp older).imp_right ?_
        rintro ⟨t, starts⟩
        refine ⟨t, ?_⟩
        have other : t ≠ thread := by
          rintro rfl
          cases before.symm.trans starts
        rwa [others t other]
      · cases same
        exact Or.inr ⟨thread, mine ▸ now⟩
    · rintro (streamed | ⟨t, starts⟩)
      · exact activated_apply applied ((kept i).mpr (Or.inl streamed))
      · rcases reading_after starting mine others starts with ⟨_, own⟩ | ⟨_, older⟩
        · cases now.symm.trans own
          obtain ⟨status, found⟩ := (knows thread).visits i visits
          exact statusAt_setActivated applied found
        · exact activated_apply applied ((kept i).mpr (Or.inr ⟨t, older⟩))
  | @start j _ before now =>
    obtain ⟨streams, binder⟩ := apply_createStreamer applied
    rw [streams, binder, kept i, List.map_append, List.mem_append, List.map_singleton,
      List.mem_singleton]
    constructor
    · rintro (streamed | ⟨t, starts⟩)
      · exact Or.inl (Or.inl streamed)
      · by_cases here : t = thread
        · cases (here ▸ starts).symm.trans before
          exact Or.inl (Or.inr rfl)
        · exact Or.inr ⟨t, (others t here).symm ▸ starts⟩
    · rintro ((streamed | rfl) | ⟨t, starts⟩)
      · exact Or.inl streamed
      · exact Or.inr ⟨thread, before⟩
      · rcases reading_after starting mine others starts with ⟨_, own⟩ | ⟨_, older⟩
        · cases now.symm.trans own
        · exact Or.inr ⟨t, older⟩

variable {ip : String} {port now : Int} {growth : ℕ → ℕ} {task : T → Task} {schedule : List T}
  {final : ServerConfig T}

/-- **No activation is lost, and no stream is started for an entry that is not activated.** -/
theorem activated_iff_started
    (reached : runSteps serverStep (ServerConfig.start (.new ip port now growth) task) schedule =
      some final) (i : ℕ) :
    statusAt final.shared.toServerBinder i = some .activated ↔
      i ∈ final.shared.streams.map Prod.snd ∨ ∃ t, starting (final.threads t) = some i := by
  have kept := run_invariant
    (I := fun config : ServerConfig T => (NoneToActivate config.shared.toServerBinder ∧
      ∀ u, ScanKnows config.shared.toServerBinder (config.threads u)) ∧ LedgerKept config)
    (fun _ _ _ inv stepped => ⟨scanning_step inv.1 stepped, ledger_step inv.2 inv.1.2 stepped⟩)
    reached ⟨⟨noneToActivate_new ip port now growth, fun u => scanKnows_start _ (task u)⟩, ?_⟩
  · exact kept.2 i
  · intro j
    constructor
    · intro activated
      simp [statusAt, ServerConfig.start, Shared.start] at activated
    · rintro (streamed | ⟨t, starts⟩)
      · cases streamed
      · have idle : starting ((task t).start) = none := by cases task t <;> rfl
        cases idle.symm.trans starts

end Runs

/-! ### What a stream reads -/

/-- The binding of the entry at an index. -/
def bindingAt (binder : ServerBinder) (i : ℕ) : Option BindInfo :=
  (binder.serviceTable.entries.map ServiceInfo.bindInfo)[i]?

/-- If an address was read, it is the client's of entry `i`. -/
def ClientOf (binder : ServerBinder) (i : ℕ) (clientIp : Option String) : Prop :=
  ∀ ip, clientIp = some ip → ∃ bindInfo, bindingAt binder i = some bindInfo ∧ bindInfo.clientIp = ip

/-- If a port was read, it is that of entry `i`. -/
def PortOf (binder : ServerBinder) (i : ℕ) (port : Option Int) : Prop :=
  ∀ p, port = some p → ∃ bindInfo, bindingAt binder i = some bindInfo ∧ bindInfo.port = p

/-- What a worker has in its hands belongs to the entry that it activated. -/
def ReadsOwn (binder : ServerBinder) : Thread → Prop
  | .runStreamer (.callCreate i info) => info.index = i
  | .runStreamer (.create i info (.readPort clientIp)) =>
    info.index = i ∧ ClientOf binder i clientIp
  | .runStreamer (.create i info (.setup clientIp port)) =>
    info.index = i ∧ ClientOf binder i clientIp ∧ PortOf binder i port
  | .runStreamer (.create i info _) => info.index = i
  | _ => True

/-- The sender set-ups belong to the entries they were made for. -/
def SendersOwn {T : Type} (shared : Shared T) : Prop :=
  ∀ call ∈ shared.senders, ClientOf shared.toServerBinder call.entry call.receiverAddr ∧
    PortOf shared.toServerBinder call.entry call.portBase

section Reads

variable {T : Type} {thread : T} {operation : Operation} {shared after : Shared T}
  {binder : ServerBinder} {i : ℕ}

/-- The binding of an entry never changes. -/
theorem bindingAt_apply {bindInfo : BindInfo}
    (applied : shared.apply thread operation = some after)
    (before : bindingAt shared.toServerBinder i = some bindInfo) :
    bindingAt after.toServerBinder i = some bindInfo := by
  by_cases push : ∃ newService, operation = .pushBack newService
  · obtain ⟨newService, rfl⟩ := push
    cases applied
    have inside := (List.getElem?_eq_some_iff.mp before).1
    unfold bindingAt
    rw [StdVector.entries_pushBack, List.map_append, List.getElem?_append_left inside]
    exact before
  · push Not at push
    unfold bindingAt
    rw [(table_apply applied push).2.2]
    exact before

theorem clientOf_apply {clientIp : Option String}
    (applied : shared.apply thread operation = some after)
    (own : ClientOf shared.toServerBinder i clientIp) : ClientOf after.toServerBinder i clientIp := by
  intro ip read
  obtain ⟨bindInfo, found, same⟩ := own ip read
  exact ⟨bindInfo, bindingAt_apply applied found, same⟩

theorem portOf_apply {port : Option Int} (applied : shared.apply thread operation = some after)
    (own : PortOf shared.toServerBinder i port) : PortOf after.toServerBinder i port := by
  intro p read
  obtain ⟨bindInfo, found, same⟩ := own p read
  exact ⟨bindInfo, bindingAt_apply applied found, same⟩

/-- What is read through an address is read from the entry at its index. -/
theorem bindingAt_of_deref {info : Address} {entry : ServiceInfo} (here : info.index = i)
    (read : binder.serviceTable.deref info = some entry) :
    bindingAt binder i = some entry.bindInfo := by
  unfold StdVector.deref at read
  split at read
  · unfold bindingAt
    rw [List.getElem?_map, ← here, read]
    rfl
  · cases read

theorem clientOf_deref {info : Address} (here : info.index = i) :
    ClientOf binder i ((binder.serviceTable.deref info).map (·.clientIp)) := by
  intro ip read
  obtain ⟨entry, found, same⟩ := Option.map_eq_some_iff.mp read
  exact ⟨entry.bindInfo, bindingAt_of_deref here found, same⟩

theorem portOf_deref {info : Address} (here : info.index = i) :
    PortOf binder i ((binder.serviceTable.deref info).map (·.port)) := by
  intro p read
  obtain ⟨entry, found, same⟩ := Option.map_eq_some_iff.mp read
  exact ⟨entry.bindInfo, bindingAt_of_deref here found, same⟩

/-- No step of another thread changes what a worker has read. -/
theorem readsOwn_stable {theirs : Thread} (own : ReadsOwn shared.toServerBinder theirs)
    (applied : shared.apply thread operation = some after) :
    ReadsOwn after.toServerBinder theirs := by
  cases theirs with
  | runStreamer pc =>
    cases pc with
    | create i info pc =>
      cases pc with
      | readPort clientIp => exact ⟨own.1, clientOf_apply applied own.2⟩
      | setup clientIp port =>
        exact ⟨own.1, clientOf_apply applied own.2.1, portOf_apply applied own.2.2⟩
      | _ => exact own
    | callCreate i info => exact own
    | _ => trivial
  | _ => trivial

theorem readsOwn_move {mine mine' : Thread} (own : ReadsOwn shared.toServerBinder mine)
    (move : Move shared.toServerBinder mine operation mine')
    (applied : shared.apply thread operation = some after) :
    ReadsOwn after.toServerBinder mine' := by
  cases move with
  | takeInfo => rfl
  | callCreate => exact own
  | debugClientIp => exact own
  | debugServerIp => exact own
  | debugPort => exact own
  | readClientIp => exact ⟨own, clientOf_apply applied (clientOf_deref own)⟩
  | readPort =>
    exact ⟨own.1, clientOf_apply applied own.2, portOf_apply applied (portOf_deref own.1)⟩
  | setup => exact own.1
  | _ => trivial

theorem senders_apply (applied : shared.apply thread operation = some after)
    (noSetup : ∀ call, operation ≠ .setupRtpSender call) : after.senders = shared.senders := by
  cases operation with
  | setupRtpSender call => exact (noSetup call rfl).elim
  | lock =>
    obtain ⟨_, rfl⟩ := apply_lock applied
    rfl
  | _ =>
    cases applied
    rfl

theorem sendersOwn_move {mine mine' : Thread} (senders : SendersOwn shared)
    (own : ReadsOwn shared.toServerBinder mine)
    (move : Move shared.toServerBinder mine operation mine')
    (applied : shared.apply thread operation = some after) : SendersOwn after := by
  intro call member
  have older : call ∈ shared.senders → ClientOf after.toServerBinder call.entry call.receiverAddr ∧
      PortOf after.toServerBinder call.entry call.portBase := fun member =>
    ⟨clientOf_apply applied (senders call member).1, portOf_apply applied (senders call member).2⟩
  by_cases setup : ∃ call, operation = .setupRtpSender call
  · obtain ⟨other, rfl⟩ := setup
    have grown : after.senders = shared.senders ++ [other] :=
      congrArg (·.senders) (Option.some.inj applied).symm
    rw [grown, List.mem_append, List.mem_singleton] at member
    rcases member with member | rfl
    · exact older member
    · cases move with
      | setup => exact ⟨clientOf_apply applied own.2.1, portOf_apply applied own.2.2⟩
  · push Not at setup
    rw [senders_apply applied setup] at member
    exact older member

variable [DecidableEq T] {task : T → Task} {schedule : List T} {final : ServerConfig T}

/-- **A stream is sent to the client it was activated for, or nowhere.** In every state of every run,
an address that a sender set-up got is the client's of its entry, and a port is that of its entry. -/
theorem senders_own
    (reached : runSteps serverStep (ServerConfig.start binder task) schedule = some final) :
    ∀ call ∈ final.shared.senders,
      (∀ ip, call.receiverAddr = some ip → ∃ bindInfo,
        bindingAt final.shared.toServerBinder call.entry = some bindInfo ∧
          bindInfo.clientIp = ip) ∧
      ∀ p, call.portBase = some p → ∃ bindInfo,
        bindingAt final.shared.toServerBinder call.entry = some bindInfo ∧ bindInfo.port = p := by
  have inv := run_invariant
    (I := fun config : ServerConfig T => SendersOwn config.shared ∧
      ∀ u, ReadsOwn config.shared.toServerBinder (config.threads u))
    (fun _ _ _ inv stepped => perThread_step (G := SendersOwn)
      (P := fun _ shared mine => ReadsOwn shared.toServerBinder mine)
      (fun _ _ _ _ _ _ senders own chosen applied =>
        ⟨sendersOwn_move senders own (move_of_next chosen) applied,
          readsOwn_move own (move_of_next chosen) applied,
          fun _ _ _ theirs => readsOwn_stable theirs applied⟩) inv stepped)
    reached ⟨nofun, fun u => ?_⟩
  · exact inv.1
  · show ReadsOwn _ (task u).start
    cases task u <;> trivial

end Reads

/-! ### One client and one worker -/

/-- A call of `bind`, and a worker. -/
def clientAndWorker : Bool → Task
  | false => .bind "10.0.0.1"
  | true => .runStreamer

/-- The call runs to its end, and then the worker, to the sender set-up. -/
def senderOnce : List Bool := List.replicate 9 false ++ List.replicate 15 true

theorem activated_iff_started_senderOnce :
    ∃ final, runSteps serverStep
        (ServerConfig.start (.new "0.0.0.0" 3000 0 (2 * ·)) clientAndWorker) senderOnce =
          some final ∧
      final.shared.streams = [(true, 0)] ∧
      statusAt final.shared.toServerBinder 0 = some .activated := by
  have ends : (runSteps serverStep
      (ServerConfig.start (.new "0.0.0.0" 3000 0 (2 * ·)) clientAndWorker) senderOnce).map
        (fun final => final.shared.streams) = some [(true, 0)] := by decide
  obtain ⟨final, reached, streams⟩ := Option.map_eq_some_iff.mp ends
  refine ⟨final, reached, streams, (activated_iff_started reached 0).mpr (Or.inl ?_)⟩
  rw [streams]
  exact List.mem_singleton_self 0

theorem senders_own_senderOnce :
    ∃ final, runSteps serverStep
        (ServerConfig.start (.new "0.0.0.0" 3000 0 (2 * ·)) clientAndWorker) senderOnce =
          some final ∧
      final.shared.senders = [⟨0, some "10.0.0.1", some 3000⟩] ∧
      ∃ bindInfo, bindingAt final.shared.toServerBinder 0 = some bindInfo ∧
        bindInfo.clientIp = "10.0.0.1" := by
  have ends : (runSteps serverStep
      (ServerConfig.start (.new "0.0.0.0" 3000 0 (2 * ·)) clientAndWorker) senderOnce).map
        (fun final => final.shared.senders) = some [⟨0, some "10.0.0.1", some 3000⟩] := by decide
  obtain ⟨final, reached, senders⟩ := Option.map_eq_some_iff.mp ends
  refine ⟨final, reached, senders, ?_⟩
  exact (senders_own reached _ (senders ▸ List.mem_singleton_self _)).1 "10.0.0.1" rfl

end GstPipeline.Binder
