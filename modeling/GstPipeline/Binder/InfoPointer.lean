/-
**Which record a streamer reads through `info`.**

A worker takes the address of a table entry (`streamer.info = &binder->service_table[i]`) and
`create_streamer` reads the client address and the port through it later, without the mutex. A
`push_back` at full capacity moves the table to a new buffer.

* `Served` runs any number of workers, statement by statement, with calls of `bind` that are one
  step each, and keeps the replies of the calls. A `bind` waits for the mutex.
* `ReadsClaimed`: the address and the port that every sender set-up gets are those of the reply to
  the client whose `bind` made the entry.
* `InPlace` says of a step: a `bind` that finds the table at full capacity is not taken while a
  worker is between taking the address and its last read through it.
* `reads_claimed_iff`: while every step meets it, `ReadsClaimed` holds; and a run that ends with no
  worker in between, and with `ReadsClaimed`, met it at every step.
* `reads_nothing`: two clients and one worker.
-/

import GstPipeline.Binder.Threads
import Mathlib.Data.Fin.VecNotation
import Mathlib.Data.Fintype.Basic

namespace GstPipeline.Binder

open GstPipeline.Lib

/-! ### Workers, and calls of `bind` in one step -/

/-- The workers and the server, with the replies sent. -/
structure Served (W : Type) where
  config : ServerConfig W
  replies : List BindInfo

/-- Whose step it is. -/
inductive Turn (W : Type)
  | worker (worker : W)
  | bind (inAddr : String)
  deriving DecidableEq

/-- A sender set-up gets the address and the port of the reply for its entry. -/
def OwnCall (replies : List BindInfo) (call : SenderCall) : Prop :=
  ∃ reply, replies[call.entry]? = some reply ∧
    call.receiverAddr = some reply.clientIp ∧ call.portBase = some reply.port

namespace Served

variable {W : Type}

/-- The server after a whole call of `bind`. -/
def afterBind (state : Served W) (inAddr : String) : Served W where
  config := ⟨{ state.config.shared with
    toServerBinder := (state.config.shared.bind inAddr).binder }, state.config.threads⟩
  replies := state.replies ++ [(state.config.shared.bind inAddr).bindInfo]

/-- A server just constructed, with its workers at the start of their loops. -/
def start (ip : String) (port now : Int) (growth : ℕ → ℕ) : Served W :=
  ⟨ServerConfig.start (.new ip port now growth) fun _ => .runStreamer, []⟩

/-- One statement of a worker, or one call of `bind`; a call needs the mutex. -/
def step [DecidableEq W] (state : Served W) : Turn W → Option (Served W)
  | .worker worker =>
    (serverStep state.config worker).map fun config => ⟨config, state.replies⟩
  | .bind inAddr =>
    match state.config.shared.serviceTableMutex with
    | none => some (state.afterBind inAddr)
    | some _ => none

/-- Every sender set-up gets its own reply. -/
def ReadsClaimed (state : Served W) : Prop :=
  ∀ call ∈ state.config.shared.senders, OwnCall state.replies call

end Served

/-- The address a worker still reads through. -/
def pointing : Thread → Option Address
  | .runStreamer (.callCreate _ info) => some info
  | .runStreamer (.create _ info .debugClientIp) => some info
  | .runStreamer (.create _ info .debugServerIp) => some info
  | .runStreamer (.create _ info .debugPort) => some info
  | .runStreamer (.create _ info .readClientIp) => some info
  | .runStreamer (.create _ info (.readPort _)) => some info
  | _ => none

/-- The arguments a worker has read and not yet passed on. -/
def readArguments : Thread → Option (Option String × Option Int)
  | .runStreamer (.create _ _ (.setup clientIp port)) => some (clientIp, port)
  | _ => none

/-- The table does not move while a worker points into it. -/
def InPlace {W : Type} (state : Served W) : Turn W → Prop
  | .bind _ => state.config.shared.serviceTable.Full →
      ∀ worker, pointing (state.config.threads worker) = none
  | .worker _ => True

instance {W : Type} [Fintype W] (state : Served W) (turn : Turn W) :
    Decidable (InPlace state turn) := by
  cases turn <;> unfold InPlace <;> infer_instance

/-- No worker is between taking an address and passing its arguments on. -/
def Served.Settled {W : Type} (state : Served W) : Prop :=
  ∀ worker, pointing (state.config.threads worker) = none ∧
    readArguments (state.config.threads worker) = none

instance {W : Type} [Fintype W] (state : Served W) : Decidable state.Settled :=
  inferInstanceAs (Decidable (∀ _, _ = _ ∧ _ = _))

/-! ### What a worker knows about its entry -/

/-- The place of a worker fits the table: its index is inside, its address is the entry's, and what
it read is the entry's reply. -/
def Sound (buffer : ℕ) (replies : List BindInfo) : Thread → Prop
  | .runStreamer (.unlockEarly i) => i < replies.length
  | .runStreamer (.setStatus i) => i < replies.length
  | .runStreamer (.takeInfo i) => i < replies.length
  | .runStreamer (.callCreate i info) => i < replies.length ∧ info = ⟨buffer, i⟩
  | .runStreamer (.create i info pc) =>
    i < replies.length ∧
      match pc with
      | .readPort clientIp => info = ⟨buffer, i⟩ ∧ clientIp = replies[i]?.map (·.clientIp)
      | .setup clientIp port =>
        clientIp = replies[i]?.map (·.clientIp) ∧ port = replies[i]?.map (·.port)
      | .run => True
      | _ => info = ⟨buffer, i⟩
  | _ => True

/-- The table holds the replies, and the set-ups got theirs. -/
structure Held {W : Type} (replies : List BindInfo) (shared : Shared W) : Prop where
  table : shared.serviceTable.entries.map ServiceInfo.bindInfo = replies
  senders : ∀ call ∈ shared.senders, OwnCall replies call

section Held

variable {W : Type} {replies : List BindInfo} {shared after : Shared W}

theorem Held.size (held : Held replies shared) : shared.serviceTable.entries.length = replies.length := by
  rw [← held.table, List.length_map]

/-- What an address in the current buffer reads. -/
theorem Held.deref (held : Held replies shared) (i : ℕ) :
    (shared.serviceTable.deref ⟨shared.serviceTable.buffer, i⟩).map (·.clientIp) =
        replies[i]?.map (·.clientIp) ∧
      (shared.serviceTable.deref ⟨shared.serviceTable.buffer, i⟩).map (·.port) =
        replies[i]?.map (·.port) := by
  rw [StdVector.deref_of_eq rfl, ← held.table, List.getElem?_map, Option.map_map, Option.map_map]
  exact ⟨rfl, rfl⟩

/-- An operation of a worker that sets nothing up leaves the table where it is. -/
theorem held_apply {worker : W} {operation : Operation} (held : Held replies shared)
    (applied : shared.apply worker operation = some after)
    (noPush : ∀ entry, operation ≠ .pushBack entry) (noSetup : ∀ call, operation ≠ .setupRtpSender call) :
    Held replies after := by
  obtain ⟨_, _, same⟩ := table_apply applied noPush
  refine ⟨same.trans held.table, ?_⟩
  have senders : after.senders = shared.senders := by
    cases operation with
    | setupRtpSender call => exact (noSetup call rfl).elim
    | lock =>
      obtain ⟨_, rfl⟩ := apply_lock applied
      rfl
    | _ =>
      cases applied
      rfl
  rw [senders]
  exact held.senders

/-- **One statement of a worker.** It stays sound, appends nothing, and sets up with its own reply. -/
theorem sound_move {pc : WorkerPc} {operation : Operation} {mine' : Thread}
    (held : Held replies shared) (sound : Sound shared.serviceTable.buffer replies (.runStreamer pc))
    (move : Move shared.toServerBinder (.runStreamer pc) operation mine') :
    Sound shared.serviceTable.buffer replies mine' ∧ (∃ pc', mine' = .runStreamer pc') ∧
      (∀ entry, operation ≠ .pushBack entry) ∧
      ∀ call, operation = .setupRtpSender call → OwnCall replies call := by
  have quiet : ∀ {operation : Operation}, (∀ call, operation ≠ .setupRtpSender call) →
      ∀ call, operation = .setupRtpSender call → OwnCall replies call :=
    fun none call same => (none call same).elim
  cases move with
  | @recheckFree i entry found free =>
    have inside : i < replies.length := held.size ▸ (List.getElem?_eq_some_iff.mp found).1
    exact ⟨inside, ⟨_, rfl⟩, by simp, quiet (by simp)⟩
  | unlockEarly => exact ⟨sound, ⟨_, rfl⟩, by simp, quiet (by simp)⟩
  | setStatus => exact ⟨sound, ⟨_, rfl⟩, by simp, quiet (by simp)⟩
  | takeInfo => exact ⟨⟨sound, rfl⟩, ⟨_, rfl⟩, by simp, quiet (by simp)⟩
  | callCreate => exact ⟨sound, ⟨_, rfl⟩, by simp, quiet (by simp)⟩
  | debugClientIp => exact ⟨sound, ⟨_, rfl⟩, by simp, quiet (by simp)⟩
  | debugServerIp => exact ⟨sound, ⟨_, rfl⟩, by simp, quiet (by simp)⟩
  | debugPort => exact ⟨sound, ⟨_, rfl⟩, by simp, quiet (by simp)⟩
  | @readClientIp i info =>
    obtain ⟨inside, place⟩ := sound
    have read := (held.deref i).1
    rw [← place] at read
    exact ⟨⟨inside, place, read⟩, ⟨_, rfl⟩, by simp, quiet (by simp)⟩
  | @readPort i info clientIp =>
    obtain ⟨inside, place, client⟩ := sound
    have read := (held.deref i).2
    rw [← place] at read
    exact ⟨⟨inside, client, read⟩, ⟨_, rfl⟩, by simp, quiet (by simp)⟩
  | @setup i info clientIp port =>
    obtain ⟨inside, client, port⟩ := sound
    refine ⟨⟨inside, trivial⟩, ⟨_, rfl⟩, by simp, fun call same => ?_⟩
    cases same
    rw [List.getElem?_eq_getElem inside] at client port
    exact ⟨replies[i], List.getElem?_eq_getElem inside, client, port⟩
  | _ => exact ⟨trivial, ⟨_, rfl⟩, by simp, quiet (by simp)⟩

theorem held_setup (worker : W) {call : SenderCall} (held : Held replies shared)
    (own : OwnCall replies call) (applied : shared.apply worker (.setupRtpSender call) = some after) :
    Held replies after := by
  cases applied
  refine ⟨held.table, fun other member => ?_⟩
  rcases List.mem_append.mp member with member | fresh
  · exact held.senders other member
  · exact List.mem_singleton.mp fresh ▸ own

theorem OwnCall.grow {call : SenderCall} (own : OwnCall replies call) (reply : BindInfo) :
    OwnCall (replies ++ [reply]) call := by
  obtain ⟨mine, found, read⟩ := own
  obtain ⟨inside, _⟩ := List.getElem?_eq_some_iff.mp found
  exact ⟨mine, (List.getElem?_append_left inside).trans found, read⟩

/-- A worker stays sound when a reply is added, unless the table moves while it points into it. -/
theorem sound_grow {buffer buffer' : ℕ} {mine : Thread} (sound : Sound buffer replies mine)
    (keeps : buffer' = buffer ∨ pointing mine = none) (reply : BindInfo) :
    Sound buffer' (replies ++ [reply]) mine := by
  have grown : ∀ {i : ℕ}, i < replies.length → i < (replies ++ [reply]).length := by
    intro i inside
    rw [List.length_append]
    omega
  have same : ∀ {i : ℕ}, i < replies.length → (replies ++ [reply])[i]? = replies[i]? :=
    fun inside => List.getElem?_append_left inside
  cases mine with
  | runStreamer pc =>
    cases pc with
    | unlockEarly i => exact grown sound
    | setStatus i => exact grown sound
    | takeInfo i => exact grown sound
    | callCreate i info =>
      obtain rfl := keeps.resolve_right (by simp [pointing])
      exact ⟨grown sound.1, sound.2⟩
    | create i info pc =>
      obtain ⟨inside, read⟩ := sound
      refine ⟨grown inside, ?_⟩
      cases pc with
      | setup clientIp port =>
        rw [same inside]
        exact read
      | run => exact trivial
      | readPort clientIp =>
        obtain rfl := keeps.resolve_right (by simp [pointing])
        rw [same inside]
        exact read
      | _ =>
        obtain rfl := keeps.resolve_right (by simp [pointing])
        exact read
    | _ => exact trivial
  | _ => exact trivial

end Held

/-! ### Runs -/

section Runs

variable {W : Type}

/-- What a run keeps while the table does not move under a worker. -/
structure Pointed (state : Served W) : Prop where
  held : Held state.replies state.config.shared
  workers : ∀ worker, (∃ pc, state.config.threads worker = .runStreamer pc) ∧
    Sound state.config.shared.serviceTable.buffer state.replies (state.config.threads worker)

theorem pointed_start (ip : String) (port now : Int) (growth : ℕ → ℕ) :
    Pointed (Served.start ip port now growth : Served W) where
  held := ⟨rfl, fun _ member => by cases member⟩
  workers _ := ⟨⟨_, rfl⟩, trivial⟩

variable [DecidableEq W] {state after : Served W} {turn : Turn W}

/-- **One step that leaves the table in place.** -/
theorem pointed_step (inv : Pointed state) (inPlace : InPlace state turn)
    (stepped : state.step turn = some after) : Pointed after := by
  cases turn with
  | worker worker =>
    obtain ⟨config, moved, rfl⟩ := Option.map_eq_some_iff.mp stepped
    have kept := perThread_step (G := Held state.replies)
      (P := fun _ shared mine => (∃ pc, mine = .runStreamer pc) ∧
        Sound shared.serviceTable.buffer state.replies mine)
      (fun worker shared mine operation mine' shared' held own chosen applied => by
        obtain ⟨⟨pc, rfl⟩, sound⟩ := own
        obtain ⟨sound', isWorker, noPush, setUp⟩ := sound_move held sound (move_of_next chosen)
        have place : shared'.serviceTable.buffer = shared.serviceTable.buffer :=
          (table_apply applied noPush).2.1
        refine ⟨?_, ⟨isWorker, place ▸ sound'⟩, fun _ _ _ theirs => ⟨theirs.1, place ▸ theirs.2⟩⟩
        by_cases setup : ∃ call, operation = .setupRtpSender call
        · obtain ⟨call, rfl⟩ := setup
          exact held_setup worker held (setUp call rfl) applied
        · push Not at setup
          exact held_apply held applied noPush setup)
      ⟨inv.held, inv.workers⟩ moved
    exact ⟨kept.1, kept.2⟩
  | bind inAddr =>
    simp only [Served.step] at stepped
    split at stepped <;> cases stepped
    have entries : (state.afterBind inAddr).config.shared.serviceTable.entries =
        state.config.shared.serviceTable.entries ++ [state.config.shared.newService inAddr] :=
      ServerBinder.entries_bind ..
    refine ⟨⟨?_, fun call member => (inv.held.senders call member).grow _⟩, fun worker => ?_⟩
    · rw [entries, List.map_append, inv.held.table]
      rfl
    · obtain ⟨isWorker, sound⟩ := inv.workers worker
      refine ⟨isWorker, sound_grow sound ?_ _⟩
      by_cases full : state.config.shared.serviceTable.Full
      · exact Or.inr (inPlace full worker)
      · exact Or.inl (StdVector.buffer_pushBack_of_room full _)

/-- The worker reads, has read or has passed on nothing. -/
def Lost (worker : W) (state : Served W) : Prop :=
  (∃ info, pointing (state.config.threads worker) = some info ∧
    info.buffer < state.config.shared.serviceTable.buffer) ∨
  (∃ clientIp, readArguments (state.config.threads worker) = some (clientIp, none)) ∨
  ∃ call ∈ state.config.shared.senders, call.portBase = none

omit [DecidableEq W] in
/-- A worker that points into a buffer the table has left reads nothing. -/
theorem lost_move {shared : Shared W} {mine mine' : Thread} {operation : Operation} {info : Address}
    (points : pointing mine = some info) (older : info.buffer < shared.serviceTable.buffer)
    (move : Move shared.toServerBinder mine operation mine') :
    pointing mine' = some info ∨ ∃ clientIp, readArguments mine' = some (clientIp, none) := by
  cases move with
  | callCreate => exact Or.inl points
  | debugClientIp => exact Or.inl points
  | debugServerIp => exact Or.inl points
  | debugPort => exact Or.inl points
  | readClientIp => exact Or.inl points
  | readPort =>
    cases points
    exact Or.inr ⟨_, by rw [StdVector.deref_of_lt older]; rfl⟩
  | _ => cases points

omit [DecidableEq W] in
/-- The arguments read are passed on as they are. -/
theorem pass_move {shared : Shared W} {mine mine' : Thread} {operation : Operation}
    {arguments : Option String × Option Int} (read : readArguments mine = some arguments)
    (move : Move shared.toServerBinder mine operation mine') :
    ∃ i, operation = .setupRtpSender ⟨i, arguments.1, arguments.2⟩ := by
  cases move with
  | setup =>
    cases read
    exact ⟨_, rfl⟩
  | _ => cases read

omit [DecidableEq W] in
/-- The table never comes back to a buffer, and no set-up is undone. -/
theorem later_apply {worker : W} {operation : Operation} {shared after : Shared W}
    (applied : shared.apply worker operation = some after) :
    shared.serviceTable.buffer ≤ after.serviceTable.buffer ∧
      ∀ call ∈ shared.senders, call ∈ after.senders := by
  cases operation with
  | pushBack entry =>
    cases applied
    exact ⟨StdVector.buffer_le_pushBack .., fun _ member => member⟩
  | setupRtpSender call =>
    cases applied
    exact ⟨Nat.le_refl _, fun _ member => List.mem_append_left _ member⟩
  | lock =>
    obtain ⟨_, rfl⟩ := apply_lock applied
    exact ⟨Nat.le_refl _, fun _ member => member⟩
  | _ =>
    cases applied
    exact ⟨Nat.le_refl _, fun _ member => member⟩

theorem lost_step {worker : W} (lost : Lost worker state) (stepped : state.step turn = some after) :
    Lost worker after := by
  cases turn with
  | worker moving =>
    obtain ⟨config, moved, rfl⟩ := Option.map_eq_some_iff.mp stepped
    obtain ⟨operation, mine', move, applied, mine, others⟩ := serverStep_cases moved
    obtain ⟨older, kept⟩ := later_apply applied
    rcases lost with ⟨info, points, behind⟩ | ⟨clientIp, read⟩ | ⟨call, member, missing⟩
    · by_cases here : worker = moving
      · subst here
        rcases lost_move points behind move with still | read
        · exact Or.inl ⟨info, by rw [mine, still], Nat.lt_of_lt_of_le behind older⟩
        · exact Or.inr (Or.inl (by rw [mine]; exact read))
      · refine Or.inl ⟨info, ?_, Nat.lt_of_lt_of_le behind older⟩
        rw [others worker here]
        exact points
    · by_cases here : worker = moving
      · subst here
        obtain ⟨i, rfl⟩ := pass_move read move
        refine Or.inr (Or.inr ⟨⟨i, clientIp, none⟩, ?_, rfl⟩)
        show _ ∈ config.shared.senders
        rw [← Option.some.inj applied]
        exact List.mem_append_right _ (List.mem_singleton_self _)
      · refine Or.inr (Or.inl ⟨clientIp, ?_⟩)
        rw [others worker here]
        exact read
    · exact Or.inr (Or.inr ⟨call, kept call member, missing⟩)
  | bind inAddr =>
    simp only [Served.step] at stepped
    split at stepped <;> cases stepped
    rcases lost with ⟨info, points, behind⟩ | read | missing
    · exact Or.inl ⟨info, points, Nat.lt_of_lt_of_le behind (StdVector.buffer_le_pushBack ..)⟩
    · exact Or.inr (Or.inl read)
    · exact Or.inr (Or.inr missing)

omit [DecidableEq W] in
/-- An address a sound worker points to is in the current buffer. -/
theorem current_of_pointing {buffer : ℕ} {replies : List BindInfo} {mine : Thread} {info : Address}
    (sound : Sound buffer replies mine) (points : pointing mine = some info) :
    info.buffer = buffer := by
  cases mine with
  | runStreamer pc =>
    cases pc with
    | callCreate i info =>
      cases points
      exact congrArg Address.buffer sound.2
    | create i info pc =>
      cases pc with
      | readPort clientIp =>
        cases points
        exact congrArg Address.buffer sound.2.1
      | setup clientIp port => cases points
      | run => cases points
      | _ =>
        cases points
        exact congrArg Address.buffer sound.2
    | _ => cases points
  | _ => cases points

/-- **A `bind` that moves the table under a worker.** -/
theorem lost_of_moved (inv : Pointed state) (moves : ¬ InPlace state turn)
    (stepped : state.step turn = some after) : ∃ worker, Lost worker after := by
  cases turn with
  | worker worker => exact (moves trivial).elim
  | bind inAddr =>
    unfold InPlace at moves
    push Not at moves
    obtain ⟨full, worker, points⟩ := moves
    obtain ⟨info, points⟩ := Option.ne_none_iff_exists'.mp points
    simp only [Served.step] at stepped
    split at stepped <;> cases stepped
    refine ⟨worker, Or.inl ⟨info, points, ?_⟩⟩
    have current := current_of_pointing (inv.workers worker).2 points
    have moved : (state.afterBind inAddr).config.shared.serviceTable.buffer =
        state.config.shared.serviceTable.buffer + 1 :=
      StdVector.buffer_pushBack_of_full full _
    rw [moved, current]
    exact Nat.lt_succ_self _

omit [DecidableEq W] in
theorem not_readsClaimed_of_lost {worker : W} (settled : state.Settled) (lost : Lost worker state) :
    ¬ state.ReadsClaimed := by
  intro reads
  obtain ⟨idle, passed⟩ := settled worker
  rcases lost with ⟨info, points, _⟩ | ⟨clientIp, read⟩ | ⟨call, member, missing⟩
  · cases idle.symm.trans points
  · cases passed.symm.trans read
  · obtain ⟨reply, _, _, port⟩ := reads call member
    cases missing.symm.trans port

variable {ip : String} {port now : Int} {growth : ℕ → ℕ} {turns : List (Turn W)} {final : Served W}

/-- **The streamer reads the record it claimed.** While the table is not moved under a worker, every
sender set-up gets the address and the port of the reply for its entry; and a run that ends with all
workers settled, and in which every set-up got these, moved the table under no worker. -/
theorem reads_claimed_iff
    (reached : runSteps Served.step (.start ip port now growth) turns = some final) :
    (Along Served.step InPlace (.start ip port now growth) turns → final.ReadsClaimed) ∧
    (final.Settled → final.ReadsClaimed →
      Along Served.step InPlace (.start ip port now growth) turns) := by
  have keeps : ∀ (state : Served W) turn next, Pointed state → InPlace state turn →
      Served.step state turn = some next → Pointed next :=
    fun _ _ _ inv inPlace stepped => pointed_step inv inPlace stepped
  have initially := pointed_start (W := W) ip port now growth
  refine ⟨fun inPlace => (run_invariant_along keeps reached inPlace initially).held.senders,
    fun settled reads => ?_⟩
  by_contra moved
  obtain ⟨worker, lost⟩ := flawed_of_not_along (F := fun state => ∃ worker, Lost worker state)
    reached moved initially keeps
    (fun _ _ _ inv moves stepped => lost_of_moved inv moves stepped)
    (fun _ _ _ ⟨worker, lost⟩ stepped => ⟨worker, lost_step lost stepped⟩)
  exact not_readsClaimed_of_lost settled lost reads

end Runs

/-! ### Two runs -/

/-- One worker activates the first entry; the second client binds before or after the activation. -/
def bindAfter : List (Turn Unit) :=
  [[.bind "10.0.0.1"], List.replicate 15 (.worker ()), [.bind "10.0.0.2"]].flatten

theorem reads_claimed_bindAfter :
    ∃ final, runSteps Served.step (.start "0.0.0.0" 3000 0 (2 * ·)) bindAfter = some final ∧
      final.ReadsClaimed ∧
      final.config.shared.senders = [⟨0, some "10.0.0.1", some 3000⟩] := by
  have ends : (runSteps Served.step (.start "0.0.0.0" 3000 0 (2 * ·)) bindAfter).map
      (fun final => final.config.shared.senders) = some [⟨0, some "10.0.0.1", some 3000⟩] := by
    decide
  obtain ⟨final, reached, same⟩ := Option.map_eq_some_iff.mp ends
  exact ⟨final, reached, (reads_claimed_iff reached).1 (by decide), same⟩

/-- The second client binds between the worker's taking the address and its reads through it. -/
def bindBetween : List (Turn Unit) :=
  [[.bind "10.0.0.1"], List.replicate 9 (.worker ()), [.bind "10.0.0.2"],
    List.replicate 6 (.worker ())].flatten

/-- **A sender set up with an address and a port that no entry has.** -/
theorem reads_nothing :
    ∃ final, runSteps Served.step (.start "0.0.0.0" 3000 0 (2 * ·)) bindBetween = some final ∧
      final.Settled ∧ ¬ final.ReadsClaimed := by
  have ends : (runSteps Served.step (.start "0.0.0.0" 3000 0 (2 * ·)) bindBetween).map
      (fun final => (final.config.shared.senders, decide final.Settled)) =
        some ([⟨0, none, none⟩], true) := by decide
  obtain ⟨final, reached, same⟩ := Option.map_eq_some_iff.mp ends
  simp only [Prod.mk.injEq] at same
  obtain ⟨senders, settled⟩ := same
  refine ⟨final, reached, of_decide_eq_true settled, fun reads => ?_⟩
  obtain ⟨reply, _, address, _⟩ := reads ⟨0, none, none⟩ (by rw [senders]; exact List.mem_cons_self)
  cases address

end GstPipeline.Binder
