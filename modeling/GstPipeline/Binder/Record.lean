/-
**Whether the record of a `bind` call says what its reply says.**

A call reads `port_base` for its reply and again for its record, and other calls may write it in
between.

* A call is *recording* between the two reads, it *carries* its record until the `push_back`, and
  has *appended* it from there on. `recordsOf` reads the bindings a call appended off the table.
* `StoreClear` says of a step: a write of `port_base` that changes it is not made while a call is
  recording.
* `records_agree`: while every step meets it, each call that has returned appended exactly one
  record, and its addresses and its port are those of the call's reply. The first step that does
  not meet it is made between the two reads of a call that, if it reads next, can return, and always
  does so with a reply its record contradicts.
* `record_differs`: a call whose client listens on one port and whose streamer sends to another.
-/

import GstPipeline.Binder.PortGrant
import GstPipeline.Binder.Progress

namespace GstPipeline.Binder

open GstPipeline.Lib

/-! ### The way of a record -/

/-- The address and the reply of a call that has read the port for its reply only. -/
def recording : Thread → Option (String × BindInfo)
  | .bind inAddr (.setRecord bindInfo) => some (inAddr, bindInfo)
  | _ => none

/-- The reply and the record of a call that has not appended its record. -/
def carrying : Thread → Option (BindInfo × BindInfo)
  | .bind _ (.setLastSeen bindInfo newService) => some (bindInfo, newService.bindInfo)
  | .bind _ (.lock bindInfo newService) => some (bindInfo, newService.bindInfo)
  | .bind _ (.push bindInfo newService) => some (bindInfo, newService.bindInfo)
  | _ => none

/-- The reply of a call that has appended its record. -/
def appended : Thread → Option BindInfo
  | .bind _ (.unlock bindInfo) => some bindInfo
  | .bind _ (.loadPort bindInfo) => some bindInfo
  | .bind _ (.storePort bindInfo _) => some bindInfo
  | .bind _ (.returned bindInfo) => some bindInfo
  | _ => none

theorem appended_of_granted {thread : Thread} {bindInfo : BindInfo}
    (returned : granted thread = some bindInfo) : appended thread = some bindInfo := by
  cases thread with
  | bind inAddr pc =>
    cases pc with
    | returned bindInfo => exact returned
    | _ => cases returned
  | _ => cases returned

theorem place_of_recording {thread : Thread} {inAddr : String} {bindInfo : BindInfo}
    (between : recording thread = some (inAddr, bindInfo)) :
    thread = .bind inAddr (.setRecord bindInfo) := by
  cases thread with
  | bind ownAddr pc =>
    cases pc with
    | setRecord own =>
      cases between
      rfl
    | _ => cases between
  | _ => cases between

theorem place_of_loaded {thread : Thread} {port : Int} (read : loaded thread = some port) :
    ∃ inAddr bindInfo, thread = .bind inAddr (.storePort bindInfo port) := by
  cases thread with
  | bind inAddr pc =>
    cases pc with
    | storePort bindInfo own =>
      cases read
      exact ⟨inAddr, bindInfo, rfl⟩
    | _ => cases read
  | _ => cases read

theorem carrying_of_appended {thread : Thread} {bindInfo : BindInfo}
    (pushed : appended thread = some bindInfo) : carrying thread = none := by
  cases thread with
  | bind inAddr pc => cases pc <;> first | rfl | cases pushed
  | _ => rfl

/-- What a move does to the record of its thread. -/
inductive RecordMove (binder : ServerBinder) (mine : Thread) : Operation → Thread → Prop
  | keep {operation : Operation} {mine' : Thread} (noPush : ∀ entry, operation ≠ .pushBack entry)
      (noStore : ∀ port, operation ≠ .storePortBase port)
      (sameRecording : recording mine' = recording mine)
      (sameCarrying : carrying mine' = carrying mine) (sameAppended : appended mine' = appended mine) :
      RecordMove binder mine operation mine'
  | reply {inAddr : String} {mine' : Thread} (carriesNot : carrying mine' = none)
      (carriesNotBefore : carrying mine = none) (before : appended mine = none)
      (now : recording mine' = some (inAddr, binder.reply inAddr))
      (appendedNot : appended mine' = none) : RecordMove binder mine .read mine'
  | record {inAddr : String} {bindInfo : BindInfo} {mine' : Thread}
      (before : recording mine = some (inAddr, bindInfo)) (appendedNot : appended mine = none)
      (carriesNotBefore : carrying mine = none)
      (now : carrying mine' = some (bindInfo, binder.reply inAddr))
      (recordsNot : recording mine' = none) (appendedNotNow : appended mine' = none) :
      RecordMove binder mine .read mine'
  | push {bindInfo : BindInfo} {newService : ServiceInfo} {mine' : Thread}
      (before : carrying mine = some (bindInfo, newService.bindInfo)) (fresh : appended mine = none)
      (now : appended mine' = some bindInfo) (recordsNot : recording mine' = none)
      (carriesNot : carrying mine' = none) : RecordMove binder mine (.pushBack newService) mine'
  | store {port : Int} {mine' : Thread} (read : loaded mine = some port)
      (recordsNot : recording mine' = none) (carriesNot : carrying mine' = none)
      (carriesNotBefore : carrying mine = none) (sameAppended : appended mine' = appended mine) :
      RecordMove binder mine (.storePortBase (port + 3)) mine'

theorem recordMove_of_move {binder : ServerBinder} {mine mine' : Thread} {operation : Operation}
    (move : Move binder mine operation mine') : RecordMove binder mine operation mine' := by
  cases move with
  | bindReply => exact .reply rfl rfl rfl rfl rfl
  | bindRecord => exact .record rfl rfl rfl rfl rfl rfl
  | bindPush => exact .push rfl rfl rfl rfl rfl
  | bindStore => exact .store rfl rfl rfl rfl rfl
  | _ => exact .keep (fun _ same => by cases same) (fun _ same => by cases same) rfl rfl rfl

/-! ### The records in the table -/

section Table

variable {T : Type}

/-- The bindings in the table, each with the call that appended it. -/
def Shared.records (shared : Shared T) : List (T × BindInfo) :=
  shared.appendedBy.zip (shared.serviceTable.entries.map ServiceInfo.bindInfo)

/-- The bindings one call appended. -/
def Shared.recordsOf [DecidableEq T] (shared : Shared T) (thread : T) : List BindInfo :=
  (shared.records.filter fun record => record.1 = thread).map Prod.snd

/-- The history of the appends is as long as the table. -/
def Shared.Parallel (shared : Shared T) : Prop :=
  shared.appendedBy.length = shared.serviceTable.entries.length

variable {thread : T} {operation : Operation} {shared after : Shared T}

theorem records_apply (applied : shared.apply thread operation = some after)
    (noPush : ∀ entry, operation ≠ .pushBack entry) : after.records = shared.records := by
  obtain ⟨sameHistory, _, sameTable⟩ := table_apply applied noPush
  unfold Shared.records
  rw [sameHistory, sameTable]

theorem records_push {newService : ServiceInfo} (parallel : shared.Parallel)
    (applied : shared.apply thread (.pushBack newService) = some after) :
    after.records = shared.records ++ [(thread, newService.bindInfo)] := by
  cases applied
  unfold Shared.records
  rw [StdVector.entries_pushBack, List.map_append,
    List.zip_append (parallel.trans (List.length_map ..).symm)]
  rfl

theorem parallel_apply (parallel : shared.Parallel)
    (applied : shared.apply thread operation = some after) : after.Parallel := by
  by_cases push : ∃ entry, operation = .pushBack entry
  · obtain ⟨entry, rfl⟩ := push
    cases applied
    simpa [Shared.Parallel] using parallel
  · push Not at push
    obtain ⟨sameHistory, _, sameTable⟩ := table_apply applied push
    unfold Shared.Parallel at parallel ⊢
    rw [sameHistory, parallel]
    simpa using (congrArg List.length sameTable).symm

variable [DecidableEq T]

theorem recordsOf_push {newService : ServiceInfo} {owner : T} (parallel : shared.Parallel)
    (applied : shared.apply thread (.pushBack newService) = some after) :
    after.recordsOf owner =
      if owner = thread then shared.recordsOf owner ++ [newService.bindInfo]
      else shared.recordsOf owner := by
  unfold Shared.recordsOf
  rw [records_push parallel applied, List.filter_append, List.map_append]
  by_cases here : owner = thread
  · simp [here]
  · simp [here, Ne.symm here]

theorem recordsOf_apply {owner : T} (applied : shared.apply thread operation = some after)
    (noPush : ∀ entry, operation ≠ .pushBack entry) :
    after.recordsOf owner = shared.recordsOf owner := by
  unfold Shared.recordsOf
  rw [records_apply applied noPush]

end Table

/-! ### Runs -/

section Runs

variable {T : Type}

/-- If the thread's next step changes `port_base`, no call is between its two reads. -/
def StoreClear (config : ServerConfig T) (thread : T) : Prop :=
  ∀ port ∈ loaded (config.threads thread), port + 3 ≠ config.shared.portBase →
    ∀ other, recording (config.threads other) = none

instance [Fintype T] (config : ServerConfig T) (thread : T) : Decidable (StoreClear config thread) :=
  inferInstanceAs (Decidable (∀ _ ∈ _, _ → ∀ _, _ = _))

variable [DecidableEq T]

/-- Every returned call appended one record, and it says what the reply says. -/
def RecordsAgree (config : ServerConfig T) : Prop :=
  ∀ thread bindInfo, granted (config.threads thread) = some bindInfo →
    config.shared.recordsOf thread = [bindInfo]

/-- What a run keeps while its stores are clear. -/
structure RecordsKept (config : ServerConfig T) : Prop where
  parallel : config.shared.Parallel
  current : ∀ t inAddr a, recording (config.threads t) = some (inAddr, a) →
    a = config.shared.reply inAddr
  same : ∀ t a record, carrying (config.threads t) = some (a, record) → record = a
  unrecorded : ∀ t, appended (config.threads t) = none → config.shared.recordsOf t = []
  recorded : ∀ t a, appended (config.threads t) = some a → config.shared.recordsOf t = [a]

theorem start_recordFree (task : Task) :
    recording task.start = none ∧ carrying task.start = none ∧ appended task.start = none := by
  cases task <;> exact ⟨rfl, rfl, rfl⟩

theorem recordsKept_start (ip : String) (port now : Int) (growth : ℕ → ℕ) (task : T → Task) :
    RecordsKept (ServerConfig.start (.new ip port now growth) task) where
  parallel := rfl
  current t inAddr a claimed := by cases (start_recordFree (task t)).1.symm.trans claimed
  same t a record claimed := by cases (start_recordFree (task t)).2.1.symm.trans claimed
  unrecorded _ _ := rfl
  recorded t a claimed := by cases (start_recordFree (task t)).2.2.symm.trans claimed

omit [DecidableEq T] in
/-- Only a write of `port_base` changes what a call replies and records. -/
theorem reply_apply {thread : T} {operation : Operation} {shared after : Shared T}
    (applied : shared.apply thread operation = some after)
    (noStore : ∀ port, operation ≠ .storePortBase port) (inAddr : String) :
    after.reply inAddr = shared.reply inAddr := by
  unfold ServerBinder.reply
  rw [serverIp_apply applied, portBase_apply applied noStore]

/-- A step that appends nothing to the table. -/
theorem recordsKept_quiet {config after : ServerConfig T} {thread : T} {operation : Operation}
    (inv : RecordsKept config) (applied : config.shared.apply thread operation = some after.shared)
    (noPush : ∀ entry, operation ≠ .pushBack entry)
    (appendeds : ∀ u, appended (after.threads u) = appended (config.threads u))
    (current : ∀ t inAddr a, recording (after.threads t) = some (inAddr, a) →
      a = after.shared.reply inAddr)
    (same : ∀ t a record, carrying (after.threads t) = some (a, record) → record = a) :
    RecordsKept after where
  parallel := parallel_apply inv.parallel applied
  current := current
  same := same
  unrecorded t fresh := by
    rw [appendeds] at fresh
    rw [recordsOf_apply applied noPush]
    exact inv.unrecorded t fresh
  recorded t a pushed := by
    rw [appendeds] at pushed
    rw [recordsOf_apply applied noPush]
    exact inv.recorded t a pushed

/-- A step after which its call has no reply, and that does not write `port_base`. -/
theorem current_other {config after : ServerConfig T} {thread : T} {operation : Operation}
    {mine' : Thread} (inv : RecordsKept config)
    (applied : config.shared.apply thread operation = some after.shared)
    (noStore : ∀ port, operation ≠ .storePortBase port) (mine : after.threads thread = mine')
    (others : ∀ u, u ≠ thread → after.threads u = config.threads u)
    (recordsNot : recording mine' = none) :
    ∀ t inAddr a, recording (after.threads t) = some (inAddr, a) →
      a = after.shared.reply inAddr := by
  intro t inAddr a claimed
  rw [reply_apply applied noStore]
  rcases reading_after recording mine others claimed with ⟨_, own⟩ | ⟨_, older⟩
  · cases recordsNot.symm.trans own
  · exact inv.current t inAddr a older

/-- A step after which its call carries no record. -/
theorem same_other {config after : ServerConfig T} {thread : T} {mine' : Thread}
    (inv : RecordsKept config) (mine : after.threads thread = mine')
    (others : ∀ u, u ≠ thread → after.threads u = config.threads u)
    (carriesNot : carrying mine' = none) :
    ∀ t a record, carrying (after.threads t) = some (a, record) → record = a := by
  intro t a record claimed
  rcases reading_after carrying mine others claimed with ⟨_, own⟩ | ⟨_, older⟩
  · cases carriesNot.symm.trans own
  · exact inv.same t a record older

/-- **One clear step.** -/
theorem recordsKept_step {config after : ServerConfig T} {thread : T} (inv : RecordsKept config)
    (clear : StoreClear config thread) (stepped : serverStep config thread = some after) :
    RecordsKept after := by
  obtain ⟨operation, mine', move, applied, mine, others⟩ := serverStep_cases stepped
  cases recordMove_of_move move with
  | keep noPush noStore sameRecording sameCarrying sameAppended =>
    have recordings := reading_unchanged recording mine others sameRecording
    have carryings := reading_unchanged carrying mine others sameCarrying
    refine recordsKept_quiet inv applied noPush
      (reading_unchanged appended mine others sameAppended) ?_ ?_
    · intro t inAddr a claimed
      rw [recordings] at claimed
      rw [reply_apply applied noStore]
      exact inv.current t inAddr a claimed
    · intro t a record claimed
      rw [carryings] at claimed
      exact inv.same t a record claimed
  | @reply ownAddr _ carriesNot carriesNotBefore before now appendedNot =>
    refine recordsKept_quiet inv applied (fun _ push => by cases push)
      (reading_unchanged appended mine others (appendedNot.trans before.symm)) ?_ ?_
    · intro t inAddr a claimed
      rw [reply_apply applied fun _ store => by cases store]
      rcases reading_after recording mine others claimed with ⟨_, own⟩ | ⟨_, older⟩
      · cases now.symm.trans own
        rfl
      · exact inv.current t inAddr a older
    · exact same_other inv mine others carriesNot
  | @record ownAddr bindInfo _ before appendedNot carriesNotBefore now recordsNot appendedNotNow =>
    refine recordsKept_quiet inv applied (fun _ push => by cases push)
      (reading_unchanged appended mine others (appendedNotNow.trans appendedNot.symm)) ?_ ?_
    · exact current_other inv applied (fun _ store => by cases store) mine others recordsNot
    · intro t a record claimed
      rcases reading_after carrying mine others claimed with ⟨_, own⟩ | ⟨_, older⟩
      · -- the reply was read from the same `port_base`
        cases now.symm.trans own
        exact (inv.current thread ownAddr bindInfo before).symm
      · exact inv.same t a record older
  | @push bindInfo newService _ before fresh now recordsNot carriesNot =>
    have agrees : newService.bindInfo = bindInfo := inv.same thread bindInfo _ before
    refine ⟨parallel_apply inv.parallel applied, ?_, ?_, ?_, ?_⟩
    · exact current_other inv applied (fun _ store => by cases store) mine others recordsNot
    · exact same_other inv mine others carriesNot
    · intro t free
      rcases reading_after appended mine others free with ⟨_, own⟩ | ⟨other, older⟩
      · cases now.symm.trans own
      · rw [recordsOf_push inv.parallel applied, if_neg other]
        exact inv.unrecorded t older
    · intro t a pushed
      rw [recordsOf_push inv.parallel applied]
      rcases reading_after appended mine others pushed with ⟨here, own⟩ | ⟨other, older⟩
      · cases now.symm.trans own
        rw [if_pos here, here, inv.unrecorded thread fresh, agrees]
        rfl
      · rw [if_neg other]
        exact inv.recorded t a older
  | @store port _ read recordsNot carriesNot carriesNotBefore sameAppended =>
    have carryings := reading_unchanged carrying mine others (carriesNot.trans carriesNotBefore.symm)
    refine recordsKept_quiet inv applied (fun _ push => by cases push)
      (reading_unchanged appended mine others sameAppended) ?_ ?_
    · intro t inAddr a claimed
      rcases reading_after recording mine others claimed with ⟨_, own⟩ | ⟨_, older⟩
      · cases recordsNot.symm.trans own
      · -- a call is recording, so a clear store writes what `port_base` had
        by_cases changes : port + 3 = config.shared.portBase
        · have same : after.shared.reply inAddr = config.shared.reply inAddr := by
            unfold ServerBinder.reply
            rw [serverIp_apply applied, portBase_store applied, changes]
          rw [same]
          exact inv.current t inAddr a older
        · cases (clear port read changes t).symm.trans older
    · intro t a record claimed
      rw [carryings] at claimed
      exact inv.same t a record claimed

/-- The call has, or has appended, a record that its reply contradicts. -/
def Contradicted (config : ServerConfig T) (thread : T) : Prop :=
  ∃ a record, record ≠ a ∧ (carrying (config.threads thread) = some (a, record) ∨
    appended (config.threads thread) = some a ∧ record ∈ config.shared.recordsOf thread)

/-- A contradicted call stays so. -/
theorem contradicted_step {config after : ServerConfig T} {thread owner : T}
    (parallel : config.shared.Parallel) (wrong : Contradicted config owner)
    (stepped : serverStep config thread = some after) : Contradicted after owner := by
  obtain ⟨operation, mine', move, applied, mine, others⟩ := serverStep_cases stepped
  obtain ⟨a, record, differs, here⟩ := wrong
  have grows : ∀ r ∈ config.shared.recordsOf owner, r ∈ after.shared.recordsOf owner := by
    intro r member
    by_cases push : ∃ entry, operation = .pushBack entry
    · obtain ⟨entry, rfl⟩ := push
      rw [recordsOf_push parallel applied]
      split
      · exact List.mem_append_left _ member
      · exact member
    · push Not at push
      rw [recordsOf_apply applied push]
      exact member
  refine ⟨a, record, differs, ?_⟩
  by_cases own : owner = thread
  · subst own
    rw [mine]
    cases recordMove_of_move move with
    | keep noPush noStore sameRecording sameCarrying sameAppended =>
      rw [sameCarrying, sameAppended]
      exact here.imp id fun both => ⟨both.1, grows record both.2⟩
    | reply carriesNot carriesNotBefore before now appendedNot =>
      rw [carriesNotBefore, before] at here
      rcases here with claimed | ⟨claimed, _⟩ <;> cases claimed
    | record before appendedNot carriesNotBefore now recordsNot appendedNotNow =>
      rw [carriesNotBefore, appendedNot] at here
      rcases here with claimed | ⟨claimed, _⟩ <;> cases claimed
    | @push bindInfo newService _ before fresh now recordsNot carriesNot =>
      rw [before, fresh] at here
      rcases here with claimed | ⟨claimed, _⟩
      · cases claimed
        refine Or.inr ⟨now, ?_⟩
        rw [recordsOf_push parallel applied, if_pos rfl]
        exact List.mem_append_right _ (List.mem_singleton_self _)
      · cases claimed
    | store read recordsNot carriesNot carriesNotBefore sameAppended =>
      rw [carriesNotBefore] at here
      rcases here with claimed | both
      · cases claimed
      · exact Or.inr ⟨sameAppended.trans both.1, grows record both.2⟩
  · rw [others owner own]
    exact here.imp id fun both => ⟨both.1, grows record both.2⟩

theorem not_agree_of_contradicted {config : ServerConfig T} {thread : T}
    (wrong : Contradicted config thread) (returned : (granted (config.threads thread)).isSome) :
    ¬ RecordsAgree config := by
  intro agree
  obtain ⟨bindInfo, reply⟩ := Option.isSome_iff_exists.mp returned
  have pushed := appended_of_granted reply
  obtain ⟨a, record, differs, carries | ⟨claimed, member⟩⟩ := wrong
  · cases (carrying_of_appended pushed).symm.trans carries
  · rw [agree thread bindInfo reply, List.mem_singleton] at member
    have same : bindInfo = a := Option.some.inj (pushed.symm.trans claimed)
    exact differs (member.trans same)

theorem parallel_step {config after : ServerConfig T} {thread : T} (parallel : config.shared.Parallel)
    (stepped : serverStep config thread = some after) : after.shared.Parallel := by
  obtain ⟨_, _, _, applied, _, _⟩ := serverStep_cases stepped
  exact parallel_apply parallel applied

/-- Once the contradicted call has returned, its reply and its record differ. -/
theorem not_agree_run {config ended : ServerConfig T} {owner : T} {later : List T}
    (parallel : config.shared.Parallel) (wrong : Contradicted config owner)
    (ends : runSteps serverStep config later = some ended)
    (returned : (granted (ended.threads owner)).isSome) : ¬ RecordsAgree ended := by
  have both : ended.shared.Parallel ∧ Contradicted ended owner := run_invariant
    (I := fun config => config.shared.Parallel ∧ Contradicted config owner)
    (fun _ _ _ both stepped =>
      ⟨parallel_step both.1 stepped, contradicted_step both.1 both.2 stepped⟩)
    ends ⟨parallel, wrong⟩
  exact not_agree_of_contradicted both.2 returned

/-- **A changing write between the two reads of a call.** That call can read next, and then its record
contradicts its reply. -/
theorem contradicted_of_unclear {config next : ServerConfig T} {thread : T}
    (inv : RecordsKept config) (unclear : ¬ StoreClear config thread)
    (stepped : serverStep config thread = some next) :
    ∃ owner inAddr bindInfo read, recording (config.threads owner) = some (inAddr, bindInfo) ∧
      next.threads owner = config.threads owner ∧ serverStep next owner = some read ∧
      Contradicted read owner := by
  unfold StoreClear at unclear
  push Not at unclear
  obtain ⟨port, read, changes, owner, between⟩ := unclear
  obtain ⟨⟨inAddr, a⟩, between⟩ := Option.ne_none_iff_exists'.mp between
  obtain ⟨ownerAddr, bindInfo, place⟩ := place_of_loaded read
  have ownerPlace := place_of_recording between
  have different : owner ≠ thread := by
    rintro rfl
    cases place.symm.trans ownerPlace
  have current : a.port = config.shared.portBase := congrArg BindInfo.port (inv.current owner _ a between)
  obtain ⟨operation, mine', move, applied, mine, others⟩ := serverStep_cases stepped
  rw [place] at move
  cases move
  have stays := others owner different
  have chosen : server.next next.shared (next.threads owner) = some (.read,
      .bind inAddr (.setLastSeen a
        ⟨next.shared.serverIp, inAddr, next.shared.portBase, 0, .nonActivated⟩)) := by
    rw [stays, ownerPlace]
    rfl
  obtain ⟨read, steppedRead⟩ : ∃ read, serverStep next owner = some read :=
    ⟨_, step_eq_some.mpr ⟨_, _, next.shared, chosen, rfl, rfl⟩⟩
  obtain ⟨_, _, chosenToo, _, mineRead, _⟩ := step_cases steppedRead
  cases chosen.symm.trans chosenToo
  refine ⟨owner, inAddr, a, read, between, stays, steppedRead, a, next.shared.reply inAddr,
    fun same => changes ?_, Or.inl ?_⟩
  · have written : next.shared.portBase = port + 3 := portBase_store applied
    have recorded : next.shared.portBase = a.port := congrArg BindInfo.port same
    omega
  · rw [mineRead]
    rfl

theorem granted_of_ended {size : ℕ} {mine : Thread} (call : isBind mine = true)
    (ends : ended size mine = true) : (granted mine).isSome := by
  cases mine with
  | bind inAddr pc => cases pc <;> first | rfl | cases ends
  | _ => cases call

variable {ip : String} {port now : Int} {growth : ℕ → ℕ} {task : T → Task} {schedule : List T}
  {final : ServerConfig T}

/-- A call of `bind` can return, without a trailing `unlock()` on the way. -/
theorem bind_can_return
    (reached : runSteps serverStep (ServerConfig.start (.new ip port now growth) task) schedule =
      some final)
    {thread : T} (call : isBind (final.threads thread) = true) :
    ∃ more after, runSteps serverStep final more = some after ∧
      Along serverStep NoTrailingUnlock final more ∧ (granted (after.threads thread)).isSome := by
  obtain ⟨more, after, reaches, goesOn, steady, ends⟩ := can_end reached thread
  refine ⟨more, after, goesOn, steady fun works => ?_, granted_of_ended ?_ ends⟩
  · rw [isBind_run reached, works] at call
    cases call
  · rw [isBind_run reaches, ← isBind_run reached, call]

/-- **Reply and record.** While the stores of a run are clear, every call that has returned appended
exactly one record, with the addresses and the port of its reply. In a run whose stores are not clear,
the first that is not is made while some call is between its two reads. If that call reads next, and
returns, its reply contradicts its record; and it can return, in a run without a trailing `unlock()`
with no such `unlock()` on the way. -/
theorem records_agree
    (reached : runSteps serverStep (ServerConfig.start (.new ip port now growth) task) schedule =
      some final) :
    (Along serverStep StoreClear (ServerConfig.start (.new ip port now growth) task) schedule →
      RecordsAgree final) ∧
    (¬ Along serverStep StoreClear (ServerConfig.start (.new ip port now growth) task) schedule →
      ∃ before thread after middle owner, schedule = before ++ thread :: after ∧
        runSteps serverStep (ServerConfig.start (.new ip port now growth) task) before =
          some middle ∧
        (recording (middle.threads owner)).isSome ∧
        (∀ later ended,
          runSteps serverStep (ServerConfig.start (.new ip port now growth) task)
            (before ++ thread :: owner :: later) = some ended →
          (granted (ended.threads owner)).isSome → ¬ RecordsAgree ended) ∧
        (Along serverStep NoTrailingUnlock (ServerConfig.start (.new ip port now growth) task)
            schedule →
          ∃ later ended,
            runSteps serverStep (ServerConfig.start (.new ip port now growth) task)
              (before ++ thread :: owner :: later) = some ended ∧
            Along serverStep NoTrailingUnlock (ServerConfig.start (.new ip port now growth) task)
              (before ++ thread :: owner :: later) ∧
            (granted (ended.threads owner)).isSome)) := by
  refine ⟨fun clear => ?_, fun unclear => ?_⟩
  · have inv : RecordsKept final := run_invariant_along
      (fun _ _ _ inv clear stepped => recordsKept_step inv clear stepped)
      reached clear (recordsKept_start ip port now growth task)
    intro thread bindInfo returned
    exact inv.recorded thread bindInfo (appended_of_granted returned)
  · obtain ⟨before, thread, after, middle, next, split, reaches, along, violated, stepped, _⟩ :=
      first_violation reached unclear
    have inv : RecordsKept middle := run_invariant_along
      (fun _ _ _ inv clear stepped => recordsKept_step inv clear stepped)
      reaches along (recordsKept_start ip port now growth task)
    obtain ⟨owner, inAddr, bindInfo, read, between, stays, steppedRead, wrong⟩ :=
      contradicted_of_unclear inv violated stepped
    have place := place_of_recording between
    refine ⟨before, thread, after, middle, owner, split, reaches, by rw [between]; rfl,
      fun later ended ends returned => ?_, fun steady => ?_⟩
    · obtain ⟨same, reachesToo, tail⟩ := runSteps_append.mp ends
      cases reaches.symm.trans reachesToo
      obtain ⟨sameNext, steppedToo, tail⟩ := runSteps_cons.mp tail
      cases stepped.symm.trans steppedToo
      obtain ⟨sameRead, steppedReadToo, tail⟩ := runSteps_cons.mp tail
      cases steppedRead.symm.trans steppedReadToo
      exact not_agree_run (parallel_step (parallel_step inv.parallel stepped) steppedRead) wrong
        tail returned
    · have upToNext := runSteps_snoc reaches stepped
      have upToRead := runSteps_snoc upToNext steppedRead
      have call : isBind (read.threads owner) = true := by
        rw [isBind_run upToRead, ← isBind_run reaches, place]
        rfl
      obtain ⟨later, ended, goesOn, alongLater, returned⟩ := bind_can_return upToRead call
      have rest : runSteps serverStep next (owner :: later) = some ended :=
        runSteps_cons.mpr ⟨read, steppedRead, goesOn⟩
      have split' : before ++ thread :: owner :: later = (before ++ [thread]) ++ owner :: later := by
        simp
      have steadyRead : NoTrailingUnlock next owner := by
        unfold NoTrailingUnlock
        rw [stays, place]
        rfl
      refine ⟨later, ended, ?_, ?_, returned⟩
      · rw [split']
        exact runSteps_append.mpr ⟨next, upToNext, rest⟩
      · rw [split']
        refine along_append upToNext (along_before ⟨after, by rw [split]; simp⟩ steady)
          ⟨steadyRead, fun other steppedOther => ?_⟩
        cases steppedRead.symm.trans steppedOther
        exact alongLater

end Runs

/-! ### Two runs -/

/-- The second call starts once the first has advanced the port. -/
theorem records_agree_inTurn :
    ∃ final, runSteps serverStep
        (ServerConfig.start (.new "0.0.0.0" 3000 0 (2 * ·)) clientTasks) inTurn = some final ∧
      RecordsAgree final := by
  have ends : (runSteps serverStep
      (ServerConfig.start (.new "0.0.0.0" 3000 0 (2 * ·)) clientTasks) inTurn).isSome := by decide
  obtain ⟨final, reached⟩ := Option.isSome_iff_exists.mp ends
  exact ⟨final, reached, (records_agree reached).1 (by decide)⟩

/-- The second call replies, the first advances the port, and then the second records. -/
def storeBetween : List Bool :=
  List.replicate 8 false ++ [true, true, false] ++ List.replicate 7 true

/-- **A reply with one port and a record with another.** -/
theorem record_differs :
    ∃ final, runSteps serverStep
        (ServerConfig.start (.new "0.0.0.0" 3000 0 (2 * ·)) clientTasks) storeBetween = some final ∧
      AllReturned final ∧ ¬ RecordsAgree final := by
  have ends : (runSteps serverStep
      (ServerConfig.start (.new "0.0.0.0" 3000 0 (2 * ·)) clientTasks) storeBetween).map
        (fun final => (final.threads true, final.shared.recordsOf true, decide (AllReturned final))) =
      some (.bind "10.0.0.2" (.returned ⟨"0.0.0.0", "10.0.0.2", 3000⟩),
        [⟨"0.0.0.0", "10.0.0.2", 3003⟩], true) := by decide
  obtain ⟨final, reached, same⟩ := Option.map_eq_some_iff.mp ends
  simp only [Prod.mk.injEq] at same
  obtain ⟨second, records, all⟩ := same
  refine ⟨final, reached, of_decide_eq_true all, fun agree => ?_⟩
  have claimed := agree true ⟨"0.0.0.0", "10.0.0.2", 3000⟩ (by rw [second]; rfl)
  rw [records] at claimed
  revert claimed
  decide

end GstPipeline.Binder
