/-
**What a scan of the service table leaves behind.**

A worker scans the table without the mutex: it reads the size before each entry, while calls of
`bind` append entries, heartbeats write to them, and other workers activate them. A worker knows of
the entries it has passed that they are `activated`, and no step of any thread takes that from it:
the table only grows, and a status that is `activated` stays so.

* `ScanKnows`: what a thread knows of the table. Its own moves keep it (`ScanMove`), and so do the
  moves of the others (`scanKnows_stable`).
* `appendedIn`: the bindings that the steps of a run append, in their order.
* `scan_settles`: when the loop exits, each entry below the size that ended it is `activated` and
  has the binding it was appended with.
-/

import GstPipeline.Binder.Activation

namespace GstPipeline.Binder

open GstPipeline.Lib

/-! ### What a worker has passed -/

/-- The worker has passed the entries below this index. -/
def scanned : Thread → ℕ
  | .runStreamer (.loopTest i) => i
  | .runStreamer (.checkStatus i) => i
  | .runStreamer (.lock i) => i
  | .runStreamer (.recheckStatus i) => i
  | .runStreamer (.unlockEarly i) => i
  | .runStreamer (.setStatus i) => i
  | .runStreamer (.takeInfo i) => i + 1
  | .runStreamer (.callCreate i _) => i + 1
  | .runStreamer (.create i _ _) => i + 1
  | .runStreamer (.unlock i _) => i + 1
  | _ => 0

/-- The entry the worker is at, and has not passed. -/
def visiting : Thread → Option ℕ
  | .runStreamer (.checkStatus i) => some i
  | .runStreamer (.lock i) => some i
  | .runStreamer (.recheckStatus i) => some i
  | .runStreamer (.unlockEarly i) => some i
  | .runStreamer (.setStatus i) => some i
  | _ => none

/-- The entry the call is about to append. -/
def appending : Thread → Option ServiceInfo
  | .bind _ (.lock _ newService) => some newService
  | .bind _ (.push _ newService) => some newService
  | _ => none

/-- What a move does to the scan of its thread. -/
inductive ScanMove (binder : ServerBinder) (mine : Thread) : Operation → Thread → Prop
  | keep {operation : Operation} {mine' : Thread} (passed : scanned mine' ≤ scanned mine)
      (visited : ∀ i ∈ visiting mine', visiting mine = some i)
      (appended : ∀ entry ∈ appending mine', appending mine = some entry) :
      ScanMove binder mine operation mine'
  | enter {i : ℕ} {mine' : Thread} (inside : i < binder.serviceTable.size)
      (passed : scanned mine' = scanned mine) (now : visiting mine' = some i)
      (appended : appending mine' = none) : ScanMove binder mine .read mine'
  | pass {i : ℕ} {status : ServiceStatus} {mine' : Thread} (before : scanned mine = i)
      (found : statusAt binder i = some status) (taken : status ≠ .nonActivated)
      (now : scanned mine' = i + 1) (visited : visiting mine' = none)
      (appended : appending mine' = none) : ScanMove binder mine .read mine'
  | activate {i : ℕ} {mine' : Thread} (visits : visiting mine = some i) (before : scanned mine = i)
      (now : scanned mine' = i + 1) (visited : visiting mine' = none)
      (appended : appending mine' = none) : ScanMove binder mine (.setActivated i) mine'
  | prepare {newService : ServiceInfo} {mine' : Thread} (fresh : newService.status = .nonActivated)
      (now : appending mine' = some newService) (passed : scanned mine' = 0)
      (visited : visiting mine' = none) : ScanMove binder mine .read mine'

theorem statusAt_of_entry {binder : ServerBinder} {i : ℕ} {entry : ServiceInfo}
    (found : binder.serviceTable.entries[i]? = some entry) :
    statusAt binder i = some entry.status := by
  unfold statusAt
  rw [found]
  rfl

theorem statusAt_of_lt {binder : ServerBinder} {i : ℕ} (inside : i < binder.serviceTable.size) :
    ∃ status, statusAt binder i = some status :=
  ⟨_, statusAt_of_entry (List.getElem?_eq_getElem inside)⟩

theorem scanMove_of_move {binder : ServerBinder} {mine mine' : Thread} {operation : Operation}
    (move : Move binder mine operation mine') : ScanMove binder mine operation mine' := by
  cases move with
  | loopEnter inside => exact .enter inside rfl rfl rfl
  | checkTaken found taken => exact .pass rfl (statusAt_of_entry found) taken rfl rfl rfl
  | recheckTaken found taken => exact .pass rfl (statusAt_of_entry found) taken rfl rfl rfl
  | setStatus => exact .activate rfl rfl rfl rfl rfl
  | bindLastSeen => exact .prepare rfl rfl rfl rfl
  | bindLock => exact .keep (Nat.le_refl _) nofun fun _ member => member
  | _ => exact .keep (by simp [scanned]) (by simp [visiting]) nofun

/-- What a thread knows of the table. -/
structure ScanKnows (binder : ServerBinder) (mine : Thread) : Prop where
  fresh : ∀ newService, appending mine = some newService → newService.status = .nonActivated
  visits : ∀ i, visiting mine = some i → ∃ status, statusAt binder i = some status
  passed : ∀ i, i < scanned mine → statusAt binder i = some .activated

/-- No entry is `toActivate`: the program never writes that status. -/
def NoneToActivate (binder : ServerBinder) : Prop :=
  ∀ i, statusAt binder i ≠ some .toActivate

theorem scanKnows_start (binder : ServerBinder) (task : Task) : ScanKnows binder task.start := by
  cases task <;> exact ⟨nofun, nofun, nofun⟩

theorem noneToActivate_new (ip : String) (port now : Int) (growth : ℕ → ℕ) :
    NoneToActivate (.new ip port now growth) := by
  intro i
  simp [statusAt]

section Steps

variable {T : Type} {thread : T} {operation : Operation} {shared after : Shared T}

/-- Where a status comes from. -/
theorem statusAt_cases {i : ℕ} {status : ServiceStatus}
    (applied : shared.apply thread operation = some after)
    (found : statusAt after.toServerBinder i = some status) :
    status = .activated ∨ statusAt shared.toServerBinder i = some status ∨
      ∃ newService, operation = .pushBack newService ∧ newService.status = status := by
  cases operation with
  | lock =>
    obtain ⟨_, rfl⟩ := apply_lock applied
    exact Or.inr (Or.inl found)
  | pushBack newService =>
    cases applied
    obtain ⟨entry, member, same⟩ := Option.map_eq_some_iff.mp found
    rw [StdVector.entries_pushBack, List.getElem?_append] at member
    split at member
    · exact Or.inr (Or.inl (by unfold statusAt; rw [member, Option.map_some, same]))
    · obtain rfl : newService = entry := by
        have inside := List.mem_of_getElem? member
        exact (List.mem_singleton.mp inside).symm
      exact Or.inr (Or.inr ⟨newService, rfl, same⟩)
  | setActivated j =>
    cases applied
    simp only [statusAt, StdVector.entries_modifyAt, List.getElem?_modify] at found ⊢
    by_cases here : j = i
    · obtain ⟨entry, _, same⟩ : ∃ entry, shared.serviceTable.entries[i]? = some entry ∧
          ServiceStatus.activated = status := by simpa [here] using found
      exact Or.inl same.symm
    · exact Or.inr (Or.inl (by simpa [here] using found))
  | setLastSeen j timestamp =>
    cases applied
    right
    left
    simp only [statusAt, StdVector.entries_modifyAt, List.getElem?_modify] at found ⊢
    by_cases here : j = i
    · simpa [here, Function.comp_def] using found
    · simpa [here] using found
  | _ =>
    cases applied
    exact Or.inr (Or.inl found)

theorem noneToActivate_apply (settled : NoneToActivate shared.toServerBinder)
    (applied : shared.apply thread operation = some after)
    (fresh : ∀ newService, operation = .pushBack newService →
      newService.status = .nonActivated) :
    NoneToActivate after.toServerBinder := by
  intro i found
  rcases statusAt_cases applied found with same | before | ⟨newService, pushes, same⟩
  · cases same
  · exact settled i before
  · rw [fresh newService pushes] at same
    cases same

/-- **No step of another thread takes away what a thread knows.** -/
theorem scanKnows_stable {theirs : Thread} (knows : ScanKnows shared.toServerBinder theirs)
    (applied : shared.apply thread operation = some after) :
    ScanKnows after.toServerBinder theirs where
  fresh := knows.fresh
  visits i visits := by
    obtain ⟨status, found⟩ := knows.visits i visits
    exact (statusAt_apply applied found).elim (fun kept => ⟨_, kept⟩) fun changed => ⟨_, changed⟩
  passed i below := activated_apply applied (knows.passed i below)

/-- A thread goes on from an activated entry to the next. -/
theorem scanKnows_pass {binder : ServerBinder} {mine mine' : Thread} {i : ℕ}
    (knows : ScanKnows binder mine) (before : scanned mine = i) (now : scanned mine' = i + 1)
    (visited : visiting mine' = none) (appended : appending mine' = none)
    (here : statusAt binder i = some .activated) : ScanKnows binder mine' := by
  refine ⟨fun entry now => ?_, fun j visits => ?_, fun j below => ?_⟩
  · rw [appended] at now
    cases now
  · rw [visited] at visits
    cases visits
  · rw [now, Nat.lt_succ_iff_lt_or_eq] at below
    rcases below with below | rfl
    · exact knows.passed j (before.symm ▸ below)
    · exact here

/-- A thread's own move keeps what it knows, for the entry it passes as well. -/
theorem scanKnows_move {mine mine' : Thread} (settled : NoneToActivate shared.toServerBinder)
    (knows : ScanKnows shared.toServerBinder mine)
    (move : ScanMove shared.toServerBinder mine operation mine')
    (applied : shared.apply thread operation = some after) :
    ScanKnows after.toServerBinder mine' := by
  have stable := scanKnows_stable knows applied
  cases move with
  | keep passed visited appended =>
    exact ⟨fun entry now => stable.fresh entry (appended entry now),
      fun i visits => stable.visits i (visited i visits),
      fun i below => stable.passed i (Nat.lt_of_lt_of_le below passed)⟩
  | @enter i _ inside passed now appended =>
    cases applied
    refine ⟨fun entry now => ?_, fun j visits => ?_, fun j below => stable.passed j (passed ▸ below)⟩
    · rw [appended] at now
      cases now
    · rw [now] at visits
      cases visits
      exact statusAt_of_lt inside
  | @pass i status _ before found taken now visited appended =>
    cases applied
    refine scanKnows_pass stable before now visited appended ?_
    cases status with
    | nonActivated => exact (taken rfl).elim
    | toActivate => exact (settled i found).elim
    | activated => exact found
  | @activate i _ visits before now visited appended =>
    obtain ⟨status, found⟩ := knows.visits i visits
    exact scanKnows_pass stable before now visited appended (statusAt_setActivated applied found)
  | @prepare newService _ fresh now passed visited =>
    refine ⟨fun entry appends => ?_, fun j visits => ?_, fun j below => ?_⟩
    · rw [now] at appends
      cases appends
      exact fresh
    · rw [visited] at visits
      cases visits
    · rw [passed] at below
      exact (Nat.not_lt_zero j below).elim

/-- What a call pushes is what it was about to append. -/
theorem appending_of_push {mine mine' : Thread} {newService : ServiceInfo} {binder : ServerBinder}
    (move : Move binder mine (.pushBack newService) mine') : appending mine = some newService := by
  cases move
  rfl

end Steps

/-! ### Runs -/

section Runs

variable {T : Type} [DecidableEq T]

/-- **One step of one thread**, by the rule of Owicki and Gries. -/
theorem scanning_step {config after : ServerConfig T} {thread : T}
    (holds : NoneToActivate config.shared.toServerBinder ∧
      ∀ u, ScanKnows config.shared.toServerBinder (config.threads u))
    (stepped : serverStep config thread = some after) :
    NoneToActivate after.shared.toServerBinder ∧
      ∀ u, ScanKnows after.shared.toServerBinder (after.threads u) := by
  refine perThread_step (G := fun shared : Shared T => NoneToActivate shared.toServerBinder)
    (P := fun _ shared mine => ScanKnows shared.toServerBinder mine) ?_ holds stepped
  intro thread shared mine operation mine' after settled knows chosen applied
  have move := move_of_next chosen
  refine ⟨noneToActivate_apply settled applied fun newService pushes => ?_,
    scanKnows_move settled knows (scanMove_of_move move) applied,
    fun other theirs _ knows => scanKnows_stable knows applied⟩
  subst pushes
  exact knows.fresh newService (appending_of_push move)

/-- The binding that the thread's next step appends. -/
def appendsNext (config : ServerConfig T) (thread : T) : Option BindInfo :=
  match nextStatement config.shared.toServerBinder (config.threads thread) with
  | some (.pushBack newService, _) => some newService.bindInfo
  | _ => none

/-- The bindings that the steps of a run append, in order. -/
def appendedIn (config : ServerConfig T) : List T → List BindInfo
  | [] => []
  | thread :: rest =>
    (appendsNext config thread).toList ++
      ((serverStep config thread).map fun next => appendedIn next rest).getD []

/-- One step leaves the bindings in the table as they are, and appends its own. -/
theorem bindings_step {config after : ServerConfig T} {thread : T}
    (stepped : serverStep config thread = some after) :
    after.shared.serviceTable.entries.map ServiceInfo.bindInfo =
      config.shared.serviceTable.entries.map ServiceInfo.bindInfo ++
        (appendsNext config thread).toList := by
  obtain ⟨operation, mine', chosen, applied, _⟩ := step_cases stepped
  have chosen : nextStatement config.shared.toServerBinder (config.threads thread) =
      some (operation, mine') := chosen
  unfold appendsNext
  rw [chosen]
  by_cases push : ∃ newService, operation = .pushBack newService
  · obtain ⟨newService, rfl⟩ := push
    have table : after.shared.serviceTable = config.shared.serviceTable.pushBack newService :=
      congrArg (·.serviceTable) (Option.some.inj applied).symm
    rw [table, StdVector.entries_pushBack, List.map_append]
    rfl
  · push Not at push
    rw [(table_apply applied push).2.2]
    cases operation with
    | pushBack newService => exact (push newService rfl).elim
    | _ => exact (List.append_nil _).symm

/-- **The table is what the run appended.** -/
theorem bindings_run {config final : ServerConfig T} {labels : List T}
    (reached : runSteps serverStep config labels = some final) :
    final.shared.serviceTable.entries.map ServiceInfo.bindInfo =
      config.shared.serviceTable.entries.map ServiceInfo.bindInfo ++ appendedIn config labels := by
  induction labels generalizing config with
  | nil =>
    cases reached
    exact (List.append_nil _).symm
  | cons thread rest ih =>
    obtain ⟨next, stepped, later⟩ := runSteps_cons.mp reached
    rw [ih later, bindings_step stepped, List.append_assoc, appendedIn, stepped]
    rfl

/-- A worker leaves the loop when its index is not below the size, and changes nothing shared. -/
theorem loopExit_of_step {config after : ServerConfig T} {worker : T} {i : ℕ}
    (testing : config.threads worker = .runStreamer (.loopTest i))
    (stepped : serverStep config worker = some after)
    (exits : after.threads worker = .runStreamer .sleep) :
    ¬ i < config.shared.serviceTable.size ∧ after.shared = config.shared := by
  obtain ⟨operation, mine', move, applied, mine, _⟩ := serverStep_cases stepped
  rw [testing, ← mine, exits] at move
  cases move with
  | loopExit outside => exact ⟨outside, (Option.some.inj applied).symm⟩

variable {ip : String} {port now : Int} {growth : ℕ → ℕ} {task : T → Task} {labels : List T}
  {config after : ServerConfig T}

/-- **No pending request is skipped by a scan.** A worker that leaves its loop does so on a size
such that every entry below it is `activated`, and has the binding it was appended with. -/
theorem scan_settles
    (reached : runSteps serverStep (ServerConfig.start (.new ip port now growth) task) labels =
      some config)
    {worker : T} {i : ℕ} (testing : config.threads worker = .runStreamer (.loopTest i))
    (stepped : serverStep config worker = some after)
    (exits : after.threads worker = .runStreamer .sleep) :
    ∀ j < config.shared.serviceTable.size, ∃ entry,
      after.shared.serviceTable.entries[j]? = some entry ∧ entry.status = .activated ∧
      (appendedIn (ServerConfig.start (.new ip port now growth) task) labels)[j]? =
        some entry.bindInfo := by
  have knows := run_invariant (fun _ _ _ => scanning_step) reached
    ⟨noneToActivate_new ip port now growth, fun u => scanKnows_start _ (task u)⟩
  have bindings := bindings_run reached
  obtain ⟨outside, same⟩ := loopExit_of_step testing stepped exits
  intro j below
  have passed : statusAt config.shared.toServerBinder j = some .activated := by
    refine (knows.2 worker).passed j ?_
    rw [testing]
    exact Nat.lt_of_lt_of_le below (Nat.le_of_not_lt outside)
  obtain ⟨entry, found, activated⟩ := Option.map_eq_some_iff.mp passed
  refine ⟨entry, by rw [same]; exact found, activated, ?_⟩
  have appended : appendedIn (ServerConfig.start (.new ip port now growth) task) labels =
      config.shared.serviceTable.entries.map ServiceInfo.bindInfo := bindings.symm
  rw [appended, List.getElem?_map, found]
  rfl

end Runs

/-! ### Two clients and two workers -/

inductive Scanner
  | client
  | newcomer
  | worker
  | rival
  deriving DecidableEq

/-- Two calls of `bind`, and two workers. -/
def scannerTasks : Scanner → Task
  | .client => .bind "10.0.0.1"
  | .newcomer => .bind "10.0.0.2"
  | .worker => .runStreamer
  | .rival => .runStreamer

/-- The first call returns, and both workers find its entry. One activates it, and the other finds it
taken; the second call appends while the first worker starts its stream, and the same worker activates
that entry too. -/
def scanOnce : List Scanner :=
  ([(9, .client), (5, .worker), (3, .rival), (4, .newcomer), (2, .worker), (3, .rival),
    (3, .newcomer), (12, .worker), (2, .rival), (5, .worker), (2, .newcomer), (3, .rival),
    (9, .worker)] : List (ℕ × Scanner)).flatMap fun turns => List.replicate turns.1 turns.2

theorem scan_settles_scanOnce :
    ∃ config after first second,
      runSteps serverStep
        (ServerConfig.start (.new "0.0.0.0" 3000 0 (2 * ·)) scannerTasks) scanOnce =
          some config ∧
      serverStep config .worker = some after ∧ after.threads .worker = .runStreamer .sleep ∧
      after.shared.serviceTable.entries[0]? = some first ∧ first.status = .activated ∧
      first.bindInfo = ⟨"0.0.0.0", "10.0.0.1", 3000⟩ ∧
      after.shared.serviceTable.entries[1]? = some second ∧ second.status = .activated ∧
      second.bindInfo = ⟨"0.0.0.0", "10.0.0.2", 3003⟩ := by
  have ends : ((runSteps serverStep
      (ServerConfig.start (.new "0.0.0.0" 3000 0 (2 * ·)) scannerTasks) scanOnce).bind
        fun config => (serverStep config .worker).map fun after =>
          (config.threads .worker, config.shared.serviceTable.size, after.threads .worker)) =
      some (.runStreamer (.loopTest 2), 2, .runStreamer .sleep) := by decide +kernel
  obtain ⟨config, reached, ends⟩ := Option.bind_eq_some_iff.mp ends
  obtain ⟨after, stepped, ends⟩ := Option.map_eq_some_iff.mp ends
  simp only [Prod.mk.injEq] at ends
  obtain ⟨testing, size, exits⟩ := ends
  have settled := scan_settles reached testing stepped exits
  have pushed : appendedIn (ServerConfig.start (.new "0.0.0.0" 3000 0 (2 * ·)) scannerTasks)
      scanOnce = [⟨"0.0.0.0", "10.0.0.1", 3000⟩, ⟨"0.0.0.0", "10.0.0.2", 3003⟩] := by
    decide +kernel
  rw [size, pushed] at settled
  obtain ⟨first, found, activated, appended⟩ := settled 0 (by decide)
  obtain ⟨second, foundToo, activatedToo, appendedToo⟩ := settled 1 (by decide)
  exact ⟨config, after, first, second, reached, stepped, exits, found, activated,
    (Option.some.inj appended).symm, foundToo, activatedToo, (Option.some.inj appendedToo).symm⟩

end GstPipeline.Binder
