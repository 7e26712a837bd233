/-
**How often a stream is started for one binding.**

`run_streamer` is a double-checked claim: a worker that finds an entry `nonActivated` takes the
lock, checks again, and then claims the entry by writing `activated`. The source gives the lock back
between the second check and that write, so the second check protects nothing by itself.

* A worker is *claiming* an entry from its successful second check to its call of `create_streamer`,
  and the claim is *unwritten* until `set_status(ACTIVATED)`.
* `SecondCheckClear` says of a step: a second check that finds its entry `nonActivated` is not made
  while another worker's claim on that entry is unwritten.
* `activations_once_iff`: a run whose steps all meet it calls `create_streamer` at most once for
  each entry, in every state it reaches; and a run in which every claim got to its call and no entry
  was started twice meets it at every step.
* `activated_twice`: two workers and one client are enough to start two streams for one entry.
-/

import GstPipeline.Binder.Threads
import Mathlib.Data.Fin.VecNotation
import Mathlib.Data.List.Nodup

namespace GstPipeline.Binder

open GstPipeline.Lib

/-! ### Claims -/

/-- The entry whose second status check the worker is about to make. -/
def rechecking : Thread → Option ℕ
  | .runStreamer (.recheckStatus i) => some i
  | _ => none

/-- The entry the worker has claimed and not yet called `create_streamer` for. -/
def claiming : Thread → Option ℕ
  | .runStreamer (.unlockEarly i) => some i
  | .runStreamer (.setStatus i) => some i
  | .runStreamer (.takeInfo i) => some i
  | .runStreamer (.callCreate i _) => some i
  | _ => none

/-- The entry the worker has claimed and not yet written `activated` to. -/
def unwritten : Thread → Option ℕ
  | .runStreamer (.unlockEarly i) => some i
  | .runStreamer (.setStatus i) => some i
  | _ => none

theorem claiming_of_unwritten {thread : Thread} {i : ℕ} (pending : unwritten thread = some i) :
    claiming thread = some i := by
  cases thread with
  | runStreamer pc => cases pc <;> simp_all [unwritten, claiming]
  | _ => cases pending

/-- The status of an entry, if there is one at the index. -/
def statusAt (binder : ServerBinder) (i : ℕ) : Option ServiceStatus :=
  binder.serviceTable.entries[i]?.map (·.status)

/-- What a move does to the claims of its thread. -/
inductive ClaimMove (binder : ServerBinder) (mine : Thread) : Operation → Thread → Prop
  | keep {operation : Operation} {mine' : Thread} (noStart : ∀ i, operation ≠ .createStreamer i)
      (same : claiming mine' = claiming mine) (samePending : unwritten mine' = unwritten mine) :
      ClaimMove binder mine operation mine'
  | claim {i : ℕ} {mine' : Thread} (checks : rechecking mine = some i)
      (free : statusAt binder i = some .nonActivated) (before : claiming mine = none)
      (now : claiming mine' = some i) (pending : unwritten mine' = some i) :
      ClaimMove binder mine .read mine'
  | write {i : ℕ} {mine' : Thread} (before : claiming mine = some i)
      (now : claiming mine' = some i) (written : unwritten mine' = none) :
      ClaimMove binder mine (.setActivated i) mine'
  | start {i : ℕ} {mine' : Thread} (before : claiming mine = some i)
      (written : unwritten mine = none) (now : claiming mine' = none) :
      ClaimMove binder mine (.createStreamer i) mine'

theorem claimMove_of_move {binder : ServerBinder} {mine mine' : Thread} {operation : Operation}
    (move : Move binder mine operation mine') : ClaimMove binder mine operation mine' := by
  cases move with
  | recheckFree found free => exact .claim rfl (by simp [statusAt, found, free]) rfl rfl rfl
  | unlockEarly => exact .keep (fun _ same => by cases same) rfl rfl
  | setStatus => exact .write rfl rfl rfl
  | callCreate => exact .start rfl rfl rfl
  | _ => exact .keep (fun _ same => by cases same) rfl rfl

section Shared

variable {T : Type} {thread : T} {operation : Operation} {shared after : Shared T} {i : ℕ}

/-- Only a call of `create_streamer` is recorded as a start. -/
theorem streams_apply (applied : shared.apply thread operation = some after)
    (noStart : ∀ j, operation ≠ .createStreamer j) : after.streams = shared.streams := by
  cases operation with
  | createStreamer j => exact (noStart j rfl).elim
  | lock =>
    obtain ⟨_, rfl⟩ := apply_lock applied
    rfl
  | _ =>
    cases applied
    rfl

/-- A call of `create_streamer` is recorded, and changes nothing else. -/
theorem apply_createStreamer (applied : shared.apply thread (.createStreamer i) = some after) :
    after.streams = shared.streams ++ [(thread, i)] ∧
      after.toServerBinder = shared.toServerBinder := by
  cases applied
  exact ⟨rfl, rfl⟩

/-- **A status never goes back**: it stays, or it becomes `activated`. -/
theorem statusAt_apply {status : ServiceStatus}
    (applied : shared.apply thread operation = some after)
    (before : statusAt shared.toServerBinder i = some status) :
    statusAt after.toServerBinder i = some status ∨
      statusAt after.toServerBinder i = some .activated := by
  cases operation with
  | lock =>
    obtain ⟨_, rfl⟩ := apply_lock applied
    exact Or.inl before
  | pushBack newService =>
    cases applied
    obtain ⟨entry, found, same⟩ := Option.map_eq_some_iff.mp before
    have inside : i < shared.serviceTable.entries.length := (List.getElem?_eq_some_iff.mp found).1
    left
    simp only [statusAt, StdVector.entries_pushBack, List.getElem?_append_left inside]
    exact before
  | setActivated j =>
    cases applied
    simp only [statusAt, StdVector.entries_modifyAt, List.getElem?_modify] at before ⊢
    obtain ⟨entry, found, same⟩ := Option.map_eq_some_iff.mp before
    by_cases here : j = i
    · exact Or.inr (by simp [found, here])
    · exact Or.inl (by simp [found, here, same])
  | setLastSeen j timestamp =>
    cases applied
    left
    simp only [statusAt, StdVector.entries_modifyAt, List.getElem?_modify] at before ⊢
    obtain ⟨entry, found, same⟩ := Option.map_eq_some_iff.mp before
    by_cases here : j = i
    · simp [found, here, same]
    · simp [found, here, same]
  | _ =>
    cases applied
    exact Or.inl before

theorem activated_apply (applied : shared.apply thread operation = some after)
    (before : statusAt shared.toServerBinder i = some .activated) :
    statusAt after.toServerBinder i = some .activated :=
  (statusAt_apply applied before).elim id id

/-- `set_status(ACTIVATED)` on an entry that exists. -/
theorem statusAt_setActivated {status : ServiceStatus}
    (applied : shared.apply thread (.setActivated i) = some after)
    (before : statusAt shared.toServerBinder i = some status) :
    statusAt after.toServerBinder i = some .activated := by
  cases applied
  obtain ⟨entry, found, same⟩ := Option.map_eq_some_iff.mp before
  simp [statusAt, found]

end Shared

/-! ### At most one stream for each entry -/

section Runs

variable {T : Type}

/-- `create_streamer` was called at most once for each entry. -/
def AtMostOnce (config : ServerConfig T) : Prop := (config.shared.streams.map Prod.snd).Nodup

/-- If the thread's next step is a second status check that finds its entry `nonActivated`, no
worker's claim on that entry is unwritten. -/
def SecondCheckClear (config : ServerConfig T) (thread : T) : Prop :=
  ∀ i ∈ rechecking (config.threads thread),
    statusAt config.shared.toServerBinder i = some .nonActivated →
      ∀ other, unwritten (config.threads other) ≠ some i

instance [Fintype T] (config : ServerConfig T) (thread : T) :
    Decidable (SecondCheckClear config thread) :=
  inferInstanceAs (Decidable (∀ i ∈ _, _ → ∀ _, _ ≠ _))

/-- Every claim got to its call of `create_streamer`. -/
def AllStarted (config : ServerConfig T) : Prop := ∀ thread, claiming (config.threads thread) = none

/-- What a run keeps while its second checks are clear. -/
structure ActivatedOnce (config : ServerConfig T) : Prop where
  once : AtMostOnce config
  apart : ∀ t i, claiming (config.threads t) = some i → i ∉ config.shared.streams.map Prod.snd
  alone : ∀ t u i, claiming (config.threads t) = some i → claiming (config.threads u) = some i →
    t = u
  inRange : ∀ t i, claiming (config.threads t) = some i →
    ∃ status, statusAt config.shared.toServerBinder i = some status
  written : ∀ t i, claiming (config.threads t) = some i → unwritten (config.threads t) = none →
    statusAt config.shared.toServerBinder i = some .activated
  started : ∀ i ∈ config.shared.streams.map Prod.snd,
    statusAt config.shared.toServerBinder i = some .activated

theorem claiming_start (binder : ServerBinder) (task : T → Task) (thread : T) :
    claiming ((ServerConfig.start binder task).threads thread) = none := by
  show claiming (task thread).start = none
  cases task thread <;> rfl

theorem activatedOnce_start (binder : ServerBinder) (task : T → Task) :
    ActivatedOnce (ServerConfig.start binder task) where
  once := List.nodup_nil
  apart t i claimed := by rw [claiming_start] at claimed; cases claimed
  alone t u i claimed := by rw [claiming_start] at claimed; cases claimed
  inRange t i claimed := by rw [claiming_start] at claimed; cases claimed
  written t i claimed := by rw [claiming_start] at claimed; cases claimed
  started i member := by cases member

/-- A step that opens no claim and starts no stream. -/
theorem activatedOnce_same {config after : ServerConfig T} (inv : ActivatedOnce config)
    (streams : after.shared.streams = config.shared.streams)
    (claims : ∀ u, claiming (after.threads u) = claiming (config.threads u))
    (stays : ∀ i status, statusAt config.shared.toServerBinder i = some status →
      statusAt after.shared.toServerBinder i = some status ∨
        statusAt after.shared.toServerBinder i = some .activated)
    (written : ∀ t i, claiming (config.threads t) = some i → unwritten (after.threads t) = none →
      statusAt after.shared.toServerBinder i = some .activated) : ActivatedOnce after where
  once := by
    unfold AtMostOnce
    rw [streams]
    exact inv.once
  apart t i claimed := by
    rw [claims] at claimed
    rw [streams]
    exact inv.apart t i claimed
  alone t u i claimed claimedToo := by
    rw [claims] at claimed claimedToo
    exact inv.alone t u i claimed claimedToo
  inRange t i claimed := by
    rw [claims] at claimed
    obtain ⟨status, found⟩ := inv.inRange t i claimed
    exact (stays i status found).elim (fun kept => ⟨_, kept⟩) fun changed => ⟨_, changed⟩
  written t i claimed settled := by
    rw [claims] at claimed
    exact written t i claimed settled
  started i member := by
    rw [streams] at member
    exact (stays i _ (inv.started i member)).elim id id

variable [DecidableEq T]

/-- **One clear step.** -/
theorem activatedOnce_step {config after : ServerConfig T} {thread : T}
    (inv : ActivatedOnce config) (clear : SecondCheckClear config thread)
    (stepped : serverStep config thread = some after) : ActivatedOnce after := by
  obtain ⟨operation, mine', move, applied, mine, others⟩ := serverStep_cases stepped
  cases claimMove_of_move move with
  | keep noStart same samePending =>
    have claims := reading_unchanged claiming mine others same
    refine activatedOnce_same inv (streams_apply applied noStart) claims
      (fun _ _ found => statusAt_apply applied found) fun t i claimed settled => ?_
    have pendings := reading_unchanged unwritten mine others samePending
    exact activated_apply applied (inv.written t i claimed ((pendings t).symm.trans settled))
  | @write i _ before now written =>
    have claims := reading_unchanged claiming mine others (now.trans before.symm)
    refine activatedOnce_same inv (streams_apply applied fun j same => by cases same) claims
      (fun _ _ found => statusAt_apply applied found) fun t j claimed settled => ?_
    rcases reading_after unwritten mine others settled with ⟨here, _⟩ | ⟨_, older⟩
    · rw [here, before] at claimed
      cases claimed
      obtain ⟨status, found⟩ := inv.inRange thread i before
      exact statusAt_setActivated applied found
    · exact activated_apply applied (inv.written t j claimed older)
  | @claim i _ checks free before now pending =>
    have sameShared : after.shared = config.shared := (Option.some.inj applied).symm
    have noOther : ∀ u, claiming (config.threads u) ≠ some i := by
      intro u claimed
      cases state : unwritten (config.threads u) with
      | none =>
        rw [inv.written u i claimed state] at free
        cases free
      | some j =>
        have same := claiming_of_unwritten state
        rw [claimed] at same
        cases same
        exact clear i checks free u state
    have cases' : ∀ u j, claiming (after.threads u) = some j →
        (u = thread ∧ j = i) ∨ (u ≠ thread ∧ claiming (config.threads u) = some j) := by
      intro u j claimed
      refine (reading_after claiming mine others claimed).imp (fun own => ⟨own.1, ?_⟩) id
      exact (Option.some.inj (now.symm.trans own.2)).symm
    constructor
    · unfold AtMostOnce
      rw [sameShared]
      exact inv.once
    · intro t j claimed member
      rw [sameShared] at member
      rcases cases' t j claimed with ⟨_, rfl⟩ | ⟨_, claimed⟩
      · rw [inv.started j member] at free
        cases free
      · exact inv.apart t j claimed member
    · intro t u j claimed claimedToo
      rcases cases' t j claimed with ⟨here, rfl⟩ | ⟨_, claimed⟩ <;>
        rcases cases' u _ claimedToo with ⟨hereToo, same⟩ | ⟨_, claimedToo⟩
      · rw [here, hereToo]
      · exact (noOther u claimedToo).elim
      · exact (noOther t (same ▸ claimed)).elim
      · exact inv.alone t u j claimed claimedToo
    · intro t j claimed
      rw [sameShared]
      rcases cases' t j claimed with ⟨_, rfl⟩ | ⟨_, claimed⟩
      · exact ⟨_, free⟩
      · exact inv.inRange t j claimed
    · intro t j claimed settled
      rw [sameShared]
      rcases reading_after unwritten mine others settled with ⟨_, own⟩ | ⟨different, older⟩
      · cases pending.symm.trans own
      · have open' := ((cases' t j claimed).resolve_left fun own => different own.1).2
        exact inv.written t j open' older
    · rw [sameShared]
      exact inv.started
  | @start i _ before written now =>
    obtain ⟨streams, sameTable⟩ := apply_createStreamer applied
    have older : ∀ u j, claiming (after.threads u) = some j →
        u ≠ thread ∧ claiming (config.threads u) = some j := by
      intro u j claimed
      refine (reading_after claiming mine others claimed).resolve_left fun own => ?_
      cases now.symm.trans own.2
    constructor
    · unfold AtMostOnce
      rw [streams, List.map_append, List.nodup_append]
      refine ⟨inv.once, List.nodup_singleton i, fun j member k isStarted same => ?_⟩
      simp only [List.map_cons, List.map_nil, List.mem_singleton] at isStarted
      exact inv.apart thread i before (isStarted ▸ same ▸ member)
    · intro t j claimed member
      obtain ⟨different, claimed⟩ := older t j claimed
      rw [streams, List.map_append, List.mem_append] at member
      rcases member with member | new
      · exact inv.apart t j claimed member
      · rw [List.mem_singleton.mp new] at claimed
        exact different (inv.alone t thread i claimed before)
    · intro t u j claimed claimedToo
      exact inv.alone t u j (older t j claimed).2 (older u j claimedToo).2
    · intro t j claimed
      rw [sameTable]
      exact inv.inRange t j (older t j claimed).2
    · intro t j claimed settled
      obtain ⟨different, claimed⟩ := older t j claimed
      rw [others t different] at settled
      rw [sameTable]
      exact inv.written t j claimed settled
    · intro j member
      rw [streams, List.map_append, List.mem_append] at member
      rw [sameTable]
      rcases member with member | new
      · exact inv.started j member
      · rw [List.mem_singleton.mp new]
        exact inv.written thread i before written

/-- A claim is either still open or has become a start, and stays so. -/
theorem claimed_step {config after : ServerConfig T} {thread owner : T} {i : ℕ}
    (claimed : claiming (config.threads owner) = some i ∨ (owner, i) ∈ config.shared.streams)
    (stepped : serverStep config thread = some after) :
    claiming (after.threads owner) = some i ∨ (owner, i) ∈ after.shared.streams := by
  obtain ⟨operation, mine', move, applied, mine, others⟩ := serverStep_cases stepped
  have grows : ∀ start ∈ config.shared.streams, start ∈ after.shared.streams := by
    intro start member
    cases operation with
    | createStreamer j =>
      rw [(apply_createStreamer applied).1]
      exact List.mem_append_left _ member
    | _ =>
      rw [streams_apply applied fun j same => by cases same]
      exact member
  rcases claimed with claimed | member
  · by_cases here : owner = thread
    · rw [here] at claimed ⊢
      cases claimMove_of_move move with
      | keep noStart same samePending =>
        rw [mine, same]
        exact Or.inl claimed
      | claim checks free before now pending =>
        rw [before] at claimed
        cases claimed
      | write before now written =>
        rw [mine, now, ← before]
        exact Or.inl claimed
      | start before written now =>
        rw [before] at claimed
        cases claimed
        rw [(apply_createStreamer applied).1]
        exact Or.inr (List.mem_append_right _ (List.mem_singleton.mpr rfl))
    · rw [others owner here]
      exact Or.inl claimed
  · exact Or.inr (grows _ member)

/-- **A second check that is not clear leaves two claims on one entry.** -/
theorem two_claims {config next : ServerConfig T} {thread : T}
    (unclear : ¬ SecondCheckClear config thread) (stepped : serverStep config thread = some next) :
    ∃ other i, other ≠ thread ∧ claiming (next.threads other) = some i ∧
      claiming (next.threads thread) = some i := by
  unfold SecondCheckClear at unclear
  push Not at unclear
  obtain ⟨i, checks, free, other, pending⟩ := unclear
  obtain ⟨operation, mine', move, applied, mine, others⟩ := serverStep_cases stepped
  have place : config.threads thread = .runStreamer (.recheckStatus i) := by
    cases spot : config.threads thread with
    | runStreamer pc => cases pc <;> simp_all [rechecking]
    | _ => simp [spot, rechecking] at checks
  have different : other ≠ thread := by
    rintro rfl
    rw [place] at pending
    cases pending
  refine ⟨other, i, different, ?_, ?_⟩
  · rw [others other different]
    exact claiming_of_unwritten pending
  · rw [place] at move
    rw [mine]
    cases move with
    | recheckFree => rfl
    | recheckTaken found taken =>
      simp only [statusAt, found, Option.map_some, Option.some.injEq] at free
      exact (taken free).elim

variable {binder : ServerBinder} {task : T → Task} {schedule : List T} {final : ServerConfig T}

/-- **Exactly-once activation.** In every state a run with clear second checks reaches,
`create_streamer` was called at most once for each entry; and in a run in which every claim got to
its call, at most one call for each entry means that every second check was clear. -/
theorem activations_once_iff
    (reached : runSteps serverStep (ServerConfig.start binder task) schedule = some final) :
    (Along serverStep SecondCheckClear (ServerConfig.start binder task) schedule →
      AtMostOnce final) ∧
    (AllStarted final → AtMostOnce final →
      Along serverStep SecondCheckClear (ServerConfig.start binder task) schedule) := by
  refine ⟨fun clear => ?_, fun allStarted once => ?_⟩
  · have inv : ActivatedOnce final := run_invariant_along
      (fun _ _ _ inv clear stepped => activatedOnce_step inv clear stepped)
      reached clear (activatedOnce_start binder task)
    exact inv.once
  · by_contra unclear
    obtain ⟨_, thread, after, middle, next, _, _, _, violated, stepped, later⟩ :=
      first_violation reached unclear
    obtain ⟨other, i, different, claimed, claimedToo⟩ := two_claims violated stepped
    have startedBy : ∀ owner, claiming (next.threads owner) = some i →
        (owner, i) ∈ final.shared.streams := by
      intro owner open'
      have ends : claiming (final.threads owner) = some i ∨ (owner, i) ∈ final.shared.streams :=
        run_invariant (I := fun config => claiming (config.threads owner) = some i ∨
          (owner, i) ∈ config.shared.streams)
          (fun _ _ _ claimed stepped => claimed_step claimed stepped) later (Or.inl open')
      rw [allStarted owner] at ends
      exact ends.resolve_left (by simp)
    have same := List.inj_on_of_nodup_map once (startedBy other claimed)
      (startedBy thread claimedToo) rfl
    exact different (congrArg Prod.fst same)

end Runs

/-! ### Two runs -/

/-- One client and two workers. -/
def rivalTasks : Fin 3 → Task := ![.bind "10.0.0.1", .runStreamer, .runStreamer]

/-- Both workers find the entry `nonActivated`; the second waits for the lock until the first has
written `activated`. -/
def clearRivals : List (Fin 3) :=
  List.replicate 9 0 ++ [1, 1, 1, 2, 2, 2] ++ List.replicate 5 1 ++ [2, 2, 2] ++ [1, 2, 2]

theorem activations_once_clear :
    ∃ final, runSteps serverStep
        (ServerConfig.start (.new "0.0.0.0" 3000 0 (2 * ·)) rivalTasks) clearRivals = some final ∧
      AtMostOnce final := by
  have runs : (runSteps serverStep
      (ServerConfig.start (.new "0.0.0.0" 3000 0 (2 * ·)) rivalTasks) clearRivals).isSome := by
    decide
  obtain ⟨final, reached⟩ := Option.isSome_iff_exists.mp runs
  exact ⟨final, reached, (activations_once_iff reached).1 (by decide)⟩

/-- Both workers take the lock in turn, and check and unlock before either has written. -/
def unclearRivals : List (Fin 3) :=
  List.replicate 9 0 ++ [1, 1, 1, 2, 2, 2] ++ [1, 1, 1, 2, 2, 2] ++ [1, 1, 1, 2, 2, 2]

/-- **Two streams for one entry.** -/
theorem activated_twice :
    ∃ final, runSteps serverStep
        (ServerConfig.start (.new "0.0.0.0" 3000 0 (2 * ·)) rivalTasks) unclearRivals = some final ∧
      ¬ AtMostOnce final := by
  have ends : (runSteps serverStep
      (ServerConfig.start (.new "0.0.0.0" 3000 0 (2 * ·)) rivalTasks) unclearRivals).map
        (fun final => final.shared.streams) = some [(1, 0), (2, 0)] := by decide
  obtain ⟨final, reached, streams⟩ := Option.map_eq_some_iff.mp ends
  refine ⟨final, reached, fun once => ?_⟩
  unfold AtMostOnce at once
  rw [streams] at once
  exact absurd once (by decide)

end GstPipeline.Binder
