/-
**What the race for `port_base` cannot do.**

Calls of `bind` that overlap read and write `port_base` without the mutex, and can be granted one
triple (`PortGrant`). But each call writes a value it has read plus three, so whatever the
interleaving, every value of `port_base` is the first port plus a multiple of three, and not more
than the calls that have returned can have made it.

* `grants_aligned`: in every state of every run of `n` calls of `bind` whose `port + 3 * n` is below
  `2 ^ 31`, no `port_base += 3` overflows, and the port of every reply and of every record is one of
  `port`, `port + 3`, ..., `port + 3 * (n - 1)`. So two replies have the same triple or disjoint ones,
  never triples that overlap in part.
-/

import GstPipeline.Binder.PortGrant
import Mathlib.Tactic.Ring

namespace GstPipeline.Binder

open GstPipeline.Lib

/-! ### The ports a call has in its hands -/

/-- The port is one of the first `n` that are granted one after the other. -/
def InSteps (first : Int) (n : ℕ) (port : Int) : Prop := ∃ k : ℕ, k < n ∧ port = first + 3 * k

/-- The ports in the reply and in the record of a call. -/
def heldPorts : Thread → List Int
  | .bind _ (.setRecord bindInfo) => [bindInfo.port]
  | .bind _ (.setLastSeen bindInfo newService) => [bindInfo.port, newService.port]
  | .bind _ (.lock bindInfo newService) => [bindInfo.port, newService.port]
  | .bind _ (.push bindInfo newService) => [bindInfo.port, newService.port]
  | .bind _ (.unlock bindInfo) => [bindInfo.port]
  | .bind _ (.loadPort bindInfo) => [bindInfo.port]
  | .bind _ (.storePort bindInfo _) => [bindInfo.port]
  | .bind _ (.returned bindInfo) => [bindInfo.port]
  | _ => []

/-- A call gets its ports from `port_base`, before it returns. -/
theorem heldPorts_move {binder : ServerBinder} {mine mine' : Thread} {operation : Operation}
    (move : Move binder mine operation mine') {port : Int} (held : port ∈ heldPorts mine') :
    port ∈ heldPorts mine ∨ (port = binder.portBase ∧ isBind mine = true ∧ granted mine = none) := by
  cases move <;> simp_all [heldPorts, ServerBinder.reply, isBind, granted]

theorem held_of_push {binder : ServerBinder} {mine mine' : Thread} {newService : ServiceInfo}
    (move : Move binder mine (.pushBack newService) mine') : newService.port ∈ heldPorts mine := by
  cases move
  simp [heldPorts]

theorem held_of_granted {thread : Thread} {bindInfo : BindInfo}
    (done : granted thread = some bindInfo) : bindInfo.port ∈ heldPorts thread := by
  unfold granted at done
  split at done
  · cases done
    exact List.mem_singleton_self _
  · cases done

theorem disjoint_of_inSteps {first a b : Int} {n : ℕ} (alignedA : InSteps first n a)
    (alignedB : InSteps first n b) : a = b ∨ Disjoint (portTriple a) (portTriple b) := by
  obtain ⟨k, _, rfl⟩ := alignedA
  obtain ⟨l, _, rfl⟩ := alignedB
  by_cases same : k = l
  · exact Or.inl (by rw [same])
  · exact Or.inr (disjoint_portTriple (by omega))

section Runs

variable {T : Type} [Fintype T]

/-- `port_base` is an `int`, and so is what the `+=` of a call adds up to. -/
def PortsFit {T : Type} (config : ServerConfig T) : Prop :=
  InInt32 config.shared.portBase ∧
    ∀ t port, loaded (config.threads t) = some port → InInt32 (port + 3)

/-- What every run keeps. -/
structure PortsAligned (first : Int) (n : ℕ) (config : ServerConfig T) : Prop where
  calls : (Finset.univ.filter fun thread => isBind (config.threads thread) = true).card = n
  base : InSteps first (returnedCalls config + 1) config.shared.portBase
  loads : ∀ t port, loaded (config.threads t) = some port →
    InSteps first (returnedCalls config + 1) port
  held : ∀ t, ∀ port ∈ heldPorts (config.threads t), InSteps first n port
  table : ∀ bindInfo ∈ config.shared.serviceTable.entries.map ServiceInfo.bindInfo,
    InSteps first n bindInfo.port

theorem InSteps.mono {first port : Int} {m n : ℕ} (aligned : InSteps first m port) (le : m ≤ n) :
    InSteps first n port :=
  aligned.imp fun _ both => ⟨Nat.lt_of_lt_of_le both.1 le, both.2⟩

theorem returnedCalls_le (config : ServerConfig T) :
    returnedCalls config ≤
      (Finset.univ.filter fun thread => isBind (config.threads thread) = true).card := by
  refine Finset.card_le_card fun t returned => ?_
  rw [Finset.mem_filter] at returned ⊢
  exact ⟨returned.1, isBind_of_granted returned.2⟩

/-- A call that has not returned is not among those that have. -/
theorem returnedCalls_lt {config : ServerConfig T} {thread : T}
    (call : isBind (config.threads thread) = true)
    (notReturned : granted (config.threads thread) = none) :
    returnedCalls config <
      (Finset.univ.filter fun thread => isBind (config.threads thread) = true).card := by
  refine Finset.card_lt_card (Finset.ssubset_iff_of_subset ?_ |>.mpr ⟨thread, ?_, ?_⟩)
  · intro t returned
    rw [Finset.mem_filter] at returned ⊢
    exact ⟨returned.1, isBind_of_granted returned.2⟩
  · simpa using call
  · simp [notReturned]

variable [DecidableEq T]

/-- Returning is for good. -/
theorem returnedCalls_step {config after : ServerConfig T} {thread : T}
    (stepped : serverStep config thread = some after) :
    returnedCalls config ≤ returnedCalls after := by
  obtain ⟨operation, mine', move, applied, mine, others⟩ := serverStep_cases stepped
  refine Finset.card_le_card fun t returned => ?_
  rw [Finset.mem_filter] at returned ⊢
  refine ⟨returned.1, ?_⟩
  by_cases here : t = thread
  · subst here
    rw [mine]
    generalize config.threads t = own at move returned
    cases move <;> simp_all [granted]
  · rw [others t here]
    exact returned.2

/-- **One step.** -/
theorem portsAligned_step {first : Int} {n : ℕ} {config after : ServerConfig T} {thread : T}
    (inv : PortsAligned first n config) (stepped : serverStep config thread = some after) :
    PortsAligned first n after := by
  have grows := Nat.add_le_add_right (returnedCalls_step stepped) 1
  obtain ⟨operation, mine', move, applied, mine, others⟩ := serverStep_cases stepped
  have kinds := reading_unchanged isBind mine others (isBind_of_move move)
  have older : ∀ t v, loaded (config.threads t) = some v →
      InSteps first (returnedCalls after + 1) v := fun t v read => (inv.loads t v read).mono grows
  have held : ∀ t, ∀ p ∈ heldPorts (after.threads t), InSteps first n p := by
    intro t p member
    by_cases here : t = thread
    · rw [here, mine] at member
      rcases heldPorts_move move member with before | ⟨rfl, call, notReturned⟩
      · exact inv.held thread p before
      · exact inv.base.mono (inv.calls ▸ returnedCalls_lt call notReturned)
    · rw [others t here] at member
      exact inv.held t p member
  have table : ∀ bindInfo ∈ after.shared.serviceTable.entries.map ServiceInfo.bindInfo,
      InSteps first n bindInfo.port := by
    by_cases push : ∃ newService, operation = .pushBack newService
    · obtain ⟨newService, rfl⟩ := push
      rw [← Option.some.inj applied]
      intro bindInfo member
      simp only [StdVector.entries_pushBack, List.map_append, List.map_singleton, List.mem_append,
        List.mem_singleton] at member
      rcases member with member | rfl
      · exact inv.table bindInfo member
      · exact inv.held thread _ (held_of_push move)
    · push Not at push
      rw [(table_apply applied push).2.2]
      exact inv.table
  have calls : (Finset.univ.filter fun thread => isBind (after.threads thread) = true).card = n := by
    simp only [kinds]
    exact inv.calls
  cases portMove_of_move move with
  | keep noStore _ sameLoaded _ =>
    refine ⟨calls, (portBase_apply applied noStore).symm ▸ inv.base.mono grows, ?_, held, table⟩
    simpa only [reading_unchanged loaded mine others sameLoaded] using older
  | enter _ _ _ _ notLoaded _ =>
    refine ⟨calls, (portBase_apply applied nofun).symm ▸ inv.base.mono grows, ?_, held, table⟩
    intro t v read
    rcases reading_after loaded mine others read with ⟨_, own⟩ | ⟨_, before⟩
    · cases notLoaded.symm.trans own
    · exact older t v before
  | load _ _ read _ _ =>
    refine ⟨calls, (portBase_apply applied nofun).symm ▸ inv.base.mono grows, ?_, held, table⟩
    intro t v claimed
    rcases reading_after loaded mine others claimed with ⟨_, own⟩ | ⟨_, before⟩
    · cases read.symm.trans own
      exact inv.base.mono grows
    · exact older t v before
  | @leave bindInfo port _ _ read notReturned _ notLoaded now =>
    obtain ⟨k, below, rfl⟩ := inv.loads thread _ read
    have returns := returnedCalls_leave notReturned now mine others
    refine ⟨calls, ⟨k + 1, by omega, ?_⟩, ?_, held, table⟩
    · rw [portBase_store applied]
      push_cast
      ring
    · intro t v claimed
      rcases reading_after loaded mine others claimed with ⟨_, own⟩ | ⟨_, before⟩
      · cases notLoaded.symm.trans own
      · exact older t v before

omit [DecidableEq T] in
theorem portsAligned_start (ip : String) (port now : Int) (growth : ℕ → ℕ) (task : T → Task) :
    PortsAligned port (bindCalls task) (ServerConfig.start (.new ip port now growth) task) where
  calls := rfl
  base := ⟨0, Nat.succ_pos _, by show port = port + 3 * ((0 : ℕ) : Int); omega⟩
  loads t v read := by cases (start_portFree (task t)).2.1.symm.trans read
  held t p member := by
    have empty : heldPorts (task t).start = [] := by cases task t <;> rfl
    rw [show (ServerConfig.start (.new ip port now growth) task).threads t = (task t).start from rfl,
      empty] at member
    cases member
  table bindInfo member := by cases member

omit [DecidableEq T] in
/-- Below the last port of `n` calls nothing overflows. -/
theorem portsFit_of_aligned {first : Int} {n : ℕ} {config : ServerConfig T}
    (inv : PortsAligned first n config) (low : -2 ^ 31 ≤ first) (high : first + 3 * n < 2 ^ 31) :
    PortsFit config := by
  constructor
  · obtain ⟨k, below, same⟩ := inv.base
    have calls : returnedCalls config ≤ n := by
      rw [← inv.calls]
      exact returnedCalls_le config
    rw [same]
    exact ⟨by omega, by omega⟩
  · intro t port read
    obtain ⟨k, below, rfl⟩ := inv.loads t port read
    obtain ⟨bindInfo, pending⟩ := granting_of_loaded read
    have calls := returnedCalls_lt (isBind_of_granting pending) (granted_of_granting pending)
    rw [inv.calls] at calls
    exact ⟨by omega, by omega⟩

variable {ip : String} {port now : Int} {growth : ℕ → ℕ} {task : T → Task} {schedule : List T}
  {final : ServerConfig T}

/-- **Whatever the interleaving, ports stay on the grid.** Where the grid of the `n` calls of `bind`
fits in 32 bits, no addition overflows; the port of every reply and of every record is one of the
first `n` of the grid; two replies have one triple or disjoint triples; and if the triples up to the
last one are UDP ports, all granted are. -/
theorem grants_aligned
    (reached : runSteps serverStep (ServerConfig.start (.new ip port now growth) task) schedule =
      some final)
    (low : -2 ^ 31 ≤ port) (high : port + 3 * bindCalls task < 2 ^ 31) :
    PortsFit final ∧
      (∀ t a, granted (final.threads t) = some a → InSteps port (bindCalls task) a.port) ∧
      (∀ entry ∈ final.shared.serviceTable.entries, InSteps port (bindCalls task) entry.port) ∧
      (∀ t u a b, granted (final.threads t) = some a → granted (final.threads u) = some b →
        a.port = b.port ∨ Disjoint (portTriple a.port) (portTriple b.port)) ∧
      (1 ≤ port → port + 3 * bindCalls task ≤ 65536 → ∀ t a, granted (final.threads t) = some a →
        ∀ p ∈ portTriple a.port, 1 ≤ p ∧ p ≤ 65535) := by
  have inv : PortsAligned port (bindCalls task) final :=
    run_invariant (fun _ _ _ inv stepped => portsAligned_step inv stepped) reached
      (portsAligned_start ip port now growth task)
  have replies : ∀ t a, granted (final.threads t) = some a →
      InSteps port (bindCalls task) a.port := fun t a done => inv.held t _ (held_of_granted done)
  refine ⟨portsFit_of_aligned inv low high, replies,
    fun entry member => inv.table _ (List.mem_map_of_mem member),
    fun t u a b first second => disjoint_of_inSteps (replies t a first) (replies u b second),
    fun first last t a done p member => ?_⟩
  obtain ⟨k, below, same⟩ := replies t a done
  simp only [portTriple, Finset.mem_insert, Finset.mem_singleton] at member
  omega

end Runs

/-! ### Two overlapping calls -/

theorem grants_aligned_overlapping :
    ∃ final, runSteps serverStep
        (ServerConfig.start (.new "0.0.0.0" 3000 0 (2 * ·)) clientTasks) overlapping = some final ∧
      final.shared.serviceTable.entries.length = 2 ∧ PortsFit final ∧
      ∀ entry ∈ final.shared.serviceTable.entries, InSteps 3000 (bindCalls clientTasks) entry.port := by
  have ends : (runSteps serverStep
      (ServerConfig.start (.new "0.0.0.0" 3000 0 (2 * ·)) clientTasks) overlapping).map
        (fun final => final.shared.serviceTable.entries.length) = some 2 := by decide
  obtain ⟨final, reached, length⟩ := Option.map_eq_some_iff.mp ends
  obtain ⟨fits, _, table, _⟩ := grants_aligned reached (by decide) (by decide)
  exact ⟨final, reached, length, fits, table⟩

end GstPipeline.Binder
