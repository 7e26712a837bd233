/-
**Which ports concurrent `bind` calls grant.**

`bind` reads `port_base` for the reply and, several statements later, reads it again and writes it
plus three. None of this is under the mutex.

* The *port section* of a call runs from the read for its reply to that write; the call is
  `granting` its reply there.
* `PortReadClear` says of a step: a call reads the port for its reply only while no other call is in
  its port section.
* `grants_disjoint_iff`: while every step meets it, the triples of any two returned calls are
  disjoint, and once all `n` calls have returned `port_base` has advanced by exactly `3 * n`. A run
  in which all calls return and the triples are disjoint meets it at every step: the first call that
  reads inside another's port section is granted the same port.
* `same_port_twice`: two calls that overlap are granted one triple, and one advance is lost.
-/

import GstPipeline.Binder.Threads
import Mathlib.Data.Finset.Insert

namespace GstPipeline.Binder

open GstPipeline.Lib

/-! ### The port section of a call -/

/-- The three UDP ports that both ends derive from a granted port. -/
def portTriple (port : Int) : Finset Int := {port, port + 1, port + 2}

theorem disjoint_portTriple {first second : Int}
    (apart : first + 3 ≤ second ∨ second + 3 ≤ first) :
    Disjoint (portTriple first) (portTriple second) := by
  rw [Finset.disjoint_left]
  intro port member memberToo
  simp only [portTriple, Finset.mem_insert, Finset.mem_singleton] at member memberToo
  omega

theorem not_disjoint_portTriple (port : Int) : ¬ Disjoint (portTriple port) (portTriple port) := by
  intro disjoint
  exact Finset.disjoint_left.mp disjoint (Finset.mem_insert_self port _)
    (Finset.mem_insert_self port _)

/-- The call is about to read `port_base` for its reply. -/
def replying : Thread → Bool
  | .bind _ .setReply => true
  | _ => false

/-- The reply of a call that has read its port and not yet written `port_base`. -/
def granting : Thread → Option BindInfo
  | .bind _ (.setRecord bindInfo) => some bindInfo
  | .bind _ (.setLastSeen bindInfo _) => some bindInfo
  | .bind _ (.lock bindInfo _) => some bindInfo
  | .bind _ (.push bindInfo _) => some bindInfo
  | .bind _ (.unlock bindInfo) => some bindInfo
  | .bind _ (.loadPort bindInfo) => some bindInfo
  | .bind _ (.storePort bindInfo _) => some bindInfo
  | _ => none

/-- The value of `port_base` that the call's `+=` has read. -/
def loaded : Thread → Option Int
  | .bind _ (.storePort _ port) => some port
  | _ => none

/-- The reply of a call that has returned. -/
def granted : Thread → Option BindInfo
  | .bind _ (.returned bindInfo) => some bindInfo
  | _ => none

/-- The thread is a call of `bind`. -/
def isBind : Thread → Bool
  | .bind _ _ => true
  | _ => false

theorem granting_of_loaded {thread : Thread} {port : Int} (read : loaded thread = some port) :
    ∃ bindInfo, granting thread = some bindInfo := by
  cases thread with
  | bind inAddr pc =>
    cases pc with
    | storePort bindInfo port => exact ⟨bindInfo, rfl⟩
    | _ => cases read
  | _ => cases read

theorem isBind_of_granting {thread : Thread} {bindInfo : BindInfo}
    (pending : granting thread = some bindInfo) : isBind thread = true := by
  cases thread with
  | bind inAddr pc => rfl
  | _ => cases pending

theorem granted_of_granting {thread : Thread} {bindInfo : BindInfo}
    (pending : granting thread = some bindInfo) : granted thread = none := by
  cases thread with
  | bind inAddr pc =>
    cases pc with
    | returned bindInfo => cases pending
    | _ => rfl
  | _ => rfl

/-- Only calls return. -/
theorem isBind_of_granted {thread : Thread} (returned : (granted thread).isSome = true) :
    isBind thread = true := by
  cases thread with
  | bind inAddr pc => rfl
  | _ => cases returned

/-- What a move does to the port section of its thread. -/
inductive PortMove (binder : ServerBinder) (mine : Thread) : Operation → Thread → Prop
  | keep {operation : Operation} {mine' : Thread} (noStore : ∀ port, operation ≠ .storePortBase port)
      (sameGranting : granting mine' = granting mine) (sameLoaded : loaded mine' = loaded mine)
      (sameGranted : granted mine' = granted mine) : PortMove binder mine operation mine'
  | enter {bindInfo : BindInfo} {mine' : Thread} (reads : replying mine)
      (port : bindInfo.port = binder.portBase) (before : granted mine = none)
      (now : granting mine' = some bindInfo) (notLoaded : loaded mine' = none)
      (notGranted : granted mine' = none) : PortMove binder mine .read mine'
  | load {bindInfo : BindInfo} {mine' : Thread} (before : granting mine = some bindInfo)
      (now : granting mine' = some bindInfo) (read : loaded mine' = some binder.portBase)
      (notGranted : granted mine' = none) (notGrantedBefore : granted mine = none) :
      PortMove binder mine .read mine'
  | leave {bindInfo : BindInfo} {port : Int} {mine' : Thread} (before : granting mine = some bindInfo)
      (read : loaded mine = some port) (notGranted : granted mine = none)
      (left : granting mine' = none) (notLoaded : loaded mine' = none)
      (now : granted mine' = some bindInfo) :
      PortMove binder mine (.storePortBase (port + 3)) mine'

theorem portMove_of_move {binder : ServerBinder} {mine mine' : Thread} {operation : Operation}
    (move : Move binder mine operation mine') : PortMove binder mine operation mine' := by
  cases move with
  | bindReply => exact .enter rfl rfl rfl rfl rfl rfl
  | bindLoad => exact .load rfl rfl rfl rfl rfl
  | bindStore => exact .leave rfl rfl rfl rfl rfl rfl
  | _ => exact .keep (fun _ same => by cases same) rfl rfl rfl

theorem isBind_of_move {binder : ServerBinder} {mine mine' : Thread} {operation : Operation}
    (move : Move binder mine operation mine') : isBind mine' = isBind mine := by
  cases move <;> rfl

/-! ### Runs -/

section Runs

variable {T : Type}

/-- If the thread's next step reads `port_base` for a reply, no call is in its port section. -/
def PortReadClear (config : ServerConfig T) (thread : T) : Prop :=
  replying (config.threads thread) = true → ∀ other, granting (config.threads other) = none

instance [Fintype T] (config : ServerConfig T) (thread : T) :
    Decidable (PortReadClear config thread) :=
  inferInstanceAs (Decidable (_ = _ → ∀ _, _ = _))

/-- The triples of any two returned calls are disjoint. -/
def GrantsDisjoint (config : ServerConfig T) : Prop :=
  ∀ t u a b, t ≠ u → granted (config.threads t) = some a → granted (config.threads u) = some b →
    Disjoint (portTriple a.port) (portTriple b.port)

/-- Every call of `bind` has returned. -/
def AllReturned (config : ServerConfig T) : Prop :=
  ∀ thread, isBind (config.threads thread) = true → (granted (config.threads thread)).isSome

instance [Fintype T] (config : ServerConfig T) : Decidable (AllReturned config) :=
  inferInstanceAs (Decidable (∀ _, _ = _ → _))

/-- The number of calls of `bind`. -/
def bindCalls [Fintype T] (task : T → Task) : ℕ :=
  (Finset.univ.filter fun thread => isBind (task thread).start = true).card

/-- The number of calls that have returned. -/
def returnedCalls [Fintype T] (config : ServerConfig T) : ℕ :=
  (Finset.univ.filter fun thread => (granted (config.threads thread)).isSome = true).card

/-- What a run keeps while its port reads are clear. -/
structure PortsGranted [Fintype T] (first : Int) (config : ServerConfig T) : Prop where
  alone : ∀ t u a b, granting (config.threads t) = some a → granting (config.threads u) = some b →
    t = u
  current : ∀ t a, granting (config.threads t) = some a → a.port = config.shared.portBase
  loads : ∀ t port, loaded (config.threads t) = some port → port = config.shared.portBase
  below : ∀ t a, granted (config.threads t) = some a → a.port + 3 ≤ config.shared.portBase
  apart : ∀ t u a b, t ≠ u → granted (config.threads t) = some a →
    granted (config.threads u) = some b → a.port + 3 ≤ b.port ∨ b.port + 3 ≤ a.port
  count : config.shared.portBase = first + 3 * returnedCalls config

theorem start_portFree (task : Task) :
    granting task.start = none ∧ loaded task.start = none ∧ granted task.start = none := by
  cases task <;> exact ⟨rfl, rfl, rfl⟩

theorem portsGranted_start [Fintype T] (binder : ServerBinder) (task : T → Task) :
    PortsGranted binder.portBase (ServerConfig.start binder task) where
  alone t u a b claimed := by cases (start_portFree (task t)).1.symm.trans claimed
  current t a claimed := by cases (start_portFree (task t)).1.symm.trans claimed
  loads t port claimed := by cases (start_portFree (task t)).2.1.symm.trans claimed
  below t a claimed := by cases (start_portFree (task t)).2.2.symm.trans claimed
  apart t u a b _ claimed := by cases (start_portFree (task t)).2.2.symm.trans claimed
  count := by
    have none' : returnedCalls (ServerConfig.start binder task) = 0 := by
      unfold returnedCalls
      rw [Finset.card_eq_zero, Finset.filter_eq_empty_iff]
      intro t _
      have free : granted ((ServerConfig.start binder task).threads t) = none :=
        (start_portFree (task t)).2.2
      simp [free]
    rw [none']
    show binder.portBase = binder.portBase + 3 * ((0 : ℕ) : Int)
    omega

/-- A step that neither writes `port_base` nor returns from a call. -/
theorem portsGranted_same [Fintype T] {first : Int} {config after : ServerConfig T}
    (inv : PortsGranted first config) (base : after.shared.portBase = config.shared.portBase)
    (granteds : ∀ u, granted (after.threads u) = granted (config.threads u))
    (alone : ∀ t u a b, granting (after.threads t) = some a → granting (after.threads u) = some b →
      t = u)
    (current : ∀ t a, granting (after.threads t) = some a → a.port = config.shared.portBase)
    (loads : ∀ t port, loaded (after.threads t) = some port → port = config.shared.portBase) :
    PortsGranted first after where
  alone := alone
  current := base ▸ current
  loads := base ▸ loads
  below t a claimed := by
    rw [granteds] at claimed
    rw [base]
    exact inv.below t a claimed
  apart t u a b different claimed claimedToo := by
    rw [granteds] at claimed claimedToo
    exact inv.apart t u a b different claimed claimedToo
  count := by
    have returned : returnedCalls after = returnedCalls config := by
      unfold returnedCalls
      simp only [granteds]
    rw [base, returned]
    exact inv.count

variable [DecidableEq T]

/-- A call that writes `port_base` returns. -/
theorem returnedCalls_leave [Fintype T] {config after : ServerConfig T} {thread : T} {mine' : Thread}
    {bindInfo : BindInfo} (notReturned : granted (config.threads thread) = none)
    (now : granted mine' = some bindInfo) (mine : after.threads thread = mine')
    (others : ∀ u, u ≠ thread → after.threads u = config.threads u) :
    returnedCalls after = returnedCalls config + 1 := by
  have threads : after.threads = Function.update config.threads thread mine' :=
    Function.eq_update_iff.mpr ⟨mine, others⟩
  unfold returnedCalls
  rw [threads]
  exact card_update_add_one (fun mine => (granted mine).isSome = true) config.threads thread
    mine' (by simp [notReturned]) (by simp [now])

/-- **One clear step.** -/
theorem portsGranted_step [Fintype T] {first : Int} {config after : ServerConfig T} {thread : T}
    (inv : PortsGranted first config) (clear : PortReadClear config thread)
    (stepped : serverStep config thread = some after) : PortsGranted first after := by
  obtain ⟨operation, mine', move, applied, mine, others⟩ := serverStep_cases stepped
  cases portMove_of_move move with
  | keep noStore sameGranting sameLoaded sameGranted =>
    have grantings := reading_unchanged granting mine others sameGranting
    have loads := reading_unchanged loaded mine others sameLoaded
    refine portsGranted_same inv (portBase_apply applied noStore)
      (reading_unchanged granted mine others sameGranted) ?_ ?_ ?_
    · simpa only [grantings] using inv.alone
    · simpa only [grantings] using inv.current
    · simpa only [loads] using inv.loads
  | @enter bindInfo _ reads port before now notLoaded notGranted =>
    have grantings : ∀ u a, granting (after.threads u) = some a → u = thread ∧ a = bindInfo := by
      intro u a claimed
      rcases reading_after granting mine others claimed with ⟨here, own⟩ | ⟨_, older⟩
      · exact ⟨here, (Option.some.inj (now.symm.trans own)).symm⟩
      · cases (clear reads u).symm.trans older
    refine portsGranted_same inv (portBase_apply applied fun port same => by cases same)
      (reading_unchanged granted mine others (notGranted.trans before.symm)) ?_ ?_ ?_
    · intro t u a b claimed claimedToo
      rw [(grantings t a claimed).1, (grantings u b claimedToo).1]
    · intro t a claimed
      rw [(grantings t a claimed).2, port]
    · intro t v claimed
      rcases reading_after loaded mine others claimed with ⟨_, own⟩ | ⟨_, older⟩
      · cases notLoaded.symm.trans own
      · exact inv.loads t v older
  | @load bindInfo _ before now read notGranted notGrantedBefore =>
    have grantings := reading_unchanged granting mine others (now.trans before.symm)
    refine portsGranted_same inv (portBase_apply applied fun port same => by cases same)
      (reading_unchanged granted mine others (notGranted.trans notGrantedBefore.symm)) ?_ ?_ ?_
    · simpa only [grantings] using inv.alone
    · simpa only [grantings] using inv.current
    · intro t v claimed
      rcases reading_after loaded mine others claimed with ⟨_, own⟩ | ⟨_, older⟩
      · exact (Option.some.inj (read.symm.trans own)).symm
      · exact inv.loads t v older
  | @leave bindInfo port _ before read notGranted left notLoaded now =>
    have base : after.shared.portBase = config.shared.portBase + 3 := by
      rw [portBase_store applied, inv.loads thread port read]
    have grantings : ∀ u, granting (after.threads u) = none := by
      intro u
      by_cases here : u = thread
      · rw [here, mine, left]
      · rw [others u here]
        cases claimed : granting (config.threads u) with
        | none => rfl
        | some a => exact (here (inv.alone u thread a bindInfo claimed before)).elim
    have granteds : ∀ u a, granted (after.threads u) = some a →
        (u = thread ∧ a.port = config.shared.portBase) ∨ granted (config.threads u) = some a := by
      intro u a claimed
      rcases reading_after granted mine others claimed with ⟨here, own⟩ | ⟨_, older⟩
      · cases now.symm.trans own
        exact Or.inl ⟨here, inv.current thread bindInfo before⟩
      · exact Or.inr older
    have returned := returnedCalls_leave notGranted now mine others
    constructor
    · intro t u a b claimed
      rw [grantings t] at claimed
      cases claimed
    · intro t a claimed
      rw [grantings t] at claimed
      cases claimed
    · intro t v claimed
      obtain ⟨a, pending⟩ := granting_of_loaded claimed
      rw [grantings t] at pending
      cases pending
    · intro t a claimed
      rcases granteds t a claimed with ⟨_, port⟩ | claimed
      · omega
      · have := inv.below t a claimed
        omega
    · intro t u a b different claimed claimedToo
      rcases granteds t a claimed with ⟨here, port⟩ | claimed <;>
        rcases granteds u b claimedToo with ⟨hereToo, portToo⟩ | claimedToo
      · exact (different (here.trans hereToo.symm)).elim
      · have := inv.below u b claimedToo
        omega
      · have := inv.below t a claimed
        omega
      · exact inv.apart t u a b different claimed claimedToo
    · rw [base, returned, inv.count]
      omega

/-- A reply that was read is returned in the end, and never changes. -/
theorem grantOpen_step {config after : ServerConfig T} {thread owner : T} {bindInfo : BindInfo}
    (claimed : granting (config.threads owner) = some bindInfo ∨
      granted (config.threads owner) = some bindInfo)
    (stepped : serverStep config thread = some after) :
    granting (after.threads owner) = some bindInfo ∨
      granted (after.threads owner) = some bindInfo := by
  obtain ⟨operation, mine', move, applied, mine, others⟩ := serverStep_cases stepped
  by_cases here : owner = thread
  · rw [here] at claimed ⊢
    rw [mine]
    cases portMove_of_move move with
    | keep noStore sameGranting sameLoaded sameGranted =>
      rw [sameGranting, sameGranted]
      exact claimed
    | enter reads port before now notLoaded notGranted =>
      rcases claimed with claimed | claimed
      · cases place : config.threads thread with
        | bind inAddr pc => cases pc <;> simp_all [replying, granting]
        | _ => simp [place, granting] at claimed
      · rw [before] at claimed
        cases claimed
    | load before now read notGranted notGrantedBefore =>
      rw [now, ← before]
      exact claimed.imp id fun claimed => by rw [notGrantedBefore] at claimed; cases claimed
    | leave before read notGranted left notLoaded now =>
      rw [now, ← before]
      exact Or.inr (claimed.resolve_right fun claimed => by
        rw [notGranted] at claimed
        cases claimed)
  · rw [others owner here]
    exact claimed

/-- **A read inside another call's port section grants the same port twice.** -/
theorem same_port_of_unclear [Fintype T] {first : Int} {config next : ServerConfig T} {thread : T}
    (inv : PortsGranted first config) (unclear : ¬ PortReadClear config thread)
    (stepped : serverStep config thread = some next) :
    ∃ other a b, other ≠ thread ∧ granting (next.threads other) = some a ∧
      granting (next.threads thread) = some b ∧ a.port = b.port := by
  unfold PortReadClear at unclear
  push Not at unclear
  obtain ⟨reads, other, pending⟩ := unclear
  obtain ⟨a, pending⟩ := Option.ne_none_iff_exists'.mp pending
  obtain ⟨operation, mine', move, applied, mine, others⟩ := serverStep_cases stepped
  obtain ⟨inAddr, place⟩ : ∃ inAddr, config.threads thread = .bind inAddr .setReply := by
    cases spot : config.threads thread with
    | bind inAddr pc => cases pc <;> simp_all [replying]
    | _ => simp [spot, replying] at reads
  have different : other ≠ thread := by
    rintro rfl
    rw [place] at pending
    cases pending
  rw [place] at move
  cases move with
  | bindReply =>
    refine ⟨other, a, config.shared.toServerBinder.reply inAddr, different, ?_, ?_, ?_⟩
    · rw [others other different]
      exact pending
    · rw [mine]
      rfl
    · exact inv.current other a pending

variable {binder : ServerBinder} {task : T → Task} {schedule : List T} {final : ServerConfig T}

/-- A thread stays what it was started for. -/
theorem isBind_run
    (reached : runSteps serverStep (ServerConfig.start binder task) schedule = some final)
    (thread : T) : isBind (final.threads thread) = isBind (task thread).start := by
  refine run_invariant
    (I := fun config => isBind (config.threads thread) = isBind (task thread).start)
    (fun config label after same stepped => ?_) reached rfl
  obtain ⟨operation, mine', move, applied, mine, others⟩ := serverStep_cases stepped
  exact (reading_unchanged isBind mine others (isBind_of_move move) thread).trans same

theorem returnedCalls_of_all [Fintype T]
    (reached : runSteps serverStep (ServerConfig.start binder task) schedule = some final)
    (all : AllReturned final) : returnedCalls final = bindCalls task := by
  unfold returnedCalls bindCalls
  congr 1
  ext t
  simp only [Finset.mem_filter, Finset.mem_univ, true_and]
  rw [← isBind_run reached t]
  exact ⟨isBind_of_granted, all t⟩

/-- **Disjoint port grants.** While the port reads of a run are clear, the triples of any two
returned calls are disjoint, and once all calls have returned `port_base` has advanced by three for
each; and a run whose calls have all returned, with disjoint triples, had clear port reads. -/
theorem grants_disjoint_iff [Fintype T]
    (reached : runSteps serverStep (ServerConfig.start binder task) schedule = some final) :
    (Along serverStep PortReadClear (ServerConfig.start binder task) schedule →
      GrantsDisjoint final ∧
        (AllReturned final → final.shared.portBase = binder.portBase + 3 * bindCalls task)) ∧
    (AllReturned final → GrantsDisjoint final →
      Along serverStep PortReadClear (ServerConfig.start binder task) schedule) := by
  refine ⟨fun clear => ?_, fun all disjoint => ?_⟩
  · have inv : PortsGranted binder.portBase final := run_invariant_along
      (fun _ _ _ inv clear stepped => portsGranted_step inv clear stepped)
      reached clear (portsGranted_start binder task)
    refine ⟨fun t u a b different returned returnedToo => ?_, fun all => ?_⟩
    · exact disjoint_portTriple (inv.apart t u a b different returned returnedToo)
    · rw [inv.count, returnedCalls_of_all reached all]
  · by_contra unclear
    obtain ⟨before, thread, after, middle, next, _, reaches, along, violated, stepped, later⟩ :=
      first_violation reached unclear
    have inv : PortsGranted binder.portBase middle := run_invariant_along
      (fun _ _ _ inv clear stepped => portsGranted_step inv clear stepped)
      reaches along (portsGranted_start binder task)
    obtain ⟨other, a, b, different, pending, pendingToo, same⟩ :=
      same_port_of_unclear inv violated stepped
    have returns : ∀ owner bindInfo, granting (next.threads owner) = some bindInfo →
        granted (final.threads owner) = some bindInfo := by
      intro owner bindInfo pending
      have ends : granting (final.threads owner) = some bindInfo ∨
          granted (final.threads owner) = some bindInfo :=
        run_invariant (I := fun config => granting (config.threads owner) = some bindInfo ∨
          granted (config.threads owner) = some bindInfo)
          (fun _ _ _ claimed stepped => grantOpen_step claimed stepped) later (Or.inl pending)
      refine ends.resolve_left fun still => ?_
      have returned := all owner (isBind_of_granting still)
      rw [granted_of_granting still] at returned
      cases returned
    have overlap := disjoint other thread a b different (returns other a pending)
      (returns thread b pendingToo)
    rw [same] at overlap
    exact not_disjoint_portTriple b.port overlap

end Runs

/-! ### Two runs -/

/-- Two clients. -/
def clientTasks : Bool → Task
  | false => .bind "10.0.0.1"
  | true => .bind "10.0.0.2"

/-- The second call starts once the first has advanced the port; its debug line comes earlier. -/
def inTurn : List Bool := [false, true] ++ List.replicate 8 false ++ List.replicate 8 true

theorem grants_disjoint_inTurn :
    ∃ final, runSteps serverStep
        (ServerConfig.start (.new "0.0.0.0" 3000 0 (2 * ·)) clientTasks) inTurn = some final ∧
      GrantsDisjoint final ∧ final.shared.portBase = 3000 + 3 * bindCalls clientTasks := by
  have ends : (runSteps serverStep
      (ServerConfig.start (.new "0.0.0.0" 3000 0 (2 * ·)) clientTasks) inTurn).map
        (fun final => decide (AllReturned final)) = some true := by decide
  obtain ⟨final, reached, all⟩ := Option.map_eq_some_iff.mp ends
  obtain ⟨disjoint, advanced⟩ := (grants_disjoint_iff reached).1 (by decide)
  exact ⟨final, reached, disjoint, advanced (of_decide_eq_true all)⟩

/-- Both calls read the port for their replies before either writes it, and both load it before
either stores it. -/
def overlapping : List Bool :=
  [false, false, true, true] ++ List.replicate 6 false ++ List.replicate 6 true ++ [false, true]

/-- **One triple for two clients, and one advance for two calls.** -/
theorem same_port_twice :
    ∃ final, runSteps serverStep
        (ServerConfig.start (.new "0.0.0.0" 3000 0 (2 * ·)) clientTasks) overlapping = some final ∧
      AllReturned final ∧ ¬ GrantsDisjoint final ∧ final.shared.portBase = 3003 := by
  have ends : (runSteps serverStep
      (ServerConfig.start (.new "0.0.0.0" 3000 0 (2 * ·)) clientTasks) overlapping).map
        (fun final => (final.threads false, final.threads true, final.shared.portBase,
          decide (AllReturned final))) =
      some (.bind "10.0.0.1" (.returned ⟨"0.0.0.0", "10.0.0.1", 3000⟩),
        .bind "10.0.0.2" (.returned ⟨"0.0.0.0", "10.0.0.2", 3000⟩), 3003, true) := by decide
  obtain ⟨final, reached, same⟩ := Option.map_eq_some_iff.mp ends
  simp only [Prod.mk.injEq] at same
  obtain ⟨first, second, port, all⟩ := same
  refine ⟨final, reached, of_decide_eq_true all, fun disjoint => ?_, port⟩
  refine not_disjoint_portTriple 3000 (disjoint false true ⟨"0.0.0.0", "10.0.0.1", 3000⟩
    ⟨"0.0.0.0", "10.0.0.2", 3000⟩ (by decide) ?_ ?_)
  · rw [first]
    rfl
  · rw [second]
    rfl

end GstPipeline.Binder
