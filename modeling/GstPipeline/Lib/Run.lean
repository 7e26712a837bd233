/-
**Runs of a labelled machine.**

A machine is a partial step function `σ → ε → Option σ`: a label names the move, and `none` is a
move that is not enabled. A run is the list of its labels, so a run is data that can be evaluated.

* `runSteps step start labels` is the state a run ends in.
* `Along step good start labels`: every step of the run is taken in a state where `good` holds of
  the state and the label. This is how a condition on the *state before a step* is put on a run.
* `run_invariant`, `run_invariant_along`: an invariant kept by every step (by every good step) is
  kept by every run (by every run that is good along).
* `reaches_of_decreases`: the progress rule. A measure that some move lowers, as long as the goal is
  not reached, leads to the goal.
* `not_stopped_iff_along`: where the bad steps are those that stop the machine, a run has not stopped
  if and only if it is good along.
* `first_violation`: a run that is not good along splits at its first bad step.
* `flawed_of_not_along`: where a bad step brings about a flaw that lasts, such a run ends with it.
* `kept_iff_along`: where the good steps keep an invariant and a bad step leads out of `P`, `P` holds
  throughout a run if and only if the run is good along. `kept_foldl_iff_along` is the same for a
  machine whose moves are all enabled.

The last section is about a family of machines that run side by side (`familyStep`): a label names
the machine that moves. What every step of one machine keeps, every run keeps of each of them.
-/

import Mathlib.Data.Option.Basic
import Mathlib.Logic.Function.Basic

namespace GstPipeline.Lib

section Run

variable {σ ε : Type} (step : σ → ε → Option σ)

/-- The state a run ends in, `none` when one of its moves is not enabled. -/
def runSteps : σ → List ε → Option σ
  | state, [] => some state
  | state, label :: rest => (step state label).bind fun next => runSteps next rest

/-- Every step of the run is taken in a state where `good` holds. -/
def Along (good : σ → ε → Prop) : σ → List ε → Prop
  | _, [] => True
  | state, label :: rest =>
      good state label ∧ ∀ next, step state label = some next → Along good next rest

/-- The states of a run can be computed, so a decidable condition on its steps is decidable. -/
instance decidableAlong (good : σ → ε → Prop) [∀ state label, Decidable (good state label)] :
    ∀ start labels, Decidable (Along step good start labels)
  | _, [] => isTrue trivial
  | state, label :: rest =>
    match moved : step state label with
    | none => decidable_of_iff (good state label)
        ⟨fun here => ⟨here, fun next stepped => by rw [moved] at stepped; cases stepped⟩,
          fun along => along.1⟩
    | some next =>
      have : Decidable (Along step good next rest) := decidableAlong good next rest
      decidable_of_iff (good state label ∧ Along step good next rest)
        ⟨fun both => ⟨both.1, fun other stepped => by
            rw [moved] at stepped
            cases stepped
            exact both.2⟩,
          fun along => ⟨along.1, along.2 next moved⟩⟩

variable {step}

@[simp] theorem runSteps_nil (state : σ) : runSteps step state [] = some state := rfl

theorem runSteps_cons {start final : σ} {label : ε} {rest : List ε} :
    runSteps step start (label :: rest) = some final ↔
      ∃ next, step start label = some next ∧ runSteps step next rest = some final := by
  simp only [runSteps, Option.bind_eq_some_iff]

theorem runSteps_append {start final : σ} {first second : List ε} :
    runSteps step start (first ++ second) = some final ↔
      ∃ middle, runSteps step start first = some middle ∧
        runSteps step middle second = some final := by
  induction first generalizing start with
  | nil => simp
  | cons label rest ih =>
    rw [List.cons_append, runSteps_cons]
    constructor
    · rintro ⟨next, stepped, later⟩
      obtain ⟨middle, reached, tail⟩ := ih.mp later
      exact ⟨middle, runSteps_cons.mpr ⟨next, stepped, reached⟩, tail⟩
    · rintro ⟨middle, reached, tail⟩
      obtain ⟨next, stepped, reached⟩ := runSteps_cons.mp reached
      exact ⟨next, stepped, ih.mpr ⟨middle, reached, tail⟩⟩

/-- A run followed by one more step. -/
theorem runSteps_snoc {start middle final : σ} {labels : List ε} {label : ε}
    (reached : runSteps step start labels = some middle) (stepped : step middle label = some final) :
    runSteps step start (labels ++ [label]) = some final :=
  runSteps_append.mpr ⟨middle, reached, runSteps_cons.mpr ⟨final, stepped, rfl⟩⟩

/-- **The invariant rule.** What every step keeps, every run keeps. -/
theorem run_invariant {I : σ → Prop}
    (keeps : ∀ state label next, I state → step state label = some next → I next)
    {start final : σ} {labels : List ε} (reached : runSteps step start labels = some final)
    (initially : I start) : I final := by
  induction labels generalizing start with
  | nil =>
    cases reached
    exact initially
  | cons label rest ih =>
    obtain ⟨next, stepped, later⟩ := runSteps_cons.mp reached
    exact ih later (keeps start label next initially stepped)

/-- **The invariant rule under a condition on the steps.** -/
theorem run_invariant_along {I : σ → Prop} {good : σ → ε → Prop}
    (keeps : ∀ state label next, I state → good state label → step state label = some next →
      I next)
    {start final : σ} {labels : List ε} (reached : runSteps step start labels = some final)
    (along : Along step good start labels) (initially : I start) : I final := by
  induction labels generalizing start with
  | nil =>
    cases reached
    exact initially
  | cons label rest ih =>
    obtain ⟨next, stepped, later⟩ := runSteps_cons.mp reached
    exact ih later (along.2 next stepped) (keeps start label next initially along.1 stepped)

/-- **The progress rule.** Where every state short of the goal has a move that lowers a measure, and keeps
the invariant, the goal can be reached with such moves. -/
theorem reaches_of_decreases {α : Type} [WellFoundedRelation α] (measure : σ → α)
    {I goal : σ → Prop} {allowed : ε → Prop}
    (moves : ∀ state, I state → ¬ goal state → ∃ label next, allowed label ∧
      step state label = some next ∧ I next ∧
      WellFoundedRelation.rel (measure next) (measure state))
    (state : σ) (holds : I state) :
    ∃ labels final, (∀ label ∈ labels, allowed label) ∧
      runSteps step state labels = some final ∧ I final ∧ goal final := by
  induction state using (InvImage.wf measure WellFoundedRelation.wf).induction with
  | _ state ih =>
    by_cases there : goal state
    · exact ⟨[], state, nofun, rfl, holds, there⟩
    · obtain ⟨label, next, may, stepped, kept, lower⟩ := moves state holds there
      obtain ⟨labels, final, all, reached, keeps, done⟩ := ih next lower kept
      refine ⟨label :: labels, final, fun other member => ?_,
        runSteps_cons.mpr ⟨next, stepped, reached⟩, keeps, done⟩
      rcases List.mem_cons.mp member with rfl | member
      · exact may
      · exact all other member

/-- A condition that follows from an invariant of the good steps holds along every good run. -/
theorem along_of_invariant {I : σ → Prop} {good better : σ → ε → Prop}
    (keeps : ∀ state label next, I state → good state label → step state label = some next →
      I next)
    (gives : ∀ state label next, I state → good state label → step state label = some next →
      better state label)
    {start final : σ} {labels : List ε} (reached : runSteps step start labels = some final)
    (along : Along step good start labels) (initially : I start) :
    Along step better start labels := by
  induction labels generalizing start with
  | nil => trivial
  | cons label rest ih =>
    obtain ⟨next, stepped, later⟩ := runSteps_cons.mp reached
    refine ⟨gives start label next initially along.1 stepped, fun other otherStepped => ?_⟩
    have same : other = next := Option.some.inj (otherStepped.symm.trans stepped)
    subst same
    exact ih later (along.2 other stepped) (keeps start label other initially along.1 stepped)

/-- A condition on the labels alone holds along a run that has only such labels. -/
theorem along_of_forall {good : ε → Prop} {start : σ} {labels : List ε}
    (all : ∀ label ∈ labels, good label) : Along step (fun _ label => good label) start labels := by
  induction labels generalizing start with
  | nil => trivial
  | cons label rest ih =>
    exact ⟨all label List.mem_cons_self,
      fun _ _ => ih fun other member => all other (List.mem_cons_of_mem _ member)⟩

theorem forall_of_along {good : ε → Prop} {start final : σ} {labels : List ε}
    (reached : runSteps step start labels = some final)
    (along : Along step (fun _ label => good label) start labels) :
    ∀ label ∈ labels, good label := by
  induction labels generalizing start with
  | nil => nofun
  | cons label rest ih =>
    obtain ⟨next, stepped, later⟩ := runSteps_cons.mp reached
    intro other member
    rcases List.mem_cons.mp member with rfl | member
    · exact along.1
    · exact ih later (along.2 next stepped) other member

/-- **Runs that may stop.** Where a stopped machine makes no more steps, and a step stops it exactly
when it is bad, a run has not stopped if and only if it is good along. -/
theorem not_stopped_iff_along {I stopped : σ → Prop} {good : σ → ε → Prop}
    (halts : ∀ state label, stopped state → step state label = none)
    (keeps : ∀ state label next, I state → step state label = some next → I next)
    (breaks : ∀ state label next, I state → step state label = some next →
      (¬ stopped next ↔ good state label))
    {start final : σ} {labels : List ε} (reached : runSteps step start labels = some final)
    (initially : I start) (running : ¬ stopped start) :
    ¬ stopped final ↔ Along step good start labels := by
  induction labels generalizing start with
  | nil =>
    cases reached
    exact ⟨fun _ => trivial, fun _ => running⟩
  | cons label rest ih =>
    obtain ⟨next, stepped, later⟩ := runSteps_cons.mp reached
    have here := breaks start label next initially stepped
    by_cases ends : stopped next
    · have last : final = next := by
        cases rest with
        | nil => exact (Option.some.inj later).symm
        | cons other rest =>
          obtain ⟨_, blocked, _⟩ := runSteps_cons.mp later
          cases (halts next other ends).symm.trans blocked
      rw [last]
      exact ⟨fun goes => (goes ends).elim, fun along => here.mpr along.1⟩
    · rw [ih later (keeps start label next initially stepped) ends]
      refine ⟨fun along => ⟨here.mp ends, fun other otherStepped => ?_⟩,
        fun along => along.2 next stepped⟩
      have same : other = next := Option.some.inj (otherStepped.symm.trans stepped)
      exact same ▸ along

/-- **The first bad step.** A run that is not good along reaches, by good steps only, a state whose
next step is bad. -/
theorem first_violation {good : σ → ε → Prop} {start final : σ} {labels : List ε}
    (reached : runSteps step start labels = some final) (bad : ¬ Along step good start labels) :
    ∃ before label after middle next,
      labels = before ++ label :: after ∧ runSteps step start before = some middle ∧
      Along step good start before ∧ ¬ good middle label ∧ step middle label = some next ∧
      runSteps step next after = some final := by
  induction labels generalizing start with
  | nil => exact (bad trivial).elim
  | cons label rest ih =>
    obtain ⟨next, stepped, later⟩ := runSteps_cons.mp reached
    by_cases here : good start label
    · have badLater : ¬ Along step good next rest := by
        intro along
        refine bad ⟨here, fun other otherStepped => ?_⟩
        have same : other = next := Option.some.inj (otherStepped.symm.trans stepped)
        exact same ▸ along
      obtain ⟨before, other, after, middle, last, split, reaches, along, violated, bads, tail⟩ :=
        ih later badLater
      refine ⟨label :: before, other, after, middle, last, by rw [split, List.cons_append],
        runSteps_cons.mpr ⟨next, stepped, reaches⟩, ⟨here, fun another anotherStepped => ?_⟩,
        violated, bads, tail⟩
      have same : another = next := Option.some.inj (anotherStepped.symm.trans stepped)
      exact same ▸ along
    · exact ⟨[], label, rest, start, next, rfl, rfl, trivial, here, stepped, later⟩

/-- **A lasting flaw.** Where the good steps keep an invariant, a bad step brings about a flaw and no
step removes it, a run that is not good along ends with the flaw. -/
theorem flawed_of_not_along {I F : σ → Prop} {good : σ → ε → Prop} {start final : σ}
    {labels : List ε} (reached : runSteps step start labels = some final)
    (bad : ¬ Along step good start labels) (initially : I start)
    (keeps : ∀ state label next, I state → good state label → step state label = some next →
      I next)
    (breaks : ∀ state label next, I state → ¬ good state label → step state label = some next →
      F next)
    (lasts : ∀ state label next, F state → step state label = some next → F next) :
    F final := by
  obtain ⟨before, label, after, middle, next, _, reaches, along, violated, stepped, later⟩ :=
    first_violation reached bad
  have inv : I middle := run_invariant_along keeps reaches along initially
  exact run_invariant lasts later (breaks middle label next inv violated stepped)

theorem along_before {good : σ → ε → Prop} {start : σ} {before labels : List ε}
    (part : before <+: labels) (along : Along step good start labels) :
    Along step good start before := by
  induction before generalizing start labels with
  | nil => trivial
  | cons label before ih =>
    obtain ⟨after, rfl⟩ := part
    exact ⟨along.1, fun next stepped => ih ⟨after, rfl⟩ (along.2 next stepped)⟩

theorem along_after {good : σ → ε → Prop} {start middle : σ} {before after : List ε}
    (reached : runSteps step start before = some middle)
    (along : Along step good start (before ++ after)) : Along step good middle after := by
  induction before generalizing start with
  | nil =>
    cases reached
    exact along
  | cons label before ih =>
    obtain ⟨next, stepped, later⟩ := runSteps_cons.mp reached
    exact ih later (along.2 next stepped)

/-- A good run goes on with a good run. -/
theorem along_append {good : σ → ε → Prop} {start middle : σ} {first second : List ε}
    (reached : runSteps step start first = some middle) (along : Along step good start first)
    (alongLater : Along step good middle second) : Along step good start (first ++ second) := by
  induction first generalizing start with
  | nil =>
    cases reached
    exact alongLater
  | cons label first ih =>
    obtain ⟨next, stepped, later⟩ := runSteps_cons.mp reached
    refine ⟨along.1, fun other otherStepped => ?_⟩
    have same : other = next := Option.some.inj (otherStepped.symm.trans stepped)
    subst same
    exact ih later (along.2 other stepped)

theorem along_mono {good better : σ → ε → Prop}
    (gives : ∀ state label, good state label → better state label) {start : σ} {labels : List ε}
    (along : Along step good start labels) : Along step better start labels := by
  induction labels generalizing start with
  | nil => trivial
  | cons label rest ih => exact ⟨gives start label along.1, fun next stepped => ih (along.2 next stepped)⟩

/-- **Throughout a run.** Where the good steps keep an invariant, and a bad step ends in a state
without `P`, `P` holds in every state of a run if and only if the run is good along. -/
theorem kept_iff_along {I P : σ → Prop} {good : σ → ε → Prop} (gives : ∀ state, I state → P state)
    (keeps : ∀ state label next, I state → good state label → step state label = some next →
      I next)
    (breaks : ∀ state label next, I state → ¬ good state label → step state label = some next →
      ¬ P next)
    {start final : σ} {labels : List ε} (reached : runSteps step start labels = some final)
    (initially : I start) :
    (∀ before, before <+: labels → ∀ state, runSteps step start before = some state → P state) ↔
      Along step good start labels := by
  constructor
  · intro kept
    by_contra bad
    obtain ⟨before, label, after, middle, next, split, reaches, along, violated, stepped, _⟩ :=
      first_violation reached bad
    have inv : I middle := run_invariant_along keeps reaches along initially
    refine breaks middle label next inv violated stepped
      (kept (before ++ [label]) ⟨after, ?_⟩ next (runSteps_snoc reaches stepped))
    rw [split, List.append_assoc]
    rfl
  · intro along before part state reaches
    exact gives state (run_invariant_along keeps reaches (along_before part along) initially)

/-- A machine whose moves are all enabled. -/
theorem runSteps_total (move : σ → ε → σ) (start : σ) (labels : List ε) :
    runSteps (fun state label => some (move state label)) start labels =
      some (labels.foldl move start) := by
  induction labels generalizing start with
  | nil => rfl
  | cons label rest ih => exact ih (move start label)

/-- **Throughout a run of such a machine.** -/
theorem kept_foldl_iff_along {I P : σ → Prop} {good : σ → ε → Prop} (move : σ → ε → σ)
    (gives : ∀ state, I state → P state)
    (keeps : ∀ state label, I state → good state label → I (move state label))
    (breaks : ∀ state label, I state → ¬ good state label → ¬ P (move state label))
    {start : σ} (initially : I start) (labels : List ε) :
    (∀ before, before <+: labels → P (before.foldl move start)) ↔
      Along (fun state label => some (move state label)) good start labels := by
  rw [← kept_iff_along gives (fun state label next inv here stepped => ?_)
    (fun state label next inv here stepped => ?_) (runSteps_total move start labels) initially]
  · constructor
    · intro kept before part state reaches
      obtain rfl := Option.some.inj ((runSteps_total move start before).symm.trans reaches)
      exact kept before part
    · exact fun kept before part => kept before part _ (runSteps_total move start before)
  · cases stepped
    exact keeps state label inv here
  · cases stepped
    exact breaks state label inv here

end Run

/-! ### Families -/

section Family

variable {ι σ ε : Type} [DecidableEq ι] (step : σ → ε → Option σ)

/-- One machine of the family moves. -/
def familyStep (states : ι → σ) (label : ι × ε) : Option (ι → σ) :=
  (step (states label.1) label.2).map (Function.update states label.1)

variable {step}

theorem familyStep_eq_some {states after : ι → σ} {label : ι × ε} :
    familyStep step states label = some after ↔
      ∃ next, step (states label.1) label.2 = some next ∧
        Function.update states label.1 next = after :=
  Option.map_eq_some_iff

/-- **The invariant rule for families.** -/
theorem family_invariant {I : σ → Prop}
    (keeps : ∀ state label next, I state → step state label = some next → I next)
    {start final : ι → σ} {labels : List (ι × ε)}
    (reached : runSteps (familyStep step) start labels = some final) (initially : ∀ i, I (start i))
    (i : ι) : I (final i) := by
  refine run_invariant (I := fun states => ∀ i, I (states i)) ?_ reached initially i
  intro states label after all stepped j
  obtain ⟨next, moved, rfl⟩ := familyStep_eq_some.mp stepped
  by_cases here : j = label.1
  · subst here
    rw [Function.update_self]
    exact keeps _ _ next (all label.1) moved
  · rw [Function.update_of_ne here]
    exact all j

end Family

end GstPipeline.Lib
