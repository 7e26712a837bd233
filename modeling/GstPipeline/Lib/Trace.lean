/-
**What a run shows, and refinement.**

The steps of a machine show events: `emits state label` are those of one step, and `trace` those of a
run, in their order.

* `trace_invariant_along`: the invariant rule with the history. What relates the events shown so far
  to the state, and is kept by every good step, relates the trace of a good run to the state it
  ends in.
* `history_invariant`: the same for the history of the labels themselves.
* `refines_run`: the rule of forward simulation. Where the events of each step are a run of an
  abstract machine, between states related to those before and after the step, the trace of a run is
  a run of the abstract machine. A step that shows nothing is one in which it does not move.
-/

import GstPipeline.Lib.Run

namespace GstPipeline.Lib

section Trace

variable {σ ε E : Type} (step : σ → ε → Option σ) (emits : σ → ε → List E)

/-- The events of a run, as far as its moves are enabled. -/
def trace : σ → List ε → List E
  | _, [] => []
  | state, label :: rest =>
    match step state label with
    | some next => emits state label ++ trace next rest
    | none => []

variable {step emits}

@[simp] theorem trace_nil (state : σ) : trace step emits state [] = [] := rfl

theorem trace_cons {state next : σ} {label : ε} (stepped : step state label = some next)
    (rest : List ε) :
    trace step emits state (label :: rest) = emits state label ++ trace step emits next rest := by
  simp only [trace, stepped]

/-- **The invariant rule with the history.** -/
theorem trace_invariant_along {H : List E → σ → Prop} {good : σ → ε → Prop}
    (keeps : ∀ shown state label next, H shown state → good state label →
      step state label = some next → H (shown ++ emits state label) next)
    {start final : σ} {labels : List ε} (reached : runSteps step start labels = some final)
    (along : Along step good start labels) (shown : List E) (initially : H shown start) :
    H (shown ++ trace step emits start labels) final := by
  induction labels generalizing start shown with
  | nil =>
    cases reached
    rw [trace_nil, List.append_nil]
    exact initially
  | cons label rest ih =>
    obtain ⟨next, stepped, later⟩ := runSteps_cons.mp reached
    rw [trace_cons stepped, ← List.append_assoc]
    exact ih later (along.2 next stepped) _ (keeps shown start label next initially along.1 stepped)

/-- The same without a condition on the steps, from the start of the history. -/
theorem trace_invariant {H : List E → σ → Prop}
    (keeps : ∀ shown state label next, H shown state → step state label = some next →
      H (shown ++ emits state label) next)
    {start final : σ} {labels : List ε} (reached : runSteps step start labels = some final)
    (initially : H [] start) : H (trace step emits start labels) final := by
  have always : Along step (fun _ _ => True) start labels := along_of_forall fun _ _ => trivial
  exact trace_invariant_along
    (fun shown state label next holds _ stepped => keeps shown state label next holds stepped)
    reached always [] initially

/-- What relates the moves made so far to the state, and is kept by every step, relates the labels of
a run to the state it ends in. -/
theorem history_invariant {H : List ε → σ → Prop}
    (keeps : ∀ history state label next, H history state → step state label = some next →
      H (history ++ [label]) next)
    {start final : σ} {labels : List ε} (reached : runSteps step start labels = some final)
    (initially : H [] start) : H labels final := by
  have moves : trace step (fun _ label => [label]) start labels = labels := by
    clear initially
    induction labels generalizing start with
    | nil => rfl
    | cons label rest ih =>
      obtain ⟨next, stepped, later⟩ := runSteps_cons.mp reached
      rw [trace_cons stepped, ih later, List.singleton_append]
  have holds := trace_invariant keeps reached initially
  rwa [moves] at holds

/-- **The rule of forward simulation.** -/
theorem refines_run {α : Type} {abstract : α → E → Option α} {R : σ → α → Prop} {I : σ → Prop}
    {good : σ → ε → Prop}
    (keeps : ∀ state label next, I state → good state label → step state label = some next →
      I next)
    (simulates : ∀ state label next a, I state → good state label →
      step state label = some next → R state a →
      ∃ a', runSteps abstract a (emits state label) = some a' ∧ R next a')
    {start final : σ} {labels : List ε} (reached : runSteps step start labels = some final)
    (along : Along step good start labels) (initially : I start) {a : α} (related : R start a) :
    ∃ a', runSteps abstract a (trace step emits start labels) = some a' ∧ R final a' := by
  refine (trace_invariant_along
    (H := fun shown state => I state ∧ ∃ a', runSteps abstract a shown = some a' ∧ R state a')
    ?_ reached along [] ⟨initially, a, rfl, related⟩).2
  rintro shown state label next ⟨inv, a', ran, related⟩ here stepped
  obtain ⟨a'', moves, now⟩ := simulates state label next a' inv here stepped related
  exact ⟨keeps state label next inv here stepped, a'', runSteps_append.mpr ⟨a', ran, moves⟩, now⟩

end Trace

end GstPipeline.Lib
