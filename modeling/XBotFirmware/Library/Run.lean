import Mathlib.Data.List.Induction

/-!
Finite runs of a partial, labelled step function.

A label names one atomic step together with every choice the environment makes
in it, so a list of labels is an interleaving.  A step that is not enabled, or
whose meaning is undefined, yields `none` and ends the run.
-/

namespace XBotFirmware.Library

universe u v

variable {State : Type u} {Label : Type v}

/-- Execute a list of labels from left to right. -/
def run (step : State → Label → Option State) : State → List Label → Option State
  | state, [] => some state
  | state, label :: rest => (step state label).bind fun next => run step next rest

@[simp]
theorem run_nil (step : State → Label → Option State) (state : State) :
    run step state [] = some state := rfl

@[simp]
theorem run_cons (step : State → Label → Option State) (state : State)
    (label : Label) (rest : List Label) :
    run step state (label :: rest) =
      (step state label).bind fun next => run step next rest := rfl

theorem run_append (step : State → Label → Option State) (state : State)
    (first second : List Label) :
    run step state (first ++ second) =
      (run step state first).bind fun middle => run step middle second := by
  induction first generalizing state with
  | nil => simp
  | cons label rest inductionHypothesis =>
      simp only [List.cons_append, run_cons, Option.bind_assoc, inductionHypothesis]

theorem run_cons_eq_some {step : State → Label → Option State} {state final : State}
    {label : Label} {rest : List Label} :
    run step state (label :: rest) = some final ↔
      ∃ next, step state label = some next ∧ run step next rest = some final := by
  simp [Option.bind_eq_some_iff]

theorem run_append_eq_some {step : State → Label → Option State} {state final : State}
    {first second : List Label} :
    run step state (first ++ second) = some final ↔
      ∃ middle, run step state first = some middle ∧
        run step middle second = some final := by
  simp [run_append, Option.bind_eq_some_iff]

theorem run_concat_eq_some {step : State → Label → Option State} {state final : State}
    {labels : List Label} {label : Label} :
    run step state (labels ++ [label]) = some final ↔
      ∃ middle, run step state labels = some middle ∧
        step middle label = some final := by
  simp [run_append_eq_some]

/-- The invariant rule for runs whose labels all satisfy `allowed`. -/
theorem run_invariant_of_labels {step : State → Label → Option State}
    (allowed : Label → Prop) {invariant : State → Prop}
    (preserved : ∀ state label next, allowed label → invariant state →
      step state label = some next → invariant next)
    {labels : List Label} (admissible : ∀ label ∈ labels, allowed label)
    {state final : State} (initially : invariant state)
    (executed : run step state labels = some final) : invariant final := by
  induction labels generalizing state with
  | nil =>
      simp only [run_nil, Option.some.injEq] at executed
      exact executed ▸ initially
  | cons label rest inductionHypothesis =>
      obtain ⟨next, stepped, remaining⟩ := run_cons_eq_some.mp executed
      exact inductionHypothesis
        (fun other membership => admissible other (List.mem_cons_of_mem _ membership))
        (preserved state label next (admissible label List.mem_cons_self) initially stepped)
        remaining

/-- The invariant rule for arbitrary runs. -/
theorem run_invariant {step : State → Label → Option State} {invariant : State → Prop}
    (preserved : ∀ state label next, invariant state →
      step state label = some next → invariant next)
    {labels : List Label} {state final : State} (initially : invariant state)
    (executed : run step state labels = some final) : invariant final :=
  run_invariant_of_labels (fun _ => True) (fun state label next _ => preserved state label next)
    (fun _ _ => trivial) initially executed

/-- The states that some run reaches from `start`. -/
def Reachable (step : State → Label → Option State) (start state : State) : Prop :=
  ∃ labels, run step start labels = some state

theorem Reachable.invariant {step : State → Label → Option State} {invariant : State → Prop}
    {start state : State} (reached : Reachable step start state)
    (initially : invariant start)
    (preserved : ∀ state label next, invariant state →
      step state label = some next → invariant next) : invariant state := by
  obtain ⟨labels, executed⟩ := reached
  exact run_invariant preserved initially executed

/-- The history of a condition that some steps establish, some destroy and all
others keep: it holds at the end of a run exactly when the last step that
touched it established it. -/
theorem run_condition_iff {step : State → Label → Option State}
    {invariant condition : State → Prop} {sets : State → Label → Prop} {clears : Label → Prop}
    (preserved : ∀ state label next, invariant state →
      step state label = some next → invariant next)
    (stepped : ∀ state label next, invariant state → step state label = some next →
      (condition next ↔ sets state label ∨ (condition state ∧ ¬ clears label)))
    {labels : List Label} {state final : State} (initially : invariant state)
    (executed : run step state labels = some final) :
    condition final ↔
      (condition state ∧ ∀ label ∈ labels, ¬ clears label) ∨
      ∃ before label after middle, labels = before ++ label :: after ∧
        run step state before = some middle ∧ sets middle label ∧
        ∀ later ∈ after, ¬ clears later := by
  induction labels generalizing state with
  | nil =>
      simp only [run_nil, Option.some.injEq] at executed
      subst executed
      simp
  | cons head rest inductionHypothesis =>
      obtain ⟨next, headStep, remaining⟩ := run_cons_eq_some.mp executed
      rw [inductionHypothesis (preserved _ _ _ initially headStep) remaining,
        stepped _ _ _ initially headStep]
      constructor
      · rintro (⟨established | ⟨held, kept⟩, quiet⟩ |
            ⟨before, label, after, middle, split, reached, established, quiet⟩)
        · exact .inr ⟨[], head, rest, state, rfl, rfl, established, quiet⟩
        · exact .inl ⟨held, List.forall_mem_cons.mpr ⟨kept, quiet⟩⟩
        · refine .inr ⟨head :: before, label, after, middle, ?_, ?_, established, quiet⟩
          · rw [split, List.cons_append]
          · exact run_cons_eq_some.mpr ⟨next, headStep, reached⟩
      · rintro (⟨held, quiet⟩ |
            ⟨before, label, after, middle, split, reached, established, quiet⟩)
        · obtain ⟨kept, quiet⟩ := List.forall_mem_cons.mp quiet
          exact .inl ⟨.inr ⟨held, kept⟩, quiet⟩
        · cases before with
          | nil =>
              simp only [List.nil_append, List.cons.injEq] at split
              obtain ⟨rfl, rfl⟩ := split
              simp only [run_nil, Option.some.injEq] at reached
              subst reached
              exact .inl ⟨.inl established, quiet⟩
          | cons first before =>
              simp only [List.cons_append, List.cons.injEq] at split
              obtain ⟨rfl, rfl⟩ := split
              obtain ⟨other, otherStep, reached⟩ := run_cons_eq_some.mp reached
              obtain rfl : next = other := Option.some.inj (headStep.symm.trans otherStep)
              exact .inr ⟨before, label, after, middle, rfl, reached, established, quiet⟩

/-- A condition holds at the start of a run and after each of its steps. -/
def Throughout (step : State → Label → Option State) (start : State) (labels : List Label)
    (condition : State → Prop) : Prop :=
  ∀ before after state, labels = before ++ after →
    run step start before = some state → condition state

theorem throughout_nil_iff {step : State → Label → Option State} {start : State}
    {condition : State → Prop} : Throughout step start [] condition ↔ condition start := by
  constructor
  · intro throughout
    exact throughout [] [] start rfl rfl
  · intro holds before after state split executed
    obtain ⟨rfl, rfl⟩ := List.append_eq_nil_iff.mp split.symm
    simp only [run_nil, Option.some.injEq] at executed
    exact executed ▸ holds

theorem throughout_cons_iff {step : State → Label → Option State} {start next : State}
    {label : Label} {rest : List Label} {condition : State → Prop}
    (stepped : step start label = some next) :
    Throughout step start (label :: rest) condition ↔
      condition start ∧ Throughout step next rest condition := by
  constructor
  · intro throughout
    refine ⟨throughout [] (label :: rest) start rfl rfl, ?_⟩
    intro before after state split executed
    exact throughout (label :: before) after state (by rw [split, List.cons_append])
      (run_cons_eq_some.mpr ⟨next, stepped, executed⟩)
  · rintro ⟨holds, throughout⟩ before after state split executed
    cases before with
    | nil =>
        simp only [run_nil, Option.some.injEq] at executed
        exact executed ▸ holds
    | cons first before =>
        simp only [List.cons_append, List.cons.injEq] at split
        obtain ⟨rfl, rfl⟩ := split
        obtain ⟨other, otherStep, executed⟩ := run_cons_eq_some.mp executed
        obtain rfl : next = other := Option.some.inj (stepped.symm.trans otherStep)
        exact throughout before after state rfl executed

/-- A relation between the state before and the state after a step holds at every
step of a run. -/
def AtEveryStep (step : State → Label → Option State) (start : State) (labels : List Label)
    (relation : State → Label → State → Prop) : Prop :=
  ∀ before label after state next, labels = before ++ label :: after →
    run step start before = some state → step state label = some next →
    relation state label next

def checkedAtEveryStep (step : State → Label → Option State)
    (relation : State → Label → State → Bool) : State → List Label → Bool
  | _, [] => true
  | state, label :: rest =>
      (step state label).all fun next =>
        relation state label next && checkedAtEveryStep step relation next rest

theorem atEveryStep_of_checked {step : State → Label → Option State}
    {relation : State → Label → State → Bool} {start : State} {labels : List Label}
    (checked : checkedAtEveryStep step relation start labels = true) :
    AtEveryStep step start labels fun state label next => relation state label next = true := by
  induction labels generalizing start with
  | nil =>
      intro before label after state next split
      exact absurd split (by simp)
  | cons head rest inductionHypothesis =>
      intro before label after state next split executed stepped
      cases before with
      | nil =>
          obtain ⟨rfl, rfl⟩ := List.cons.inj split
          obtain rfl := Option.some.inj executed
          rw [checkedAtEveryStep, stepped, Option.all_some, Bool.and_eq_true] at checked
          exact checked.1
      | cons first before =>
          obtain ⟨rfl, rfl⟩ := List.cons.inj split
          obtain ⟨middle, firstStep, reached⟩ := run_cons_eq_some.mp executed
          rw [checkedAtEveryStep, firstStep, Option.all_some, Bool.and_eq_true] at checked
          exact inductionHypothesis checked.2 before label after state next rfl reached stepped

/-- Relations that agree on the steps from invariant states agree on runs. -/
theorem atEveryStep_congr {step : State → Label → Option State} {invariant : State → Prop}
    {first second : State → Label → State → Prop} {start : State}
    (preserved : ∀ state label next, invariant state →
      step state label = some next → invariant next)
    (initially : invariant start)
    (agree : ∀ state label next, invariant state → step state label = some next →
      (first state label next ↔ second state label next))
    (labels : List Label) :
    AtEveryStep step start labels first ↔ AtEveryStep step start labels second := by
  have reached : ∀ {before state}, run step start before = some state → invariant state :=
    fun executed => run_invariant preserved initially executed
  constructor
  · intro holds before label after state next split executed stepped
    exact (agree state label next (reached executed) stepped).mp
      (holds before label after state next split executed stepped)
  · intro holds before label after state next split executed stepped
    exact (agree state label next (reached executed) stepped).mpr
      (holds before label after state next split executed stepped)

/-- The invariant rule for runs whose steps all satisfy a relation. -/
theorem throughout_of_atEveryStep {step : State → Label → Option State}
    {condition : State → Prop} {relation : State → Label → State → Prop} {start : State}
    {labels : List Label}
    (preserved : ∀ state label next, condition state → relation state label next →
      step state label = some next → condition next)
    (initially : condition start) (holds : AtEveryStep step start labels relation) :
    Throughout step start labels condition := by
  intro before
  induction before using List.reverseRecOn with
  | nil =>
      intro after state _ executed
      simp only [run_nil, Option.some.injEq] at executed
      exact executed ▸ initially
  | append_singleton before label inductionHypothesis =>
      intro after state split executed
      rw [List.append_assoc] at split
      obtain ⟨middle, reached, stepped⟩ := run_concat_eq_some.mp executed
      have held := inductionHypothesis (label :: after) middle split reached
      exact preserved middle label state held
        (holds before label after middle state split reached stepped) stepped

end XBotFirmware.Library
