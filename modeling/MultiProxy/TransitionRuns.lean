import Mathlib.Data.List.Basic

/-!
Finite runs of a labelled step function that may refuse a label. An invariant
is carried through a run from its steps, and a property that a step can only
lose by breaking a condition holds at the end of a run exactly when every step
of the run met the condition.
-/

namespace MultiProxy.TransitionRuns

set_option autoImplicit false

variable {State Label : Type*}

def runFrom (step : State → Label → Option State) : State → List Label → Option State
  | state, [] => some state
  | state, label :: rest =>
      match step state label with
      | some next => runFrom step next rest
      | none => none

/-- Every label of the run is taken in a state that meets the condition. -/
def EveryStep (step : State → Label → Option State) (condition : State → Label → Prop) :
    State → List Label → Prop
  | _, [] => True
  | state, label :: rest =>
      condition state label ∧
        ∀ next, step state label = some next → EveryStep step condition next rest

variable {step : State → Label → Option State}

theorem run_cons {state finish : State} {label : Label} {rest : List Label}
    (ran : runFrom step state (label :: rest) = some finish) :
    ∃ next, step state label = some next ∧ runFrom step next rest = some finish := by
  simp only [runFrom] at ran
  split at ran
  · exact ⟨_, ‹_›, ran⟩
  · cases ran

theorem run_append {start middle finish : State} {front back : List Label}
    (first : runFrom step start front = some middle)
    (second : runFrom step middle back = some finish) :
    runFrom step start (front ++ back) = some finish := by
  induction front generalizing start with
  | nil =>
      cases first
      exact second
  | cons label rest ih =>
      obtain ⟨next, taken, after⟩ := run_cons first
      simp only [List.cons_append, runFrom, taken]
      exact ih after

theorem run_preserves {Invariant : State → Prop}
    (preserved : ∀ state label next, Invariant state → step state label = some next →
      Invariant next)
    {start finish : State} {labels : List Label} (holds : Invariant start)
    (ran : runFrom step start labels = some finish) : Invariant finish := by
  induction labels generalizing start with
  | nil =>
      cases ran
      exact holds
  | cons label rest ih =>
      obtain ⟨next, taken, after⟩ := run_cons ran
      exact ih (preserved start label next holds taken) after

theorem run_behind (Invariant : State → Prop) {label : Label}
    (brought : ∀ state next, step state label = some next → Invariant next)
    (preserved : ∀ state label next, Invariant state → step state label = some next →
      Invariant next)
    {start finish : State} {labels : List Label} (member : label ∈ labels)
    (ran : runFrom step start labels = some finish) : Invariant finish := by
  induction labels generalizing start with
  | nil => cases member
  | cons first rest ih =>
      obtain ⟨next, taken, after⟩ := run_cons ran
      rcases List.mem_cons.mp member with rfl | within
      · exact run_preserves preserved (brought start next taken) after
      · exact ih within after

theorem run_loses (Property : State → Prop) {start finish : State} {labels : List Label}
    (ran : runFrom step start labels = some finish) (holds : Property start)
    (lost : ¬ Property finish) :
    ∃ front label back before after, labels = front ++ label :: back ∧
      runFrom step start front = some before ∧ step before label = some after ∧
        runFrom step after back = some finish ∧ Property before ∧ ¬ Property after := by
  induction labels generalizing start with
  | nil =>
      cases ran
      exact absurd holds lost
  | cons label rest ih =>
      obtain ⟨next, taken, later⟩ := run_cons ran
      by_cases stays : Property next
      · obtain ⟨front, other, back, before, after, same, reached, step, rest, held, gone⟩ :=
          ih later stays
        refine ⟨label :: front, other, back, before, after, ?_, ?_, step, rest, held, gone⟩
        · rw [same, List.cons_append]
        · simpa only [runFrom, taken] using reached
      · exact ⟨[], label, rest, start, next, rfl, rfl, taken, later, holds, stays⟩

theorem every_step_cons {condition : State → Label → Prop} {state next : State} {label : Label}
    {rest : List Label} (meets : condition state label) (taken : step state label = some next)
    (later : EveryStep step condition next rest) :
    EveryStep step condition state (label :: rest) := by
  refine ⟨meets, ?_⟩
  intro other takenOther
  cases taken.symm.trans takenOther
  exact later

theorem every_step_cons_iff {condition : State → Label → Prop} {state next : State} {label : Label}
    {rest : List Label} (taken : step state label = some next) :
    EveryStep step condition state (label :: rest) ↔
      condition state label ∧ EveryStep step condition next rest := by
  constructor
  · rintro ⟨meets, later⟩
    exact ⟨meets, later next taken⟩
  · rintro ⟨meets, later⟩
    exact every_step_cons meets taken later

theorem every_step_cons_refused {condition : State → Label → Prop} {state : State} {label : Label}
    {rest : List Label} (refused : step state label = none) :
    EveryStep step condition state (label :: rest) ↔ condition state label := by
  simp [EveryStep, refused]

/-- A condition that can be checked at each step can be checked along a run. -/
instance decidableEveryStep {condition : State → Label → Prop}
    [∀ state label, Decidable (condition state label)] :
    ∀ (labels : List Label) (state : State), Decidable (EveryStep step condition state labels)
  | [], _ => .isTrue trivial
  | label :: rest, state =>
      match taken : step state label with
      | some next =>
          have : Decidable (EveryStep step condition next rest) := decidableEveryStep rest next
          decidable_of_iff _ (every_step_cons_iff taken).symm
      | none => decidable_of_iff _ (every_step_cons_refused taken).symm

/-- An invariant that the allowed labels keep and that implies the condition
makes every run of allowed labels meet the condition. -/
theorem every_step_of_invariant {Invariant : State → Prop} {Allowed : Label → Prop}
    {condition : State → Label → Prop}
    (preserved : ∀ state label next, Invariant state → Allowed label →
      step state label = some next → Invariant next)
    (meets : ∀ state label, Invariant state → Allowed label → condition state label)
    {start : State} {labels : List Label} (holds : Invariant start)
    (allowed : ∀ label ∈ labels, Allowed label) : EveryStep step condition start labels := by
  induction labels generalizing start with
  | nil => trivial
  | cons label rest ih =>
      have labelAllowed := allowed label (by simp)
      refine ⟨meets start label holds labelAllowed, ?_⟩
      intro next taken
      exact ih (preserved start label next holds labelAllowed taken)
        (by intro later member; exact allowed later (by simp [member]))

theorem run_preserves_when {Invariant : State → Prop} {condition : State → Label → Prop}
    (preserved : ∀ state label next, Invariant state → condition state label →
      step state label = some next → Invariant next)
    {start finish : State} {labels : List Label} (holds : Invariant start)
    (met : EveryStep step condition start labels) (ran : runFrom step start labels = some finish) :
    Invariant finish := by
  induction labels generalizing start with
  | nil =>
      cases ran
      exact holds
  | cons label rest ih =>
      obtain ⟨next, taken, after⟩ := run_cons ran
      exact ih (preserved start label next holds met.1 taken) (met.2 next taken) after

/-- Where the steps of a run meet a condition under which they keep an invariant,
they also meet what the invariant and the condition imply. -/
theorem every_step_implies {Invariant : State → Prop} {condition implied : State → Label → Prop}
    (preserved : ∀ state label next, Invariant state → condition state label →
      step state label = some next → Invariant next)
    (implies : ∀ state label, Invariant state → condition state label → implied state label)
    {start : State} {labels : List Label} (holds : Invariant start)
    (met : EveryStep step condition start labels) : EveryStep step implied start labels := by
  induction labels generalizing start with
  | nil => trivial
  | cons label rest ih =>
      refine ⟨implies start label holds met.1, ?_⟩
      intro next taken
      exact ih (preserved start label next holds met.1 taken) (met.2 next taken)

theorem run_reflects {Invariant Property : State → Prop}
    (preserved : ∀ state label next, Invariant state → step state label = some next →
      Invariant next)
    (reflected : ∀ state label next, Invariant state → step state label = some next →
      Property next → Property state)
    {start finish : State} {labels : List Label} (holds : Invariant start)
    (ran : runFrom step start labels = some finish) (atEnd : Property finish) :
    Property start := by
  induction labels generalizing start with
  | nil =>
      cases ran
      exact atEnd
  | cons label rest ih =>
      obtain ⟨next, taken, after⟩ := run_cons ran
      exact reflected start label next holds taken
        (ih (preserved start label next holds taken) after)

/-- A property that a step keeps while the condition is met, and that holds
after a step only when it held before and the step met the condition, holds at
the end of a run exactly when the condition was met all along. -/
theorem run_property_iff_every_step {Invariant Property : State → Prop}
    {condition : State → Label → Prop}
    (preserved : ∀ state label next, Invariant state → step state label = some next →
      Invariant next)
    (kept : ∀ state label next, Invariant state → step state label = some next →
      condition state label → Property state → Property next)
    (required : ∀ state label next, Invariant state → step state label = some next →
      Property next → Property state ∧ condition state label)
    {start finish : State} {labels : List Label} (holds : Invariant start)
    (initially : Property start) (ran : runFrom step start labels = some finish) :
    Property finish ↔ EveryStep step condition start labels := by
  induction labels generalizing start with
  | nil =>
      cases ran
      simp [EveryStep, initially]
  | cons label rest ih =>
      obtain ⟨next, taken, after⟩ := run_cons ran
      have nextHolds := preserved start label next holds taken
      simp only [EveryStep]
      constructor
      · intro atEnd
        have atNext := run_reflects preserved
          (by intro state label next holds taken property
              exact (required state label next holds taken property).1)
          nextHolds after atEnd
        refine ⟨(required start label next holds taken atNext).2, ?_⟩
        intro other takenOther
        obtain rfl := Option.some.inj (taken.symm.trans takenOther)
        exact (ih nextHolds atNext after).mp atEnd
      · rintro ⟨meets, later⟩
        exact (ih nextHolds (kept start label next holds taken meets initially) after).mpr
          (later next taken)

end MultiProxy.TransitionRuns
