import MultiProxy.TransitionRuns

/-!
Forward simulations between two step functions. A step of the one is matched by
any number of steps of the other that show the same; whole runs then show the
same, and what the other keeps from its start holds, through the relation, of
every state the one reaches.
-/

namespace MultiProxy.TransitionSimulations

open MultiProxy.TransitionRuns

set_option autoImplicit false

variable {State Label Abstract Action Shown : Type*}

def trace (step : State → Label → Option State) (shown : State → Label → List Shown) :
    State → List Label → List Shown
  | _, [] => []
  | state, label :: rest =>
      match step state label with
      | some next => shown state label ++ trace step shown next rest
      | none => []

variable {step : State → Label → Option State} {shown : State → Label → List Shown}
  {above : Abstract → Action → Option Abstract} {shownAbove : Abstract → Action → List Shown}
  {Related : State → Abstract → Prop}

theorem trace_cons {state next : State} {label : Label} (taken : step state label = some next)
    (rest : List Label) :
    trace step shown state (label :: rest) = shown state label ++ trace step shown next rest := by
  rw [trace, taken]

theorem trace_append {start middle : State} {front : List Label}
    (ran : runFrom step start front = some middle) (back : List Label) :
    trace step shown start (front ++ back) =
      trace step shown start front ++ trace step shown middle back := by
  induction front generalizing start with
  | nil =>
      cases ran
      rfl
  | cons label rest ih =>
      obtain ⟨next, taken, later⟩ := run_cons ran
      rw [List.cons_append, trace_cons taken, trace_cons taken, ih later, List.append_assoc]

/-- A run of the abstract level that shows what the step showed and ends related. -/
def Matched (above : Abstract → Action → Option Abstract)
    (shownAbove : Abstract → Action → List Shown) (Related : State → Abstract → Prop)
    (abstract : Abstract) (told : List Shown) (next : State) : Prop :=
  ∃ actions after, runFrom above abstract actions = some after ∧ Related next after ∧
    trace above shownAbove abstract actions = told

def Simulates (step : State → Label → Option State) (shown : State → Label → List Shown)
    (above : Abstract → Action → Option Abstract) (shownAbove : Abstract → Action → List Shown)
    (Related : State → Abstract → Prop) : Prop :=
  ∀ state label next abstract, Related state abstract → step state label = some next →
    Matched above shownAbove Related abstract (shown state label) next

theorem matched_by_none {next : State} {abstract : Abstract} (related : Related next abstract) :
    Matched above shownAbove Related abstract [] next :=
  ⟨[], abstract, rfl, related, rfl⟩

theorem matched_by_one {next : State} {abstract after : Abstract} (action : Action)
    (taken : above abstract action = some after) (related : Related next after) :
    Matched above shownAbove Related abstract (shownAbove abstract action) next := by
  refine ⟨[action], after, ?_, related, ?_⟩
  · rw [runFrom, taken]
    rfl
  · rw [trace_cons taken]
    exact List.append_nil _

theorem run_simulated (simulates : Simulates step shown above shownAbove Related)
    {start finish : State} {abstract : Abstract} {labels : List Label}
    (related : Related start abstract) (ran : runFrom step start labels = some finish) :
    Matched above shownAbove Related abstract (trace step shown start labels) finish := by
  induction labels generalizing start abstract with
  | nil =>
      cases ran
      exact matched_by_none related
  | cons label rest ih =>
      obtain ⟨next, taken, later⟩ := run_cons ran
      obtain ⟨first, middle, firstRan, nextRelated, firstShown⟩ :=
        simulates start label next abstract related taken
      obtain ⟨second, after, secondRan, finishRelated, secondShown⟩ := ih nextRelated later
      refine ⟨first ++ second, after, run_append firstRan secondRan, finishRelated, ?_⟩
      rw [trace_append firstRan, firstShown, secondShown, trace_cons taken]

end MultiProxy.TransitionSimulations
