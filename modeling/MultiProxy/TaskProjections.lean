import Mathlib.Data.List.InsertIdx
import MultiProxy.InteractionPrograms

/-!
Systems of tasks that differ in what they note and keep of their tasks alone. A
system whose tasks end with more, or are noted in more detail, runs as the plain one
does once that is forgotten.
-/

namespace MultiProxy.TaskProjections

open MultiProxy.TransitionRuns MultiProxy.InteractionPrograms
open MultiProxy.InteractionPrograms.Program

set_option autoImplicit false

variable {State Call : Type} {Reply : Call → Type} {Kind Choice Note Value Plain Result : Type}

/-- The two systems agree once notes are reduced and values are replaced. -/
structure Projects (system : System State Call Reply Kind Choice Note Value)
    (plain : System State Call Reply Kind Choice Plain Result) (note : Note → Plain)
    (value : Value → Result) : Prop where
  starts : ∀ kind, plain.start kind =
    (note (system.start kind).1, (system.start kind).2 >>= fun ended => done (value ended))
  handles : ∀ state noted request choice,
    system.handle state noted request choice = plain.handle state (note noted) request choice
  notes : ∀ noted request reply,
    note (system.note noted request reply) = plain.note (note noted) request reply
  idles : system.idle = plain.idle

def projectTask (note : Note → Plain) (value : Value → Result)
    (task : Note × Program Call Reply Value) : Plain × Program Call Reply Result :=
  (note task.1, task.2 >>= fun ended => done (value ended))

def projectMachine (note : Note → Plain) (value : Value → Result)
    (machine : Machine State Call Reply Note Value) : Machine State Call Reply Plain Result where
  shared := machine.shared
  tasks := machine.tasks.map (projectTask note value)

variable {system : System State Call Reply Kind Choice Note Value}
  {plain : System State Call Reply Kind Choice Plain Result} {note : Note → Plain}
  {value : Value → Result}

theorem step_projects (projects : Projects system plain note value)
    {machine next : Machine State Call Reply Note Value} {label : Label Kind Choice}
    (taken : system.step machine label = some next) :
    plain.step (projectMachine note value machine) label =
      some (projectMachine note value next) := by
  cases label with
  | spawn kind =>
      cases taken
      simp [System.step, projectMachine, projectTask, projects.starts]
  | advance index choice =>
      obtain ⟨noted, request, rest, reply, left, found, answered, rfl⟩ :=
        System.advance_taken taken
      rw [projects.handles] at answered
      have foundPlain : (projectMachine note value machine).tasks[index]? =
          some (note noted, .call request fun reply => rest reply >>= fun ended =>
            done (value ended)) := by
        rw [projectMachine, List.getElem?_map, found]
        rfl
      simp only [System.step, foundPlain, Option.bind_some, System.advanceTask]
      change Option.map _ (Option.map _ (plain.handle machine.shared _ _ _)) = _
      rw [answered]
      simp [projectMachine, projectTask, projects.notes, List.map_set]
  | drop index =>
      cases taken
      simp [System.step, projectMachine, List.eraseIdx_map]
  | idle choice =>
      obtain ⟨shared, ran, rfl⟩ := Option.map_eq_some_iff.mp taken
      rw [projects.idles] at ran
      change Option.map _ (plain.idle machine.shared choice) = _
      rw [ran]
      rfl

theorem run_projects (projects : Projects system plain note value)
    {start finish : Machine State Call Reply Note Value} {labels : List (Label Kind Choice)}
    (ran : runFrom system.step start labels = some finish) :
    runFrom plain.step (projectMachine note value start) labels =
      some (projectMachine note value finish) := by
  induction labels generalizing start with
  | nil =>
      cases ran
      rfl
  | cons label rest ih =>
      obtain ⟨next, taken, later⟩ := run_cons ran
      rw [runFrom, step_projects projects taken]
      exact ih later

end MultiProxy.TaskProjections
