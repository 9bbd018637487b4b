import MultiProxy.InteractionPrograms

/-!
Interleaved tasks in surroundings of which something is assumed. The assumption is
about single replies, and may look at what the task has noted; a run under it is a
run of the same tasks, and their disciplines may rely on it.
-/

namespace MultiProxy.InteractionPrograms

open MultiProxy.TransitionRuns MultiProxy.InteractionPrograms.Program

set_option autoImplicit false

variable {State Call : Type} {Reply : Call → Type} {Kind Choice Note Value : Type}

namespace System

/-- The surroundings give no reply that the assumption rules out. -/
def assuming (system : System State Call Reply Kind Choice Note Value)
    (assumed : Note → (request : Call) → Reply request → Bool) :
    System State Call Reply Kind Choice Note Value where
  start := system.start
  handle state note request choice :=
    (system.handle state note request choice).filter fun handled => assumed note request handled.1
  note := system.note
  idle := system.idle

variable {system : System State Call Reply Kind Choice Note Value}
  {assumed : Note → (request : Call) → Reply request → Bool}

theorem assuming_handled {state after : State} {note : Note} {request : Call} {choice : Choice}
    {reply : Reply request}
    (handled : (system.assuming assumed).handle state note request choice = some (reply, after)) :
    system.handle state note request choice = some (reply, after) ∧
      assumed note request reply = true :=
  Option.filter_eq_some_iff.mp handled

theorem assuming_step {machine next : Machine State Call Reply Note Value}
    {label : Label Kind Choice}
    (taken : (system.assuming assumed).step machine label = some next) :
    system.step machine label = some next := by
  cases label with
  | spawn kind => exact taken
  | drop index => exact taken
  | idle choice => exact taken
  | advance index choice =>
      obtain ⟨note, request, rest, reply, left, found, answered, rfl⟩ := advance_taken taken
      have handled := (assuming_handled answered).1
      simp only [step, found, Option.bind_some, advanceTask, handled, Option.map_some]
      rfl

theorem run_of_assuming {start finish : Machine State Call Reply Note Value}
    {labels : List (Label Kind Choice)}
    (ran : runFrom (system.assuming assumed).step start labels = some finish) :
    runFrom system.step start labels = some finish := by
  induction labels generalizing start with
  | nil => exact ran
  | cons label rest ih =>
      obtain ⟨next, taken, after⟩ := run_cons ran
      rw [runFrom, assuming_step taken]
      exact ih after

/-- Two disciplines that note the same: the invariant is kept by what the first permits,
and with the notes it makes the second expect no more than what happens. -/
theorem run_orderly_assuming (first second : Discipline Call Reply Note)
    {Invariant : State → Prop} {Noted : Note → Prop}
    (firstNoted : first.after = system.note) (secondNoted : second.after = system.note)
    (initially : ∀ kind, Noted (system.start kind).1)
    (firstStarts : ∀ kind, Follows first (system.start kind).1 (system.start kind).2)
    (secondStarts : ∀ kind, Follows second (system.start kind).1 (system.start kind).2)
    (handled : ∀ state note request choice reply after, Invariant state → Noted note →
      first.permits note request → assumed note request reply = true →
      system.handle state note request choice = some (reply, after) →
        first.expects note request reply ∧ second.expects note request reply ∧
          Noted (system.note note request reply) ∧ Invariant after)
    (idled : ∀ state choice after, Invariant state → system.idle state choice = some after →
      Invariant after)
    {state : State} (holds : Invariant state) {labels : List (Label Kind Choice)}
    {finish : Machine State Call Reply Note Value}
    (ran : runFrom (system.assuming assumed).step { shared := state, tasks := [] } labels =
      some finish) :
    Invariant finish.shared ∧ ∀ task ∈ finish.tasks, Follows second task.1 task.2 := by
  let Good (note : Note) (program : Program Call Reply Value) : Prop :=
    Noted note ∧ Follows first note program ∧ Follows second note program
  have kept : ∀ state note request (next : Reply request → Program Call Reply Value) choice
      reply after, Invariant state → Good note (.call request next) →
      (system.assuming assumed).handle state note request choice = some (reply, after) →
        Good (system.note note request reply) (next reply) ∧ Invariant after := by
    rintro state note request next choice reply after invariant ⟨noted, follows, follows'⟩ answered
    obtain ⟨answered, meets⟩ := assuming_handled answered
    obtain ⟨expected, expected', notedAfter, invariantAfter⟩ :=
      handled state note request choice reply after invariant noted follows.1 meets answered
    refine ⟨⟨notedAfter, ?_, ?_⟩, invariantAfter⟩
    · rw [← firstNoted]
      exact follows.2 reply expected
    · rw [← secondNoted]
      exact follows'.2 reply expected'
  have started : ∀ task : Note × Program Call Reply Value, task ∈ [] → Good task.1 task.2 :=
    List.forall_mem_nil _
  have ended := @run_keeps_tasks _ _ _ _ _ _ _ (system.assuming assumed) Invariant Good
    (fun kind => ⟨initially kind, firstStarts kind, secondStarts kind⟩) kept idled _ _ _
    ⟨holds, started⟩ ran
  exact ⟨ended.1, fun task member => (ended.2 task member).2.2⟩

end System

end MultiProxy.InteractionPrograms
