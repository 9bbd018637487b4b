import MultiProxy.TransitionRuns
import Mathlib.Data.List.Basic

/-!
Programs that call their surroundings and go on with the reply. One program can
be run alone, or many of them interleaved call by call over a shared state. What
a program calls under any replies is a property of its text, and carries
invariants of the shared state through every interleaving.
-/

namespace MultiProxy.InteractionPrograms

open MultiProxy.TransitionRuns

set_option autoImplicit false

inductive Program (Call : Type) (Reply : Call → Type) (Value : Type) where
  | done (value : Value)
  | call (request : Call) (next : Reply request → Program Call Reply Value)

namespace Program

variable {Call : Type} {Reply : Call → Type} {Value Other : Type}

def bind (program : Program Call Reply Value) (next : Value → Program Call Reply Other) :
    Program Call Reply Other :=
  match program with
  | done value => next value
  | call request rest => call request fun reply => (rest reply).bind next

instance : Monad (Program Call Reply) where
  pure := done
  bind := bind

def perform (request : Call) : Program Call Reply (Reply request) := call request done

@[simp] theorem pure_eq (value : Value) :
    (pure value : Program Call Reply Value) = done value := rfl

@[simp] theorem done_bind (value : Value) (next : Value → Program Call Reply Other) :
    (done value >>= next) = next value := rfl

@[simp] theorem call_bind (request : Call) (rest : Reply request → Program Call Reply Value)
    (next : Value → Program Call Reply Other) :
    (call request rest >>= next) = call request fun reply => rest reply >>= next := rfl

@[simp] theorem perform_bind (request : Call) (next : Reply request → Program Call Reply Other) :
    (perform request >>= next) = call request next := rfl

theorem bind_done (program : Program Call Reply Value) : (program >>= done) = program := by
  induction program with
  | done value => rfl
  | call request rest ih =>
      rw [call_bind]
      exact congrArg (call request) (funext ih)

theorem bind_assoc {Last : Type} (program : Program Call Reply Value)
    (next : Value → Program Call Reply Other) (last : Other → Program Call Reply Last) :
    (program >>= next) >>= last = program >>= fun value => next value >>= last := by
  induction program with
  | done value => rfl
  | call request rest ih => exact congrArg (call request) (funext ih)

/-! ## Running alone -/

section Alone

variable {State : Type} (handle : State → (request : Call) → Option (Reply request) × State)

/-- A call that is never answered ends the run without a value. -/
def run : Program Call Reply Value → State → Option Value × State
  | done value, state => (some value, state)
  | call request next, state =>
      match handle state request with
      | (some reply, after) => (next reply).run after
      | (none, after) => (none, after)

@[simp] theorem run_done (value : Value) (state : State) :
    (done value : Program Call Reply Value).run handle state = (some value, state) := rfl

theorem run_call (request : Call) (next : Reply request → Program Call Reply Value)
    (state : State) :
    (call request next).run handle state =
      match handle state request with
      | (some reply, after) => (next reply).run handle after
      | (none, after) => (none, after) := by
  rw [run]

theorem run_bind (program : Program Call Reply Value) (next : Value → Program Call Reply Other)
    (state : State) :
    (program >>= next).run handle state =
      match program.run handle state with
      | (some value, after) => (next value).run handle after
      | (none, after) => (none, after) := by
  induction program generalizing state with
  | done value => rfl
  | call request rest ih =>
      rw [call_bind, run_call, run_call]
      obtain ⟨reply, after⟩ := handle state request
      cases reply with
      | none => rfl
      | some reply => exact ih reply after

end Alone

/-! ## What a program may call -/

/-- A discipline of calls: what may be called after the calls so far, as far as
they are noted, which replies are to be reckoned with, and what is noted of them. -/
structure Discipline (Call : Type) (Reply : Call → Type) (Note : Type) where
  permits : Note → Call → Prop
  expects : Note → (request : Call) → Reply request → Prop
  after : Note → (request : Call) → Reply request → Note

variable {Note : Type}

def Follows (discipline : Discipline Call Reply Note) : Note → Program Call Reply Value → Prop
  | _, done _ => True
  | note, call request next =>
      discipline.permits note request ∧ ∀ reply, discipline.expects note request reply →
        Follows discipline (discipline.after note request reply) (next reply)

theorem follows_bind {discipline : Discipline Call Reply Note} {program : Program Call Reply Value}
    {next : Value → Program Call Reply Other} {note : Note}
    (first : Follows discipline note program)
    (later : ∀ note value, Follows discipline note (next value)) :
    Follows discipline note (program >>= next) := by
  induction program generalizing note with
  | done value => exact later note value
  | call request rest ih =>
      constructor
      · exact first.1
      · intro reply expected
        exact ih reply (first.2 reply expected)

/-- A program that follows the discipline, and whatever it ends with meets the
postcondition. -/
def Ensures (discipline : Discipline Call Reply Note) (post : Note → Value → Prop) :
    Note → Program Call Reply Value → Prop
  | note, done value => post note value
  | note, call request next =>
      discipline.permits note request ∧ ∀ reply, discipline.expects note request reply →
        Ensures discipline post (discipline.after note request reply) (next reply)

section Ensures

variable {discipline : Discipline Call Reply Note} {note : Note}

theorem ensures_bind {post : Note → Other → Prop} {program : Program Call Reply Value}
    {next : Value → Program Call Reply Other}
    (first : Ensures discipline (fun note value => Ensures discipline post note (next value)) note
      program) : Ensures discipline post note (program >>= next) := by
  induction program generalizing note with
  | done value => exact first
  | call request rest ih =>
      constructor
      · exact first.1
      · intro reply expected
        exact ih reply (first.2 reply expected)

theorem ensures_mono {post wider : Note → Value → Prop} {program : Program Call Reply Value}
    (weaker : ∀ note value, post note value → wider note value)
    (ensures : Ensures discipline post note program) : Ensures discipline wider note program := by
  induction program generalizing note with
  | done value => exact weaker note value ensures
  | call request next ih =>
      constructor
      · exact ensures.1
      · intro reply expected
        exact ih reply (ensures.2 reply expected)

theorem follows_of_ensures {post : Note → Value → Prop} {program : Program Call Reply Value}
    (ensures : Ensures discipline post note program) : Follows discipline note program := by
  induction program generalizing note with
  | done value => trivial
  | call request next ih =>
      constructor
      · exact ensures.1
      · intro reply expected
        exact ih reply (ensures.2 reply expected)

end Ensures

def EveryCall (allowed : Call → Prop) : Program Call Reply Value → Prop
  | done _ => True
  | call request next => allowed request ∧ ∀ reply, EveryCall allowed (next reply)

theorem every_call_bind {allowed : Call → Prop} {program : Program Call Reply Value}
    {next : Value → Program Call Reply Other} (first : EveryCall allowed program)
    (later : ∀ value, EveryCall allowed (next value)) : EveryCall allowed (program >>= next) := by
  induction program with
  | done value => exact later value
  | call request rest ih =>
      constructor
      · exact first.1
      · intro reply
        exact ih reply (first.2 reply)

theorem every_call_mono {allowed wider : Call → Prop} {program : Program Call Reply Value}
    (weaker : ∀ request, allowed request → wider request) (calls : EveryCall allowed program) :
    EveryCall wider program := by
  induction program with
  | done value => trivial
  | call request next ih =>
      constructor
      · exact weaker request calls.1
      · intro reply
        exact ih reply (calls.2 reply)

theorem every_call_of_bind {allowed : Call → Prop} {program : Program Call Reply Value}
    {next : Value → Program Call Reply Other} (calls : EveryCall allowed (program >>= next)) :
    EveryCall allowed program := by
  induction program with
  | done value => trivial
  | call request rest ih =>
      constructor
      · exact calls.1
      · intro reply
        exact ih reply (calls.2 reply)

theorem every_call_true (program : Program Call Reply Value) :
    EveryCall (fun _ => True) program := by
  induction program with
  | done value => trivial
  | call request rest ih => exact ⟨trivial, ih⟩

theorem follows_of_every_call {discipline : Discipline Call Reply Note} {allowed : Call → Prop}
    {program : Program Call Reply Value}
    (permitted : ∀ note request, allowed request → discipline.permits note request)
    (calls : EveryCall allowed program) (note : Note) : Follows discipline note program := by
  induction program generalizing note with
  | done value => trivial
  | call request next ih =>
      constructor
      · exact permitted note request calls.1
      · intro reply _
        exact ih reply (calls.2 reply) _

theorem run_keeps {State : Type}
    {handle : State → (request : Call) → Option (Reply request) × State}
    {allowed : Call → Prop} {Invariant : State → Prop}
    (kept : ∀ state request, Invariant state → allowed request →
      Invariant (handle state request).2)
    (program : Program Call Reply Value) (calls : EveryCall allowed program) (state : State)
    (holds : Invariant state) : Invariant (program.run handle state).2 := by
  induction program generalizing state with
  | done value => exact holds
  | call request next ih =>
      have after := kept state request holds calls.1
      rw [run_call]
      rcases handled : handle state request with ⟨reply, left⟩
      rw [handled] at after
      cases reply with
      | none => exact after
      | some reply => exact ih reply (calls.2 reply) left after

end Program

/-! ## Running interleaved -/

open Program

/-- Tasks of several kinds over one shared state. A choice settles what the
surroundings leave open; a refused choice is no step. -/
structure System (State Call : Type) (Reply : Call → Type) (Kind Choice Note Value : Type) where
  start : Kind → Note × Program Call Reply Value
  handle : State → Note → (request : Call) → Choice → Option (Reply request × State)
  note : Note → (request : Call) → Reply request → Note
  idle : State → Choice → Option State

variable {State Call : Type} {Reply : Call → Type} {Kind Choice Note Value : Type}

structure Machine (State Call : Type) (Reply : Call → Type) (Note Value : Type) where
  shared : State
  tasks : List (Note × Program Call Reply Value)

/-- A step begins a task, answers the call a task waits for, drops a task where
it stands, or concerns no task. -/
inductive Label (Kind Choice : Type) where
  | spawn (kind : Kind)
  | advance (index : Nat) (choice : Choice)
  | drop (index : Nat)
  | idle (choice : Choice)

namespace System

variable (system : System State Call Reply Kind Choice Note Value)

/-- The task's next state and the shared state after its call was answered. -/
def advanceTask (state : State) (task : Note × Program Call Reply Value) (choice : Choice) :
    Option (State × (Note × Program Call Reply Value)) :=
  match task.2 with
  | .done _ => none
  | .call request next =>
      (system.handle state task.1 request choice).map fun handled =>
        (handled.2, system.note task.1 request handled.1, next handled.1)

def step (machine : Machine State Call Reply Note Value) :
    Label Kind Choice → Option (Machine State Call Reply Note Value)
  | .spawn kind => some { machine with tasks := machine.tasks ++ [system.start kind] }
  | .advance index choice =>
      (machine.tasks[index]?.bind fun task => system.advanceTask machine.shared task choice).map
        fun advanced => { shared := advanced.1, tasks := machine.tasks.set index advanced.2 }
  | .drop index => some { machine with tasks := machine.tasks.eraseIdx index }
  | .idle choice =>
      (system.idle machine.shared choice).map fun shared => { machine with shared := shared }

/-- The shared state meets the invariant and every task follows the discipline. -/
structure Orderly (discipline : Discipline Call Reply Note) (Invariant : State → Prop)
    (machine : Machine State Call Reply Note Value) : Prop where
  invariant : Invariant machine.shared
  follows : ∀ task ∈ machine.tasks, Follows discipline task.1 task.2

variable {system} {discipline : Discipline Call Reply Note} {Invariant : State → Prop}

theorem advance_taken {machine next : Machine State Call Reply Note Value} {index : Nat}
    {choice : Choice}
    (taken : system.step machine (.advance index choice : Label Kind Choice) = some next) :
    ∃ note request rest reply left,
      machine.tasks[index]? = some (note, .call request rest) ∧
      system.handle machine.shared note request choice = some (reply, left) ∧
      next = {
        shared := left
        tasks := machine.tasks.set index (system.note note request reply, rest reply) } := by
  obtain ⟨⟨shared, after⟩, advanced, rfl⟩ := Option.map_eq_some_iff.mp taken
  obtain ⟨⟨note, program⟩, found, ran⟩ := Option.bind_eq_some_iff.mp advanced
  cases program with
  | done value => cases ran
  | call request rest =>
      obtain ⟨⟨reply, left⟩, answered, same⟩ := Option.map_eq_some_iff.mp ran
      cases same
      exact ⟨note, request, rest, reply, left, found, answered, rfl⟩

/-- What each task meets at its start and keeps with each of its own calls, and
the invariant that these calls keep. -/
theorem step_keeps {Good : Note → Program Call Reply Value → Prop}
    (starts : ∀ kind, Good (system.start kind).1 (system.start kind).2)
    (handled : ∀ state note request next choice reply after, Invariant state →
      Good note (.call request next) →
      system.handle state note request choice = some (reply, after) →
        Good (system.note note request reply) (next reply) ∧ Invariant after)
    (idled : ∀ state choice after, Invariant state → system.idle state choice = some after →
      Invariant after)
    (machine next : Machine State Call Reply Note Value) (label : Label Kind Choice)
    (holds : Invariant machine.shared ∧ ∀ task ∈ machine.tasks, Good task.1 task.2)
    (taken : system.step machine label = some next) :
    Invariant next.shared ∧ ∀ task ∈ next.tasks, Good task.1 task.2 := by
  cases label with
  | spawn kind =>
      cases taken
      refine ⟨holds.1, ?_⟩
      intro task member
      rcases List.mem_append.mp member with earlier | last
      · exact holds.2 task earlier
      · rw [List.mem_singleton] at last
        subst last
        exact starts kind
  | advance index choice =>
      obtain ⟨note, request, rest, reply, left, found, answered, rfl⟩ := advance_taken taken
      have good := holds.2 _ (List.mem_of_getElem? found)
      obtain ⟨later, kept⟩ := handled machine.shared note request rest choice reply left
        holds.1 good answered
      refine ⟨kept, ?_⟩
      intro other inTasks
      rcases List.mem_or_eq_of_mem_set inTasks with earlier | advancedTask
      · exact holds.2 other earlier
      · rw [advancedTask]
        exact later
  | drop index =>
      cases taken
      refine ⟨holds.1, ?_⟩
      intro task member
      exact holds.2 task ((List.eraseIdx_sublist _ index).subset member)
  | idle choice =>
      obtain ⟨shared, ran, rfl⟩ := Option.map_eq_some_iff.mp taken
      exact ⟨idled machine.shared choice shared holds.1 ran, holds.2⟩

theorem run_keeps_tasks {Good : Note → Program Call Reply Value → Prop}
    (starts : ∀ kind, Good (system.start kind).1 (system.start kind).2)
    (handled : ∀ state note request next choice reply after, Invariant state →
      Good note (.call request next) →
      system.handle state note request choice = some (reply, after) →
        Good (system.note note request reply) (next reply) ∧ Invariant after)
    (idled : ∀ state choice after, Invariant state → system.idle state choice = some after →
      Invariant after)
    {start finish : Machine State Call Reply Note Value} {labels : List (Label Kind Choice)}
    (holds : Invariant start.shared ∧ ∀ task ∈ start.tasks, Good task.1 task.2)
    (ran : runFrom system.step start labels = some finish) :
    Invariant finish.shared ∧ ∀ task ∈ finish.tasks, Good task.1 task.2 := by
  have preserved : ∀ machine label next,
      (Invariant machine.shared ∧ ∀ task ∈ machine.tasks, Good task.1 task.2) →
        system.step machine label = some next →
          Invariant next.shared ∧ ∀ task ∈ next.tasks, Good task.1 task.2 := by
    intro machine label next good taken
    exact step_keeps starts handled idled machine next label good taken
  exact run_preserves preserved holds ran

/-- Programs that follow a discipline keep, however they are interleaved, dropped
and begun, every invariant that the calls permitted by it keep. -/
theorem run_orderly (noted : discipline.after = system.note)
    (starts : ∀ kind, Follows discipline (system.start kind).1 (system.start kind).2)
    (handled : ∀ state note request choice reply after, Invariant state →
      discipline.permits note request →
      system.handle state note request choice = some (reply, after) →
        discipline.expects note request reply ∧ Invariant after)
    (idled : ∀ state choice after, Invariant state → system.idle state choice = some after →
      Invariant after)
    {state : State} (holds : Invariant state) {labels : List (Label Kind Choice)}
    {finish : Machine State Call Reply Note Value}
    (ran : runFrom system.step { shared := state, tasks := [] } labels = some finish) :
    Orderly discipline Invariant finish := by
  have followed : ∀ state note request (next : Reply request → Program Call Reply Value) choice
      reply after, Invariant state → Follows discipline note (.call request next) →
      system.handle state note request choice = some (reply, after) →
        Follows discipline (system.note note request reply) (next reply) ∧ Invariant after := by
    intro state note request next choice reply after invariant follows answered
    obtain ⟨expected, kept⟩ := handled state note request choice reply after invariant follows.1
      answered
    rw [← noted]
    exact ⟨follows.2 reply expected, kept⟩
  have ended := run_keeps_tasks starts followed idled ⟨holds, List.forall_mem_nil _⟩ ran
  exact ⟨ended.1, ended.2⟩

end System

end MultiProxy.InteractionPrograms
