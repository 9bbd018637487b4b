import MultiProxy.InteractionPrograms

/-!
Tasks under the eyes of a watcher. Beside each task of an interleaved system the
watcher keeps what it saw at the task's own calls, the shared state before and
after them included. Watching changes no run. What is seen of a task stays true as
long as no step of another task, as far as it is relied on, can make it false.
-/

namespace MultiProxy.WatchedTasks

open MultiProxy.TransitionRuns MultiProxy.InteractionPrograms
open MultiProxy.InteractionPrograms.Program

set_option autoImplicit false

variable {State Call : Type} {Reply : Call → Type} {Kind Choice Note Value Sight : Type}

/-- What is seen of a new task, and what a call adds to it. -/
structure Watcher (State Call : Type) (Reply : Call → Type) (Sight : Type) where
  fresh : Sight
  look : Sight → State → (request : Call) → Reply request → State → Sight

structure Watched (State Call : Type) (Reply : Call → Type) (Note Value Sight : Type) where
  machine : Machine State Call Reply Note Value
  sights : List Sight

section Steps

variable (system : System State Call Reply Kind Choice Note Value)
  (watcher : Watcher State Call Reply Sight)

def sightAfter (state : State) (task : Note × Program Call Reply Value) (choice : Choice)
    (sight : Sight) : Sight :=
  match task.2 with
  | .done _ => sight
  | .call request _ =>
      match system.handle state task.1 request choice with
      | some handled => watcher.look sight state request handled.1 handled.2
      | none => sight

def sightsAfter (watched : Watched State Call Reply Note Value Sight) :
    Label Kind Choice → List Sight
  | .spawn _ => watched.sights ++ [watcher.fresh]
  | .advance index choice =>
      match watched.machine.tasks[index]? with
      | some task =>
          watched.sights.modify index (sightAfter system watcher watched.machine.shared task choice)
      | none => watched.sights
  | .drop index => watched.sights.eraseIdx index
  | .idle _ => watched.sights

def watchedStep (watched : Watched State Call Reply Note Value Sight) (label : Label Kind Choice) :
    Option (Watched State Call Reply Note Value Sight) :=
  (system.step watched.machine label).map fun next =>
    { machine := next, sights := sightsAfter system watcher watched label }

end Steps

variable {system : System State Call Reply Kind Choice Note Value}
  {watcher : Watcher State Call Reply Sight}

theorem watched_run_erases {start finish : Watched State Call Reply Note Value Sight}
    {labels : List (Label Kind Choice)}
    (ran : runFrom (watchedStep system watcher) start labels = some finish) :
    runFrom system.step start.machine labels = some finish.machine := by
  induction labels generalizing start with
  | nil =>
      cases ran
      rfl
  | cons label rest ih =>
      obtain ⟨next, taken, after⟩ := run_cons ran
      obtain ⟨machine, stepped, rfl⟩ := Option.map_eq_some_iff.mp taken
      rw [runFrom, stepped]
      exact ih after

theorem run_is_watched {start : Watched State Call Reply Note Value Sight}
    {finish : Machine State Call Reply Note Value} {labels : List (Label Kind Choice)}
    (ran : runFrom system.step start.machine labels = some finish) :
    ∃ sights, runFrom (watchedStep system watcher) start labels =
      some { machine := finish, sights := sights } := by
  induction labels generalizing start with
  | nil =>
      cases ran
      exact ⟨start.sights, rfl⟩
  | cons label rest ih =>
      obtain ⟨next, taken, after⟩ := run_cons ran
      let seen : Watched State Call Reply Note Value Sight :=
        { machine := next, sights := sightsAfter system watcher start label }
      have stepped : watchedStep system watcher start label = some seen := by
        rw [watchedStep, taken, Option.map_some]
      have nextRan : runFrom system.step seen.machine rest = some finish := after
      obtain ⟨sights, later⟩ := ih nextRan
      refine ⟨sights, ?_⟩
      rw [runFrom, stepped]
      exact later

/-- The shared state meets the invariant, and what is seen of each task is good. -/
structure Overseen (Good : State → Sight → Note → Program Call Reply Value → Prop)
    (Invariant : State → Prop) (watched : Watched State Call Reply Note Value Sight) : Prop where
  invariant : Invariant watched.machine.shared
  paired : watched.sights.length = watched.machine.tasks.length
  good : ∀ (index : Nat) task sight, watched.machine.tasks[index]? = some task →
    watched.sights[index]? = some sight → Good watched.machine.shared sight task.1 task.2

variable {Good : State → Sight → Note → Program Call Reply Value → Prop}
  {Invariant : State → Prop} {Relied : State → State → Prop}

theorem watched_advance {watched next : Watched State Call Reply Note Value Sight} {index : Nat}
    {choice : Choice} (paired : watched.sights.length = watched.machine.tasks.length)
    (taken : watchedStep system watcher watched (.advance index choice : Label Kind Choice) =
      some next) :
    ∃ note request rest sight reply left,
      watched.machine.tasks[index]? = some (note, .call request rest) ∧
      watched.sights[index]? = some sight ∧
      system.handle watched.machine.shared note request choice = some (reply, left) ∧
      next.machine = {
        shared := left
        tasks := watched.machine.tasks.set index (system.note note request reply, rest reply) } ∧
      next.sights = watched.sights.set index
        (watcher.look sight watched.machine.shared request reply left) := by
  obtain ⟨machine, stepped, rfl⟩ := Option.map_eq_some_iff.mp taken
  obtain ⟨note, request, rest, reply, left, found, answered, rfl⟩ := System.advance_taken stepped
  have within := (List.getElem?_eq_some_iff.mp found).1
  rw [← paired] at within
  refine ⟨note, request, rest, watched.sights[index], reply, left, found,
    List.getElem?_eq_getElem within, answered, rfl, ?_⟩
  simp only [sightsAfter, found]
  rw [List.modify_eq_set_getElem?, List.getElem?_eq_getElem within]
  simp [sightAfter, answered]

theorem watched_step_overseen
    (starts : ∀ state kind, Invariant state →
      Good state watcher.fresh (system.start kind).1 (system.start kind).2)
    (handled : ∀ state sight note request next choice reply after, Invariant state →
      Good state sight note (.call request next) →
      system.handle state note request choice = some (reply, after) →
        Invariant after ∧ Relied state after ∧
          Good after (watcher.look sight state request reply after)
            (system.note note request reply) (next reply))
    (idled : ∀ state choice after, Invariant state → system.idle state choice = some after →
      Invariant after ∧ Relied state after)
    (stable : ∀ state after sight note program, Relied state after →
      Good state sight note program → Good after sight note program)
    (watched next : Watched State Call Reply Note Value Sight) (label : Label Kind Choice)
    (overseen : Overseen Good Invariant watched)
    (taken : watchedStep system watcher watched label = some next) :
    Overseen Good Invariant next := by
  cases label with
  | spawn kind =>
      cases taken
      refine ⟨overseen.invariant, by simp [sightsAfter, overseen.paired], ?_⟩
      intro index task sight found seen
      simp only [sightsAfter, List.getElem?_append] at found seen
      rw [overseen.paired] at seen
      split at found
      · rw [if_pos ‹_›] at seen
        exact overseen.good index task sight found seen
      · rw [if_neg ‹_›] at seen
        rw [List.getElem?_singleton] at found seen
        split at found
        · rw [if_pos ‹_›] at seen
          cases found
          cases seen
          exact starts _ kind overseen.invariant
        · cases found
  | advance index choice =>
      obtain ⟨note, request, rest, sight, reply, left, found, seen, answered, machine, sights⟩ :=
        watched_advance overseen.paired taken
      obtain ⟨kept, relied, later⟩ := handled _ sight note request rest choice reply left
        overseen.invariant (overseen.good index _ sight found seen) answered
      have within := (List.getElem?_eq_some_iff.mp found).1
      have watchedWithin := (List.getElem?_eq_some_iff.mp seen).1
      refine ⟨by rw [machine]; exact kept, by simp [machine, sights, overseen.paired], ?_⟩
      intro other task otherSight foundOther seenOther
      rw [machine] at foundOther ⊢
      rw [sights] at seenOther
      simp only [List.getElem?_set] at foundOther seenOther
      by_cases here : index = other
      · rw [if_pos here, if_pos within] at foundOther
        rw [if_pos here, if_pos watchedWithin] at seenOther
        cases foundOther
        cases seenOther
        exact later
      · rw [if_neg here] at foundOther seenOther
        exact stable _ left otherSight _ _ relied
          (overseen.good other task otherSight foundOther seenOther)
  | drop index =>
      cases taken
      refine ⟨overseen.invariant, ?_, ?_⟩
      · simp [sightsAfter, List.length_eraseIdx, overseen.paired]
      · intro other task sight found seen
        simp only [sightsAfter, List.getElem?_eraseIdx] at found seen
        split at found
        · rw [if_pos ‹_›] at seen
          exact overseen.good other task sight found seen
        · rw [if_neg ‹_›] at seen
          exact overseen.good (other + 1) task sight found seen
  | idle choice =>
      obtain ⟨machine, stepped, rfl⟩ := Option.map_eq_some_iff.mp taken
      obtain ⟨shared, ran, rfl⟩ := Option.map_eq_some_iff.mp stepped
      obtain ⟨kept, relied⟩ := idled _ choice shared overseen.invariant ran
      refine ⟨kept, overseen.paired, ?_⟩
      intro index task sight found seen
      exact stable _ shared sight _ _ relied (overseen.good index task sight found seen)

/-- Whatever the interleaving, the tasks stay good in the eyes of the watcher. -/
theorem watched_run_overseen
    (starts : ∀ state kind, Invariant state →
      Good state watcher.fresh (system.start kind).1 (system.start kind).2)
    (handled : ∀ state sight note request next choice reply after, Invariant state →
      Good state sight note (.call request next) →
      system.handle state note request choice = some (reply, after) →
        Invariant after ∧ Relied state after ∧
          Good after (watcher.look sight state request reply after)
            (system.note note request reply) (next reply))
    (idled : ∀ state choice after, Invariant state → system.idle state choice = some after →
      Invariant after ∧ Relied state after)
    (stable : ∀ state after sight note program, Relied state after →
      Good state sight note program → Good after sight note program)
    {state : State} (holds : Invariant state) {labels : List (Label Kind Choice)}
    {finish : Watched State Call Reply Note Value Sight}
    (ran : runFrom (watchedStep system watcher)
      { machine := { shared := state, tasks := [] }, sights := [] } labels = some finish) :
    Overseen Good Invariant finish := by
  have preserved : ∀ watched label next, Overseen Good Invariant watched →
      watchedStep system watcher watched label = some next → Overseen Good Invariant next := by
    intro watched label next overseen taken
    exact watched_step_overseen starts handled idled stable watched next label overseen taken
  exact run_preserves preserved ⟨holds, rfl, by simp⟩ ran

end MultiProxy.WatchedTasks
