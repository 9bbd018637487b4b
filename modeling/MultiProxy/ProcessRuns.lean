import MultiProxy.InterleavedTasks
import MultiProxy.TransitionSimulations

/-!
# The running process

What runs between `serve` and the end of `main`: the accept loop, connections that
serve one request after the other, the health checker with one pass after the
other, and the shutdown that first ends the loop and then the checker. Its runs
are runs of the interleaved tasks, which know nothing of connections.
-/

namespace MultiProxy.ProcessRuns

open MultiProxy.RustRuntime MultiProxy.DuplexStream MultiProxy.UpstreamDsn MultiProxy.TransitionRuns
open MultiProxy.TransitionSimulations MultiProxy.InteractionPrograms
open MultiProxy.InteractionPrograms.Program MultiProxy.ChannelHealth MultiProxy.PathRequest
open MultiProxy.ProxyRequests MultiProxy.InterleavedTasks

set_option autoImplicit false

/-! ## Tasks and connections -/

/-- What a task came to. -/
inductive Ended where
  | answered (answer : Except String Answer)
  | checked

def serveRequest (service : Service) (request : ClientRequest) : Proxy Ended :=
  handleRequest service request >>= fun answer => pure (.answered answer)

def checkOnce : Proxy Ended := runCheck >>= fun _ => pure .checked

inductive Owner where
  | connection (number : Nat)
  | healthChecker
  deriving DecidableEq

structure Task where
  owner : Owner
  trial : Option Trial
  program : Proxy Ended

/-- `serve_connection` waits for a request, runs the service on it and writes its
answer before it waits again. A tunnel is copied to its end and serves no more. -/
inductive Connection where
  | waiting
  | serving
  | tunnelling (upstream : Duplex)
  | closed
  deriving DecidableEq

/-- An answer is written; an error of the service ends the connection. -/
def Connection.after : Ended → Connection
  | .answered (.ok (.tunnel upstream)) => .tunnelling upstream
  | .answered (.ok _) => .waiting
  | .answered (.error _) => .closed
  | .checked => .waiting

structure Process where
  accepting : Bool
  checking : Bool
  probeInterval : UInt64
  passes : Nat
  connections : List Connection
  shared : Shared
  tasks : List Task

/-- What `main` has set up as it calls `serve`. -/
def started (dsns : List Dsn) (probeInterval : UInt64) : Process where
  accepting := true
  checking := true
  probeInterval := probeInterval
  passes := 0
  connections := []
  shared := .initial dsns
  tasks := []

inductive Event where
  | accepted
  | acceptFailed
  | requested (number : Nat) (request : ClientRequest)
  | advanced (index : Nat) (choice : Choice)
  | ended (index : Nat)
  | disconnected (number : Nat)
  | passBegun
  | checkerPanicked
  | signalled
  | aborted
  | exited

namespace Process

variable (process : Process)

def without (owner : Owner) : List Task := process.tasks.eraseP fun task => task.owner = owner

def settle (owner : Owner) (ended : Ended) : List Connection :=
  match owner with
  | .connection number => process.connections.set number (.after ended)
  | .healthChecker => process.connections

def checkerIdle : Bool := process.tasks.all fun task => task.owner ≠ .healthChecker

end Process

def processStep (service : Service) (process : Process) : Event → Option Process
  | .accepted =>
      if process.accepting then
        some { process with connections := process.connections ++ [.waiting] }
      else none
  | .acceptFailed => if process.accepting then some process else none
  | .requested number request =>
      if process.connections[number]? = some .waiting then
        some { process with
          connections := process.connections.set number .serving
          tasks := process.tasks ++ [⟨.connection number, none, serveRequest service request⟩] }
      else none
  | .advanced index choice =>
      match process.tasks[index]? with
      | some ⟨owner, trial, .call request next⟩ =>
          (answer process.shared trial request choice).map fun answered =>
            { process with
              shared := answered.2
              tasks := process.tasks.set index
                ⟨owner, trialAfter trial request answered.1, next answered.1⟩ }
      | _ => none
  | .ended index =>
      match process.tasks[index]? with
      | some ⟨owner, _, .done ended⟩ =>
          some { process with
            connections := process.settle owner ended
            tasks := process.tasks.eraseIdx index }
      | _ => none
  | .disconnected number =>
      if number < process.connections.length then
        -- Dropping the connection drops the service future that it polls.
        some { process with
          connections := process.connections.set number .closed
          tasks := process.without (.connection number) }
      else none
  | .passBegun =>
      -- Only the passes behind the first one wait for the timer.
      if process.checking ∧ process.checkerIdle ∧
          (process.passes = 0 ∨ process.probeInterval ≠ 0) then
        some { process with
          passes := process.passes + 1
          tasks := process.tasks ++ [⟨.healthChecker, none, checkOnce⟩] }
      else none
  | .checkerPanicked =>
      -- The timer is made behind the first pass, and `interval` panics on a period of
      -- zero. Nobody waits for the checker, so nothing else ends with it.
      if process.checking ∧ process.checkerIdle ∧ process.passes ≠ 0 ∧
          process.probeInterval = 0 then
        some { process with checking := false }
      else none
  | .signalled => if process.accepting then some { process with accepting := false } else none
  | .aborted =>
      if !process.accepting && process.checking then
        some { process with checking := false, tasks := process.without .healthChecker }
      else none
  | .exited =>
      -- The runtime goes with `main`, and every task with the runtime, also one
      -- that was aborted and has not noticed yet.
      if process.accepting then none
      else some { process with
        checking := false
        connections := process.connections.map fun _ => .closed
        tasks := [] }

/-! ## The tasks of a process are interleaved tasks -/

def Task.erased (task : Task) : Option Trial × Proxy Unit :=
  (task.trial, task.program >>= fun _ => pure ())

def Process.erased (process : Process) : Machine Shared Call Reply (Option Trial) Unit where
  shared := process.shared
  tasks := process.tasks.map Task.erased

/-- The machine has the process's tasks and knows nothing of its connections. -/
def Erases (process : Process) (machine : Machine Shared Call Reply (Option Trial) Unit) : Prop :=
  machine = process.erased

/-- What both levels tell of a step: which work begins, and which call gets an answer. -/
inductive Shown where
  | began (kind : Kind)
  | answered (request : Call) (choice : Choice)

def eventShown (process : Process) : Event → List Shown
  | .requested _ request => [.began (.request request)]
  | .passBegun => [.began .check]
  | .advanced index choice =>
      match process.tasks[index]? with
      | some ⟨_, _, .call request _⟩ => [.answered request choice]
      | _ => []
  | _ => []

def labelShown (machine : Machine Shared Call Reply (Option Trial) Unit) :
    Label Kind Choice → List Shown
  | .spawn kind => [.began kind]
  | .advance index choice =>
      match machine.tasks[index]? with
      | some (_, .call request _) => [.answered request choice]
      | _ => []
  | _ => []

section Erasure

variable (service : Service)

theorem erased_request (number : Nat) (request : ClientRequest) :
    Task.erased ⟨.connection number, none, serveRequest service request⟩ =
      start service (.request request) := by
  rw [Task.erased, serveRequest, bind_assoc]
  rfl

theorem erased_check : Task.erased ⟨.healthChecker, none, checkOnce⟩ = start service .check := by
  have same : (runCheck >>= fun _ => (pure () : Proxy Unit)) = runCheck := bind_done runCheck
  rw [Task.erased, checkOnce, bind_assoc, pure_eq]
  simp only [done_bind]
  rw [same]
  rfl

theorem drop_of_owner (shared : Shared) (tasks : List Task) (owner : Owner) :
    ∃ labels, runFrom (proxySystem service).step
        { shared := shared, tasks := tasks.map Task.erased } labels =
      some {
        shared := shared
        tasks := (tasks.eraseP fun task => task.owner = owner).map Task.erased } ∧
      trace (proxySystem service).step labelShown
        { shared := shared, tasks := tasks.map Task.erased } labels = [] := by
  cases found : tasks.findIdx? fun task => task.owner = owner with
  | none =>
      have absent := List.findIdx?_eq_none_iff.mp found
      refine ⟨[], ?_, rfl⟩
      rw [List.eraseP_of_forall_not]
      · rfl
      · intro task member
        simpa using absent task member
  | some index =>
      refine ⟨[.drop index], ?_, rfl⟩
      have erased : (tasks.eraseP fun task => task.owner = owner) = tasks.eraseIdx index := by
        rw [List.eraseP_eq_eraseIdx, found]
      simp only [runFrom, System.step, erased, List.eraseIdx_map]

theorem drop_all (shared : Shared) (tasks : List (Option Trial × Proxy Unit)) :
    ∃ labels, runFrom (proxySystem service).step { shared := shared, tasks := tasks } labels =
        some { shared := shared, tasks := [] } ∧
      trace (proxySystem service).step labelShown { shared := shared, tasks := tasks } labels =
        [] := by
  induction tasks with
  | nil => exact ⟨[], rfl, rfl⟩
  | cons task rest ih =>
      obtain ⟨labels, ran, unseen⟩ := ih
      exact ⟨.drop 0 :: labels, ran, unseen⟩

end Erasure

/-! ## What a step can do -/

/-- Every way in which a step of the process can end, guards included. -/
inductive StepEffect (service : Service) (before : Process) : Event → Process → Prop where
  | accepted (accepting : before.accepting = true) :
      StepEffect service before .accepted
        { before with connections := before.connections ++ [.waiting] }
  | refused (accepting : before.accepting = true) : StepEffect service before .acceptFailed before
  | requested (number : Nat) (request : ClientRequest)
      (waiting : before.connections[number]? = some .waiting) :
      StepEffect service before (.requested number request)
        { before with
          connections := before.connections.set number .serving
          tasks := before.tasks ++ [⟨.connection number, none, serveRequest service request⟩] }
  | advanced (index : Nat) (choice : Choice) (owner : Owner) (trial : Option Trial)
      (request : Call) (next : Reply request → Proxy Ended) (reply : Reply request) (left : Shared)
      (found : before.tasks[index]? = some ⟨owner, trial, .call request next⟩)
      (answered : answer before.shared trial request choice = some (reply, left)) :
      StepEffect service before (.advanced index choice)
        { before with
          shared := left
          tasks := before.tasks.set index ⟨owner, trialAfter trial request reply, next reply⟩ }
  | ended (index : Nat) (owner : Owner) (trial : Option Trial) (ended : Ended)
      (found : before.tasks[index]? = some ⟨owner, trial, .done ended⟩) :
      StepEffect service before (.ended index)
        { before with
          connections := before.settle owner ended
          tasks := before.tasks.eraseIdx index }
  | disconnected (number : Nat) (known : number < before.connections.length) :
      StepEffect service before (.disconnected number)
        { before with
          connections := before.connections.set number .closed
          tasks := before.without (.connection number) }
  | passBegun (checking : before.checking = true) (idle : before.checkerIdle = true)
      (timed : before.passes = 0 ∨ before.probeInterval ≠ 0) :
      StepEffect service before .passBegun
        { before with
          passes := before.passes + 1
          tasks := before.tasks ++ [⟨.healthChecker, none, checkOnce⟩] }
  | checkerPanicked (checking : before.checking = true) (idle : before.checkerIdle = true)
      (passed : before.passes ≠ 0) (zero : before.probeInterval = 0) :
      StepEffect service before .checkerPanicked { before with checking := false }
  | signalled (accepting : before.accepting = true) :
      StepEffect service before .signalled { before with accepting := false }
  | aborted (stopped : before.accepting = false) (checking : before.checking = true) :
      StepEffect service before .aborted
        { before with checking := false, tasks := before.without .healthChecker }
  | exited (stopped : before.accepting = false) :
      StepEffect service before .exited
        { before with
          checking := false
          connections := before.connections.map fun _ => .closed
          tasks := [] }

theorem step_effect {service : Service} {before after : Process} {event : Event}
    (taken : processStep service before event = some after) :
    StepEffect service before event after := by
  cases event with
  | accepted =>
      obtain ⟨accepting, same⟩ := Option.ite_none_right_eq_some.mp taken
      cases same
      exact .accepted accepting
  | acceptFailed =>
      obtain ⟨accepting, same⟩ := Option.ite_none_right_eq_some.mp taken
      cases same
      exact .refused accepting
  | requested number request =>
      obtain ⟨waiting, same⟩ := Option.ite_none_right_eq_some.mp taken
      cases same
      exact .requested number request waiting
  | advanced index choice =>
      simp only [processStep] at taken
      split at taken
      · obtain ⟨⟨reply, left⟩, answered, rfl⟩ := Option.map_eq_some_iff.mp taken
        exact .advanced index choice _ _ _ _ reply left ‹_› answered
      · cases taken
  | ended index =>
      simp only [processStep] at taken
      split at taken
      · cases taken
        exact .ended index _ _ _ ‹_›
      · cases taken
  | disconnected number =>
      obtain ⟨known, same⟩ := Option.ite_none_right_eq_some.mp taken
      cases same
      exact .disconnected number known
  | passBegun =>
      obtain ⟨⟨checking, idle, timed⟩, same⟩ := Option.ite_none_right_eq_some.mp taken
      cases same
      exact .passBegun checking idle timed
  | checkerPanicked =>
      obtain ⟨⟨checking, idle, passed, zero⟩, same⟩ := Option.ite_none_right_eq_some.mp taken
      cases same
      exact .checkerPanicked checking idle passed zero
  | signalled =>
      obtain ⟨accepting, same⟩ := Option.ite_none_right_eq_some.mp taken
      cases same
      exact .signalled accepting
  | aborted =>
      obtain ⟨ready, same⟩ := Option.ite_none_right_eq_some.mp taken
      cases same
      simp only [Bool.and_eq_true, Bool.not_eq_true'] at ready
      exact .aborted ready.1 ready.2
  | exited =>
      obtain ⟨stopped, same⟩ := Option.ite_none_left_eq_some.mp taken
      cases same
      exact .exited (by simpa using stopped)

/-- Each step of the process is matched by a step of the interleaved tasks, or by none. -/
theorem process_simulates (service : Service) :
    Simulates (processStep service) eventShown (proxySystem service).step labelShown Erases := by
  rintro process event next machine rfl taken
  cases step_effect taken with
  | accepted accepting => exact matched_by_none rfl
  | refused accepting => exact matched_by_none rfl
  | requested number request waiting =>
      refine matched_by_one (Label.spawn (Kind.request request)) rfl ?_
      simp only [Erases, Process.erased, List.map_append, List.map_singleton, erased_request]
      rfl
  | advanced index choice owner trial request rest reply left found answered =>
      have foundAbove : process.erased.tasks[index]? =
          some (trial, .call request fun reply => rest reply >>= fun _ => pure ()) := by
        rw [Process.erased, List.getElem?_map, found]
        rfl
      have shown : eventShown process (.advanced index choice) =
          labelShown process.erased (.advance index choice) := by
        rw [eventShown, found, labelShown, foundAbove]
      rw [shown]
      refine matched_by_one (Label.advance index choice) ?_ rfl
      simp only [System.step, foundAbove, Option.bind_some, System.advanceTask]
      have answeredAbove : (proxySystem service).handle process.erased.shared trial request choice =
          some (reply, left) := answered
      rw [answeredAbove]
      simp only [Option.map_some, Process.erased, List.map_set]
      rfl
  | ended index owner trial ended found =>
      refine matched_by_one (Label.drop index) rfl ?_
      simp only [Erases, Process.erased, List.eraseIdx_map]
  | disconnected number known =>
      obtain ⟨labels, ran, unseen⟩ :=
        drop_of_owner service process.shared process.tasks (.connection number)
      exact ⟨labels, _, ran, rfl, unseen⟩
  | passBegun checking idle timed =>
      refine matched_by_one (Label.spawn Kind.check) rfl ?_
      simp only [Erases, Process.erased, List.map_append, List.map_singleton, erased_check service]
      rfl
  | checkerPanicked checking idle passed zero => exact matched_by_none rfl
  | signalled accepting => exact matched_by_none rfl
  | aborted stopped checking =>
      obtain ⟨labels, ran, unseen⟩ :=
        drop_of_owner service process.shared process.tasks .healthChecker
      exact ⟨labels, _, ran, rfl, unseen⟩
  | exited stopped =>
      obtain ⟨labels, ran, unseen⟩ :=
        drop_all service process.shared (process.tasks.map Task.erased)
      exact ⟨labels, _, ran, rfl, unseen⟩

/-! ## Who is at work -/

def Process.owners (process : Process) : List Owner := process.tasks.map Task.owner

/-- No owner has two tasks, a connection has one exactly while it serves, and the
checker has one only as long as it is there. -/
structure Kept (process : Process) : Prop where
  one_each : process.owners.Nodup
  serving : ∀ number, .connection number ∈ process.owners ↔
    process.connections[number]? = some .serving
  checked : .healthChecker ∈ process.owners → process.checking = true

theorem started_kept (dsns : List Dsn) (probeInterval : UInt64) :
    Kept (started dsns probeInterval) where
  one_each := List.nodup_nil
  serving := by
    intro number
    simp [started, Process.owners]
  checked := by
    intro checker
    cases checker

theorem owners_without (process : Process) (owner : Owner) :
    (process.without owner).map Task.owner = process.owners.erase owner := by
  rw [Process.owners, List.erase_eq_eraseP', List.eraseP_map]
  apply congrArg (List.map Task.owner)
  rw [Process.without]
  congr 1

/-- Where every owner has one task, to remove it by its place is to remove its owner. -/
theorem owners_erased {process : Process} {index : Nat} {task : Task}
    (one_each : process.owners.Nodup) (found : process.tasks[index]? = some task) :
    (process.tasks.eraseIdx index).map Task.owner = process.owners.erase task.owner := by
  obtain ⟨within, here⟩ := List.getElem?_eq_some_iff.mp found
  have inOwners : index < process.owners.length := by simpa [Process.owners] using within
  have owner : process.owners[index] = task.owner := by simp [Process.owners, here]
  rw [← owner, one_each.erase_getElem index inOwners, Process.owners, List.eraseIdx_map]

theorem owners_set {process : Process} {index : Nat} {task later : Task}
    (found : process.tasks[index]? = some task) (same : later.owner = task.owner) :
    (process.tasks.set index later).map Task.owner = process.owners := by
  apply List.ext_getElem?
  intro position
  rw [Process.owners, List.getElem?_map, List.getElem?_map, List.getElem?_set]
  by_cases here : index = position
  · subst here
    rw [if_pos rfl, if_pos (List.getElem?_eq_some_iff.mp found).1, found]
    exact congrArg some same
  · rw [if_neg here]

theorem serving_set {connections : List Connection} {number : Nat} (connection : Connection)
    (other : Nat) (known : number < connections.length) :
    (connections.set number connection)[other]? = some .serving ↔
      (other = number ∧ connection = .serving) ∨
        (other ≠ number ∧ connections[other]? = some .serving) := by
  rw [List.getElem?_set]
  by_cases same : number = other
  · subst same
    simp [known]
  · simp [same, Ne.symm same]

theorem after_not_serving (ended : Ended) : Connection.after ended ≠ .serving := by
  intro same
  unfold Connection.after at same
  split at same <;> cases same

theorem serving_left {process : Process} (kept : Kept process) {number : Nat}
    (known : number < process.connections.length) {connection : Connection}
    (idle : connection ≠ .serving) (other : Nat) :
    .connection other ∈ process.owners.erase (.connection number) ↔
      (process.connections.set number connection)[other]? = some .serving := by
  rw [kept.one_each.mem_erase_iff, kept.serving, serving_set _ _ known]
  simp [idle]

theorem serving_unchecked {process : Process} (kept : Kept process) (number : Nat) :
    .connection number ∈ process.owners.erase .healthChecker ↔
      process.connections[number]? = some .serving := by
  rw [kept.one_each.mem_erase_iff, kept.serving]
  simp

theorem idle_unowned {process : Process} (idle : process.checkerIdle = true) :
    .healthChecker ∉ process.owners := by
  intro checker
  obtain ⟨task, member, owned⟩ := List.mem_map.mp checker
  have other := List.all_eq_true.mp idle task member
  simp [owned] at other

theorem kept_with {before after : Process} {owner : Owner} (kept : Kept before)
    (owners : after.owners = before.owners ++ [owner]) (absent : owner ∉ before.owners)
    (serving : ∀ number, .connection number ∈ before.owners ∨ .connection number = owner ↔
      after.connections[number]? = some .serving)
    (checked : .healthChecker ∈ before.owners ∨ .healthChecker = owner → after.checking = true) :
    Kept after where
  one_each := by
    rw [owners, List.nodup_append]
    refine ⟨kept.one_each, List.nodup_singleton _, ?_⟩
    intro member there other single same
    rw [same, List.mem_singleton.mp single] at there
    exact absent there
  serving := by
    intro number
    rw [owners, List.mem_append, List.mem_singleton]
    exact serving number
  checked := by
    rw [owners, List.mem_append, List.mem_singleton]
    exact checked

theorem kept_without {before after : Process} {owner : Owner} (kept : Kept before)
    (owners : after.owners = before.owners.erase owner)
    (serving : ∀ number, .connection number ∈ before.owners.erase owner ↔
      after.connections[number]? = some .serving)
    (checked : .healthChecker ∈ before.owners.erase owner → after.checking = true) :
    Kept after where
  one_each := by
    rw [owners]
    exact kept.one_each.erase owner
  serving := by
    rw [owners]
    exact serving
  checked := by
    rw [owners]
    exact checked

theorem kept_accepted {before : Process} (kept : Kept before) :
    Kept { before with connections := before.connections ++ [.waiting] } := by
  refine ⟨kept.one_each, ?_, kept.checked⟩
  intro number
  rw [List.getElem?_append]
  split
  · exact kept.serving number
  · rename_i beyond
    have unknown := List.getElem?_eq_none (Nat.le_of_not_lt beyond)
    have absent := (kept.serving number).not.mpr (by simp [unknown])
    refine iff_of_false absent ?_
    rw [List.getElem?_singleton]
    split <;> simp

theorem step_kept {service : Service} (before : Process) (event : Event) (after : Process)
    (kept : Kept before) (taken : processStep service before event = some after) : Kept after := by
  cases step_effect taken with
  | accepted accepting => exact kept_accepted kept
  | refused accepting => exact kept
  | requested number request waiting =>
      have known := (List.getElem?_eq_some_iff.mp waiting).1
      have absent : .connection number ∉ before.owners := by
        rw [kept.serving, waiting]
        simp
      refine kept_with kept (by simp [Process.owners]) absent ?_ ?_
      · intro other
        rw [serving_set _ _ known, kept.serving]
        by_cases same : other = number
        · simp [same]
        · simp [same]
      · intro checker
        exact kept.checked (checker.resolve_right (by simp))
  | advanced index choice owner trial request next reply left found answered =>
      have owners : (before.tasks.set index
          ⟨owner, trialAfter trial request reply, next reply⟩).map Task.owner = before.owners :=
        owners_set found rfl
      refine ⟨?_, ?_, ?_⟩
      · rw [Process.owners, owners]
        exact kept.one_each
      · rw [Process.owners, owners]
        exact kept.serving
      · rw [Process.owners, owners]
        exact kept.checked
  | ended index owner trial ended found =>
      refine kept_without kept (owners_erased kept.one_each found) ?_ ?_
      · intro other
        cases owner with
        | connection number =>
            have member : .connection number ∈ before.owners :=
              List.mem_map.mpr ⟨_, List.mem_of_getElem? found, rfl⟩
            have known := (List.getElem?_eq_some_iff.mp ((kept.serving number).mp member)).1
            exact serving_left kept known (after_not_serving ended) other
        | healthChecker => exact serving_unchecked kept other
      · intro checker
        exact kept.checked (List.mem_of_mem_erase checker)
  | disconnected number known =>
      have idle : Connection.closed ≠ .serving := by simp
      refine kept_without kept (owners_without before _) (serving_left kept known idle) ?_
      intro checker
      exact kept.checked (List.mem_of_mem_erase checker)
  | passBegun checking idle timed =>
      refine kept_with kept (by simp [Process.owners]) (idle_unowned idle) ?_ fun _ => checking
      intro number
      rw [kept.serving]
      simp
  | checkerPanicked checking idle passed zero =>
      refine ⟨kept.one_each, kept.serving, ?_⟩
      intro checker
      exact absurd checker (idle_unowned idle)
  | signalled accepting => exact ⟨kept.one_each, kept.serving, kept.checked⟩
  | aborted stopped checking =>
      refine kept_without kept (owners_without before _) (serving_unchecked kept) ?_
      intro checker
      exact absurd rfl (kept.one_each.mem_erase_iff.mp checker).1
  | exited stopped =>
      refine ⟨List.nodup_nil, ?_, ?_⟩
      · intro number
        have nobody : ¬ .connection number ∈ ([] : List Owner) := List.not_mem_nil
        refine iff_of_false nobody ?_
        rw [List.getElem?_map]
        cases before.connections[number]? <;> simp
      · intro checker
        cases checker

/-! ## Whole runs -/

section Runs

variable {service : Service} {dsns : List Dsn} {probeInterval : UInt64} {events : List Event}
  {finish : Process}

theorem run_kept
    (ran : runFrom (processStep service) (started dsns probeInterval) events = some finish) :
    Kept finish :=
  run_preserves step_kept (started_kept dsns probeInterval) ran

theorem run_refines
    (ran : runFrom (processStep service) (started dsns probeInterval) events = some finish) :
    ∃ labels, runFrom (proxySystem service).step { shared := .initial dsns, tasks := [] } labels =
        some finish.erased ∧
      trace (proxySystem service).step labelShown { shared := .initial dsns, tasks := [] } labels =
        trace (processStep service) eventShown (started dsns probeInterval) events := by
  have begins : Erases (started dsns probeInterval) { shared := .initial dsns, tasks := [] } := rfl
  obtain ⟨labels, machine, above, rfl, shown⟩ :=
    run_simulated (process_simulates service) begins ran
  exact ⟨labels, above, shown⟩

theorem owners_few {process : Process} (kept : Kept process) :
    process.tasks.length ≤ process.connections.length + 1 := by
  have known : process.owners ⊆
      .healthChecker :: (List.range process.connections.length).map .connection := by
    intro owner member
    cases owner with
    | healthChecker => exact List.mem_cons_self
    | connection number =>
        have serving := (kept.serving number).mp member
        have within := (List.getElem?_eq_some_iff.mp serving).1
        apply List.mem_cons_of_mem
        exact List.mem_map.mpr ⟨number, List.mem_range.mpr within, rfl⟩
  have few := (kept.one_each.subperm known).length_le
  simpa [Process.owners] using few

end Runs

/-! ## The end of the process -/

/-- Once out of the accept loop, the process stays out of it. -/
structure Left (connections : Nat) (process : Process) : Prop where
  stopped : process.accepting = false
  known : process.connections.length = connections

structure Unchecked (process : Process) : Prop where
  checked : process.checking = false
  nobody : .healthChecker ∉ process.owners

structure Gone (shared : Shared) (process : Process) : Prop where
  stopped : process.accepting = false
  unchecked : process.checking = false
  closed : ∀ connection ∈ process.connections, connection = .closed
  idle : process.tasks = []
  same : process.shared = shared

theorem settle_known (process : Process) (owner : Owner) (ended : Ended) :
    (process.settle owner ended).length = process.connections.length := by
  cases owner with
  | connection number => exact List.length_set
  | healthChecker => rfl

section Steps

variable {service : Service} {before after : Process} {event : Event}
  (taken : processStep service before event = some after)

include taken

theorem left_step {connections : Nat} (left : Left connections before) :
    Left connections after ∧ event ≠ .accepted := by
  obtain ⟨stopped, known⟩ := left
  cases step_effect taken with
  | accepted accepting => simp [stopped] at accepting
  | refused accepting => simp [stopped] at accepting
  | signalled accepting => simp [stopped] at accepting
  | requested number request waiting => exact ⟨⟨stopped, by simpa using known⟩, by simp⟩
  | advanced index choice owner trial request next reply left found answered =>
      exact ⟨⟨stopped, known⟩, by simp⟩
  | ended index owner trial ended found =>
      exact ⟨⟨stopped, (settle_known before owner ended).trans known⟩, by simp⟩
  | disconnected number within => exact ⟨⟨stopped, by simpa using known⟩, by simp⟩
  | passBegun checking idle timed => exact ⟨⟨stopped, known⟩, by simp⟩
  | checkerPanicked checking idle passed zero => exact ⟨⟨stopped, known⟩, by simp⟩
  | aborted out checking => exact ⟨⟨stopped, known⟩, by simp⟩
  | exited out => exact ⟨⟨stopped, by simpa using known⟩, by simp⟩

theorem unchecked_step (unchecked : Unchecked before) :
    Unchecked after ∧ event ≠ .passBegun := by
  obtain ⟨checked, nobody⟩ := unchecked
  cases step_effect taken with
  | passBegun checking idle timed => simp [checked] at checking
  | checkerPanicked checking idle passed zero => simp [checked] at checking
  | aborted out checking => simp [checked] at checking
  | accepted accepting => exact ⟨⟨checked, nobody⟩, by simp⟩
  | refused accepting => exact ⟨⟨checked, nobody⟩, by simp⟩
  | signalled accepting => exact ⟨⟨checked, nobody⟩, by simp⟩
  | requested number request waiting =>
      exact ⟨⟨checked, by simpa [Process.owners] using nobody⟩, by simp⟩
  | advanced index choice owner trial request next reply left found answered =>
      have owners : (before.tasks.set index
          ⟨owner, trialAfter trial request reply, next reply⟩).map Task.owner = before.owners :=
        owners_set found rfl
      refine ⟨⟨checked, ?_⟩, by simp⟩
      rw [Process.owners, owners]
      exact nobody
  | ended index owner trial ended found =>
      refine ⟨⟨checked, ?_⟩, by simp⟩
      intro checker
      apply nobody
      rw [Process.owners, ← List.eraseIdx_map] at checker
      exact List.mem_of_mem_eraseIdx checker
  | disconnected number within =>
      refine ⟨⟨checked, ?_⟩, by simp⟩
      rw [Process.owners, owners_without]
      exact fun checker => nobody (List.mem_of_mem_erase checker)
  | exited out => exact ⟨⟨rfl, List.not_mem_nil⟩, by simp⟩

theorem gone_step {shared : Shared} (gone : Gone shared before) : Gone shared after := by
  obtain ⟨stopped, unchecked, closed, idle, same⟩ := gone
  cases step_effect taken with
  | accepted accepting => simp [stopped] at accepting
  | refused accepting => simp [stopped] at accepting
  | signalled accepting => simp [stopped] at accepting
  | passBegun checking idle timed => simp [unchecked] at checking
  | checkerPanicked checking idle passed zero => simp [unchecked] at checking
  | aborted out checking => simp [unchecked] at checking
  | requested number request waiting => cases closed _ (List.mem_of_getElem? waiting)
  | advanced index choice owner trial request next reply left found answered =>
      simp [idle] at found
  | ended index owner trial ended found => simp [idle] at found
  | disconnected number within =>
      refine ⟨stopped, unchecked, ?_, by simp [Process.without, idle], same⟩
      intro connection member
      rcases List.mem_or_eq_of_mem_set member with earlier | now
      · exact closed connection earlier
      · exact now
  | exited out =>
      refine ⟨stopped, rfl, ?_, rfl, same⟩
      intro connection member
      obtain ⟨_, _, rfl⟩ := List.mem_map.mp member
      rfl

theorem checking_stays (gone : before.checking = false) :
    after.checking = false ∧ after.passes = before.passes := by
  cases step_effect taken with
  | passBegun checking idle timed => simp [gone] at checking
  | exited out => exact ⟨rfl, rfl⟩
  | aborted out checking => exact ⟨rfl, rfl⟩
  | checkerPanicked checking idle passed zero => exact ⟨rfl, rfl⟩
  | _ => exact ⟨gone, rfl⟩

theorem accepting_stays (stopped : before.accepting = false) : after.accepting = false := by
  have left : Left before.connections.length before := ⟨stopped, rfl⟩
  exact (left_step taken left).1.stopped

end Steps

/-- The interval stays, and with one of zero there is no pass but the first. -/
structure Timed (probeInterval : UInt64) (process : Process) : Prop where
  interval : process.probeInterval = probeInterval
  few : probeInterval = 0 → process.passes ≤ 1

theorem started_timed (dsns : List Dsn) (probeInterval : UInt64) :
    Timed probeInterval (started dsns probeInterval) :=
  ⟨rfl, fun _ => Nat.zero_le 1⟩

theorem timed_step {service : Service} {probeInterval : UInt64} (before : Process) (event : Event)
    (after : Process) (timed : Timed probeInterval before)
    (taken : processStep service before event = some after) : Timed probeInterval after := by
  cases step_effect taken with
  | passBegun checking idle ready =>
      refine ⟨timed.interval, ?_⟩
      intro zero
      rcases ready with first | ticking
      · simp [first]
      · exact absurd (timed.interval.trans zero) ticking
  | _ => exact ⟨timed.interval, timed.few⟩

theorem run_without {service : Service} {Kept : Process → Prop} {excluded : Event}
    (kept : ∀ before event after, Kept before → processStep service before event = some after →
      Kept after ∧ event ≠ excluded)
    {middle finish : Process} {events : List Event} (holds : Kept middle)
    (ran : runFrom (processStep service) middle events = some finish) :
    Kept finish ∧ excluded ∉ events := by
  induction events generalizing middle with
  | nil =>
      cases ran
      exact ⟨holds, List.not_mem_nil⟩
  | cons event rest ih =>
      obtain ⟨next, taken, later⟩ := run_cons ran
      obtain ⟨nextHolds, other⟩ := kept middle event next holds taken
      obtain ⟨atEnd, absent⟩ := ih nextHolds later
      exact ⟨atEnd, List.not_mem_cons_of_ne_of_not_mem (Ne.symm other) absent⟩

theorem run_gone {service : Service} {start finish : Process} {events : List Event}
    (ran : runFrom (processStep service) start events = some finish)
    (exited : Event.exited ∈ events) : Gone finish.shared finish := by
  refine run_behind (fun process => Gone process.shared process) ?_ ?_ exited ran
  · intro before after taken
    cases step_effect taken with
    | exited out =>
        refine ⟨out, rfl, ?_, rfl, rfl⟩
        intro connection member
        obtain ⟨_, _, rfl⟩ := List.mem_map.mp member
        rfl
  · intro before event after gone taken
    have stays := gone_step taken gone
    rw [stays.same]
    exact stays

/-- `aborted` comes behind the accept loop, and the checker is gone with it. -/
theorem run_aborted {service : Service} {start finish : Process} {events : List Event}
    (ran : runFrom (processStep service) start events = some finish)
    (aborted : Event.aborted ∈ events) : finish.accepting = false ∧ finish.checking = false := by
  refine run_behind (fun process => process.accepting = false ∧ process.checking = false) ?_ ?_
    aborted ran
  · intro before after taken
    cases step_effect taken with
    | aborted out checking => exact ⟨out, rfl⟩
  · intro before event after stopped taken
    exact ⟨accepting_stays taken stopped.1, (checking_stays taken stopped.2).1⟩

theorem passes_stay {service : Service} {start finish : Process} {events : List Event}
    (unchecked : start.checking = false)
    (ran : runFrom (processStep service) start events = some finish) :
    finish.passes = start.passes := by
  have kept : ∀ before event after,
      (before.checking = false ∧ before.passes = start.passes) →
        processStep service before event = some after →
          after.checking = false ∧ after.passes = start.passes := by
    intro before event after holds taken
    obtain ⟨stays, same⟩ := checking_stays taken holds.1
    exact ⟨stays, same.trans holds.2⟩
  exact (run_preserves kept ⟨unchecked, rfl⟩ ran).2

/-- The checker ends by itself only where its timer can have no period. -/
theorem run_unchecked {service : Service} {dsns : List Dsn} {probeInterval : UInt64}
    {finish : Process} {events : List Event}
    (ran : runFrom (processStep service) (started dsns probeInterval) events = some finish)
    (unchecked : finish.checking = false) :
    finish.accepting = false ∨
      (.checkerPanicked ∈ events ∧ probeInterval = 0 ∧ finish.passes = 1) := by
  have checking : (started dsns probeInterval).checking = true := rfl
  have lost : ¬ finish.checking = true := by simp [unchecked]
  obtain ⟨front, event, back, before, after, rfl, first, taken, second, held, gone⟩ :=
    run_loses (fun process => process.checking = true) ran checking lost
  have stopped_for_good : after.accepting = false → finish.accepting = false := fun stopped =>
    run_preserves (fun _ _ _ holds taken => accepting_stays taken holds) stopped second
  cases step_effect taken with
  | checkerPanicked checking idle passed zero =>
      right
      have timed := run_preserves timed_step (started_timed dsns probeInterval) first
      have noPeriod : probeInterval = 0 := timed.interval.symm.trans zero
      have once : before.passes = 1 :=
        Nat.le_antisymm (timed.few noPeriod) (Nat.one_le_iff_ne_zero.mpr passed)
      exact ⟨by simp, noPeriod, (passes_stay rfl second).trans once⟩
  | aborted out checking => exact .inl (stopped_for_good out)
  | exited out => exact .inl (stopped_for_good out)
  | _ => exact absurd held gone

/-! ## What holds of every run -/

/-- A run of the process is a run of interleaved tasks in which the same requests
and passes begin and their calls get the same answers, in the same order. -/
theorem process_runs_are_interleavings (service : Service) (dsns : List Dsn)
    (probeInterval : UInt64) (events : List Event) (finish : Process)
    (ran : runFrom (processStep service) (started dsns probeInterval) events = some finish) :
    ∃ labels, runFrom (proxySystem service).step { shared := .initial dsns, tasks := [] } labels =
        some finish.erased ∧
      trace (proxySystem service).step labelShown { shared := .initial dsns, tasks := [] } labels =
        trace (processStep service) eventShown (started dsns probeInterval) events :=
  run_refines ran

def healthRequest : ClientRequest := PathDestination.getRequest "/health"

/-- A connection that asks for the state of the channels, and waits again. -/
def healthServed : List Event :=
  [.accepted, .requested 0 healthRequest, .advanced 0 (.time 3), .advanced 0 .any,
    .advanced 0 .any, .ended 0]

def afterHealth : Process := { started [sshDsn] 600 with connections := [.waiting] }

theorem health_served_is_interleaving :
    ∃ labels, runFrom (proxySystem PathDestination.exampleService).step
        { shared := .initial [sshDsn], tasks := [] } labels = some afterHealth.erased ∧
      trace (proxySystem PathDestination.exampleService).step labelShown
          { shared := .initial [sshDsn], tasks := [] } labels =
        trace (processStep PathDestination.exampleService) eventShown (started [sshDsn] 600)
          healthServed :=
  process_runs_are_interleavings PathDestination.exampleService [sshDsn] 600 healthServed
    afterHealth rfl

/-- However its clients and timers act, the process works on at most one request
for a connection and on at most one pass, and a connection has a task exactly
while it serves. -/
theorem one_task_for_each_owner (service : Service) (dsns : List Dsn) (probeInterval : UInt64)
    (events : List Event) (finish : Process)
    (ran : runFrom (processStep service) (started dsns probeInterval) events = some finish) :
    finish.owners.Nodup ∧
      (∀ number, .connection number ∈ finish.owners ↔
        finish.connections[number]? = some .serving) ∧
      (.healthChecker ∈ finish.owners → finish.checking = true) ∧
      finish.tasks.length ≤ finish.connections.length + 1 := by
  have kept := run_kept ran
  exact ⟨kept.one_each, kept.serving, kept.checked, owners_few kept⟩

/-- A request and a pass are in work, and a second connection waits. -/
def bothBegun : List Event := [.accepted, .passBegun, .accepted, .requested 0 healthRequest]

def bothAtWork : Process :=
  { started [sshDsn] 600 with
    passes := 1
    connections := [.serving, .waiting]
    tasks := [⟨.healthChecker, none, checkOnce⟩,
      ⟨.connection 0, none, serveRequest PathDestination.exampleService healthRequest⟩] }

theorem one_task_each_at_work :
    bothAtWork.owners.Nodup ∧
      (∀ number, .connection number ∈ bothAtWork.owners ↔
        bothAtWork.connections[number]? = some .serving) ∧
      (.healthChecker ∈ bothAtWork.owners → bothAtWork.checking = true) ∧
      bothAtWork.tasks.length ≤ bothAtWork.connections.length + 1 :=
  one_task_for_each_owner PathDestination.exampleService [sshDsn] 600 bothBegun bothAtWork rfl

/-- The process ends in order: a state outside the accept loop accepts no connection
again; the checker is aborted only there, and before that it is gone only where an
interval of zero made it panic behind its first pass; one without the checker begins no
pass; and behind `exited` nothing is done any more. -/
theorem process_ends_in_order (service : Service) (dsns : List Dsn) (probeInterval : UInt64)
    (front back : List Event) (middle finish : Process)
    (first : runFrom (processStep service) (started dsns probeInterval) front = some middle)
    (second : runFrom (processStep service) middle back = some finish) :
    (middle.accepting = false →
      finish.accepting = false ∧ finish.connections.length = middle.connections.length ∧
        .accepted ∉ back) ∧
      (Event.aborted ∈ front → middle.accepting = false ∧ middle.checking = false) ∧
      (middle.checking = false →
        (middle.accepting = false ∨
          (.checkerPanicked ∈ front ∧ probeInterval = 0 ∧ middle.passes = 1)) ∧
        .healthChecker ∉ finish.owners ∧ .passBegun ∉ back) ∧
      (Event.exited ∈ front → finish.shared = middle.shared ∧ finish.tasks = []) := by
  have kept := run_kept first
  refine ⟨?_, run_aborted first, ?_, ?_⟩
  · intro stopped
    have left : Left middle.connections.length middle := ⟨stopped, rfl⟩
    obtain ⟨atEnd, absent⟩ := run_without
      (fun before event after holds taken => left_step taken holds) left second
    exact ⟨atEnd.stopped, atEnd.known, absent⟩
  · intro unchecked
    have nobody : .healthChecker ∉ middle.owners := by
      intro checker
      have checking := kept.checked checker
      rw [unchecked] at checking
      cases checking
    obtain ⟨atEnd, absent⟩ := run_without
      (fun before event after holds taken => unchecked_step taken holds)
      (⟨unchecked, nobody⟩ : Unchecked middle) second
    exact ⟨run_unchecked first unchecked, atEnd.nobody, absent⟩
  · intro exited
    have gone := run_gone first exited
    have stays := run_preserves (fun before event after holds taken => gone_step taken holds)
      gone second
    exact ⟨stays.same, stays.idle⟩

/-- A pass and then a request are under way as the process ends. -/
def interrupted : List Event :=
  [.accepted, .passBegun, .signalled, .aborted, .requested 0 healthRequest, .exited]

def afterInterruption : Process where
  accepting := false
  checking := false
  probeInterval := 600
  passes := 1
  connections := [.closed]
  shared := .initial [sshDsn]
  tasks := []

theorem interrupted_in_order :
    (afterInterruption.accepting = false →
      afterInterruption.accepting = false ∧
        afterInterruption.connections.length = afterInterruption.connections.length ∧
          .accepted ∉ [Event.disconnected 0]) ∧
      (Event.aborted ∈ interrupted →
        afterInterruption.accepting = false ∧ afterInterruption.checking = false) ∧
      (afterInterruption.checking = false →
        (afterInterruption.accepting = false ∨
          (.checkerPanicked ∈ interrupted ∧ (600 : UInt64) = 0 ∧ afterInterruption.passes = 1)) ∧
        .healthChecker ∉ afterInterruption.owners ∧ .passBegun ∉ [Event.disconnected 0]) ∧
      (Event.exited ∈ interrupted →
        afterInterruption.shared = afterInterruption.shared ∧ afterInterruption.tasks = []) :=
  process_ends_in_order PathDestination.exampleService [sshDsn] 600 interrupted
    [.disconnected 0] afterInterruption afterInterruption rfl rfl

end MultiProxy.ProcessRuns
