import MultiProxy.InterleavedTasks
import MultiProxy.RequestRules

/-!
# How far a burst of failures takes the counter

Attempts over one channel that are under way at the same time and all fail. Each
of them is marked by its own task, so each of them counts.
-/

namespace MultiProxy.FailureBursts

open MultiProxy.RustRuntime MultiProxy.DuplexStream MultiProxy.UpstreamDsn MultiProxy.TransitionRuns
open MultiProxy.InteractionPrograms MultiProxy.InteractionPrograms.Program
open MultiProxy.ChannelHealth MultiProxy.ChannelHistory MultiProxy.PathRequest
open MultiProxy.ProxyRequests MultiProxy.ChannelLoops MultiProxy.RequestRules
open MultiProxy.InterleavedTasks

set_option autoImplicit false

/-! ## Every trial is marked -/

/-- A task with a trial behind it goes on to mark it, or to an exchange over what
the trial has connected. -/
def settlesTrials : Discipline Call Reply (Option Trial) where
  permits trial request :=
    ∀ unmarked, trial = some unmarked →
      request = .mark unmarked.id unmarked.succeeded ∨
        ∃ upstream host isHttps bytes, request = .forward upstream host isHttps bytes
  expects _ _ _ := True
  after := trialAfter

theorem settled_permits (request : Call) : settlesTrials.permits none request := by
  intro trial none
  cases none

def settlingRule : RequestRule settlesTrials where
  outside trial := trial = none
  inside _ trial := trial = none
  ready _ _ trial := trial = none
  tried channel _ healthy trial := trial = some ⟨channel.id, channel.dsn, healthy⟩
  reads_clock := by
    rintro _ rfl
    exact ⟨settled_permits _, fun _ => rfl⟩
  takes_snapshot := by
    rintro _ rfl
    exact ⟨settled_permits _, fun _ _ => ⟨rfl, fun _ _ => rfl⟩⟩
  connects_directly := by
    rintro _ host port rfl
    exact ⟨settled_permits _, fun _ => rfl⟩
  exchanges_directly := by
    rintro _ upstream host isHttps bytes rfl
    exact ⟨settled_permits _, fun _ => rfl⟩
  checks := by
    rintro channel rest _ rfl
    exact ⟨settled_permits _, fun _ => ⟨rfl, fun _ => rfl⟩⟩
  connects := by
    rintro channel rest _ host port rfl
    exact ⟨settled_permits _, fun _ => rfl⟩
  exchanges := by
    rintro channel rest _ upstream host isHttps bytes rfl
    exact ⟨fun _ _ => Or.inr ⟨upstream, host, isHttps, bytes, rfl⟩, fun _ => rfl⟩
  marks := by
    rintro channel rest healthy _ rfl
    refine ⟨?_, rfl, rfl⟩
    intro trial same
    cases same
    exact Or.inl rfl
  leaves _ settled := settled

/-- Whatever the task is at, it leaves no trial unmarked. -/
def Settles (trial : Option Trial) (program : Proxy Unit) : Prop :=
  Ensures settlesTrials (fun trial _ => trial = none) trial program

theorem join_probes_settle (count : Nat) (set : List (Nat × Dsn)) :
    Settles none (joinProbes count set) := by
  induction count generalizing set with
  | zero => rfl
  | succ count ih =>
      rw [joinProbes, join_next_bind]
      refine ⟨settled_permits _, ?_⟩
      intro joined _
      cases joined with
      | none => rfl
      | some joined =>
          obtain ⟨position, result⟩ := joined
          simp only
          cases found : set[position]? with
          | none =>
              have untried : trialAfter none (.joinNext set) (some (position, result)) = none := by
                cases result with
                | none => rfl
                | some healthy => rw [trialAfter, found, Option.map_none]
              change Ensures _ _ (trialAfter none (.joinNext set) (some (position, result))) _
              rw [untried]
              cases result <;> exact ih _
          | some probe =>
              obtain ⟨id, dsn⟩ := probe
              cases result with
              | none => exact ih _
              | some healthy =>
                  have tried : trialAfter none (.joinNext set) (some (position, some healthy)) =
                      some ⟨id, dsn, healthy⟩ := by
                    rw [trialAfter, found, Option.map_some]
                  change Ensures _ _ (trialAfter none (.joinNext set)
                    (some (position, some healthy))) _
                  rw [tried]
                  have permitted : settlesTrials.permits (some ⟨id, dsn, healthy⟩)
                      (.mark id healthy) := by
                    intro trial same
                    cases same
                    exact Or.inl rfl
                  cases healthy with
                  | true => exact ⟨permitted, fun _ _ => ih _⟩
                  | false => exact ⟨permitted, fun _ _ => ih _⟩

theorem start_settles (service : Service) (kind : Kind) :
    Settles (start service kind).1 (start service kind).2 := by
  cases kind with
  | check => exact ⟨settled_permits _, fun channels _ => join_probes_settle _ _⟩
  | request request =>
      apply ensures_bind
      have kept : Keeps settlingRule none (handleRequest service request) :=
        handle_request_keeps service request rfl
      exact ensures_mono (fun _ _ ended => ended) kept

/-! ## Where a task stands with a channel -/

inductive Stage where
  | idle
  | underWay
  | failed
  | succeeded
  deriving DecidableEq

/-- An attempt is under way from its connection to the reply it waits for, and then
failed or succeeded until it is marked. -/
def stageAt (id : Nat) (trial : Option Trial) : Call → Stage
  | .establish (.upstream attempted _) _ _ => if attempted = id then .underWay else .idle
  | .forward _ _ _ _ => if trial.map Trial.id = some id then .underWay else .idle
  | .mark marked healthy =>
      if marked = id then if healthy then .succeeded else .failed else .idle
  | _ => .idle

def stageOf (id : Nat) (task : Option Trial × Proxy Unit) : Stage :=
  match task.2 with
  | .done _ => .idle
  | .call request _ => stageAt id task.1 request

def underWay (id : Nat) (machine : Machine Shared Call Reply (Option Trial) Unit) : Nat :=
  machine.tasks.countP fun task => stageOf id task = .underWay

/-- The step begins no attempt on the channel, gives none up and lets none succeed,
and no probe of the channel ends with it. -/
def AttemptsFail (service : Service) (id : Nat)
    (machine : Machine Shared Call Reply (Option Trial) Unit) : Label Kind Choice → Prop
  | .advance index choice =>
      ∀ next before after, (proxySystem service).step machine (.advance index choice) = some next →
        machine.tasks[index]? = some before → next.tasks[index]? = some after →
          stageOf id after ≠ .succeeded ∧ (stageOf id before ≠ .underWay → stageOf id after = .idle)
  | .drop index => ∀ task, machine.tasks[index]? = some task → stageOf id task = .idle
  | _ => True

theorem under_way_continues {id : Nat} {trial : Option Trial} {request : Call}
    {next : Reply request → Proxy Unit} (settles : Settles trial (.call request next))
    (underWay : stageAt id trial request = .underWay) (reply : Reply request) :
    stageOf id (trialAfter trial request reply, next reply) ≠ .idle := by
  have later : Settles (trialAfter trial request reply) (next reply) := settles.2 reply trivial
  have tried : ∃ dsn succeeded, trialAfter trial request reply = some ⟨id, dsn, succeeded⟩ := by
    cases request with
    | establish route host port =>
        cases route with
        | direct => cases underWay
        | upstream attempted dsn =>
            simp only [stageAt] at underWay
            split at underWay
            · rename_i same
              subst same
              exact ⟨dsn, _, rfl⟩
            · cases underWay
    | forward upstream host isHttps bytes =>
        simp only [stageAt] at underWay
        split at underWay
        · rename_i same
          obtain ⟨known, rfl, rfl⟩ := Option.map_eq_some_iff.mp same
          exact ⟨known.dsn, _, rfl⟩
        · cases underWay
    | mark marked healthy =>
        simp only [stageAt] at underWay
        split at underWay
        · split at underWay <;> cases underWay
        · cases underWay
    | channels => cases underWay
    | now => cases underWay
    | joinNext set => cases underWay
  obtain ⟨dsn, succeeded, same⟩ := tried
  rw [same] at later ⊢
  cases program : next reply with
  | done value =>
      rw [program] at later
      cases later
  | call following rest =>
      rw [program] at later
      obtain rfl | ⟨upstream, host, isHttps, bytes, rfl⟩ := later.1 _ rfl
      · cases succeeded <;> simp [stageOf, stageAt]
      · simp [stageOf, stageAt]

/-! ## What a step makes of the count -/

/-- The reports that the call of a task at this stage adds to the channel's. -/
def Stage.reports : Stage → List Bool
  | .failed => [false]
  | .succeeded => [true]
  | _ => []

def unmarked (id : Nat) (tasks : List (Option Trial × Proxy Unit)) : Nat :=
  tasks.countP fun task => stageOf id task ≠ .idle

theorem answered_marks {shared after : Shared} {trial : Option Trial} {request : Call}
    {choice : Choice} {reply : Reply request} (id : Nat)
    (answered : answer shared trial request choice = some (reply, after)) :
    ∃ reports, marksOf after.history id = marksOf shared.history id ++ reports ∧
      reports.map Report.healthy = (stageAt id trial request).reports := by
  cases request with
  | mark marked healthy =>
      cases choice <;> cases answered
      rename_i now
      by_cases same : marked = id
      · refine ⟨[⟨healthy, now⟩], ?_, ?_⟩
        · simp [marksOf, same, Mark.report]
        · cases healthy <;> simp [stageAt, same, Stage.reports]
      · refine ⟨[], ?_, ?_⟩
        · simp [marksOf, same]
        · simp [stageAt, same, Stage.reports]
  | channels =>
      cases answered
      exact ⟨[], by simp, rfl⟩
  | now =>
      cases choice <;> cases answered
      exact ⟨[], by simp, rfl⟩
  | establish route host port =>
      cases choice <;> cases answered
      refine ⟨[], by simp, ?_⟩
      cases route with
      | direct => rfl
      | upstream attempted dsn =>
          simp only [stageAt]
          split <;> rfl
  | forward upstream host isHttps bytes =>
      cases choice <;> cases answered
      refine ⟨[], by simp, ?_⟩
      simp only [stageAt]
      split <;> rfl
  | joinNext set =>
      have unchanged : after = shared := by
        cases set with
        | nil =>
            cases answered
            rfl
        | cons probe rest =>
            cases choice <;>
              simp only [answer, reduceCtorEq, Option.ite_none_right_eq_some] at answered
            cases answered.2
            rfl
      exact ⟨[], by simp [unchanged], rfl⟩

theorem split_at_index {Item : Type} {items : List Item} {index : Nat} {item : Item}
    (found : items[index]? = some item) :
    items = items.take index ++ item :: items.drop (index + 1) := by
  obtain ⟨within, rfl⟩ := List.getElem?_eq_some_iff.mp found
  rw [← List.drop_eq_getElem_cons within, List.take_append_drop]

theorem unmarked_set (id : Nat) {index : Nat} {tasks : List (Option Trial × Proxy Unit)}
    {before : Option Trial × Proxy Unit} (after : Option Trial × Proxy Unit)
    (found : tasks[index]? = some before) :
    unmarked id (tasks.set index after) + unmarked id [before] =
      unmarked id tasks + unmarked id [after] := by
  have within := (List.getElem?_eq_some_iff.mp found).1
  have whole := congrArg (unmarked id) (split_at_index found)
  rw [List.set_eq_take_append_cons_drop, if_pos within]
  simp only [unmarked, List.countP_append, List.countP_cons, List.countP_nil] at whole ⊢
  omega

theorem start_is_idle (service : Service) (id : Nat) (kind : Kind) :
    stageOf id (start service kind) = .idle := by
  cases kind with
  | check => rfl
  | request request =>
      have quietly : ∀ program : Proxy (Except String Answer), EveryCall Quiet program →
          stageOf id (none, program >>= fun _ => pure ()) = .idle := by
        intro program quiet
        cases program with
        | done value => rfl
        | call first next =>
            cases first with
            | establish route host port => cases quiet.1
            | forward upstream host isHttps bytes => cases quiet.1
            | mark marked healthy => cases quiet.1
            | _ => rfl
      dsimp only [start]
      obtain quiet | ⟨host, port, answer, tunnel⟩ | ⟨target, bytes, answer, forward⟩ :=
        handle_request_cases service request
      · exact quietly _ quiet
      · rw [tunnel, acquireTunnel]
        cases service.directFirst <;> rfl
      · rw [forward, forwardAttempts]
        cases service.directFirst <;> rfl

/-- The attempts still to be marked and the reports of the channel, between a state
and a later one that no attempt has succeeded in. -/
structure Conserved (id : Nat) (start finish : Machine Shared Call Reply (Option Trial) Unit) :
    Prop where
  settled : ∀ task ∈ finish.tasks, Settles task.1 task.2
  unsuccessful : ∀ task ∈ finish.tasks, stageOf id task ≠ .succeeded
  counted : ∃ reports, marksOf finish.shared.history id =
      marksOf start.shared.history id ++ reports ∧ (∀ report ∈ reports, report.healthy = false) ∧
        reports.length + unmarked id finish.tasks = unmarked id start.tasks

theorem conserved_refl {id : Nat} {start : Machine Shared Call Reply (Option Trial) Unit}
    (settled : ∀ task ∈ start.tasks, Settles task.1 task.2)
    (unsuccessful : ∀ task ∈ start.tasks, stageOf id task ≠ .succeeded) :
    Conserved id start start where
  settled := settled
  unsuccessful := unsuccessful
  counted := ⟨[], by simp, List.forall_mem_nil _, by simp⟩

/-- What the answer to one call takes from the attempts it adds to the reports. -/
theorem answered_conserves {id : Nat} {trial : Option Trial} {request : Call}
    {next : Reply request → Proxy Unit} {reply : Reply request}
    (settles : Settles trial (.call request next))
    (unsuccessful : stageAt id trial request ≠ .succeeded)
    (fails : stageAt id trial request ≠ .underWay →
      stageOf id (trialAfter trial request reply, next reply) = .idle) :
    (∀ healthy ∈ (stageAt id trial request).reports, healthy = false) ∧
      (stageAt id trial request).reports.length +
          unmarked id [(trialAfter trial request reply, next reply)] =
        unmarked id [(trial, .call request next)] := by
  have before : stageOf id (trial, .call request next) = stageAt id trial request := rfl
  cases stage : stageAt id trial request with
  | idle =>
      have after := fails (by rw [stage]; decide)
      simp [Stage.reports, unmarked, before, stage, after]
  | underWay =>
      have after := under_way_continues settles stage reply
      simp [Stage.reports, unmarked, before, stage, after]
  | failed =>
      have after := fails (by rw [stage]; decide)
      simp [Stage.reports, unmarked, before, stage, after]
  | succeeded => exact absurd stage unsuccessful

theorem unmarked_erase {id index : Nat} {tasks : List (Option Trial × Proxy Unit)}
    (idle : ∀ task, tasks[index]? = some task → stageOf id task = .idle) :
    unmarked id (tasks.eraseIdx index) = unmarked id tasks := by
  cases found : tasks[index]? with
  | none => rw [List.eraseIdx_of_length_le (List.getElem?_eq_none_iff.mp found)]
  | some task =>
      have whole := congrArg (unmarked id) (split_at_index found)
      rw [whole, List.eraseIdx_eq_take_drop_succ]
      simp [unmarked, idle task found]

theorem step_settles {service : Service} {label : Label Kind Choice}
    {machine next : Machine Shared Call Reply (Option Trial) Unit}
    (settled : ∀ task ∈ machine.tasks, Settles task.1 task.2)
    (taken : (proxySystem service).step machine label = some next) :
    ∀ task ∈ next.tasks, Settles task.1 task.2 := by
  have kept := System.step_keeps (fun kind => start_settles service kind)
    (fun _ trial request next choice reply after _ settles _ => ⟨settles.2 reply trivial, trivial⟩)
    (fun _ _ _ _ idled => by cases idled) machine next label ⟨trivial, settled⟩ taken
  exact kept.2

theorem step_conserves {service : Service} {id : Nat} {label : Label Kind Choice}
    {start machine next : Machine Shared Call Reply (Option Trial) Unit}
    (conserved : Conserved id start machine) (fail : AttemptsFail service id machine label)
    (taken : (proxySystem service).step machine label = some next) : Conserved id start next := by
  have settled := step_settles conserved.settled taken
  obtain ⟨reports, same, unhealthy, count⟩ := conserved.counted
  cases label with
  | spawn kind =>
      cases taken
      have idle : stageOf id ((proxySystem service).start kind) = .idle :=
        start_is_idle service id kind
      refine ⟨settled, ?_, reports, same, unhealthy, ?_⟩
      · intro task member
        rcases List.mem_append.mp member with earlier | last
        · exact conserved.unsuccessful task earlier
        · rw [List.mem_singleton.mp last, idle]
          decide
      · simpa [unmarked, idle] using count
  | advance index choice =>
      have step := taken
      obtain ⟨trial, request, rest, reply, left, found, answered, rfl⟩ :=
        System.advance_taken taken
      have within := (List.getElem?_eq_some_iff.mp found).1
      obtain ⟨notSucceeded, fails⟩ := fail _ _ _ step found (List.getElem?_set_self within)
      have member := List.mem_of_getElem? found
      have settles : Settles trial (.call request rest) := conserved.settled _ member
      obtain ⟨added, sameMarks, kinds⟩ := answered_marks id answered
      obtain ⟨allUnhealthy, length⟩ :=
        answered_conserves settles (conserved.unsuccessful _ member) fails
      rw [← kinds, List.length_map] at length
      refine ⟨settled, ?_, reports ++ added, ?_, ?_, ?_⟩
      · intro task inTasks
        rcases List.mem_or_eq_of_mem_set inTasks with earlier | advancedTask
        · exact conserved.unsuccessful task earlier
        · rw [advancedTask]
          exact notSucceeded
      · rw [sameMarks, same, List.append_assoc]
      · intro report inReports
        rcases List.mem_append.mp inReports with earlier | last
        · exact unhealthy report earlier
        · apply allUnhealthy
          rw [← kinds]
          exact List.mem_map_of_mem last
      · have moved := unmarked_set id (trialAfter trial request reply, rest reply) found
        have renoted : (proxySystem service).note trial request reply =
          trialAfter trial request reply := rfl
        simp only [renoted, List.length_append]
        omega
  | drop index =>
      cases taken
      refine ⟨settled, ?_, reports, same, unhealthy, ?_⟩
      · intro task member
        exact conserved.unsuccessful task ((List.eraseIdx_sublist _ index).subset member)
      · rw [unmarked_erase fail]
        exact count
  | idle choice => cases taken

theorem run_conserves {service : Service} {id : Nat} {labels : List (Label Kind Choice)}
    {start finish : Machine Shared Call Reply (Option Trial) Unit}
    (conserved : Conserved id start start)
    (fail : EveryStep (proxySystem service).step (AttemptsFail service id) start labels)
    (ran : runFrom (proxySystem service).step start labels = some finish) :
    Conserved id start finish := by
  apply run_preserves_when _ conserved fail ran
  intro machine label next conserved fails taken
  exact step_conserves conserved fails taken

theorem run_settles {service : Service} {dsns : List Dsn} {labels : List (Label Kind Choice)}
    {finish : Machine Shared Call Reply (Option Trial) Unit}
    (ran : runFrom (proxySystem service).step { shared := .initial dsns, tasks := [] } labels =
      some finish) : ∀ task ∈ finish.tasks, Settles task.1 task.2 := by
  have preserved : ∀ (machine : Machine Shared Call Reply (Option Trial) Unit) label next,
      (∀ task ∈ machine.tasks, Settles task.1 task.2) →
        (proxySystem service).step machine label = some next →
          ∀ task ∈ next.tasks, Settles task.1 task.2 := by
    intro machine label next settled taken
    exact step_settles settled taken
  exact run_preserves preserved (List.forall_mem_nil _) ran

/-! ## A burst of failures -/

/-- Attempts on one channel that are under way at the same time and all fail each
move the counter by one, whatever the order of their steps. -/
theorem failed_attempts_each_count (service : Service) (dsns : List Dsn)
    (setup labels : List (Label Kind Choice))
    (start finish : Machine Shared Call Reply (Option Trial) Unit) (id : Nat) (channel : Channel)
    (reached : runFrom (proxySystem service).step { shared := .initial dsns, tasks := [] } setup =
      some start)
    (known : start.shared.channels[id]? = some channel)
    (begun : ∀ task ∈ start.tasks, stageOf id task = .idle ∨ stageOf id task = .underWay)
    (ran : runFrom (proxySystem service).step start labels = some finish)
    (fail : EveryStep (proxySystem service).step (AttemptsFail service id) start labels)
    (ended : ∀ task ∈ finish.tasks, stageOf id task = .idle) :
    ∃ after, finish.shared.channels[id]? = some after ∧
      after.failureCount.toNat = min (channel.failureCount.toNat + underWay id start) u32Max ∧
        after.backoff = min (3 ^ (channel.failureCount.toNat + underWay id start)) 300 := by
  have unsuccessful : ∀ task ∈ start.tasks, stageOf id task ≠ .succeeded := by
    intro task member
    obtain idle | attempting := begun task member
    · rw [idle]
      decide
    · rw [attempting]
      decide
  have conserved := run_conserves (conserved_refl (run_settles reached) unsuccessful) fail ran
  obtain ⟨reports, same, unhealthy, count⟩ := conserved.counted
  have none_left : unmarked id finish.tasks = 0 := by
    rw [unmarked, List.countP_eq_zero]
    intro task member
    simp [ended task member]
  have all_under_way : unmarked id start.tasks = underWay id start := by
    apply List.countP_congr
    intro task member
    obtain idle | attempting := begun task member
    · simp [idle]
    · simp [attempting]
  have before := (tasks_orderly reached).invariant.replayed id
  have later := (tasks_orderly (run_append reached ran)).invariant.replayed id
  rw [known] at before
  obtain ⟨dsn, here, replayed⟩ := Option.map_eq_some_iff.mp before.symm
  rw [here, Option.map_some, same, replay_append, replayed] at later
  have counted := (replay_failures channel reports unhealthy).1
  rw [none_left, Nat.add_zero, all_under_way] at count
  rw [count] at counted
  refine ⟨replay channel reports, later, counted, ?_⟩
  rw [backoff_value, counted]
  exact saturated_power _

/-! ## Two requests at once -/

def channelsOnly : Service := { PathDestination.exampleService with directFirst := false }

def tunnelRequest : ClientRequest where
  method := "CONNECT"
  uri := { authority := some "example.com:443", path := "", query := none }
  headers := []
  body := .ok []
  method_unbroken := by decide
  headers_well_formed := no_headers_well_formed

/-- Both requests take their snapshot and begin to connect over the one channel. -/
def bothBegin : List (Label Kind Choice) :=
  [.spawn (.request tunnelRequest), .spawn (.request tunnelRequest), .advance 0 .any,
    .advance 1 .any, .advance 0 (.time 0), .advance 1 (.time 0)]

def bothFail : List (Label Kind Choice) :=
  [.advance 0 (.connected (.error "refused")), .advance 1 (.connected (.error "refused")),
    .advance 0 (.time 0), .advance 1 (.time 0)]

theorem advance_fails {service : Service} {id index : Nat} {choice : Choice}
    {machine next : Machine Shared Call Reply (Option Trial) Unit}
    {before after : Option Trial × Proxy Unit}
    (taken : (proxySystem service).step machine (.advance index choice) = some next)
    (found : machine.tasks[index]? = some before) (foundAfter : next.tasks[index]? = some after)
    (fails : stageOf id after ≠ .succeeded ∧
      (stageOf id before ≠ .underWay → stageOf id after = .idle)) :
    AttemptsFail service id machine (.advance index choice) := by
  intro other otherBefore otherAfter takenOther sameBefore sameAfter
  cases taken.symm.trans takenOther
  cases found.symm.trans sameBefore
  cases foundAfter.symm.trans sameAfter
  exact fails

/-- The tasks of a concrete state, looked through one by one. -/
theorem every_stage {id : Nat} {stage : Stage} {tasks : List (Option Trial × Proxy Unit)}
    (every : tasks.all (fun task => stageOf id task = stage) = true) :
    ∀ task ∈ tasks, stageOf id task = stage := by
  intro task member
  exact of_decide_eq_true (List.all_eq_true.mp every task member)

theorem both_fail_only : ∃ start finish,
    runFrom (proxySystem channelsOnly).step { shared := .initial [sshDsn], tasks := [] } bothBegin =
        some start ∧
      start.shared.channels[0]? = some (Channel.new 0 sshDsn) ∧
      (∀ task ∈ start.tasks, stageOf 0 task = .underWay) ∧ underWay 0 start = 2 ∧
      runFrom (proxySystem channelsOnly).step start bothFail = some finish ∧
      EveryStep (proxySystem channelsOnly).step (AttemptsFail channelsOnly 0) start bothFail ∧
      (∀ task ∈ finish.tasks, stageOf 0 task = .idle) ∧
      finish.shared.channels[0]? =
        some (((Channel.new 0 sshDsn).markUnhealthy 0).markUnhealthy 0) := by
  refine ⟨_, _, rfl, rfl, every_stage rfl, rfl, rfl, ?_, every_stage rfl, rfl⟩
  exact every_step_cons (advance_fails rfl rfl rfl (by decide)) rfl <|
    every_step_cons (advance_fails rfl rfl rfl (by decide)) rfl <|
    every_step_cons (advance_fails rfl rfl rfl (by decide)) rfl <|
    every_step_cons (advance_fails rfl rfl rfl (by decide)) rfl trivial

/-- Two attempts that begin while the channel has no failures and both fail take its
counter to 2 and its backoff to 9 seconds. -/
theorem two_failures_skip_a_level : ∃ start finish channel after,
    runFrom (proxySystem channelsOnly).step { shared := .initial [sshDsn], tasks := [] } bothBegin =
        some start ∧
      start.shared.channels[0]? = some channel ∧ channel.shouldRetry 0 = true ∧
      (∀ task ∈ start.tasks, stageOf 0 task = .underWay) ∧
      runFrom (proxySystem channelsOnly).step start bothFail = some finish ∧
      EveryStep (proxySystem channelsOnly).step (AttemptsFail channelsOnly 0) start bothFail ∧
      (∀ task ∈ finish.tasks, stageOf 0 task = .idle) ∧
      finish.shared.channels[0]? = some after ∧
      after.failureCount.toNat ≠ channel.failureCount.toNat + 1 ∧
        after.backoff ≠ min (3 ^ (channel.failureCount.toNat + 1)) 300 := by
  obtain ⟨start, finish, reached, known, begun, _, ran, fail, ended, later⟩ := both_fail_only
  exact ⟨start, finish, _, _, reached, known, rfl, begun, ran, fail, ended, later, by decide,
    by decide⟩

theorem two_failures_each_count : ∃ start finish,
    runFrom (proxySystem channelsOnly).step start bothFail = some finish ∧ underWay 0 start = 2 ∧
      ∃ after, finish.shared.channels[0]? = some after ∧
        after.failureCount.toNat = min (0 + underWay 0 start) u32Max ∧
          after.backoff = min (3 ^ (0 + underWay 0 start)) 300 := by
  obtain ⟨start, finish, reached, known, begun, two, ran, fail, ended, _⟩ := both_fail_only
  refine ⟨start, finish, ran, two, ?_⟩
  exact failed_attempts_each_count channelsOnly [sshDsn] bothBegin bothFail start finish 0
    (Channel.new 0 sshDsn) reached known (fun task member => Or.inr (begun task member)) ran fail
    ended

end MultiProxy.FailureBursts
