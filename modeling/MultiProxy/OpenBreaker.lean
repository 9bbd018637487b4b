import MultiProxy.FailureBursts
import MultiProxy.WatchedTasks

/-!
# What the breaker says when an attempt starts

A request asks the breaker of its own snapshot. The shared channel says the same
at that moment unless it was marked unhealthy in between, and not by the request
itself.
-/

namespace MultiProxy.OpenBreaker

open MultiProxy.RustRuntime MultiProxy.DuplexStream MultiProxy.UpstreamDsn MultiProxy.TransitionRuns
open MultiProxy.InteractionPrograms MultiProxy.InteractionPrograms.Program
open MultiProxy.WatchedTasks MultiProxy.ChannelHealth MultiProxy.ChannelHistory
open MultiProxy.PathRequest MultiProxy.ProxyRequests MultiProxy.ChannelLoops
open MultiProxy.RequestRules MultiProxy.InterleavedTasks

set_option autoImplicit false

/-! ## What a request goes by -/

/-- The task's last snapshot, the clock when it was read just before, and the
channels the task has marked since the snapshot. -/
structure Basis where
  snapshot : List Channel
  clock : Option Instant
  own : List Nat

def basisAfter (basis : Basis) : (request : Call) → Reply request → Basis
  | .channels, all => { snapshot := all, clock := none, own := [] }
  | .now, now => { basis with clock := some now }
  | .mark id _, _ => { basis with clock := none, own := id :: basis.own }
  | _, _ => { basis with clock := none }

/-- Only a channel of the snapshot is attempted, when its breaker there lets it at
the time that was just read, and only once. -/
structure Allowed (basis : Basis) (id : Nat) (dsn : Dsn) : Prop where
  lets : ∃ channel ∈ basis.snapshot, channel.id = id ∧ channel.dsn = dsn ∧
    ∃ now, basis.clock = some now ∧ channel.shouldRetry now = true
  first : id ∉ basis.own

def asksSnapshot : Discipline Call Reply Basis where
  permits basis request :=
    match request with
    | .establish (.upstream id dsn) _ _ => Allowed basis id dsn
    | _ => True
  expects _ request reply :=
    match request, reply with
    | .channels, all => (all.map Channel.id).Nodup
    | _, _ => True
  after := basisAfter

/-- The channels that are left are of the snapshot, distinct and not yet marked. -/
structure Left (rest : List Channel) (basis : Basis) : Prop where
  listed : ∀ channel ∈ rest, channel ∈ basis.snapshot
  unmarked : ∀ channel ∈ rest, channel.id ∉ basis.own
  distinct : (rest.map Channel.id).Nodup

theorem left_rest {channel : Channel} {rest : List Channel} {basis : Basis}
    (left : Left (channel :: rest) basis) : Left rest basis where
  listed other member := left.listed other (List.mem_cons_of_mem channel member)
  unmarked other member := left.unmarked other (List.mem_cons_of_mem channel member)
  distinct := (List.nodup_cons.mp left.distinct).2

theorem left_after_mark {channel : Channel} {rest : List Channel} {basis : Basis}
    (left : Left (channel :: rest) basis) (healthy : Bool) :
    Left rest (basisAfter basis (.mark channel.id healthy) ()) where
  listed := (left_rest left).listed
  unmarked := by
    intro other member marked
    rcases List.mem_cons.mp marked with same | earlier
    · apply (List.nodup_cons.mp left.distinct).1
      rw [← same]
      exact List.mem_map_of_mem member
    · exact (left_rest left).unmarked other member earlier
  distinct := (left_rest left).distinct

theorem left_of_clock {rest : List Channel} {basis : Basis} (clock : Option Instant)
    (left : Left rest basis) : Left rest { basis with clock := clock } :=
  ⟨left.listed, left.unmarked, left.distinct⟩

def snapshotRule : RequestRule asksSnapshot where
  outside _ := True
  inside rest basis := Left rest basis
  ready channel rest basis := Left (channel :: rest) basis ∧
    ∃ now, basis.clock = some now ∧ channel.shouldRetry now = true
  tried channel rest _ basis := Left (channel :: rest) basis
  reads_clock _ _ := ⟨trivial, fun _ => trivial⟩
  takes_snapshot := by
    intro basis _
    refine ⟨trivial, ?_⟩
    intro all distinct
    refine ⟨trivial, ?_⟩
    intro ordered permuted
    exact {
      listed := fun channel member => permuted.mem_iff.mp member
      unmarked := fun channel _ => List.not_mem_nil
      distinct := (permuted.map Channel.id).nodup_iff.mpr distinct }
  connects_directly _ _ _ _ := ⟨trivial, fun _ => trivial⟩
  exchanges_directly _ _ _ _ _ _ := ⟨trivial, fun _ => trivial⟩
  checks := by
    intro channel rest basis left
    refine ⟨trivial, ?_⟩
    intro now
    have same : Left (channel :: rest) (basisAfter basis .now now) := left_of_clock (some now) left
    exact ⟨left_rest same, fun retry => ⟨same, now, rfl, retry⟩⟩
  connects := by
    rintro channel rest basis host port ⟨left, now, read, retry⟩
    constructor
    · exact ⟨⟨channel, left.listed channel List.mem_cons_self, rfl, rfl, now, read, retry⟩,
        left.unmarked channel List.mem_cons_self⟩
    · intro reply
      exact left_of_clock none left
  exchanges := by
    intro channel rest basis upstream host isHttps bytes left
    refine ⟨trivial, ?_⟩
    intro reply
    exact left_of_clock none left
  marks := by
    intro channel rest healthy basis left
    exact ⟨trivial, trivial, left_after_mark left healthy⟩
  leaves _ _ := trivial

theorem untried_follows {Value : Type} {program : Proxy Value}
    (unconnected : EveryCall
      (fun request => ∀ route host port, request ≠ .establish route host port) program)
    (basis : Basis) : Follows asksSnapshot basis program := by
  apply follows_of_every_call _ unconnected
  intro basis request other
  cases request with
  | establish route host port => exact absurd rfl (other route host port)
  | _ => trivial

theorem join_probes_unconnected (count : Nat) (set : List (Nat × Dsn)) :
    EveryCall (fun request => ∀ route host port, request ≠ .establish route host port)
      (joinProbes count set) := by
  induction count generalizing set with
  | zero => trivial
  | succ count ih =>
      rw [joinProbes, join_next_bind]
      refine ⟨by simp, ?_⟩
      intro joined
      cases joined with
      | none => trivial
      | some joined =>
          obtain ⟨position, result⟩ := joined
          simp only
          cases set[position]? with
          | none => cases result <;> exact ih _
          | some probe =>
              cases result with
              | none => exact ih _
              | some healthy => cases healthy <;> exact ⟨by simp, fun _ => ih _⟩

theorem start_asks_snapshot (service : Service) (kind : Kind) (basis : Basis) :
    Follows asksSnapshot basis (start service kind).2 := by
  cases kind with
  | check =>
      apply untried_follows
      exact ⟨by simp, fun channels => join_probes_unconnected _ _⟩
  | request request =>
      apply follows_bind
      · have kept : Keeps snapshotRule basis (handleRequest service request) :=
          handle_request_keeps service request trivial
        exact follows_of_ensures kept
      · intro basis value
        trivial

/-! ## What is seen of a task -/

/-- How many marks had been made when the task took its last snapshot. -/
structure Sight where
  marked : Nat
  basis : Basis

def breakerWatcher : Watcher Shared Call Reply Sight where
  fresh := { marked := 0, basis := { snapshot := [], clock := none, own := [] } }
  look sight before request reply _ :=
    { marked :=
        match request with
        | .channels => before.history.length
        | _ => sight.marked
      basis := basisAfter sight.basis request reply }

/-- The snapshot is the list as the first marks of the history have made it. -/
structure Taken (dsns : List Dsn) (history : List Mark) (sight : Sight) : Prop where
  within : sight.marked ≤ history.length
  replayed : ∀ channel ∈ sight.basis.snapshot, dsns[channel.id]? = some channel.dsn ∧
    channel = replay (Channel.new channel.id channel.dsn)
      (marksOf (history.take sight.marked) channel.id)

structure Faithful (dsns : List Dsn) (shared : Shared) (sight : Sight) (trial : Option Trial)
    (program : Proxy Unit) : Prop where
  marks : Follows (marksTrials dsns) trial program
  asks : Follows asksSnapshot sight.basis program
  taken : Taken dsns shared.history sight

def Grows (before after : Shared) : Prop := before.history <+: after.history

theorem taken_grows {dsns : List Dsn} {history later : List Mark} {sight : Sight}
    (grows : history <+: later) (taken : Taken dsns history sight) : Taken dsns later sight := by
  obtain ⟨more, rfl⟩ := grows
  constructor
  · rw [List.length_append]
    exact Nat.le_add_right_of_le taken.within
  · rw [List.take_append_of_le_length taken.within]
    exact taken.replayed

theorem answer_grows {shared after : Shared} {trial : Option Trial} {request : Call}
    {choice : Choice} {reply : Reply request}
    (answered : answer shared trial request choice = some (reply, after)) : Grows shared after := by
  cases request with
  | channels =>
      cases answered
      exact List.prefix_refl _
  | now =>
      cases choice <;> cases answered
      exact List.prefix_refl _
  | establish route host port =>
      cases choice <;> cases answered
      exact List.prefix_refl _
  | forward upstream host isHttps bytes =>
      cases choice <;> cases answered
      exact List.prefix_refl _
  | mark id healthy =>
      cases choice <;> cases answered
      exact List.prefix_append _ _
  | joinNext set =>
      cases set with
      | nil =>
          cases answered
          exact List.prefix_refl _
      | cons probe rest =>
          cases choice <;>
            simp only [answer, reduceCtorEq, Option.ite_none_right_eq_some] at answered
          cases answered.2
          exact List.prefix_refl _

theorem snapshot_taken {dsns : List Dsn} {shared : Shared} (recorded : Recorded dsns shared)
    (basis : Basis) (snapshot : basis.snapshot = shared.channels) :
    Taken dsns shared.history { marked := shared.history.length, basis := basis } := by
  refine ⟨le_rfl, ?_⟩
  intro channel member
  dsimp only at member
  rw [snapshot] at member
  obtain ⟨here, listed⟩ := in_place_member (recorded_in_place recorded) member
  refine ⟨listed, ?_⟩
  have replayed := recorded.replayed channel.id
  rw [here, listed, Option.map_some] at replayed
  rw [List.take_length]
  exact Option.some.inj replayed

theorem answer_faithful {dsns : List Dsn} (shared : Shared) (sight : Sight)
    (trial : Option Trial) (request : Call) (next : Reply request → Proxy Unit) (choice : Choice)
    (reply : Reply request) (after : Shared) (recorded : Recorded dsns shared)
    (faithful : Faithful dsns shared sight trial (.call request next))
    (answered : answer shared trial request choice = some (reply, after)) :
    Recorded dsns after ∧ Grows shared after ∧
      Faithful dsns after (breakerWatcher.look sight shared request reply after)
        (trialAfter trial request reply) (next reply) := by
  obtain ⟨expected, kept⟩ := answer_recorded shared trial request choice reply after recorded
    faithful.marks.1 answered
  have grows := answer_grows answered
  have later := taken_grows grows faithful.taken
  refine ⟨kept, grows, faithful.marks.2 reply expected, ?_, ?_⟩
  · apply faithful.asks.2 reply
    cases request with
    | channels =>
        cases answered
        change (shared.channels.map Channel.id).Nodup
        rw [in_place_ids (recorded_in_place recorded)]
        exact List.nodup_range
    | _ => trivial
  · cases request with
    | channels =>
        cases answered
        exact snapshot_taken recorded _ rfl
    | now => exact ⟨later.within, later.replayed⟩
    | establish route host port => exact ⟨later.within, later.replayed⟩
    | forward upstream host isHttps bytes => exact ⟨later.within, later.replayed⟩
    | mark id healthy => exact ⟨later.within, later.replayed⟩
    | joinNext set => exact ⟨later.within, later.replayed⟩

theorem run_faithful {service : Service} {dsns : List Dsn} {labels : List (Label Kind Choice)}
    {finish : Watched Shared Call Reply (Option Trial) Unit Sight}
    (ran : runFrom (watchedStep (proxySystem service) breakerWatcher)
      { machine := { shared := .initial dsns, tasks := [] }, sights := [] } labels = some finish) :
    Overseen (Faithful dsns) (Recorded dsns) finish := by
  have starts : ∀ shared kind, Recorded dsns shared → Faithful dsns shared breakerWatcher.fresh
      (start service kind).1 (start service kind).2 := by
    intro shared kind _
    exact ⟨start_follows service kind, start_asks_snapshot service kind _, Nat.zero_le _,
      List.forall_mem_nil _⟩
  have stable : ∀ shared after sight trial program, Grows shared after →
      Faithful dsns shared sight trial program → Faithful dsns after sight trial program := by
    intro shared after sight trial program grows faithful
    exact ⟨faithful.marks, faithful.asks, taken_grows grows faithful.taken⟩
  have idled : ∀ shared choice after, Recorded dsns shared →
      (proxySystem service).idle shared choice = some after →
        Recorded dsns after ∧ Grows shared after := by
    intro shared choice after _ none
    cases none
  exact watched_run_overseen starts answer_faithful idled stable (initial_recorded dsns) ran

/-! ## The breaker at the start of an attempt -/

theorem healthy_marks_let {channel : Channel} {reports : List Report} {now : Instant}
    (lets : channel.shouldRetry now = true) (healthy : ∀ report ∈ reports, report.healthy = true) :
    (replay channel reports).shouldRetry now = true := by
  obtain rfl | ⟨front, last, rfl⟩ := last_or_none reports
  · exact lets
  · have up := healthy last (by simp)
    rw [replay_snoc, up]
    rfl

theorem marks_of_split (history : List Mark) (count id : Nat) :
    marksOf history id = marksOf (history.take count) id ++ marksOf (history.drop count) id := by
  unfold marksOf
  rw [← List.map_append, ← List.filter_append, List.take_append_drop]

/-- An attempt that the discipline allows meets a closed breaker, or one that was
opened behind the snapshot. -/
theorem allowed_meets_breaker {dsns : List Dsn} {shared : Shared} {sight : Sight} {id : Nat}
    {dsn : Dsn} (recorded : Recorded dsns shared) (taken : Taken dsns shared.history sight)
    (allowed : Allowed sight.basis id dsn) :
    ∃ now channel, sight.basis.clock = some now ∧ shared.channels[id]? = some channel ∧
      (channel.shouldRetry now = true ∨ id ∉ sight.basis.own ∧
        ∃ mark ∈ shared.history.drop sight.marked, mark.id = id ∧ mark.healthy = false) := by
  obtain ⟨⟨channel, member, rfl, rfl, now, read, retry⟩, first⟩ := allowed
  obtain ⟨listed, snapshot⟩ := taken.replayed channel member
  have current := recorded.replayed channel.id
  rw [listed, Option.map_some, marks_of_split _ sight.marked, replay_append,
    ← snapshot] at current
  refine ⟨now, _, read, current, ?_⟩
  by_cases opened : ∃ mark ∈ shared.history.drop sight.marked,
      mark.id = channel.id ∧ mark.healthy = false
  · exact Or.inr ⟨first, opened⟩
  · apply Or.inl
    apply healthy_marks_let retry
    intro report inMarks
    obtain ⟨mark, marked, rfl⟩ := List.mem_map.mp inMarks
    obtain ⟨inHistory, same⟩ := List.mem_filter.mp marked
    rw [← Bool.not_eq_false]
    intro unhealthy
    exact opened ⟨mark, inHistory, of_decide_eq_true same, unhealthy⟩

theorem clock_was_read {basis : Basis} {request : Call} {reply : Reply request} {now : Instant}
    {shared after : Shared} {trial : Option Trial} {choice : Choice}
    (read : (basisAfter basis request reply).clock = some now)
    (answered : answer shared trial request choice = some (reply, after)) :
    choice = .time now := by
  cases request with
  | now =>
      cases choice <;> cases answered
      rw [Option.some.inj read]
  | channels => cases read
  | establish route host port => cases read
  | forward upstream host isHttps bytes => cases read
  | mark id healthy => cases read
  | joinNext set => cases read

/-- At the moment a request starts an attempt over a channel, the breaker of the
shared channel is closed, unless another task has marked the channel unhealthy
since the request took its snapshot. -/
theorem attempt_meets_closed_breaker (service : Service) (dsns : List Dsn)
    (labels : List (Label Kind Choice))
    (watched next : Watched Shared Call Reply (Option Trial) Unit Sight) (index id : Nat)
    (choice : Choice) (trial : Option Trial) (dsn : Dsn) (host : String) (port : UInt16)
    (rest : Except String Duplex → Proxy Unit)
    (ran : runFrom (watchedStep (proxySystem service) breakerWatcher)
      { machine := { shared := .initial dsns, tasks := [] }, sights := [] } labels = some watched)
    (taken : watchedStep (proxySystem service) breakerWatcher watched (.advance index choice) =
      some next)
    (started : next.machine.tasks[index]? =
      some (trial, .call (.establish (.upstream id dsn) host port) rest)) :
    ∃ now sight channel, choice = .time now ∧ next.sights[index]? = some sight ∧
      next.machine.shared.channels[id]? = some channel ∧
        (channel.shouldRetry now = true ∨ id ∉ sight.basis.own ∧
          ∃ mark ∈ next.machine.shared.history.drop sight.marked,
            mark.id = id ∧ mark.healthy = false) := by
  have ranOn : runFrom (watchedStep (proxySystem service) breakerWatcher)
      { machine := { shared := .initial dsns, tasks := [] }, sights := [] }
      (labels ++ [.advance index choice]) = some next := by
    apply run_append ran
    rw [runFrom, taken]
    rfl
  have overseen := run_faithful ranOn
  obtain ⟨note, request, _, sight, reply, left, found, seen, answered, _, sights⟩ :=
    watched_advance (run_faithful ran).paired taken
  have within := (List.getElem?_eq_some_iff.mp seen).1
  have seenNow : next.sights[index]? =
      some (breakerWatcher.look sight watched.machine.shared request reply left) := by
    rw [sights, List.getElem?_set_self within]
  have faithful := overseen.good index _ _ started seenNow
  obtain ⟨now, channel, read, current, closed⟩ :=
    allowed_meets_breaker overseen.invariant faithful.taken faithful.asks.1
  refine ⟨now, _, channel, ?_, seenNow, current, closed⟩
  exact clock_was_read read answered

/-! ## An attempt in an open window -/

/-- Both requests take their snapshot; the second one fails and marks the channel
before the first one starts. -/
def overtaken : List (Label Kind Choice) :=
  [.spawn (.request FailureBursts.tunnelRequest), .spawn (.request FailureBursts.tunnelRequest),
    .advance 0 .any, .advance 1 .any, .advance 1 (.time 0),
    .advance 1 (.connected (.error "refused")), .advance 1 (.time 0)]

theorem overtaken_starts : ∃ watched next,
    runFrom (watchedStep (proxySystem FailureBursts.channelsOnly) breakerWatcher)
        { machine := { shared := .initial [sshDsn], tasks := [] }, sights := [] } overtaken =
      some watched ∧
    watchedStep (proxySystem FailureBursts.channelsOnly) breakerWatcher watched
        (.advance 0 (.time 0)) = some next ∧
      next.machine.shared.channels[0]? = some ((Channel.new 0 sshDsn).markUnhealthy 0) ∧
      ∃ rest, next.machine.tasks[0]? =
        some (none, .call (.establish (.upstream 0 sshDsn) "example.com" 443) rest) :=
  ⟨_, _, rfl, rfl, rfl, _, rfl⟩

/-- The first request starts an attempt over the channel in the second in which the
other one has opened a window of three seconds on it. -/
theorem attempt_in_open_window : ∃ machine next channel rest,
    runFrom (proxySystem FailureBursts.channelsOnly).step
        { shared := .initial [sshDsn], tasks := [] } overtaken = some machine ∧
      (proxySystem FailureBursts.channelsOnly).step machine (.advance 0 (.time 0)) = some next ∧
      next.tasks[0]? = some (none, .call (.establish (.upstream 0 sshDsn) "example.com" 443) rest) ∧
      next.shared.channels[0]? = some channel ∧ channel.shouldRetry 0 = false :=
  ⟨_, _, _, _, rfl, rfl, rfl, rfl, rfl⟩

theorem overtaken_attempt_was_overtaken :
    ∃ next : Watched Shared Call Reply (Option Trial) Unit Sight, ∃ now sight channel,
      Choice.time 0 = .time now ∧ next.sights[0]? = some sight ∧
      next.machine.shared.channels[0]? = some channel ∧
        (channel.shouldRetry now = true ∨ 0 ∉ sight.basis.own ∧
          ∃ mark ∈ next.machine.shared.history.drop sight.marked,
            mark.id = 0 ∧ mark.healthy = false) := by
  obtain ⟨watched, next, ran, taken, _, rest, started⟩ := overtaken_starts
  exact ⟨next, attempt_meets_closed_breaker FailureBursts.channelsOnly [sshDsn] overtaken watched
    next 0 0 (.time 0) none sshDsn "example.com" 443 rest ran taken started⟩

end MultiProxy.OpenBreaker
