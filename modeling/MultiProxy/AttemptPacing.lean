import MultiProxy.BreakerTiming
import MultiProxy.CircuitBreakers
import MultiProxy.FallbackResults
import MultiProxy.PathDestination

/-!
# How often a failing channel is tried

A channel is a circuit breaker in the general sense, and a request asks it before each
attempt. Requests one after the other are therefore paced by its windows, and a
channel that keeps failing takes up fewer and fewer of them.
-/

namespace MultiProxy.AttemptPacing

open MultiProxy.RustRuntime MultiProxy.UpstreamDsn MultiProxy.InteractionPrograms
open MultiProxy.InteractionPrograms.Program MultiProxy.CircuitBreakers
open MultiProxy.CircuitBreakers.Breaker MultiProxy.ChannelHealth MultiProxy.ChannelHistory
open MultiProxy.BreakerTiming MultiProxy.PathRequest MultiProxy.StreamingResponse
open MultiProxy.ProxyRequests MultiProxy.ChannelLoops MultiProxy.RequestRuns
open MultiProxy.FallbackPolicy MultiProxy.FallbackResults

set_option autoImplicit false

variable {Value : Type}

/-! ## A channel is a breaker -/

def attemptOf (report : Report) : Attempt Instant where
  succeeded := report.healthy
  time := report.time

def windowTime (failures : Nat) : Duration := window failures * 1000000000

def breakerOf (reports : List Report) : Breaker Instant := behind (reports.map attemptOf)

theorem breaker_snoc (reports : List Report) (last : Report) :
    breakerOf (reports ++ [last]) = (breakerOf reports).record (attemptOf last) := by
  rw [breakerOf, List.map_append]
  exact behind_snoc _ _

theorem breaker_row (reports : List Report) : (breakerOf reports).row = trailing reports := by
  induction reports using List.reverseRecOn with
  | nil => rfl
  | append_singleton front last ih =>
      rw [breaker_snoc, trailing_snoc, record, ih]
      cases healthy : last.healthy <;> simp [attemptOf, healthy]

/-- The breaker of the channel, with its counter, its cap and its truncated seconds, is
the general one of its windows. -/
theorem channel_refines_breaker (id : Nat) (dsn : Dsn) (reports : List Report) (now : Instant)
    (past : ∀ report ∈ reports, report.time ≤ now) :
    (reported id dsn reports).shouldRetry now = true ↔
      (breakerOf reports).Permits windowTime now := by
  rcases last_or_none reports with rfl | ⟨front, last, rfl⟩
  · exact iff_of_true ((retries_iff id dsn [] now).mpr (.inl rfl)) (.inl rfl)
  · cases healthy : last.healthy with
    | true =>
        apply iff_of_true (retries_behind_healthy id dsn healthy now)
        left
        rw [breaker_row, trailing_snoc, healthy]
        rfl
    | false =>
        have before : last.time ≤ now := past last (by simp)
        have row : (breakerOf (front ++ [last])).row = trailing (front ++ [last]) := breaker_row _
        have counted : trailing (front ++ [last]) ≠ 0 := by simp [trailing_snoc, healthy]
        have latest : (breakerOf (front ++ [last])).last = some last.time := by
          rw [breaker_snoc, record_failure healthy]
          rfl
        rw [retries_behind_failure id dsn healthy now, Permits, row, latest, asSecs, elapsed,
          Nat.le_div_iff_mul_le (by decide)]
        simp only [counted, false_or, Option.some.injEq, exists_eq_left', windowTime]
        exact Nat.le_sub_iff_add_le' before

/-! ## Marks in the log -/

def reportOf (id : Nat) : Event → Option Report
  | .marked marked healthy now => if marked = id then some ⟨healthy, now⟩ else none
  | _ => none

def reportsOf (log : List Event) (id : Nat) : List Report := log.filterMap (reportOf id)

/-- Between the look at the clock with which the breaker is asked and the one for the mark
of its attempt there is no other. -/
def AskedFor (around : Surroundings) (asked marked : Instant) : Prop :=
  ∃ number, around.clock number = asked ∧ around.clock (number + 1) = marked

/-- The channel is what its marks have made of it, and each of them followed an attempt
that its breaker had permitted. -/
structure Paced (around : Surroundings) (id : Nat) (dsn : Dsn) (world : World) : Prop where
  channel : world.channels[id]? = some (reported id dsn (reportsOf world.log id))
  guarded : Guarded windowTime (AskedFor around) ((reportsOf world.log id).map attemptOf)
  read : ∀ report ∈ reportsOf world.log id,
    ∃ number < world.reads, around.clock number = report.time

section Marks

variable {around : Surroundings} {id : Nat} {dsn : Dsn}

theorem reports_note (world : World) (event : Event) :
    reportsOf (world.note event).log id = reportsOf world.log id ++ (reportOf id event).toList := by
  rw [World.note_log, reportsOf, List.filterMap_append]
  cases reported : reportOf id event <;> simp [reported, reportsOf]

theorem reports_quiet (world : World) {event : Event} (quiet : reportOf id event = none) :
    reportsOf (world.note event).log id = reportsOf world.log id := by
  rw [reports_note, quiet]
  exact List.append_nil _

/-- What leaves a channel alone: its state, its reports and the clock. -/
structure Untouched (id : Nat) (before after : World) : Prop where
  channel : after.channels[id]? = before.channels[id]?
  reports : reportsOf after.log id = reportsOf before.log id
  reads : before.reads ≤ after.reads

theorem Untouched.trans {first second third : World} (earlier : Untouched id first second)
    (later : Untouched id second third) : Untouched id first third :=
  ⟨later.channel.trans earlier.channel, later.reports.trans earlier.reports,
    earlier.reads.trans later.reads⟩

theorem paced_of_untouched {before after : World} (paced : Paced around id dsn before)
    (untouched : Untouched id before after) : Paced around id dsn after := by
  constructor
  · rw [untouched.channel, untouched.reports]
    exact paced.channel
  · rw [untouched.reports]
    exact paced.guarded
  · rw [untouched.reports]
    intro report member
    obtain ⟨number, earlier, same⟩ := paced.read report member
    exact ⟨number, Nat.lt_of_lt_of_le earlier untouched.reads, same⟩

theorem tick_untouched (world : World) : Untouched id world world.tick :=
  ⟨rfl, rfl, Nat.le_succ _⟩

theorem alone_unmarked {program : Proxy Value} (unmarked : EveryCall NoMark program)
    (world : World) : Untouched id world (runAlone around program world).2 := by
  have kept : ∀ (state : World) (request : Call), Untouched id world state → NoMark request →
      Untouched id world (handle around state request).2 := by
    intro state request same allowed
    cases request with
    | mark id healthy => cases allowed
    | joinNext set =>
        cases set with
        | nil => exact same
        | cons probe rest => exact same
    | channels => exact same
    | now => exact same.trans (tick_untouched state)
    | establish route host port =>
        refine ⟨same.channel, ?_, same.reads⟩
        rw [← same.reports]
        exact reports_quiet state rfl
    | forward upstream host isHttps requestBytes =>
        refine ⟨same.channel, ?_, same.reads⟩
        rw [← same.reports]
        exact reports_quiet state rfl
  exact run_keeps kept program unmarked world ⟨rfl, rfl, Nat.le_refl _⟩

/-- What neither looks at the clock nor marks. -/
def Timeless : Call → Prop
  | .now => False
  | .mark _ _ => False
  | _ => True

theorem timeless_unmarked {program : Proxy Value} (timeless : EveryCall Timeless program) :
    EveryCall NoMark program := by
  apply every_call_mono _ timeless
  intro request allowed
  cases request <;> trivial

theorem alone_timeless {program : Proxy Value} (timeless : EveryCall Timeless program)
    (world : World) : (runAlone around program world).2.reads = world.reads := by
  have kept : ∀ (state : World) (request : Call), state.reads = world.reads → Timeless request →
      (handle around state request).2.reads = world.reads := by
    intro state request same allowed
    cases request with
    | mark id healthy => cases allowed
    | now => cases allowed
    | joinNext set => cases set <;> exact same
    | _ => exact same
  exact run_keeps kept program timeless world rfl

theorem mark_of_other (world : World) {other : Nat} (different : other ≠ id) (healthy : Bool)
    (now : Instant) : Untouched id world (world.mark other healthy now) := by
  constructor
  · rw [World.mark_channels, mark_channel_other _ different]
  · exact reports_quiet world (if_neg different)
  · exact Nat.le_succ _

theorem mark_paced {world : World} (paced : Paced around id dsn world) {asked : Instant}
    (forMark : AskedFor around asked (around.clock world.reads))
    (permitted : (breakerOf (reportsOf world.log id)).Permits windowTime asked)
    (later : asked ≤ around.clock world.reads) (healthy : Bool) :
    Paced around id dsn (world.mark id healthy (around.clock world.reads)) := by
  have reports : reportsOf (world.mark id healthy (around.clock world.reads)).log id =
      reportsOf world.log id ++ [⟨healthy, around.clock world.reads⟩] := by
    rw [World.mark_log, reportsOf, List.filterMap_append]
    simp [reportOf, reportsOf]
  constructor
  · have marked := replay_snoc (Channel.new id dsn) (reportsOf world.log id)
      ⟨healthy, around.clock world.reads⟩
    rw [World.mark_channels, mark_channel_at, paced.channel, reports]
    exact congrArg some marked.symm
  · rw [reports, List.map_append]
    exact guarded_snoc paced.guarded forMark permitted later
  · rw [reports]
    intro report member
    rcases List.mem_append.mp member with earlier | last
    · obtain ⟨number, read, same⟩ := paced.read report earlier
      exact ⟨number, Nat.lt_succ_of_lt read, same⟩
    · rw [List.mem_singleton.mp last]
      exact ⟨world.reads, Nat.lt_succ_self _, rfl⟩

end Marks

/-! ## Visits, policies and requests -/

def Monotone (around : Surroundings) : Prop :=
  ∀ earlier later, earlier ≤ later → around.clock earlier ≤ around.clock later

section Visits

variable {around : Surroundings} {id : Nat} {dsn : Dsn}
  {attempt : Route → Proxy (Except String Value)}
  (monotone : Monotone around) (timeless : ∀ route, EveryCall Timeless (attempt route))

include timeless

theorem visit_of_other {candidate : Candidate} (world : World)
    (other : candidate.id ≠ some id) :
    Untouched id world (visit around attempt world candidate).after := by
  cases candidate with
  | direct => exact alone_unmarked (timeless_unmarked (timeless .direct)) world
  | via channel =>
      have different : channel.id ≠ id := fun same => other (congrArg some same)
      have attempted : Untouched id world
          (runAlone around (attempt (.upstream channel.id channel.dsn)) world.tick).2 :=
        (tick_untouched world).trans (alone_unmarked (timeless_unmarked (timeless _)) world.tick)
      rw [visit]
      by_cases retry : channel.shouldRetry (around.clock world.reads) = true
      · simp only [if_pos retry]
        revert attempted
        obtain ⟨outcome, after⟩ :=
          runAlone around (attempt (.upstream channel.id channel.dsn)) world.tick
        intro attempted
        cases outcome with
        | none => exact attempted
        | some outcome => exact attempted.trans (mark_of_other after different _ _)
      · simp only [if_neg retry]
        exact tick_untouched world

include monotone

theorem visit_paced {candidate : Candidate} {world : World}
    (current : ∀ channel, candidate = .via channel → channel.id = id →
      world.channels[id]? = some channel)
    (paced : Paced around id dsn world) :
    Paced around id dsn (visit around attempt world candidate).after := by
  by_cases own : candidate.id = some id
  · cases candidate with
    | direct => cases own
    | via channel =>
        have same : channel.id = id := Option.some.inj own
        have here := current channel rfl same
        have state : channel = reported id dsn (reportsOf world.log id) :=
          Option.some.inj (here.symm.trans paced.channel)
        have past : ∀ report ∈ reportsOf world.log id, report.time ≤ around.clock world.reads := by
          intro report member
          obtain ⟨number, earlier, read⟩ := paced.read report member
          rw [← read]
          exact monotone _ _ (Nat.le_of_lt earlier)
        have attempted : Untouched id world
            (runAlone around (attempt (.upstream channel.id channel.dsn)) world.tick).2 :=
          (tick_untouched world).trans (alone_unmarked (timeless_unmarked (timeless _)) world.tick)
        rw [visit]
        by_cases retry : channel.shouldRetry (around.clock world.reads) = true
        · have permitted := retry
          rw [state, channel_refines_breaker id dsn _ _ past] at permitted
          have reads : (runAlone around (attempt (.upstream channel.id channel.dsn))
              world.tick).2.reads = world.tick.reads := alone_timeless (timeless _) world.tick
          simp only [if_pos retry]
          revert attempted reads
          obtain ⟨outcome, after⟩ :=
            runAlone around (attempt (.upstream channel.id channel.dsn)) world.tick
          intro attempted reads
          have pacedAfter := paced_of_untouched paced attempted
          have forMark : AskedFor around (around.clock world.reads) (around.clock after.reads) :=
            ⟨world.reads, rfl, congrArg around.clock reads.symm⟩
          cases outcome with
          | none => exact pacedAfter
          | some outcome =>
              simp only [same]
              apply mark_paced pacedAfter forMark _ (monotone _ _ attempted.reads)
              rw [attempted.reports]
              exact permitted
        · simp only [if_neg retry]
          exact paced_of_untouched paced (tick_untouched world)
  · exact paced_of_untouched paced (visit_of_other timeless world own)

theorem policy_paced (plan : List Candidate) (world : World)
    (once : (plan.map Candidate.id).Nodup)
    (current : ∀ channel, .via channel ∈ plan → channel.id = id →
      world.channels[id]? = some channel)
    (paced : Paced around id dsn world) :
    Paced around id dsn (conclude world (policy around attempt plan world)).2 := by
  revert once current paced
  apply policy_induction around attempt
    (motive := fun plan world visits => (plan.map Candidate.id).Nodup →
      (∀ channel, .via channel ∈ plan → channel.id = id → world.channels[id]? = some channel) →
        Paced around id dsn world → Paced around id dsn (conclude world visits).2)
  · intro world _ _ paced
    exact paced
  · intro candidate rest world stopped _ current paced
    rw [conclude_stopped stopped]
    apply visit_paced monotone timeless _ paced
    rintro channel rfl
    exact current channel List.mem_cons_self
  · intro candidate rest world later failed ih once current paced
    rw [conclude_failed failed]
    obtain ⟨alone, restOnce⟩ := List.nodup_cons.mp once
    have visited : Paced around id dsn (visit around attempt world candidate).after := by
      apply visit_paced monotone timeless _ paced
      rintro channel rfl
      exact current channel List.mem_cons_self
    refine ih restOnce ?_ visited
    intro channel member same
    have other : candidate.id ≠ some id := by
      intro own
      apply alone
      rw [own]
      exact List.mem_map.mpr ⟨.via channel, member, congrArg some same⟩
    rw [(visit_of_other timeless world other).channel]
    exact current channel (List.mem_cons_of_mem candidate member) same

end Visits

section Requests

variable {around : Surroundings} (monotone : Monotone around) {dsns : List Dsn} {id : Nat}
  {dsn : Dsn}

theorem establish_timeless (host : String) (port : UInt16) (route : Route) :
    EveryCall Timeless (establish route host port) :=
  establish_calls (fun _ => trivial) route

theorem connect_and_forward_timeless (target : Target) (bytes : List UInt8) (route : Route) :
    EveryCall Timeless (connectAndForward target bytes route) :=
  connect_and_forward_calls (fun _ => trivial) (fun _ => trivial) route

include monotone

theorem request_paced (service : Service) (request : ClientRequest) {world : World}
    (inPlace : InPlace dsns world.channels) (paced : Paced around id dsn world) :
    Paced around id dsn (runAlone around (handleRequest service request) world).2 := by
  have current : ∀ (host : String) (port : UInt16) channel,
      .via channel ∈ candidates service world.channels host port → channel.id = id →
        world.channels[id]? = some channel := by
    intro host port channel member same
    rw [← same]
    exact (in_place_member inPlace (candidate_in_list member)).1
  rcases handle_request_cases service request with
    quiet | ⟨host, port, answer, tunnel⟩ | ⟨target, bytes, answer, forward⟩
  · apply paced_of_untouched paced
    apply alone_unmarked
    apply every_call_mono _ quiet
    intro called allowed
    cases called <;> trivial
  · rw [tunnel, alone_answer, acquire_tunnel_leaves]
    exact policy_paced monotone (establish_timeless host port) _ _
      (candidates_once inPlace service host port) (current host port) paced
  · rw [forward, alone_answer, forward_attempts_leave]
    exact policy_paced monotone (connect_and_forward_timeless target bytes) _ _
      (candidates_once inPlace service target.host target.port)
      (current target.host target.port) paced

theorem requests_paced (service : Service) (requests : List ClientRequest) {world : World}
    (inPlace : InPlace dsns world.channels) (paced : Paced around id dsn world) :
    Paced around id dsn (serveAll around service requests world) := by
  induction requests generalizing world with
  | nil => exact paced
  | cons request rest ih =>
      exact ih (alone_in_place around world _ inPlace)
        (request_paced monotone service request inPlace paced)

end Requests

theorem initial_paced (around : Surroundings) {dsns : List Dsn} {id : Nat} {dsn : Dsn}
    (here : dsns[id]? = some dsn) :
    Paced around id dsn (World.initial (channelsOf dsns)) := by
  refine ⟨?_, guarded_nil, List.forall_mem_nil _⟩
  rw [World.initial, channelsOf, List.getElem?_mapIdx, here]
  rfl

/-- Requests one after the other leave a failing channel alone: a row of failed attempts
over it takes at least as long as the windows between them together, and for the attempt
behind the row the breaker is not asked before the window of the whole row is over. -/
theorem failing_channel_left_alone (around : Surroundings) (service : Service)
    (dsns : List Dsn) (requests : List ClientRequest) (id : Nat)
    (monotone : Monotone around) (known : id < dsns.length) (front failures back : List Report)
    (marked : reportsOf (serveAll around service requests (World.initial (channelsOf dsns))).log
        id =
      front ++ failures ++ back)
    (begins : trailing front = 0) (failed : ∀ report ∈ failures, report.healthy = false) :
    ∀ first last, failures.head? = some first → failures.getLast? = some last →
      first.time + ∑ number ∈ Finset.range (failures.length - 1),
          window (number + 1) * 1000000000 ≤ last.time ∧
        ∀ next, back.head? = some next →
          ∃ asked, AskedFor around asked next.time ∧
            last.time + window failures.length * 1000000000 ≤ asked ∧ asked ≤ next.time := by
  intro first last isFirst isLast
  have here : dsns[id]? = some dsns[id] := List.getElem?_eq_getElem known
  have guarded := (requests_paced monotone service requests (channels_of_in_place dsns)
    (initial_paced around here)).guarded
  rw [marked, List.map_append, List.map_append] at guarded
  have row : (breakerOf front).row = 0 := (breaker_row front).trans begins
  have allFailed : ∀ attempt ∈ failures.map attemptOf, attempt.succeeded = false := by
    intro attempt member
    obtain ⟨report, inFailures, rfl⟩ := List.mem_map.mp member
    exact failed report inFailures
  constructor
  · have firstMapped : (failures.map attemptOf).head? = some (attemptOf first) := by
      rw [List.head?_map, isFirst, Option.map_some]
    have lastMapped : (failures.map attemptOf).getLast? = some (attemptOf last) := by
      rw [List.getLast?_map, isLast, Option.map_some]
    have takes := row_takes guarded row allFailed firstMapped lastMapped
    rw [List.length_map] at takes
    exact takes
  · intro next isNext
    obtain ⟨earlier, rfl⟩ := List.getLast?_eq_some_iff.mp isLast
    obtain ⟨rest, rfl⟩ := List.head?_eq_some_iff.mp isNext
    rw [List.map_append, List.map_singleton, List.map_cons] at guarded
    rw [List.map_append, List.map_singleton] at allFailed
    have waits := waits_behind_row guarded row allFailed
    rw [List.length_map] at waits
    rw [List.length_append, List.length_singleton]
    exact waits

/-- Nothing can be connected to, and ten seconds go by between two looks at the clock. -/
def refusingSurroundings : Surroundings :=
  { cutSurroundings with
    clock := fun count => count * 10000000000
    connect := fun _ _ _ _ => .err "connection refused" }

def refusedAt (seconds : Nat) : Report where
  healthy := false
  time := seconds * 1000000000

theorem refused_channel_left_alone :
    (refusedAt 10).time + ∑ number ∈ Finset.range ([refusedAt 10, refusedAt 30].length - 1),
        window (number + 1) * 1000000000 ≤ (refusedAt 30).time ∧
      ∀ next, [refusedAt 50].head? = some next →
        ∃ asked, AskedFor refusingSurroundings asked next.time ∧
          (refusedAt 30).time + window [refusedAt 10, refusedAt 30].length * 1000000000 ≤ asked ∧
            asked ≤ next.time :=
  failing_channel_left_alone refusingSurroundings PathDestination.exampleService [localSocks]
    (List.replicate 3 (PathDestination.getRequest "/http://example.com/a")) 0
    (fun _ _ order => Nat.mul_le_mul_right _ order) (by decide) [] [refusedAt 10, refusedAt 30]
    [refusedAt 50] rfl rfl (by decide) _ _ rfl rfl

end MultiProxy.AttemptPacing
