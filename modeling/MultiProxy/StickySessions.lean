import MultiProxy.AssumedReplies
import MultiProxy.ChannelOrder
import MultiProxy.InterleavedTasks

/-!
# Destinations stay with their upstream

The key of a destination says which upstream a request begins with. As long as that
one upstream is in order, requests for the destination go over no other, whatever
becomes of the other upstreams and however requests and health checks are interleaved.
-/

namespace MultiProxy.StickySessions

open MultiProxy.RustRuntime MultiProxy.DuplexStream MultiProxy.UpstreamDsn
open MultiProxy.TransitionRuns
open MultiProxy.InteractionPrograms MultiProxy.InteractionPrograms.Program
open MultiProxy.ChannelHealth MultiProxy.PathRequest MultiProxy.StreamingResponse
open MultiProxy.ProxyRequests MultiProxy.ChannelLoops MultiProxy.ChannelOrder
open MultiProxy.InterleavedTasks

set_option autoImplicit false

/-! ## An upstream in order -/

/-- Connections over the upstream come about, exchanges over them are answered, and
its probes find it. -/
def inOrder (id : Nat) (trial : Option Trial) : (request : Call) → Reply request → Bool
  | .establish (.upstream other _) _ _, connected => other ≠ id || connected.isOk
  | .forward _ _ _ _, answered => trial.all (fun trial => trial.id ≠ id) || answered.isOk
  | .joinNext set, some (position, some healthy) =>
      set[position]?.all (fun probe => probe.1 ≠ id) || healthy
  | _, _ => true

/-- No trial of the upstream has failed. -/
def Vouched (id : Nat) (trial : Option Trial) : Prop :=
  ∀ tried, trial = some tried → tried.id = id → tried.succeeded = true

theorem vouched_none (id : Nat) : Vouched id none := by
  intro tried impossible
  cases impossible

theorem vouched_after {id : Nat} {trial : Option Trial} (vouched : Vouched id trial)
    {request : Call} {reply : Reply request} (fine : inOrder id trial request reply = true) :
    Vouched id (trialAfter trial request reply) := by
  cases request with
  | channels => exact vouched
  | now => exact vouched
  | mark other healthy => exact vouched_none id
  | establish route host port =>
      cases route with
      | direct => exact vouched_none id
      | upstream other dsn =>
          intro tried same here
          cases same
          have known : other = id := here
          simpa [inOrder, known] using fine
  | forward upstream host isHttps bytes =>
      intro tried same here
      obtain ⟨before, rfl, rfl⟩ := Option.map_eq_some_iff.mp same
      have known : before.id = id := here
      simpa [inOrder, known] using fine
  | joinNext set =>
      cases reply with
      | none => exact vouched_none id
      | some joined =>
          obtain ⟨position, result⟩ := joined
          cases result with
          | none => exact vouched_none id
          | some healthy =>
              intro tried same here
              obtain ⟨probe, found, rfl⟩ := Option.map_eq_some_iff.mp same
              have known : probe.1 = id := here
              simpa [inOrder, found, known] using fine

/-! ## What requests keep to -/

section Requests

variable (service : Service) (dsns : List Dsn) (id : Nat)

def BeginsWith (host : String) (port : UInt16) : Prop :=
  startIndex service.sha256 service.strategy dsns.length (hostPort host port) = id

/-- The way over the upstream, or the direct one where it comes first. -/
def Keeps (route : Route) : Prop :=
  (route = .direct ∧ service.directFirst = true) ∨
    ∃ dsn, dsns[id]? = some dsn ∧ route = .upstream id dsn

def Usable (channels : List Channel) : Prop :=
  ∀ channel, channels[id]? = some channel → channel.health ≠ .unhealthy

def keepsTo : Discipline Call Reply (Option Trial) where
  permits _ request :=
    match request with
    | .establish route host port =>
        BeginsWith service dsns id host port → Keeps service dsns id route
    | _ => True
  expects trial request reply :=
    inOrder id trial request reply = true ∧
      match request, reply with
      | .channels, channels => InPlace dsns channels ∧ Usable id channels
      | _, _ => True
  after := trialAfter

def Succeeds {Value : Type} (attempt : Route → Proxy (Except String Value)) : Prop :=
  ∀ dsn trial (next : Except String Value → Proxy (Except String Value)), dsns[id]? = some dsn →
    (∀ trial value, Follows (keepsTo service dsns id) trial (next (.ok value))) →
      Follows (keepsTo service dsns id) trial (attempt (.upstream id dsn) >>= next)

variable {service dsns id}

theorem establish_succeeds (host : String) (port : UInt16) :
    Succeeds service dsns id (establish · host port) := by
  intro dsn trial next here later
  refine ⟨fun _ => .inr ⟨dsn, here, rfl⟩, ?_⟩
  intro connected expected
  have fine : inOrder id trial (.establish (.upstream id dsn) host port) connected = true :=
    expected.1
  cases connected with
  | ok stream => exact later _ stream
  | error message => simp [inOrder, Except.isOk, Except.toBool] at fine

theorem connect_and_forward_succeeds (target : Target) (bytes : List UInt8) :
    Succeeds service dsns id (connectAndForward target bytes) := by
  intro dsn trial next here later
  refine ⟨fun _ => .inr ⟨dsn, here, rfl⟩, ?_⟩
  intro connected expected
  have fine : inOrder id trial (.establish (.upstream id dsn) target.host target.port) connected =
    true := expected.1
  cases connected with
  | error message => simp [inOrder, Except.isOk, Except.toBool] at fine
  | ok upstream =>
      refine ⟨trivial, ?_⟩
      intro answered expected
      have fine : inOrder id (some ⟨id, dsn, true⟩)
        (.forward upstream target.host target.isHttps bytes) answered = true := expected.1
      cases answered with
      | ok response => exact later _ response
      | error message => simp [inOrder, Except.isOk, Except.toBool] at fine

theorem turn_keeps {Value : Type} {attempt : Route → Proxy (Except String Value)}
    (succeeds : Succeeds service dsns id attempt) {channel : Channel}
    (same : channel.id = id) (here : dsns[id]? = some channel.dsn)
    (next later : String → Proxy (Except String Value)) (trial : Option Trial) :
    Follows (keepsTo service dsns id) trial (orElse (turn attempt channel next) later) := by
  rw [orElse, turn, bind_assoc, same]
  apply succeeds _ _ _ here
  intro trial value
  exact ⟨trivial, fun _ _ => trivial⟩

theorem loop_keeps {Value : Type} {attempt : Route → Proxy (Except String Value)}
    (succeeds : Succeeds service dsns id attempt) {channel : Channel}
    (same : channel.id = id) (here : dsns[id]? = some channel.dsn)
    (usable : channel.health ≠ .unhealthy) (rest : List Channel) (lastErr : String)
    (later : String → Proxy (Except String Value)) (trial : Option Trial) :
    Follows (keepsTo service dsns id) trial
      (orElse (channelLoop attempt (channel :: rest) lastErr) later) := by
  rw [channel_loop_cons]
  refine ⟨trivial, ?_⟩
  intro now _
  have retry : channel.shouldRetry now = true := by rw [Channel.shouldRetry, if_pos usable]
  dsimp only
  rw [if_pos retry]
  exact turn_keeps succeeds same here (channelLoop attempt rest) later trial

theorem first_in_order {all : List Channel} (inPlace : InPlace dsns all) (known : id < dsns.length)
    {host : String} {port : UInt16} (begins : BeginsWith service dsns id host port) :
    ∃ channel rest, service.ordered all host port = channel :: rest ∧ all[id]? = some channel := by
  have sized := in_place_length inPlace
  have rotated := ordered_rotated service.sha256 service.strategy all (hostPort host port)
  have front := rotated.at_position 0 (by omega)
  rw [sized, begins, Nat.add_zero, Nat.mod_eq_of_lt known] at front
  have within : id < all.length := by omega
  rw [List.getElem?_eq_getElem within] at front
  obtain ⟨rest, ordered⟩ := List.head?_eq_some_iff.mp (List.head?_eq_getElem?.trans front)
  exact ⟨all[id], rest, ordered, List.getElem?_eq_getElem within⟩

/-- What is left once the direct attempt is out of the way. -/
theorem through_channels_keeps {Value : Type} {attempt : Route → Proxy (Except String Value)}
    (succeeds : Succeeds service dsns id attempt)
    (known : id < dsns.length) {host : String} {port : UInt16}
    (begins : BeginsWith service dsns id host port) (lastErr : String)
    (later : String → Proxy (Except String Value)) (trial : Option Trial) :
    Follows (keepsTo service dsns id) trial (snapshot >>= fun all =>
      orElse (channelLoop attempt (service.ordered all host port) lastErr) later) := by
  refine ⟨trivial, ?_⟩
  rintro all ⟨_, inPlace, usable⟩
  obtain ⟨channel, rest, ordered, found⟩ := first_in_order inPlace known begins
  obtain ⟨same, here⟩ := in_place_at inPlace found
  have looped := loop_keeps succeeds same here (usable channel found) rest lastErr later trial
  rw [← ordered] at looped
  exact looped

theorem acquire_tunnel_keeps (known : id < dsns.length) {host : String} {port : UInt16}
    (begins : BeginsWith service dsns id host port) (trial : Option Trial) :
    Follows (keepsTo service dsns id) trial (acquireTunnel service host port) := by
  unfold acquireTunnel
  simp only [tunnel_through_is_loop]
  have through := through_channels_keeps (establish_succeeds host port) known
    begins
  cases first : service.directFirst with
  | false => exact through _ _ trial
  | true =>
      refine ⟨fun _ => .inl ⟨rfl, first⟩, ?_⟩
      intro connected _
      cases connected with
      | ok stream => trivial
      | error message => exact through _ _ _

theorem forward_attempts_keeps (known : id < dsns.length) {target : Target}
    (begins : BeginsWith service dsns id target.host target.port) (bytes : List UInt8)
    (trial : Option Trial) :
    Follows (keepsTo service dsns id) trial (forwardAttempts target bytes service) := by
  unfold forwardAttempts
  simp only [forward_through_channels_is_loop]
  have through := through_channels_keeps
    (connect_and_forward_succeeds target bytes) known begins
  cases first : service.directFirst with
  | false => exact through _ _ trial
  | true =>
      refine ⟨fun _ => .inl ⟨rfl, first⟩, ?_⟩
      intro connected _
      cases connected with
      | error message => exact through _ _ _
      | ok upstream =>
          refine ⟨trivial, ?_⟩
          intro answered _
          cases answered with
          | ok response => trivial
          | error message => exact through _ _ _

end Requests

/-! ## Runs -/

/-- The proxy while the upstream is in order. -/
def orderlySystem (service : Service) (id : Nat) :
    System Shared Call Reply Kind Choice (Option Trial) Unit :=
  (proxySystem service).assuming (inOrder id)

section Runs

variable {service : Service} {dsns : List Dsn} {id : Nat}

/-- Requests for other destinations may go where they like. -/
theorem request_keeps (known : id < dsns.length) (request : ClientRequest) (trial : Option Trial) :
    Follows (keepsTo service dsns id) trial (handleRequest service request) := by
  have anywhere : ∀ note call, (keepsTo service dsns id).permits trial call →
      (keepsTo service dsns id).permits note call := fun _ _ permitted => permitted
  obtain quiet | ⟨host, port, answer, tunnel⟩ | ⟨target, bytes, answer, forward⟩ :=
    handle_request_cases service request
  · apply follows_of_every_call _ quiet
    intro note call isQuiet
    cases call with
    | establish route host port => cases isQuiet
    | _ => trivial
  · have calls : Follows (keepsTo service dsns id) trial (acquireTunnel service host port) := by
      by_cases begins : BeginsWith service dsns id host port
      · exact acquire_tunnel_keeps known begins trial
      · apply follows_of_every_call anywhere
        exact acquire_tunnel_calls (fun _ own => absurd own begins)
          ⟨trivial, trivial, fun _ _ => trivial⟩ service
    rw [tunnel]
    exact follows_bind calls fun _ _ => trivial
  · have calls : Follows (keepsTo service dsns id) trial
      (forwardAttempts target bytes service) := by
      by_cases begins : BeginsWith service dsns id target.host target.port
      · exact forward_attempts_keeps known begins bytes trial
      · apply follows_of_every_call anywhere
        exact forward_attempts_calls (fun _ own => absurd own begins) (fun _ => trivial)
          ⟨trivial, trivial, fun _ _ => trivial⟩ service
    rw [forward]
    exact follows_bind calls fun _ _ => trivial

theorem join_probes_keep (count : Nat) (set : List (Nat × Dsn)) (trial : Option Trial) :
    Follows (keepsTo service dsns id) trial (joinProbes count set) := by
  induction count generalizing set trial with
  | zero => trivial
  | succ count ih =>
      rw [joinProbes, join_next_bind]
      refine ⟨trivial, ?_⟩
      intro joined _
      cases joined with
      | none => trivial
      | some joined =>
          obtain ⟨position, result⟩ := joined
          dsimp only
          split
          · exact ⟨trivial, fun _ _ => ih _ _⟩
          · exact ⟨trivial, fun _ _ => ih _ _⟩
          · exact ih _ _

theorem start_keeps (known : id < dsns.length) (kind : Kind) :
    Follows (keepsTo service dsns id) (start service kind).1 (start service kind).2 := by
  cases kind with
  | request request => exact follows_bind (request_keeps known request none) fun _ _ => trivial
  | check => exact ⟨trivial, fun _ _ => join_probes_keep _ _ _⟩

theorem mark_keeps_usable {channels : List Channel} (usable : Usable id channels) {other : Nat}
    {healthy : Bool} (good : other = id → healthy = true) (now : Instant) :
    Usable id (markChannel channels other healthy now) := by
  intro channel here
  by_cases same : other = id
  · subst same
    rw [mark_channel_at, good rfl] at here
    obtain ⟨before, _, rfl⟩ := Option.map_eq_some_iff.mp here
    exact Health.noConfusion
  · rw [mark_channel_other _ same] at here
    exact usable channel here

theorem answer_keeps_usable {shared after : Shared} {trial : Option Trial} {request : Call}
    {choice : Choice} {reply : Reply request} (usable : Usable id shared.channels)
    (vouched : Vouched id trial) (permitted : (marksTrials dsns).permits trial request)
    (answered : answer shared trial request choice = some (reply, after)) :
    Usable id after.channels := by
  cases request with
  | channels =>
      cases answered
      exact usable
  | now =>
      cases choice <;> cases answered
      exact usable
  | establish route host port =>
      cases choice <;> cases answered
      exact usable
  | forward upstream host isHttps requestBytes =>
      cases choice <;> cases answered
      exact usable
  | mark other healthy =>
      obtain ⟨dsn, issued, _⟩ := permitted
      cases choice <;> cases answered
      exact mark_keeps_usable usable (vouched _ issued) _
  | joinNext set =>
      cases set with
      | nil =>
          cases answered
          exact usable
      | cons probe rest =>
          cases choice <;>
            simp only [answer, reduceCtorEq, Option.ite_none_right_eq_some] at answered
          cases answered.2
          exact usable

theorem answer_keeps {shared after : Shared} {trial : Option Trial} {request : Call}
    {choice : Choice} {reply : Reply request}
    (holds : Recorded dsns shared ∧ Usable id shared.channels) (vouched : Vouched id trial)
    (permitted : (marksTrials dsns).permits trial request)
    (fine : inOrder id trial request reply = true)
    (answered : answer shared trial request choice = some (reply, after)) :
    (marksTrials dsns).expects trial request reply ∧
      (keepsTo service dsns id).expects trial request reply ∧
        Vouched id (trialAfter trial request reply) ∧
          Recorded dsns after ∧ Usable id after.channels := by
  obtain ⟨expected, recorded⟩ :=
    answer_recorded shared trial request choice reply after holds.1 permitted answered
  refine ⟨expected, ⟨fine, ?_⟩, vouched_after vouched fine, recorded,
    answer_keeps_usable holds.2 vouched permitted answered⟩
  cases request with
  | channels =>
      cases answered
      exact ⟨recorded_in_place holds.1, holds.2⟩
  | _ => trivial

end Runs

/-- While an upstream is in order, and whatever becomes of the others, no state of any
run has a request on its way to a destination of that upstream over another one, nor
directly, unless the direct way comes first; and the upstream's channel stays usable. -/
theorem destinations_stay_with_upstream (service : Service) (dsns : List Dsn) (id : Nat)
    (known : id < dsns.length) (labels : List (Label Kind Choice))
    (finish : Machine Shared Call Reply (Option Trial) Unit)
    (ran : runFrom (orderlySystem service id).step { shared := .initial dsns, tasks := [] } labels =
      some finish) :
    (∀ task ∈ finish.tasks, ∀ route host port next,
        task.2 = .call (.establish route host port) next →
          startIndex service.sha256 service.strategy dsns.length (hostPort host port) = id →
            (route = .direct ∧ service.directFirst = true) ∨
              ∃ dsn, dsns[id]? = some dsn ∧ route = .upstream id dsn) ∧
      ∀ now channel, finish.shared.channels[id]? = some channel →
        channel.shouldRetry now = true := by
  have fresh : Usable id (Shared.initial dsns).channels := by
    intro channel here
    rw [Shared.initial, channelsOf, List.getElem?_mapIdx] at here
    obtain ⟨dsn, _, rfl⟩ := Option.map_eq_some_iff.mp here
    exact Health.noConfusion
  have noted : ∀ kind, Vouched id ((proxySystem service).start kind).1 := by
    intro kind
    cases kind <;> exact vouched_none id
  have idled : ∀ shared choice after, Recorded dsns shared ∧ Usable id shared.channels →
      (proxySystem service).idle shared choice = some after →
        Recorded dsns after ∧ Usable id after.channels := by
    intro shared choice after _ taken
    cases taken
  obtain ⟨⟨_, usable⟩, follows⟩ := System.run_orderly_assuming (marksTrials dsns)
    (keepsTo service dsns id) rfl rfl noted (start_follows service) (start_keeps known)
    (fun shared trial request choice reply after holds vouched permitted fine answered =>
      answer_keeps holds vouched permitted fine answered)
    idled ⟨initial_recorded dsns, fresh⟩ ran
  constructor
  · intro task member route host port next waits begins
    have permitted := follows task member
    rw [waits] at permitted
    exact permitted.1 begins
  · intro now channel here
    rw [Channel.shouldRetry, if_pos (usable channel here)]

def throughUpstreams : Service := { PathDestination.exampleService with directFirst := false }

/-- The second upstream is found dead, and a request comes to its connection. -/
def requestBehindCheck : List (Label Kind Choice) :=
  [.spawn .check, .advance 0 .any, .advance 0 (.joined 1 (some false)), .advance 0 (.time 5),
    .spawn (.request (PathDestination.getRequest "/http://example.com/a")), .advance 1 .any,
    .advance 1 (.time 7)]

def machineBehindCheck : Option (Machine Shared Call Reply (Option Trial) Unit) :=
  runFrom (orderlySystem throughUpstreams 0).step
    { shared := .initial [RequestRuns.localSocks, sshDsn], tasks := [] } requestBehindCheck

theorem request_comes_to_connection : machineBehindCheck.isSome = true := rfl

theorem first_upstream_kept :
    (∀ task ∈ (machineBehindCheck.get request_comes_to_connection).tasks, ∀ route host port next,
        task.2 = .call (.establish route host port) next →
          startIndex throughUpstreams.sha256 throughUpstreams.strategy
              [RequestRuns.localSocks, sshDsn].length (hostPort host port) = 0 →
            (route = .direct ∧ throughUpstreams.directFirst = true) ∨
              ∃ dsn, [RequestRuns.localSocks, sshDsn][0]? = some dsn ∧ route = .upstream 0 dsn) ∧
      ∀ now channel,
        (machineBehindCheck.get request_comes_to_connection).shared.channels[0]? = some channel →
          channel.shouldRetry now = true :=
  destinations_stay_with_upstream throughUpstreams [RequestRuns.localSocks, sshDsn] 0 (by decide)
    requestBehindCheck _ (Option.some_get request_comes_to_connection).symm

end MultiProxy.StickySessions
