import MultiProxy.FallbackResults

/-!
# Runs in which every channel may be tried

Once no breaker is open the health of the channels has no say in what a request
does: runs from two lists of the same DSNs connect, exchange and mark alike.
-/

namespace MultiProxy.RecoveredChannels

open MultiProxy.RustRuntime MultiProxy.DuplexStream MultiProxy.UpstreamDsn
open MultiProxy.InteractionPrograms MultiProxy.InteractionPrograms.Program
open MultiProxy.ChannelHealth MultiProxy.PathRequest MultiProxy.StreamingResponse
open MultiProxy.ProxyRequests MultiProxy.ChannelLoops MultiProxy.RequestRuns
open MultiProxy.FallbackPolicy MultiProxy.FallbackResults

set_option autoImplicit false

variable {Value : Type}

/-- Two worlds that differ at most in their channels. -/
structure Alike (world other : World) : Prop where
  reads : world.reads = other.reads
  connects : world.connects = other.connects
  log : world.log = other.log

def NoSnapshot : Call → Prop
  | .channels => False
  | _ => True

theorem Alike.tick {world other : World} (alike : Alike world other) :
    Alike world.tick other.tick :=
  ⟨congrArg (· + 1) alike.reads, alike.connects, alike.log⟩

theorem Alike.mark {world other : World} (alike : Alike world other) (id : Nat) (healthy : Bool)
    (now : Instant) : Alike (world.mark id healthy now) (other.mark id healthy now) :=
  ⟨congrArg (· + 1) alike.reads, alike.connects, congrArg (· ++ [_]) alike.log⟩

theorem handle_alike (around : Surroundings) {world other : World} (alike : Alike world other)
    (request : Call) (allowed : NoSnapshot request) :
    (handle around world request).1 = (handle around other request).1 ∧
      Alike (handle around world request).2 (handle around other request).2 := by
  cases request with
  | channels => cases allowed
  | now =>
      simp only [handle, alike.reads]
      exact ⟨trivial, alike.tick⟩
  | establish route host port =>
      simp only [handle, alike.connects]
      exact ⟨trivial, alike.reads, congrArg (· + 1) alike.connects, congrArg (· ++ [_]) alike.log⟩
  | forward upstream host isHttps requestBytes =>
      exact ⟨rfl, alike.reads, alike.connects, congrArg (· ++ [_]) alike.log⟩
  | mark id healthy =>
      simp only [handle, alike.reads]
      exact ⟨trivial, alike.mark id healthy _⟩
  | joinNext set =>
      cases set with
      | nil => exact ⟨rfl, alike⟩
      | cons probe rest => exact ⟨rfl, alike⟩

theorem alone_alike (around : Surroundings) {program : Proxy Value}
    (calls : EveryCall NoSnapshot program) {world other : World} (alike : Alike world other) :
    (runAlone around program world).1 = (runAlone around program other).1 ∧
      Alike (runAlone around program world).2 (runAlone around program other).2 := by
  unfold runAlone
  induction program generalizing world other with
  | done value => exact ⟨rfl, alike⟩
  | call request next ih =>
      rw [run_call, run_call]
      obtain ⟨sameReply, alikeAfter⟩ := handle_alike around alike request calls.1
      revert sameReply alikeAfter
      obtain ⟨reply, after⟩ := handle around world request
      obtain ⟨reply', after'⟩ := handle around other request
      intro sameReply alikeAfter
      cases sameReply
      cases reply with
      | none => exact ⟨rfl, alikeAfter⟩
      | some reply => exact ih reply (calls.2 reply) alikeAfter

section Policy

variable {around : Surroundings} {attempt : Route → Proxy (Except String Value)}
  (blind : ∀ route, EveryCall NoSnapshot (attempt route))

/-- The candidate is never passed over. -/
def Open (around : Surroundings) : Candidate → Prop
  | .direct => True
  | .via channel => ∀ number, channel.shouldRetry (around.clock number) = true

include blind

theorem visit_alike {candidate candidate' : Candidate}
    (sameRoute : candidate.route = candidate'.route) (opened : Open around candidate)
    (opened' : Open around candidate') {world other : World} (alike : Alike world other) :
    (visit around attempt world candidate).verdict =
        (visit around attempt other candidate').verdict ∧
      Alike (visit around attempt world candidate).after
        (visit around attempt other candidate').after := by
  cases candidate with
  | direct =>
      cases candidate' with
      | via channel => cases sameRoute
      | direct =>
          obtain ⟨same, after⟩ := alone_alike around (blind .direct) alike
          exact ⟨congrArg verdictOf same, after⟩
  | via channel =>
      cases candidate' with
      | direct => cases sameRoute
      | via channel' =>
          obtain ⟨sameId, sameDsn⟩ := Route.upstream.inj sameRoute
          simp only [visit, opened world.reads, opened' other.reads, if_true, ← sameId, ← sameDsn]
          obtain ⟨same, alikeAfter⟩ :=
            alone_alike around (blind (.upstream channel.id channel.dsn)) alike.tick
          revert same alikeAfter
          obtain ⟨outcome, after⟩ :=
            runAlone around (attempt (.upstream channel.id channel.dsn)) world.tick
          obtain ⟨outcome', after'⟩ :=
            runAlone around (attempt (.upstream channel.id channel.dsn)) other.tick
          intro same alikeAfter
          cases same
          cases outcome with
          | none => exact ⟨rfl, alikeAfter⟩
          | some outcome =>
              have sameReads : after.reads = after'.reads := alikeAfter.reads
              simp only [sameReads]
              exact ⟨trivial, alikeAfter.mark _ _ _⟩

theorem policy_alike {plan plan' : List Candidate}
    (sameRoutes : plan.map Candidate.route = plan'.map Candidate.route)
    (opened : ∀ candidate ∈ plan, Open around candidate)
    (opened' : ∀ candidate ∈ plan', Open around candidate) {world other : World}
    (alike : Alike world other) :
    (conclude world (policy around attempt plan world)).1 =
        (conclude other (policy around attempt plan' other)).1 ∧
      Alike (conclude world (policy around attempt plan world)).2
        (conclude other (policy around attempt plan' other)).2 := by
  induction plan generalizing plan' world other with
  | nil =>
      cases plan' with
      | nil => exact ⟨rfl, alike⟩
      | cons candidate' rest' => cases sameRoutes
  | cons candidate rest ih =>
      cases plan' with
      | nil => cases sameRoutes
      | cons candidate' rest' =>
          rw [List.map_cons, List.map_cons, List.cons.injEq] at sameRoutes
          rcases visit_alike blind sameRoutes.1 (opened candidate List.mem_cons_self)
            (opened' candidate' List.mem_cons_self) alike with ⟨sameVerdict, alikeAfter⟩
          simp only [policy]
          cases attempted : (visit around attempt world candidate).verdict.attempted with
          | failed =>
              have attempted' := attempted
              rw [sameVerdict] at attempted'
              simp only [attempted', conclude_failed attempted, conclude_failed attempted']
              apply ih sameRoutes.2 _ _ alikeAfter
              · intro later member
                exact opened later (List.mem_cons_of_mem candidate member)
              · intro later member
                exact opened' later (List.mem_cons_of_mem candidate' member)
          | succeeded value =>
              have attempted' := attempted
              rw [sameVerdict] at attempted'
              simp only [attempted', conclude, attempted]
              exact ⟨trivial, alikeAfter⟩
          | lost =>
              have attempted' := attempted
              rw [sameVerdict] at attempted'
              simp only [attempted', conclude, attempted]
              exact ⟨trivial, alikeAfter⟩

end Policy

/-! ## Requests -/

theorem ordered_channels_rotated (service : Service) (channels : List Channel) (host : String)
    (port : UInt16) :
    service.ordered channels host port = channels.rotate
      (startIndex service.sha256 service.strategy channels.length (hostPort host port)) := by
  rw [Service.ordered, orderedChannels]
  split
  · rename_i none
    rw [none, List.rotate_nil]
  · rfl

/-- The order of the routes does not depend on the health of the channels. -/
theorem candidate_routes {dsns : List Dsn} {channels channels' : List Channel}
    (inPlace : InPlace dsns channels) (inPlace' : InPlace dsns channels') (service : Service)
    (host : String) (port : UInt16) :
    (candidates service channels host port).map Candidate.route =
      (candidates service channels' host port).map Candidate.route := by
  have routes : ∀ {list : List Channel}, InPlace dsns list →
      ((service.ordered list host port).map Candidate.via).map Candidate.route =
        ((dsns.mapIdx Prod.mk).rotate (startIndex service.sha256 service.strategy dsns.length
          (hostPort host port))).map fun place => Route.upstream place.1 place.2 := by
    intro list here
    rw [ordered_channels_rotated, in_place_length here, ← here, ← List.map_rotate, List.map_map,
      List.map_map]
    rfl
  simp only [candidates, List.map_append, routes inPlace, routes inPlace']

theorem candidates_open {around : Surroundings} {channels : List Channel}
    (opened : ∀ channel ∈ channels, ∀ number, channel.shouldRetry (around.clock number) = true)
    (service : Service) (host : String) (port : UInt16) :
    ∀ candidate ∈ candidates service channels host port, Open around candidate := by
  intro candidate member
  cases candidate with
  | direct => trivial
  | via channel => exact opened channel (candidate_in_list member)

section Requests

variable {around : Surroundings} {dsns : List Dsn} {channels channels' : List Channel}
  (inPlace : InPlace dsns channels) (inPlace' : InPlace dsns channels')
  (opened : ∀ channel ∈ channels, ∀ number, channel.shouldRetry (around.clock number) = true)
  (opened' : ∀ channel ∈ channels', ∀ number, channel.shouldRetry (around.clock number) = true)

include inPlace inPlace' opened opened'

theorem request_log_alike (service : Service) (request : ClientRequest) :
    (runAlone around (handleRequest service request) (World.initial channels)).2.log =
      (runAlone around (handleRequest service request) (World.initial channels')).2.log := by
  have alike : Alike (World.initial channels) (World.initial channels') := ⟨rfl, rfl, rfl⟩
  rcases handle_request_cases service request with
    quiet | ⟨host, port, answer, tunnel⟩ | ⟨target, bytes, answer, forward⟩
  · rw [(alone_quiet around _ quiet).2, (alone_quiet around _ quiet).2]
    rfl
  · rw [tunnel, alone_answer, alone_answer, acquire_tunnel_leaves, acquire_tunnel_leaves]
    have blind : ∀ route, EveryCall NoSnapshot (establish route host port) :=
      establish_calls fun _ => trivial
    exact (policy_alike blind (candidate_routes inPlace inPlace' service host port)
      (candidates_open opened service host port) (candidates_open opened' service host port)
      alike).2.log
  · rw [forward, alone_answer, alone_answer, forward_attempts_leave, forward_attempts_leave]
    have blind : ∀ route, EveryCall NoSnapshot (connectAndForward target bytes route) :=
      connect_and_forward_calls (fun _ => trivial) fun _ => trivial
    exact (policy_alike blind (candidate_routes inPlace inPlace' service target.host target.port)
      (candidates_open opened service target.host target.port)
      (candidates_open opened' service target.host target.port) alike).2.log

end Requests

end MultiProxy.RecoveredChannels
