import MultiProxy.FallbackResults

/-!
# How often a request is sent

A path-style request is one list of bytes that every attempt writes anew. The
log of a run tells over which routes it went out and what became of it.
-/

namespace MultiProxy.RepeatedSends

open MultiProxy.RustRuntime MultiProxy.DuplexStream MultiProxy.UpstreamDsn
open MultiProxy.InteractionPrograms MultiProxy.InteractionPrograms.Program
open MultiProxy.ChannelHealth MultiProxy.PathRequest MultiProxy.StreamingResponse
open MultiProxy.ProxyRequests MultiProxy.ChannelLoops MultiProxy.PathDestination
open MultiProxy.RequestRuns MultiProxy.FallbackPolicy MultiProxy.FallbackResults

set_option autoImplicit false

/-- One exchange: whether the request was written and flushed, and whether a
response came of it. -/
structure Sent where
  requestBytes : List UInt8
  complete : Bool
  answered : Bool
  deriving DecidableEq

def sentOf : Event → Option Sent
  | .exchanged requestBytes complete answered => some ⟨requestBytes, complete, answered⟩
  | _ => none

def openedOf : Event → Option Route
  | .connected route _ _ true => some route
  | _ => none

def sends (log : List Event) : List Sent := log.filterMap sentOf

def openings (log : List Event) : List Route := log.filterMap openedOf

/-- What goes on on the wire: a connection is opened, or a request is sent. -/
inductive Wire where
  | opened (route : Route)
  | sent (one : Sent)

def wireOf : Event → Option Wire
  | .connected route _ _ true => some (.opened route)
  | .exchanged requestBytes complete answered => some (.sent ⟨requestBytes, complete, answered⟩)
  | _ => none

def wire (log : List Event) : List Wire := log.filterMap wireOf

/-- Each connection carries one exchange, before the next one is opened. -/
def inTurn (routes : List Route) (sent : List Sent) : List Wire :=
  (routes.zip sent).flatMap fun carried => [.opened carried.1, .sent carried.2]

/-- What a part of a run has added to the log: each connection carries the
request once. -/
structure Grew (requestBytes : List UInt8) (before after : World) (routes : List Route)
    (sent : List Sent) : Prop where
  openings : openings after.log = openings before.log ++ routes
  sends : sends after.log = sends before.log ++ sent
  wire : wire after.log = wire before.log ++ inTurn routes sent
  fits : routes.length = sent.length
  same_bytes : ∀ one ∈ sent, one.requestBytes = requestBytes

section Growth

variable {requestBytes : List UInt8}

theorem Grew.nothing (world : World) : Grew requestBytes world world [] [] := by
  constructor
  · simp
  · simp
  · simp [inTurn]
  · rfl
  · simp

theorem Grew.trans {first second third : World} {routes routes' : List Route}
    {sent sent' : List Sent} (earlier : Grew requestBytes first second routes sent)
    (later : Grew requestBytes second third routes' sent') :
    Grew requestBytes first third (routes ++ routes') (sent ++ sent') := by
  constructor
  · rw [later.openings, earlier.openings, List.append_assoc]
  · rw [later.sends, earlier.sends, List.append_assoc]
  · rw [later.wire, earlier.wire, inTurn, inTurn, inTurn, List.zip_append earlier.fits,
      List.flatMap_append, List.append_assoc]
  · rw [List.length_append, List.length_append, earlier.fits, later.fits]
  · intro one member
    rcases List.mem_append.mp member with inEarlier | inLater
    · exact earlier.same_bytes one inEarlier
    · exact later.same_bytes one inLater

theorem Grew.tick {before after : World} {routes : List Route} {sent : List Sent}
    (grew : Grew requestBytes before.tick after routes sent) :
    Grew requestBytes before after routes sent :=
  ⟨grew.openings, grew.sends, grew.wire, grew.fits, grew.same_bytes⟩

theorem Grew.mark {before after : World} {routes : List Route} {sent : List Sent}
    (grew : Grew requestBytes before after routes sent) (id : Nat) (healthy : Bool)
    (now : Instant) :
    Grew requestBytes before (after.mark id healthy now) routes sent := by
  constructor
  · rw [← grew.openings]
    simp [RepeatedSends.openings, openedOf]
  · rw [← grew.sends]
    simp [RepeatedSends.sends, sentOf]
  · rw [← grew.wire]
    simp [RepeatedSends.wire, wireOf]
  · exact grew.fits
  · exact grew.same_bytes

theorem grew_unopened (world : World) (route : Route) (host : String) (port : UInt16) :
    Grew requestBytes world (world.connected route host port false) [] [] := by
  constructor
  · simp [openings, openedOf]
  · simp [sends, sentOf]
  · simp [wire, wireOf, inTurn]
  · rfl
  · simp

theorem grew_exchanged (world : World) (route : Route) (host : String) (port : UInt16)
    (complete answered : Bool) :
    Grew requestBytes world
      ((world.connected route host port true).note (.exchanged requestBytes complete answered))
      [route] [⟨requestBytes, complete, answered⟩] := by
  constructor
  · simp [openings, openedOf]
  · rw [sends, sends, World.note_log, World.connected_log, List.append_assoc, List.filterMap_append]
    rfl
  · rw [wire, wire, World.note_log, World.connected_log, List.append_assoc, List.filterMap_append]
    rfl
  · rfl
  · simp

end Growth

section Attempts

variable (around : Surroundings) (target : Target) (requestBytes : List UInt8)

/-- One attempt opens at most one connection, and has no answer when it fails. -/
theorem connect_and_forward_grew (route : Route) (world : World) :
    ∃ routes sent,
      Grew requestBytes world
          (runAlone around (connectAndForward target requestBytes route) world).2 routes sent ∧
        routes.Sublist [route] ∧
          ((verdictOf (runAlone around
              (connectAndForward target requestBytes route) world).1).attempted = .failed →
            ∀ one ∈ sent, one.answered = false) := by
  rw [connectAndForward, alone_bind, alone_establish]
  cases around.connect world.connects route target.host target.port with
  | ok upstream =>
      simp only [replyOf, alone_forward_through]
      refine ⟨[route], _, grew_exchanged world route _ _ _ _, List.Sublist.refl _, ?_⟩
      cases around.exchange upstream target.host target.isHttps requestBytes with
      | ok response =>
          intro failed
          cases failed
      | err message => simp [Outcome.isOk]
      | panic => simp [Outcome.isOk]
      | hang => simp [Outcome.isOk]
  | err message =>
      exact ⟨[], [], grew_unopened world route _ _, List.nil_sublist _,
        fun _ => List.forall_mem_nil _⟩
  | panic =>
      exact ⟨[], [], grew_unopened world route _ _, List.nil_sublist _,
        fun _ => List.forall_mem_nil _⟩
  | hang =>
      exact ⟨[], [], grew_unopened world route _ _, List.nil_sublist _,
        fun _ => List.forall_mem_nil _⟩

theorem visit_grew (candidate : Candidate) (world : World) :
    ∃ routes sent,
      Grew requestBytes world
          (visit around (connectAndForward target requestBytes) world candidate).after routes sent ∧
        routes.Sublist [candidate.route] ∧
          ((visit around (connectAndForward target requestBytes) world
                candidate).verdict.attempted = .failed →
            ∀ one ∈ sent, one.answered = false) := by
  cases candidate with
  | direct => exact connect_and_forward_grew around target requestBytes .direct world
  | via channel =>
      rw [visit]
      by_cases retry : channel.shouldRetry (around.clock world.reads) = true
      · rcases connect_and_forward_grew around target requestBytes
          (.upstream channel.id channel.dsn) world.tick with ⟨routes, sent, grew, once, unanswered⟩
        simp only [if_pos retry]
        revert grew unanswered
        rcases runAlone around
          (connectAndForward target requestBytes (.upstream channel.id channel.dsn)) world.tick with
          ⟨outcome, after⟩
        intro grew unanswered
        refine ⟨routes, sent, ?_, once, unanswered⟩
        cases outcome with
        | none => exact grew.tick
        | some outcome => exact grew.tick.mark _ _ _
      · simp only [if_neg retry]
        exact ⟨[], [], (Grew.nothing world.tick).tick, List.nil_sublist _,
          fun _ => List.forall_mem_nil _⟩

/-- Over a plan the routes follow the candidates, and only the last exchange can
have been answered. -/
theorem policy_grew (plan : List Candidate) (world : World) :
    ∃ routes sent,
      Grew requestBytes world (conclude world
          (policy around (connectAndForward target requestBytes) plan world)).2 routes sent ∧
        routes.Sublist (plan.map Candidate.route) ∧
          ∀ one ∈ sent.dropLast, one.answered = false := by
  apply policy_induction around (connectAndForward target requestBytes)
    (motive := fun plan world visits => ∃ routes sent,
      Grew requestBytes world (conclude world visits).2 routes sent ∧
        routes.Sublist (plan.map Candidate.route) ∧
          ∀ one ∈ sent.dropLast, one.answered = false)
  · intro world
    exact ⟨[], [], Grew.nothing world, List.Sublist.refl _, List.forall_mem_nil _⟩
  · intro candidate rest world stopped
    obtain ⟨routes, sent, grew, once, _⟩ := visit_grew around target requestBytes candidate world
    rw [conclude_stopped stopped]
    refine ⟨routes, sent, grew, once.trans (by simp), ?_⟩
    intro one member
    have few : sent.dropLast.length = 0 := by
      have within := once.length_le
      rw [grew.fits, List.length_singleton] at within
      rw [List.length_dropLast]
      omega
    rw [List.eq_nil_of_length_eq_zero few] at member
    cases member
  · intro candidate rest world later failed ih
    obtain ⟨routes, sent, grew, once, unanswered⟩ :=
      visit_grew around target requestBytes candidate world
    obtain ⟨routes', sent', grew', onces, unansweredLater⟩ := ih
    rw [conclude_failed failed]
    refine ⟨routes ++ routes', sent ++ sent', grew.trans grew', once.append onces, ?_⟩
    intro one member
    cases sent' with
    | nil =>
        rw [List.append_nil] at member
        exact unanswered failed one (List.mem_of_mem_dropLast member)
    | cons next behind =>
        rw [List.dropLast_append_of_ne_nil (by simp)] at member
        rcases List.mem_append.mp member with inFirst | inLater
        · exact unanswered failed one inFirst
        · exact unansweredLater one inLater

end Attempts

theorem routes_once {dsns : List Dsn} {channels : List Channel} (inPlace : InPlace dsns channels)
    (service : Service) (host : String) (port : UInt16) :
    ((candidates service channels host port).map Candidate.route).Nodup := by
  have ids := candidates_once inPlace service host port
  rw [List.Nodup, List.pairwise_map] at ids ⊢
  apply ids.imp
  intro one other different same
  cases one with
  | direct => cases other <;> simp_all [Candidate.id, Candidate.route]
  | via channel => cases other <;> simp_all [Candidate.id, Candidate.route]

/-- What the log of a request shows about the bytes it was sent as. -/
structure SentInTurn (requestBytes : List UInt8) (log : List Event) : Prop where
  same_bytes : ∀ one ∈ sends log, one.requestBytes = requestBytes
  one_connection_each : wire log = inTurn (openings log) (sends log)
  each_route_once : (openings log).Nodup
  until_answered : ∀ one ∈ (sends log).dropLast, one.answered = false

theorem forward_attempts_grew (around : Surroundings) (service : Service) (target : Target)
    (requestBytes : List UInt8) (world : World) :
    ∃ routes sent,
      Grew requestBytes world
          (runAlone around (forwardAttempts target requestBytes service) world).2 routes sent ∧
        routes.Sublist
            ((candidates service world.channels target.host target.port).map Candidate.route) ∧
          ∀ one ∈ sent.dropLast, one.answered = false := by
  rw [forward_attempts_leave]
  exact policy_grew around target requestBytes _ world

theorem forward_attempts_sent (around : Surroundings) (service : Service) {dsns : List Dsn}
    {channels : List Channel} (inPlace : InPlace dsns channels) (target : Target)
    (requestBytes : List UInt8) :
    SentInTurn requestBytes
      (runAlone around (forwardAttempts target requestBytes service)
        (World.initial channels)).2.log := by
  obtain ⟨routes, sent, grew, once, unanswered⟩ :=
    forward_attempts_grew around service target requestBytes (World.initial channels)
  have written : sends _ = sent := grew.sends
  have opened : openings _ = routes := grew.openings
  have carried : wire _ = inTurn routes sent := grew.wire
  constructor
  · rw [written]
    exact grew.same_bytes
  · rw [written, opened]
    exact carried
  · rw [opened]
    exact once.nodup (routes_once inPlace service target.host target.port)
  · rw [written]
    exact unanswered

theorem SentInTurn.one_complete {requestBytes : List UInt8} {log : List Event}
    (sent : SentInTurn requestBytes log)
    (noneCut : ∀ one ∈ sends log, one.complete = true → one.answered = true) :
    ((sends log).filter Sent.complete).length ≤ 1 := by
  have earlier : (sends log).dropLast.filter Sent.complete = [] := by
    rw [List.filter_eq_nil_iff]
    intro one member complete
    have answered := noneCut one (List.mem_of_mem_dropLast member) complete
    rw [sent.until_answered one member] at answered
    cases answered
  cases found : (sends log).getLast? with
  | none =>
      rw [List.getLast?_eq_none_iff] at found
      simp [found]
  | some last =>
      rw [← List.dropLast_append_getLast? last found, List.filter_append, earlier, List.nil_append]
      exact List.length_filter_le _ _

theorem path_forward_log (around : Surroundings) {service : Service} {request : ClientRequest}
    {target : Target} {body : List UInt8}
    (targeted : pathTarget service.parseUrl request.uri = .ok target)
    (collected : request.body = .ok body) (world : World) :
    (runAlone around (handlePathForward service request) world).2.log =
      (runAlone around (forwardAttempts target
        (requestBytes request.method target request.headers body) service) world).2.log := by
  rw [handle_path_forward_attempts targeted collected, alone_bind]
  rcases runAlone around (forwardAttempts target
    (requestBytes request.method target request.headers body) service) world with ⟨outcome, after⟩
  cases outcome with
  | none => rfl
  | some outcome => cases outcome <;> rfl

theorem path_forward_sends_nothing (around : Surroundings) (service : Service)
    (request : ClientRequest) (world : World)
    (refused : ∀ target body, pathTarget service.parseUrl request.uri = .ok target →
      request.body ≠ .ok body) :
    (runAlone around (handlePathForward service request) world).2 = world := by
  unfold handlePathForward
  cases targeted : pathTarget service.parseUrl request.uri with
  | error rejection => cases rejection <;> rfl
  | ok target =>
      cases collected : request.body with
      | error message => rfl
      | ok body => exact absurd collected (refused target body targeted)

/-- A request goes out once over a route and goes on only behind a failure. A
second complete copy is written only after an exchange that failed behind a
complete one. -/
theorem request_resent_only_after_failure (around : Surroundings) (service : Service)
    (request : ClientRequest) (dsns : List Dsn) (channels : List Channel)
    (inPlace : InPlace dsns channels) :
    let log := (runAlone around (handlePathForward service request) (World.initial channels)).2.log
    (log = [] ∨ ∃ target body, pathTarget service.parseUrl request.uri = .ok target ∧
        request.body = .ok body ∧
          SentInTurn (requestBytes request.method target request.headers body) log) ∧
      ((∀ one ∈ sends log, one.complete = true → one.answered = true) →
        ((sends log).filter Sent.complete).length ≤ 1) := by
  intro log
  by_cases refused : ∀ target body, pathTarget service.parseUrl request.uri = .ok target →
      request.body ≠ .ok body
  · have nothing : log = [] := by
      rw [show log = _ from congrArg World.log (path_forward_sends_nothing around service request
        (World.initial channels) refused)]
      rfl
    rw [nothing]
    exact ⟨.inl rfl, fun _ => Nat.zero_le 1⟩
  · push Not at refused
    obtain ⟨target, body, targeted, collected⟩ := refused
    have sent := forward_attempts_sent around service inPlace target
      (requestBytes request.method target request.headers body)
    rw [← path_forward_log around targeted collected] at sent
    exact ⟨.inr ⟨target, body, targeted, collected, sent⟩, sent.one_complete⟩

section Cut

variable {target : Target} (plain : target.isHttps = false) (requestBytes : List UInt8)

include plain

theorem cut_attempt (route : Route) (world : World) :
    runAlone cutSurroundings (connectAndForward target requestBytes route) world =
      (some (.error "read headers: connection reset"),
        (world.connected route target.host target.port true).note
          (.exchanged requestBytes true false)) := by
  have opened : cutSurroundings.connect world.connects route target.host target.port =
      .ok cutStream := rfl
  rw [connectAndForward, alone_bind, alone_establish]
  simp only [opened, replyOf, alone_forward_through, plain, exchange_over_cut_stream,
    sent_over_cut_stream]
  rfl

theorem cut_request_sent_twice :
    sends (runAlone cutSurroundings (forwardAttempts target requestBytes exampleService)
        (World.initial (channelsOf [localSocks]))).2.log =
      [⟨requestBytes, true, false⟩, ⟨requestBytes, true, false⟩] := by
  have plan : candidates exampleService (channelsOf [localSocks]) target.host target.port =
      [.direct, .via (Channel.new 0 localSocks)] := rfl
  have closed : ∀ now, (Channel.new 0 localSocks).shouldRetry now = true := fun _ => rfl
  rw [forward_attempts_leave]
  have start : (World.initial (channelsOf [localSocks])).channels = channelsOf [localSocks] := rfl
  rw [start, plan]
  simp only [policy, visit, cut_attempt plain, closed, if_true]
  rfl

end Cut

def postRequest : ClientRequest :=
  { getRequest "/http://example.com/a" with
    method := "POST"
    method_unbroken := post_unbroken }

/-- A `POST` whose response is cut off on the direct connection goes out again
through the channel. -/
theorem post_sent_twice :
    ¬ ∀ (around : Surroundings) (service : Service) (request : ClientRequest) (dsns : List Dsn),
      request.method = "POST" →
        ((sends (runAlone around (handlePathForward service request)
          (World.initial (channelsOf dsns))).2.log).filter Sent.complete).length ≤ 1 := by
  intro atMostOnce
  have once := atMostOnce cutSurroundings exampleService postRequest [localSocks] rfl
  rcases path_request_target exampleService example_url_parses postRequest false "example.com"
    "example.com" none "/a" none rfl rfl (by decide) (by decide) rfl with
    ⟨target, targeted, _, _, plain, _⟩
  have empty : postRequest.body = .ok [] := rfl
  rw [path_forward_log cutSurroundings targeted empty, cut_request_sent_twice plain] at once
  exact absurd once (by simp)

theorem post_resent_only_after_failure :
    let log := (runAlone cutSurroundings (handlePathForward exampleService postRequest)
      (World.initial (channelsOf [localSocks]))).2.log
    (log = [] ∨ ∃ target body, pathTarget exampleService.parseUrl postRequest.uri = .ok target ∧
        postRequest.body = .ok body ∧
          SentInTurn (requestBytes postRequest.method target postRequest.headers body) log) ∧
      ((∀ one ∈ sends log, one.complete = true → one.answered = true) →
        ((sends log).filter Sent.complete).length ≤ 1) :=
  request_resent_only_after_failure cutSurroundings exampleService postRequest [localSocks]
    (channelsOf [localSocks]) (channels_of_in_place _)

end MultiProxy.RepeatedSends
