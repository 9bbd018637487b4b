import MultiProxy.ChannelHistory
import MultiProxy.RecoveredChannels
import MultiProxy.UpstreamConnections

/-!
# Destinations that an upstream cannot reach

The breaker does not ask why an attempt failed. A report of an unreachable
destination counts against the channel that carried it, once, and against no
other; what it can do to later requests ends with the longest backoff.
-/

namespace MultiProxy.DestinationFailures

open MultiProxy.RustRuntime MultiProxy.DuplexStream MultiProxy.UpstreamDsn
open MultiProxy.InteractionPrograms MultiProxy.InteractionPrograms.Program
open MultiProxy.ChannelHealth MultiProxy.ChannelHistory MultiProxy.PathRequest
open MultiProxy.StreamingResponse MultiProxy.ProxyRequests MultiProxy.ChannelLoops
open MultiProxy.RequestRuns
open MultiProxy.FallbackPolicy MultiProxy.FallbackResults MultiProxy.RecoveredChannels
open MultiProxy.UpstreamConnections MultiProxy.Socks5Tunnel

set_option autoImplicit false

variable {Value : Type}

/-! ## Attempts and marks of one channel -/

def isOver (id : Nat) : Route → Bool
  | .direct => false
  | .upstream other _ => other = id

def triesChannel (id : Nat) : Event → Bool
  | .connected route _ _ _ => isOver id route
  | _ => false

def tries (log : List Event) (id : Nat) : Nat := log.countP (triesChannel id)

/-- A part of a run has marked the channel with the reports, and at most once for
each attempt. Where every attempt fails, each one was marked as a failure. -/
def Counted (failing : Prop) (id : Nat) (before after : World) : Prop :=
  ∃ reports tried,
    after.channels[id]? = before.channels[id]?.map (replay · reports) ∧
      tries after.log id = tries before.log id + tried ∧
        reports.length ≤ tried ∧
          (failing → reports.length = tried ∧ ∀ report ∈ reports, report.healthy = false)

section Counting

variable {failing : Prop} {id : Nat}

theorem counted_of_same {before after : World} (channels : after.channels = before.channels)
    (log : tries after.log id = tries before.log id) : Counted failing id before after := by
  refine ⟨[], 0, ?_, log, le_rfl, fun _ => ⟨rfl, List.forall_mem_nil _⟩⟩
  rw [channels]
  simp

theorem Counted.trans {first second third : World} (earlier : Counted failing id first second)
    (later : Counted failing id second third) : Counted failing id first third := by
  obtain ⟨reports, tried, channel, counted, within, failed⟩ := earlier
  obtain ⟨reports', tried', channel', counted', within', failed'⟩ := later
  refine ⟨reports ++ reports', tried + tried', ?_, ?_, ?_, ?_⟩
  · rw [channel', channel, Option.map_map]
    apply congrArg (Option.map · _)
    funext one
    simp [replay]
  · rw [counted', counted, Nat.add_assoc]
  · rw [List.length_append]
    exact Nat.add_le_add within within'
  · intro fails
    constructor
    · rw [List.length_append, (failed fails).1, (failed' fails).1]
    · intro report member
      rcases List.mem_append.mp member with inEarlier | inLater
      · exact (failed fails).2 report inEarlier
      · exact (failed' fails).2 report inLater

theorem Counted.failures {before after : World} (counted : Counted failing id before after)
    (fails : failing) {channel : Channel} (here : before.channels[id]? = some channel)
    (fresh : tries before.log id = 0) :
    ∃ marked, after.channels[id]? = some marked ∧
      marked.failureCount.toNat =
        min (channel.failureCount.toNat + tries after.log id) u32Max ∧
      marked.health = if tries after.log id = 0 then channel.health else .unhealthy := by
  obtain ⟨reports, tried, marked, total, _, failed⟩ := counted
  obtain ⟨each, unhealthy⟩ := failed fails
  have attempts : tries after.log id = reports.length := by
    rw [total, fresh, each]
    exact Nat.zero_add tried
  have state := replay_failures channel reports unhealthy
  rw [attempts]
  refine ⟨replay channel reports, ?_, state⟩
  rw [marked, here]
  rfl

theorem Counted.untried {before after : World} (counted : Counted failing id before after)
    (untried : tries after.log id = tries before.log id) :
    after.channels[id]? = before.channels[id]? := by
  obtain ⟨reports, tried, marked, total, within, _⟩ := counted
  have nothing : reports = [] := by
    have zero : tried = 0 := by omega
    exact List.eq_nil_of_length_eq_zero (Nat.le_zero.mp (zero ▸ within))
  rw [marked, nothing]
  simp

end Counting

/-! ## Ways of attempting -/

def Outage (around : Surroundings) (host : String) (port : UInt16) (id : Nat) (dsn : Dsn) : Prop :=
  ∀ number, ∃ message, around.connect number (.upstream id dsn) host port = .err message

structure Attempting (around : Surroundings) (attempt : Route → Proxy (Except String Value))
    (host : String) (port : UInt16) : Prop where
  keeps : ∀ route world, (runAlone around (attempt route) world).2.channels = world.channels
  tries : ∀ route world id, tries (runAlone around (attempt route) world).2.log id =
    tries world.log id + (isOver id route).toNat
  fails : ∀ id dsn world, Outage around host port id dsn →
    ∃ message, (runAlone around (attempt (.upstream id dsn)) world).1 = some (.error message)

theorem tries_connected (world : World) (route : Route) (host : String) (port : UInt16)
    (opened : Bool) (id : Nat) :
    tries (world.connected route host port opened).log id =
      tries world.log id + (isOver id route).toNat := by
  rw [tries, World.connected_log, List.countP_append]
  cases carried : isOver id route <;> simp [tries, triesChannel, carried]

theorem establish_attempting (around : Surroundings) (host : String) (port : UInt16) :
    Attempting around (establish · host port) host port := by
  constructor
  · intro route world
    rw [alone_establish]
    rfl
  · intro route world id
    rw [alone_establish]
    exact tries_connected world route host port _ id
  · intro id dsn world outage
    obtain ⟨message, refused⟩ := outage world.connects
    rw [alone_establish, refused]
    exact ⟨message, rfl⟩

theorem connect_and_forward_attempting (around : Surroundings) (target : Target)
    (requestBytes : List UInt8) :
    Attempting around (connectAndForward target requestBytes) target.host target.port := by
  constructor
  · exact connect_and_forward_keeps_channels around target requestBytes
  · intro route world id
    have opened := tries_connected world route target.host target.port
    rw [connectAndForward, alone_bind, alone_establish]
    cases around.connect world.connects route target.host target.port with
    | ok upstream =>
        simp only [replyOf, alone_forward_through]
        rw [tries, World.note_log, List.countP_append]
        exact opened true id
    | err message => exact opened false id
    | panic => exact opened false id
    | hang => exact opened false id
  · intro id dsn world outage
    obtain ⟨message, refused⟩ := outage world.connects
    rw [connectAndForward, alone_bind, alone_establish, refused]
    exact ⟨message, rfl⟩

@[simp] theorem tries_mark (world : World) (marked : Nat) (healthy : Bool) (now : Instant)
    (id : Nat) :
    tries (world.mark marked healthy now).log id = tries world.log id := by
  rw [tries, World.mark_log, List.countP_append]
  rfl

section Way

variable {around : Surroundings} {attempt : Route → Proxy (Except String Value)} {host : String}
  {port : UInt16} (way : Attempting around attempt host port) {failing : Prop} {id : Nat}

include way

theorem visit_counted (candidate : Candidate) (world : World)
    (outage : failing → ∀ channel, candidate = .via channel → channel.id = id →
      Outage around host port id channel.dsn) :
    Counted failing id world (visit around attempt world candidate).after := by
  cases candidate with
  | direct => exact counted_of_same (way.keeps .direct world) (way.tries .direct world id)
  | via channel =>
      have kept := way.keeps (.upstream channel.id channel.dsn) world.tick
      have tried := way.tries (.upstream channel.id channel.dsn) world.tick id
      have fails := way.fails channel.id channel.dsn world.tick
      rw [visit]
      by_cases retry : channel.shouldRetry (around.clock world.reads) = true
      · simp only [if_pos retry]
        revert kept tried fails
        obtain ⟨outcome, after⟩ :=
          runAlone around (attempt (.upstream channel.id channel.dsn)) world.tick
        intro kept tried fails
        by_cases same : channel.id = id
        · subst same
          have once : tries after.log channel.id = tries world.log channel.id + 1 := by
            simpa [isOver] using tried
          cases outcome with
          | none =>
              refine ⟨[], 1, ?_, once, Nat.zero_le 1, ?_⟩
              · rw [kept]
                simp
              · intro failed
                obtain ⟨message, ended⟩ := fails (outage failed channel rfl rfl)
                cases ended
          | some outcome =>
              refine ⟨[⟨outcome.isOk, around.clock after.reads⟩], 1, ?_, ?_, le_rfl, ?_⟩
              · rw [World.mark_channels, mark_channel_at, kept]
                rfl
              · rw [tries_mark, once]
              · intro failed
                obtain ⟨message, ended⟩ := fails (outage failed channel rfl rfl)
                cases ended
                simp [Except.isOk, Except.toBool]
        · have none : tries after.log id = tries world.log id := by
            simpa [isOver, same] using tried
          refine ⟨[], 0, ?_, ?_, le_rfl, fun _ => ⟨rfl, List.forall_mem_nil _⟩⟩
          · cases outcome with
            | none =>
                rw [kept]
                simp
            | some outcome =>
                rw [World.mark_channels, mark_channel_other _ same, kept]
                simp
          · cases outcome with
            | none => exact none
            | some outcome => exact (tries_mark _ _ _ _ _).trans none
      · simp only [if_neg retry]
        exact counted_of_same rfl rfl

theorem policy_counted (plan : List Candidate) (world : World)
    (outage : failing → ∀ channel, .via channel ∈ plan → channel.id = id →
      Outage around host port id channel.dsn) :
    Counted failing id world (conclude world (policy around attempt plan world)).2 := by
  revert outage
  apply policy_induction around attempt
    (motive := fun plan world visits =>
      (failing → ∀ channel, .via channel ∈ plan → channel.id = id →
        Outage around host port id channel.dsn) →
          Counted failing id world (conclude world visits).2)
  · intro world _
    exact counted_of_same rfl rfl
  · intro candidate rest world stopped outage
    rw [conclude_stopped stopped]
    apply visit_counted way candidate world
    rintro failed channel rfl
    exact outage failed channel List.mem_cons_self
  · intro candidate rest world later failed ih outage
    rw [conclude_failed failed]
    have first : Counted failing id world (visit around attempt world candidate).after := by
      apply visit_counted way candidate world
      rintro fails channel rfl
      exact outage fails channel List.mem_cons_self
    apply first.trans
    apply ih
    intro fails channel member
    exact outage fails channel (List.mem_cons_of_mem candidate member)

end Way

/-! ## Whole requests -/

def AsksFor (dead : String → UInt16 → Prop) : Call → Prop
  | .establish _ host port => dead host port
  | _ => True

section Requests

variable {around : Surroundings} {dsns : List Dsn} {dead : String → UInt16 → Prop} {failing : Prop}
  {id : Nat}
  (outage : failing → ∀ host port, dead host port → ∀ dsn, dsns[id]? = some dsn →
    Outage around host port id dsn)

include outage

theorem planned_outage {channels : List Channel} (inPlace : InPlace dsns channels)
    {service : Service} {host : String} {port : UInt16} (asked : dead host port) (fails : failing) :
    ∀ channel, .via channel ∈ candidates service channels host port → channel.id = id →
      Outage around host port id channel.dsn := by
  intro channel member same
  have listed := (in_place_member inPlace (candidate_in_list member)).2
  rw [same] at listed
  exact outage fails host port asked channel.dsn listed

theorem request_counted (service : Service) {request : ClientRequest} {world : World}
    (inPlace : InPlace dsns world.channels)
    (asks : EveryCall (AsksFor dead) (handleRequest service request)) :
    Counted failing id world (runAlone around (handleRequest service request) world).2 := by
  rcases handle_request_cases service request with
    quiet | ⟨host, port, answer, tunnel⟩ | ⟨target, bytes, answer, forward⟩
  · have same := alone_quiet around world quiet
    exact counted_of_same same.1 (by rw [same.2])
  · rw [tunnel] at asks ⊢
    rw [alone_answer, acquire_tunnel_leaves]
    apply policy_counted (establish_attempting around host port)
    have asked : dead host port := acquire_tunnel_connects (every_call_of_bind asks)
    exact planned_outage outage inPlace asked
  · rw [forward] at asks ⊢
    rw [alone_answer, forward_attempts_leave]
    apply policy_counted (connect_and_forward_attempting around target bytes)
    have asked : dead target.host target.port :=
      (forward_attempts_exchange (every_call_of_bind asks)).1
    exact planned_outage outage inPlace asked

theorem requests_counted (service : Service) (requests : List ClientRequest) {world : World}
    (inPlace : InPlace dsns world.channels)
    (asks : ∀ request ∈ requests, EveryCall (AsksFor dead) (handleRequest service request)) :
    Counted failing id world (serveAll around service requests world) := by
  induction requests generalizing world with
  | nil => exact counted_of_same rfl rfl
  | cons request rest ih =>
      have first := request_counted outage service inPlace (asks request List.mem_cons_self)
      apply first.trans
      apply ih (alone_in_place around world _ inPlace)
      intro later member
      exact asks later (List.mem_cons_of_mem request member)

end Requests

/-! ## The longest backoff -/

/-- Every failure that a channel remembers is one of the list before, or was
stamped with a reading of the clock since. -/
def Stamped (around : Surroundings) (before : List Channel) (world : World) : Prop :=
  ∀ channel ∈ world.channels, ∀ last, channel.lastFailure = some last →
    (∃ old ∈ before, old.lastFailure = some last) ∨
      ∃ number, number < world.reads ∧ around.clock number = last

theorem initial_stamped (around : Surroundings) (channels : List Channel) :
    Stamped around channels (World.initial channels) := by
  intro channel member last failed
  exact .inl ⟨channel, member, failed⟩

theorem handle_stamped {around : Surroundings} {before : List Channel} (state : World)
    (request : Call) (stamped : Stamped around before state) :
    Stamped around before (handle around state request).2 := by
  have ticked : Stamped around before state.tick := by
    intro channel member last failed
    rcases stamped channel member last failed with old | ⟨number, earlier, same⟩
    · exact .inl old
    · exact .inr ⟨number, Nat.lt_succ_of_lt earlier, same⟩
  cases request with
  | channels => exact stamped
  | now => exact ticked
  | establish route host port => exact stamped
  | forward upstream host isHttps requestBytes => exact stamped
  | joinNext set =>
      cases set with
      | nil => exact stamped
      | cons probe rest => exact stamped
  | mark id healthy =>
      intro channel member last failed
      rcases mark_channel_member member with inList | ⟨old, inList, rfl⟩
      · exact ticked channel inList last failed
      · cases healthy with
        | true => exact ticked old inList last failed
        | false =>
            refine .inr ⟨state.reads, Nat.lt_succ_self _, ?_⟩
            exact Option.some.inj failed

theorem stamped_may_retry {around later : Surroundings} {before : List Channel} {world : World}
    {limit : Instant} (stamped : Stamped around before world)
    (read : ∀ number < world.reads, around.clock number ≤ limit)
    (failedBefore : ∀ channel ∈ before, ∀ last, channel.lastFailure = some last → last ≤ limit)
    (waited : ∀ number, limit + 300 * 1000000000 ≤ later.clock number) :
    ∀ channel ∈ world.channels, ∀ number, channel.shouldRetry (later.clock number) = true := by
  intro channel member number
  apply Channel.should_retry_after_limit
  intro last failed
  have passed : last ≤ limit := by
    rcases stamped channel member last failed with ⟨old, inBefore, same⟩ | ⟨earlier, since, rfl⟩
    · exact failedBefore old inBefore last same
    · exact read earlier since
  rw [asSecs, Nat.le_div_iff_mul_le (by decide), elapsed]
  apply Nat.le_sub_of_add_le
  calc 300 * 1000000000 + last ≤ 300 * 1000000000 + limit := Nat.add_le_add_left passed _
    _ = limit + 300 * 1000000000 := Nat.add_comm _ _
    _ ≤ later.clock number := waited number

def unreachableReply : ConnectReply where
  code := 0x04
  address := .ipv4 [0, 0, 0, 0] rfl
  port := 0

/-- A SOCKS5 proxy behind every address, which cannot reach one host. -/
def oneDeadHost : Network where
  tcp _ host _ _ :=
    .connected (if host = "dead.example" then answersWith unreachableReply []
      else answersWith ipv4Reply [])
  base64 _ := ""
  ssh _ _ _ _ := .err "SSH connection timeout"

def connectTo (authority : String) : ClientRequest where
  method := "CONNECT"
  uri := { authority := some authority, path := "", query := none }
  headers := []
  body := .ok []
  method_unbroken := connect_unbroken
  headers_well_formed := no_headers_well_formed

def channelsFirst : Service :=
  { PathDestination.exampleService with directFirst := false }

def IsDead (host : String) (_ : UInt16) : Prop := host = "dead.example"

def atOnce : Surroundings := { cutSurroundings with clock := fun _ => 0 }

theorem one_dead_host_reported (number : Nat) (host : String) (port : UInt16)
    (dead : IsDead host port) : ReportsUnreachable oneDeadHost number host port localSocks := by
  cases dead
  exact .socks5 _ (answersWith unreachableReply []) [0x05, 0x00] unreachableReply [] rfl rfl .open_
    (by decide) (by decide) rfl

theorem tunnel_asks {dead : String → UInt16 → Prop} {host : String} {port : UInt16}
    (asked : dead host port) (service : Service) :
    EveryCall (AsksFor dead) (acquireTunnel service host port) := by
  apply acquire_tunnel_calls
  · intro route
    exact asked
  · exact ⟨trivial, trivial, fun _ _ => trivial⟩

theorem connect_to_dead_host_asks :
    EveryCall (AsksFor IsDead) (handleRequest channelsFirst (connectTo "dead.example:443")) := by
  have dead : IsDead "dead.example" 443 := rfl
  apply every_call_bind (tunnel_asks dead channelsFirst)
  intro outcome
  cases outcome <;> trivial

theorem connect_to_live_host_asks :
    EveryCall (AsksFor fun host port => ¬ IsDead host port)
      (handleRequest channelsFirst (connectTo "live.example:443")) := by
  have live : ¬ IsDead "live.example" 443 := by
    unfold IsDead
    decide
  apply every_call_bind (tunnel_asks live channelsFirst)
  intro outcome
  cases outcome <;> trivial

theorem dead_requests_ask :
    ∀ request ∈ [connectTo "dead.example:443"],
      EveryCall (AsksFor IsDead) (handleRequest channelsFirst request) := by
  intro request member
  rw [List.mem_singleton] at member
  subst member
  exact connect_to_dead_host_asks

end MultiProxy.DestinationFailures
