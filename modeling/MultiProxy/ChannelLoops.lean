import MultiProxy.ProxyRequests

/-!
# One channel loop

Both request styles walk over their channels in the same way and differ in how
they attempt one. The loop is stated once with the attempt as its parameter, and
so is what a request may call.
-/

namespace MultiProxy.ChannelLoops

open MultiProxy.RustRuntime MultiProxy.DuplexStream MultiProxy.UpstreamDsn
open MultiProxy.InteractionPrograms MultiProxy.InteractionPrograms.Program
open MultiProxy.ChannelHealth MultiProxy.PathRequest MultiProxy.StreamingResponse
open MultiProxy.ProxyRequests

set_option autoImplicit false

variable {Value : Type}

/-! ## The loop -/

/-- One turn: the attempt, its mark, and then the end or the rest of the loop. -/
def turn (attempt : Route → Proxy (Except String Value)) (channel : Channel)
    (later : String → Proxy (Except String Value)) : Proxy (Except String Value) := do
  match ← attempt (.upstream channel.id channel.dsn) with
  | .ok value => do
      markHealthy channel.id
      pure (.ok value)
  | .error message => do
      markUnhealthy channel.id
      later message

def channelLoop (attempt : Route → Proxy (Except String Value)) :
    List Channel → String → Proxy (Except String Value)
  | [], lastErr => pure (.error lastErr)
  | channel :: rest, lastErr => do
      let now ← readClock
      if channel.shouldRetry now then turn attempt channel (channelLoop attempt rest)
      else channelLoop attempt rest lastErr

theorem channel_loop_nil (attempt : Route → Proxy (Except String Value)) (lastErr : String) :
    channelLoop attempt [] lastErr = pure (.error lastErr) := by
  rw [channelLoop]

theorem channel_loop_cons (attempt : Route → Proxy (Except String Value)) (channel : Channel)
    (rest : List Channel) (lastErr : String) :
    channelLoop attempt (channel :: rest) lastErr = call Call.now fun now =>
      if channel.shouldRetry now then turn attempt channel (channelLoop attempt rest)
      else channelLoop attempt rest lastErr := by
  rw [channelLoop, read_clock_bind]

/-- The loop of `acquire_tunnel` attempts bare connections. -/
theorem tunnel_through_is_loop (host : String) (port : UInt16) (channels : List Channel)
    (lastErr : String) :
    tunnelThrough host port channels lastErr =
      channelLoop (establish · host port) channels lastErr := by
  induction channels generalizing lastErr with
  | nil => rfl
  | cons channel rest ih =>
      rw [tunnelThrough, channelLoop]
      apply congrArg (readClock >>= ·)
      funext now
      by_cases retry : channel.shouldRetry now = true
      · rw [if_pos retry, if_pos retry, turn, establish_bind, establish_bind]
        apply congrArg (call _)
        funext connected
        cases connected with
        | ok stream => rfl
        | error message => simp only [ih]
      · rw [if_neg retry, if_neg retry, ih]

/-- An attempt of the forwarding loops: a connection and an exchange over it. -/
def connectAndForward (target : Target) (requestBytes : List UInt8) (route : Route) :
    Proxy (Except String Response) := do
  match ← establish route target.host target.port with
  | .ok upstream => forwardThrough upstream target.host target.isHttps requestBytes
  | .error message => pure (.error message)

theorem forward_through_channels_is_loop (target : Target) (requestBytes : List UInt8)
    (channels : List Channel) (lastErr : String) :
    forwardThroughChannels target requestBytes channels lastErr =
      channelLoop (connectAndForward target requestBytes) channels lastErr := by
  induction channels generalizing lastErr with
  | nil => rfl
  | cons channel rest ih =>
      rw [forwardThroughChannels, channelLoop]
      apply congrArg (readClock >>= ·)
      funext now
      by_cases retry : channel.shouldRetry now = true
      · rw [if_pos retry, if_pos retry, turn, connectAndForward, establish_bind, establish_bind,
          call_bind]
        apply congrArg (call _)
        funext connected
        cases connected with
        | error message =>
            simp only [ih]
            rfl
        | ok upstream =>
            simp only [forwardThrough, perform_bind]
            apply congrArg (call _)
            funext answered
            cases answered with
            | ok response => rfl
            | error message => simp only [ih]
      · rw [if_neg retry, if_neg retry, ih]

/-! ## What is called -/

/-- The mark is the one call that changes a channel. -/
def NoMark : Call → Prop
  | .mark _ _ => False
  | _ => True

/-- Snapshots, clock readings and marks are allowed. -/
structure Bookkeeping (allowed : Call → Prop) : Prop where
  snapshot : allowed .channels
  clock : allowed .now
  marks : ∀ id healthy, allowed (.mark id healthy)

section Calls

variable {allowed : Call → Prop}

theorem or_else_calls {first : Proxy (Except String Value)}
    {later : String → Proxy (Except String Value)} (firstCalls : EveryCall allowed first)
    (laterCalls : ∀ lastErr, EveryCall allowed (later lastErr)) :
    EveryCall allowed (orElse first later) := by
  apply every_call_bind firstCalls
  intro outcome
  cases outcome with
  | ok value => trivial
  | error lastErr => exact laterCalls lastErr

theorem channel_loop_calls (bookkeeping : Bookkeeping allowed)
    {attempt : Route → Proxy (Except String Value)}
    (attempts : ∀ route, EveryCall allowed (attempt route))
    (channels : List Channel) (lastErr : String) :
    EveryCall allowed (channelLoop attempt channels lastErr) := by
  induction channels generalizing lastErr with
  | nil => trivial
  | cons channel rest ih =>
      rw [channel_loop_cons]
      refine ⟨bookkeeping.clock, ?_⟩
      intro now
      dsimp only
      split
      · apply every_call_bind (attempts _)
        intro outcome
        cases outcome with
        | ok value => exact ⟨bookkeeping.marks _ _, fun _ => trivial⟩
        | error message => exact ⟨bookkeeping.marks _ _, fun _ => ih message⟩
      · exact ih lastErr

section Tunnel

variable {host : String} {port : UInt16}
    (establishes : ∀ route, allowed (.establish route host port))

include establishes

theorem establish_calls (route : Route) : EveryCall allowed (establish route host port) :=
  ⟨establishes route, fun _ => trivial⟩

theorem tunnel_directly_calls (wanted : Bool) (lastErr : String) :
    EveryCall allowed (tunnelDirectly wanted host port lastErr) := by
  cases wanted with
  | false => trivial
  | true =>
      constructor
      · exact establishes .direct
      · intro connected
        cases connected with
        | ok stream => trivial
        | error message => trivial

theorem acquire_tunnel_calls (bookkeeping : Bookkeeping allowed) (service : Service) :
    EveryCall allowed (acquireTunnel service host port) := by
  apply or_else_calls (tunnel_directly_calls establishes _ _)
  intro lastErr
  refine ⟨bookkeeping.snapshot, ?_⟩
  intro all
  have through := channel_loop_calls bookkeeping (establish_calls establishes)
    (service.ordered all host port) lastErr
  rw [← tunnel_through_is_loop] at through
  apply or_else_calls through
  intro lastErr
  apply or_else_calls (tunnel_directly_calls establishes _ _)
  intro lastErr
  trivial

end Tunnel

theorem acquire_tunnel_connects {service : Service} {host : String} {port : UInt16}
    (calls : EveryCall allowed (acquireTunnel service host port)) :
    allowed (.establish .direct host port) := by
  rw [acquireTunnel] at calls
  cases first : service.directFirst with
  | true =>
      rw [first] at calls
      exact (every_call_of_bind calls).1
  | false =>
      rw [first] at calls
      have direct : EveryCall allowed (tunnelDirectly true host port "") :=
        every_call_of_bind (calls.2 [])
      exact direct.1

section Forward

variable {target : Target} {requestBytes : List UInt8}
  (establishes : ∀ route, allowed (.establish route target.host target.port))
  (exchanges : ∀ upstream, allowed (.forward upstream target.host target.isHttps requestBytes))

include establishes exchanges

theorem connect_and_forward_calls (route : Route) :
    EveryCall allowed (connectAndForward target requestBytes route) := by
  constructor
  · exact establishes route
  · intro connected
    cases connected with
    | ok upstream => exact ⟨exchanges upstream, fun _ => trivial⟩
    | error message => trivial

theorem forward_directly_calls (wanted : Bool) (lastErr : String) :
    EveryCall allowed (forwardDirectly target requestBytes wanted lastErr) := by
  cases wanted with
  | false => trivial
  | true =>
      constructor
      · exact establishes .direct
      · intro connected
        cases connected with
        | error message => trivial
        | ok upstream => exact ⟨exchanges upstream, fun _ => trivial⟩

theorem forward_attempts_calls (bookkeeping : Bookkeeping allowed) (service : Service) :
    EveryCall allowed (forwardAttempts target requestBytes service) := by
  apply or_else_calls (forward_directly_calls establishes exchanges _ _)
  intro lastErr
  refine ⟨bookkeeping.snapshot, ?_⟩
  intro all
  have through := channel_loop_calls bookkeeping (connect_and_forward_calls establishes exchanges)
    (service.ordered all target.host target.port) lastErr
  rw [← forward_through_channels_is_loop] at through
  apply or_else_calls through
  intro lastErr
  exact forward_directly_calls establishes exchanges _ _

end Forward

theorem forward_attempts_exchange {target : Target} {requestBytes : List UInt8} {service : Service}
    (calls : EveryCall allowed (forwardAttempts target requestBytes service)) :
    allowed (.establish .direct target.host target.port) ∧
      ∀ upstream, allowed (.forward upstream target.host target.isHttps requestBytes) := by
  have direct : ∀ lastErr, EveryCall allowed (forwardDirectly target requestBytes true lastErr) →
      allowed (.establish .direct target.host target.port) ∧
        ∀ upstream, allowed (.forward upstream target.host target.isHttps requestBytes) := by
    intro lastErr attempts
    exact ⟨attempts.1, fun upstream => (attempts.2 (.ok upstream)).1⟩
  rw [forwardAttempts] at calls
  cases first : service.directFirst with
  | true =>
      rw [first] at calls
      exact direct "" (every_call_of_bind calls)
  | false =>
      rw [first] at calls
      exact direct "" (calls.2 [])

end Calls

/-! ## The two styles of a request -/

def Quiet : Call → Prop
  | .channels => True
  | .now => True
  | _ => False

def connectAnswer : Except String Duplex → Except String Answer
  | .ok upstream => .ok (.tunnel upstream)
  | .error _ => .ok (errorResponse 502 "No usable upstream for CONNECT")

def pathForwardAnswer : Except String Response → Except String Answer
  | .ok response => .ok (.relayed response)
  | .error lastErr => .ok (errorResponse 502 s!"All channels failed: {lastErr}")

/-- A request is answered from the list alone, or it is one of the two request
styles with its outcome made into an answer. -/
theorem handle_request_cases (service : Service) (request : ClientRequest) :
    EveryCall Quiet (handleRequest service request) ∨
      (∃ host port, ∃ answer : Except String Duplex → Except String Answer,
        handleRequest service request =
          (acquireTunnel service host port >>= fun outcome => pure (answer outcome))) ∨
        ∃ target bytes, ∃ answer : Except String Response → Except String Answer,
          handleRequest service request =
            (forwardAttempts target bytes service >>= fun outcome => pure (answer outcome)) := by
  unfold handleRequest
  dsimp only
  split
  · exact .inl ⟨trivial, fun _ => ⟨trivial, fun _ => ⟨trivial, fun _ => trivial⟩⟩⟩
  · split
    · cases parseAuthority (request.uri.authority.getD "") with
      | error message => exact .inl trivial
      | ok destination =>
          refine .inr (.inl ⟨destination.1, destination.2, connectAnswer, ?_⟩)
          apply congrArg (acquireTunnel service destination.1 destination.2 >>= ·)
          funext outcome
          cases outcome <;> rfl
    · unfold handlePathForward
      cases pathTarget service.parseUrl request.uri with
      | error rejection => cases rejection <;> exact .inl trivial
      | ok target =>
          cases request.body with
          | error message => exact .inl trivial
          | ok body =>
              let bytes := requestBytes request.method target request.headers body
              refine .inr (.inr ⟨target, bytes, pathForwardAnswer, ?_⟩)
              apply congrArg (forwardAttempts target bytes service >>= ·)
              funext outcome
              cases outcome <;> rfl

end MultiProxy.ChannelLoops
