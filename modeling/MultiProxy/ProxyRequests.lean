import MultiProxy.ChannelHealth
import MultiProxy.InteractionPrograms
import MultiProxy.PathRequest
import MultiProxy.StreamingResponse

/-!
# Requests and health checks as programs

What a task of the proxy asks of its surroundings: the shared channel list, the
clock, a connection over some route, an exchange over a connection. Everything
between two such calls is computed here as the source computes it.
-/

namespace MultiProxy.ProxyRequests

open MultiProxy.RustRuntime MultiProxy.LossyText MultiProxy.DuplexStream MultiProxy.UpstreamDsn
open MultiProxy.InteractionPrograms MultiProxy.InteractionPrograms.Program
open MultiProxy.ChannelHealth MultiProxy.PathRequest MultiProxy.StreamingResponse

set_option autoImplicit false

/-! ## Calls -/

/-- Where a connection goes through. Only the DSN of an upstream is used to
connect; its id is what the channel is marked by. -/
inductive Route where
  | direct
  | upstream (id : Nat) (dsn : Dsn)
  deriving DecidableEq, Repr

inductive Call where
  | channels
  | now
  | establish (route : Route) (host : String) (port : UInt16)
  | forward (upstream : Duplex) (host : String) (isHttps : Bool) (requestBytes : List UInt8)
  | mark (id : Nat) (healthy : Bool)
  | joinNext (set : List (Nat × Dsn))

/-- A joined probe is named by its position in the set; one that panicked has no
result. -/
abbrev Reply : Call → Type
  | .channels => List Channel
  | .now => Instant
  | .establish _ _ _ => Except String Duplex
  | .forward _ _ _ _ => Except String Response
  | .mark _ _ => Unit
  | .joinNext _ => Option (Nat × Option Bool)

abbrev Proxy (Value : Type) : Type := Program Call Reply Value

def snapshot : Proxy (List Channel) := perform Call.channels

def readClock : Proxy Instant := perform Call.now

def establish (route : Route) (host : String) (port : UInt16) : Proxy (Except String Duplex) :=
  perform (Call.establish route host port)

def forwardThrough (upstream : Duplex) (host : String) (isHttps : Bool)
    (requestBytes : List UInt8) : Proxy (Except String Response) :=
  perform (Call.forward upstream host isHttps requestBytes)

def markHealthy (id : Nat) : Proxy Unit := perform (Call.mark id true)

def markUnhealthy (id : Nat) : Proxy Unit := perform (Call.mark id false)

def joinNext (set : List (Nat × Dsn)) : Proxy (Option (Nat × Option Bool)) :=
  perform (Call.joinNext set)

section Calls

variable {Value : Type}

@[simp] theorem snapshot_bind (next : List Channel → Proxy Value) :
    (snapshot >>= next) = call Call.channels next := rfl

@[simp] theorem read_clock_bind (next : Instant → Proxy Value) :
    (readClock >>= next) = call Call.now next := rfl

@[simp] theorem establish_bind (route : Route) (host : String) (port : UInt16)
    (next : Except String Duplex → Proxy Value) :
    (establish route host port >>= next) = call (Call.establish route host port) next := rfl

@[simp] theorem mark_healthy_bind (id : Nat) (next : Unit → Proxy Value) :
    (markHealthy id >>= next) = call (Call.mark id true) next := rfl

@[simp] theorem mark_unhealthy_bind (id : Nat) (next : Unit → Proxy Value) :
    (markUnhealthy id >>= next) = call (Call.mark id false) next := rfl

@[simp] theorem join_next_bind (set : List (Nat × Dsn))
    (next : Option (Nat × Option Bool) → Proxy Value) :
    (joinNext set >>= next) = call (Call.joinNext set) next := rfl

end Calls

/-- What the proxy was started with, and the two libraries it computes with. -/
structure Service where
  directFirst : Bool
  strategy : Strategy
  sha256 : List UInt8 → Vector UInt8 32
  parseUrl : String → Except String Url

def Service.ordered (service : Service) (all : List Channel) (host : String) (port : UInt16) :
    List Channel :=
  orderedChannels service.sha256 service.strategy all (hostPort host port)

/-- The early return of a success; a failure goes on with the last error. -/
def orElse {Value : Type} (first : Proxy (Except String Value))
    (later : String → Proxy (Except String Value)) : Proxy (Except String Value) := do
  match ← first with
  | .ok value => pure (.ok value)
  | .error lastErr => later lastErr

/-! ## CONNECT -/

/-- The direct attempt, where the settings place one. Its error is not kept. -/
def tunnelDirectly (wanted : Bool) (host : String) (port : UInt16) (lastErr : String) :
    Proxy (Except String Duplex) := do
  if wanted then
    match ← establish .direct host port with
    | .ok stream => pure (.ok stream)
    | .error _ => pure (.error lastErr)
  else
    pure (.error lastErr)

/-- The channel loop: a tunnel, or the last error. -/
def tunnelThrough (host : String) (port : UInt16) :
    List Channel → String → Proxy (Except String Duplex)
  | [], lastErr => pure (.error lastErr)
  | channel :: rest, lastErr => do
      let now ← readClock
      if channel.shouldRetry now then
        match ← establish (.upstream channel.id channel.dsn) host port with
        | .ok stream => do
            markHealthy channel.id
            pure (.ok stream)
        | .error message => do
            markUnhealthy channel.id
            tunnelThrough host port rest message
      else
        tunnelThrough host port rest lastErr

def acquireTunnel (service : Service) (host : String) (port : UInt16) :
    Proxy (Except String Duplex) :=
  orElse (tunnelDirectly service.directFirst host port "") fun lastErr => do
    let all ← snapshot
    orElse (tunnelThrough host port (service.ordered all host port) lastErr) fun lastErr =>
      orElse (tunnelDirectly (!service.directFirst) host port lastErr) fun lastErr =>
        pure (.error (if lastErr = "" then "no usable upstream" else lastErr))

/-! ## Path-style forwarding -/

section Forward

variable (target : Target) (requestBytes : List UInt8)

def forwardDirectly (wanted : Bool) (lastErr : String) : Proxy (Except String Response) := do
  if wanted then
    match ← establish .direct target.host target.port with
    | .ok upstream => forwardThrough upstream target.host target.isHttps requestBytes
    | .error _ => pure (.error lastErr)
  else
    pure (.error lastErr)

/-- The channel loop: a response, or the last error. -/
def forwardThroughChannels : List Channel → String → Proxy (Except String Response)
  | [], lastErr => pure (.error lastErr)
  | channel :: rest, lastErr => do
      let now ← readClock
      if channel.shouldRetry now then
        match ← establish (.upstream channel.id channel.dsn) target.host target.port with
        | .ok upstream => do
            match ← forwardThrough upstream target.host target.isHttps requestBytes with
            | .ok response => do
                markHealthy channel.id
                pure (.ok response)
            | .error message => do
                markUnhealthy channel.id
                forwardThroughChannels rest message
        | .error message => do
            markUnhealthy channel.id
            forwardThroughChannels rest message
      else
        forwardThroughChannels rest lastErr

def forwardAttempts (service : Service) : Proxy (Except String Response) :=
  orElse (forwardDirectly target requestBytes service.directFirst "") fun lastErr => do
    let all ← snapshot
    orElse (forwardThroughChannels target requestBytes
        (service.ordered all target.host target.port) lastErr) fun lastErr =>
      forwardDirectly target requestBytes (!service.directFirst) lastErr

end Forward

/-- What the service call comes back with. A tunnel is the 200 answer whose
connection is copied to the stream. -/
inductive Answer where
  | relayed (response : Response)
  | tunnel (upstream : Duplex)
  | fixed (status : Nat) (contentType : String) (body : String)

def errorResponse (status : Nat) (message : String) : Answer := .fixed status "text/plain" message

def handlePathForward (service : Service) (request : ClientRequest) :
    Proxy (Except String Answer) := do
  match pathTarget service.parseUrl request.uri with
  | .error (.badRequest message) => pure (.ok (errorResponse 400 message))
  | .error (.invalidInput message) => pure (.error message)
  | .ok target =>
      match request.body with
      | .error message => pure (.error s!"Failed to read body: {message}")
      | .ok body => do
          match ← forwardAttempts target
              (requestBytes request.method target request.headers body) service with
          | .ok response => pure (.ok (.relayed response))
          | .error lastErr => pure (.ok (errorResponse 502 s!"All channels failed: {lastErr}"))

theorem handle_path_forward_attempts {service : Service} {request : ClientRequest} {target : Target}
    {body : List UInt8} (targeted : pathTarget service.parseUrl request.uri = .ok target)
    (collected : request.body = .ok body) :
    handlePathForward service request =
      (forwardAttempts target (requestBytes request.method target request.headers body) service >>=
        fun attempted =>
          match attempted with
          | .ok response => pure (.ok (.relayed response))
          | .error lastErr =>
              pure (.ok (errorResponse 502 s!"All channels failed: {lastErr}"))) := by
  rw [handlePathForward, targeted]
  simp only [collected]

def handleConnect (service : Service) (host : String) (port : UInt16) :
    Proxy (Except String Answer) := do
  match ← acquireTunnel service host port with
  | .ok upstream => pure (.ok (.tunnel upstream))
  | .error _ => pure (.ok (errorResponse 502 "No usable upstream for CONNECT"))

/-! ## Dispatch -/

def parsePort (text : List Char) : Except String UInt16 :=
  match parseU16 text with
  | some port => .ok port
  | none => .error "Invalid port"

/-- `host:port` of a CONNECT request; an IPv6 host stands in brackets. -/
def parseAuthority (authority : String) : Except String (String × UInt16) :=
  match authority.toList with
  | '[' :: inner =>
      let host := inner.takeWhile (· ≠ ']')
      match inner.dropWhile (· ≠ ']') with
      | [] => .error "Unclosed IPv6 bracket"
      | [_] => .error "Missing port after IPv6 address"
      | _ :: rest =>
          (parsePort (rest.dropWhile (· = ':'))).map fun port => (String.ofList host, port)
  | chars =>
      match chars.reverse.dropWhile (· ≠ ':') with
      | [] => .error "Missing port in authority"
      | _ :: host => do
          let port ← parsePort (chars.reverse.takeWhile (· ≠ ':')).reverse
          if host = [] then .error "Empty host" else .ok (String.ofList host.reverse, port)

def handleRequest (service : Service) (request : ClientRequest) : Proxy (Except String Answer) := do
  if request.uri.path = "/health" then
    let now ← readClock
    let healthy := (healthyChannels (← snapshot) now).length
    let total := (← snapshot).length
    let body := s!"\x7b\"status\":\"ok\",\"healthy\":{healthy},\"total\":{total}\x7d"
    pure (.ok (.fixed 200 "application/json" body))
  else
    let authority := request.uri.authority.getD ""
    if request.method = "CONNECT" ∧ authority ≠ "" then
      match parseAuthority authority with
      | .error message => pure (.error message)
      | .ok (host, port) => handleConnect service host port
    else
      handlePathForward service request

section Dispatch

variable (service : Service) {request : ClientRequest} (notHealth : request.uri.path ≠ "/health")

include notHealth

theorem handle_request_tunnels
    (tunnel : request.method = "CONNECT" ∧ request.uri.authority.getD "" ≠ "") :
    handleRequest service request =
      match parseAuthority (request.uri.authority.getD "") with
      | .error message => pure (.error message)
      | .ok (host, port) => handleConnect service host port := by
  unfold handleRequest
  exact (if_neg notHealth).trans (if_pos tunnel)

theorem handle_request_forwards
    (forward : ¬ (request.method = "CONNECT" ∧ request.uri.authority.getD "" ≠ "")) :
    handleRequest service request = handlePathForward service request := by
  unfold handleRequest
  exact (if_neg notHealth).trans (if_neg forward)

end Dispatch

/-! ## Health checks -/

/-- Joins the probes of a set, which shrinks with each of them. -/
def joinProbes : Nat → List (Nat × Dsn) → Proxy Unit
  | 0, _ => pure ()
  | count + 1, set => do
      match ← joinNext set with
      | none => pure ()
      | some (position, result) =>
          match set[position]?, result with
          | some (id, _), some true => do
              markHealthy id
              joinProbes count (set.eraseIdx position)
          | some (id, _), some false => do
              markUnhealthy id
              joinProbes count (set.eraseIdx position)
          | _, _ => joinProbes count (set.eraseIdx position)

/-- One pass: every channel of a snapshot is probed under its id. -/
def runCheck : Proxy Unit := do
  let channels ← snapshot
  joinProbes channels.length (channels.map fun channel => (channel.id, channel.dsn))

end MultiProxy.ProxyRequests
