import MultiProxy.ChannelLoops

/-!
# One request at a time

The surroundings of a request that runs alone: the manager's list, a clock that
is read again and again, connections that are opened or fail, exchanges over
them. Everything that reaches the outside is written to a log.
-/

namespace MultiProxy.RequestRuns

open MultiProxy.RustRuntime MultiProxy.DuplexStream MultiProxy.DuplexStream.Exchange
open MultiProxy.UpstreamDsn MultiProxy.InteractionPrograms MultiProxy.InteractionPrograms.Program
open MultiProxy.ChannelHealth MultiProxy.PathRequest MultiProxy.StreamingResponse
open MultiProxy.ProxyRequests MultiProxy.ChannelLoops

set_option autoImplicit false

/-! ## One exchange -/

def sendRequest (requestBytes : List UInt8) : Exchange Unit := do
  mapErr (fun message => s!"write request: {message}") (writeAll requestBytes)
  mapErr (fun message => s!"flush request: {message}") flush

/-- What surrounds a request. `native_tls` wraps a stream, with its error texts;
connections and clock readings are numbered in the order they are asked for. -/
structure Surroundings where
  headerTypes : HeaderTypes
  makeTls : String → Duplex → Outcome Duplex
  clock : Nat → Instant
  connect : Nat → Route → String → UInt16 → Outcome Duplex
  probe : Dsn → Option Bool

namespace Surroundings

variable (around : Surroundings)

def secured (upstream : Duplex) (host : String) (isHttps : Bool) : Outcome Duplex :=
  if isHttps then around.makeTls host upstream else .ok upstream

/-- `forward_through`. -/
def exchange (upstream : Duplex) (host : String) (isHttps : Bool) (requestBytes : List UInt8) :
    Outcome Response :=
  match around.secured upstream host isHttps with
  | .ok stream =>
      ((sendRequest requestBytes >>= fun _ =>
        readStreamingResponse around.headerTypes).run stream).1
  | .err message => .err message
  | .panic => .panic
  | .hang => .hang

/-- The exchange has written and flushed the whole request. -/
def sentCompletely (upstream : Duplex) (host : String) (isHttps : Bool)
    (requestBytes : List UInt8) : Bool :=
  match around.secured upstream host isHttps with
  | .ok stream => ((sendRequest requestBytes).run stream).1.isOk
  | _ => false

/-- A response is only ever read behind a complete request. -/
theorem exchange_sent {upstream : Duplex} {host : String} {isHttps : Bool}
    {requestBytes : List UInt8}
    (answered : (around.exchange upstream host isHttps requestBytes).isOk = true) :
    around.sentCompletely upstream host isHttps requestBytes = true := by
  revert answered
  rw [exchange, sentCompletely]
  cases around.secured upstream host isHttps with
  | ok stream =>
      simp only [Exchange.run_bind]
      obtain ⟨sent, after⟩ := (sendRequest requestBytes).run stream
      cases sent with
      | ok _ => exact fun _ => rfl
      | err message => exact fun answered => absurd answered Bool.false_ne_true
      | panic => exact fun answered => absurd answered Bool.false_ne_true
      | hang => exact fun answered => absurd answered Bool.false_ne_true
  | err message => exact fun answered => absurd answered Bool.false_ne_true
  | panic => exact fun answered => absurd answered Bool.false_ne_true
  | hang => exact fun answered => absurd answered Bool.false_ne_true

/-- Every attempt comes back: connections, and exchanges over what was connected. -/
structure Returning : Prop where
  connects : ∀ number route host port, (around.connect number route host port).Returned
  exchanges : ∀ number route host port upstream isHttps requestBytes,
    around.connect number route host port = .ok upstream →
      (around.exchange upstream host isHttps requestBytes).Returned

end Surroundings

/-- A peer that takes every byte and breaks the connection before it answers. -/
def cutStream : Duplex where
  incoming := [.failure "connection reset"]
  sent := []
  flushed := 0
  writes := []

theorem send_over_cut_stream (requestBytes : List UInt8) :
    (sendRequest requestBytes).run cutStream =
      (.ok (), { cutStream with sent := requestBytes, flushed := requestBytes.length }) := rfl

theorem exchange_over_cut_stream (around : Surroundings) (host : String)
    (requestBytes : List UInt8) :
    around.exchange cutStream host false requestBytes = .err "read headers: connection reset" := by
  let sent : Duplex := { cutStream with sent := requestBytes, flushed := requestBytes.length }
  have broken : gather 4096 headRead [] sent.incoming = (.failure "connection reset", []) := by
    unfold gather
    rfl
  have head : readHead.run sent =
      (.err "read headers: connection reset", { sent with incoming := [] }) := by
    rw [Exchange.run, readHead, broken]
    rfl
  simp only [Surroundings.exchange, Surroundings.secured, Bool.false_eq_true, if_false]
  rw [Exchange.run_bind, send_over_cut_stream, readStreamingResponse]
  exact congrArg Prod.fst (run_bind_err head _)

theorem sent_over_cut_stream (around : Surroundings) (host : String) (requestBytes : List UInt8) :
    around.sentCompletely cutStream host false requestBytes = true := rfl

def localSocks : Dsn := .socks5 { host := "127.0.0.1", port := 1080, user := none, pass := none }

def cutSurroundings : Surroundings where
  headerTypes := { name := fun _ => none, value := fun _ => none }
  makeTls _ _ := .err "TLS handshake: connection reset"
  clock count := count
  connect _ _ _ _ := .ok cutStream
  probe _ := some true

theorem cut_surroundings_return : cutSurroundings.Returning where
  connects _ _ _ _ := trivial
  exchanges := by
    intro number route host port upstream isHttps requestBytes connected
    cases connected
    cases isHttps with
    | true => trivial
    | false =>
        rw [exchange_over_cut_stream]
        trivial

/-! ## The world of a request -/

inductive Event where
  | connected (route : Route) (host : String) (port : UInt16) (opened : Bool)
  | exchanged (requestBytes : List UInt8) (sent answered : Bool)
  | marked (id : Nat) (healthy : Bool) (now : Instant)
  deriving DecidableEq

structure World where
  channels : List Channel
  reads : Nat
  connects : Nat
  log : List Event

namespace World

def initial (channels : List Channel) : World where
  channels := channels
  reads := 0
  connects := 0
  log := []

def tick (world : World) : World := { world with reads := world.reads + 1 }

def note (world : World) (event : Event) : World := { world with log := world.log ++ [event] }

def connected (world : World) (route : Route) (host : String) (port : UInt16) (opened : Bool) :
    World :=
  { world.note (.connected route host port opened) with connects := world.connects + 1 }

def mark (world : World) (id : Nat) (healthy : Bool) (now : Instant) : World :=
  { world.tick.note (.marked id healthy now) with
    channels := markChannel world.channels id healthy now }

@[simp] theorem tick_channels (world : World) : world.tick.channels = world.channels := rfl

@[simp] theorem note_channels (world : World) (event : Event) :
    (world.note event).channels = world.channels := rfl

@[simp] theorem connected_channels (world : World) (route : Route) (host : String) (port : UInt16)
    (opened : Bool) : (world.connected route host port opened).channels = world.channels := rfl

@[simp] theorem connected_log (world : World) (route : Route) (host : String) (port : UInt16)
    (opened : Bool) :
    (world.connected route host port opened).log =
      world.log ++ [.connected route host port opened] := rfl

@[simp] theorem mark_channels (world : World) (id : Nat) (healthy : Bool) (now : Instant) :
    (world.mark id healthy now).channels = markChannel world.channels id healthy now := rfl

@[simp] theorem tick_log (world : World) : world.tick.log = world.log := rfl

@[simp] theorem note_log (world : World) (event : Event) :
    (world.note event).log = world.log ++ [event] := rfl

@[simp] theorem mark_log (world : World) (id : Nat) (healthy : Bool) (now : Instant) :
    (world.mark id healthy now).log = world.log ++ [.marked id healthy now] := rfl

end World

/-- A returned outcome as a reply. A call that panics or never returns ends the
task. -/
def replyOf {Value : Type} : Outcome Value → Option (Except String Value)
  | .ok value => some (.ok value)
  | .err message => some (.error message)
  | .panic => none
  | .hang => none

theorem reply_returned {Value : Type} {outcome : Outcome Value} (returned : outcome.Returned) :
    replyOf outcome ≠ none := by
  intro lost
  cases outcome with
  | ok value => cases lost
  | err message => cases lost
  | panic => cases returned
  | hang => cases returned

def handle (around : Surroundings) (world : World) : (call : Call) → Option (Reply call) × World
  | .channels => (some world.channels, world)
  | .now => (some (around.clock world.reads), world.tick)
  | .establish route host port =>
      let outcome := around.connect world.connects route host port
      (replyOf outcome, world.connected route host port outcome.isOk)
  | .forward upstream host isHttps requestBytes =>
      let outcome := around.exchange upstream host isHttps requestBytes
      (replyOf outcome, world.note (.exchanged requestBytes
        (around.sentCompletely upstream host isHttps requestBytes) outcome.isOk))
  | .mark id healthy => (some (), world.mark id healthy (around.clock world.reads))
  | .joinNext [] => (some none, world)
  | .joinNext ((_, dsn) :: _) => (some (some (0, around.probe dsn)), world)

/-- A program run alone in its surroundings. -/
def runAlone {Value : Type} (around : Surroundings) (program : Proxy Value) (world : World) :
    Option Value × World :=
  program.run (handle around) world

section Calls

variable {Value : Type} (around : Surroundings) (world : World)

@[simp] theorem alone_done (value : Value) :
    runAlone around (.done value) world = (some value, world) := rfl

@[simp] theorem alone_snapshot (next : List Channel → Proxy Value) :
    runAlone around (call Call.channels next) world =
      runAlone around (next world.channels) world := by
  rw [runAlone, run_call]
  rfl

@[simp] theorem alone_read_clock (next : Instant → Proxy Value) :
    runAlone around (call Call.now next) world =
      runAlone around (next (around.clock world.reads)) world.tick := by
  rw [runAlone, run_call]
  rfl

@[simp] theorem alone_mark (id : Nat) (healthy : Bool) (next : Unit → Proxy Value) :
    runAlone around (call (Call.mark id healthy) next) world =
      runAlone around (next ()) (world.mark id healthy (around.clock world.reads)) := by
  rw [runAlone, run_call]
  rfl

theorem alone_establish (route : Route) (host : String) (port : UInt16) :
    runAlone around (establish route host port) world =
      let outcome := around.connect world.connects route host port
      (replyOf outcome, world.connected route host port outcome.isOk) := by
  rw [runAlone, establish, perform, run_call]
  simp only [handle]
  cases around.connect world.connects route host port with
  | ok stream => rfl
  | err message => rfl
  | panic => rfl
  | hang => rfl

theorem alone_forward_through (upstream : Duplex) (host : String) (isHttps : Bool)
    (requestBytes : List UInt8) :
    runAlone around (forwardThrough upstream host isHttps requestBytes) world =
      let outcome := around.exchange upstream host isHttps requestBytes
      (replyOf outcome, world.note (.exchanged requestBytes
        (around.sentCompletely upstream host isHttps requestBytes) outcome.isOk)) := by
  rw [runAlone, forwardThrough, perform, run_call]
  simp only [handle]
  cases around.exchange upstream host isHttps requestBytes with
  | ok response => rfl
  | err message => rfl
  | panic => rfl
  | hang => rfl

theorem alone_bind {Other : Type} (program : Proxy Value) (next : Value → Proxy Other) :
    runAlone around (program >>= next) world =
      match runAlone around program world with
      | (some value, after) => runAlone around (next value) after
      | (none, after) => (none, after) := by
  unfold runAlone
  rw [Program.run_bind]
  obtain ⟨value, after⟩ := Program.run (handle around) program world
  cases value with
  | none => rfl
  | some value => rfl

theorem alone_answer {Other : Type} (program : Proxy Value) (answer : Value → Other) :
    (runAlone around (program >>= fun value => pure (answer value)) world).2 =
      (runAlone around program world).2 := by
  rw [alone_bind]
  obtain ⟨value, after⟩ := runAlone around program world
  cases value with
  | none => rfl
  | some value => rfl

theorem alone_keeps {Invariant : World → Prop}
    (kept : ∀ state request, Invariant state → Invariant (handle around state request).2)
    (program : Proxy Value) (holds : Invariant world) :
    Invariant (runAlone around program world).2 := by
  apply run_keeps (fun state request before (_ : True) => kept state request before) program
  · exact every_call_true program
  · exact holds

theorem handle_keeps {Holds : List Channel → Prop}
    (marked : ∀ channels id healthy number, Holds channels →
      Holds (markChannel channels id healthy (around.clock number)))
    (state : World) (request : Call) (holds : Holds state.channels) :
    Holds (handle around state request).2.channels := by
  cases request with
  | mark id healthy => exact marked _ _ _ _ holds
  | joinNext set =>
      cases set with
      | nil => exact holds
      | cons probe rest => exact holds
  | channels => exact holds
  | now => exact holds
  | establish route host port => exact holds
  | forward upstream host isHttps requestBytes => exact holds

theorem handle_in_place {dsns : List Dsn} (state : World) (request : Call)
    (inPlace : InPlace dsns state.channels) :
    InPlace dsns (handle around state request).2.channels := by
  apply handle_keeps around _ state request inPlace
  intro channels id healthy number before
  exact mark_channel_in_place before id healthy _

theorem alone_in_place {dsns : List Dsn} (program : Proxy Value)
    (inPlace : InPlace dsns world.channels) :
    InPlace dsns (runAlone around program world).2.channels :=
  alone_keeps around world (handle_in_place around) program inPlace

theorem alone_keeps_channels {program : Proxy Value} (unmarked : EveryCall NoMark program) :
    (runAlone around program world).2.channels = world.channels := by
  have kept : ∀ (state : World) (request : Call), state.channels = world.channels →
      NoMark request → (handle around state request).2.channels = world.channels := by
    intro state request same allowed
    cases request with
    | mark id healthy => cases allowed
    | joinNext set =>
        cases set with
        | nil => exact same
        | cons probe rest => exact same
    | channels => exact same
    | now => exact same
    | establish route host port => exact same
    | forward upstream host isHttps requestBytes => exact same
  exact run_keeps kept program unmarked world rfl

theorem alone_quiet {program : Proxy Value} (quiet : EveryCall Quiet program) :
    (runAlone around program world).2.channels = world.channels ∧
      (runAlone around program world).2.log = world.log := by
  have kept : ∀ (state : World) (request : Call),
      (state.channels = world.channels ∧ state.log = world.log) → Quiet request →
        (handle around state request).2.channels = world.channels ∧
          (handle around state request).2.log = world.log := by
    intro state request same allowed
    cases request with
    | channels => exact same
    | now => exact same
    | mark id healthy => cases allowed
    | joinNext set => cases allowed
    | establish route host port => cases allowed
    | forward upstream host isHttps requestBytes => cases allowed
  exact run_keeps kept program quiet world ⟨rfl, rfl⟩

end Calls

def serveAll (around : Surroundings) (service : Service) : List ClientRequest → World → World
  | [], world => world
  | request :: rest, world =>
      serveAll around service rest (runAlone around (handleRequest service request) world).2

theorem serve_all_keeps {around : Surroundings} {Invariant : World → Prop}
    (kept : ∀ state request, Invariant state → Invariant (handle around state request).2)
    (service : Service) (requests : List ClientRequest) (world : World) (holds : Invariant world) :
    Invariant (serveAll around service requests world) := by
  induction requests generalizing world with
  | nil => exact holds
  | cons request rest ih => exact ih _ (alone_keeps around world kept _ holds)

end MultiProxy.RequestRuns
