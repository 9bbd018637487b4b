import MultiProxy.ChannelLoops

/-!
# What a request owes at each of its calls

A rule says what holds of a task's note outside the channel loop, in front of the
channels that are left, on the way to an attempt and behind it. A rule that each
kind of call keeps is kept by every request of either style.
-/

namespace MultiProxy.RequestRules

open MultiProxy.DuplexStream MultiProxy.UpstreamDsn MultiProxy.PathRequest
open MultiProxy.StreamingResponse MultiProxy.ChannelHealth
open MultiProxy.InteractionPrograms MultiProxy.InteractionPrograms.Program
open MultiProxy.ProxyRequests MultiProxy.ChannelLoops

set_option autoImplicit false

variable {Note Value : Type} {discipline : Discipline Call Reply Note}

structure RequestRule (discipline : Discipline Call Reply Note) where
  outside : Note → Prop
  inside : List Channel → Note → Prop
  ready : Channel → List Channel → Note → Prop
  tried : Channel → List Channel → Bool → Note → Prop
  reads_clock : ∀ note, outside note →
    discipline.permits note .now ∧ ∀ now, outside (discipline.after note .now now)
  takes_snapshot : ∀ note, outside note →
    discipline.permits note .channels ∧ ∀ all, discipline.expects note .channels all →
      outside (discipline.after note .channels all) ∧
        ∀ ordered, ordered.Perm all → inside ordered (discipline.after note .channels all)
  connects_directly : ∀ note host port, outside note →
    discipline.permits note (.establish .direct host port) ∧
      ∀ reply, outside (discipline.after note (.establish .direct host port) reply)
  exchanges_directly : ∀ note upstream host isHttps bytes, outside note →
    discipline.permits note (.forward upstream host isHttps bytes) ∧
      ∀ reply, outside (discipline.after note (.forward upstream host isHttps bytes) reply)
  checks : ∀ channel rest note, inside (channel :: rest) note →
    discipline.permits note .now ∧ ∀ now, inside rest (discipline.after note .now now) ∧
      (channel.shouldRetry now = true → ready channel rest (discipline.after note .now now))
  connects : ∀ channel rest note host port, ready channel rest note →
    discipline.permits note (.establish (.upstream channel.id channel.dsn) host port) ∧
      ∀ reply : Except String Duplex, tried channel rest reply.isOk
        (discipline.after note (.establish (.upstream channel.id channel.dsn) host port) reply)
  exchanges : ∀ channel rest note upstream host isHttps bytes, tried channel rest true note →
    discipline.permits note (.forward upstream host isHttps bytes) ∧
      ∀ reply : Except String Response, tried channel rest reply.isOk
        (discipline.after note (.forward upstream host isHttps bytes) reply)
  marks : ∀ channel rest healthy note, tried channel rest healthy note →
    discipline.permits note (.mark channel.id healthy) ∧
      outside (discipline.after note (.mark channel.id healthy) ()) ∧
        inside rest (discipline.after note (.mark channel.id healthy) ())
  leaves : ∀ note, inside [] note → outside note

variable (rule : RequestRule discipline)

/-- The program follows the discipline and ends outside the loop. -/
abbrev Keeps (note : Note) (program : Proxy Value) : Prop :=
  Ensures discipline (fun note _ => rule.outside note) note program

variable {rule}

theorem or_else_keeps {first : Proxy (Except String Value)}
    {later : String → Proxy (Except String Value)} {note : Note}
    (firstKeeps : Keeps rule note first)
    (laterKeeps : ∀ note lastErr, rule.outside note → Keeps rule note (later lastErr)) :
    Keeps rule note (orElse first later) := by
  apply ensures_bind
  apply ensures_mono _ firstKeeps
  intro note outcome outside
  cases outcome with
  | ok value => exact outside
  | error lastErr => exact laterKeeps note lastErr outside

/-- An attempt over a channel leads from `ready` to `tried`. -/
def Attempts (rule : RequestRule discipline) (attempt : Route → Proxy (Except String Value)) :
    Prop :=
  ∀ channel rest note (next : Except String Value → Proxy (Except String Value)),
    rule.ready channel rest note →
      (∀ note outcome, rule.tried channel rest outcome.isOk note → Keeps rule note (next outcome)) →
        Keeps rule note (attempt (.upstream channel.id channel.dsn) >>= next)

theorem establish_attempts (host : String) (port : UInt16) :
    Attempts rule (establish · host port) := by
  intro channel rest note next ready later
  have connects := rule.connects channel rest note host port ready
  exact ⟨connects.1, fun connected _ => later _ connected (connects.2 connected)⟩

theorem connect_and_forward_attempts (target : Target) (bytes : List UInt8) :
    Attempts rule (connectAndForward target bytes) := by
  intro channel rest note next ready later
  have connects := rule.connects channel rest note target.host target.port ready
  refine ⟨connects.1, ?_⟩
  intro connected _
  have tried := connects.2 connected
  cases connected with
  | error message => exact later _ (.error message) tried
  | ok upstream =>
      have exchanges :=
        rule.exchanges channel rest _ upstream target.host target.isHttps bytes tried
      exact ⟨exchanges.1, fun answered _ => later _ answered (exchanges.2 answered)⟩

theorem channel_loop_keeps {attempt : Route → Proxy (Except String Value)}
    (attempts : Attempts rule attempt) (channels : List Channel) {note : Note}
    (inside : rule.inside channels note) (lastErr : String) :
    Keeps rule note (channelLoop attempt channels lastErr) := by
  induction channels generalizing note lastErr with
  | nil => exact rule.leaves note inside
  | cons channel rest ih =>
      have checks := rule.checks channel rest note inside
      rw [channel_loop_cons]
      refine ⟨checks.1, ?_⟩
      intro now _
      dsimp only
      split
      · apply attempts channel rest _ _ ((checks.2 now).2 ‹_›)
        intro note outcome tried
        have marks := rule.marks channel rest outcome.isOk note tried
        cases outcome with
        | ok value => exact ⟨marks.1, fun _ _ => marks.2.1⟩
        | error message => exact ⟨marks.1, fun _ _ => ih marks.2.2 message⟩
      · exact ih (checks.2 now).1 lastErr

theorem tunnel_directly_keeps (wanted : Bool) (host : String) (port : UInt16) (lastErr : String)
    {note : Note} (outside : rule.outside note) :
    Keeps rule note (tunnelDirectly wanted host port lastErr) := by
  cases wanted with
  | false => exact outside
  | true =>
      have connects := rule.connects_directly note host port outside
      refine ⟨connects.1, ?_⟩
      intro connected _
      cases connected with
      | ok stream => exact connects.2 (.ok stream)
      | error message => exact connects.2 (.error message)

theorem forward_directly_keeps (target : Target) (bytes : List UInt8) (wanted : Bool)
    (lastErr : String) {note : Note} (outside : rule.outside note) :
    Keeps rule note (forwardDirectly target bytes wanted lastErr) := by
  cases wanted with
  | false => exact outside
  | true =>
      have connects := rule.connects_directly note target.host target.port outside
      refine ⟨connects.1, ?_⟩
      intro connected _
      have after := connects.2 connected
      cases connected with
      | error message => exact after
      | ok upstream =>
          have exchanges :=
            rule.exchanges_directly _ upstream target.host target.isHttps bytes after
          exact ⟨exchanges.1, fun answered _ => exchanges.2 answered⟩

theorem snapshot_loop_keeps {attempt : Route → Proxy (Except String Value)}
    {later : String → Proxy (Except String Value)} {order : List Channel → List Channel}
    (attempts : Attempts rule attempt) (permutes : ∀ all, (order all).Perm all) (lastErr : String)
    (laterKeeps : ∀ note lastErr, rule.outside note → Keeps rule note (later lastErr)) {note : Note}
    (outside : rule.outside note) :
    Keeps rule note (snapshot >>= fun all =>
      orElse (channelLoop attempt (order all) lastErr) later) := by
  have takes := rule.takes_snapshot note outside
  refine ⟨takes.1, ?_⟩
  intro all expected
  apply or_else_keeps _ laterKeeps
  exact channel_loop_keeps attempts _ ((takes.2 all expected).2 _ (permutes all)) lastErr

theorem acquire_tunnel_keeps (service : Service) (host : String) (port : UInt16) {note : Note}
    (outside : rule.outside note) : Keeps rule note (acquireTunnel service host port) := by
  unfold acquireTunnel
  simp only [tunnel_through_is_loop]
  apply or_else_keeps (tunnel_directly_keeps _ _ _ _ outside)
  intro note lastErr outside
  apply snapshot_loop_keeps (establish_attempts host port) _ _ _ outside
  · intro all
    exact ordered_channels_perm _ _ _ _
  · intro note lastErr outside
    apply or_else_keeps (tunnel_directly_keeps _ _ _ _ outside)
    intro note lastErr outside
    exact outside

theorem forward_attempts_keeps (target : Target) (bytes : List UInt8) (service : Service)
    {note : Note} (outside : rule.outside note) :
    Keeps rule note (forwardAttempts target bytes service) := by
  unfold forwardAttempts
  simp only [forward_through_channels_is_loop]
  apply or_else_keeps (forward_directly_keeps _ _ _ _ outside)
  intro note lastErr outside
  apply snapshot_loop_keeps (connect_and_forward_attempts target bytes) _ _ _ outside
  · intro all
    exact ordered_channels_perm _ _ _ _
  · intro note lastErr outside
    exact forward_directly_keeps _ _ _ _ outside

theorem quiet_keeps {program : Proxy Value} (quiet : EveryCall Quiet program) {note : Note}
    (outside : rule.outside note) : Keeps rule note program := by
  induction program generalizing note with
  | done value => exact outside
  | call request next ih =>
      cases request with
      | channels =>
          have takes := rule.takes_snapshot note outside
          refine ⟨takes.1, ?_⟩
          intro all expected
          exact ih all (quiet.2 all) (takes.2 all expected).1
      | now =>
          have reads := rule.reads_clock note outside
          refine ⟨reads.1, ?_⟩
          intro now _
          exact ih now (quiet.2 now) (reads.2 now)
      | establish route host port => cases quiet.1
      | forward upstream host isHttps bytes => cases quiet.1
      | mark id healthy => cases quiet.1
      | joinNext set => cases quiet.1

theorem handle_request_keeps (service : Service) (request : ClientRequest) {note : Note}
    (outside : rule.outside note) : Keeps rule note (handleRequest service request) := by
  obtain quiet | ⟨host, port, answer, tunnel⟩ | ⟨target, bytes, answer, forward⟩ :=
    handle_request_cases service request
  · exact quiet_keeps quiet outside
  · rw [tunnel]
    apply ensures_bind
    exact ensures_mono (fun _ _ ended => ended) (acquire_tunnel_keeps service host port outside)
  · rw [forward]
    apply ensures_bind
    exact ensures_mono (fun _ _ ended => ended)
      (forward_attempts_keeps target bytes service outside)

end MultiProxy.RequestRules
