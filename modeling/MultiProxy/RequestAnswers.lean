import MultiProxy.InterleavedTasks
import MultiProxy.TaskProjections

/-!
# What a request's answer says of its attempts

Beside each task stands a record of its own calls. However the tasks are interleaved
and whatever they are told, a request that was answered with a stream or a response
got it from its last attempt, and one that was given up had left nothing untried but
what a breaker kept it from.
-/

namespace MultiProxy.RequestAnswers

open MultiProxy.RustRuntime MultiProxy.DuplexStream MultiProxy.UpstreamDsn MultiProxy.TransitionRuns
open MultiProxy.InteractionPrograms MultiProxy.InteractionPrograms.Program
open MultiProxy.TaskProjections MultiProxy.ChannelHealth MultiProxy.PathRequest
open MultiProxy.StreamingResponse MultiProxy.ProxyRequests MultiProxy.ChannelLoops
open MultiProxy.InterleavedTasks

set_option autoImplicit false

/-! ## The record of a task -/

inductive Ending where
  | failed
  | connected (stream : Duplex)
  | answered (response : Response)

structure Attempt where
  route : Route
  ending : Ending

structure Record where
  attempts : List Attempt
  readings : List Instant
  snapshots : List (List Channel)

def Record.fresh : Record where
  attempts := []
  readings := []
  snapshots := []

section Values

variable {Value : Type}

def endingOf (obtained : Value → Ending) : Except String Value → Ending
  | .ok value => obtained value
  | .error _ => .failed

end Values

def goOn (attempts : List Attempt) (ending : Ending) : List Attempt :=
  attempts.dropLast ++ attempts.getLast?.toList.map fun attempt => { attempt with ending := ending }

def recordAfter (record : Record) : (request : Call) → Reply request → Record
  | .channels, all => { record with snapshots := record.snapshots ++ [all] }
  | .now, now => { record with readings := record.readings ++ [now] }
  | .establish route _ _, connected =>
      { record with attempts := record.attempts ++ [⟨route, endingOf .connected connected⟩] }
  | .forward _ _ _ _, answered =>
      { record with attempts := goOn record.attempts (endingOf .answered answered) }
  | .mark _ _, _ => record
  | .joinNext _, _ => record

/-- Everything may be called; snapshots show the configured channels. -/
def recording (dsns : List Dsn) : Discipline Call Reply Record where
  permits _ _ := True
  expects _ request reply :=
    match request, reply with
    | .channels, channels => InPlace dsns channels
    | _, _ => True
  after := recordAfter

/-- The channel was attempted, or the breaker was shut when the task came to it. -/
def Tried (record : Record) (channel : Channel) : Prop :=
  (∃ attempt ∈ record.attempts, attempt.route = .upstream channel.id channel.dsn) ∨
    ∃ now ∈ record.readings, channel.shouldRetry now = false

/-- Nothing has come of any attempt. The direct one was made, in its place, and every
configured upstream was tried as a snapshot of the task showed it. -/
structure GivenUp (dsns : List Dsn) (directFirst : Bool) (record : Record) : Prop where
  failed : ∀ attempt ∈ record.attempts, attempt.ending = .failed
  direct : (if directFirst then record.attempts.head? else record.attempts.getLast?).map
    Attempt.route = some .direct
  upstreams : ∃ all, record.snapshots = [all] ∧ InPlace dsns all ∧
    ∀ channel ∈ all, Tried record channel

/-- The last attempt came to this, and all before it to nothing. -/
def LastCame (ending : Ending) (attempts : List Attempt) : Prop :=
  ∃ front route, attempts = front ++ [⟨route, ending⟩] ∧ ∀ attempt ∈ front, attempt.ending = .failed

def Concludes {Value : Type} (obtained : Value → Ending) (attempts : List Attempt) :
    Except String Value → Prop
  | .ok value => LastCame (obtained value) attempts
  | .error _ => ∀ attempt ∈ attempts, attempt.ending = .failed

/-- What the answer of a request says of its record. -/
def Justified (dsns : List Dsn) (service : Service) (record : Record) : Except String Answer → Prop
  | .ok (.tunnel stream) => LastCame (.connected stream) record.attempts
  | .ok (.relayed response) => LastCame (.answered response) record.attempts
  | .ok (.fixed status _ _) =>
      if status = 502 then GivenUp dsns service.directFirst record else record.attempts = []
  | .error _ => record.attempts = []

/-! ## Attempts -/

section Attempts

variable {Value : Type} {dsns : List Dsn} {obtained : Value → Ending}

def Record.attempted (record : Record) (route : Route) (ending : Ending) : Record :=
  { record with attempts := record.attempts ++ [⟨route, ending⟩] }

theorem go_on_last (attempts : List Attempt) (route : Route) (earlier ending : Ending) :
    goOn (attempts ++ [⟨route, earlier⟩]) ending = attempts ++ [⟨route, ending⟩] := by
  simp [goOn]

/-- The attempt adds itself to the record, with what it came to. -/
def Attempting (dsns : List Dsn) (obtained : Value → Ending)
    (attempt : Route → Proxy (Except String Value)) : Prop :=
  ∀ route record, Ensures (recording dsns)
    (fun after outcome => after = record.attempted route (endingOf obtained outcome)) record
    (attempt route)

theorem establish_attempting (host : String) (port : UInt16) :
    Attempting dsns .connected (establish · host port) := by
  intro route record
  exact ⟨trivial, fun connected _ => rfl⟩

theorem connect_and_forward_attempting (target : Target) (bytes : List UInt8) :
    Attempting dsns .answered (connectAndForward target bytes) := by
  intro route record
  refine ⟨trivial, ?_⟩
  intro connected _
  cases connected with
  | error message => exact rfl
  | ok upstream =>
      refine ⟨trivial, ?_⟩
      intro answered _
      change { record with attempts := goOn (record.attempts ++ _) _ } = _
      rw [go_on_last]
      rfl

/-- The direct attempt where it is wanted. -/
structure DirectEnd (obtained : Value → Ending) (wanted : Bool) (before after : Record)
    (outcome : Except String Value) : Prop where
  made : wanted = true → after = before.attempted .direct (endingOf obtained outcome)
  left : wanted = false → after = before ∧ ∃ message, outcome = .error message

theorem direct_end_of_made {before after : Record} {outcome : Except String Value}
    (made : after = before.attempted .direct (endingOf obtained outcome)) :
    DirectEnd obtained true before after outcome :=
  ⟨fun _ => made, fun unwanted => absurd unwanted (by decide)⟩

theorem direct_end_of_left (before : Record) (message : String) :
    DirectEnd obtained false before before (.error message) :=
  ⟨fun wanted => absurd wanted (by decide), fun _ => ⟨rfl, message, rfl⟩⟩

theorem tunnel_directly_ends (wanted : Bool) (host : String) (port : UInt16) (lastErr : String)
    (record : Record) :
    Ensures (recording dsns) (DirectEnd .connected wanted record) record
      (tunnelDirectly wanted host port lastErr) := by
  cases wanted with
  | false => exact direct_end_of_left record lastErr
  | true =>
      refine ⟨trivial, ?_⟩
      intro connected _
      cases connected with
      | ok stream => exact direct_end_of_made rfl
      | error message => exact direct_end_of_made rfl

theorem forward_directly_ends (target : Target) (bytes : List UInt8) (wanted : Bool)
    (lastErr : String) (record : Record) :
    Ensures (recording dsns) (DirectEnd .answered wanted record) record
      (forwardDirectly target bytes wanted lastErr) := by
  cases wanted with
  | false => exact direct_end_of_left record lastErr
  | true =>
      refine ⟨trivial, ?_⟩
      intro connected _
      cases connected with
      | error message => exact direct_end_of_made rfl
      | ok upstream =>
          refine ⟨trivial, ?_⟩
          intro answered _
          apply direct_end_of_made
          change { record with attempts := goOn (record.attempts ++ _) _ } = _
          rw [go_on_last]
          rfl

/-! ## The channel loop -/

theorem tried_later {before after : Record} {channel : Channel}
    (attempts : before.attempts ⊆ after.attempts) (readings : before.readings ⊆ after.readings)
    (tried : Tried before channel) : Tried after channel := by
  rcases tried with ⟨attempt, made, route⟩ | ⟨now, read, shut⟩
  · exact .inl ⟨attempt, attempts made, route⟩
  · exact .inr ⟨now, readings read, shut⟩

theorem concludes_behind_failure {attempts : List Attempt} {outcome : Except String Value}
    {route : Route} (concludes : Concludes obtained attempts outcome) :
    Concludes obtained (⟨route, .failed⟩ :: attempts) outcome := by
  cases outcome with
  | error message => exact List.forall_mem_cons.mpr ⟨rfl, concludes⟩
  | ok value =>
      obtain ⟨front, last, rfl, failed⟩ := concludes
      exact ⟨⟨route, .failed⟩ :: front, last, rfl, List.forall_mem_cons.mpr ⟨rfl, failed⟩⟩

/-- What the loop has added to the record. Where it ends in an error it has come to all
its channels. -/
structure LoopEnd (obtained : Value → Ending) (channels : List Channel) (before after : Record)
    (outcome : Except String Value) : Prop where
  snapshots : after.snapshots = before.snapshots
  readings : before.readings ⊆ after.readings
  attempts : ∃ made, after.attempts = before.attempts ++ made ∧ Concludes obtained made outcome
  exhausted : outcome.isOk = false → ∀ channel ∈ channels, Tried after channel

theorem loop_end_of_tried {channel : Channel} {rest : List Channel} {before after : Record}
    (middle : Record) {outcome : Except String Value}
    (snapshots : middle.snapshots = before.snapshots)
    (readings : before.readings ⊆ middle.readings)
    (attempts : middle.attempts = before.attempts ∨ ∃ route,
      middle.attempts = before.attempts ++ [⟨route, .failed⟩])
    (tried : Tried middle channel) (ended : LoopEnd obtained rest middle after outcome) :
    LoopEnd obtained (channel :: rest) before after outcome := by
  obtain ⟨made, grown, concludes⟩ := ended.attempts
  refine ⟨ended.snapshots.trans snapshots, List.Subset.trans readings ended.readings, ?_, ?_⟩
  · rcases attempts with same | ⟨route, failed⟩
    · exact ⟨made, by rw [grown, same], concludes⟩
    · exact ⟨⟨route, .failed⟩ :: made, by simp [grown, failed], concludes_behind_failure concludes⟩
  · intro error
    refine List.forall_mem_cons.mpr ⟨?_, ended.exhausted error⟩
    exact tried_later (by simp [grown]) ended.readings tried

theorem channel_loop_ends {attempt : Route → Proxy (Except String Value)}
    (attempting : Attempting dsns obtained attempt) (channels : List Channel) (lastErr : String)
    (record : Record) :
    Ensures (recording dsns) (LoopEnd obtained channels record) record
      (channelLoop attempt channels lastErr) := by
  induction channels generalizing lastErr record with
  | nil =>
      rw [channel_loop_nil]
      refine ⟨rfl, fun _ read => read, ⟨[], (List.append_nil _).symm, ?_⟩, ?_⟩
      · exact List.forall_mem_nil _
      · exact fun _ => List.forall_mem_nil _
  | cons channel rest ih =>
      rw [channel_loop_cons]
      refine ⟨trivial, ?_⟩
      intro now _
      let read := recordAfter record .now now
      have readings : record.readings ⊆ read.readings := List.subset_append_left _ _
      dsimp only
      split
      · apply ensures_bind
        apply ensures_mono _ (attempting (.upstream channel.id channel.dsn) read)
        rintro after outcome rfl
        cases outcome with
        | ok value =>
            refine ⟨trivial, fun _ _ => ⟨rfl, readings, ⟨_, rfl, ?_⟩, ?_⟩⟩
            · exact ⟨[], _, rfl, List.forall_mem_nil _⟩
            · intro error
              cases error
        | error message =>
            refine ⟨trivial, fun _ _ => ?_⟩
            let failed := read.attempted (.upstream channel.id channel.dsn) .failed
            apply ensures_mono _ (ih message failed)
            intro after outcome ended
            refine loop_end_of_tried failed rfl readings (.inr ⟨_, rfl⟩) (.inl ?_) ended
            exact ⟨_, List.mem_append_right _ (List.mem_singleton_self _), rfl⟩
      · rename_i shut
        apply ensures_mono _ (ih lastErr read)
        intro after outcome ended
        refine loop_end_of_tried read rfl readings (.inl rfl) (.inr ?_) ended
        refine ⟨now, List.mem_append_right _ (List.mem_singleton_self _), ?_⟩
        exact Bool.eq_false_iff.mpr shut

/-! ## The attempts of a request -/

theorem or_else_ensures {Note : Type} {discipline : Discipline Call Reply Note}
    {between post : Note → Except String Value → Prop} {first : Proxy (Except String Value)}
    {later : String → Proxy (Except String Value)} {note : Note}
    (ends : Ensures discipline between note first)
    (succeeded : ∀ note value, between note (.ok value) → post note (.ok value))
    (failed : ∀ note lastErr, between note (.error lastErr) →
      Ensures discipline post note (later lastErr)) :
    Ensures discipline post note (orElse first later) := by
  apply ensures_bind
  apply ensures_mono _ ends
  intro note outcome ended
  cases outcome with
  | ok value => exact succeeded note value ended
  | error lastErr => exact failed note lastErr ended

def Settled (dsns : List Dsn) (directFirst : Bool) (obtained : Value → Ending) (record : Record) :
    Except String Value → Prop
  | .ok value => LastCame (obtained value) record.attempts
  | .error _ => GivenUp dsns directFirst record

theorem last_came_behind {ending : Ending} {front attempts : List Attempt}
    (failed : ∀ attempt ∈ front, attempt.ending = .failed) (came : LastCame ending attempts) :
    LastCame ending (front ++ attempts) := by
  obtain ⟨earlier, route, rfl, failedEarlier⟩ := came
  refine ⟨front ++ earlier, route, (List.append_assoc _ _ _).symm, ?_⟩
  intro attempt made
  rcases List.mem_append.mp made with inFront | inEarlier
  · exact failed attempt inFront
  · exact failedEarlier attempt inEarlier

/-- In front of the channels, the direct attempt is behind the task if it comes first. -/
structure BeforeChannels (directFirst : Bool) (record : Record) : Prop where
  snapshots : record.snapshots = []
  attempts : record.attempts = if directFirst then [⟨.direct, .failed⟩] else []

theorem before_channels_failed {directFirst : Bool} {record : Record}
    (before : BeforeChannels directFirst record) :
    ∀ attempt ∈ record.attempts, attempt.ending = .failed := by
  rw [before.attempts]
  cases directFirst with
  | false => exact List.forall_mem_nil _
  | true => exact List.forall_mem_singleton.mpr rfl

/-- The last attempt, direct if it has not been made yet, settles the request. -/
theorem settled_at_last {directFirst : Bool} {all channels : List Channel}
    {start middle after : Record}
    {outcome : Except String Value} (before : BeforeChannels directFirst start)
    (inPlace : InPlace dsns all) (covered : ∀ channel ∈ all, channel ∈ channels) {message : String}
    (looped : LoopEnd obtained channels (recordAfter start .channels all) middle (.error message))
    (ended : DirectEnd obtained (!directFirst) middle after outcome) :
    Settled dsns directFirst obtained after outcome := by
  obtain ⟨made, grown, concludes⟩ := looped.attempts
  have failed : ∀ attempt ∈ middle.attempts, attempt.ending = .failed := by
    rw [grown]
    intro attempt listed
    rcases List.mem_append.mp listed with earlier | later
    · exact before_channels_failed before attempt earlier
    · exact concludes attempt later
  have snapshots : middle.snapshots = [all] := by
    rw [looped.snapshots]
    simp [recordAfter, before.snapshots]
  have tried : ∀ channel ∈ all, Tried middle channel := by
    intro channel listed
    exact looped.exhausted rfl channel (covered channel listed)
  have startAttempts := before.attempts
  cases directFirst with
  | true =>
      obtain ⟨rfl, error, rfl⟩ := ended.left rfl
      refine ⟨failed, ?_, all, snapshots, inPlace, tried⟩
      rw [grown]
      change Option.map _ (start.attempts ++ made).head? = _
      rw [startAttempts]
      rfl
  | false =>
      obtain rfl := ended.made rfl
      cases outcome with
      | ok value => exact ⟨middle.attempts, .direct, rfl, failed⟩
      | error error =>
          refine ⟨?_, ?_, all, snapshots, inPlace, ?_⟩
          · intro attempt listed
            rcases List.mem_append.mp listed with earlier | last
            · exact failed attempt earlier
            · rw [List.mem_singleton.mp last]
              rfl
          · simp [Record.attempted]
          · intro channel listed
            exact tried_later (List.subset_append_left _ _) (List.Subset.refl _)
              (tried channel listed)

theorem fallback_settles {attempt : Route → Proxy (Except String Value)}
    {later : String → Proxy (Except String Value)} (directFirst : Bool)
    (directly : Bool → String → Proxy (Except String Value)) (order : List Channel → List Channel)
    (attempting : Attempting dsns obtained attempt)
    (permutes : ∀ all, (order all).Perm all)
    (direct : ∀ wanted lastErr record, Ensures (recording dsns)
      (DirectEnd obtained wanted record) record (directly wanted lastErr))
    (last : ∀ lastErr record, Ensures (recording dsns)
      (DirectEnd obtained (!directFirst) record) record (later lastErr)) :
    Ensures (recording dsns) (Settled dsns directFirst obtained) .fresh
      (orElse (directly directFirst "") fun lastErr => snapshot >>= fun all =>
        orElse (channelLoop attempt (order all) lastErr) later) := by
  apply or_else_ensures (direct directFirst "" .fresh)
  · intro after value ended
    cases directFirst with
    | false =>
        obtain ⟨_, message, impossible⟩ := ended.left rfl
        cases impossible
    | true =>
        obtain rfl := ended.made rfl
        exact ⟨[], .direct, rfl, List.forall_mem_nil _⟩
  · intro start lastErr ended
    have before : BeforeChannels directFirst start := by
      cases directFirst with
      | false =>
          obtain ⟨rfl, _⟩ := ended.left rfl
          exact ⟨rfl, rfl⟩
      | true =>
          obtain rfl := ended.made rfl
          exact ⟨rfl, rfl⟩
    refine ⟨trivial, ?_⟩
    intro all inPlace
    apply or_else_ensures (channel_loop_ends attempting (order all) lastErr _)
    · intro middle value looped
      obtain ⟨made, grown, came⟩ := looped.attempts
      change LastCame _ middle.attempts
      rw [grown]
      change LastCame _ (start.attempts ++ made)
      exact last_came_behind (before_channels_failed before) came
    · intro middle error looped
      apply ensures_mono _ (last error middle)
      intro after outcome ended
      have covered : ∀ channel ∈ all, channel ∈ order all :=
        fun channel listed => (permutes all).mem_iff.mpr listed
      exact settled_at_last before inPlace covered looped ended

end Attempts

section Requests

variable (dsns : List Dsn) (service : Service)

theorem acquire_tunnel_settles (host : String) (port : UInt16) :
    Ensures (recording dsns) (Settled dsns service.directFirst .connected) .fresh
      (acquireTunnel service host port) := by
  unfold acquireTunnel
  simp only [tunnel_through_is_loop]
  apply fallback_settles service.directFirst (tunnelDirectly · host port ·)
    (service.ordered · host port) (establish_attempting host port)
    (fun all => ordered_channels_perm _ _ _ _)
  · intro wanted lastErr record
    exact tunnel_directly_ends wanted host port lastErr record
  · intro lastErr record
    apply or_else_ensures (tunnel_directly_ends _ host port lastErr record)
    · exact fun _ _ ended => ended
    · intro after error ended
      refine ⟨?_, ?_⟩
      · exact ended.made
      · intro unwanted
        exact ⟨(ended.left unwanted).1, _, rfl⟩

theorem forward_attempts_settle (target : Target) (bytes : List UInt8) :
    Ensures (recording dsns) (Settled dsns service.directFirst .answered) .fresh
      (forwardAttempts target bytes service) := by
  unfold forwardAttempts
  simp only [forward_through_channels_is_loop]
  apply fallback_settles service.directFirst (forwardDirectly target bytes)
    (service.ordered · target.host target.port) (connect_and_forward_attempting target bytes)
    (fun all => ordered_channels_perm _ _ _ _)
  · intro wanted lastErr record
    exact forward_directly_ends target bytes wanted lastErr record
  · intro lastErr record
    exact forward_directly_ends target bytes _ lastErr record

theorem handle_connect_justified (host : String) (port : UInt16) :
    Ensures (recording dsns) (Justified dsns service) .fresh (handleConnect service host port) := by
  apply ensures_bind
  apply ensures_mono _ (acquire_tunnel_settles dsns service host port)
  intro record outcome settled
  cases outcome with
  | ok stream => exact settled
  | error message => exact settled

theorem handle_path_forward_justified (request : ClientRequest) :
    Ensures (recording dsns) (Justified dsns service) .fresh
      (handlePathForward service request) := by
  cases targeted : pathTarget service.parseUrl request.uri with
  | error rejection =>
      unfold handlePathForward
      rw [targeted]
      cases rejection with
      | badRequest message => exact rfl
      | invalidInput message => exact rfl
  | ok target =>
      cases collected : request.body with
      | error message =>
          unfold handlePathForward
          simp only [targeted, collected]
          exact rfl
      | ok body =>
          rw [handle_path_forward_attempts targeted collected]
          apply ensures_bind
          apply ensures_mono _ (forward_attempts_settle dsns service target _)
          intro record outcome settled
          cases outcome with
          | ok response => exact settled
          | error message => exact settled

/-- Whatever a request is told in answer to its calls, its own answer is justified. -/
theorem handle_request_justified (request : ClientRequest) :
    Ensures (recording dsns) (Justified dsns service) .fresh (handleRequest service request) := by
  by_cases health : request.uri.path = "/health"
  · unfold handleRequest
    rw [if_pos health]
    exact ⟨trivial, fun _ _ => ⟨trivial, fun _ _ => ⟨trivial, fun _ _ => rfl⟩⟩⟩
  · by_cases tunnel : request.method = "CONNECT" ∧ request.uri.authority.getD "" ≠ ""
    · rw [handle_request_tunnels service health tunnel]
      cases parseAuthority (request.uri.authority.getD "") with
      | error message => exact rfl
      | ok destination => exact handle_connect_justified dsns service destination.1 destination.2
    · rw [handle_request_forwards service health tunnel]
      exact handle_path_forward_justified dsns service request

end Requests

/-! ## Answers of interleaved requests -/

/-- A request ends with its answer, a health check with none. -/
abbrev Kept : Type := Option (Except String Answer)

def answeringStart (service : Service) : Kind → (Option Trial × Record) × Proxy Kept
  | .request request =>
      ((none, .fresh), handleRequest service request >>= fun answer => pure (some answer))
  | .check => ((none, .fresh), runCheck >>= fun _ => pure none)

/-- The interleaved tasks, with a record beside each and its answer behind it. -/
def answeringSystem (service : Service) :
    System Shared Call Reply Kind Choice (Option Trial × Record) Kept where
  start := answeringStart service
  handle shared noted := answer shared noted.1
  note noted request reply :=
    (trialAfter noted.1 request reply, recordAfter noted.2 request reply)
  idle _ _ := none

/-- The machine without the records and the answers. -/
abbrev forgotten : Machine Shared Call Reply (Option Trial × Record) Kept →
    Machine Shared Call Reply (Option Trial) Unit :=
  projectMachine Prod.fst fun _ => ()

theorem answering_projects (service : Service) :
    Projects (answeringSystem service) (proxySystem service) Prod.fst fun _ => () where
  starts := by
    intro kind
    cases kind with
    | request request =>
        change _ = (_, (handleRequest service request >>= _) >>= _)
        rw [Program.bind_assoc]
        rfl
    | check =>
        change (none, runCheck) = (_, (runCheck >>= _) >>= _)
        rw [Program.bind_assoc]
        exact congrArg (Prod.mk none) (bind_done runCheck).symm
  handles := fun _ _ _ _ => rfl
  notes := fun _ _ _ => rfl
  idles := rfl

section Interleaved

variable {dsns : List Dsn} {service : Service}

theorem everything_recorded {Value : Type} (program : Proxy Value) (record : Record) :
    Ensures (recording dsns) (fun _ _ => True) record program := by
  induction program generalizing record with
  | done value => trivial
  | call request next ih => exact ⟨trivial, fun reply _ => ih reply _⟩

def KeptJustified (dsns : List Dsn) (service : Service) (record : Record) (kept : Kept) : Prop :=
  ∀ answer, kept = some answer → Justified dsns service record answer

theorem start_justified (kind : Kind) :
    Ensures (recording dsns) (KeptJustified dsns service) (answeringStart service kind).1.2
      (answeringStart service kind).2 := by
  cases kind with
  | request request =>
      apply ensures_bind
      apply ensures_mono _ (handle_request_justified dsns service request)
      intro record outcome justified answer same
      cases same
      exact justified
  | check =>
      apply ensures_bind
      apply ensures_mono _ (everything_recorded runCheck .fresh)
      intro record _ _ answer same
      cases same

theorem answer_in_place {shared after : Shared} {trial : Option Trial} {request : Call}
    {choice : Choice} {reply : Reply request} (record : Record)
    (inPlace : InPlace dsns shared.channels)
    (answered : answer shared trial request choice = some (reply, after)) :
    (recording dsns).expects record request reply ∧ InPlace dsns after.channels := by
  cases request with
  | channels =>
      cases answered
      exact ⟨inPlace, inPlace⟩
  | now =>
      cases choice <;> cases answered
      exact ⟨trivial, inPlace⟩
  | establish route host port =>
      cases choice <;> cases answered
      exact ⟨trivial, inPlace⟩
  | forward upstream host isHttps requestBytes =>
      cases choice <;> cases answered
      exact ⟨trivial, inPlace⟩
  | mark id healthy =>
      cases choice <;> cases answered
      exact ⟨trivial, mark_channel_in_place inPlace id healthy _⟩
  | joinNext set =>
      cases set with
      | nil =>
          cases answered
          exact ⟨trivial, inPlace⟩
      | cons probe rest =>
          cases choice <;>
            simp only [answer, reduceCtorEq, Option.ite_none_right_eq_some] at answered
          cases answered.2
          exact ⟨trivial, inPlace⟩

end Interleaved

/-- In every interleaving of requests and health checks, each answer is justified by the
task's own calls: a stream or a response came of its last attempt when all before it had
failed, and a request was given up only when every route had. -/
theorem answers_are_justified (service : Service) (dsns : List Dsn)
    (labels : List (Label Kind Choice))
    (finish : Machine Shared Call Reply (Option Trial × Record) Kept)
    (ran : runFrom (answeringSystem service).step { shared := .initial dsns, tasks := [] } labels =
      some finish) :
    runFrom (proxySystem service).step { shared := .initial dsns, tasks := [] } labels =
        some (forgotten finish) ∧
      ∀ task ∈ finish.tasks, ∀ answer, task.2 = .done (some answer) →
        Justified dsns service task.1.2 answer := by
  refine ⟨run_projects (answering_projects service) ran, ?_⟩
  have ended := System.run_keeps_tasks
    (fun kind => start_justified kind)
    (fun shared noted request next choice reply after inPlace (justified : Ensures (recording dsns)
        (KeptJustified dsns service) noted.2 (.call request next)) answered => by
      obtain ⟨expected, kept⟩ := answer_in_place noted.2 inPlace answered
      exact ⟨justified.2 reply expected, kept⟩)
    (fun shared choice after _ idled => by cases idled)
    ⟨channels_of_in_place dsns, List.forall_mem_nil _⟩ ran
  intro task member answer done
  have justified := ended.2 task member
  rw [done] at justified
  exact justified answer rfl

/-- A request whose two attempts fail, with a health check in between. -/
def refusedTwice : List (Label Kind Choice) :=
  [.spawn (.request (PathDestination.getRequest "/http://example.com/a")),
    .advance 0 (.connected (.error "refused")), .spawn .check, .advance 0 .any, .advance 1 .any,
    .advance 0 (.time 7), .advance 0 (.connected (.error "timeout")), .advance 0 (.time 8)]

def machineRefusedTwice : Option (Machine Shared Call Reply (Option Trial × Record) Kept) :=
  runFrom (answeringSystem PathDestination.exampleService).step
    { shared := .initial [sshDsn], tasks := [] } refusedTwice

theorem refused_twice_runs : machineRefusedTwice.isSome = true := rfl

theorem refused_twice_given_up :
    runFrom (proxySystem PathDestination.exampleService).step
          { shared := .initial [sshDsn], tasks := [] } refusedTwice =
        some (forgotten (machineRefusedTwice.get refused_twice_runs)) ∧
      ∀ task ∈ (machineRefusedTwice.get refused_twice_runs).tasks, ∀ answer,
        task.2 = .done (some answer) →
          Justified [sshDsn] PathDestination.exampleService task.1.2 answer :=
  answers_are_justified PathDestination.exampleService [sshDsn] refusedTwice _
    (Option.some_get refused_twice_runs).symm

end MultiProxy.RequestAnswers
