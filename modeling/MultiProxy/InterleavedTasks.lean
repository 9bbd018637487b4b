import MultiProxy.ChannelHistory
import MultiProxy.PathDestination
import MultiProxy.RequestRules

/-!
# Requests and health checks over one channel list

Any number of requests and passes of the health check, call by call in any
order. Each works on its own snapshot and marks by id; the list is what all the
marks together have made of it.
-/

namespace MultiProxy.InterleavedTasks

open MultiProxy.RustRuntime MultiProxy.DuplexStream MultiProxy.UpstreamDsn MultiProxy.TransitionRuns
open MultiProxy.InteractionPrograms MultiProxy.InteractionPrograms.Program
open MultiProxy.ChannelHealth MultiProxy.ChannelHistory MultiProxy.PathRequest
open MultiProxy.StreamingResponse MultiProxy.ProxyRequests MultiProxy.ChannelLoops
open MultiProxy.RequestRules

set_option autoImplicit false

/-! ## What a mark is issued for -/

/-- An attempt over a channel or a probe of it, as the task knows the channel
from its snapshot. -/
structure Trial where
  id : Nat
  dsn : Dsn
  succeeded : Bool
  deriving DecidableEq

/-- The trial that a task has behind it and has not marked yet. -/
def trialAfter (trial : Option Trial) : (request : Call) → Reply request → Option Trial
  | .establish (.upstream id dsn) _ _, connected => some ⟨id, dsn, connected.isOk⟩
  | .establish .direct _ _, _ => none
  | .forward _ _ _ _, answered => trial.map fun trial => { trial with succeeded := answered.isOk }
  | .mark _ _, _ => none
  | .joinNext set, some (position, some healthy) =>
      set[position]?.map fun probe => ⟨probe.1, probe.2, healthy⟩
  | .joinNext _, _ => none
  | .channels, _ => trial
  | .now, _ => trial

/-- Snapshots show every channel in its place, and a mark says of a channel what
the trial of just that channel came to. -/
def marksTrials (dsns : List Dsn) : Discipline Call Reply (Option Trial) where
  permits trial request :=
    match request with
    | .mark id healthy => ∃ dsn, trial = some ⟨id, dsn, healthy⟩ ∧ dsns[id]? = some dsn
    | _ => True
  expects _ request reply :=
    match request, reply with
    | .channels, channels => InPlace dsns channels
    | _, _ => True
  after := trialAfter

section Discipline

variable {dsns : List Dsn}

def Listed (dsns : List Dsn) (channel : Channel) : Prop := dsns[channel.id]? = some channel.dsn

/-- What a request owes: the channels that are left are listed, and a mark follows
the trial of its channel. -/
def marksTrialsRule (dsns : List Dsn) : RequestRule (marksTrials dsns) where
  outside _ := True
  inside channels _ := ∀ channel ∈ channels, Listed dsns channel
  ready channel rest _ := ∀ other ∈ channel :: rest, Listed dsns other
  tried channel rest healthy trial :=
    (∀ other ∈ channel :: rest, Listed dsns other) ∧
      trial = some ⟨channel.id, channel.dsn, healthy⟩
  reads_clock := fun _ _ => ⟨trivial, fun _ => trivial⟩
  takes_snapshot := by
    intro trial _
    refine ⟨trivial, ?_⟩
    intro all inPlace
    refine ⟨trivial, ?_⟩
    intro ordered permuted channel member
    exact (in_place_member inPlace (permuted.mem_iff.mp member)).2
  connects_directly := fun _ _ _ _ => ⟨trivial, fun _ => trivial⟩
  exchanges_directly := fun _ _ _ _ _ _ => ⟨trivial, fun _ => trivial⟩
  checks := by
    intro channel rest trial listed
    refine ⟨trivial, ?_⟩
    intro now
    exact ⟨fun other member => listed other (List.mem_cons_of_mem channel member), fun _ => listed⟩
  connects := fun _ _ _ _ _ listed => ⟨trivial, fun _ => ⟨listed, rfl⟩⟩
  exchanges := by
    intro channel rest trial upstream host isHttps bytes tried
    refine ⟨trivial, ?_⟩
    intro answered
    refine ⟨tried.1, ?_⟩
    rw [tried.2]
    rfl
  marks := by
    intro channel rest healthy trial tried
    have here := tried.1 channel List.mem_cons_self
    refine ⟨⟨channel.dsn, tried.2, here⟩, trivial, ?_⟩
    intro other member
    exact tried.1 other (List.mem_cons_of_mem channel member)
  leaves := fun _ _ => trivial

theorem handle_request_follows (service : Service) (request : ClientRequest)
    (trial : Option Trial) :
    Follows (marksTrials dsns) trial (handleRequest service request) := by
  have kept : Keeps (marksTrialsRule dsns) trial (handleRequest service request) :=
    handle_request_keeps service request trivial
  exact follows_of_ensures kept

theorem join_probes_follows (count : Nat) {set : List (Nat × Dsn)}
    (listed : ∀ probe ∈ set, dsns[probe.1]? = some probe.2) (trial : Option Trial) :
    Follows (marksTrials dsns) trial (joinProbes count set) := by
  induction count generalizing set trial with
  | zero => trivial
  | succ count ih =>
      rw [joinProbes, join_next_bind]
      refine ⟨trivial, ?_⟩
      intro joined _
      cases joined with
      | none => trivial
      | some joined =>
          obtain ⟨position, result⟩ := joined
          have later := @ih (set.eraseIdx position) fun probe member =>
            listed probe ((List.eraseIdx_sublist set position).subset member)
          simp only
          cases found : set[position]? with
          | none => cases result <;> exact later _
          | some probe =>
              obtain ⟨id, dsn⟩ := probe
              have issued := listed (id, dsn) (List.mem_of_getElem? found)
              have issuedFor : ∀ healthy,
                  trialAfter trial (.joinNext set) (some (position, some healthy)) =
                    some ⟨id, dsn, healthy⟩ := by
                intro healthy
                rw [trialAfter, found]
                rfl
              cases result with
              | none => exact later _
              | some healthy =>
                  cases healthy with
                  | true => exact ⟨⟨dsn, issuedFor true, issued⟩, fun _ _ => later _⟩
                  | false => exact ⟨⟨dsn, issuedFor false, issued⟩, fun _ _ => later _⟩

theorem run_check_follows (trial : Option Trial) : Follows (marksTrials dsns) trial runCheck := by
  refine ⟨trivial, ?_⟩
  intro channels inPlace
  apply join_probes_follows
  intro probe member
  obtain ⟨channel, inSnapshot, rfl⟩ := List.mem_map.mp member
  exact (in_place_member inPlace inSnapshot).2

end Discipline

/-! ## The shared list -/

structure Mark where
  issuedFor : Option Trial
  id : Nat
  healthy : Bool
  time : Instant
  deriving DecidableEq

/-- The manager's list, and every mark that was made on it. -/
structure Shared where
  channels : List Channel
  history : List Mark

/-- What `main` starts with. -/
def Shared.initial (dsns : List Dsn) : Shared where
  channels := channelsOf dsns
  history := []

/-- What the surroundings may choose: the time, how an attempt ends, which probe
is joined next and with which result. -/
inductive Choice where
  | any
  | time (now : Instant)
  | connected (outcome : Except String Duplex)
  | answered (outcome : Except String Response)
  | joined (position : Nat) (result : Option Bool)

def answer (shared : Shared) (trial : Option Trial) :
    (request : Call) → Choice → Option (Reply request × Shared)
  | .channels, _ => some (shared.channels, shared)
  | .now, .time now => some (now, shared)
  | .establish _ _ _, .connected outcome => some (outcome, shared)
  | .forward _ _ _ _, .answered outcome => some (outcome, shared)
  | .mark id healthy, .time now =>
      some ((), {
        channels := markChannel shared.channels id healthy now
        history := shared.history ++ [⟨trial, id, healthy, now⟩] })
  | .joinNext [], _ => some (none, shared)
  | .joinNext (probe :: rest), .joined position result =>
      if position < (probe :: rest).length then some (some (position, result), shared) else none
  | _, _ => none

inductive Kind where
  | request (request : ClientRequest)
  | check

def start (service : Service) : Kind → Option Trial × Proxy Unit
  | .request request => (none, handleRequest service request >>= fun _ => pure ())
  | .check => (none, runCheck)

def proxySystem (service : Service) :
    System Shared Call Reply Kind Choice (Option Trial) Unit where
  start := start service
  handle := answer
  note := trialAfter
  idle _ _ := none

def Mark.report (mark : Mark) : Report where
  healthy := mark.healthy
  time := mark.time

def marksOf (history : List Mark) (id : Nat) : List Report :=
  (history.filter fun mark => mark.id = id).map Mark.report

/-- Every mark was issued for a trial of its own channel, and each channel is
what its marks have made of a new one. -/
structure Recorded (dsns : List Dsn) (shared : Shared) : Prop where
  issued : ∀ mark ∈ shared.history, ∃ dsn,
    mark.issuedFor = some ⟨mark.id, dsn, mark.healthy⟩ ∧ dsns[mark.id]? = some dsn
  replayed : ∀ id : Nat, shared.channels[id]? =
    dsns[id]?.map fun dsn => replay (Channel.new id dsn) (marksOf shared.history id)

theorem initial_recorded (dsns : List Dsn) : Recorded dsns (Shared.initial dsns) := by
  constructor
  · exact List.forall_mem_nil _
  · intro id
    simp [Shared.initial, channelsOf, marksOf]

theorem recorded_in_place {dsns : List Dsn} {shared : Shared} (recorded : Recorded dsns shared) :
    InPlace dsns shared.channels := by
  apply List.ext_getElem?
  intro index
  rw [List.getElem?_map, recorded.replayed, List.getElem?_mapIdx, Option.map_map]
  cases dsns[index]? with
  | none => rfl
  | some dsn => simp [Channel.new]

theorem marked_recorded {dsns : List Dsn} {shared : Shared} (recorded : Recorded dsns shared)
    {id : Nat} {healthy : Bool} {trial : Option Trial}
    (permitted : (marksTrials dsns).permits trial (.mark id healthy)) (now : Instant) :
    Recorded dsns {
      channels := markChannel shared.channels id healthy now
      history := shared.history ++ [⟨trial, id, healthy, now⟩] } := by
  constructor
  · intro mark member
    rcases List.mem_append.mp member with earlier | last
    · exact recorded.issued mark earlier
    · rw [List.mem_singleton] at last
      subst last
      exact permitted
  · intro index
    by_cases same : id = index
    · subst same
      simp only [mark_channel_at, recorded.replayed, marksOf, List.filter_append, Option.map_map]
      cases dsns[id]? with
      | none => rfl
      | some dsn => simp [Mark.report]
    · simp only [mark_channel_other _ same, recorded.replayed, marksOf, List.filter_append]
      simp [same]

theorem answer_recorded {dsns : List Dsn} (shared : Shared) (trial : Option Trial) (request : Call)
    (choice : Choice) (reply : Reply request) (after : Shared) (recorded : Recorded dsns shared)
    (permitted : (marksTrials dsns).permits trial request)
    (answered : answer shared trial request choice = some (reply, after)) :
    (marksTrials dsns).expects trial request reply ∧ Recorded dsns after := by
  cases request with
  | channels =>
      cases answered
      exact ⟨recorded_in_place recorded, recorded⟩
  | now =>
      cases choice <;> cases answered
      exact ⟨trivial, recorded⟩
  | establish route host port =>
      cases choice <;> cases answered
      exact ⟨trivial, recorded⟩
  | forward upstream host isHttps requestBytes =>
      cases choice <;> cases answered
      exact ⟨trivial, recorded⟩
  | mark id healthy =>
      cases choice <;> cases answered
      exact ⟨trivial, marked_recorded recorded permitted _⟩
  | joinNext set =>
      cases set with
      | nil =>
          cases answered
          exact ⟨trivial, recorded⟩
      | cons probe rest =>
          cases choice <;>
            simp only [answer, reduceCtorEq, Option.ite_none_right_eq_some] at answered
          cases answered.2
          exact ⟨trivial, recorded⟩

/-- The mark was issued for an attempt over the DSN of that place, or a probe of it. -/
def Mark.isFor (mark : Mark) (id : Nat) (dsn : Dsn) : Bool :=
  mark.issuedFor.any fun trial => trial.id = id && trial.dsn = dsn

def marksFor (history : List Mark) (id : Nat) (dsn : Dsn) : List Report :=
  (history.filter fun mark => mark.isFor id dsn).map Mark.report

theorem marks_for_place {dsns : List Dsn} {shared : Shared} (recorded : Recorded dsns shared)
    {id : Nat} {dsn : Dsn} (here : dsns[id]? = some dsn) :
    marksFor shared.history id dsn = marksOf shared.history id := by
  apply congrArg (List.map Mark.report)
  apply List.filter_congr
  intro mark member
  obtain ⟨markDsn, issued, listed⟩ := recorded.issued mark member
  rw [Mark.isFor, issued]
  by_cases same : mark.id = id
  · rw [same, here] at listed
    cases listed
    simp [same]
  · simp [same]

theorem start_follows {dsns : List Dsn} (service : Service) (kind : Kind) :
    Follows (marksTrials dsns) (start service kind).1 (start service kind).2 := by
  cases kind with
  | check => exact run_check_follows none
  | request request =>
      apply follows_bind (handle_request_follows service request none)
      intro trial outcome
      trivial

theorem tasks_orderly {service : Service} {dsns : List Dsn} {labels : List (Label Kind Choice)}
    {finish : Machine Shared Call Reply (Option Trial) Unit}
    (ran : runFrom (proxySystem service).step { shared := .initial dsns, tasks := [] } labels =
      some finish) : System.Orderly (marksTrials dsns) (Recorded dsns) finish := by
  apply System.run_orderly rfl (start_follows service) answer_recorded _ (initial_recorded dsns) ran
  intro shared choice after _ taken
  cases taken

/-- However requests and health checks are interleaved, every channel stays in
its place and tells the marks that were issued for it. -/
theorem channels_tell_their_marks (service : Service) (dsns : List Dsn)
    (labels : List (Label Kind Choice)) (finish : Machine Shared Call Reply (Option Trial) Unit)
    (ran : runFrom (proxySystem service).step { shared := .initial dsns, tasks := [] } labels =
      some finish) :
    finish.shared.channels.length = dsns.length ∧
      (∀ mark ∈ finish.shared.history, ∃ dsn,
        mark.issuedFor = some ⟨mark.id, dsn, mark.healthy⟩ ∧ dsns[mark.id]? = some dsn) ∧
      ∀ id dsn, dsns[id]? = some dsn → ∃ channel, finish.shared.channels[id]? = some channel ∧
        channel.id = id ∧ channel.dsn = dsn ∧
          Determined channel (marksFor finish.shared.history id dsn) := by
  have recorded := (tasks_orderly ran).invariant
  refine ⟨in_place_length (recorded_in_place recorded), recorded.issued, ?_⟩
  intro id dsn here
  refine ⟨replay (Channel.new id dsn) (marksOf finish.shared.history id), ?_, ?_, ?_, ?_⟩
  · rw [recorded.replayed, here]
    rfl
  · exact replay_id _ _
  · exact replay_dsn _ _
  · rw [marks_for_place recorded here]
    exact replay_determined id dsn _

def sshDsn : Dsn :=
  .ssh
    { user := "root", pass := none, host := "127.0.0.1", port := 22, keyPath := none,
      keepalive := 30 }

def backupDsn : Dsn :=
  .ssh
    { user := "root", pass := none, host := "127.0.0.2", port := 22, keyPath := none,
      keepalive := 30 }

/-- Two passes of the health check over two channels, whose probes end in other orders. -/
def twoChecks : List (Label Kind Choice) :=
  [.spawn .check, .spawn .check, .advance 0 .any, .advance 1 .any,
    .advance 1 (.joined 1 (some false)), .advance 0 (.joined 0 (some true)),
    .advance 0 (.time 5), .advance 1 (.time 7), .advance 1 (.joined 0 (some true)),
    .advance 0 (.joined 0 (some false)), .advance 1 (.time 9), .advance 0 (.time 11)]

def afterTwoChecks : Machine Shared Call Reply (Option Trial) Unit where
  shared :=
    { channels := [((Channel.new 0 sshDsn).markHealthy 5).markHealthy 9,
        ((Channel.new 1 backupDsn).markUnhealthy 7).markUnhealthy 11]
      history := [⟨some ⟨0, sshDsn, true⟩, 0, true, 5⟩, ⟨some ⟨1, backupDsn, false⟩, 1, false, 7⟩,
        ⟨some ⟨0, sshDsn, true⟩, 0, true, 9⟩, ⟨some ⟨1, backupDsn, false⟩, 1, false, 11⟩] }
  tasks := [(none, .done ()), (none, .done ())]

theorem two_checks_tell_their_marks :
    afterTwoChecks.shared.channels.length = [sshDsn, backupDsn].length ∧
      (∀ mark ∈ afterTwoChecks.shared.history, ∃ dsn,
        mark.issuedFor = some ⟨mark.id, dsn, mark.healthy⟩ ∧
          [sshDsn, backupDsn][mark.id]? = some dsn) ∧
      ∀ id dsn, [sshDsn, backupDsn][id]? = some dsn → ∃ channel,
        afterTwoChecks.shared.channels[id]? = some channel ∧ channel.id = id ∧ channel.dsn = dsn ∧
          Determined channel (marksFor afterTwoChecks.shared.history id dsn) :=
  channels_tell_their_marks PathDestination.exampleService [sshDsn, backupDsn] twoChecks
    afterTwoChecks rfl

end MultiProxy.InterleavedTasks
