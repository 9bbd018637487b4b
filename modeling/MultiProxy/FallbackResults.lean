import MultiProxy.FallbackPolicy
import MultiProxy.PathDestination

/-!
# What the fallback policy promises

The visits of a run follow the plan, stop at the first success, and leave every
attempted channel marked once and every other channel as it was.
-/

namespace MultiProxy.FallbackResults

open MultiProxy.RustRuntime MultiProxy.DuplexStream MultiProxy.UpstreamDsn
open MultiProxy.InteractionPrograms MultiProxy.InteractionPrograms.Program
open MultiProxy.ChannelHealth MultiProxy.PathRequest MultiProxy.StreamingResponse
open MultiProxy.ProxyRequests MultiProxy.ChannelLoops MultiProxy.RequestRuns
open MultiProxy.FallbackPolicy

set_option autoImplicit false

variable {Value : Type}

/-! ## Order and end -/

section Order

variable (around : Surroundings) (attempt : Route → Proxy (Except String Value))

/-- Facts about the visits of a plan, from a plan that ends, one that stops at
its first candidate, and one that goes on. -/
theorem policy_induction {motive : List Candidate → World → List (Visit Value) → Prop}
    (ends : ∀ world, motive [] world [])
    (stops : ∀ candidate rest world,
      (visit around attempt world candidate).verdict.attempted ≠ .failed →
        motive (candidate :: rest) world [visit around attempt world candidate])
    (goesOn : ∀ candidate rest world later,
      (visit around attempt world candidate).verdict.attempted = .failed →
        motive rest (visit around attempt world candidate).after later →
          motive (candidate :: rest) world (visit around attempt world candidate :: later))
    (plan : List Candidate) (world : World) :
    motive plan world (policy around attempt plan world) := by
  induction plan generalizing world with
  | nil => exact ends world
  | cons candidate rest ih =>
      rw [policy]
      cases attempted : (visit around attempt world candidate).verdict.attempted with
      | failed => exact goesOn candidate rest world _ attempted (ih _)
      | succeeded value => exact stops candidate rest world (by simp [attempted])
      | lost => exact stops candidate rest world (by simp [attempted])

theorem conclude_failed {visited : Visit Value} {later : List (Visit Value)} {world : World}
    (failed : visited.verdict.attempted = .failed) :
    conclude world (visited :: later) = conclude visited.after later := by
  rw [conclude, failed]

theorem conclude_stopped {visited : Visit Value} {world : World}
    (stopped : visited.verdict.attempted ≠ .failed) :
    conclude world [visited] = (visited.verdict.attempted, visited.after) := by
  unfold conclude
  split
  · contradiction
  · rfl

theorem policy_chained (plan : List Candidate) (world : World) :
    Chained world (policy around attempt plan world)
      (conclude world (policy around attempt plan world)).2 := by
  apply policy_induction around attempt
    (motive := fun _ world visits => Chained world visits (conclude world visits).2)
  · intro world
    rfl
  · intro candidate rest world stopped
    rw [conclude_stopped stopped]
    exact ⟨visit_before around attempt world candidate, rfl⟩
  · intro candidate rest world later failed chained
    rw [conclude_failed failed]
    exact ⟨visit_before around attempt world candidate, chained⟩

theorem policy_visits (plan : List Candidate) (world : World) :
    ∀ visited ∈ policy around attempt plan world,
      visit around attempt visited.before visited.candidate = visited := by
  have revisited : ∀ world candidate,
      visit around attempt (visit around attempt world candidate).before
          (visit around attempt world candidate).candidate =
        visit around attempt world candidate := by
    intro world candidate
    rw [visit_before, visit_candidate]
  apply policy_induction around attempt
    (motive := fun _ _ visits => ∀ visited ∈ visits,
      visit around attempt visited.before visited.candidate = visited)
  · intro world visited member
    cases member
  · intro candidate rest world _ visited member
    rw [List.mem_singleton] at member
    subst member
    exact revisited world candidate
  · intro candidate rest world later _ ih visited member
    rcases List.mem_cons.mp member with rfl | inLater
    · exact revisited world candidate
    · exact ih visited inLater

theorem policy_in_order (plan : List Candidate) (world : World) :
    (policy around attempt plan world).map Visit.candidate <+: plan := by
  apply policy_induction around attempt
    (motive := fun plan _ visits => visits.map Visit.candidate <+: plan)
  · intro world
    exact List.nil_prefix
  · intro candidate rest world _
    simp
  · intro candidate rest world later _ ih
    rw [List.map_cons, visit_candidate]
    exact (List.prefix_cons_inj candidate).mpr ih

theorem policy_exhausted (plan : List Candidate) (world : World)
    (failed : (conclude world (policy around attempt plan world)).1 = .failed) :
    (policy around attempt plan world).map Visit.candidate = plan := by
  revert failed
  apply policy_induction around attempt
    (motive := fun plan world visits => (conclude world visits).1 = .failed →
      visits.map Visit.candidate = plan)
  · intro world _
    rfl
  · intro candidate rest world stopped failed
    rw [conclude_stopped stopped] at failed
    contradiction
  · intro candidate rest world later failed ih failedLater
    rw [conclude_failed failed] at failedLater
    rw [List.map_cons, visit_candidate, ih failedLater]

theorem policy_stops (plan : List Candidate) (world : World) :
    ∀ visited ∈ (policy around attempt plan world).dropLast,
      visited.verdict.attempted = .failed := by
  apply policy_induction around attempt
    (motive := fun _ _ visits => ∀ visited ∈ visits.dropLast, visited.verdict.attempted = .failed)
  · intro world visited member
    cases member
  · intro candidate rest world _ visited member
    cases member
  · intro candidate rest world later failed ih visited member
    cases later with
    | nil => cases member
    | cons next rest =>
        rw [List.dropLast_cons_cons] at member
        rcases List.mem_cons.mp member with rfl | inLater
        · exact failed
        · exact ih visited inLater

theorem attempted_succeeded_iff (verdict : Verdict Value) (value : Value) :
    verdict.attempted = .succeeded value ↔ verdict = .returned (.ok value) := by
  cases verdict with
  | passedOver => simp [Verdict.attempted]
  | lost => simp [Verdict.attempted]
  | returned outcome => cases outcome <;> simp [Verdict.attempted]

theorem policy_succeeds (plan : List Candidate) (world : World) (value : Value) :
    (conclude world (policy around attempt plan world)).1 = .succeeded value ↔
      ∃ visited ∈ policy around attempt plan world, visited.verdict = .returned (.ok value) := by
  simp only [← attempted_succeeded_iff]
  apply policy_induction around attempt
    (motive := fun _ world visits => (conclude world visits).1 = .succeeded value ↔
      ∃ visited ∈ visits, visited.verdict.attempted = .succeeded value)
  · intro world
    simp [conclude]
  · intro candidate rest world stopped
    rw [conclude_stopped stopped]
    simp
  · intro candidate rest world later failed ih
    rw [conclude_failed failed, ih]
    simp [failed]

theorem policy_returns (plan : List Candidate) (world : World)
    (returned : (conclude world (policy around attempt plan world)).1 ≠ .lost) :
    ∀ visited ∈ policy around attempt plan world, visited.verdict ≠ .lost := by
  revert returned
  apply policy_induction around attempt
    (motive := fun _ world visits => (conclude world visits).1 ≠ .lost →
      ∀ visited ∈ visits, visited.verdict ≠ .lost)
  · intro world _ visited member
    cases member
  · intro candidate rest world stopped returned visited member lost
    rw [List.mem_singleton] at member
    subst member
    rw [conclude_stopped stopped, lost] at returned
    exact returned rfl
  · intro candidate rest world later failed ih returned visited member
    rw [conclude_failed failed] at returned
    rcases List.mem_cons.mp member with rfl | inLater
    · intro lost
      rw [lost] at failed
      cases failed
    · exact ih returned visited inLater

end Order

theorem policy_not_lost {around : Surroundings} {attempt : Route → Proxy (Except String Value)}
    (returns : ∀ route world, (runAlone around (attempt route) world).1 ≠ none)
    (plan : List Candidate) (world : World) :
    (conclude world (policy around attempt plan world)).1 ≠ .lost := by
  have found : ∀ world candidate, (visit around attempt world candidate).verdict ≠ .lost := by
    intro world candidate
    have present : ∀ outcome : Option (Except String Value), outcome ≠ none →
        verdictOf outcome ≠ .lost := by
      intro outcome present lost
      cases outcome with
      | none => contradiction
      | some outcome => cases lost
    cases candidate with
    | direct => exact present _ (returns .direct world)
    | via channel =>
        rw [visit]
        split
        · exact present _ (returns _ world.tick)
        · intro lost
          cases lost
  apply policy_induction around attempt
    (motive := fun _ world visits => (conclude world visits).1 ≠ .lost)
  · intro world lost
    cases lost
  · intro candidate rest world stopped lost
    rw [conclude_stopped stopped] at lost
    have verdict := found world candidate
    cases reached : (visit around attempt world candidate).verdict with
    | passedOver =>
        rw [reached] at lost
        cases lost
    | lost => exact absurd reached verdict
    | returned outcome =>
        rw [reached] at lost
        cases outcome with
        | ok value => cases lost
        | error message => cases lost
  · intro candidate rest world later failed ih
    rwa [conclude_failed failed]

/-! ## Marks -/

/-- The channel that a visit has marked, and with which result. -/
def markOf (visited : Visit Value) : Option (Nat × Bool) :=
  match visited.candidate, visited.verdict with
  | .via channel, .returned outcome => some (channel.id, outcome.isOk)
  | _, _ => none

theorem mark_of_iff {visited : Visit Value} {id : Nat} {healthy : Bool} :
    markOf visited = some (id, healthy) ↔
      ∃ channel result, visited.candidate = .via channel ∧ visited.verdict = .returned result ∧
        channel.id = id ∧ result.isOk = healthy := by
  rw [markOf]
  constructor
  · intro marks
    split at marks
    · rename_i channel result candidate verdict
      cases marks
      exact ⟨channel, result, candidate, verdict, rfl, rfl⟩
    · cases marks
  · rintro ⟨channel, result, candidate, verdict, rfl, rfl⟩
    rw [candidate, verdict]

theorem mark_of_candidate {visited : Visit Value} {id : Nat} {healthy : Bool}
    (marks : markOf visited = some (id, healthy)) : visited.candidate.id = some id := by
  obtain ⟨channel, result, candidate, _, rfl, _⟩ := mark_of_iff.mp marks
  rw [candidate]
  rfl

section Marks

variable {around : Surroundings} {attempt : Route → Proxy (Except String Value)}
  (keeps : ∀ route world, (runAlone around (attempt route) world).2.channels = world.channels)

include keeps

theorem visit_channels (world : World) (candidate : Candidate) :
    match markOf (visit around attempt world candidate) with
    | none => (visit around attempt world candidate).after.channels = world.channels
    | some (id, healthy) => ∃ now, (visit around attempt world candidate).after.channels =
        markChannel world.channels id healthy now := by
  cases candidate with
  | direct => exact keeps .direct world
  | via channel =>
      have kept := keeps (.upstream channel.id channel.dsn) world.tick
      rw [visit]
      by_cases retry : channel.shouldRetry (around.clock world.reads) = true
      · simp only [if_pos retry]
        revert kept
        obtain ⟨outcome, after⟩ :=
          runAlone around (attempt (.upstream channel.id channel.dsn)) world.tick
        intro kept
        cases outcome with
        | none => exact kept
        | some outcome =>
            refine ⟨around.clock after.reads, ?_⟩
            rw [World.mark_channels, kept, World.tick_channels]
      · simp only [if_neg retry]
        rfl

theorem visit_unmarked {one : Visit Value} {index : Nat}
    (visited : visit around attempt one.before one.candidate = one)
    (unmarked : ∀ healthy, markOf one ≠ some (index, healthy)) :
    one.after.channels[index]? = one.before.channels[index]? := by
  have turn := visit_channels keeps one.before one.candidate
  rw [visited] at turn
  cases marks : markOf one with
  | none =>
      rw [marks] at turn
      rw [turn]
  | some mark =>
      obtain ⟨id, healthy⟩ := mark
      rw [marks] at turn
      obtain ⟨now, changed⟩ := turn
      have other : id ≠ index := by
        rintro rfl
        exact unmarked healthy marks
      rw [changed, mark_channel_other _ other]

theorem visits_unmarked {visits : List (Visit Value)} {start finish : World} {index : Nat}
    (visited : ∀ one ∈ visits, visit around attempt one.before one.candidate = one)
    (chained : Chained start visits finish)
    (unmarked : ∀ one ∈ visits, ∀ healthy, markOf one ≠ some (index, healthy)) :
    finish.channels[index]? = start.channels[index]? := by
  induction visits generalizing start with
  | nil =>
      rw [Chained] at chained
      rw [chained]
  | cons first rest ih =>
      obtain ⟨rfl, chained⟩ := chained
      rw [← visit_unmarked keeps (visited first List.mem_cons_self)
        (unmarked first List.mem_cons_self)]
      apply ih _ chained
      · intro one member
        exact unmarked one (List.mem_cons_of_mem first member)
      · intro one member
        exact visited one (List.mem_cons_of_mem first member)

theorem visits_marked {visits : List (Visit Value)} {start finish : World}
    (visited : ∀ one ∈ visits, visit around attempt one.before one.candidate = one)
    (chained : Chained start visits finish)
    (once : (visits.map fun one => one.candidate.id).Nodup) {one : Visit Value}
    (member : one ∈ visits) {index : Nat} {healthy : Bool}
    (marks : markOf one = some (index, healthy)) :
    ∃ now, finish.channels[index]? = start.channels[index]?.map (·.mark healthy now) := by
  induction visits generalizing start with
  | nil => cases member
  | cons first rest ih =>
      obtain ⟨rfl, chained⟩ := chained
      rw [List.map_cons, List.nodup_cons] at once
      have visitedRest : ∀ other ∈ rest,
          visit around attempt other.before other.candidate = other := by
        intro other inRest
        exact visited other (List.mem_cons_of_mem first inRest)
      rcases List.mem_cons.mp member with rfl | inRest
      · have turn := visit_channels keeps one.before one.candidate
        rw [visited one List.mem_cons_self, marks] at turn
        obtain ⟨now, changed⟩ := turn
        have restUnmarked : ∀ other ∈ rest, ∀ result, markOf other ≠ some (index, result) := by
          intro other inRest result marksToo
          apply once.1
          rw [mark_of_candidate marks, ← mark_of_candidate marksToo]
          exact List.mem_map_of_mem (f := fun one : Visit Value => one.candidate.id) inRest
        refine ⟨now, ?_⟩
        rw [visits_unmarked keeps visitedRest chained restUnmarked, changed, mark_channel_at]
      · have firstUnmarked : ∀ result, markOf first ≠ some (index, result) := by
          intro result marksToo
          apply once.1
          rw [mark_of_candidate marksToo, ← mark_of_candidate marks]
          exact List.mem_map_of_mem (f := fun one : Visit Value => one.candidate.id) inRest
        rw [← visit_unmarked keeps (visited first List.mem_cons_self) firstUnmarked]
        exact ih visitedRest chained once.2 inRest

end Marks

/-! ## The promise -/

theorem candidates_once {dsns : List Dsn} {channels : List Channel}
    (inPlace : InPlace dsns channels) (service : Service) (host : String) (port : UInt16) :
    ((candidates service channels host port).map Candidate.id).Nodup := by
  have ids : ((service.ordered channels host port).map fun channel => some channel.id).Nodup := by
    have distinct : (channels.map Channel.id).Nodup := by
      rw [in_place_ids inPlace]
      exact List.nodup_range
    have permuted := (ordered_channels_perm service.sha256 service.strategy channels
      (hostPort host port)).map Channel.id
    have orderedIds := permuted.nodup_iff.mpr distinct
    have tagged := orderedIds.map (Option.some_injective Nat)
    rw [List.map_map] at tagged
    exact tagged
  unfold candidates
  cases service.directFirst with
  | true => simpa [Candidate.id, Function.comp_def] using ids
  | false => simpa [Candidate.id, Function.comp_def, List.nodup_append] using ids

theorem candidate_in_list {service : Service} {channels : List Channel}
    {host : String} {port : UInt16} {channel : Channel}
    (member : .via channel ∈ candidates service channels host port) :
    channel ∈ channels := by
  have ordered : channel ∈ service.ordered channels host port := by
    rw [candidates] at member
    cases first : service.directFirst <;> simpa [first] using member
  exact (ordered_channels_perm _ _ _ _).mem_iff.mp ordered

/-- What a run promises that came back with an outcome. -/
structure Promised (around : Surroundings) (attempt : Route → Proxy (Except String Value))
    (plan : List Candidate) (start : World) (outcome : Except String Value) (finish : World)
    (visits : List (Visit Value)) : Prop where
  chained : Chained start visits finish
  visited : ∀ one ∈ visits, visit around attempt one.before one.candidate = one
  returned : ∀ one ∈ visits, one.verdict ≠ .lost
  in_order : visits.map Visit.candidate <+: plan
  at_most_once : (visits.map fun one => one.candidate.id).Nodup
  skipped : ∀ one ∈ visits, one.verdict = .passedOver ↔
    ∃ channel, one.candidate = .via channel ∧
      channel.shouldRetry (around.clock one.before.reads) = false
  until_success : ∀ one ∈ visits.dropLast, ∀ value, one.verdict ≠ .returned (.ok value)
  exhausted : (∀ value, outcome ≠ .ok value) → visits.map Visit.candidate = plan
  first_success : ∀ value, outcome = .ok value ↔
    ∃ one ∈ visits, one.verdict = .returned (.ok value)
  marked : ∀ one ∈ visits, ∀ channel result, one.candidate = .via channel →
    one.verdict = .returned result →
      ∃ now, finish.channels[channel.id]? = some (channel.mark result.isOk now)
  unmarked : ∀ index,
    (∀ one ∈ visits, ∀ channel result, one.candidate = .via channel →
      one.verdict = .returned result → channel.id ≠ index) →
        finish.channels[index]? = start.channels[index]?

theorem promised_of_policy {around : Surroundings} {attempt : Route → Proxy (Except String Value)}
    (keeps : ∀ route world, (runAlone around (attempt route) world).2.channels = world.channels)
    {dsns : List Dsn} {start : World} (inPlace : InPlace dsns start.channels) (service : Service)
    (host : String) (port : UInt16) {outcome : Except String Value} {finish : World}
    (same : endOf (some outcome, finish) = conclude start
      (policy around attempt (candidates service start.channels host port) start)) :
    Promised around attempt (candidates service start.channels host port) start outcome finish
      (policy around attempt (candidates service start.channels host port) start) := by
  have ended := congrArg Prod.fst same
  have left : finish = _ := congrArg Prod.snd same
  have inOrder := policy_in_order around attempt (candidates service start.channels host port) start
  have chained := policy_chained around attempt (candidates service start.channels host port) start
  have visited := policy_visits around attempt (candidates service start.channels host port) start
  have once : ((policy around attempt (candidates service start.channels host port) start).map
      fun one => one.candidate.id).Nodup := by
    have ids := (inOrder.sublist.map Candidate.id).nodup (candidates_once inPlace service host port)
    rwa [List.map_map] at ids
  rw [← left] at chained
  constructor
  · exact chained
  · exact visited
  · apply policy_returns
    rw [← ended]
    intro lost
    cases outcome with
    | ok value => cases lost
    | error message => cases lost
  · exact inOrder
  · exact once
  · intro one member
    have passes := visit_passes_over around attempt one.before one.candidate
    rwa [visited one member] at passes
  · intro one member value succeeded
    have stopped := policy_stops around attempt _ start one member
    rw [succeeded] at stopped
    cases stopped
  · intro failed
    apply policy_exhausted
    rw [← ended]
    cases outcome with
    | ok value => exact absurd rfl (failed value)
    | error message => rfl
  · intro value
    rw [← policy_succeeds, ← ended, endOf, attempted_succeeded_iff]
    simp [verdictOf]
  · intro one member channel result candidate verdict
    have marks : markOf one = some (channel.id, result.isOk) :=
      mark_of_iff.mpr ⟨channel, result, candidate, verdict, rfl, rfl⟩
    have planned : .via channel ∈ candidates service start.channels host port := by
      rw [← candidate]
      exact inOrder.subset (List.mem_map_of_mem member)
    have here := (in_place_member inPlace (candidate_in_list planned)).1
    obtain ⟨now, changed⟩ := visits_marked keeps visited chained once member marks
    refine ⟨now, ?_⟩
    rw [changed, here]
    rfl
  · intro index others
    apply visits_unmarked keeps visited chained
    intro one member healthy marks
    obtain ⟨channel, result, candidate, verdict, same, _⟩ := mark_of_iff.mp marks
    exact others one member channel result candidate verdict same

section Styles

variable {around : Surroundings} (returning : around.Returning)

include returning

theorem establish_returns (host : String) (port : UInt16) (route : Route) (world : World) :
    (runAlone around (establish route host port) world).1 ≠ none := by
  rw [alone_establish]
  exact reply_returned (returning.connects _ _ _ _)

theorem connect_and_forward_returns (target : Target) (requestBytes : List UInt8) (route : Route)
    (world : World) :
    (runAlone around (connectAndForward target requestBytes route) world).1 ≠ none := by
  rw [connectAndForward, alone_bind, alone_establish]
  have connects := returning.connects world.connects route target.host target.port
  cases connected : around.connect world.connects route target.host target.port with
  | ok upstream =>
      simp only [replyOf, alone_forward_through]
      exact reply_returned (returning.exchanges _ _ _ _ _ _ _ connected)
  | err message =>
      intro lost
      cases lost
  | panic => rw [connected] at connects; cases connects
  | hang => rw [connected] at connects; cases connects

end Styles

theorem connect_and_forward_keeps_channels (around : Surroundings) (target : Target)
    (requestBytes : List UInt8) (route : Route) (world : World) :
    (runAlone around (connectAndForward target requestBytes route) world).2.channels =
      world.channels :=
  alone_keeps_channels around world
    (connect_and_forward_calls (fun _ => trivial) (fun _ => trivial) route)

/-- Both request styles follow one policy, with the attempts each of them makes. -/
theorem request_styles_follow_policy {around : Surroundings} (returning : around.Returning)
    (service : Service) (dsns : List Dsn) (start : World) (inPlace : InPlace dsns start.channels) :
    (∀ host port, ∃ outcome finish visits,
      runAlone around (acquireTunnel service host port) start = (some outcome, finish) ∧
        Promised around (establish · host port) (candidates service start.channels host port) start
          outcome finish visits) ∧
    ∀ (target : Target) requestBytes, ∃ outcome finish visits,
      runAlone around (forwardAttempts target requestBytes service) start = (some outcome, finish) ∧
        Promised around (connectAndForward target requestBytes)
          (candidates service start.channels target.host target.port)
          start outcome finish visits := by
  constructor
  · intro host port
    have same := acquire_tunnel_is_policy around host port service start
    have found := policy_not_lost (establish_returns returning host port)
      (candidates service start.channels host port) start
    have keeps : ∀ route world,
        (runAlone around (establish route host port) world).2.channels = world.channels := by
      intro route world
      rw [alone_establish]
      rfl
    rcases ran : runAlone around (acquireTunnel service host port) start with ⟨outcome, finish⟩
    rw [ran] at same
    cases outcome with
    | none =>
        rw [← same] at found
        exact absurd rfl found
    | some outcome => exact ⟨outcome, finish, _, rfl, promised_of_policy keeps inPlace _ _ _ same⟩
  · intro target requestBytes
    have same := forward_attempts_is_policy around target requestBytes service start
    have found := policy_not_lost (connect_and_forward_returns returning target requestBytes)
      (candidates service start.channels target.host target.port) start
    have keeps := connect_and_forward_keeps_channels around target requestBytes
    rcases ran : runAlone around (forwardAttempts target requestBytes service) start with
      ⟨outcome, finish⟩
    rw [ran] at same
    cases outcome with
    | none =>
        rw [← same] at found
        exact absurd rfl found
    | some outcome => exact ⟨outcome, finish, _, rfl, promised_of_policy keeps inPlace _ _ _ same⟩

def getBytes : List UInt8 := requestBytes "GET" exampleTarget [] []

def lastlyDirect : Service := { PathDestination.exampleService with directFirst := false }

/-- Every connection of the request breaks off: both channels are tried and marked, and
the direct route comes last. -/
theorem cut_forward_follows_policy :
    ∃ outcome finish visits,
      runAlone cutSurroundings (forwardAttempts exampleTarget getBytes lastlyDirect)
          (World.initial (channelsOf [localSocks, localSocks])) = (some outcome, finish) ∧
        Promised cutSurroundings (connectAndForward exampleTarget getBytes)
          (candidates lastlyDirect (channelsOf [localSocks, localSocks]) exampleTarget.host
            exampleTarget.port)
          (World.initial (channelsOf [localSocks, localSocks])) outcome finish visits :=
  (request_styles_follow_policy cut_surroundings_return lastlyDirect [localSocks, localSocks]
    (World.initial (channelsOf [localSocks, localSocks])) (channels_of_in_place _)).2
    exampleTarget getBytes

end MultiProxy.FallbackResults
