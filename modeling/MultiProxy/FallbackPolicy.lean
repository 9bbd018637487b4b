import MultiProxy.RequestRuns

/-!
# One fallback policy for both request styles

The policy is a list of candidates and a way to attempt one: candidates are
visited in order until an attempt succeeds, a channel whose breaker is open is
passed over, and every attempted channel is marked with its result. Both request
styles of the proxy are this policy, with different attempts.
-/

namespace MultiProxy.FallbackPolicy

open MultiProxy.RustRuntime MultiProxy.DuplexStream MultiProxy.UpstreamDsn
open MultiProxy.InteractionPrograms MultiProxy.InteractionPrograms.Program
open MultiProxy.ChannelHealth MultiProxy.PathRequest MultiProxy.StreamingResponse
open MultiProxy.ProxyRequests MultiProxy.ChannelLoops MultiProxy.RequestRuns

set_option autoImplicit false

variable {Value : Type}

/-! ## The policy -/

inductive Candidate where
  | direct
  | via (channel : Channel)

def Candidate.route : Candidate → Route
  | .direct => .direct
  | .via channel => .upstream channel.id channel.dsn

/-- The id of a channel; the direct connection has none. -/
def Candidate.id : Candidate → Option Nat
  | .direct => none
  | .via channel => some channel.id

/-- What became of a candidate. A lost attempt never comes back to its caller. -/
inductive Verdict (Value : Type) where
  | passedOver
  | returned (outcome : Except String Value)
  | lost

/-- How a list of attempts ends. -/
inductive Attempted (Value : Type) where
  | succeeded (value : Value)
  | failed
  | lost

def Verdict.attempted : Verdict Value → Attempted Value
  | .passedOver => .failed
  | .returned (.error _) => .failed
  | .returned (.ok value) => .succeeded value
  | .lost => .lost

def verdictOf : Option (Except String Value) → Verdict Value
  | some outcome => .returned outcome
  | none => .lost

/-- A candidate, and the world before and after its turn. -/
structure Visit (Value : Type) where
  candidate : Candidate
  before : World
  verdict : Verdict Value
  after : World

/-- The end of a list of visits that began in the given world. -/
def conclude : World → List (Visit Value) → Attempted Value × World
  | start, [] => (.failed, start)
  | _, visited :: rest =>
      match visited.verdict.attempted with
      | .failed => conclude visited.after rest
      | ended => (ended, visited.after)

/-- Each visit begins in the world that the one before it left. -/
def Chained : World → List (Visit Value) → World → Prop
  | start, [], finish => start = finish
  | start, visited :: rest, finish => visited.before = start ∧ Chained visited.after rest finish

section Policy

variable (around : Surroundings) (attempt : Route → Proxy (Except String Value))

/-- One candidate: nothing when it is passed over, else its attempt, marked. -/
def visit (world : World) : Candidate → Visit Value
  | .direct =>
      let (outcome, after) := runAlone around (attempt .direct) world
      { candidate := .direct, before := world, verdict := verdictOf outcome, after := after }
  | .via channel =>
      if channel.shouldRetry (around.clock world.reads) then
        let (outcome, after) :=
          runAlone around (attempt (.upstream channel.id channel.dsn)) world.tick
        { candidate := .via channel
          before := world
          verdict := verdictOf outcome
          after :=
            match outcome with
            | some outcome => after.mark channel.id outcome.isOk (around.clock after.reads)
            | none => after }
      else
        { candidate := .via channel, before := world, verdict := .passedOver, after := world.tick }

def policy : List Candidate → World → List (Visit Value)
  | [], _ => []
  | candidate :: rest, world =>
      let visited := visit around attempt world candidate
      match visited.verdict.attempted with
      | .failed => visited :: policy rest visited.after
      | _ => [visited]

/-- The direct connection stands in front of the channels or behind them. -/
def candidates (service : Service) (channels : List Channel) (host : String) (port : UInt16) :
    List Candidate :=
  (if service.directFirst then [.direct] else []) ++
    (service.ordered channels host port).map .via ++
      (if !service.directFirst then [.direct] else [])

@[simp] theorem visit_candidate (world : World) (candidate : Candidate) :
    (visit around attempt world candidate).candidate = candidate := by
  cases candidate with
  | direct => rfl
  | via channel =>
      rw [visit]
      split
      · rfl
      · rfl

@[simp] theorem visit_before (world : World) (candidate : Candidate) :
    (visit around attempt world candidate).before = world := by
  cases candidate with
  | direct => rfl
  | via channel =>
      rw [visit]
      split
      · rfl
      · rfl

/-- A channel is passed over exactly when its breaker is open as it is reached. -/
theorem visit_passes_over (world : World) (candidate : Candidate) :
    (visit around attempt world candidate).verdict = .passedOver ↔
      ∃ channel, candidate = .via channel ∧
        channel.shouldRetry (around.clock world.reads) = false := by
  have tried : ∀ outcome : Option (Except String Value), verdictOf outcome ≠ .passedOver := by
    intro outcome passed
    cases outcome with
    | none => cases passed
    | some outcome => cases passed
  cases candidate with
  | direct =>
      constructor
      · intro passed
        exact absurd passed (tried _)
      · rintro ⟨channel, same, _⟩
        cases same
  | via channel =>
      simp only [visit, Candidate.via.injEq, exists_eq_left']
      split
      · rename_i retry
        simp [retry, tried]
      · rename_i retry
        simp [retry]

theorem conclude_policy_append (front back : List Candidate) (world : World) :
    conclude world (policy around attempt (front ++ back) world) =
      match conclude world (policy around attempt front world) with
      | (.failed, middle) => conclude middle (policy around attempt back middle)
      | ended => ended := by
  induction front generalizing world with
  | nil => rfl
  | cons candidate rest ih =>
      simp only [List.cons_append, policy]
      cases attempted : (visit around attempt world candidate).verdict.attempted with
      | succeeded value => simp [conclude, attempted]
      | lost => simp [conclude, attempted]
      | failed =>
          simp only [conclude, attempted]
          exact ih _

end Policy

/-! ## The two request styles -/

/-- The end of a run, its error text left out. -/
def endOf (ran : Option (Except String Value) × World) : Attempted Value × World :=
  ((verdictOf ran.1).attempted, ran.2)

theorem channel_loop_is_policy (around : Surroundings)
    (attempt : Route → Proxy (Except String Value)) (channels : List Channel) (lastErr : String)
    (world : World) :
    endOf (runAlone around (channelLoop attempt channels lastErr) world) =
      conclude world (policy around attempt (channels.map .via) world) := by
  induction channels generalizing lastErr world with
  | nil =>
      rw [channel_loop_nil]
      rfl
  | cons channel rest ih =>
      rw [channel_loop_cons, alone_read_clock, List.map_cons, policy]
      simp only [visit]
      by_cases retry : channel.shouldRetry (around.clock world.reads) = true
      · simp only [if_pos retry, turn, alone_bind]
        obtain ⟨outcome, after⟩ :=
          runAlone around (attempt (.upstream channel.id channel.dsn)) world.tick
        cases outcome with
        | none => rfl
        | some outcome =>
            cases outcome with
            | ok value => rfl
            | error message => exact ih message _
      · simp only [if_neg retry]
        exact ih lastErr world.tick

theorem end_of_or_else (around : Surroundings) (first : Proxy (Except String Value))
    (later : String → Proxy (Except String Value)) (world : World)
    (finish : World → Attempted Value × World)
    (agrees : ∀ lastErr, endOf (runAlone around (later lastErr) (runAlone around first world).2) =
      finish (runAlone around first world).2) :
    endOf (runAlone around (orElse first later) world) =
      match endOf (runAlone around first world) with
      | (.failed, middle) => finish middle
      | ended => ended := by
  rw [orElse, alone_bind]
  revert agrees
  obtain ⟨outcome, after⟩ := runAlone around first world
  intro agrees
  cases outcome with
  | none => rfl
  | some outcome =>
      cases outcome with
      | ok value => rfl
      | error lastErr => exact agrees lastErr

theorem end_of_or_error (around : Surroundings) (first : Proxy (Except String Value))
    (reworded : String → String) (world : World) :
    endOf (runAlone around (orElse first fun lastErr => pure (.error (reworded lastErr))) world) =
      endOf (runAlone around first world) := by
  rw [orElse, alone_bind]
  obtain ⟨outcome, after⟩ := runAlone around first world
  cases outcome with
  | none => rfl
  | some outcome =>
      cases outcome with
      | ok value => rfl
      | error lastErr => rfl

section Tunnel

variable (around : Surroundings) (host : String) (port : UInt16)

theorem tunnel_directly_is_policy (wanted : Bool) (lastErr : String) (world : World) :
    endOf (runAlone around (tunnelDirectly wanted host port lastErr) world) =
      conclude world (policy around (establish · host port)
        (if wanted then [.direct] else []) world) := by
  cases wanted with
  | false => rfl
  | true =>
      simp only [tunnelDirectly, if_true, alone_bind, policy, visit]
      obtain ⟨outcome, after⟩ := runAlone around (establish .direct host port) world
      cases outcome with
      | none => rfl
      | some outcome =>
          cases outcome with
          | ok stream => rfl
          | error message => rfl

theorem acquire_tunnel_is_policy (service : Service) (world : World) :
    endOf (runAlone around (acquireTunnel service host port) world) =
      conclude world (policy around (establish · host port)
        (candidates service world.channels host port) world) := by
  rw [acquireTunnel, candidates, List.append_assoc, conclude_policy_append,
    ← tunnel_directly_is_policy around host port service.directFirst ""]
  apply end_of_or_else
  intro lastErr
  rw [snapshot_bind, alone_snapshot,
    alone_keeps_channels around world (tunnel_directly_calls (fun _ => trivial) _ _),
    conclude_policy_append, tunnel_through_is_loop,
    ← channel_loop_is_policy around (establish · host port) _ lastErr]
  apply end_of_or_else
  intro lastErr
  rw [← tunnel_directly_is_policy around host port _ lastErr]
  exact end_of_or_error around _ _ _

theorem acquire_tunnel_leaves (service : Service) (world : World) :
    (runAlone around (acquireTunnel service host port) world).2 =
      (conclude world (policy around (establish · host port)
        (candidates service world.channels host port) world)).2 :=
  congrArg Prod.snd (acquire_tunnel_is_policy around host port service world)

end Tunnel

section Forward

variable (around : Surroundings) (target : Target) (requestBytes : List UInt8)

theorem forward_directly_is_policy (wanted : Bool) (lastErr : String) (world : World) :
    endOf (runAlone around (forwardDirectly target requestBytes wanted lastErr) world) =
      conclude world (policy around (connectAndForward target requestBytes)
        (if wanted then [.direct] else []) world) := by
  cases wanted with
  | false => rfl
  | true =>
      simp only [forwardDirectly, connectAndForward, if_true, alone_bind, policy, visit]
      obtain ⟨connected, opened⟩ :=
        runAlone around (establish .direct target.host target.port) world
      cases connected with
      | none => rfl
      | some connected =>
          cases connected with
          | error message => rfl
          | ok upstream =>
              simp only
              rcases runAlone around
                (forwardThrough upstream target.host target.isHttps requestBytes) opened with
                ⟨answered, after⟩
              cases answered with
              | none => rfl
              | some answered =>
                  cases answered with
                  | ok response => rfl
                  | error message => rfl

theorem forward_attempts_is_policy (service : Service) (world : World) :
    endOf (runAlone around (forwardAttempts target requestBytes service) world) =
      conclude world (policy around (connectAndForward target requestBytes)
        (candidates service world.channels target.host target.port) world) := by
  rw [forwardAttempts, candidates, List.append_assoc, conclude_policy_append,
    ← forward_directly_is_policy around target requestBytes service.directFirst ""]
  apply end_of_or_else
  intro lastErr
  rw [snapshot_bind, alone_snapshot,
    alone_keeps_channels around world
      (forward_directly_calls (fun _ => trivial) (fun _ => trivial) _ _),
    conclude_policy_append, forward_through_channels_is_loop,
    ← channel_loop_is_policy around (connectAndForward target requestBytes) _ lastErr]
  apply end_of_or_else
  intro lastErr
  exact forward_directly_is_policy around target requestBytes _ lastErr _

theorem forward_attempts_leave (service : Service) (world : World) :
    (runAlone around (forwardAttempts target requestBytes service) world).2 =
      (conclude world (policy around (connectAndForward target requestBytes)
        (candidates service world.channels target.host target.port) world)).2 :=
  congrArg Prod.snd (forward_attempts_is_policy around target requestBytes service world)

end Forward

end MultiProxy.FallbackPolicy
