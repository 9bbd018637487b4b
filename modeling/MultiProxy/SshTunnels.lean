import MultiProxy.SshSessionSharing

/-!
# Tunnels over the pooled SSH sessions

A call of `establish` has `get_or_connect` hand it a session, waits for the session's
mutex, and holds it until the server has answered the channel it opens. Nothing bounds
that answer. The client may leave at any time, which drops the call where it stands.
-/

namespace MultiProxy.SshTunnels

open MultiProxy.RustRuntime MultiProxy.TransitionRuns MultiProxy.UpstreamDsn
open MultiProxy.SshSessionPool MultiProxy.SshSessionSharing

set_option autoImplicit false

/-- Where a call of `establish` stands. Its stream is over a channel of the session. -/
inductive Stage where
  | gettingSession
  | waiting (handle : Handle)
  | opening (handle : Handle)
  | done (result : Except String Handle)
  | dropped

/-- The pool, and the stage of each call of `get_or_connect`. -/
structure Tunnels where
  pool : PoolState
  stages : List Stage

def noTunnels : Tunnels where
  pool := emptyPool
  stages := []

inductive Event (KeyPair : Type) where
  | establish (dsn : SshDsn)
  | lookup (index : Nat)
  | connect (index : Nat) (outside : Outside KeyPair)
  | store (index : Nat)
  | receive (index : Nat)
  | acquire (index : Nat)
  | opened (index : Nat) (answer : Except String Unit)
  | drop (index : Nat)
  | checkIdle (idleTimeout : Duration)
  | close (handle : Handle)
  | tick (duration : Duration)

def isLocked (state : PoolState) (handle : Handle) : Bool :=
  state.sessions[handle]?.any Session.locked

namespace Tunnels

def setStage (state : Tunnels) (index : Nat) (stage : Stage) : Tunnels :=
  { state with stages := state.stages.set index stage }

section Sections

variable {KeyPair : Type} (state : Tunnels)

def inPool (action : Action KeyPair) : Option Tunnels :=
  (step state.pool action).map fun pool => { state with pool := pool }

/-- A section of `get_or_connect`, as long as the call has not been dropped. -/
def inGetOrConnect (index : Nat) (action : Action KeyPair) : Option Tunnels :=
  match state.stages[index]? with
  | some .gettingSession => state.inPool action
  | _ => none

end Sections

/-- The end of `get_or_connect`: its error is the call's own. -/
def receive (state : Tunnels) (index : Nat) : Option Tunnels :=
  match state.stages[index]?, state.pool.calls[index]? with
  | some .gettingSession, some call =>
      match call.phase with
      | .returned (.ok handle) => some (state.setStage index (.waiting handle))
      | .returned (.error message) => some (state.setStage index (.done (.error message)))
      | _ => none
  | _, _ => none

/-- `handle.lock()`. Any call that waits may be the next. -/
def acquire (state : Tunnels) (index : Nat) : Option Tunnels :=
  match state.stages[index]? with
  | some (.waiting handle) =>
      if isLocked state.pool handle then none
      else
        some ({ state with
          pool := state.pool.changeSession handle fun session => { session with locked := true } }
            |>.setStage index (.opening handle))
  | _ => none

/-- The guard is dropped, and the mutex with it. -/
def release (state : Tunnels) (handle : Handle) : Tunnels :=
  { state with
    pool := state.pool.changeSession handle fun session => { session with locked := false } }

def streamOver (handle : Handle) : Except String Unit → Except String Handle
  | .ok _ => .ok handle
  | .error message => .error s!"SSH channel open failed: {message}"

def opened (state : Tunnels) (index : Nat) (answer : Except String Unit) : Option Tunnels :=
  match state.stages[index]? with
  | some (.opening handle) =>
      some ((state.release handle).setStage index (.done (streamOver handle answer)))
  | _ => none

def drop (state : Tunnels) (index : Nat) : Option Tunnels :=
  match state.stages[index]? with
  | some .gettingSession => some (state.setStage index .dropped)
  | some (.waiting _) => some (state.setStage index .dropped)
  | some (.opening handle) => some ((state.release handle).setStage index .dropped)
  | _ => none

end Tunnels

variable {KeyPair : Type}

def tunnelStep (state : Tunnels) : Event KeyPair → Option Tunnels
  | .establish dsn => (state.inPool (.call dsn : Action KeyPair)).map fun called =>
      { called with stages := called.stages ++ [.gettingSession] }
  | .lookup index => state.inGetOrConnect index (.lookup index : Action KeyPair)
  | .connect index outside => state.inGetOrConnect index (.connect index outside)
  | .store index => state.inGetOrConnect index (.store index : Action KeyPair)
  | .receive index => state.receive index
  | .acquire index => state.acquire index
  | .opened index answer => state.opened index answer
  | .drop index => state.drop index
  | .checkIdle idleTimeout => state.inPool (.checkIdle idleTimeout : Action KeyPair)
  | .close handle => state.inPool (.close handle : Action KeyPair)
  | .tick duration => state.inPool (.tick duration : Action KeyPair)

/-! ## What an event can do -/

/-- The steps of the pool that neither begin a call nor touch a session's mutex. -/
def Plain : Action KeyPair → Prop
  | .call _ => False
  | .lock _ => False
  | .unlock _ => False
  | _ => True

/-- A stage in which the call has nothing to do with any mutex. -/
def Stage.isFree : Stage → Bool
  | .waiting _ => false
  | .opening _ => false
  | _ => true

/-- Every way an event can end. -/
inductive TunnelEffect (before : Tunnels) : Event KeyPair → Tunnels → Prop where
  | began (dsn : SshDsn) (pool : PoolState)
      (taken : step before.pool (.call dsn : Action KeyPair) = some pool) :
      TunnelEffect before (.establish dsn)
        { pool := pool, stages := before.stages ++ [.gettingSession] }
  | moved (event : Event KeyPair) (action : Action KeyPair) (pool : PoolState)
      (plain : Plain action) (taken : step before.pool action = some pool) :
      TunnelEffect before event { before with pool := pool }
  | handed (index : Nat) (handle : Handle) (call : Call)
      (found : before.stages[index]? = some .gettingSession)
      (known : before.pool.calls[index]? = some call)
      (phase : call.phase = .returned (.ok handle)) :
      TunnelEffect before (.receive index) (before.setStage index (.waiting handle))
  | refused (index : Nat) (message : String)
      (found : before.stages[index]? = some .gettingSession) :
      TunnelEffect before (.receive index) (before.setStage index (.done (.error message)))
  | acquired (index : Nat) (handle : Handle)
      (found : before.stages[index]? = some (.waiting handle))
      (free : isLocked before.pool handle = false) :
      TunnelEffect before (.acquire index)
        ({ before with pool := before.pool.changeSession handle fun session =>
          { session with locked := true } }.setStage index (.opening handle))
  | opened (index : Nat) (handle : Handle) (answer : Except String Unit)
      (found : before.stages[index]? = some (.opening handle)) :
      TunnelEffect before (.opened index answer)
        ((before.release handle).setStage index (.done (Tunnels.streamOver handle answer)))
  | droppedOpening (index : Nat) (handle : Handle)
      (found : before.stages[index]? = some (.opening handle)) :
      TunnelEffect before (.drop index) ((before.release handle).setStage index .dropped)
  | droppedEarlier (index : Nat) (stage : Stage) (found : before.stages[index]? = some stage)
      (earlier : ∀ handle, stage ≠ .opening handle) :
      TunnelEffect before (.drop index) (before.setStage index .dropped)

theorem in_pool_effect {before after : Tunnels} (event : Event KeyPair) {action : Action KeyPair}
    (plain : Plain action) (taken : before.inPool action = some after) :
    TunnelEffect before event after := by
  obtain ⟨pool, moved, rfl⟩ := Option.map_eq_some_iff.mp taken
  exact .moved event action pool plain moved

theorem in_get_or_connect_effect {before after : Tunnels} {index : Nat} (event : Event KeyPair)
    {action : Action KeyPair} (plain : Plain action)
    (taken : before.inGetOrConnect index action = some after) :
    TunnelEffect before event after := by
  unfold Tunnels.inGetOrConnect at taken
  split at taken
  · exact in_pool_effect event plain taken
  · cases taken

theorem tunnel_step_effect {before after : Tunnels} {event : Event KeyPair}
    (taken : tunnelStep before event = some after) : TunnelEffect before event after := by
  cases event with
  | establish dsn =>
      simp only [tunnelStep, Tunnels.inPool, Option.map_eq_some_iff] at taken
      obtain ⟨_, ⟨pool, called, rfl⟩, rfl⟩ := taken
      exact .began dsn pool called
  | lookup index => exact in_get_or_connect_effect _ (by trivial) taken
  | connect index outside => exact in_get_or_connect_effect _ (by trivial) taken
  | store index => exact in_get_or_connect_effect _ (by trivial) taken
  | receive index =>
      simp only [tunnelStep, Tunnels.receive] at taken
      split at taken
      · rename_i call found known
        split at taken
        · cases taken
          exact .handed index _ call found known ‹_›
        · cases taken
          exact .refused index _ found
        · cases taken
      · cases taken
  | acquire index =>
      simp only [tunnelStep, Tunnels.acquire] at taken
      split at taken
      · split at taken
        · cases taken
        · cases taken
          exact .acquired index _ ‹_› (Bool.eq_false_iff.mpr ‹_›)
      · cases taken
  | opened index answer =>
      simp only [tunnelStep, Tunnels.opened] at taken
      split at taken
      · cases taken
        exact .opened index _ answer ‹_›
      · cases taken
  | drop index =>
      simp only [tunnelStep, Tunnels.drop] at taken
      split at taken
      · cases taken
        exact .droppedEarlier index _ ‹_› (by simp)
      · cases taken
        exact .droppedEarlier index _ ‹_› (by simp)
      · cases taken
        exact .droppedOpening index _ ‹_›
      · cases taken
  | checkIdle idleTimeout => exact in_pool_effect _ (by trivial) taken
  | close handle => exact in_pool_effect _ (by trivial) taken
  | tick duration => exact in_pool_effect _ (by trivial) taken

/-! ## What a step of the pool leaves alone -/

theorem returned_stays {before after : PoolState} {action : Action KeyPair}
    (taken : step before action = some after) {index : Nat} {call : Call}
    {result : Except String Handle} (found : before.calls[index]? = some call)
    (returned : call.phase = .returned result) : after.calls[index]? = some call := by
  have moved : ∀ (state : PoolState) other asked phase, state.calls = before.calls →
      before.calls[other]? = some asked → asked.phase ≠ .returned result →
        (state.setPhase other asked phase).calls[index]? = some call := by
    intro state other asked phase same foundOther unreturned
    simp only [PoolState.setPhase, same, List.getElem?_set]
    rw [if_neg, found]
    rintro rfl
    obtain rfl := Option.some.inj (found.symm.trans foundOther)
    exact unreturned returned
  cases step_effect taken with
  | called dsn =>
      have within := (List.getElem?_eq_some_iff.mp found).1
      exact (List.getElem?_append_left within).trans found
  | missed other asked foundOther phase dead =>
      exact moved _ other asked _ rfl foundOther (by simp [phase])
  | reused other asked entry foundOther phase pooled alive =>
      exact moved _ other asked _ rfl foundOther (by simp [phase])
  | opened other outside asked session foundOther phase sessionFor =>
      exact moved _ other asked _ rfl foundOther (by simp [phase])
  | refused other outside asked message foundOther phase =>
      exact moved _ other asked _ rfl foundOther (by simp [phase])
  | stored other asked handle foundOther phase =>
      exact moved _ other asked _ rfl foundOther (by simp [phase])
  | _ => exact found

theorem plain_step_count {before after : PoolState} {action : Action KeyPair}
    (plain : Plain action) (taken : step before action = some after) :
    after.calls.length = before.calls.length := by
  cases step_effect taken with
  | called dsn => cases plain
  | missed => exact List.length_set
  | reused => exact List.length_set
  | opened => exact List.length_set
  | refused => exact List.length_set
  | stored => exact List.length_set
  | _ => rfl

theorem open_session_unlocked (outside : Outside KeyPair) (dsn : SshDsn) (session : Session)
    (opened : openSession outside dsn = .ok session) : session.locked = false := by
  unfold openSession clientConnect at opened
  cases connected : outside.connect (clientConfig dsn) (hostPort dsn.host dsn.port) with
  | error message => rw [connected] at opened; cases opened
  | ok _ =>
      simp only [connected, Except.map, Except.mapError, bind, Except.bind] at opened
      split at opened
      · cases opened
      · rename_i result authenticated
        obtain ⟨accepted, after⟩ := result
        cases accepted with
        | false => cases opened
        | true =>
            have sameUser := authenticate_user outside dsn _ after authenticated
            cases opened
            subst sameUser
            rfl

theorem is_locked_of_new {before after : PoolState} {session : Session}
    (grown : after.sessions = before.sessions ++ [session]) (unlocked : session.locked = false)
    (handle : Handle) : isLocked after handle = isLocked before handle := by
  unfold isLocked
  rw [grown, List.getElem?_append]
  split
  · rfl
  · rename_i beyond
    rw [List.getElem?_eq_none (Nat.le_of_not_lt beyond)]
    cases at_ : [session][handle - before.sessions.length]? with
    | none => rfl
    | some last =>
        have same := List.mem_singleton.mp (List.mem_of_getElem? at_)
        simp [same, unlocked]

theorem is_locked_of_change (state : PoolState) (target : Handle) (change : Session → Session)
    (handle : Handle) :
    isLocked (state.changeSession target change) handle =
      (state.sessions[handle]?.any fun session =>
        if target = handle then (change session).locked else session.locked) := by
  unfold isLocked PoolState.changeSession
  rw [List.getElem?_modify]
  cases state.sessions[handle]? with
  | none => rfl
  | some session =>
      by_cases hit : target = handle
      · simp [hit]
      · simp [hit]

theorem plain_step_locks {before after : PoolState} {action : Action KeyPair}
    (kept : ∀ handle, action ≠ .lock handle ∧ action ≠ .unlock handle)
    (taken : step before action = some after) (handle : Handle) :
    isLocked after handle = isLocked before handle := by
  cases action with
  | connect index outside =>
      simp only [step] at taken
      split at taken
      · rename_i call found
        split at taken
        · cases taken
          unfold connectSection
          cases opened : openSession outside call.dsn with
          | error message => rfl
          | ok session =>
              have unlocked := open_session_unlocked outside call.dsn session opened
              exact is_locked_of_new rfl unlocked handle
        · cases taken
      · cases taken
  | close target =>
      cases taken
      rw [is_locked_of_change]
      simp [isLocked]
  | lock target => exact absurd rfl (kept target).1
  | unlock target => exact absurd rfl (kept target).2
  | _ =>
      cases step_effect taken <;> rfl

theorem locked_once_taken (state : PoolState) {handle : Handle}
    (known : handle < state.sessions.length) (other : Handle) :
    isLocked (state.changeSession handle fun session => { session with locked := true }) other =
      true ↔ handle = other ∨ isLocked state other = true := by
  rw [is_locked_of_change]
  by_cases same : handle = other
  · subst same
    simp [List.getElem?_eq_getElem known]
  · simp [same, isLocked]

theorem locked_once_released (state : PoolState) (handle other : Handle) :
    isLocked (state.changeSession handle fun session => { session with locked := false }) other =
      true ↔ handle ≠ other ∧ isLocked state other = true := by
  rw [is_locked_of_change]
  by_cases same : handle = other
  · simp [same]
  · simp [same, isLocked]

/-! ## The mutexes over whole runs -/

/-- Calls that have to do with a mutex were handed its session; a mutex is held exactly
while a call opens its channel, and by that call alone. -/
structure InOrder (state : Tunnels) : Prop where
  aligned : state.stages.length = state.pool.calls.length
  opened : HandlesOpened state.pool
  handed : ∀ (index : Nat) handle,
    state.stages[index]? = some (.waiting handle) ∨ state.stages[index]? = some (.opening handle) →
      ∃ call, state.pool.calls[index]? = some call ∧ call.phase = .returned (.ok handle)
  held : ∀ handle, isLocked state.pool handle = true ↔
    ∃ index : Nat, state.stages[index]? = some (.opening handle)
  alone : ∀ (index other : Nat) handle, state.stages[index]? = some (.opening handle) →
    state.stages[other]? = some (.opening handle) → index = other

theorem no_tunnels_in_order : InOrder noTunnels where
  aligned := rfl
  opened := empty_pool_handles_opened
  handed := by simp [noTunnels]
  held := by simp [noTunnels, isLocked, emptyPool]
  alone := by simp [noTunnels]

theorem stage_after_set {state : Tunnels} {index : Nat} {stage : Stage} {other : Nat}
    {found : Stage} (at_ : (state.setStage index stage).stages[other]? = some found) :
    (other = index ∧ found = stage) ∨ (other ≠ index ∧ state.stages[other]? = some found) := by
  simp only [Tunnels.setStage, List.getElem?_set] at at_
  split at at_
  · split at at_
    · exact .inl ⟨Eq.symm ‹_›, (Option.some.inj at_).symm⟩
    · cases at_
  · exact .inr ⟨Ne.symm ‹_›, at_⟩

theorem stage_of_other {state : Tunnels} {index other : Nat} (apart : other ≠ index)
    (stage : Stage) : (state.setStage index stage).stages[other]? = state.stages[other]? := by
  simp only [Tunnels.setStage, List.getElem?_set]
  exact if_neg (Ne.symm apart)

theorem stage_of_set {state : Tunnels} {index : Nat} {earlier : Stage}
    (found : state.stages[index]? = some earlier) (stage : Stage) :
    (state.setStage index stage).stages[index]? = some stage := by
  simp only [Tunnels.setStage, List.getElem?_set]
  rw [if_pos trivial, if_pos (List.getElem?_eq_some_iff.mp found).1]

theorem in_order_of_plain {before : Tunnels} {pool : PoolState} {stages : List Stage}
    {action : Action KeyPair} (inOrder : InOrder before)
    (kept : ∀ handle, action ≠ .lock handle ∧ action ≠ .unlock handle)
    (taken : step before.pool action = some pool) (aligned : stages.length = pool.calls.length)
    (same : ∀ (index : Nat) stage, stage.isFree = false →
      (stages[index]? = some stage ↔ before.stages[index]? = some stage)) :
    InOrder { pool := pool, stages := stages } where
  aligned := aligned
  opened := handles_opened_step inOrder.opened taken
  handed := by
    intro index handle stands
    rw [same index (.waiting handle) rfl, same index (.opening handle) rfl] at stands
    obtain ⟨call, known, phase⟩ := inOrder.handed index handle stands
    exact ⟨call, returned_stays taken known phase, phase⟩
  held := by
    intro handle
    simp only [plain_step_locks kept taken handle, inOrder.held handle,
      same _ (.opening handle) rfl]
  alone := by
    intro index other handle first second
    rw [same index (.opening handle) rfl] at first
    rw [same other (.opening handle) rfl] at second
    exact inOrder.alone index other handle first second

theorem in_order_of_set {before : Tunnels} {index : Nat} {earlier stage : Stage}
    (inOrder : InOrder before) (found : before.stages[index]? = some earlier)
    (earlierFree : ∀ handle, earlier ≠ .opening handle) (free : ∀ handle, stage ≠ .opening handle)
    (handed : ∀ handle, stage = .waiting handle →
      ∃ call, before.pool.calls[index]? = some call ∧ call.phase = .returned (.ok handle)) :
    InOrder (before.setStage index stage) := by
  have same : ∀ (other : Nat) handle,
      (before.setStage index stage).stages[other]? = some (.opening handle) ↔
        before.stages[other]? = some (.opening handle) := by
    intro other handle
    by_cases here : other = index
    · subst here
      rw [stage_of_set found, found]
      simp [free handle, earlierFree handle]
    · rw [stage_of_other here]
  refine ⟨?_, inOrder.opened, ?_, ?_, ?_⟩
  · rw [Tunnels.setStage, List.length_set]
    exact inOrder.aligned
  · rintro other handle (waits | opens)
    · rcases stage_after_set waits with ⟨rfl, rfl⟩ | ⟨_, earlierWaits⟩
      · exact handed handle rfl
      · exact inOrder.handed other handle (.inl earlierWaits)
    · exact inOrder.handed other handle (.inr ((same other handle).mp opens))
  · intro handle
    simp only [same]
    exact inOrder.held handle
  · intro first second handle firstOpens secondOpens
    exact inOrder.alone first second handle ((same _ _).mp firstOpens) ((same _ _).mp secondOpens)

theorem in_order_of_acquired {before : Tunnels} {index : Nat} {handle : Handle}
    (inOrder : InOrder before) (found : before.stages[index]? = some (.waiting handle))
    (free : isLocked before.pool handle = false) :
    InOrder ({ before with pool := before.pool.changeSession handle fun session =>
      { session with locked := true } }.setStage index (.opening handle)) := by
  obtain ⟨call, known, phase⟩ := inOrder.handed index handle (.inl found)
  have within := inOrder.opened.returned call (List.mem_of_getElem? known) handle phase
  have nobody : ∀ other : Nat, before.stages[other]? ≠ some (.opening handle) := by
    intro other opens
    have locked := (inOrder.held handle).mpr ⟨other, opens⟩
    rw [free] at locked
    cases locked
  have locked : step before.pool (.lock handle : Action Unit) =
    some (before.pool.changeSession handle fun session => { session with locked := true }) := rfl
  refine ⟨?_, handles_opened_step inOrder.opened locked, ?_, ?_, ?_⟩
  · rw [Tunnels.setStage, List.length_set]
    exact inOrder.aligned
  · rintro other asked (waits | opens)
    · rcases stage_after_set waits with ⟨_, impossible⟩ | ⟨_, earlier⟩
      · cases impossible
      · exact inOrder.handed other asked (.inl earlier)
    · rcases stage_after_set opens with ⟨rfl, same⟩ | ⟨_, earlier⟩
      · cases same
        exact ⟨call, known, phase⟩
      · exact inOrder.handed other asked (.inr earlier)
  · intro asked
    refine (locked_once_taken before.pool within asked).trans ?_
    rw [inOrder.held asked]
    constructor
    · rintro (rfl | ⟨other, opens⟩)
      · exact ⟨index, stage_of_set found _⟩
      · refine ⟨other, (stage_of_other ?_ _).trans opens⟩
        rintro rfl
        cases found.symm.trans opens
    · rintro ⟨other, opens⟩
      rcases stage_after_set opens with ⟨_, same⟩ | ⟨_, earlier⟩
      · cases same
        exact .inl rfl
      · exact .inr ⟨other, earlier⟩
  · intro first second asked firstOpens secondOpens
    rcases stage_after_set firstOpens with ⟨rfl, same⟩ | ⟨_, firstEarlier⟩
    · cases same
      rcases stage_after_set secondOpens with ⟨rfl, _⟩ | ⟨_, secondEarlier⟩
      · rfl
      · exact absurd secondEarlier (nobody second)
    · rcases stage_after_set secondOpens with ⟨_, same⟩ | ⟨_, secondEarlier⟩
      · cases same
        exact absurd firstEarlier (nobody first)
      · exact inOrder.alone first second asked firstEarlier secondEarlier

theorem in_order_of_released {before : Tunnels} {index : Nat} {handle : Handle} {stage : Stage}
    (inOrder : InOrder before) (found : before.stages[index]? = some (.opening handle))
    (free : stage.isFree = true) : InOrder ((before.release handle).setStage index stage) := by
  have unlocked : step before.pool (.unlock handle : Action Unit) =
    some (before.release handle).pool := rfl
  have earlier : ∀ {other : Nat} {one : Stage}, one.isFree = false →
      ((before.release handle).setStage index stage).stages[other]? = some one →
        other ≠ index ∧ before.stages[other]? = some one := by
    intro other one bound stands
    rcases stage_after_set stands with ⟨_, rfl⟩ | kept
    · rw [free] at bound
      cases bound
    · exact kept
  refine ⟨?_, handles_opened_step inOrder.opened unlocked, ?_, ?_, ?_⟩
  · rw [Tunnels.setStage, List.length_set]
    exact inOrder.aligned
  · rintro other asked (waits | opens)
    · exact inOrder.handed other asked (.inl (earlier rfl waits).2)
    · exact inOrder.handed other asked (.inr (earlier rfl opens).2)
  · intro asked
    refine (locked_once_released before.pool handle asked).trans ?_
    rw [inOrder.held asked]
    constructor
    · rintro ⟨apart, other, opens⟩
      refine ⟨other, (stage_of_other ?_ _).trans opens⟩
      rintro rfl
      cases found.symm.trans opens
      exact apart rfl
    · rintro ⟨other, opens⟩
      obtain ⟨apart, opensEarlier⟩ := earlier rfl opens
      refine ⟨?_, other, opensEarlier⟩
      rintro rfl
      exact apart (inOrder.alone other index handle opensEarlier found)
  · intro first second asked firstOpens secondOpens
    exact inOrder.alone first second asked (earlier rfl firstOpens).2 (earlier rfl secondOpens).2

theorem in_order_step {before after : Tunnels} {event : Event KeyPair} (inOrder : InOrder before)
    (taken : tunnelStep before event = some after) : InOrder after := by
  cases tunnel_step_effect taken with
  | began dsn pool called =>
      refine in_order_of_plain inOrder (by simp) called ?_ ?_
      · cases called
        simp [inOrder.aligned]
      · intro index stage bound
        rw [List.getElem?_append]
        split
        · rfl
        · rename_i beyond
          rw [List.getElem?_eq_none (Nat.le_of_not_lt beyond)]
          refine iff_of_false ?_ (by simp)
          intro last
          rw [List.mem_singleton.mp (List.mem_of_getElem? last)] at bound
          cases bound
  | moved event action pool plain moved =>
      refine in_order_of_plain inOrder ?_ moved ?_ (fun _ _ _ => Iff.rfl)
      · intro handle
        constructor
        · rintro rfl
          cases plain
        · rintro rfl
          cases plain
      · rw [plain_step_count plain moved]
        exact inOrder.aligned
  | handed index handle call found known phase =>
      refine in_order_of_set inOrder found (by simp) (by simp) ?_
      rintro _ ⟨⟩
      exact ⟨call, known, phase⟩
  | refused index message found => exact in_order_of_set inOrder found (by simp) (by simp) (by simp)
  | acquired index handle found free => exact in_order_of_acquired inOrder found free
  | opened index handle answer found => exact in_order_of_released inOrder found rfl
  | droppedOpening index handle found => exact in_order_of_released inOrder found rfl
  | droppedEarlier index stage found earlier =>
      exact in_order_of_set inOrder found earlier (by simp) (by simp)

theorem in_order_run {finish : Tunnels} {events : List (Event KeyPair)}
    (ran : runFrom tunnelStep noTunnels events = some finish) : InOrder finish :=
  run_preserves (fun _ _ _ inOrder taken => in_order_step inOrder taken) no_tunnels_in_order ran

/-! ## Who goes on, and who waits for whom -/

theorem waiting_goes_on {state : Tunnels} {index : Nat} {handle : Handle}
    (waits : state.stages[index]? = some (.waiting handle))
    (free : isLocked state.pool handle = false) :
    (tunnelStep state (.acquire index : Event KeyPair)).isSome := by
  simp [tunnelStep, Tunnels.acquire, waits, free]

theorem answer_frees {state : Tunnels} {opener waiter : Nat} {handle : Handle}
    (opens : state.stages[opener]? = some (.opening handle))
    (waits : state.stages[waiter]? = some (.waiting handle)) (answer : Except String Unit) :
    ∃ next, tunnelStep state (.opened opener answer : Event KeyPair) = some next ∧
      (tunnelStep next (.acquire waiter : Event KeyPair)).isSome := by
  refine ⟨(state.release handle).setStage opener (.done (Tunnels.streamOver handle answer)), ?_, ?_⟩
  · simp [tunnelStep, Tunnels.opened, opens]
  · have apart : waiter ≠ opener := by
      rintro rfl
      cases waits.symm.trans opens
    have free : isLocked (state.release handle).pool handle = false := by
      rw [Bool.eq_false_iff]
      intro locked
      exact ((locked_once_released state.pool handle handle).mp locked).1 rfl
    exact waiting_goes_on ((stage_of_other apart _).trans waits) free

def GoesOn (KeyPair : Type) (state : Tunnels) (index : Nat) : Stage → Prop
  | .gettingSession => ∀ outside : Outside KeyPair,
      ∃ event ∈ [.lookup index, .connect index outside, .store index, .receive index],
        (tunnelStep state event).isSome
  | .waiting handle => (tunnelStep state (.acquire index : Event KeyPair)).isSome ∨
      ∃ opener : Nat, state.stages[opener]? = some (.opening handle) ∧ ∀ answer, ∃ next,
        tunnelStep state (.opened opener answer : Event KeyPair) = some next ∧
          (tunnelStep next (.acquire index : Event KeyPair)).isSome
  | .opening _ => ∀ answer, (tunnelStep state (.opened index answer : Event KeyPair)).isSome
  | .done _ => True
  | .dropped => True

theorem getting_session_goes_on {state : Tunnels} (inOrder : InOrder state) {index : Nat}
    (found : state.stages[index]? = some .gettingSession) :
    GoesOn KeyPair state index .gettingSession := by
  intro outside
  have within : index < state.pool.calls.length :=
    inOrder.aligned ▸ (List.getElem?_eq_some_iff.mp found).1
  have known := List.getElem?_eq_getElem within
  cases phase : state.pool.calls[index].phase with
  | lookingUp =>
      refine ⟨.lookup index, by simp, ?_⟩
      simp [tunnelStep, Tunnels.inGetOrConnect, found, Tunnels.inPool, step, known, phase]
  | connecting =>
      refine ⟨.connect index outside, by simp, ?_⟩
      simp [tunnelStep, Tunnels.inGetOrConnect, found, Tunnels.inPool, step, known, phase]
  | storing handle =>
      refine ⟨.store index, by simp, ?_⟩
      simp [tunnelStep, Tunnels.inGetOrConnect, found, Tunnels.inPool, step, known, phase]
  | returned result =>
      refine ⟨.receive index, by simp, ?_⟩
      cases result <;> simp [tunnelStep, Tunnels.receive, found, known, phase]

theorem call_goes_on {state : Tunnels} (inOrder : InOrder state) {index : Nat} {stage : Stage}
    (found : state.stages[index]? = some stage) : GoesOn KeyPair state index stage := by
  cases stage with
  | gettingSession => exact getting_session_goes_on inOrder found
  | waiting handle =>
      cases locked : isLocked state.pool handle with
      | false => exact .inl (waiting_goes_on found locked)
      | true =>
          obtain ⟨opener, opens⟩ := (inOrder.held handle).mp locked
          exact .inr ⟨opener, opens, answer_frees opens found⟩
  | opening handle =>
      intro answer
      simp [tunnelStep, Tunnels.opened, found]
  | done result => trivial
  | dropped => trivial

/-- Two calls for one upstream: the first opens its channel, the second waits for it. -/
def secondWaits : List (Event Unit) :=
  [.establish officeUpstream, .lookup 0, .connect 0 acceptAll, .store 0, .receive 0, .acquire 0,
    .establish officeUpstream, .lookup 1, .receive 1]

def Ends (opener : Nat) : Event KeyPair → Prop
  | .opened index _ => index = opener
  | .drop index => index = opener
  | _ => False

/-- The call opens a channel of the session, and of its other calls only those are done
that were done before. -/
structure Pending (opener : Nat) (handle : Handle) (earlier state : Tunnels) : Prop where
  opening : state.stages[opener]? = some (.opening handle)
  nobody : ∀ index : Nat, state.stages[index]? = some (.done (.ok handle)) →
    earlier.stages[index]? = some (.done (.ok handle))

theorem pending_of_set {opener : Nat} {handle : Handle} {earlier state : Tunnels} {index : Nat}
    {stage : Stage} (pending : Pending opener handle earlier state) (other : index ≠ opener)
    (without : stage ≠ .done (.ok handle)) :
    Pending opener handle earlier (state.setStage index stage) where
  opening := (stage_of_other (Ne.symm other) stage).trans pending.opening
  nobody := by
    intro asked done
    rcases stage_after_set done with ⟨_, same⟩ | ⟨_, before⟩
    · exact absurd same.symm without
    · exact pending.nobody asked before

theorem pending_step {opener : Nat} {handle : Handle} {earlier before after : Tunnels}
    {event : Event KeyPair} (inOrder : InOrder before)
    (pending : Pending opener handle earlier before) (goesOn : ¬ Ends opener event)
    (taken : tunnelStep before event = some after) : Pending opener handle earlier after := by
  have apart : ∀ {index : Nat} {stage : Stage}, before.stages[index]? = some stage →
      (∀ asked, stage ≠ .opening asked) → index ≠ opener := by
    rintro index stage found free rfl
    exact free handle (Option.some.inj (found.symm.trans pending.opening))
  cases tunnel_step_effect taken with
  | began dsn pool called =>
      have within := (List.getElem?_eq_some_iff.mp pending.opening).1
      refine ⟨(List.getElem?_append_left within).trans pending.opening, ?_⟩
      intro index done
      apply pending.nobody
      rw [List.getElem?_append] at done
      split at done
      · exact done
      · cases List.mem_singleton.mp (List.mem_of_getElem? done)
  | moved event action pool plain moved => exact ⟨pending.opening, pending.nobody⟩
  | handed index asked call found known phase =>
      exact pending_of_set pending (apart found (by simp)) (by simp)
  | refused index message found => exact pending_of_set pending (apart found (by simp)) (by simp)
  | acquired index asked found free =>
      exact pending_of_set ⟨pending.opening, pending.nobody⟩ (apart found (by simp)) (by simp)
  | opened index asked answer found =>
      have other : index ≠ opener := goesOn
      refine pending_of_set ⟨pending.opening, pending.nobody⟩ other ?_
      intro same
      have streams : Tunnels.streamOver asked answer = .ok handle := Stage.done.inj same
      have sameHandle : asked = handle := by
        cases answer with
        | ok _ => exact Except.ok.inj streams
        | error message => cases streams
      subst sameHandle
      exact other (inOrder.alone index opener asked found pending.opening)
  | droppedOpening index asked found =>
      exact pending_of_set ⟨pending.opening, pending.nobody⟩ goesOn (by simp)
  | droppedEarlier index stage found free => exact pending_of_set pending goesOn (by simp)

theorem pending_run {opener : Nat} {handle : Handle} {earlier middle finish : Tunnels}
    {events : List (Event KeyPair)} (inOrder : InOrder middle)
    (pending : Pending opener handle earlier middle)
    (unanswered : ∀ event ∈ events, ¬ Ends opener event)
    (ran : runFrom tunnelStep middle events = some finish) :
    InOrder finish ∧ Pending opener handle earlier finish := by
  induction events generalizing middle with
  | nil =>
      cases ran
      exact ⟨inOrder, pending⟩
  | cons event rest ih =>
      obtain ⟨next, taken, later⟩ := run_cons ran
      obtain ⟨now, behind⟩ := List.forall_mem_cons.mp unanswered
      exact ih (in_order_step inOrder taken) (pending_step inOrder pending now taken) behind later

theorem locked_not_seen_closed {state : PoolState} {handle : Handle}
    (locked : isLocked state handle = true) : state.seenClosed handle = false := by
  unfold isLocked at locked
  unfold PoolState.seenClosed
  cases found : state.sessions[handle]? with
  | none => rfl
  | some session =>
      rw [found, Option.any_some] at locked
      simp [locked]

/-- As long as a call has no answer for the channel it opens and is not dropped, no other call
gets a channel of that session. Where the session is pooled, every call that looks for
one is handed it, also if the connection below was closed in the meantime. -/
theorem pending_open_blocks_session (front back : List (Event KeyPair)) (middle finish : Tunnels)
    (opener : Nat) (handle : Handle) (first : runFrom tunnelStep noTunnels front = some middle)
    (opening : middle.stages[opener]? = some (.opening handle))
    (unanswered : ∀ event ∈ back, ¬ Ends opener event)
    (second : runFrom tunnelStep middle back = some finish) :
    finish.stages[opener]? = some (.opening handle) ∧
      (∀ index : Nat, finish.stages[index]? = some (.done (.ok handle)) →
        middle.stages[index]? = some (.done (.ok handle))) ∧
      ∀ entry (index : Nat) call, finish.pool.inner = some entry → entry.handle = handle →
        finish.stages[index]? = some .gettingSession → finish.pool.calls[index]? = some call →
          call.phase = .lookingUp → ∃ next asked,
            tunnelStep finish (.lookup index : Event KeyPair) = some next ∧
              next.pool.calls[index]? = some asked ∧ asked.phase = .returned (.ok handle) := by
  have pending : Pending opener handle middle middle := ⟨opening, fun _ done => done⟩
  obtain ⟨inOrder, stays⟩ := pending_run (in_order_run first) pending unanswered second
  refine ⟨stays.opening, stays.nobody, ?_⟩
  rintro entry index call pooled rfl found known phase
  have alive := locked_not_seen_closed ((inOrder.held entry.handle).mpr ⟨opener, stays.opening⟩)
  have within := (List.getElem?_eq_some_iff.mp known).1
  refine ⟨{ finish with pool := lookupSection finish.pool index call },
    { call with phase := .returned (.ok entry.handle) }, ?_, ?_, rfl⟩
  · simp [tunnelStep, Tunnels.inGetOrConnect, found, Tunnels.inPool, step, known, phase]
  · simp [lookupSection, pooled, alive, PoolState.setPhase, within]

/-- The connection closes under a pending channel, and a second call comes for the session. -/
def closedUnderneath : List (Event Unit) := [.close 0, .establish officeUpstream]

theorem closed_session_handed_out :
    ∃ middle finish, runFrom tunnelStep noTunnels (secondWaits.take 6) = some middle ∧
      runFrom tunnelStep middle closedUnderneath = some finish ∧
      finish.stages[0]? = some (.opening 0) ∧
      (∀ index : Nat, finish.stages[index]? = some (.done (.ok 0)) →
        middle.stages[index]? = some (.done (.ok 0))) ∧
      ∀ entry (index : Nat) call, finish.pool.inner = some entry → entry.handle = 0 →
        finish.stages[index]? = some .gettingSession → finish.pool.calls[index]? = some call →
          call.phase = .lookingUp → ∃ next asked,
            tunnelStep finish (.lookup index : Event Unit) = some next ∧
              next.pool.calls[index]? = some asked ∧ asked.phase = .returned (.ok 0) :=
  ⟨_, _, rfl, rfl, pending_open_blocks_session (secondWaits.take 6) closedUnderneath _ _ 0 0 rfl rfl
    (by simp [closedUnderneath, Ends]) rfl⟩

end MultiProxy.SshTunnels
