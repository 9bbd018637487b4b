import MultiProxy.TransitionRuns
import MultiProxy.UpstreamDsn

/-!
# The process-wide SSH session pool

`SSH_POOL` holds at most one entry. A call of `get_or_connect` runs in two lock
sections with the network in between, so calls are kept as small machines and
every order of their sections, of idle checks, of channel opens that hold a
session's mutex and of sessions closing is a run of `step`. What russh, the file
system and the environment answer is an argument of the step that asks them.
-/

namespace MultiProxy.SshSessionPool

open MultiProxy.RustRuntime MultiProxy.TransitionRuns MultiProxy.UpstreamDsn

set_option autoImplicit false

/-! ## Opening a session -/

structure ClientConfig where
  inactivityTimeout : Option Duration
  keepaliveInterval : Option Duration
  keepaliveMax : Nat
  deriving DecidableEq, Repr

/-- A session and its mutex. `addr` is what it was connected to and `user` whom
it is authenticated as; both are fixed once and for all by russh. -/
structure Session where
  addr : String
  user : Option String
  config : ClientConfig
  closed : Bool
  locked : Bool
  deriving DecidableEq, Repr

/-- What the outside of the process answers to one call. -/
structure Outside (KeyPair : Type) where
  connect : ClientConfig → String → Except String Unit
  authenticatePassword : String → String → Except String Bool
  authenticatePublickey : String → KeyPair → Except String Bool
  readToString : String → Except String String
  decodeSecretKey : String → Except String KeyPair
  var : String → Option String
  pathExists : String → Bool

section Opening

variable {KeyPair : Type}

/-- `PathBuf::join` with a relative name. -/
def joinPath (base name : String) : String :=
  match base.toList.getLast? with
  | none => name
  | some '/' => base ++ name
  | some _ => base ++ "/" ++ name

def getDefaultKeyPath (outside : Outside KeyPair) : Option String :=
  ["HOME", "USERPROFILE"].findSome? fun dirVar =>
    (outside.var dirVar).bind fun dir =>
      (["id_ed25519", "id_rsa", "id_ecdsa"].map (joinPath (joinPath dir ".ssh"))).find?
        outside.pathExists

def clientConnect (outside : Outside KeyPair) (config : ClientConfig) (addr : String) :
    Except String Session :=
  (outside.connect config addr).map fun _ =>
    { addr := addr, user := none, config := config, closed := false, locked := false }

/-- An accepted authentication makes the session one of that user. -/
def authenticatedBy (answer : Except String Bool) (user : String) (session : Session) :
    Except String (Bool × Session) :=
  answer.map fun accepted =>
    (accepted, if accepted then { session with user := some user } else session)

def authenticateWithKeyFile (outside : Outside KeyPair) (unreadable keyPath : String)
    (dsn : SshDsn) (session : Session) : Except String (Bool × Session) := do
  let keyStr ← (outside.readToString keyPath).mapError fun e => s!"{unreadable}: {e}"
  let keyPair ← (outside.decodeSecretKey keyStr).mapError fun e => s!"Failed to parse key: {e}"
  authenticatedBy (outside.authenticatePublickey dsn.user keyPair) dsn.user session

def authenticate (outside : Outside KeyPair) (dsn : SshDsn) (session : Session) :
    Except String (Bool × Session) :=
  match dsn.pass with
  | some pass => authenticatedBy (outside.authenticatePassword dsn.user pass) dsn.user session
  | none =>
      match dsn.keyPath with
      | some keyPath => authenticateWithKeyFile outside "Failed to read key" keyPath dsn session
      | none =>
          match getDefaultKeyPath outside with
          | some defaultKey =>
              authenticateWithKeyFile outside "Failed to read default key" defaultKey dsn session
          | none => .error "SSH auth: need password or key"

def clientConfig (dsn : SshDsn) : ClientConfig where
  inactivityTimeout := some (60 * 1000000000)
  keepaliveInterval := some (dsn.keepalive.toNat * 1000000000)
  keepaliveMax := 3

/-- The slow path of `get_or_connect` up to the store: connect and authenticate. -/
def openSession (outside : Outside KeyPair) (dsn : SshDsn) : Except String Session := do
  let session ← (clientConnect outside (clientConfig dsn) (hostPort dsn.host dsn.port)).mapError
    fun e => s!"SSH connect failed: {e}"
  let (authenticated, session) ← authenticate outside dsn session
  if authenticated then .ok session else .error "SSH authentication failed"

def OpenedFor (session : Session) (dsn : SshDsn) : Prop :=
  session.addr = hostPort dsn.host dsn.port ∧ session.user = some dsn.user

instance (session : Session) (dsn : SshDsn) : Decidable (OpenedFor session dsn) :=
  inferInstanceAs (Decidable (_ ∧ _))

theorem authenticated_by_user (answer : Except String Bool) (user : String)
    (session after : Session) (accepted : authenticatedBy answer user session = .ok (true, after)) :
    after = { session with user := some user } := by
  cases answer with
  | error message => cases accepted
  | ok verdict =>
      simp only [authenticatedBy, Except.map, Except.ok.injEq, Prod.mk.injEq] at accepted
      obtain ⟨rfl, rfl⟩ := accepted
      rfl

theorem authenticate_with_key_file_user (outside : Outside KeyPair) (unreadable keyPath : String)
    (dsn : SshDsn) (session after : Session)
    (accepted : authenticateWithKeyFile outside unreadable keyPath dsn session =
      .ok (true, after)) :
    after = { session with user := some dsn.user } := by
  unfold authenticateWithKeyFile at accepted
  cases readKey : outside.readToString keyPath with
  | error message => rw [readKey] at accepted; cases accepted
  | ok keyStr =>
      cases decoded : outside.decodeSecretKey keyStr with
      | error message =>
          rw [readKey] at accepted
          simp only [Except.mapError, bind, Except.bind, decoded] at accepted
          cases accepted
      | ok keyPair =>
          rw [readKey] at accepted
          simp only [Except.mapError, bind, Except.bind, decoded] at accepted
          exact authenticated_by_user _ _ _ _ accepted

theorem authenticate_user (outside : Outside KeyPair) (dsn : SshDsn) (session after : Session)
    (accepted : authenticate outside dsn session = .ok (true, after)) :
    after = { session with user := some dsn.user } := by
  unfold authenticate at accepted
  split at accepted
  · exact authenticated_by_user _ _ _ _ accepted
  · split at accepted
    · exact authenticate_with_key_file_user _ _ _ _ _ _ accepted
    · split at accepted
      · exact authenticate_with_key_file_user _ _ _ _ _ _ accepted
      · cases accepted

theorem open_session_for_dsn (outside : Outside KeyPair) (dsn : SshDsn) (session : Session)
    (opened : openSession outside dsn = .ok session) : OpenedFor session dsn := by
  unfold openSession clientConnect at opened
  cases connected : outside.connect (clientConfig dsn) (hostPort dsn.host dsn.port) with
  | error message => rw [connected] at opened; cases opened
  | ok _ =>
      simp only [connected, Except.map, Except.mapError, bind, Except.bind] at opened
      split at opened
      · cases opened
      · rename_i result authenticated
        obtain ⟨accepted, after⟩ := result
        cases accepted with
        | false => cases opened
        | true =>
            have sameUser := authenticate_user outside dsn _ after authenticated
            cases opened
            subst sameUser
            exact ⟨rfl, rfl⟩

/-- A session opened for one DSN serves another exactly when the two name the
same host, port and user. -/
theorem opened_for_iff_same_endpoint {session : Session} {opened asked : SshDsn}
    (origin : OpenedFor session opened) :
    OpenedFor session asked ↔
      asked.host = opened.host ∧ asked.port = opened.port ∧ asked.user = opened.user := by
  constructor
  · rintro ⟨addr, user⟩
    have sameAddr : hostPort asked.host asked.port = hostPort opened.host opened.port :=
      addr.symm.trans origin.1
    obtain ⟨host, port⟩ := host_port_injective sameAddr
    exact ⟨host, port, Option.some.inj (user.symm.trans origin.2)⟩
  · rintro ⟨host, port, user⟩
    exact ⟨by rw [host, port]; exact origin.1, by rw [user]; exact origin.2⟩

end Opening

/-! ## The pool and the calls in flight -/

/-- The index of a session among all sessions ever opened. -/
abbrev Handle := Nat

structure SshPoolEntry where
  handle : Handle
  lastUsed : Instant
  dsnKey : String
  deriving DecidableEq, Repr

/-- Where a call of `get_or_connect` stands: before its first lock section, on
the network, before its second lock section, or back at its caller. -/
inductive Phase where
  | lookingUp
  | connecting
  | storing (handle : Handle)
  | returned (result : Except String Handle)

structure Call where
  dsn : SshDsn
  phase : Phase

structure PoolState where
  sessions : List Session
  inner : Option SshPoolEntry
  calls : List Call
  now : Instant

def emptyPool : PoolState where
  sessions := []
  inner := none
  calls := []
  now := 0

namespace PoolState

def setPhase (state : PoolState) (index : Nat) (call : Call) (phase : Phase) : PoolState :=
  { state with calls := state.calls.set index { call with phase := phase } }

/-- `try_lock().map(is_closed).unwrap_or(false)`: a session whose mutex is held
counts as open. -/
def seenClosed (state : PoolState) (handle : Handle) : Bool :=
  match state.sessions[handle]? with
  | some session => if session.locked then false else session.closed
  | none => false

def Serves (state : PoolState) (handle : Handle) (dsn : SshDsn) : Prop :=
  ∃ session, state.sessions[handle]? = some session ∧ OpenedFor session dsn

def changeSession (state : PoolState) (handle : Handle) (change : Session → Session) : PoolState :=
  { state with sessions := state.sessions.modify handle change }

end PoolState

/-- First lock section of `get_or_connect`. Any entry not seen closed is
reused: the section reads neither the entry's `dsn_key` nor the caller's DSN. -/
def lookupSection (state : PoolState) (index : Nat) (call : Call) : PoolState :=
  match state.inner with
  | some entry =>
      if state.seenClosed entry.handle then
        { state with inner := none }.setPhase index call .connecting
      else
        { state with inner := some { entry with lastUsed := state.now } }.setPhase index call
          (.returned (.ok entry.handle))
  | none => state.setPhase index call .connecting

def dsnKey (dsn : SshDsn) : String := s!"{dsn.user}@{hostPort dsn.host dsn.port}"

/-- Second lock section: the entry is replaced whatever it is by now. -/
def storeSection (state : PoolState) (index : Nat) (call : Call) (handle : Handle) : PoolState :=
  { state with
    inner := some { handle := handle, lastUsed := state.now, dsnKey := dsnKey call.dsn } }.setPhase
      index call (.returned (.ok handle))

def connectSection {KeyPair : Type} (outside : Outside KeyPair) (state : PoolState) (index : Nat)
    (call : Call) : PoolState :=
  match openSession outside call.dsn with
  | .ok session =>
      { state with sessions := state.sessions ++ [session] }.setPhase index call
        (.storing state.sessions.length)
  | .error message => state.setPhase index call (.returned (.error message))

def checkIdle (state : PoolState) (idleTimeout : Duration) : PoolState :=
  match state.inner with
  | some entry =>
      if state.seenClosed entry.handle = true ∨ idleTimeout < elapsed state.now entry.lastUsed then
        { state with inner := none }
      else state
  | none => state

/-- One atomic step: a lock section of a call, its stay on the network, an idle
check, or something that happens to a session or to the clock. -/
inductive Action (KeyPair : Type) where
  | call (dsn : SshDsn)
  | lookup (index : Nat)
  | connect (index : Nat) (outside : Outside KeyPair)
  | store (index : Nat)
  | checkIdle (idleTimeout : Duration)
  | close (handle : Handle)
  | lock (handle : Handle)
  | unlock (handle : Handle)
  | tick (duration : Duration)

def step {KeyPair : Type} (state : PoolState) : Action KeyPair → Option PoolState
  | .call dsn => some { state with calls := state.calls ++ [{ dsn := dsn, phase := .lookingUp }] }
  | .lookup index =>
      match state.calls[index]? with
      | some call =>
          match call.phase with
          | .lookingUp => some (lookupSection state index call)
          | _ => none
      | none => none
  | .connect index outside =>
      match state.calls[index]? with
      | some call =>
          match call.phase with
          | .connecting => some (connectSection outside state index call)
          | _ => none
      | none => none
  | .store index =>
      match state.calls[index]? with
      | some call =>
          match call.phase with
          | .storing handle => some (storeSection state index call handle)
          | _ => none
      | none => none
  | .checkIdle idleTimeout => some (checkIdle state idleTimeout)
  | .close handle =>
      some (state.changeSession handle fun session => { session with closed := true })
  | .lock handle => some (state.changeSession handle fun session => { session with locked := true })
  | .unlock handle =>
      some (state.changeSession handle fun session => { session with locked := false })
  | .tick duration => some { state with now := state.now + duration }

/-! ## What a step can do -/

section Steps

variable {KeyPair : Type}

/-- Every way a step can end, guards included. -/
inductive StepEffect (before : PoolState) : Action KeyPair → PoolState → Prop where
  | called (dsn : SshDsn) :
      StepEffect before (.call dsn)
        { before with calls := before.calls ++ [{ dsn := dsn, phase := .lookingUp }] }
  | missed (index : Nat) (call : Call) (found : before.calls[index]? = some call)
      (phase : call.phase = .lookingUp)
      (dead : ∀ entry, before.inner = some entry → before.seenClosed entry.handle = true) :
      StepEffect before (.lookup index)
        ({ before with inner := none }.setPhase index call .connecting)
  | reused (index : Nat) (call : Call) (entry : SshPoolEntry)
      (found : before.calls[index]? = some call) (phase : call.phase = .lookingUp)
      (pooled : before.inner = some entry) (alive : before.seenClosed entry.handle = false) :
      StepEffect before (.lookup index)
        ({ before with inner := some { entry with lastUsed := before.now } }.setPhase index call
          (.returned (.ok entry.handle)))
  | opened (index : Nat) (outside : Outside KeyPair) (call : Call) (session : Session)
      (found : before.calls[index]? = some call) (phase : call.phase = .connecting)
      (session_for : OpenedFor session call.dsn) :
      StepEffect before (.connect index outside)
        ({ before with sessions := before.sessions ++ [session] }.setPhase index call
          (.storing before.sessions.length))
  | refused (index : Nat) (outside : Outside KeyPair) (call : Call) (message : String)
      (found : before.calls[index]? = some call) (phase : call.phase = .connecting) :
      StepEffect before (.connect index outside)
        (before.setPhase index call (.returned (.error message)))
  | stored (index : Nat) (call : Call) (handle : Handle)
      (found : before.calls[index]? = some call) (phase : call.phase = .storing handle) :
      StepEffect before (.store index) (storeSection before index call handle)
  | reaped (idleTimeout : Duration) :
      StepEffect before (.checkIdle idleTimeout) { before with inner := none }
  | spared (idleTimeout : Duration) : StepEffect before (.checkIdle idleTimeout) before
  | closed (handle : Handle) :
      StepEffect before (.close handle)
        (before.changeSession handle fun session => { session with closed := true })
  | locked (handle : Handle) :
      StepEffect before (.lock handle)
        (before.changeSession handle fun session => { session with locked := true })
  | unlocked (handle : Handle) :
      StepEffect before (.unlock handle)
        (before.changeSession handle fun session => { session with locked := false })
  | ticked (duration : Duration) :
      StepEffect before (.tick duration) { before with now := before.now + duration }

theorem lookup_effect (before : PoolState) (index : Nat) (call : Call)
    (found : before.calls[index]? = some call) (phase : call.phase = .lookingUp) :
    StepEffect before (.lookup index : Action KeyPair) (lookupSection before index call) := by
  unfold lookupSection
  cases pooled : before.inner with
  | none =>
      have missed : StepEffect before (.lookup index : Action KeyPair) _ :=
        .missed index call found phase (by simp [pooled])
      rwa [← pooled] at missed
  | some entry =>
      simp only
      cases alive : before.seenClosed entry.handle with
      | true =>
          refine .missed index call found phase ?_
          intro other same
          cases pooled.symm.trans same
          exact alive
      | false => exact .reused index call entry found phase pooled alive

theorem connect_effect (outside : Outside KeyPair) (before : PoolState) (index : Nat) (call : Call)
    (found : before.calls[index]? = some call) (phase : call.phase = .connecting) :
    StepEffect before (.connect index outside) (connectSection outside before index call) := by
  unfold connectSection
  cases opened : openSession outside call.dsn with
  | error message => exact .refused index outside call message found phase
  | ok session =>
      exact .opened index outside call session found phase
        (open_session_for_dsn outside call.dsn session opened)

theorem check_idle_effect (before : PoolState) (idleTimeout : Duration) :
    StepEffect before (.checkIdle idleTimeout : Action KeyPair) (checkIdle before idleTimeout) := by
  unfold checkIdle
  split
  · split
    · exact .reaped idleTimeout
    · exact .spared idleTimeout
  · exact .spared idleTimeout

theorem step_effect {before after : PoolState} {action : Action KeyPair}
    (taken : step before action = some after) : StepEffect before action after := by
  cases action with
  | call dsn => cases taken; exact .called dsn
  | lookup index =>
      simp only [step] at taken
      split at taken
      · rename_i call found
        split at taken
        · cases taken; exact lookup_effect before index call found ‹_›
        · cases taken
      · cases taken
  | connect index outside =>
      simp only [step] at taken
      split at taken
      · rename_i call found
        split at taken
        · cases taken; exact connect_effect outside before index call found ‹_›
        · cases taken
      · cases taken
  | store index =>
      simp only [step] at taken
      split at taken
      · rename_i call found
        split at taken
        · cases taken; exact .stored index call _ found ‹_›
        · cases taken
      · cases taken
  | checkIdle idleTimeout => cases taken; exact check_idle_effect before idleTimeout
  | close handle => cases taken; exact .closed handle
  | lock handle => cases taken; exact .locked handle
  | unlock handle => cases taken; exact .unlocked handle
  | tick duration => cases taken; exact .ticked duration

/-- A step leaves every known session with the endpoint it was opened for. -/
def KeepsEndpoints (before after : PoolState) : Prop :=
  ∀ handle, handle < before.sessions.length →
    handle < after.sessions.length ∧
      ∀ dsn, after.Serves handle dsn ↔ before.Serves handle dsn

theorem keeps_endpoints_of_same_sessions {before after : PoolState}
    (same : after.sessions = before.sessions) : KeepsEndpoints before after := by
  intro handle within
  exact ⟨by rw [same]; exact within, by intro dsn; simp [PoolState.Serves, same]⟩

theorem keeps_endpoints_of_new_session {before after : PoolState} {session : Session}
    (same : after.sessions = before.sessions ++ [session]) : KeepsEndpoints before after := by
  intro handle within
  refine ⟨by rw [same, List.length_append]; omega, ?_⟩
  intro dsn
  simp [PoolState.Serves, same, List.getElem?_append_left within]

theorem keeps_endpoints_of_change (before : PoolState) (target : Handle)
    (change : Session → Session)
    (addr : ∀ session, (change session).addr = session.addr)
    (user : ∀ session, (change session).user = session.user) :
    KeepsEndpoints before (before.changeSession target change) := by
  intro handle within
  refine ⟨by simpa [PoolState.changeSession] using within, ?_⟩
  intro dsn
  simp only [PoolState.Serves, PoolState.changeSession, List.getElem?_modify]
  rw [List.getElem?_eq_getElem within]
  by_cases hit : target = handle
  · simp [hit, OpenedFor, addr, user]
  · simp [hit]

theorem step_keeps_endpoints {before after : PoolState} {action : Action KeyPair}
    (effect : StepEffect before action after) : KeepsEndpoints before after := by
  cases effect with
  | opened index outside call session found phase sessionFor =>
      exact keeps_endpoints_of_new_session rfl
  | closed handle => exact keeps_endpoints_of_change _ _ _ (fun _ => rfl) (fun _ => rfl)
  | locked handle => exact keeps_endpoints_of_change _ _ _ (fun _ => rfl) (fun _ => rfl)
  | unlocked handle => exact keeps_endpoints_of_change _ _ _ (fun _ => rfl) (fun _ => rfl)
  | _ => exact keeps_endpoints_of_same_sessions rfl

theorem serves_within {state : PoolState} {handle : Handle} {dsn : SshDsn}
    (serves : state.Serves handle dsn) : handle < state.sessions.length := by
  obtain ⟨session, found, _⟩ := serves
  exact (List.getElem?_eq_some_iff.mp found).1

/-! ## Session identity over whole runs -/

/-- What the pool keeps about handles: they point to opened sessions, and a call
about to store one has opened it for its own DSN. -/
structure HandlesOpened (state : PoolState) : Prop where
  entry : ∀ entry, state.inner = some entry → entry.handle < state.sessions.length
  storing : ∀ call ∈ state.calls, ∀ handle, call.phase = .storing handle →
    state.Serves handle call.dsn
  returned : ∀ call ∈ state.calls, ∀ handle, call.phase = .returned (.ok handle) →
    handle < state.sessions.length

/-- Every handle a call came back with is a session for that call's DSN. -/
def SessionIdentity (state : PoolState) : Prop :=
  ∀ call ∈ state.calls, ∀ handle, call.phase = .returned (.ok handle) →
    state.Serves handle call.dsn

/-- The pool a lookup finds is empty, or holds a session seen closed, or holds a
session connected and authenticated for the endpoint asked for. -/
def PooledForCaller (state : PoolState) : Action KeyPair → Prop
  | .lookup index => ∀ call entry, state.calls[index]? = some call →
      state.inner = some entry → state.seenClosed entry.handle = false →
        state.Serves entry.handle call.dsn
  | _ => True

theorem empty_pool_handles_opened : HandlesOpened emptyPool where
  entry := by intro entry pooled; cases pooled
  storing := by intro call member; cases member
  returned := by intro call member; cases member

theorem mem_set_phase {state : PoolState} {index : Nat} {call member : Call} {phase : Phase}
    (listed : member ∈ (state.setPhase index call phase).calls) :
    member ∈ state.calls ∨ member = { call with phase := phase } :=
  List.mem_or_eq_of_mem_set listed

theorem mem_set_phase_of_other {state : PoolState} {index : Nat} {call member : Call}
    {phase : Phase} (found : state.calls[index]? = some call) (listed : member ∈ state.calls)
    (other : member.phase ≠ call.phase) :
    member ∈ (state.setPhase index call phase).calls := by
  obtain ⟨position, atPosition⟩ := List.mem_iff_getElem?.mp listed
  refine List.mem_iff_getElem?.mpr ⟨position, ?_⟩
  simp only [PoolState.setPhase, List.getElem?_set]
  rw [if_neg, atPosition]
  intro same
  rw [same] at found
  obtain rfl := Option.some.inj (found.symm.trans atPosition)
  exact other rfl

theorem step_calls {before after : PoolState} {action : Action KeyPair}
    (effect : StepEffect before action after) {call : Call} (listed : call ∈ after.calls) :
    (∃ old ∈ before.calls, call.dsn = old.dsn) ∨ action = .call call.dsn := by
  have moved : ∀ (state : PoolState) index asked phase, state.calls = before.calls →
      before.calls[index]? = some asked → call ∈ (state.setPhase index asked phase).calls →
        ∃ old ∈ before.calls, call.dsn = old.dsn := by
    intro state index asked phase same found inCalls
    rcases mem_set_phase inCalls with old | rfl
    · exact ⟨call, same ▸ old, rfl⟩
    · exact ⟨asked, List.mem_of_getElem? found, rfl⟩
  cases effect with
  | called dsn =>
      rcases List.mem_append.mp listed with old | new
      · exact .inl ⟨call, old, rfl⟩
      · rw [List.mem_singleton.mp new]
        exact .inr rfl
  | missed index asked found phase dead => exact .inl (moved _ index _ _ rfl found listed)
  | reused index asked entry found phase pooled alive =>
      exact .inl (moved _ index _ _ rfl found listed)
  | opened index outside asked session found phase sessionFor =>
      exact .inl (moved _ index _ _ rfl found listed)
  | refused index outside asked message found phase =>
      exact .inl (moved _ index _ _ rfl found listed)
  | stored index asked handle found phase => exact .inl (moved _ index _ _ rfl found listed)
  | _ => exact .inl ⟨call, listed, rfl⟩

theorem changed_session {state : PoolState} {target : Handle} {change : Session → Session}
    {session : Session} (listed : session ∈ (state.changeSession target change).sessions)
    (addr : ∀ session, (change session).addr = session.addr)
    (user : ∀ session, (change session).user = session.user) :
    ∃ old ∈ state.sessions, session.addr = old.addr ∧ session.user = old.user := by
  obtain ⟨position, atPosition⟩ := List.mem_iff_getElem?.mp listed
  simp only [PoolState.changeSession, List.getElem?_modify, Option.map_eq_map,
    Option.map_eq_some_iff] at atPosition
  obtain ⟨old, found, rfl⟩ := atPosition
  refine ⟨old, List.mem_of_getElem? found, ?_⟩
  split
  · exact ⟨addr old, user old⟩
  · exact ⟨rfl, rfl⟩

theorem step_sessions {before after : PoolState} {action : Action KeyPair}
    (effect : StepEffect before action after) {session : Session}
    (listed : session ∈ after.sessions) :
    (∃ old ∈ before.sessions, session.addr = old.addr ∧ session.user = old.user) ∨
      ∃ call ∈ before.calls, OpenedFor session call.dsn := by
  cases effect with
  | opened index outside call new found phase sessionFor =>
      rcases List.mem_append.mp listed with old | last
      · exact .inl ⟨session, old, rfl, rfl⟩
      · rw [List.mem_singleton.mp last]
        exact .inr ⟨call, List.mem_of_getElem? found, sessionFor⟩
  | closed handle => exact .inl (changed_session listed (fun _ => rfl) (fun _ => rfl))
  | locked handle => exact .inl (changed_session listed (fun _ => rfl) (fun _ => rfl))
  | unlocked handle => exact .inl (changed_session listed (fun _ => rfl) (fun _ => rfl))
  | _ => exact .inl ⟨session, listed, rfl, rfl⟩

theorem handles_opened_after {before after : PoolState} (holds : HandlesOpened before)
    (keeps : KeepsEndpoints before after)
    (entry : ∀ entry, after.inner = some entry → entry.handle < after.sessions.length)
    (calls : ∀ call ∈ after.calls, call ∈ before.calls ∨
      (∀ handle, call.phase = .storing handle → after.Serves handle call.dsn) ∧
        (∀ handle, call.phase = .returned (.ok handle) → handle < after.sessions.length)) :
    HandlesOpened after where
  entry := entry
  storing := by
    intro call listed handle phase
    rcases calls call listed with old | ⟨storing, _⟩
    · have serves := holds.storing call old handle phase
      exact ((keeps handle (serves_within serves)).2 call.dsn).mpr serves
    · exact storing handle phase
  returned := by
    intro call listed handle phase
    rcases calls call listed with old | ⟨_, returned⟩
    · exact (keeps handle (holds.returned call old handle phase)).1
    · exact returned handle phase

theorem handles_opened_step {before after : PoolState} {action : Action KeyPair}
    (holds : HandlesOpened before) (taken : step before action = some after) :
    HandlesOpened after := by
  have effect := step_effect taken
  have keeps := step_keeps_endpoints effect
  have oldEntry : ∀ entry, before.inner = some entry → entry.handle < after.sessions.length :=
    fun entry pooled => (keeps entry.handle (holds.entry entry pooled)).1
  cases effect with
  | called dsn =>
      refine handles_opened_after holds keeps oldEntry ?_
      intro call listed
      rcases List.mem_append.mp listed with old | new
      · exact .inl old
      · rw [List.mem_singleton] at new
        subst new
        exact .inr ⟨by simp, by simp⟩
  | missed index call found phase dead =>
      refine handles_opened_after holds keeps (by simp [PoolState.setPhase]) ?_
      intro member listed
      rcases mem_set_phase listed with old | rfl
      · exact .inl old
      · exact .inr ⟨by simp, by simp⟩
  | reused index call entry found phase pooled alive =>
      have within := holds.entry entry pooled
      refine handles_opened_after holds keeps ?_ ?_
      · intro renewed pooledNow
        cases pooledNow
        exact within
      · intro member listed
        rcases mem_set_phase listed with old | rfl
        · exact .inl old
        · refine .inr ⟨by simp, ?_⟩
          intro handle returned
          cases returned
          exact within
  | opened index outside call session found phase sessionFor =>
      refine handles_opened_after holds keeps oldEntry ?_
      intro member listed
      rcases mem_set_phase listed with old | rfl
      · exact .inl old
      · refine .inr ⟨?_, by simp⟩
        intro handle storing
        cases storing
        exact ⟨session, by simp [PoolState.setPhase], sessionFor⟩
  | refused index outside call message found phase =>
      refine handles_opened_after holds keeps oldEntry ?_
      intro member listed
      rcases mem_set_phase listed with old | rfl
      · exact .inl old
      · exact .inr ⟨by simp, by simp⟩
  | stored index call handle found phase =>
      have within := serves_within
        (holds.storing call (List.mem_of_getElem? found) handle phase)
      refine handles_opened_after holds keeps ?_ ?_
      · intro entry pooledNow
        cases pooledNow
        exact within
      · intro member listed
        rcases mem_set_phase listed with old | rfl
        · exact .inl old
        · refine .inr ⟨by simp, ?_⟩
          intro other returned
          cases returned
          exact within
  | reaped idleTimeout =>
      exact handles_opened_after holds keeps (by simp) (fun call listed => .inl listed)
  | spared idleTimeout => exact holds
  | closed handle =>
      exact handles_opened_after holds keeps oldEntry (fun call listed => .inl listed)
  | locked handle =>
      exact handles_opened_after holds keeps oldEntry (fun call listed => .inl listed)
  | unlocked handle =>
      exact handles_opened_after holds keeps oldEntry (fun call listed => .inl listed)
  | ticked duration =>
      exact handles_opened_after holds keeps oldEntry (fun call listed => .inl listed)

theorem session_identity_after {before after : PoolState} (opened : HandlesOpened before)
    (identity : SessionIdentity before) (keeps : KeepsEndpoints before after)
    (calls : ∀ call ∈ after.calls, call ∈ before.calls ∨
      ∀ handle, call.phase = .returned (.ok handle) → after.Serves handle call.dsn) :
    SessionIdentity after := by
  intro call listed handle phase
  rcases calls call listed with old | fresh
  · have within := opened.returned call old handle phase
    exact ((keeps handle within).2 call.dsn).mpr (identity call old handle phase)
  · exact fresh handle phase

theorem session_identity_step {before after : PoolState} {action : Action KeyPair}
    (opened : HandlesOpened before) (taken : step before action = some after)
    (pooled : PooledForCaller before action) (identity : SessionIdentity before) :
    SessionIdentity after := by
  have effect := step_effect taken
  have keeps := step_keeps_endpoints effect
  refine session_identity_after opened identity keeps ?_
  intro member listed
  cases effect with
  | called dsn =>
      rcases List.mem_append.mp listed with old | new
      · exact .inl old
      · rw [List.mem_singleton] at new
        subst new
        exact .inr (by simp)
  | missed index call found phase dead =>
      exact (mem_set_phase listed).imp_right (by rintro rfl; simp)
  | reused index call entry found phase pooledEntry alive =>
      refine (mem_set_phase listed).imp_right ?_
      rintro rfl handle returned
      cases returned
      exact pooled call entry found pooledEntry alive
  | opened index outside call session found phase sessionFor =>
      exact (mem_set_phase listed).imp_right (by rintro rfl; simp)
  | refused index outside call message found phase =>
      exact (mem_set_phase listed).imp_right (by rintro rfl; simp)
  | stored index call handle found phase =>
      refine (mem_set_phase listed).imp_right ?_
      rintro rfl other returned
      cases returned
      exact opened.storing call (List.mem_of_getElem? found) handle phase
  | _ => exact .inl listed

/-- A step never repairs a wrong handle, and a lookup that reuses a session of
another endpoint makes one. -/
theorem session_identity_requires {before after : PoolState} {action : Action KeyPair}
    (opened : HandlesOpened before) (taken : step before action = some after)
    (identity : SessionIdentity after) :
    SessionIdentity before ∧ PooledForCaller before action := by
  have effect := step_effect taken
  have keeps := step_keeps_endpoints effect
  have earlier : (∀ call ∈ before.calls, ∀ handle, call.phase = .returned (.ok handle) →
      call ∈ after.calls) → SessionIdentity before := by
    intro still call listed handle phase
    have within := opened.returned call listed handle phase
    exact ((keeps handle within).2 call.dsn).mp
      (identity call (still call listed handle phase) handle phase)
  cases effect with
  | called dsn =>
      exact ⟨earlier fun call listed handle phase => List.mem_append_left _ listed, trivial⟩
  | missed index call found phase dead =>
      refine ⟨earlier ?_, ?_⟩
      · intro member listed handle returned
        exact mem_set_phase_of_other found listed (by rw [returned, phase]; simp)
      · intro asked entry _ pooled alive
        rw [dead entry pooled] at alive
        cases alive
  | reused index call entry found phase pooledEntry alive =>
      refine ⟨earlier ?_, ?_⟩
      · intro member listed handle returned
        exact mem_set_phase_of_other found listed (by rw [returned, phase]; simp)
      · intro asked pooled foundAsked samePooled _
        obtain rfl := Option.some.inj (found.symm.trans foundAsked)
        obtain rfl := Option.some.inj (pooledEntry.symm.trans samePooled)
        have inCalls : index < before.calls.length := (List.getElem?_eq_some_iff.mp found).1
        have returned := identity { call with phase := .returned (.ok entry.handle) }
          (List.mem_set inCalls _) entry.handle rfl
        exact ((keeps entry.handle (opened.entry entry pooledEntry)).2 call.dsn).mp returned
  | opened index outside call session found phase sessionFor =>
      refine ⟨earlier ?_, trivial⟩
      intro member listed handle returned
      exact mem_set_phase_of_other found listed (by rw [returned, phase]; simp)
  | refused index outside call message found phase =>
      refine ⟨earlier ?_, trivial⟩
      intro member listed handle returned
      exact mem_set_phase_of_other found listed (by rw [returned, phase]; simp)
  | stored index call handle found phase =>
      refine ⟨earlier ?_, trivial⟩
      intro member listed other returned
      exact mem_set_phase_of_other found listed (by rw [returned, phase]; simp)
  | _ => exact ⟨earlier fun call listed handle phase => listed, trivial⟩

/-- In every run the handles that were returned are those of their callers'
endpoints exactly when no lookup met a live pooled session of another endpoint. -/
theorem session_identity_iff_pooled_for_caller (actions : List (Action KeyPair))
    (finish : PoolState) (ran : runFrom step emptyPool actions = some finish) :
    SessionIdentity finish ↔ EveryStep step PooledForCaller emptyPool actions := by
  exact run_property_iff_every_step
    (fun _ _ _ opened taken => handles_opened_step opened taken)
    (fun _ _ _ opened taken pooled identity => session_identity_step opened taken pooled identity)
    (fun _ _ _ opened taken identity => session_identity_requires opened taken identity)
    empty_pool_handles_opened (by intro call member; cases member) ran

def acceptAll : Outside Unit where
  connect := fun _ _ => .ok ()
  authenticatePassword := fun _ _ => .ok true
  authenticatePublickey := fun _ _ => .ok true
  readToString := fun _ => .ok ""
  decodeSecretKey := fun _ => .ok ()
  var := fun _ => none
  pathExists := fun _ => false

def officeUpstream : SshDsn where
  user := "root"
  pass := some "123456"
  host := "10.0.0.1"
  port := 22
  keyPath := none
  keepalive := 30

def backupUpstream : SshDsn := { officeUpstream with user := "backup", host := "10.0.0.2" }

/-- One caller per upstream, one after the other. -/
def oneCallerEach : List (Action Unit) :=
  [.call officeUpstream, .lookup 0, .connect 0 acceptAll, .store 0, .call backupUpstream, .lookup 1]

/-- The second caller is handed the session of the first caller's upstream. -/
theorem second_upstream_gets_session_of_first :
    ∃ finish, runFrom step emptyPool oneCallerEach = some finish ∧
      { dsn := backupUpstream, phase := .returned (.ok 0) } ∈ finish.calls ∧
        finish.Serves 0 officeUpstream ∧ ¬ SessionIdentity finish := by
  refine ⟨_, rfl, ?_, ?_, ?_⟩
  · exact List.mem_of_getElem? (i := 1) rfl
  · exact ⟨_, rfl, by decide⟩
  · intro identity
    obtain ⟨session, found, opened⟩ :=
      identity { dsn := backupUpstream, phase := .returned (.ok 0) }
        (List.mem_of_getElem? (i := 1) rfl) 0 rfl
    cases found
    exact absurd opened (by decide)

def sameUpstreamTwice : List (Action Unit) :=
  [.call officeUpstream, .lookup 0, .connect 0 acceptAll, .store 0, .call officeUpstream, .lookup 1]

theorem same_upstream_twice_identity :
    ∃ finish, runFrom step emptyPool sameUpstreamTwice = some finish ∧
      (SessionIdentity finish ↔ EveryStep step PooledForCaller emptyPool sameUpstreamTwice) :=
  ⟨_, rfl, session_identity_iff_pooled_for_caller sameUpstreamTwice _ rfl⟩

/-- All calls and all sessions belong to one endpoint. -/
structure OneEndpoint (base : SshDsn) (state : PoolState) : Prop where
  opened : HandlesOpened state
  sessions : ∀ session ∈ state.sessions, OpenedFor session base
  calls : ∀ call ∈ state.calls, ∀ session, OpenedFor session base ↔ OpenedFor session call.dsn

def CallsEndpoint (base : SshDsn) : Action KeyPair → Prop
  | .call dsn => dsn.host = base.host ∧ dsn.port = base.port ∧ dsn.user = base.user
  | _ => True

theorem one_endpoint_step {base : SshDsn} {before after : PoolState} {action : Action KeyPair}
    (holds : OneEndpoint base before) (allowed : CallsEndpoint base action)
    (taken : step before action = some after) : OneEndpoint base after := by
  have effect := step_effect taken
  refine ⟨handles_opened_step holds.opened taken, ?_, ?_⟩
  · intro session listed
    rcases step_sessions effect listed with ⟨old, inSessions, addr, user⟩ | ⟨call, inCalls, opened⟩
    · have oldOpened := holds.sessions old inSessions
      exact ⟨addr.trans oldOpened.1, user.trans oldOpened.2⟩
    · exact (holds.calls call inCalls session).mpr opened
  · intro call listed session
    rcases step_calls effect listed with ⟨old, inCalls, same⟩ | rfl
    · rw [same]
      exact holds.calls old inCalls session
    · obtain ⟨host, port, user⟩ := allowed
      simp only [OpenedFor, host, port, user]

/-- With a single SSH upstream, however often its DSN is used and whatever the
other DSN fields are, the pool only ever meets sessions of that upstream. -/
theorem one_upstream_meets_pooled_for_caller (base : SshDsn) (actions : List (Action KeyPair))
    (single : ∀ action ∈ actions, CallsEndpoint base action) :
    EveryStep step PooledForCaller emptyPool actions := by
  refine every_step_of_invariant
    (fun _ _ _ holds allowed taken => one_endpoint_step holds allowed taken) ?_
    (⟨empty_pool_handles_opened, by simp [emptyPool], by simp [emptyPool]⟩ :
      OneEndpoint base emptyPool) single
  intro state action holds _
  cases action with
  | lookup index =>
      intro call entry found pooled _
      have within := holds.opened.entry entry pooled
      refine ⟨state.sessions[entry.handle], List.getElem?_eq_getElem within, ?_⟩
      exact (holds.calls call (List.mem_of_getElem? found) _).mp
        (holds.sessions _ (List.getElem_mem within))
  | _ => trivial

end Steps

end MultiProxy.SshSessionPool
