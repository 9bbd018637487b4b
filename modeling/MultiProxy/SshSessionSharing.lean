import MultiProxy.SshSessionPool

/-!
# When callers share one SSH session

The lookup that finds no session and the store of the new one are two lock
sections with the network in between. A session that is still open is replaced
in the pool only by a call that looked it up before it was stored.
-/

namespace MultiProxy.SshSessionSharing

open MultiProxy.RustRuntime MultiProxy.TransitionRuns MultiProxy.UpstreamDsn
open MultiProxy.SshSessionPool

set_option autoImplicit false

/-! ## Stores and the calls around them -/

def isLive (state : PoolState) (handle : Handle) : Bool :=
  state.sessions[handle]?.any fun session => !session.closed

/-- Between its lookup and its store. -/
def isOpening : Phase → Bool
  | .connecting => true
  | .storing _ => true
  | _ => false

section Stores

variable {KeyPair : Type}

/-- A call that stores its session finds no live session for its DSN in the pool. -/
def StoresAlone (state : PoolState) : Action KeyPair → Prop
  | .store index =>
      ∀ call handle entry, state.calls[index]? = some call → call.phase = .storing handle →
        state.inner = some entry → state.Serves entry.handle call.dsn →
          isLive state entry.handle = false
  | _ => True

/-- A call that stores a live session is the only one that is opening one. -/
def OpensAlone (state : PoolState) : Action KeyPair → Prop
  | .store index =>
      ∀ call handle, state.calls[index]? = some call → call.phase = .storing handle →
        isLive state handle = true → ∀ other otherCall, other ≠ index →
          state.calls[other]? = some otherCall → isOpening otherCall.phase = false
  | _ => True

/-- While a live session is pooled no call is opening another one. -/
structure PooledAlone (state : PoolState) : Prop where
  opened : HandlesOpened state
  none_opening : ∀ entry, state.inner = some entry → isLive state entry.handle = true →
    ∀ call ∈ state.calls, isOpening call.phase = false

theorem empty_pooled_alone : PooledAlone emptyPool := by
  constructor
  · exact empty_pool_handles_opened
  · intro entry pooled
    cases pooled

theorem is_live_of_new_session {before after : PoolState} {session : Session} {handle : Handle}
    (same : after.sessions = before.sessions ++ [session])
    (within : handle < before.sessions.length) : isLive after handle = isLive before handle := by
  rw [isLive, same, List.getElem?_append_left within, isLive]

theorem is_live_of_change {state : PoolState} {target handle : Handle}
    {change : Session → Session} (stays : ∀ session, session.closed = true →
      (change session).closed = true)
    (live : isLive (state.changeSession target change) handle = true) :
    isLive state handle = true := by
  simp only [isLive, PoolState.changeSession, List.getElem?_modify, Option.any_eq_true,
    Option.map_eq_map, Option.map_eq_some_iff, Bool.not_eq_true'] at live ⊢
  obtain ⟨changed, ⟨session, found, same⟩, isOpen⟩ := live
  refine ⟨session, found, ?_⟩
  rw [Bool.eq_false_iff]
  intro closed
  have stillClosed : changed.closed = true := by
    rw [← same]
    split
    · exact stays session closed
    · exact closed
  rw [isOpen] at stillClosed
  cases stillClosed

theorem moved_not_opening {before state : PoolState} {index : Nat} {call : Call} {phase : Phase}
    (same : state.calls = before.calls) (settled : isOpening phase = false)
    (others : ∀ other otherCall, other ≠ index → before.calls[other]? = some otherCall →
      isOpening otherCall.phase = false) :
    ∀ member ∈ (state.setPhase index call phase).calls, isOpening member.phase = false := by
  intro member listed
  obtain ⟨position, found⟩ := List.mem_iff_getElem?.mp listed
  simp only [PoolState.setPhase, List.getElem?_set, same] at found
  split at found
  · split at found
    · cases found
      exact settled
    · cases found
  · exact others position member (Ne.symm ‹_›) found

theorem pooled_alone_step {before after : PoolState} {action : Action KeyPair}
    (alone : PooledAlone before) (meets : OpensAlone before action)
    (taken : step before action = some after) : PooledAlone after := by
  have others : ∀ (index : Nat), (∀ call ∈ before.calls, isOpening call.phase = false) →
      ∀ other otherCall, other ≠ index → before.calls[other]? = some otherCall →
        isOpening otherCall.phase = false := by
    intro index none other otherCall _ found
    exact none otherCall (List.mem_of_getElem? found)
  refine ⟨handles_opened_step alone.opened taken, ?_⟩
  intro entry pooled live
  cases step_effect taken with
  | called dsn =>
      intro call listed
      rcases List.mem_append.mp listed with earlier | last
      · exact alone.none_opening entry pooled live call earlier
      · rw [List.mem_singleton.mp last]
        rfl
  | missed index call found phase dead => cases pooled
  | reused index call earlier found phase pooledEarlier alive =>
      cases pooled
      exact moved_not_opening rfl rfl
        (others index (alone.none_opening earlier pooledEarlier live))
  | opened index outside call session found phase sessionFor =>
      have within := alone.opened.entry entry pooled
      rw [is_live_of_new_session rfl within] at live
      have settled := alone.none_opening entry pooled live call (List.mem_of_getElem? found)
      rw [phase] at settled
      cases settled
  | refused index outside call message found phase =>
      exact moved_not_opening rfl rfl (others index (alone.none_opening entry pooled live))
  | stored index call handle found phase =>
      cases pooled
      exact moved_not_opening rfl rfl (meets call handle found phase live)
  | reaped idleTimeout => cases pooled
  | spared idleTimeout => exact alone.none_opening entry pooled live
  | closed handle =>
      exact alone.none_opening entry pooled (is_live_of_change (fun _ _ => rfl) live)
  | locked handle =>
      exact alone.none_opening entry pooled (is_live_of_change (by simp) live)
  | unlocked handle =>
      exact alone.none_opening entry pooled (is_live_of_change (by simp) live)
  | ticked duration => exact alone.none_opening entry pooled live

theorem stores_alone_of_pooled_alone {state : PoolState} {action : Action KeyPair}
    (alone : PooledAlone state) : StoresAlone state action := by
  cases action with
  | store index =>
      intro call handle entry found phase pooled _
      rw [Bool.eq_false_iff]
      intro live
      have settled := alone.none_opening entry pooled live call (List.mem_of_getElem? found)
      rw [phase] at settled
      cases settled
  | _ => trivial

/-! ## One DSN -/

def CallsFor (dsn : SshDsn) : Action KeyPair → Prop
  | .call asked => asked = dsn
  | _ => True

theorem calls_for_step {dsn : SshDsn} {before after : PoolState} {action : Action KeyPair}
    (all : ∀ call ∈ before.calls, call.dsn = dsn) (allowed : CallsFor dsn action)
    (taken : step before action = some after) : ∀ call ∈ after.calls, call.dsn = dsn := by
  intro call listed
  rcases step_calls (step_effect taken) listed with ⟨old, inCalls, same⟩ | rfl
  · exact same.trans (all old inCalls)
  · exact allowed

theorem calls_for_run {dsn : SshDsn} {start finish : PoolState} {actions : List (Action KeyPair)}
    (all : ∀ call ∈ start.calls, call.dsn = dsn) (single : ∀ action ∈ actions, CallsFor dsn action)
    (ran : runFrom step start actions = some finish) : ∀ call ∈ finish.calls, call.dsn = dsn := by
  have met : EveryStep step (fun _ action => CallsFor dsn action) start actions :=
    every_step_of_invariant (fun _ _ _ _ _ _ => trivial) (fun _ _ _ allowed => allowed) trivial
      single
  apply run_preserves_when _ all met ran
  intro state action next holds allowed taken
  exact calls_for_step holds allowed taken

theorem not_stores_alone {state : PoolState} {index : Nat} {call : Call} {handle : Handle}
    {entry : SshPoolEntry} (found : state.calls[index]? = some call)
    (phase : call.phase = .storing handle) (pooled : state.inner = some entry)
    (serves : state.Serves entry.handle call.dsn) (live : isLive state entry.handle = true) :
    ¬ StoresAlone state (.store index : Action KeyPair) := by
  intro alone
  have dead := alone call handle entry found phase pooled serves
  rw [live] at dead
  cases dead

theorem live_session_replaced {dsn : SshDsn} {state : PoolState} {index : Nat}
    {outside : Outside KeyPair} {session : Session} (opened : HandlesOpened state)
    (all : ∀ call ∈ state.calls, call.dsn = dsn)
    (accepted : openSession outside dsn = .ok session)
    (overlaps : ¬ OpensAlone state (.store index : Action KeyPair)) :
    ∃ more : List (Action KeyPair), ¬ EveryStep step StoresAlone state (.store index :: more) := by
  unfold OpensAlone at overlaps
  push Not at overlaps
  obtain ⟨call, handle, found, phase, live, other, otherCall, apart, foundOther, opening⟩ :=
    overlaps
  have sameDsn := all call (List.mem_of_getElem? found)
  have otherDsn := all otherCall (List.mem_of_getElem? foundOther)
  have serves := opened.storing call (List.mem_of_getElem? found) handle phase
  rw [sameDsn, ← otherDsn] at serves
  have stored : step state (.store index : Action KeyPair) =
      some (storeSection state index call handle) := by
    simp only [step, found, phase]
  have foundLater : (storeSection state index call handle).calls[other]? = some otherCall := by
    simp only [storeSection, PoolState.setPhase, List.getElem?_set]
    rw [if_neg (Ne.symm apart)]
    exact foundOther
  cases standing : otherCall.phase with
  | lookingUp => rw [standing] at opening; exact absurd rfl opening
  | returned result => rw [standing] at opening; exact absurd rfl opening
  | storing later =>
      refine ⟨[.store other], ?_⟩
      intro every
      exact not_stores_alone foundLater standing rfl serves live (every.2 _ stored).1
  | connecting =>
      let before := storeSection state index call handle
      let after := { before with sessions := before.sessions ++ [session] }.setPhase other otherCall
        (.storing before.sessions.length)
      have connected : step before (.connect other outside) = some after := by
        simp only [step, before, foundLater, standing, connectSection, otherDsn, accepted]
        rfl
      have foundAfter : after.calls[other]? =
          some { otherCall with phase := .storing before.sessions.length } := by
        have within := (List.getElem?_eq_some_iff.mp foundLater).1
        simp only [after, PoolState.setPhase, List.getElem?_set]
        rw [if_pos trivial, if_pos within]
      have within : handle < before.sessions.length := by
        obtain ⟨_, atHandle, _⟩ := serves
        exact (List.getElem?_eq_some_iff.mp atHandle).1
      have grown : after.sessions = before.sessions ++ [session] := rfl
      have servesAfter := ((keeps_endpoints_of_new_session grown handle within).2 _).mpr serves
      have liveAfter := (is_live_of_new_session grown within).trans live
      refine ⟨[.connect other outside, .store other], ?_⟩
      intro every
      exact not_stores_alone foundAfter rfl rfl servesAfter liveAfter
        ((every.2 _ stored).2 _ connected).1

/-- In every run of calls for one DSN, stores of live sessions by calls that open
alone never replace a live session of that DSN. Where such a call is not alone the
others, on a network that accepts them, go on to do just that. -/
theorem live_sessions_kept_when_opened_alone (dsn : SshDsn) (actions : List (Action KeyPair))
    (single : ∀ action ∈ actions, CallsFor dsn action) (finish : PoolState)
    (ran : runFrom step emptyPool actions = some finish) :
    (EveryStep step OpensAlone emptyPool actions → EveryStep step StoresAlone emptyPool actions) ∧
      ∀ index, ¬ OpensAlone finish (.store index : Action KeyPair) →
        ∀ (outside : Outside KeyPair) session, openSession outside dsn = .ok session →
          ∃ more : List (Action KeyPair),
            ¬ EveryStep step StoresAlone finish (.store index :: more) := by
  constructor
  · intro met
    apply every_step_implies _ _ empty_pooled_alone met
    · intro state action next alone meets taken
      exact pooled_alone_step alone meets taken
    · intro state action alone _
      exact stores_alone_of_pooled_alone alone
  · intro index overlaps outside session accepted
    have opened : HandlesOpened finish := run_preserves
      (fun _ _ _ opened taken => handles_opened_step opened taken) empty_pool_handles_opened ran
    have none : ∀ call ∈ emptyPool.calls, call.dsn = dsn := List.forall_mem_nil _
    exact live_session_replaced opened (calls_for_run none single ran) accepted overlaps

end Stores

/-- Two callers that both miss the pool, and store one behind the other. -/
def twoFirstCallers : List (Action Unit) :=
  [.call officeUpstream, .call officeUpstream, .lookup 0, .lookup 1, .connect 0 acceptAll,
    .connect 1 acceptAll, .store 0, .store 1]

/-- The second caller's store replaces the live session of the first. -/
theorem second_first_caller_replaces_session :
    (∀ action ∈ twoFirstCallers, CallsFor officeUpstream action) ∧
      ¬ EveryStep step StoresAlone emptyPool twoFirstCallers := by
  constructor
  · simp [twoFirstCallers, CallsFor]
  · intro every
    have looked := (((every.2 _ rfl).2 _ rfl).2 _ rfl).2 _ rfl
    have stores := ((looked.2 _ rfl).2 _ rfl).2 _ rfl
    have dead := stores.1 { dsn := officeUpstream, phase := .storing 1 } 1 _ rfl rfl rfl
      ⟨_, rfl, by decide⟩
    revert dead
    decide

theorem same_upstream_twice_shares :
    ∃ finish, runFrom step emptyPool sameUpstreamTwice = some finish ∧
      (EveryStep step OpensAlone emptyPool sameUpstreamTwice →
        EveryStep step StoresAlone emptyPool sameUpstreamTwice) ∧
      ∀ index, ¬ OpensAlone finish (.store index : Action Unit) →
        ∀ (outside : Outside Unit) session, openSession outside officeUpstream = .ok session →
          ∃ more : List (Action Unit),
            ¬ EveryStep step StoresAlone finish (.store index :: more) :=
  ⟨_, rfl, live_sessions_kept_when_opened_alone officeUpstream sameUpstreamTwice
    (by simp [sameUpstreamTwice, CallsFor]) _ rfl⟩

end MultiProxy.SshSessionSharing
