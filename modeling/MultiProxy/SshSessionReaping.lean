import MultiProxy.PeriodicTicks
import MultiProxy.SshSessionSharing

/-!
# The idle reaper over the SSH session pool

The reaper checks the pool at the ticks of its own timer and knows no more of a
session's use than when a call was last handed it. A session that nobody asks for
leaves the pool in bounded time; one that is asked for often enough stays in it
and serves every caller.
-/

namespace MultiProxy.SshSessionReaping

open MultiProxy.RustRuntime MultiProxy.PeriodicTicks MultiProxy.TransitionRuns
open MultiProxy.SshSessionPool MultiProxy.SshSessionSharing

set_option autoImplicit false

def sessionIdleTimeout : Duration := 60 * 1000000000

/-- The period of the reaper's `ticker`. -/
def reaperInterval : Duration := 30 * 1000000000

/-- The pool and the ticks its reaper has had. The clock starts with the ticker. -/
structure ReapedPool where
  pool : PoolState
  ticks : Nat

def ReapedPool.nextCheck (state : ReapedPool) : Instant := due 0 reaperInterval state.ticks

def freshPool : ReapedPool where
  pool := emptyPool
  ticks := 0

inductive Event (KeyPair : Type) where
  | pool (action : Action KeyPair)
  | reap

section Steps

variable {KeyPair : Type}

/-- `check_idle` is called by `start_idle_reaper` alone, once for each tick; the
ticks that were missed follow each other at once. -/
def reapedStep (state : ReapedPool) : Event KeyPair → Option ReapedPool
  | .pool (.checkIdle _) => none
  | .pool action => (step state.pool action).map fun pool => { state with pool := pool }
  | .reap =>
      if state.nextCheck ≤ state.pool.now then
        some { pool := checkIdle state.pool sessionIdleTimeout, ticks := state.ticks + 1 }
      else none

/-- Every way the pool and its reaper can go on. -/
inductive ReapedEffect (before : ReapedPool) : Event KeyPair → ReapedPool → Prop where
  | moved (action : Action KeyPair) (pool : PoolState)
      (unchecked : ∀ idleTimeout, action ≠ .checkIdle idleTimeout)
      (taken : step before.pool action = some pool) :
      ReapedEffect before (.pool action) { before with pool := pool }
  | checked (reached : before.nextCheck ≤ before.pool.now) :
      ReapedEffect before .reap
        { pool := checkIdle before.pool sessionIdleTimeout, ticks := before.ticks + 1 }

theorem reaped_step_effect {before after : ReapedPool} {event : Event KeyPair}
    (taken : reapedStep before event = some after) : ReapedEffect before event after := by
  cases event with
  | reap =>
      simp only [reapedStep] at taken
      split at taken
      · cases taken
        exact .checked ‹_›
      · cases taken
  | pool action =>
      cases action with
      | checkIdle idleTimeout => cases taken
      | _ =>
          simp only [reapedStep, Option.map_eq_some_iff] at taken
          obtain ⟨pool, moved, rfl⟩ := taken
          exact .moved _ pool (by intro idleTimeout same; cases same) moved

/-! ## What a check leaves in the pool -/

theorem check_idle_calls (state : PoolState) (idleTimeout : Duration) :
    (checkIdle state idleTimeout).calls = state.calls ∧
      (checkIdle state idleTimeout).sessions = state.sessions ∧
        (checkIdle state idleTimeout).now = state.now := by
  unfold checkIdle
  split
  · split
    · exact ⟨rfl, rfl, rfl⟩
    · exact ⟨rfl, rfl, rfl⟩
  · exact ⟨rfl, rfl, rfl⟩

theorem check_idle_leaves {state : PoolState} {idleTimeout : Duration} {entry : SshPoolEntry}
    (left : (checkIdle state idleTimeout).inner = some entry) :
    state.inner = some entry ∧ state.seenClosed entry.handle = false ∧
      elapsed state.now entry.lastUsed ≤ idleTimeout := by
  unfold checkIdle at left
  cases pooled : state.inner with
  | none =>
      rw [pooled] at left
      exact absurd (pooled.symm.trans left) (by simp)
  | some earlier =>
      simp only [pooled] at left
      split at left
      · cases left
      · rename_i spared
        obtain rfl := Option.some.inj (pooled.symm.trans left)
        push Not at spared
        exact ⟨rfl, Bool.eq_false_iff.mpr spared.1, spared.2⟩

theorem check_idle_spares {state : PoolState} {idleTimeout : Duration} {entry : SshPoolEntry}
    (pooled : state.inner = some entry) (alive : state.seenClosed entry.handle = false)
    (inUse : elapsed state.now entry.lastUsed ≤ idleTimeout) :
    checkIdle state idleTimeout = state := by
  simp only [checkIdle, pooled, alive]
  rw [if_neg]
  rintro (closed | idle)
  · cases closed
  · exact absurd inUse (not_le.mpr idle)

/-! ## Sessions nobody asks for -/

def isHolding (handle : Handle) : Phase → Bool
  | .returned (.ok held) => held == handle
  | _ => false

def holders (state : PoolState) (handle : Handle) : Nat :=
  state.calls.countP fun call => isHolding handle call.phase

theorem holders_after_set {state before : PoolState} {index : Nat} {call : Call} {phase : Phase}
    {handle : Handle} (same : state.calls = before.calls)
    (found : before.calls[index]? = some call) (fresh : isHolding handle call.phase = false) :
    holders (state.setPhase index call phase) handle =
      holders before handle + if isHolding handle phase then 1 else 0 := by
  obtain ⟨within, atIndex⟩ := List.getElem?_eq_some_iff.mp found
  simp only [holders, PoolState.setPhase, same]
  rw [List.countP_set within, atIndex]
  simp [fresh]

/-- What a step of the pool does to the use of its sessions: nobody gives a session
back, and a new entry, or a new time in an old one, comes with a call that is handed it. -/
structure UseKept (before after : PoolState) : Prop where
  later : before.now ≤ after.now
  holders : ∀ handle, holders before handle ≤ holders after handle
  entry : ∀ entry, after.inner = some entry → before.inner = some entry ∨
    entry.lastUsed = before.now ∧
      SshSessionReaping.holders before entry.handle < SshSessionReaping.holders after entry.handle

theorem use_kept_of_same {before after : PoolState} (later : before.now ≤ after.now)
    (calls : after.calls = before.calls)
    (inner : ∀ entry, after.inner = some entry → before.inner = some entry) :
    UseKept before after where
  later := later
  holders := by
    intro handle
    simp only [SshSessionReaping.holders, calls, le_refl]
  entry := by
    intro entry pooled
    exact .inl (inner entry pooled)

theorem use_kept_of_set {state before : PoolState} {index : Nat} {call : Call} {phase : Phase}
    (now : state.now = before.now) (calls : state.calls = before.calls)
    (found : before.calls[index]? = some call)
    (fresh : ∀ handle, isHolding handle call.phase = false)
    (inner : ∀ entry, state.inner = some entry → before.inner = some entry ∨
      entry.lastUsed = before.now ∧ phase = .returned (.ok entry.handle)) :
    UseKept before (state.setPhase index call phase) where
  later := now.symm.le
  holders := by
    intro handle
    rw [holders_after_set calls found (fresh handle)]
    exact Nat.le_add_right _ _
  entry := by
    intro entry pooled
    refine (inner entry pooled).imp_right ?_
    rintro ⟨used, rfl⟩
    refine ⟨used, ?_⟩
    rw [holders_after_set calls found (fresh entry.handle)]
    simp [isHolding]

theorem step_keeps_use {before after : PoolState} {action : Action KeyPair}
    (taken : step before action = some after) : UseKept before after := by
  cases step_effect taken with
  | called dsn =>
      refine ⟨le_rfl, ?_, fun entry pooled => .inl pooled⟩
      intro handle
      simp only [holders, List.countP_append]
      exact Nat.le_add_right _ _
  | missed index call found phase dead =>
      refine use_kept_of_set rfl rfl found ?_ ?_
      · simp [phase, isHolding]
      · intro entry pooled
        cases pooled
  | reused index call entry found phase pooled alive =>
      refine use_kept_of_set rfl rfl found ?_ ?_
      · simp [phase, isHolding]
      · intro renewed pooledNow
        cases pooledNow
        exact .inr ⟨rfl, rfl⟩
  | opened index outside call session found phase sessionFor =>
      refine use_kept_of_set rfl rfl found ?_ (fun entry pooled => .inl pooled)
      simp [phase, isHolding]
  | refused index outside call message found phase =>
      refine use_kept_of_set rfl rfl found ?_ (fun entry pooled => .inl pooled)
      simp [phase, isHolding]
  | stored index call handle found phase =>
      refine use_kept_of_set rfl rfl found ?_ ?_
      · simp [phase, isHolding]
      · intro entry pooledNow
        cases pooledNow
        exact .inr ⟨rfl, rfl⟩
  | reaped idleTimeout => exact use_kept_of_same le_rfl rfl (by simp)
  | ticked duration => exact use_kept_of_same (Nat.le_add_right _ _) rfl (fun _ pooled => pooled)
  | _ => exact use_kept_of_same le_rfl rfl (fun _ pooled => pooled)

theorem check_keeps_use (state : PoolState) (idleTimeout : Duration) :
    UseKept state (checkIdle state idleTimeout) := by
  obtain ⟨calls, _, now⟩ := check_idle_calls state idleTimeout
  exact use_kept_of_same now.symm.le calls fun entry left => (check_idle_leaves left).1

theorem reaped_step_keeps_use {before after : ReapedPool} {event : Event KeyPair}
    (taken : reapedStep before event = some after) : UseKept before.pool after.pool := by
  cases reaped_step_effect taken with
  | moved action pool unchecked moved => exact step_keeps_use moved
  | checked reached => exact check_keeps_use before.pool sessionIdleTimeout

/-- The checks are made at their times, and the entry they left was used in time for
the last one. -/
structure ChecksMade (state : ReapedPool) : Prop where
  checked : state.nextCheck ≤ state.pool.now + reaperInterval
  entry : ∀ entry, state.pool.inner = some entry → entry.lastUsed ≤ state.pool.now ∧
    state.nextCheck ≤ entry.lastUsed + sessionIdleTimeout + reaperInterval

theorem fresh_checks_made : ChecksMade freshPool where
  checked := by simp [ReapedPool.nextCheck, freshPool, due]
  entry := by intro entry pooled; cases pooled

theorem checks_made_step {before after : ReapedPool} {event : Event KeyPair}
    (made : ChecksMade before) (taken : reapedStep before event = some after) :
    ChecksMade after := by
  have use := reaped_step_keeps_use taken
  cases reaped_step_effect taken with
  | moved action pool unchecked moved =>
      refine ⟨made.checked.trans (Nat.add_le_add_right use.later _), ?_⟩
      intro entry pooled
      rcases use.entry entry pooled with earlier | ⟨used, _⟩
      · obtain ⟨past, inTime⟩ := made.entry entry earlier
        exact ⟨past.trans use.later, inTime⟩
      · refine ⟨used.le.trans use.later, ?_⟩
        rw [used]
        exact made.checked.trans (Nat.add_le_add_right (Nat.le_add_right _ _) _)
  | checked reached =>
      have next : due 0 reaperInterval (before.ticks + 1) ≤ before.pool.now + reaperInterval := by
        rw [due_succ]
        exact Nat.add_le_add_right reached _
      refine ⟨next.trans (Nat.add_le_add_right use.later _), ?_⟩
      intro entry left
      obtain ⟨pooled, _, inUse⟩ := check_idle_leaves left
      refine ⟨(made.entry entry pooled).1.trans use.later, ?_⟩
      have soon : before.pool.now ≤ entry.lastUsed + sessionIdleTimeout :=
        Nat.sub_le_iff_le_add'.mp inUse
      exact next.trans (Nat.add_le_add_right soon _)

/-- No time passes a tick of the reaper by more than the lag. -/
def Prompt (lag : Duration) (state : ReapedPool) : Event KeyPair → Prop
  | .pool (.tick duration) => state.pool.now + duration ≤ state.nextCheck + lag
  | _ => True

instance (lag : Duration) (state : ReapedPool) :
    (event : Event KeyPair) → Decidable (Prompt lag state event)
  | .pool (.tick _) => inferInstanceAs (Decidable (_ ≤ _))
  | .pool (.call _) | .pool (.lookup _) | .pool (.connect _ _) | .pool (.store _)
  | .pool (.checkIdle _) | .pool (.close _) | .pool (.lock _) | .pool (.unlock _) | .reap =>
      .isTrue trivial

theorem prompt_step {lag : Duration} {before after : ReapedPool} {event : Event KeyPair}
    (onTime : before.pool.now ≤ before.nextCheck + lag) (prompt : Prompt lag before event)
    (taken : reapedStep before event = some after) :
    after.pool.now ≤ after.nextCheck + lag := by
  cases reaped_step_effect taken with
  | moved action pool unchecked moved =>
      cases step_effect moved with
      | ticked duration => exact prompt
      | _ => exact onTime
  | checked reached =>
      have next : before.nextCheck ≤ due 0 reaperInterval (before.ticks + 1) := by
        rw [due_succ]
        exact Nat.le_add_right _ _
      change (checkIdle before.pool sessionIdleTimeout).now ≤ _
      rw [(check_idle_calls before.pool sessionIdleTimeout).2.2]
      exact onTime.trans (Nat.add_le_add_right next _)

/-- Since an instant, either the session was handed out or its entry is no younger. -/
structure UnusedSince (handle : Handle) (count : Nat) (since : Instant) (state : ReapedPool) :
    Prop where
  counted : count ≤ holders state.pool handle
  entry : holders state.pool handle = count → ∀ entry, state.pool.inner = some entry →
    entry.handle = handle → entry.lastUsed ≤ since

theorem unused_since_step {handle : Handle} {count : Nat} {since : Instant}
    {before after : ReapedPool} {event : Event KeyPair}
    (unused : UnusedSince handle count since before)
    (taken : reapedStep before event = some after) : UnusedSince handle count since after := by
  have use := reaped_step_keeps_use taken
  refine ⟨unused.counted.trans (use.holders handle), ?_⟩
  intro same entry pooled named
  have grown := use.holders handle
  have counted := unused.counted
  have sameBefore : holders before.pool handle = count := by omega
  rcases use.entry entry pooled with earlier | ⟨_, handed⟩
  · exact unused.entry sameBefore entry earlier named
  · rw [named] at handed
    omega

/-- A session that no call is handed any more is out of the pool once the idle timeout,
the reaper's interval and its lag are over, whatever else happens to it. -/
theorem unused_session_leaves_pool (lag : Duration) (front back : List (Event KeyPair))
    (middle finish : ReapedPool) (reached : runFrom reapedStep freshPool front = some middle)
    (later : runFrom reapedStep middle back = some finish)
    (prompt : EveryStep reapedStep (Prompt lag) freshPool (front ++ back)) (handle : Handle)
    (unused : holders finish.pool handle = holders middle.pool handle)
    (long : middle.pool.now + sessionIdleTimeout + reaperInterval + lag < finish.pool.now) :
    ∀ entry, finish.pool.inner = some entry → entry.handle ≠ handle := by
  intro entry pooled named
  have ran := run_append reached later
  have madeAtMiddle : ChecksMade middle :=
    run_preserves (fun _ _ _ made taken => checks_made_step made taken) fresh_checks_made reached
  have made : ChecksMade finish :=
    run_preserves (fun _ _ _ made taken => checks_made_step made taken) madeAtMiddle later
  have onTime : finish.pool.now ≤ finish.nextCheck + lag :=
    run_preserves_when (fun _ _ _ onTime prompt taken => prompt_step onTime prompt taken)
      (Nat.zero_le _) prompt ran
  have atMiddle : UnusedSince handle (holders middle.pool handle) middle.pool.now middle :=
    ⟨le_rfl, fun _ entry pooled _ => (madeAtMiddle.entry entry pooled).1⟩
  have since : UnusedSince handle (holders middle.pool handle) middle.pool.now finish :=
    run_preserves (fun _ _ _ since taken => unused_since_step since taken) atMiddle later
  have old := since.entry unused entry pooled named
  apply absurd long
  apply not_lt.mpr
  calc finish.pool.now ≤ finish.nextCheck + lag := onTime
    _ ≤ entry.lastUsed + sessionIdleTimeout + reaperInterval + lag :=
        Nat.add_le_add_right (made.entry entry pooled).2 _
    _ ≤ middle.pool.now + sessionIdleTimeout + reaperInterval + lag :=
        Nat.add_le_add_right (Nat.add_le_add_right (Nat.add_le_add_right old _) _) _

/-! ## A session that is asked for -/

/-- The pool holds the session, and it is open. -/
def Serving (handle : Handle) (state : PoolState) : Prop :=
  isLive state handle = true ∧ ∃ entry, state.inner = some entry ∧ entry.handle = handle

/-- What keeps others out of the pool: the session was stored, and while it is served
nobody opens another one. -/
structure Settled (handle : Handle) (state : PoolState) : Prop where
  known : handle < state.sessions.length
  stored : ∀ call ∈ state.calls, call.phase ≠ .storing handle
  alone : Serving handle state → ∀ call ∈ state.calls, isOpening call.phase = false

/-- The session is not closed, and no check comes later than the idle timeout behind
the last time a call was handed it. -/
def LeftInUse (handle : Handle) (state : ReapedPool) : Event KeyPair → Prop
  | .pool action => action ≠ .close handle
  | .reap => ∀ entry, state.pool.inner = some entry →
      elapsed state.pool.now entry.lastUsed ≤ sessionIdleTimeout

theorem not_seen_closed_of_live {state : PoolState} {handle : Handle}
    (live : isLive state handle = true) : state.seenClosed handle = false := by
  unfold isLive at live
  unfold PoolState.seenClosed
  cases found : state.sessions[handle]? with
  | none => rfl
  | some session =>
      rw [found] at live
      simp only [Option.any_some, Bool.not_eq_true'] at live
      simp [live]

theorem is_live_of_other_change {state : PoolState} {target handle : Handle}
    {change : Session → Session}
    (kept : target = handle → ∀ session, (change session).closed = session.closed) :
    isLive (state.changeSession target change) handle = isLive state handle := by
  unfold isLive PoolState.changeSession
  rw [List.getElem?_modify]
  by_cases hit : target = handle
  · cases state.sessions[handle]? with
    | none => rfl
    | some session => simp [hit, kept hit session]
  · simp [hit]

theorem not_live_once_closed (state : PoolState) (handle : Handle) :
    isLive (state.changeSession handle fun session => { session with closed := true }) handle =
      false := by
  unfold isLive PoolState.changeSession
  rw [List.getElem?_modify]
  cases state.sessions[handle]? <;> simp

theorem serving_congr {handle : Handle} {before after : PoolState}
    (inner : after.inner = before.inner) (live : isLive after handle = isLive before handle) :
    Serving handle after ↔ Serving handle before := by
  rw [Serving, Serving, inner, live]

theorem not_storing_after_set {before state : PoolState} {handle : Handle} {index : Nat}
    {call : Call} {phase : Phase} (same : state.calls = before.calls)
    (stored : ∀ call ∈ before.calls, call.phase ≠ .storing handle)
    (other : phase ≠ .storing handle) :
    ∀ member ∈ (state.setPhase index call phase).calls, member.phase ≠ .storing handle := by
  intro member listed
  rcases mem_set_phase listed with old | rfl
  · exact stored member (same ▸ old)
  · exact other

theorem settled_step {handle : Handle} {before after : PoolState} {action : Action KeyPair}
    (settled : Settled handle before) (taken : step before action = some after) :
    Settled handle after := by
  have known := (step_keeps_endpoints (step_effect taken) handle settled.known).1
  have others : ∀ (index : Nat), Serving handle before → ∀ other otherCall, other ≠ index →
      before.calls[other]? = some otherCall → isOpening otherCall.phase = false := by
    intro index serving other otherCall _ found
    exact settled.alone serving otherCall (List.mem_of_getElem? found)
  cases step_effect taken with
  | called dsn =>
      refine ⟨known, ?_, ?_⟩
      · intro call listed
        rcases List.mem_append.mp listed with earlier | last
        · exact settled.stored call earlier
        · rw [List.mem_singleton.mp last]
          intro storing
          cases storing
      · intro serving call listed
        rcases List.mem_append.mp listed with earlier | last
        · exact settled.alone serving call earlier
        · rw [List.mem_singleton.mp last]
          rfl
  | missed index call found phase dead =>
      refine ⟨known, not_storing_after_set rfl settled.stored (by simp), ?_⟩
      rintro ⟨_, entry, pooled, _⟩
      cases pooled
  | reused index call entry found phase pooled alive =>
      refine ⟨known, not_storing_after_set rfl settled.stored (by simp), ?_⟩
      rintro ⟨live, renewed, pooledNow, named⟩
      cases pooledNow
      exact moved_not_opening rfl rfl (others index ⟨live, entry, pooled, named⟩)
  | opened index outside call session found phase sessionFor =>
      refine ⟨known, not_storing_after_set rfl settled.stored ?_, ?_⟩
      · simp [settled.known.ne']
      · rintro ⟨live, pooled⟩
        have grown : ({ before with sessions := before.sessions ++ [session] }.setPhase index call
          (.storing before.sessions.length)).sessions = before.sessions ++ [session] := rfl
        rw [is_live_of_new_session grown settled.known] at live
        have free := settled.alone ⟨live, pooled⟩ call (List.mem_of_getElem? found)
        rw [phase] at free
        cases free
  | refused index outside call message found phase =>
      refine ⟨known, not_storing_after_set rfl settled.stored (by simp), ?_⟩
      intro serving
      exact moved_not_opening rfl rfl (others index serving)
  | stored index call other found phase =>
      refine ⟨known, not_storing_after_set rfl settled.stored (by simp), ?_⟩
      rintro ⟨_, entry, pooled, named⟩
      cases pooled
      have fresh := settled.stored call (List.mem_of_getElem? found)
      rw [phase, ← named] at fresh
      exact absurd rfl fresh
  | reaped idleTimeout =>
      refine ⟨known, settled.stored, ?_⟩
      rintro ⟨_, entry, pooled, _⟩
      cases pooled
  | spared idleTimeout => exact settled
  | closed target =>
      refine ⟨known, settled.stored, ?_⟩
      rintro ⟨live, pooled⟩
      exact settled.alone ⟨is_live_of_change (fun _ _ => rfl) live, pooled⟩
  | locked target =>
      refine ⟨known, settled.stored, ?_⟩
      rintro ⟨live, pooled⟩
      exact settled.alone ⟨is_live_of_change (by simp) live, pooled⟩
  | unlocked target =>
      refine ⟨known, settled.stored, ?_⟩
      rintro ⟨live, pooled⟩
      exact settled.alone ⟨is_live_of_change (by simp) live, pooled⟩
  | ticked duration => exact ⟨known, settled.stored, settled.alone⟩

theorem serving_step {handle : Handle} {before after : PoolState} {action : Action KeyPair}
    (settled : Settled handle before) (unchecked : ∀ idleTimeout, action ≠ .checkIdle idleTimeout)
    (taken : step before action = some after) :
    Serving handle after ↔ Serving handle before ∧ action ≠ .close handle := by
  cases step_effect taken with
  | missed index call found phase dead =>
      constructor
      · rintro ⟨_, entry, pooled, _⟩
        cases pooled
      · rintro ⟨⟨live, entry, pooled, rfl⟩, _⟩
        have alive := not_seen_closed_of_live live
        rw [dead entry pooled] at alive
        cases alive
  | reused index call entry found phase pooled alive =>
      constructor
      · rintro ⟨live, renewed, pooledNow, named⟩
        cases pooledNow
        exact ⟨⟨live, entry, pooled, named⟩, by simp⟩
      · rintro ⟨⟨live, held, pooledHeld, named⟩, _⟩
        obtain rfl := Option.some.inj (pooled.symm.trans pooledHeld)
        exact ⟨live, _, rfl, named⟩
  | opened index outside call session found phase sessionFor =>
      have grown : ({ before with sessions := before.sessions ++ [session] }.setPhase index call
        (.storing before.sessions.length)).sessions = before.sessions ++ [session] := rfl
      refine Iff.trans (serving_congr ?_ ?_) (and_iff_left (by simp)).symm
      · rfl
      · exact is_live_of_new_session grown settled.known
  | stored index call other found phase =>
      constructor
      · rintro ⟨_, entry, pooled, named⟩
        cases pooled
        have fresh := settled.stored call (List.mem_of_getElem? found)
        rw [phase, ← named] at fresh
        exact absurd rfl fresh
      · rintro ⟨serving, _⟩
        have free := settled.alone serving call (List.mem_of_getElem? found)
        rw [phase] at free
        cases free
  | closed target =>
      by_cases hit : target = handle
      · subst hit
        constructor
        · rintro ⟨live, _⟩
          rw [not_live_once_closed] at live
          cases live
        · rintro ⟨_, other⟩
          exact absurd rfl other
      · have other : (Action.close target : Action KeyPair) ≠ .close handle := by
          intro same
          cases same
          exact hit rfl
        refine Iff.trans (serving_congr ?_ ?_) (and_iff_left other).symm
        · rfl
        · exact is_live_of_other_change fun same => absurd same hit
  | locked target =>
      refine Iff.trans (serving_congr ?_ ?_) (and_iff_left (by simp)).symm
      · rfl
      · exact is_live_of_other_change fun _ _ => rfl
  | unlocked target =>
      refine Iff.trans (serving_congr ?_ ?_) (and_iff_left (by simp)).symm
      · rfl
      · exact is_live_of_other_change fun _ _ => rfl
  | reaped idleTimeout => exact absurd rfl (unchecked idleTimeout)
  | spared idleTimeout => exact absurd rfl (unchecked idleTimeout)
  | _ => exact ⟨fun serving => ⟨serving, by simp⟩, fun serving => serving.1⟩

theorem settled_reaped_step {handle : Handle} {before after : ReapedPool} {event : Event KeyPair}
    (settled : Settled handle before.pool) (taken : reapedStep before event = some after) :
    Settled handle after.pool := by
  cases reaped_step_effect taken with
  | moved action pool unchecked moved => exact settled_step settled moved
  | checked reached =>
      have checked : step before.pool (.checkIdle sessionIdleTimeout : Action KeyPair) =
        some (checkIdle before.pool sessionIdleTimeout) := rfl
      exact settled_step settled checked

theorem serving_reaped_step {handle : Handle} {before after : ReapedPool} {event : Event KeyPair}
    (settled : Settled handle before.pool) (taken : reapedStep before event = some after) :
    Serving handle after.pool ↔ Serving handle before.pool ∧ LeftInUse handle before event := by
  cases reaped_step_effect taken with
  | moved action pool unchecked moved => exact serving_step settled unchecked moved
  | checked reached =>
      have sessions := (check_idle_calls before.pool sessionIdleTimeout).2.1
      constructor
      · rintro ⟨live, entry, left, named⟩
        obtain ⟨pooled, _, inUse⟩ := check_idle_leaves left
        rw [isLive, sessions] at live
        refine ⟨⟨live, entry, pooled, named⟩, ?_⟩
        intro other pooledOther
        obtain rfl := Option.some.inj (pooled.symm.trans pooledOther)
        exact inUse
      · rintro ⟨⟨live, entry, pooled, rfl⟩, inUse⟩
        have spared := check_idle_spares pooled (not_seen_closed_of_live live) (inUse entry pooled)
        change Serving entry.handle (checkIdle before.pool sessionIdleTimeout)
        rw [spared]
        exact ⟨live, entry, pooled, rfl⟩

/-- Nothing was opened since, and every call since then that is done was handed the session. -/
structure ServedAll (handle : Handle) (since state : PoolState) : Prop where
  sessions : state.sessions.length = since.sessions.length
  calls : ∀ call ∈ state.calls, call ∈ since.calls ∨ call.phase = .lookingUp ∨
    call.phase = .returned (.ok handle)

theorem served_all_step {handle : Handle} {since before after : PoolState}
    {action : Action KeyPair} (settled : Settled handle before) (serving : Serving handle before)
    (served : ServedAll handle since before) (taken : step before action = some after) :
    ServedAll handle since after := by
  have notOpening : ∀ {index : Nat} {call : Call} {phase : Phase},
      before.calls[index]? = some call → call.phase = phase → isOpening phase = true → False := by
    intro index call phase found standing opening
    have free := settled.alone serving call (List.mem_of_getElem? found)
    rw [standing, opening] at free
    cases free
  cases step_effect taken with
  | called dsn =>
      refine ⟨served.sessions, ?_⟩
      intro call listed
      rcases List.mem_append.mp listed with earlier | last
      · exact served.calls call earlier
      · rw [List.mem_singleton.mp last]
        exact .inr (.inl rfl)
  | missed index call found phase dead =>
      obtain ⟨live, entry, pooled, rfl⟩ := serving
      have alive := not_seen_closed_of_live live
      rw [dead entry pooled] at alive
      cases alive
  | reused index call entry found phase pooled alive =>
      obtain ⟨_, held, pooledHeld, rfl⟩ := serving
      obtain rfl := Option.some.inj (pooled.symm.trans pooledHeld)
      refine ⟨served.sessions, ?_⟩
      intro member listed
      rcases mem_set_phase listed with old | rfl
      · exact served.calls member old
      · exact .inr (.inr rfl)
  | opened index outside call session found phase sessionFor =>
      exact (notOpening found phase rfl).elim
  | refused index outside call message found phase => exact (notOpening found phase rfl).elim
  | stored index call other found phase => exact (notOpening found phase rfl).elim
  | closed target => exact ⟨by simpa [PoolState.changeSession] using served.sessions, served.calls⟩
  | locked target => exact ⟨by simpa [PoolState.changeSession] using served.sessions, served.calls⟩
  | unlocked target =>
      exact ⟨by simpa [PoolState.changeSession] using served.sessions, served.calls⟩
  | _ => exact ⟨served.sessions, served.calls⟩

structure InService (handle : Handle) (since : PoolState) (state : ReapedPool) : Prop where
  settled : Settled handle state.pool
  serving : Serving handle state.pool
  served : ServedAll handle since state.pool

theorem in_service_step {handle : Handle} {since : PoolState} {before after : ReapedPool}
    {event : Event KeyPair} (service : InService handle since before)
    (inUse : LeftInUse handle before event) (taken : reapedStep before event = some after) :
    InService handle since after where
  settled := settled_reaped_step service.settled taken
  serving := (serving_reaped_step service.settled taken).mpr ⟨service.serving, inUse⟩
  served := by
    cases reaped_step_effect taken with
    | moved action pool unchecked moved =>
        exact served_all_step service.settled service.serving service.served moved
    | checked reached =>
        obtain ⟨calls, sessions, _⟩ := check_idle_calls before.pool sessionIdleTimeout
        refine ⟨?_, ?_⟩
        · change (checkIdle before.pool sessionIdleTimeout).sessions.length = _
          rw [sessions]
          exact service.served.sessions
        · change ∀ call ∈ (checkIdle before.pool sessionIdleTimeout).calls, _
          rw [calls]
          exact service.served.calls

theorem settled_of_alone {handle : Handle} {state : PoolState} (serving : Serving handle state)
    (alone : ∀ call ∈ state.calls, isOpening call.phase = false) : Settled handle state where
  known := by
    have live := serving.1
    simp only [isLive, Option.any_eq_true] at live
    obtain ⟨session, found, _⟩ := live
    exact (List.getElem?_eq_some_iff.mp found).1
  stored := by
    intro call listed storing
    have free := alone call listed
    rw [storing] at free
    cases free
  alone := fun _ => alone

/-- An open session in the pool, with no call about to store another one, stays there for
exactly as long as it is not closed and each check comes within the idle timeout of its
last use. Until then every call is handed it and no session is opened. -/
theorem session_in_use_serves_every_call (handle : Handle) (middle finish : ReapedPool)
    (events : List (Event KeyPair)) (serving : Serving handle middle.pool)
    (alone : ∀ call ∈ middle.pool.calls, isOpening call.phase = false)
    (ran : runFrom reapedStep middle events = some finish) :
    (Serving handle finish.pool ↔ EveryStep reapedStep (LeftInUse handle) middle events) ∧
      (Serving handle finish.pool →
        finish.pool.sessions.length = middle.pool.sessions.length ∧
          ∀ call ∈ finish.pool.calls, call ∈ middle.pool.calls ∨ call.phase = .lookingUp ∨
            call.phase = .returned (.ok handle)) := by
  have settled := settled_of_alone serving alone
  have whileInUse : Serving handle finish.pool ↔
      EveryStep reapedStep (LeftInUse handle) middle events :=
    run_property_iff_every_step
      (fun _ _ _ settled taken => settled_reaped_step settled taken)
      (fun _ _ _ settled taken inUse serving =>
        (serving_reaped_step settled taken).mpr ⟨serving, inUse⟩)
      (fun _ _ _ settled taken serving => (serving_reaped_step settled taken).mp serving)
      settled serving ran
  refine ⟨whileInUse, ?_⟩
  intro still
  have atMiddle : InService handle middle.pool middle :=
    ⟨settled, serving, rfl, fun _ listed => .inl listed⟩
  have atFinish : InService handle middle.pool finish :=
    run_preserves_when (fun _ _ _ service inUse taken => in_service_step service inUse taken)
      atMiddle (whileInUse.mp still) ran
  exact ⟨atFinish.served.sessions, atFinish.served.calls⟩

end Steps

/-- One caller is handed a session, and a check is made before any time has passed. -/
def oneCaller : List (Event Unit) :=
  [.pool (.call officeUpstream), .pool (.lookup 0), .pool (.connect 0 acceptAll), .pool (.store 0),
    .reap]

def checkBehindInterval : List (Event Unit) := [.pool (.tick reaperInterval), .reap]

/-- The third check finds the session idle for longer than the timeout. -/
def leftAlone : List (Event Unit) :=
  checkBehindInterval ++ checkBehindInterval ++ checkBehindInterval ++ [.pool (.tick 1)]

def overview (state : ReapedPool) : Instant × Nat × Bool × Option Handle :=
  (state.pool.now, holders state.pool 0, isLive state.pool 0,
    state.pool.inner.map SshPoolEntry.handle)

theorem one_caller_served : ∃ middle, runFrom reapedStep freshPool oneCaller = some middle ∧
    overview middle = (0, 1, true, some 0) :=
  Option.map_eq_some_iff.mp (by decide +kernel)

theorem serving_of_overview {state : ReapedPool} {now : Instant} {count : Nat}
    (overviewed : overview state = (now, count, true, some 0)) : Serving 0 state.pool := by
  simp only [overview, Prod.mk.injEq, Option.map_eq_some_iff] at overviewed
  exact overviewed.2.2

theorem left_alone_session_leaves_pool :
    ∃ middle finish, runFrom reapedStep freshPool oneCaller = some middle ∧
      runFrom reapedStep middle leftAlone = some finish ∧ Serving 0 middle.pool ∧
        ∀ entry, finish.pool.inner = some entry → entry.handle ≠ 0 := by
  obtain ⟨middle, reached, atMiddle⟩ := one_caller_served
  have ran : ((runFrom reapedStep freshPool oneCaller).bind fun middle =>
      runFrom reapedStep middle leftAlone).map overview = some (90000000001, 1, true, none) := by
    decide +kernel
  rw [reached, Option.bind_some] at ran
  obtain ⟨finish, later, atFinish⟩ := Option.map_eq_some_iff.mp ran
  refine ⟨middle, finish, reached, later, serving_of_overview atMiddle, ?_⟩
  simp only [overview, Prod.mk.injEq] at atMiddle atFinish
  have unused := atFinish.2.1.trans atMiddle.2.1.symm
  have long : middle.pool.now + sessionIdleTimeout + reaperInterval + 0 < finish.pool.now := by
    rw [atMiddle.1, atFinish.1]
    decide
  exact unused_session_leaves_pool 0 oneCaller leftAlone middle finish reached later
    (by decide +kernel) 0 unused long

/-- A second caller comes between two checks. -/
def askedForAgain : List (Event Unit) :=
  checkBehindInterval ++ [.pool (.call officeUpstream), .pool (.lookup 1)] ++
    checkBehindInterval ++ checkBehindInterval

theorem asked_for_session_serves :
    ∃ middle finish, runFrom reapedStep freshPool oneCaller = some middle ∧
      runFrom reapedStep middle askedForAgain = some finish ∧ Serving 0 finish.pool ∧
        (Serving 0 finish.pool ↔ EveryStep reapedStep (LeftInUse 0) middle askedForAgain) ∧
          (Serving 0 finish.pool → finish.pool.sessions.length = middle.pool.sessions.length ∧
            ∀ call ∈ finish.pool.calls, call ∈ middle.pool.calls ∨ call.phase = .lookingUp ∨
              call.phase = .returned (.ok 0)) := by
  have settled : ((runFrom reapedStep freshPool oneCaller).map fun middle =>
      middle.pool.calls.all fun call => !isOpening call.phase) = some true := by
    decide +kernel
  obtain ⟨middle, reached, atMiddle⟩ := one_caller_served
  rw [reached, Option.map_some, Option.some.injEq, List.all_eq_true] at settled
  have ran : ((runFrom reapedStep freshPool oneCaller).bind fun middle =>
      runFrom reapedStep middle askedForAgain).map overview =
        some (90000000000, 2, true, some 0) := by
    decide +kernel
  rw [reached, Option.bind_some] at ran
  obtain ⟨finish, later, atFinish⟩ := Option.map_eq_some_iff.mp ran
  exact ⟨middle, finish, reached, later, serving_of_overview atFinish,
    session_in_use_serves_every_call 0 middle finish askedForAgain (serving_of_overview atMiddle)
      (by simpa using settled) later⟩

end MultiProxy.SshSessionReaping
