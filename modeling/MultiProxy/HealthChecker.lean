import MultiProxy.ChannelHistory
import MultiProxy.PeriodicTicks
import MultiProxy.ProxyRequests

/-!
# The health checker on its schedule

The probes of the three kinds of upstream, a pass over all channels at once, and the
passes one after the other as the timer of the checker lets them begin. Time is told
by the network alone: what is computed in between takes none.
-/

namespace MultiProxy.HealthChecker

open MultiProxy.RustRuntime MultiProxy.UpstreamDsn MultiProxy.PeriodicTicks
open MultiProxy.InteractionPrograms MultiProxy.InteractionPrograms.Program
open MultiProxy.ChannelHealth MultiProxy.ChannelHistory MultiProxy.ProxyRequests

set_option autoImplicit false

/-! ## Probes -/

inductive Connecting where
  | answered (delay : Duration) (accepted : Bool)
  | silent
  deriving DecidableEq, Repr

/-- The network, by the address and the time of an attempt. -/
abbrev Network : Type := String → Instant → Connecting

structure Verdict where
  took : Duration
  healthy : Bool
  deriving DecidableEq, Repr

section Probes

variable (network : Network) (limit : Duration)

/-- `TcpStream::connect` under a timeout, from a begin on. -/
def probe (start : Instant) (host : String) (port : UInt16) : Verdict :=
  match network (hostPort host port) start with
  | .answered delay accepted => if delay ≤ limit then ⟨delay, accepted⟩ else ⟨limit, false⟩
  | .silent => ⟨limit, false⟩

def httpProbe (start : Instant) (dsn : HttpDsn) : Verdict :=
  probe network limit start dsn.host dsn.port

def socks5Probe (start : Instant) (dsn : Socks5Dsn) : Verdict :=
  probe network limit start dsn.host dsn.port

def sshProbe (start : Instant) (dsn : SshDsn) : Verdict :=
  probe network limit start dsn.host dsn.port

def checkChannel (start : Instant) : Dsn → Verdict
  | .http dsn => httpProbe network limit start dsn
  | .socks5 dsn => socks5Probe network limit start dsn
  | .ssh dsn => sshProbe network limit start dsn

theorem probe_within (start : Instant) (host : String) (port : UInt16) :
    (probe network limit start host port).took ≤ limit := by
  unfold probe
  split
  · split
    · assumption
    · exact Nat.le_refl limit
  · exact Nat.le_refl limit

theorem check_within (start : Instant) (dsn : Dsn) :
    (checkChannel network limit start dsn).took ≤ limit := by
  cases dsn <;> exact probe_within network limit start _ _

end Probes

/-! ## One pass -/

theorem related_member {Item Other : Type} {Related : Item → Other → Prop} {items : List Item}
    {others : List Other} (related : List.Forall₂ Related items others) {item : Item}
    (member : item ∈ items) : ∃ other ∈ others, Related item other := by
  induction related with
  | nil => cases member
  | cons first rest ih =>
      rcases List.mem_cons.mp member with rfl | within
      · exact ⟨_, List.mem_cons_self, first⟩
      · obtain ⟨other, inOthers, found⟩ := ih within
        exact ⟨other, List.mem_cons_of_mem _ inOthers, found⟩

/-- What a pass is followed by: the time, when its probes were spawned, and the marks
it has made. -/
structure Watch where
  time : Instant
  spawned : Instant
  marks : List (Nat × Report)

section Pass

variable (network : Network) (limit : Duration) (pick : List (Nat × Dsn) → Nat)
  (snapshot : List Channel)

/-- All probes run from when they were spawned on. Which of them is joined next is
left open; a probe that is still running is waited for. -/
def respond (watch : Watch) : (request : Call) → Option (Reply request) × Watch
  | .channels => (some snapshot, { watch with spawned := watch.time })
  | .now => (some watch.time, watch)
  | .mark id healthy =>
      (some (), { watch with marks := watch.marks ++ [(id, ⟨healthy, watch.time⟩)] })
  | .joinNext [] => (some none, watch)
  | .joinNext (first :: rest) =>
      let position := pick (first :: rest) % (rest.length + 1)
      let joined := ((first :: rest)[position]?).getD first
      let verdict := checkChannel network limit watch.spawned joined.2
      (some (some (position, some verdict.healthy)),
        { watch with time := max watch.time (watch.spawned + verdict.took) })
  | .establish _ _ _ => (none, watch)
  | .forward _ _ _ _ => (none, watch)

def pass (start : Instant) : Option Unit × Watch :=
  runCheck.run (respond network limit pick snapshot) ⟨start, start, []⟩

/-- The mark of a probe says its verdict, once that is there and by the end of the pass. -/
structure MarkOf (spawned finish : Instant) (probe : Nat × Dsn) (mark : Nat × Report) : Prop where
  id : mark.1 = probe.1
  healthy : mark.2.healthy = (checkChannel network limit spawned probe.2).healthy
  behind : spawned + (checkChannel network limit spawned probe.2).took ≤ mark.2.time
  within : mark.2.time ≤ finish

structure Joined (before after : Watch) (set : List (Nat × Dsn)) : Prop where
  spawned : after.spawned = before.spawned
  later : before.time ≤ after.time
  within : after.time ≤ max before.time (before.spawned + limit)
  last : after.time = before.time ∨ ∃ probe ∈ set,
    after.time = before.spawned + (checkChannel network limit before.spawned probe.2).took
  marks : ∃ order marks, order.Perm set ∧ after.marks = before.marks ++ marks ∧
    List.Forall₂ (MarkOf network limit before.spawned after.time) order marks

/-- When a probe of the set is there, and the mark that is made of it then. -/
def joinTime (watch : Watch) (probe : Nat × Dsn) : Instant :=
  max watch.time (watch.spawned + (checkChannel network limit watch.spawned probe.2).took)

def joinMark (watch : Watch) (probe : Nat × Dsn) : Nat × Report :=
  (probe.1, ⟨(checkChannel network limit watch.spawned probe.2).healthy,
    joinTime network limit watch probe⟩)

theorem join_turn (count : Nat) (first : Nat × Dsn) (rest : List (Nat × Dsn)) (watch : Watch) :
    ∃ position probe, (first :: rest)[position]? = some probe ∧
      (joinProbes (count + 1) (first :: rest)).run (respond network limit pick snapshot) watch =
        (joinProbes count ((first :: rest).eraseIdx position)).run
          (respond network limit pick snapshot)
          { time := joinTime network limit watch probe
            spawned := watch.spawned
            marks := watch.marks ++ [joinMark network limit watch probe] } := by
  have within : pick (first :: rest) % (rest.length + 1) < (first :: rest).length :=
    Nat.mod_lt _ (Nat.succ_pos _)
  have found := List.getElem?_eq_getElem within
  refine ⟨_, _, found, ?_⟩
  rw [joinProbes, join_next_bind, run_call]
  simp only [respond, found, Option.getD_some]
  rw [joinMark]
  cases (checkChannel network limit watch.spawned _).healthy <;> rfl

theorem join_probes_joined (count : Nat) (set : List (Nat × Dsn)) (sized : set.length = count)
    (watch : Watch) :
    ∃ after, (joinProbes count set).run (respond network limit pick snapshot) watch =
      (some (), after) ∧ Joined network limit watch after set := by
  induction count generalizing set watch with
  | zero =>
      cases List.length_eq_zero_iff.mp sized
      exact ⟨watch, rfl, rfl, Nat.le_refl _, Nat.le_max_left _ _, .inl rfl, [], [],
        List.Perm.nil, (List.append_nil _).symm, List.Forall₂.nil⟩
  | succ count ih =>
      cases set with
      | nil => cases sized
      | cons first rest =>
          obtain ⟨position, probe, found, turn⟩ :=
            join_turn network limit pick snapshot count first rest watch
          obtain ⟨within, here⟩ := List.getElem?_eq_some_iff.mp found
          have fewer : ((first :: rest).eraseIdx position).length = count := by
            rw [List.length_eraseIdx_of_lt within, sized]
            rfl
          obtain ⟨after, ran, joined⟩ := ih _ fewer _
          refine ⟨after, turn.trans ran, joined.spawned, ?_, ?_, ?_, ?_⟩
          · exact (Nat.le_max_left _ _).trans joined.later
          · have inTime := check_within network limit watch.spawned probe.2
            have soon : watch.spawned + (checkChannel network limit watch.spawned probe.2).took ≤
                max watch.time (watch.spawned + limit) :=
              (Nat.add_le_add_left inTime _).trans (Nat.le_max_right _ _)
            apply joined.within.trans
            exact Nat.max_le.mpr
              ⟨Nat.max_le.mpr ⟨Nat.le_max_left _ _, soon⟩, Nat.le_max_right _ _⟩
          · rcases joined.last with same | ⟨other, member, same⟩
            · rcases max_choice watch.time (watch.spawned +
                (checkChannel network limit watch.spawned probe.2).took) with early | late
              · exact .inl (same.trans early)
              · exact .inr ⟨probe, List.mem_of_getElem? found, same.trans late⟩
            · exact .inr ⟨other, List.mem_of_mem_eraseIdx member, same⟩
          · obtain ⟨order, marks, permuted, marked, each⟩ := joined.marks
            refine ⟨probe :: order, joinMark network limit watch probe :: marks, ?_, ?_,
              List.Forall₂.cons ?_ each⟩
            · rw [← here]
              exact (permuted.cons _).trans (List.getElem_cons_eraseIdx_perm within)
            · rw [marked, List.append_assoc]
              rfl
            · exact ⟨rfl, rfl, Nat.le_max_right _ _, joined.later⟩

theorem pass_joined (start : Instant) :
    ∃ after, pass network limit pick snapshot start = (some (), after) ∧
      start ≤ after.time ∧ after.time ≤ start + limit ∧
      (after.time = start ∨ ∃ channel ∈ snapshot,
        after.time = start + (checkChannel network limit start channel.dsn).took) ∧
      ∃ order, order.Perm (snapshot.map fun channel => (channel.id, channel.dsn)) ∧
        List.Forall₂ (MarkOf network limit start after.time) order after.marks := by
  let probes := snapshot.map fun channel => (channel.id, channel.dsn)
  have sized : probes.length = snapshot.length := List.length_map _
  obtain ⟨after, ran, joined⟩ :=
    join_probes_joined network limit pick snapshot snapshot.length probes sized ⟨start, start, []⟩
  obtain ⟨order, marks, permuted, marked, each⟩ := joined.marks
  refine ⟨after, ran, joined.later, ?_, ?_, order, permuted, ?_⟩
  · apply joined.within.trans
    exact Nat.max_le.mpr ⟨Nat.le_add_right _ _, Nat.le_refl _⟩
  · apply joined.last.imp_right
    rintro ⟨probe, member, same⟩
    obtain ⟨channel, inSnapshot, rfl⟩ := List.mem_map.mp member
    exact ⟨channel, inSnapshot, same⟩
  · rw [marked]
    exact each

end Pass

theorem marked_ids {network : Network} {limit : Duration} {spawned finish : Instant}
    {order : List (Nat × Dsn)} {marks : List (Nat × Report)}
    (each : List.Forall₂ (MarkOf network limit spawned finish) order marks) :
    marks.map Prod.fst = order.map Prod.fst := by
  induction each with
  | nil => rfl
  | cons markOf _ ih => rw [List.map_cons, List.map_cons, markOf.id, ih]

/-- In whatever order its probes end, a pass marks each channel of its snapshot once,
with the verdict of its own probe and not before that is there, and it is over when the
slowest probe is, within the timeout for any number of channels. -/
theorem pass_marks_each_once (network : Network) (limit : Duration) (pick : List (Nat × Dsn) → Nat)
    (snapshot : List Channel) (start : Instant) :
    ∃ after, pass network limit pick snapshot start = (some (), after) ∧
      after.time ≤ start + limit ∧
      (snapshot ≠ [] → ∃ channel ∈ snapshot,
        after.time = start + (checkChannel network limit start channel.dsn).took) ∧
      (after.marks.map Prod.fst).Perm (snapshot.map Channel.id) ∧
      ∀ mark ∈ after.marks, ∃ channel ∈ snapshot, mark.1 = channel.id ∧
        mark.2.healthy = (checkChannel network limit start channel.dsn).healthy ∧
          start + (checkChannel network limit start channel.dsn).took ≤ mark.2.time ∧
            mark.2.time ≤ after.time := by
  obtain ⟨after, ran, later, within, last, order, permuted, each⟩ :=
    pass_joined network limit pick snapshot start
  refine ⟨after, ran, within, ?_, ?_, ?_⟩
  · intro nonempty
    rcases last with same | slowest
    · obtain ⟨channel, inSnapshot⟩ := List.exists_mem_of_ne_nil snapshot nonempty
      have probed : (channel.id, channel.dsn) ∈ order :=
        permuted.mem_iff.mpr (List.mem_map.mpr ⟨channel, inSnapshot, rfl⟩)
      obtain ⟨mark, _, markOf⟩ := related_member each probed
      refine ⟨channel, inSnapshot, Nat.le_antisymm ?_ (markOf.behind.trans markOf.within)⟩
      rw [same]
      exact Nat.le_add_right _ _
    · exact slowest
  · rw [marked_ids each]
    have same := permuted.map Prod.fst
    rw [List.map_map] at same
    exact same
  · intro mark member
    obtain ⟨probe, inOrder, markOf⟩ := related_member each.flip member
    obtain ⟨channel, inSnapshot, rfl⟩ := List.mem_map.mp (permuted.mem_iff.mp inOrder)
    exact ⟨channel, inSnapshot, markOf.id, markOf.healthy, markOf.behind, markOf.within⟩

/-! ## The checker -/

/-- What the checker works with, and for each pass the list it finds and the order in
which its probes are joined. -/
structure Checker where
  network : Network
  probeInterval : UInt64
  connectTimeout : UInt64
  snapshot : Nat → List Channel
  pick : Nat → List (Nat × Dsn) → Nat
  start : Instant

def fromSecs (seconds : UInt64) : Duration := seconds.toNat * 1000000000

namespace Checker

variable (checker : Checker)

def period : Duration := fromSecs checker.probeInterval

def limit : Duration := fromSecs checker.connectTimeout

def after (number : Nat) (start : Instant) : Watch :=
  (pass checker.network checker.limit (checker.pick number) (checker.snapshot number) start).2

def takes (number : Nat) (start : Instant) : Duration := (checker.after number start).time - start

/-- The timer is made once the first pass is over, and its first tick is skipped. -/
def created : Instant := (checker.after 0 checker.start).time

def behindTick : Nat → Instant → Duration
  | 0, _ => 0
  | tick + 1, start => checker.takes (tick + 1) start

/-- When a pass begins. A timer without a period panics, and the checker with it. -/
def passBegins : Nat → Option Instant
  | 0 => some checker.start
  | number + 1 =>
      if checker.period = 0 then none
      else some (begins checker.created checker.period checker.behindTick (number + 1))

theorem takes_within (number : Nat) (start : Instant) :
    checker.takes number start ≤ checker.limit := by
  obtain ⟨after, ran, _, within, _⟩ := pass_joined checker.network checker.limit
    (checker.pick number) (checker.snapshot number) start
  rw [takes, Checker.after, ran]
  exact Nat.sub_le_iff_le_add'.mpr within

theorem behind_tick_within (tick : Nat) (start : Instant) :
    checker.behindTick tick start ≤ checker.limit := by
  cases tick with
  | zero => exact Nat.zero_le _
  | succ tick => exact checker.takes_within (tick + 1) start

theorem ends_at (number : Nat) (start : Instant) :
    start + checker.takes number start = (checker.after number start).time := by
  obtain ⟨after, ran, later, _⟩ := pass_joined checker.network checker.limit
    (checker.pick number) (checker.snapshot number) start
  rw [takes, Checker.after, ran]
  exact Nat.add_sub_cancel' later

theorem period_zero : checker.period = 0 ↔ checker.probeInterval = 0 := by
  rw [Checker.period, fromSecs, Nat.mul_eq_zero, ← UInt64.toNat_inj]
  simp

theorem begins_at_deadline (fits : checker.connectTimeout ≤ checker.probeInterval) (tick : Nat) :
    begins checker.created checker.period checker.behindTick tick =
      due checker.created checker.period tick := by
  have inTime : checker.limit ≤ checker.period :=
    Nat.mul_le_mul_right _ (UInt64.le_iff_toNat_le.mp fits)
  exact begins_on_time (fun tick start =>
    (checker.behind_tick_within tick start).trans inTime) tick

theorem pass_marks (number : Nat) (start : Instant) :
    ∃ order, order.Perm ((checker.snapshot number).map fun channel => (channel.id, channel.dsn)) ∧
      List.Forall₂ (MarkOf checker.network checker.limit start (checker.after number start).time)
        order (checker.after number start).marks := by
  obtain ⟨after, ran, _, _, _, order, permuted, each⟩ := pass_joined checker.network checker.limit
    (checker.pick number) (checker.snapshot number) start
  rw [Checker.after, ran]
  exact ⟨order, permuted, each⟩

theorem ends_within (number : Nat) (start : Instant) :
    (checker.after number start).time ≤ start + checker.limit := by
  rw [← checker.ends_at]
  exact Nat.add_le_add_left (checker.takes_within number start) start

theorem deadline_reached (some_period : ¬ checker.period = 0) (time : Instant) :
    ∃ tick, time ≤ due checker.created checker.period (tick + 1) := by
  refine ⟨time, ?_⟩
  have once : (time + 1) * 1 ≤ (time + 1) * checker.period :=
    Nat.mul_le_mul_left _ (Nat.pos_of_ne_zero some_period)
  have reached : time ≤ (time + 1) * checker.period := by
    apply Nat.le_trans _ once
    simp
  exact reached.trans (Nat.le_add_left _ _)

section Marks

variable {checker} {dsns : List Dsn} {number place : Nat} {dsn : Dsn} {start : Instant}
  (inPlace : InPlace dsns (checker.snapshot number)) (here : dsns[place]? = some dsn)

include inPlace here

theorem place_marked :
    ∃ report, (place, report) ∈ (checker.after number start).marks ∧
      report.healthy = (checkChannel checker.network checker.limit start dsn).healthy ∧
        report.time ≤ start + checker.limit := by
  obtain ⟨order, permuted, each⟩ := checker.pass_marks number start
  rw [inPlace] at permuted
  have probed : (place, dsn) ∈ order := by
    apply permuted.mem_iff.mpr
    apply List.mem_of_getElem? (i := place)
    rw [List.getElem?_mapIdx, here]
    rfl
  obtain ⟨⟨id, report⟩, marked, markOf⟩ := related_member each probed
  have same : id = place := markOf.id
  subst same
  exact ⟨report, marked, markOf.healthy, markOf.within.trans (checker.ends_within number start)⟩

theorem marked_place {report : Report}
    (marked : (place, report) ∈ (checker.after number start).marks) :
    report.healthy = (checkChannel checker.network checker.limit start dsn).healthy := by
  obtain ⟨order, permuted, each⟩ := checker.pass_marks number start
  rw [inPlace] at permuted
  obtain ⟨⟨id, other⟩, probed, markOf⟩ := related_member each.flip marked
  have same : place = id := markOf.id
  subst same
  obtain ⟨index, found⟩ := List.mem_iff_getElem?.mp (permuted.mem_iff.mp probed)
  rw [List.getElem?_mapIdx] at found
  obtain ⟨listed, dsnThere, entry⟩ := Option.map_eq_some_iff.mp found
  cases entry
  cases here.symm.trans dsnThere
  exact markOf.healthy

end Marks

end Checker

/-- Where a pass fits into the interval, a verdict that no longer changes is on the
channel within an interval and a timeout, once the timer runs, and every pass from then
on marks the channel, and only with this verdict. -/
theorem stable_verdict_marked (checker : Checker) (dsns : List Dsn) (place : Nat) (dsn : Dsn)
    (since : Instant) (healthy : Bool)
    (inPlace : ∀ number, InPlace dsns (checker.snapshot number))
    (here : dsns[place]? = some dsn) (some_interval : checker.probeInterval ≠ 0)
    (fits : checker.connectTimeout ≤ checker.probeInterval)
    (stable : ∀ start, since ≤ start →
      (checkChannel checker.network checker.limit start dsn).healthy = healthy) :
    (∃ number time report, checker.passBegins number = some time ∧ since ≤ time ∧
      (place, report) ∈ (checker.after number time).marks ∧ report.healthy = healthy ∧
        report.time ≤ max since checker.created + checker.period + checker.limit) ∧
      ∀ number time, checker.passBegins number = some time → since ≤ time →
        (∃ report, (place, report) ∈ (checker.after number time).marks ∧
          report.time ≤ time + checker.limit) ∧
        ∀ report, (place, report) ∈ (checker.after number time).marks →
          report.healthy = healthy := by
  have some_period : ¬ checker.period = 0 :=
    fun zero => some_interval (checker.period_zero.mp zero)
  constructor
  · obtain ⟨tick, behind, soon⟩ :=
      deadline_within (Nat.le_max_right since checker.created)
        (checker.deadline_reached some_period _)
    have begun : checker.passBegins (tick + 1) =
        some (due checker.created checker.period (tick + 1)) := by
      rw [Checker.passBegins, if_neg some_period, checker.begins_at_deadline fits]
    have later : since ≤ due checker.created checker.period (tick + 1) :=
      (Nat.le_max_left _ _).trans behind
    obtain ⟨report, marked, verdict, inTime⟩ := Checker.place_marked (inPlace (tick + 1)) here
    exact ⟨tick + 1, _, report, begun, later, marked, verdict.trans (stable _ later),
      inTime.trans (Nat.add_le_add_right soon _)⟩
  · intro number time _ later
    constructor
    · obtain ⟨report, marked, _, inTime⟩ := Checker.place_marked (inPlace number) here
      exact ⟨report, marked, inTime⟩
    · intro report marked
      exact (Checker.marked_place (inPlace number) here marked).trans (stable time later)

def socksDsn : Dsn := .socks5 { host := "127.0.0.1", port := 1080, user := none, pass := none }

/-- One upstream that never answers, checked with the default settings. -/
def silentChecker : Checker where
  network _ _ := .silent
  probeInterval := 600
  connectTimeout := 3
  snapshot _ := [Channel.new 0 socksDsn]
  pick _ _ := 0
  start := 0

theorem silent_upstream_marked :
    (∃ number time report, silentChecker.passBegins number = some time ∧ 0 ≤ time ∧
      (0, report) ∈ (silentChecker.after number time).marks ∧ report.healthy = false ∧
        report.time ≤ max 0 silentChecker.created + silentChecker.period + silentChecker.limit) ∧
      ∀ number time, silentChecker.passBegins number = some time → 0 ≤ time →
        (∃ report, (0, report) ∈ (silentChecker.after number time).marks ∧
          report.time ≤ time + silentChecker.limit) ∧
        ∀ report, (0, report) ∈ (silentChecker.after number time).marks →
          report.healthy = false :=
  stable_verdict_marked silentChecker [socksDsn] 0 socksDsn 0 false (fun _ => rfl) rfl (by decide)
    (by decide) (fun _ _ => rfl)

end MultiProxy.HealthChecker
