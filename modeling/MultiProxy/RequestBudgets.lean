import MultiProxy.ProcessRuns
import MultiProxy.ProgramBudgets

/-!
# What the work of the process is bounded by

A request tries each channel of its snapshot once and the direct route once, and a
pass joins and marks each probe once. Whatever the interleaving, the process
therefore does no more than its requests and passes together allow, and comes to
rest when nobody asks for more.
-/

namespace MultiProxy.RequestBudgets

open MultiProxy.DuplexStream MultiProxy.UpstreamDsn MultiProxy.TransitionRuns
open MultiProxy.InteractionPrograms MultiProxy.InteractionPrograms.Program
open MultiProxy.TransitionSimulations MultiProxy.ProgramBudgets MultiProxy.ChannelHealth
  MultiProxy.PathRequest
open MultiProxy.StreamingResponse MultiProxy.ProxyRequests MultiProxy.ChannelLoops
open MultiProxy.InterleavedTasks MultiProxy.ProcessRuns

set_option autoImplicit false

/-! ## Prices -/

structure Tariff where
  clock : Nat
  snapshot : Nat
  connect : Nat
  exchange : Nat
  mark : Nat
  join : Nat

namespace Tariff

variable (tariff : Tariff)

def price : Call → Nat
  | .now => tariff.clock
  | .channels => tariff.snapshot
  | .establish _ _ _ => tariff.connect
  | .forward _ _ _ _ => tariff.exchange
  | .mark _ _ => tariff.mark
  | .joinNext _ => tariff.join

def attempt : Nat := tariff.connect + tariff.exchange

def channel : Nat := tariff.clock + (tariff.attempt + tariff.mark)

def attempts (count : Nat) : Nat := tariff.attempt + (tariff.snapshot + count * tariff.channel)

def report : Nat := tariff.clock + (tariff.snapshot + tariff.snapshot)

def request (count : Nat) : Nat := max (tariff.attempts count) tariff.report

def check (count : Nat) : Nat := tariff.snapshot + count * (tariff.join + tariff.mark)

end Tariff

/-! ## What a request and a pass afford -/

def seesAll (count : Nat) : Discipline Call Reply (Option Trial) where
  permits _ _ := True
  expects _ request reply :=
    match request, reply with
    | .channels, channels => channels.length = count
    | _, _ => True
  after := trialAfter

section Programs

variable {Value : Type} {tariff : Tariff} {count : Nat} {trial : Option Trial}

theorem or_else_affords {first : Proxy (Except String Value)}
    {later : String → Proxy (Except String Value)} {budget reserve : Nat}
    (firstAffords : Affords (seesAll count) tariff.price budget trial first)
    (laterAffords : ∀ trial lastErr,
      Affords (seesAll count) tariff.price reserve trial (later lastErr)) :
    Affords (seesAll count) tariff.price (budget + reserve) trial (orElse first later) := by
  apply affords_bind firstAffords
  intro trial outcome
  cases outcome with
  | ok value => trivial
  | error lastErr => exact laterAffords trial lastErr

theorem tunnel_directly_affords (wanted : Bool) (host : String) (port : UInt16) (lastErr : String) :
    Affords (seesAll count) tariff.price (if wanted then tariff.attempt else 0) trial
      (tunnelDirectly wanted host port lastErr) := by
  cases wanted with
  | false => trivial
  | true =>
      refine ⟨Nat.le_add_right _ _, trivial, ?_⟩
      intro connected _
      cases connected <;> trivial

theorem forward_directly_affords (target : Target) (bytes : List UInt8) (wanted : Bool)
    (lastErr : String) :
    Affords (seesAll count) tariff.price (if wanted then tariff.attempt else 0) trial
      (forwardDirectly target bytes wanted lastErr) := by
  cases wanted with
  | false => trivial
  | true =>
      apply affords_call trivial
      intro connected _
      cases connected with
      | error message => trivial
      | ok upstream => exact ⟨Nat.le_refl _, trivial, fun _ _ => trivial⟩

theorem establish_affords (host : String) (port : UInt16) (route : Route) :
    Affords (seesAll count) tariff.price tariff.attempt trial (establish route host port) :=
  ⟨Nat.le_add_right _ _, trivial, fun _ _ => trivial⟩

theorem connect_and_forward_affords (target : Target) (bytes : List UInt8) (route : Route) :
    Affords (seesAll count) tariff.price tariff.attempt trial
      (connectAndForward target bytes route) := by
  apply affords_call trivial
  intro connected _
  cases connected with
  | error message => trivial
  | ok upstream => exact ⟨Nat.le_refl _, trivial, fun _ _ => trivial⟩

theorem channel_loop_affords {attempt : Route → Proxy (Except String Value)}
    (attempts : ∀ trial route,
      Affords (seesAll count) tariff.price tariff.attempt trial (attempt route))
    (channels : List Channel) (lastErr : String) :
    Affords (seesAll count) tariff.price (channels.length * tariff.channel) trial
      (channelLoop attempt channels lastErr) := by
  induction channels generalizing trial lastErr with
  | nil => trivial
  | cons channel rest ih =>
      have parts : (channel :: rest).length * tariff.channel =
          tariff.clock + (tariff.attempt + (tariff.mark + rest.length * tariff.channel)) := by
        rw [List.length_cons, Nat.succ_mul, Tariff.channel]
        omega
      rw [parts, channel_loop_cons]
      apply affords_call trivial
      intro now _
      split
      · apply affords_bind (attempts _ _)
        intro trial outcome
        cases outcome with
        | ok value => exact affords_call trivial fun _ _ => trivial
        | error message => exact affords_call trivial fun _ _ => ih message
      · exact affords_more (ih lastErr) (by omega)

theorem snapshot_loop_affords {attempt : Route → Proxy (Except String Value)}
    {later : String → Proxy (Except String Value)} {order : List Channel → List Channel}
    {reserve : Nat} (permutes : ∀ all, (order all).Perm all)
    (attempts : ∀ trial route,
      Affords (seesAll count) tariff.price tariff.attempt trial (attempt route))
    (laterAffords : ∀ trial lastErr,
      Affords (seesAll count) tariff.price reserve trial (later lastErr)) (lastErr : String) :
    Affords (seesAll count) tariff.price
      (tariff.snapshot + (count * tariff.channel + reserve)) trial
      (snapshot >>= fun all => orElse (channelLoop attempt (order all) lastErr) later) := by
  apply affords_call trivial
  intro all shown
  apply or_else_affords _ laterAffords
  have known : (order all).length = count := (permutes all).length_eq.trans shown
  rw [← known] at attempts ⊢
  exact channel_loop_affords attempts (order all) lastErr

/-- The direct route is attempted first or last. -/
theorem attempt_once (directFirst : Bool) (amount : Nat) :
    (if directFirst then amount else 0) + (if !directFirst then amount else 0) = amount := by
  cases directFirst <;> simp

theorem last_tunnel_affords (wanted : Bool) (host : String) (port : UInt16)
    (failed : String → String) (lastErr : String) :
    Affords (seesAll count) tariff.price (if wanted then tariff.attempt else 0) trial
      (orElse (tunnelDirectly wanted host port lastErr) fun lastErr =>
        pure (.error (failed lastErr))) := by
  apply affords_then (tunnel_directly_affords wanted host port lastErr)
  intro trial outcome
  cases outcome <;> trivial

theorem acquire_tunnel_affords (service : Service) (host : String) (port : UInt16) :
    Affords (seesAll count) tariff.price (tariff.attempts count) trial
      (acquireTunnel service host port) := by
  have once := attempt_once service.directFirst tariff.attempt
  unfold acquireTunnel
  simp only [tunnel_through_is_loop]
  refine affords_more (or_else_affords (tunnel_directly_affords _ _ _ _) fun trial lastErr =>
    snapshot_loop_affords (fun all => ordered_channels_perm _ _ _ _)
      (fun _ route => establish_affords host port route)
      (fun _ lastErr => last_tunnel_affords _ host port _ lastErr) lastErr) ?_
  rw [Tariff.attempts]
  omega

theorem forward_attempts_affords (target : Target) (bytes : List UInt8) (service : Service) :
    Affords (seesAll count) tariff.price (tariff.attempts count) trial
      (forwardAttempts target bytes service) := by
  have once := attempt_once service.directFirst tariff.attempt
  unfold forwardAttempts
  simp only [forward_through_channels_is_loop]
  refine affords_more (or_else_affords (forward_directly_affords _ _ _ _) fun trial lastErr =>
    snapshot_loop_affords (fun all => ordered_channels_perm _ _ _ _)
      (fun _ route => connect_and_forward_affords target bytes route)
      (fun _ lastErr => forward_directly_affords target bytes _ lastErr) lastErr) ?_
  rw [Tariff.attempts]
  omega

theorem handle_path_forward_affords (service : Service) (request : ClientRequest) :
    Affords (seesAll count) tariff.price (tariff.attempts count) trial
      (handlePathForward service request) := by
  unfold handlePathForward
  cases pathTarget service.parseUrl request.uri with
  | error rejection => cases rejection <;> trivial
  | ok target =>
      cases request.body with
      | error message => trivial
      | ok body =>
          apply affords_then (forward_attempts_affords target _ service)
          intro trial outcome
          cases outcome <;> trivial

/-- A request makes its attempts, or it reports how many channels are healthy. -/
theorem handle_request_affords (service : Service) (request : ClientRequest) :
    Affords (seesAll count) tariff.price (tariff.request count) trial
      (handleRequest service request) := by
  by_cases health : request.uri.path = "/health"
  · unfold handleRequest
    rw [if_pos health]
    refine affords_more ?_ (Nat.le_max_right _ _)
    refine affords_call trivial fun now _ => affords_call trivial fun all _ => ?_
    exact ⟨Nat.le_refl _, trivial, fun _ _ => trivial⟩
  · apply affords_more _ (Nat.le_max_left _ _)
    by_cases tunnel : request.method = "CONNECT" ∧ request.uri.authority.getD "" ≠ ""
    · rw [handle_request_tunnels service health tunnel]
      cases parseAuthority (request.uri.authority.getD "") with
      | error message => trivial
      | ok destination =>
          apply affords_then (acquire_tunnel_affords service _ _)
          intro trial outcome
          cases outcome <;> trivial
    · rw [handle_request_forwards service health tunnel]
      exact handle_path_forward_affords service request

theorem join_probes_affords (turns : Nat) (set : List (Nat × Dsn)) :
    Affords (seesAll count) tariff.price (turns * (tariff.join + tariff.mark)) trial
      (joinProbes turns set) := by
  induction turns generalizing set trial with
  | zero => trivial
  | succ turns ih =>
      have parts : (turns + 1) * (tariff.join + tariff.mark) =
          tariff.join + (tariff.mark + turns * (tariff.join + tariff.mark)) := by
        rw [Nat.succ_mul]
        omega
      rw [parts, joinProbes, join_next_bind]
      apply affords_call trivial
      intro joined _
      cases joined with
      | none => trivial
      | some joined =>
          obtain ⟨position, result⟩ := joined
          have unmarked : ∀ trial, Affords (seesAll count) tariff.price
              (tariff.mark + turns * (tariff.join + tariff.mark)) trial
                (joinProbes turns (set.eraseIdx position)) :=
            fun _ => affords_more (ih _) (Nat.le_add_left _ _)
          simp only
          cases set[position]? with
          | none => cases result <;> exact unmarked _
          | some probe =>
              cases result with
              | none => exact unmarked _
              | some healthy =>
                  cases healthy <;> exact affords_call trivial fun _ _ => ih _

theorem run_check_affords :
    Affords (seesAll count) tariff.price (tariff.check count) trial runCheck := by
  apply affords_call trivial
  intro channels shown
  subst shown
  exact join_probes_affords channels.length _

end Programs

/-! ## All work of a process -/

def callsIn (told : List Shown) : List Call :=
  told.filterMap fun shown =>
    match shown with
    | .answered request _ => some request
    | .began _ => none

def begunIn (told : List Shown) : List Kind :=
  told.filterMap fun shown =>
    match shown with
    | .began kind => some kind
    | .answered _ _ => none

theorem calls_append (front back : List Shown) :
    callsIn (front ++ back) = callsIn front ++ callsIn back :=
  List.filterMap_append

theorem begun_append (front back : List Shown) :
    begunIn (front ++ back) = begunIn front ++ begunIn back :=
  List.filterMap_append

def Tariff.budget (tariff : Tariff) (count : Nat) : Kind → Nat
  | .request _ => tariff.request count
  | .check => tariff.check count

theorem answer_sees_all {count : Nat} (shared : Shared) (trial : Option Trial) (request : Call)
    (choice : Choice) (reply : Reply request) (after : Shared)
    (known : shared.channels.length = count) (_ : (seesAll count).permits trial request)
    (answered : answer shared trial request choice = some (reply, after)) :
    (seesAll count).expects trial request reply ∧ after.channels.length = count := by
  cases request with
  | channels =>
      cases answered
      exact ⟨known, known⟩
  | now =>
      cases choice <;> cases answered
      exact ⟨trivial, known⟩
  | establish route host port =>
      cases choice <;> cases answered
      exact ⟨trivial, known⟩
  | forward upstream host isHttps requestBytes =>
      cases choice <;> cases answered
      exact ⟨trivial, known⟩
  | mark id healthy =>
      cases choice <;> cases answered
      exact ⟨trivial, by simpa [markChannel] using known⟩
  | joinNext set =>
      cases set with
      | nil =>
          cases answered
          exact ⟨trivial, known⟩
      | cons probe rest =>
          cases choice <;>
            simp only [answer, reduceCtorEq, Option.ite_none_right_eq_some] at answered
          cases answered.2
          exact ⟨trivial, known⟩

/-! ## The works of a run -/

/-- A request or pass that was begun, whose it is, and the calls it got answers to. -/
structure Work where
  owner : Owner
  kind : Kind
  calls : List Call

/-- The answer goes to the owner's latest work. -/
def book (owner : Owner) (request : Call) : List Work → List Work
  | [] => []
  | work :: earlier =>
      if work.owner = owner then { work with calls := work.calls ++ [request] } :: earlier
      else work :: book owner request earlier

/-- The works, the latest first, after a step of the process. -/
def worksAfter (process : Process) (works : List Work) : Event → List Work
  | .requested number request => ⟨.connection number, .request request, []⟩ :: works
  | .passBegun => ⟨.healthChecker, .check, []⟩ :: works
  | .advanced index _ =>
      match process.tasks[index]? with
      | some ⟨owner, _, .call request _⟩ => book owner request works
      | _ => works
  | _ => works

def worksOf (service : Service) : Process → List Work → List Event → List Work
  | _, works, [] => works
  | process, works, event :: rest =>
      match processStep service process event with
      | some next => worksOf service next (worksAfter process works event) rest
      | none => works

def latest (works : List Work) (owner : Owner) : Option Work :=
  works.find? fun work => work.owner = owner

section Books

variable {owner : Owner} {works : List Work}

theorem latest_begun (kind : Kind) (works : List Work) :
    latest (⟨owner, kind, []⟩ :: works) owner = some ⟨owner, kind, []⟩ := by
  rw [latest, List.find?_cons_of_pos]
  simp

theorem latest_begun_other {other : Owner} (different : other ≠ owner) (kind : Kind) :
    latest (⟨owner, kind, []⟩ :: works) other = latest works other := by
  rw [latest, List.find?_cons_of_neg]
  · rfl
  · simpa using Ne.symm different

theorem latest_booked (request : Call) :
    latest (book owner request works) owner =
      (latest works owner).map fun work => { work with calls := work.calls ++ [request] } := by
  induction works with
  | nil => rfl
  | cons work earlier ih =>
      by_cases same : work.owner = owner
      · simp [book, latest, same]
      · simpa [book, latest, same] using ih

theorem latest_booked_other {other : Owner} (different : other ≠ owner) (request : Call) :
    latest (book owner request works) other = latest works other := by
  induction works with
  | nil => rfl
  | cons work earlier ih =>
      by_cases same : work.owner = owner
      · simp [book, latest, same, Ne.symm different]
      · rw [book, if_neg same]
        by_cases found : work.owner = other
        · simp [latest, found]
        · simpa [latest, found] using ih

theorem booked_kinds (request : Call) :
    (book owner request works).map Work.kind = works.map Work.kind := by
  induction works with
  | nil => rfl
  | cons work earlier ih =>
      rw [book]
      split
      · rfl
      · rw [List.map_cons, List.map_cons, ih]

theorem booked_member {request : Call} {booked : Work} (member :
    booked ∈ book owner request works) :
    booked ∈ works ∨ ∃ work, latest works owner = some work ∧
      booked = { work with calls := work.calls ++ [request] } := by
  induction works with
  | nil => cases member
  | cons work earlier ih =>
      rw [book] at member
      split at member
      · rename_i same
        rcases List.mem_cons.mp member with rfl | within
        · exact .inr ⟨work, by simp [latest, same], rfl⟩
        · exact .inl (List.mem_cons_of_mem _ within)
      · rename_i other
        rcases List.mem_cons.mp member with rfl | within
        · exact .inl List.mem_cons_self
        · rcases ih within with old | ⟨found, here, rfl⟩
          · exact .inl (List.mem_cons_of_mem _ old)
          · exact .inr ⟨found, by simpa [latest, other] using here, rfl⟩

theorem booked_calls {work : Work} (request : Call) (found : latest works owner = some work) :
    ((book owner request works).flatMap Work.calls).Perm
      (request :: works.flatMap Work.calls) := by
  induction works with
  | nil => cases found
  | cons first earlier ih =>
      by_cases same : first.owner = owner
      · rw [book, if_pos same, List.flatMap_cons, List.flatMap_cons, List.append_assoc]
        exact List.perm_middle
      · rw [book, if_neg same, List.flatMap_cons, List.flatMap_cons]
        have later : latest earlier owner = some work := by simpa [latest, same] using found
        exact ((ih later).append_left first.calls).trans List.perm_middle

end Books

/-! ## Every work is paid from its own budget -/

/-- The works have paid within their budgets, and each task is its owner's latest work
and affords the rest of it. -/
structure Accounted (tariff : Tariff) (count : Nat) (process : Process) (works : List Work) :
    Prop where
  kept : Kept process
  known : process.shared.channels.length = count
  fits : ∀ work ∈ works, (work.calls.map tariff.price).sum ≤ tariff.budget count work.kind
  running : ∀ task ∈ process.tasks, ∃ work, latest works task.owner = some work ∧
    Solvent (seesAll count) tariff.price (tariff.budget count work.kind) work.calls task.trial
      task.program

section Accounts

variable {tariff : Tariff} {count : Nat} {service : Service} {before after : Process}
  {works : List Work} {event : Event}

theorem serve_request_affords (service : Service) (request : ClientRequest) :
    Affords (seesAll count) tariff.price (tariff.budget count (.request request)) none
      (serveRequest service request) := by
  apply affords_then (handle_request_affords service request)
  intro trial outcome
  trivial

theorem check_once_affords :
    Affords (seesAll count) tariff.price (tariff.budget count .check) none checkOnce := by
  apply affords_then run_check_affords
  intro trial outcome
  trivial

theorem owners_differ (kept : Kept before) {index position : Nat} {task : Task}
    (found : before.tasks[index]? = some task) (elsewhere : ¬ index = position)
    (within : position < before.tasks.length) : (before.tasks[position]).owner ≠ task.owner := by
  obtain ⟨inside, rfl⟩ := List.getElem?_eq_some_iff.mp found
  intro same
  apply elsewhere
  have inOwners : index < before.owners.length := by simpa [Process.owners] using inside
  have otherInOwners : position < before.owners.length := by simpa [Process.owners] using within
  have sameOwner : before.owners[index] = before.owners[position] := by
    simpa [Process.owners] using same.symm
  exact kept.one_each.getElem_inj_iff.mp sameOwner

theorem accounted_fewer (accounted : Accounted tariff count before works) (kept : Kept after)
    (same : after.shared = before.shared) (fewer : after.tasks ⊆ before.tasks) :
    Accounted tariff count after works where
  kept := kept
  known := same ▸ accounted.known
  fits := accounted.fits
  running := fun task member => accounted.running task (fewer member)

theorem accounted_begun {owner : Owner} {kind : Kind} {program : Proxy Ended}
    (accounted : Accounted tariff count before works) (kept : Kept after)
    (same : after.shared = before.shared)
    (tasks : after.tasks = before.tasks ++ [⟨owner, none, program⟩])
    (affords : Affords (seesAll count) tariff.price (tariff.budget count kind) none program) :
    Accounted tariff count after (⟨owner, kind, []⟩ :: works) where
  kept := kept
  known := same ▸ accounted.known
  fits := by
    intro work member
    rcases List.mem_cons.mp member with rfl | earlier
    · exact Nat.zero_le _
    · exact accounted.fits work earlier
  running := by
    have apart := kept.one_each
    rw [Process.owners, tasks, List.map_append, List.nodup_append] at apart
    intro task member
    rw [tasks] at member
    rcases List.mem_append.mp member with earlier | new
    · obtain ⟨work, found, solvent⟩ := accounted.running task earlier
      have different : task.owner ≠ owner :=
        apart.2.2 task.owner (List.mem_map_of_mem earlier) owner (by simp)
      exact ⟨work, (latest_begun_other different kind).trans found, solvent⟩
    · rw [List.mem_singleton.mp new]
      exact ⟨_, latest_begun kind works, solvent_start affords⟩

theorem accounted_answered {index : Nat} {choice : Choice} {owner : Owner} {trial : Option Trial}
    {request : Call} {next : Reply request → Proxy Ended} {reply : Reply request} {left : Shared}
    (accounted : Accounted tariff count before works) (kept : Kept after)
    (found : before.tasks[index]? = some ⟨owner, trial, .call request next⟩)
    (answered : answer before.shared trial request choice = some (reply, left))
    (shared : after.shared = left)
    (tasks : after.tasks =
      before.tasks.set index ⟨owner, trialAfter trial request reply, next reply⟩) :
    Accounted tariff count after (book owner request works) := by
  obtain ⟨work, here, solvent⟩ := accounted.running _ (List.mem_of_getElem? found)
  obtain ⟨permitted, goesOn⟩ := solvent_call solvent
  obtain ⟨expected, known⟩ :=
    answer_sees_all before.shared trial request choice reply left accounted.known permitted answered
  have paid := goesOn reply expected
  have booked : latest (book owner request works) owner =
      some { work with calls := work.calls ++ [request] } := by
    rw [latest_booked, here]
    rfl
  refine ⟨kept, shared ▸ known, ?_, ?_⟩
  · intro other member
    rcases booked_member member with earlier | ⟨same, foundSame, rfl⟩
    · exact accounted.fits other earlier
    · cases here.symm.trans foundSame
      exact paid.within
  · intro task member
    rw [tasks] at member
    obtain ⟨position, inside, rfl⟩ := List.mem_iff_getElem.mp member
    rw [List.getElem_set]
    split
    · exact ⟨_, booked, paid⟩
    · rename_i elsewhere
      have within : position < before.tasks.length := by simpa using inside
      have other := owners_differ accounted.kept found elsewhere within
      obtain ⟨work, earlier, solvent⟩ :=
        accounted.running _ (List.getElem_mem within)
      exact ⟨work, (latest_booked_other other request).trans earlier, solvent⟩

theorem started_accounted (tariff : Tariff) (dsns : List Dsn) (probeInterval : UInt64) :
    Accounted tariff dsns.length (started dsns probeInterval) [] where
  kept := started_kept dsns probeInterval
  known := by simp [started, Shared.initial, channelsOf]
  fits := by
    intro work member
    cases member
  running := by
    intro task member
    cases member

theorem accounted_step (accounted : Accounted tariff count before works)
    (taken : processStep service before event = some after) :
    Accounted tariff count after (worksAfter before works event) := by
  have kept := step_kept before event after accounted.kept taken
  cases step_effect taken with
  | accepted accepting => exact accounted_fewer accounted kept rfl (List.Subset.refl _)
  | refused accepting => exact accounted
  | requested number request waiting =>
      exact accounted_begun accounted kept rfl rfl (serve_request_affords service request)
  | advanced index choice owner trial request next reply left found answered =>
      have booked : worksAfter before works (.advanced index choice) =
          book owner request works := by
        rw [worksAfter, found]
      rw [booked]
      exact accounted_answered accounted kept found answered rfl rfl
  | ended index owner trial ended found =>
      exact accounted_fewer accounted kept rfl (List.eraseIdx_subset)
  | disconnected number known =>
      exact accounted_fewer accounted kept rfl (List.eraseP_subset)
  | passBegun checking idle timed =>
      exact accounted_begun accounted kept rfl rfl check_once_affords
  | checkerPanicked checking idle passed zero =>
      exact accounted_fewer accounted kept rfl (List.Subset.refl _)
  | signalled accepting => exact accounted_fewer accounted kept rfl (List.Subset.refl _)
  | aborted stopped checking =>
      exact accounted_fewer accounted kept rfl (List.eraseP_subset)
  | exited stopped => exact accounted_fewer accounted kept rfl (List.nil_subset _)

end Accounts

section Works

variable {tariff : Tariff} {count : Nat} {service : Service} {start finish : Process}
  {works : List Work} {events : List Event}

theorem works_accounted (ran : runFrom (processStep service) start events = some finish)
    (accounted : Accounted tariff count start works) :
    Accounted tariff count finish (worksOf service start works events) := by
  induction events generalizing start works with
  | nil =>
      cases ran
      exact accounted
  | cons event rest ih =>
      obtain ⟨next, taken, later⟩ := run_cons ran
      simp only [worksOf, taken]
      exact ih later (accounted_step accounted taken)

theorem works_begun (ran : runFrom (processStep service) start events = some finish) :
    (worksOf service start works events).map Work.kind =
      (begunIn (trace (processStep service) eventShown start events)).reverse ++
        works.map Work.kind := by
  induction events generalizing start works with
  | nil => rfl
  | cons event rest ih =>
      obtain ⟨next, taken, later⟩ := run_cons ran
      rw [trace_cons taken]
      simp only [worksOf, taken]
      rw [ih later, begun_append, List.reverse_append, List.append_assoc]
      apply congrArg (List.append _)
      cases step_effect taken with
      | advanced index choice owner trial request next reply left found answered =>
          simp only [worksAfter, eventShown, found]
          exact booked_kinds request
      | _ => rfl

theorem step_called {event : Event} {next : Process}
    (taken : processStep service start event = some next)
    (accounted : Accounted tariff count start works) :
    ((worksAfter start works event).flatMap Work.calls).Perm
      (callsIn (eventShown start event) ++ works.flatMap Work.calls) := by
  cases step_effect taken with
  | advanced index choice owner trial request next reply left found answered =>
      obtain ⟨work, here, _⟩ := accounted.running _ (List.mem_of_getElem? found)
      simp only [worksAfter, eventShown, found]
      exact booked_calls request here
  | _ => exact List.Perm.refl _

/-- Each answer that a run shows is in the books of one work. -/
theorem works_called (ran : runFrom (processStep service) start events = some finish)
    (accounted : Accounted tariff count start works) :
    ((worksOf service start works events).flatMap Work.calls).Perm
      (callsIn (trace (processStep service) eventShown start events) ++
        works.flatMap Work.calls) := by
  induction events generalizing start works with
  | nil => exact List.Perm.refl _
  | cons event rest ih =>
      obtain ⟨next, taken, later⟩ := run_cons ran
      have further := ih later (accounted_step accounted taken)
      have now := step_called taken accounted
      rw [trace_cons taken, calls_append, List.append_assoc]
      simp only [worksOf, taken]
      exact (further.trans (now.append_left _)).trans (List.perm_append_comm_assoc _ _ _)

end Works

/-! ## Calls, connections and marks -/

def anyCall : Tariff := ⟨1, 1, 1, 1, 1, 1⟩

def connectionsOnly : Tariff := ⟨0, 0, 1, 0, 0, 0⟩

def marksOnly : Tariff := ⟨0, 0, 0, 0, 1, 0⟩

def isConnection : Call → Bool
  | .establish _ _ _ => true
  | _ => false

def isMark : Call → Bool
  | .mark _ _ => true
  | _ => false

def isRequest : Kind → Bool
  | .request _ => true
  | .check => false

theorem sum_of_priced {Item : Type} {price : Item → Nat} {priced : Item → Bool} {amount : Nat}
    (agrees : ∀ item, price item = if priced item then amount else 0) (items : List Item) :
    (items.map price).sum = amount * items.countP priced := by
  induction items with
  | nil => rfl
  | cons item rest ih =>
      rw [List.map_cons, List.sum_cons, ih, agrees, List.countP_cons, Nat.mul_add]
      split <;> omega

theorem sum_at_most {Item : Type} {size : Item → Nat} {amount : Nat} {items : List Item}
    (fits : ∀ item ∈ items, size item ≤ amount) : (items.map size).sum ≤ amount * items.length := by
  have each : ∀ part ∈ items.map size, part ≤ amount := by
    intro part member
    obtain ⟨item, inItems, rfl⟩ := List.mem_map.mp member
    exact fits item inItems
  simpa [Nat.mul_comm] using List.sum_le_card_nsmul _ _ each

theorem calls_counted (calls : List Call) : (calls.map anyCall.price).sum = calls.length := by
  have one : ∀ request, anyCall.price request = if true then 1 else 0 := by
    intro request
    cases request <;> rfl
  simpa using sum_of_priced one calls

theorem connections_counted (calls : List Call) :
    (calls.map connectionsOnly.price).sum = calls.countP isConnection := by
  have one : ∀ request, connectionsOnly.price request = if isConnection request then 1 else 0 := by
    intro request
    cases request <;> rfl
  simpa using sum_of_priced one calls

theorem marks_counted (calls : List Call) :
    (calls.map marksOnly.price).sum = calls.countP isMark := by
  have one : ∀ request, marksOnly.price request = if isMark request then 1 else 0 := by
    intro request
    cases request <;> rfl
  simpa using sum_of_priced one calls

section Budgets

variable (count : Nat) (kind : Kind)

theorem calls_budget : anyCall.budget count kind ≤ 4 * count + 3 := by
  cases kind <;> simp only [Tariff.budget, Tariff.request, Tariff.attempts, Tariff.attempt,
    Tariff.channel, Tariff.report, Tariff.check, anyCall] <;> omega

theorem connections_budget :
    connectionsOnly.budget count kind = if isRequest kind then count + 1 else 0 := by
  cases kind with
  | request request =>
      simp [Tariff.budget, Tariff.request, Tariff.attempts, Tariff.attempt, Tariff.channel,
        Tariff.report, connectionsOnly, isRequest, Nat.add_comm]
  | check => simp [Tariff.budget, Tariff.check, connectionsOnly, isRequest]

theorem marks_budget : marksOnly.budget count kind ≤ count := by
  cases kind <;> simp [Tariff.budget, Tariff.request, Tariff.attempts, Tariff.attempt,
    Tariff.channel, Tariff.report, Tariff.check, marksOnly]

end Budgets

def forwardRequest : ClientRequest := PathDestination.getRequest "/http://example.com/a"

/-- A request is refused directly and then breaks off over the only channel, while a pass
finds that channel healthy. -/
def forwardedDuringPass : List Event :=
  [.accepted, .requested 0 forwardRequest, .passBegun, .advanced 0 (.connected (.error "refused")),
    .advanced 1 .any, .advanced 0 .any, .advanced 0 (.time 1), .advanced 1 (.joined 0 (some true)),
    .advanced 0 (.connected (.ok ⟨[], [], 0, []⟩)), .advanced 1 (.time 2),
    .advanced 0 (.answered (.error "reset")), .advanced 0 (.time 3), .ended 1, .ended 0]

def afterForwarding : Process :=
  { started [sshDsn] 600 with
    passes := 1
    connections := [.waiting]
    shared := {
      channels := [((Channel.new 0 sshDsn).markHealthy 2).markUnhealthy 3]
      history := [⟨some ⟨0, sshDsn, true⟩, 0, true, 2⟩, ⟨some ⟨0, sshDsn, false⟩, 0, false, 3⟩] } }

/-- Both bounds of the request are met: it opens two connections and marks once. -/
example : (worksOf PathDestination.exampleService (started [sshDsn] 600) []
    forwardedDuringPass).map (fun work => (work.calls.length, work.calls.countP isConnection,
      work.calls.countP isMark)) = [(3, 0, 1), (6, 2, 1)] := by decide +kernel

end MultiProxy.RequestBudgets
