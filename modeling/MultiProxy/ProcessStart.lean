import MultiProxy.ProcessRuns
import MultiProxy.Settings

/-!
# From the settings to the running process

`main` up to the call of `serve`: the configuration, the DSNs of its upstreams, the
channels and the address to listen on. What it starts with is then followed into
every state that the process reaches.
-/

namespace MultiProxy.ProcessStart

open MultiProxy.RustRuntime MultiProxy.UpstreamDsn MultiProxy.TransitionRuns
open MultiProxy.TransitionSimulations MultiProxy.InteractionPrograms MultiProxy.ChannelHealth
open MultiProxy.ChannelHistory MultiProxy.PathRequest MultiProxy.ProxyRequests
open MultiProxy.InterleavedTasks MultiProxy.DsnParsing MultiProxy.Settings MultiProxy.ProcessRuns

set_option autoImplicit false

variable {Ip : Type}

/-- What `main` computes with and asks of the system besides files and TOML. -/
structure Outside (Ip : Type) extends Surroundings where
  parser : ArgsParser
  parseDsnUrl : String → Except String DsnUrl
  parseUrl : String → Except String Url
  sha256 : List UInt8 → Vector UInt8 32
  parseIp : String → Except String Ip
  bind : Ip → UInt16 → Except String Unit

inductive Launch where
  | refused
  | failed (message : String)
  | noUpstreams
  | serving (service : Service) (process : Process)

def serviceOf (outside : Outside Ip) (config : Config) : Service where
  directFirst := config.directFirst
  strategy := config.strategy.strategy
  sha256 := outside.sha256
  parseUrl := outside.parseUrl

/-- `serve` binds the address before it accepts anything. -/
def serve (outside : Outside Ip) (config : Config) (dsns : List Dsn) (ip : Ip) : Launch :=
  match outside.bind ip config.port with
  | .error e => .failed e
  | .ok _ => .serving (serviceOf outside config) (started dsns config.probeInterval)

/-- The checker and the reaper are started before the address is read; where it cannot
be, they end with the runtime. -/
def start (outside : Outside Ip) (config : Config) : Launch :=
  match config.parseUpstreams outside.parseDsnUrl with
  | .error e => .failed e
  | .ok dsns =>
      if (channelsOf dsns).isEmpty && !config.directFirst then .noUpstreams
      else
        match outside.parseIp config.host with
        | .error e => .failed e
        | .ok ip => serve outside config dsns ip

def main (outside : Outside Ip) (line : List String) (environment : Environment) : Launch :=
  match outside.parser.parse line environment with
  | none => .refused
  | some args =>
      match load outside.toSurroundings args with
      | .error e => .failed e
      | .ok config => start outside config

/-- The configuration that a file, the flags and the variables make together. -/
def Configured (outside : Outside Ip) (line : List String) (environment : Environment)
    (config : Config) : Prop :=
  ∃ flags given, outside.parser.flags line = some flags ∧
    FileGives outside.toSurroundings (flags.config.getD "config.toml") given ∧
      Prioritised outside.parser.boolean flags environment given config

def ReadAs (outside : Outside Ip) (upstreams : List String) (dsns : List Dsn) : Prop :=
  List.Forall₂ (fun text dsn => fromStr outside.parseDsnUrl text = .ok dsn) upstreams dsns

theorem map_reads {Item Value : Type} {read : Item → Except String Value} {items : List Item}
    {values : List Value} (mapped : items.mapM read = .ok values) :
    List.Forall₂ (fun item value => read item = .ok value) items values := by
  induction items generalizing values with
  | nil =>
      cases mapped
      exact List.Forall₂.nil
  | cons item rest ih =>
      rw [List.mapM_cons] at mapped
      cases first : read item with
      | error e => simp [first, bind, Except.bind] at mapped
      | ok value =>
          cases others : rest.mapM read with
          | error e => simp [first, others, bind, Except.bind] at mapped
          | ok later =>
              simp only [first, others, bind, Except.bind, pure, Except.pure,
                Except.ok.injEq] at mapped
              cases mapped
              exact List.Forall₂.cons first (ih others)

section Started

variable {outside : Outside Ip} {config : Config} {service : Service} {process : Process}

theorem start_serves (serving : start outside config = .serving service process) :
    ∃ dsns, ReadAs outside config.upstreams dsns ∧
      (dsns ≠ [] ∨ config.directFirst = true) ∧
        service = serviceOf outside config ∧ process = started dsns config.probeInterval := by
  unfold start at serving
  split at serving
  · cases serving
  · rename_i dsns parsed
    split at serving
    · cases serving
    · rename_i usable
      split at serving
      · cases serving
      · unfold serve at serving
        split at serving
        · cases serving
        · cases serving
          refine ⟨dsns, map_reads parsed, ?_, rfl, rfl⟩
          cases direct : config.directFirst with
          | true => exact .inr rfl
          | false =>
              left
              rintro rfl
              simp [direct, channelsOf] at usable

theorem main_serves {line : List String} {environment : Environment}
    (tomlDerived : outside.toml.AsDerived) (parserDerived : outside.parser.AsDerived)
    (serving : main outside line environment = .serving service process) :
    ∃ config dsns, Configured outside line environment config ∧
      ReadAs outside config.upstreams dsns ∧ (dsns ≠ [] ∨ config.directFirst = true) ∧
        service = serviceOf outside config ∧ process = started dsns config.probeInterval := by
  unfold main at serving
  split at serving
  · cases serving
  · rename_i args parsed
    split at serving
    · cases serving
    · rename_i config read
      obtain ⟨dsns, readAs, usable, sameService, sameProcess⟩ := start_serves serving
      obtain ⟨flags, found, filledIn⟩ := (parserDerived line environment args).mp parsed
      obtain ⟨given, gives, prioritised⟩ := (load_prioritised tomlDerived filledIn config).mp read
      exact ⟨config, dsns, ⟨flags, given, found, gives, prioritised⟩, readAs, usable, sameService,
        sameProcess⟩

end Started

/-- What the process was configured with is what it runs with: in every state it
reaches, the channel of each upstream, the file's first and then the flags', has its
place, is of that upstream's DSN and tells the marks that were issued for it. -/
theorem process_runs_as_configured (outside : Outside Ip) (tomlDerived : outside.toml.AsDerived)
    (parserDerived : outside.parser.AsDerived) (line : List String) (environment : Environment)
    (service : Service) (process : Process) (events : List Event) (finish : Process)
    (serving : main outside line environment = .serving service process)
    (ran : runFrom (processStep service) process events = some finish) :
    ∃ config, Configured outside line environment config ∧
      (config.upstreams ≠ [] ∨ config.directFirst = true) ∧
      service.directFirst = config.directFirst ∧ service.strategy = config.strategy.strategy ∧
      process.probeInterval = config.probeInterval ∧
      finish.shared.channels.length = config.upstreams.length ∧
      ∀ place text, config.upstreams[place]? = some text → ∃ dsn channel,
        fromStr outside.parseDsnUrl text = .ok dsn ∧
          finish.shared.channels[place]? = some channel ∧ channel.id = place ∧
            channel.dsn = dsn ∧ Determined channel (marksFor finish.shared.history place dsn) := by
  obtain ⟨config, dsns, configured, readAs, usable, rfl, rfl⟩ :=
    main_serves tomlDerived parserDerived serving
  obtain ⟨labels, above, _⟩ := run_refines ran
  have recorded : Recorded dsns finish.shared := (tasks_orderly above).invariant
  have lengths := readAs.length_eq
  refine ⟨config, configured, ?_, rfl, rfl, rfl, ?_, ?_⟩
  · apply usable.imp_left
    rintro some_dsn none_text
    rw [none_text] at lengths
    exact some_dsn (List.length_eq_zero_iff.mp lengths.symm)
  · rw [in_place_length (recorded_in_place recorded), lengths]
  · intro place text here
    obtain ⟨within, textHere⟩ := List.getElem?_eq_some_iff.mp here
    have dsnWithin : place < dsns.length := lengths ▸ within
    have dsnHere : dsns[place]? = some dsns[place] := List.getElem?_eq_getElem dsnWithin
    refine ⟨dsns[place], replay (Channel.new place dsns[place])
      (marksOf finish.shared.history place),
      ?_, ?_, replay_id _ _, replay_dsn _ _, ?_⟩
    · rw [← textHere]
      exact readAs.get within dsnWithin
    · rw [recorded.replayed, dsnHere]
      rfl
    · rw [marks_for_place recorded dsnHere]
      exact replay_determined _ _ _

def sshUrl (host : String) : DsnUrl where
  hostStr := some host
  port := none
  username := ""
  password := none
  queryPairs := []

def sshOf (host : String) : Dsn :=
  .ssh
    { user := "", pass := none, host := host, port := 22, keyPath := none, keepalive := 30 }

def listeningOutside : Outside Unit where
  toSurroundings := documentHere
  parser := portParser
  parseDsnUrl text := if text = "ssh://a" then .ok (sshUrl "a") else .ok (sshUrl "b")
  parseUrl := PathDestination.exampleUrl
  sha256 _ := Vector.replicate 32 0
  parseIp _ := .ok ()
  bind _ _ := .ok ()

/-- One pass, which finds the first channel healthy and the second one not. -/
def onePass : List Event :=
  [.passBegun, .advanced 0 .any, .advanced 0 (.joined 1 (some false)), .advanced 0 (.time 5),
    .advanced 0 (.joined 0 (some true)), .advanced 0 (.time 7), .ended 0]

def afterOnePass : Process :=
  { started [sshOf "a", sshOf "b"] 600 with
    passes := 1
    shared := {
      channels := [(Channel.new 0 (sshOf "a")).markHealthy 7,
        (Channel.new 1 (sshOf "b")).markUnhealthy 5]
      history := [⟨some ⟨1, sshOf "b", false⟩, 1, false, 5⟩,
        ⟨some ⟨0, sshOf "a", true⟩, 0, true, 7⟩] } }

theorem one_pass_as_configured :
    ∃ config, Configured listeningOutside portLine hostVariable config ∧
      (config.upstreams ≠ [] ∨ config.directFirst = true) ∧
      (serviceOf listeningOutside portAndHostGiven).directFirst = config.directFirst ∧
      (serviceOf listeningOutside portAndHostGiven).strategy = config.strategy.strategy ∧
      (started [sshOf "a", sshOf "b"] 600).probeInterval = config.probeInterval ∧
      afterOnePass.shared.channels.length = config.upstreams.length ∧
      ∀ place text, config.upstreams[place]? = some text → ∃ dsn channel,
        fromStr listeningOutside.parseDsnUrl text = .ok dsn ∧
          afterOnePass.shared.channels[place]? = some channel ∧ channel.id = place ∧
            channel.dsn = dsn ∧
              Determined channel (marksFor afterOnePass.shared.history place dsn) :=
  process_runs_as_configured listeningOutside (of_fields_derived documentFields)
    (of_flags_derived _) portLine hostVariable (serviceOf listeningOutside portAndHostGiven)
    (started [sshOf "a", sshOf "b"] 600) onePass afterOnePass rfl rfl

end MultiProxy.ProcessStart
