import MultiProxy.ChannelHealth
import MultiProxy.DsnParsing

/-!
# The settings of the proxy

`config.toml`, the command line and three environment variables, and how
`Config::load` makes one configuration of them: a flag wins over its variable, a
variable over the file and the file over the default. The upstreams add up. What
`toml` and `clap` make of their texts is taken as they derive it from the types.
-/

namespace MultiProxy.Settings

open MultiProxy.RustRuntime MultiProxy.LossyText MultiProxy.UpstreamDsn MultiProxy.ChannelHealth
open MultiProxy.DsnParsing

set_option autoImplicit false

/-! ## Texts of single settings -/

inductive ConfigStrategy where
  | order
  | hash
  deriving DecidableEq, Repr

/-- No character outside ASCII has a lower case that occurs in the two names, so
lowering the ASCII letters is enough to recognise them. -/
def ConfigStrategy.fromStr (s : String) : Except String ConfigStrategy :=
  match String.ofList (s.toList.map Char.toLower) with
  | "order" => .ok .order
  | "hash" => .ok .hash
  | _ => .error s!"Unknown strategy: {s}"

/-- `Strategy::from`. -/
def ConfigStrategy.strategy : ConfigStrategy → Strategy
  | .order => .order
  | .hash => .hash

/-- Why `u16::from_str` refuses a text, in the words of its error. -/
inductive IntError where
  | empty
  | invalidDigit
  | posOverflow
  deriving DecidableEq, Repr

def IntError.text : IntError → String
  | .empty => "cannot parse integer from empty string"
  | .invalidDigit => "invalid digit found in string"
  | .posOverflow => "number too large to fit in target type"

def readDigits : List Char → Nat → Except IntError UInt16
  | [], number => .ok (UInt16.ofNat number)
  | character :: rest, number =>
      if character.isDigit then
        let next := 10 * number + (character.toNat - '0'.toNat)
        if next < 2 ^ 16 then readDigits rest next else .error .posOverflow
      else .error .invalidDigit

def readU16 : List Char → Except IntError UInt16
  | [] => .error .empty
  | ['+'] => .error .invalidDigit
  | '+' :: digits => readDigits digits 0
  | digits => readDigits digits 0

def readPort (port : String) : Except String UInt16 :=
  match readU16 port.toList with
  | .ok value => .ok value
  | .error e => .error s!"Invalid PORT '{port}': {e.text}"

/-! ## The configuration and its file -/

structure Config where
  host : String
  port : UInt16
  strategy : ConfigStrategy
  directFirst : Bool
  probeInterval : UInt64
  connectTimeout : UInt64
  upstreams : List String
  deriving DecidableEq, Repr

def defaultHost : String := "127.0.0.1"

def defaultPort : UInt16 := 12380

def defaultProbeInterval : UInt64 := 600

def defaultConnectTimeout : UInt64 := 3

/-- `Config::default`, for when there is no file. -/
def Config.default : Config where
  host := defaultHost
  port := defaultPort
  strategy := .order
  directFirst := false
  probeInterval := defaultProbeInterval
  connectTimeout := defaultConnectTimeout
  upstreams := []

/-- What a document has for the fields of a configuration, each read as its type. -/
structure Given where
  host : Option String
  port : Option UInt16
  strategy : Option ConfigStrategy
  directFirst : Option Bool
  probeInterval : Option UInt64
  connectTimeout : Option UInt64
  upstreams : Option (List String)

/-- A field that the document leaves out has its default. -/
def Given.config (given : Given) (upstreams : List String) : Config where
  host := given.host.getD defaultHost
  port := given.port.getD defaultPort
  strategy := given.strategy.getD .order
  directFirst := given.directFirst.getD false
  probeInterval := given.probeInterval.getD defaultProbeInterval
  connectTimeout := given.connectTimeout.getD defaultConnectTimeout
  upstreams := upstreams

/-- `toml::from_str`, and what it finds in a document: nothing in one that is not TOML
or has a value that is not of its field's type. -/
structure TomlReader where
  fields : String → Option Given
  fromStr : String → Except String Config

/-- The fields with a default may be missing, the one without may not. -/
def TomlReader.AsDerived (reader : TomlReader) : Prop :=
  ∀ content config, reader.fromStr content = .ok config ↔ ∃ given upstreams,
    reader.fields content = some given ∧ given.upstreams = some upstreams ∧
      config = given.config upstreams

/-! ## The command line and the environment -/

/-- The texts that a command line has for its flags. -/
structure Flags where
  config : Option String
  host : Option String
  port : Option String
  strategy : Option String
  directFirst : Option String
  upstream : List String

abbrev Environment : Type := String → Option String

structure Args where
  config : String
  host : Option String
  port : Option String
  strategy : Option String
  directFirst : Option Bool
  upstream : List String
  deriving DecidableEq

/-- `Args::parse`, which exits on what it cannot read, what it finds on a command line,
and how it reads a `bool`. -/
structure ArgsParser where
  flags : List String → Option Flags
  boolean : String → Option Bool
  parse : List String → Environment → Option Args

/-- Variables stand in for flags that were not given, and `config` has a default. -/
structure FilledIn (boolean : String → Option Bool) (flags : Flags) (environment : Environment)
    (args : Args) : Prop where
  config : args.config = flags.config.getD "config.toml"
  host : args.host = flags.host.or (environment "HOST")
  port : args.port = flags.port.or (environment "PORT")
  strategy : args.strategy = flags.strategy
  directFirst : args.directFirst = (flags.directFirst.or (environment "DIRECT_FIRST")).bind boolean
  readable : ∀ text, flags.directFirst.or (environment "DIRECT_FIRST") = some text →
    (boolean text).isSome
  upstream : args.upstream = flags.upstream

def ArgsParser.AsDerived (parser : ArgsParser) : Prop :=
  ∀ line environment args, parser.parse line environment = some args ↔ ∃ flags,
    parser.flags line = some flags ∧ FilledIn parser.boolean flags environment args

/-! ## Loading -/

/-- What the file system has for a path. -/
inductive FileContent where
  | absent
  | unreadable (message : String)
  | text (content : String)

structure Surroundings where
  file : String → FileContent
  toml : TomlReader

section Load

variable (surroundings : Surroundings)

def fileConfig (path : String) : Except String Config :=
  match surroundings.file path with
  | .absent => .ok .default
  | .unreadable e => .error s!"Failed to read config: {e}"
  | .text content =>
      match surroundings.toml.fromStr content with
      | .error e => .error s!"Failed to parse config: {e}"
      | .ok config => .ok config

/-- A given text is read in place of the setting so far. -/
def override {Value : Type} (read : String → Except String Value) (given : Option String)
    (sofar : Value) : Except String Value :=
  match given with
  | none => .ok sofar
  | some text => read text

def load (args : Args) : Except String Config := do
  let config ← fileConfig surroundings args.config
  let host := args.host.getD config.host
  let port ← override readPort args.port config.port
  let strategy ← override ConfigStrategy.fromStr args.strategy config.strategy
  let directFirst := args.directFirst.getD config.directFirst
  pure { config with
    host := host, port := port, strategy := strategy, directFirst := directFirst
    upstreams := config.upstreams ++ args.upstream }

end Load

def Config.parseUpstreams (parseUrl : String → Except String DsnUrl) (config : Config) :
    Except String (List Dsn) :=
  config.upstreams.mapM (fromStr parseUrl)

/-! ## What the readers accept -/

theorem digits_grow (digits : List Char) (number : Nat) :
    number ≤ Nat.ofDigitChars 10 digits number := by
  induction digits generalizing number with
  | nil => exact Nat.le_refl number
  | cons character rest ih =>
      have later := ih (10 * number + (character.toNat - '0'.toNat))
      rw [Nat.ofDigitChars_cons]
      omega

theorem read_digits_value (digits : List Char) (number : Nat) (small : number < 2 ^ 16) :
    (readDigits digits number).toOption =
      if ∀ character ∈ digits, character.isDigit = true then
        if Nat.ofDigitChars 10 digits number < 2 ^ 16 then
          some (UInt16.ofNat (Nat.ofDigitChars 10 digits number))
        else none
      else none := by
  induction digits generalizing number with
  | nil =>
      have fits : Nat.ofDigitChars 10 [] number < 2 ^ 16 := small
      rw [if_pos (List.forall_mem_nil _), if_pos fits]
      rfl
  | cons character rest ih =>
      rw [readDigits, Nat.ofDigitChars_cons]
      cases digit : character.isDigit with
      | false => simp [digit, Except.toOption]
      | true =>
          simp only [List.forall_mem_cons, digit, if_true, true_and]
          split
          · exact ih _ ‹_›
          · have large := digits_grow rest (10 * number + (character.toNat - '0'.toNat))
            rw [if_neg (by omega : ¬ Nat.ofDigitChars 10 rest _ < 2 ^ 16)]
            simp [Except.toOption]

theorem read_u16_is_parse (text : List Char) : (readU16 text).toOption = parseU16 text := by
  have plain : ∀ digits : List Char, digits ≠ [] →
      (readDigits digits 0).toOption =
        if digits ≠ [] ∧ ∀ character ∈ digits, character.isDigit = true then
          let number := Nat.ofDigitChars 10 digits 0
          if number < 2 ^ 16 then some (UInt16.ofNat number) else none
        else none := by
    intro digits nonempty
    rw [read_digits_value digits 0 (by decide)]
    simp only [nonempty, ne_eq, not_false_eq_true, true_and]
  unfold readU16
  split
  · rfl
  · rfl
  · rename_i digits alone
    have nonempty : digits ≠ [] := fun empty => alone (by rw [empty])
    rw [plain digits nonempty]
    rfl
  · rename_i nonempty _ unsigned
    have noSign : text.head? ≠ some '+' := by
      intro sign
      obtain ⟨rest, rest_eq⟩ := List.head?_eq_some_iff.mp sign
      exact unsigned rest rest_eq
    rw [plain text nonempty, parseU16, if_neg noSign]

/-! ## Which source a setting is taken from -/

def ConfigStrategy.name : ConfigStrategy → String
  | .order => "order"
  | .hash => "hash"

def spellsStrategy (text : String) (strategy : ConfigStrategy) : Prop :=
  text.toList.map Char.toLower = strategy.name.toList

def spellsPort (text : String) (port : UInt16) : Prop := parseU16 text.toList = some port

/-- A text that was given decides; where there is none, what stands behind it does. -/
def Decided {Value : Type} (given : Option String) (spells : String → Value → Prop)
    (behind chosen : Value) : Prop :=
  match given with
  | none => chosen = behind
  | some text => spells text chosen

/-- A file that is not there is as one with an empty list of upstreams. -/
def emptyDocument : Given := ⟨none, none, none, none, none, none, some []⟩

/-- The fields that the file of a path stands for, with the upstreams among them. -/
inductive FileGives (surroundings : Surroundings) (path : String) : Given → Prop where
  | absent (absent : surroundings.file path = .absent) : FileGives surroundings path emptyDocument
  | document (content : String) (given : Given)
      (here : surroundings.file path = .text content)
      (read : surroundings.toml.fields content = some given)
      (upstreams : given.upstreams.isSome) : FileGives surroundings path given

/-- Each setting comes from the first source that has it: a flag, a variable, the
file, the default. -/
structure Prioritised (boolean : String → Option Bool) (flags : Flags) (environment : Environment)
    (given : Given) (config : Config) : Prop where
  host : config.host = ((flags.host.or (environment "HOST")).or given.host).getD "127.0.0.1"
  port : Decided (flags.port.or (environment "PORT")) spellsPort (given.port.getD 12380) config.port
  strategy : Decided flags.strategy spellsStrategy (given.strategy.getD .order) config.strategy
  directFirst : config.directFirst =
    (((flags.directFirst.or (environment "DIRECT_FIRST")).bind boolean).or
      given.directFirst).getD false
  probeInterval : config.probeInterval = given.probeInterval.getD 600
  connectTimeout : config.connectTimeout = given.connectTimeout.getD 3
  upstreams : ∃ fromFile, given.upstreams = some fromFile ∧
    config.upstreams = fromFile ++ flags.upstream

theorem strategy_spelled (text : String) (strategy : ConfigStrategy) :
    ConfigStrategy.fromStr text = .ok strategy ↔ spellsStrategy text strategy := by
  have lowered : ∀ name : String, String.ofList (text.toList.map Char.toLower) = name ↔
      text.toList.map Char.toLower = name.toList := by
    intro name
    rw [← String.toList_inj, String.toList_ofList]
  rw [spellsStrategy, ← lowered, ConfigStrategy.fromStr]
  split
  · rename_i same
    rw [same]
    cases strategy <;> simp [ConfigStrategy.name]
  · rename_i same
    rw [same]
    cases strategy <;> simp [ConfigStrategy.name]
  · rename_i notOrder notHash
    cases strategy with
    | order => exact iff_of_false (by simp) notOrder
    | hash => exact iff_of_false (by simp) notHash

theorem port_spelled (text : String) (port : UInt16) :
    readPort text = .ok port ↔ spellsPort text port := by
  rw [spellsPort, ← read_u16_is_parse, readPort]
  cases readU16 text.toList with
  | ok value => simp [Except.toOption]
  | error e => simp [Except.toOption]

theorem override_decided {Value : Type} {read : String → Except String Value}
    {spells : String → Value → Prop}
    (spelled : ∀ text value, read text = .ok value ↔ spells text value)
    (given : Option String) (behind chosen : Value) :
    override read given behind = .ok chosen ↔ Decided given spells behind chosen := by
  cases given with
  | none => simp [override, Decided, eq_comm]
  | some text => exact spelled text chosen

theorem file_config_given {surroundings : Surroundings} (derived : surroundings.toml.AsDerived)
    (path : String) (config : Config) :
    fileConfig surroundings path = .ok config ↔ ∃ given, FileGives surroundings path given ∧
      ∃ upstreams, given.upstreams = some upstreams ∧ config = given.config upstreams := by
  unfold fileConfig
  constructor
  · intro loaded
    split at loaded
    · rename_i absent
      cases loaded
      exact ⟨emptyDocument, .absent absent, [], rfl, rfl⟩
    · cases loaded
    · rename_i content here
      cases read : surroundings.toml.fromStr content with
      | error e => simp [read] at loaded
      | ok config =>
          rw [read] at loaded
          cases loaded
          obtain ⟨given, upstreams, found, listed, same⟩ := (derived content config).mp read
          have some_upstreams : given.upstreams.isSome := by rw [listed]; rfl
          exact ⟨given, .document content given here found some_upstreams, upstreams, listed, same⟩
  · rintro ⟨given, gives, upstreams, listed, rfl⟩
    cases gives with
    | absent absent =>
        cases listed
        rw [absent]
        rfl
    | document content given here found _ =>
        have read := (derived content (given.config upstreams)).mpr
          ⟨given, upstreams, found, listed, rfl⟩
        simp only [here, read]

theorem loaded (surroundings : Surroundings) (args : Args) (config : Config) :
    load surroundings args = .ok config ↔ ∃ file,
      fileConfig surroundings args.config = .ok file ∧
        Decided args.port spellsPort file.port config.port ∧
          Decided args.strategy spellsStrategy file.strategy config.strategy ∧
            config = { file with
              host := args.host.getD file.host
              port := config.port
              strategy := config.strategy
              directFirst := args.directFirst.getD file.directFirst
              upstreams := file.upstreams ++ args.upstream } := by
  unfold load
  simp only [← override_decided port_spelled, ← override_decided strategy_spelled]
  cases fileConfig surroundings args.config with
  | error e => simp [bind, Except.bind]
  | ok file =>
      cases portRead : override readPort args.port file.port with
      | error e => simp [bind, Except.bind, portRead]
      | ok port =>
          cases strategyRead : override ConfigStrategy.fromStr args.strategy file.strategy with
          | error e => simp [bind, Except.bind, portRead, strategyRead]
          | ok strategy =>
              simp only [bind, Except.bind, portRead, strategyRead, pure, Except.pure,
                Except.ok.injEq, exists_eq_left']
              constructor
              · rintro rfl
                exact ⟨rfl, rfl, rfl⟩
              · rintro ⟨rfl, rfl, same⟩
                exact same.symm

theorem load_prioritised {surroundings : Surroundings} {boolean : String → Option Bool}
    {flags : Flags} {environment : Environment} {args : Args}
    (derived : surroundings.toml.AsDerived) (filledIn : FilledIn boolean flags environment args)
    (config : Config) :
    load surroundings args = .ok config ↔
      ∃ given, FileGives surroundings (flags.config.getD "config.toml") given ∧
        Prioritised boolean flags environment given config := by
  rw [loaded, filledIn.config, filledIn.host, filledIn.port, filledIn.strategy,
    filledIn.directFirst, filledIn.upstream]
  constructor
  · rintro ⟨file, read, port, strategy, same⟩
    obtain ⟨given, gives, upstreams, listed, rfl⟩ := (file_config_given derived _ _).mp read
    refine ⟨given, gives, ?_, port, strategy, ?_, ?_, ?_, upstreams, listed, ?_⟩
    · exact (congrArg Config.host same).trans Option.getD_or.symm
    · exact (congrArg Config.directFirst same).trans Option.getD_or.symm
    · exact congrArg Config.probeInterval same
    · exact congrArg Config.connectTimeout same
    · exact congrArg Config.upstreams same
  · rintro ⟨given, gives, prioritised⟩
    obtain ⟨upstreams, listed, allUpstreams⟩ := prioritised.upstreams
    refine ⟨given.config upstreams,
      (file_config_given derived _ _).mpr ⟨given, gives, upstreams, listed, rfl⟩, prioritised.port,
      prioritised.strategy, ?_⟩
    have host := prioritised.host.trans Option.getD_or
    have directFirst := prioritised.directFirst.trans Option.getD_or
    have probeInterval := prioritised.probeInterval
    have connectTimeout := prioritised.connectTimeout
    cases config
    cases host
    cases directFirst
    cases probeInterval
    cases connectTimeout
    cases allUpstreams
    rfl

/-- The proxy is configured exactly when its file can be read and every text that
was given spells a value, and then each setting comes from the first source that
has it, and the upstreams from the file and the flags. -/
theorem settings_by_priority (surroundings : Surroundings) (parser : ArgsParser)
    (tomlDerived : surroundings.toml.AsDerived) (parserDerived : parser.AsDerived)
    (line : List String) (environment : Environment) (args : Args) (config : Config)
    (parsed : parser.parse line environment = some args) :
    ∃ flags, parser.flags line = some flags ∧
      (load surroundings args = .ok config ↔
        ∃ given, FileGives surroundings (flags.config.getD "config.toml") given ∧
          Prioritised parser.boolean flags environment given config) := by
  obtain ⟨flags, found, filledIn⟩ := (parserDerived line environment args).mp parsed
  exact ⟨flags, found, load_prioritised tomlDerived filledIn config⟩

/-! ## Readers that do as their types say -/

def TomlReader.ofFields (fields : String → Option Given) : TomlReader where
  fields := fields
  fromStr content :=
    match fields content with
    | none => .error "invalid value"
    | some given =>
        match given.upstreams with
        | none => .error "missing field \x60upstreams\x60"
        | some upstreams => .ok (given.config upstreams)

theorem of_fields_derived (fields : String → Option Given) :
    (TomlReader.ofFields fields).AsDerived := by
  intro content config
  simp only [TomlReader.ofFields]
  cases fields content with
  | none => simp
  | some given =>
      cases listed : given.upstreams with
      | none => simp [listed]
      | some upstreams => simp [listed, eq_comm]

def readBool : String → Option Bool
  | "true" => some true
  | "false" => some false
  | _ => none

def Flags.fill (flags : Flags) (environment : Environment) (directFirst : Option Bool) : Args where
  config := flags.config.getD "config.toml"
  host := flags.host.or (environment "HOST")
  port := flags.port.or (environment "PORT")
  strategy := flags.strategy
  directFirst := directFirst
  upstream := flags.upstream

def ArgsParser.ofFlags (flags : List String → Option Flags) : ArgsParser where
  flags := flags
  boolean := readBool
  parse line environment :=
    (flags line).bind fun flags =>
      match flags.directFirst.or (environment "DIRECT_FIRST") with
      | none => some (flags.fill environment none)
      | some text => (readBool text).map fun value => flags.fill environment (some value)

theorem filled_in_iff {boolean : String → Option Bool} {flags : Flags} {environment : Environment}
    {args : Args} :
    FilledIn boolean flags environment args ↔
      args = flags.fill environment
        ((flags.directFirst.or (environment "DIRECT_FIRST")).bind boolean) ∧
      ∀ text, flags.directFirst.or (environment "DIRECT_FIRST") = some text →
        (boolean text).isSome := by
  constructor
  · rintro ⟨config, host, port, strategy, directFirst, readable, upstream⟩
    refine ⟨?_, readable⟩
    cases args
    simp_all [Flags.fill]
  · rintro ⟨rfl, readable⟩
    exact ⟨rfl, rfl, rfl, rfl, rfl, readable, rfl⟩

theorem of_flags_derived (flags : List String → Option Flags) :
    (ArgsParser.ofFlags flags).AsDerived := by
  intro line environment args
  simp only [ArgsParser.ofFlags, filled_in_iff]
  cases flags line with
  | none => simp
  | some given =>
      simp only [Option.bind_some, Option.some.injEq, exists_eq_left']
      cases given.directFirst.or (environment "DIRECT_FIRST") with
      | none =>
          simp only [Option.bind_none, reduceCtorEq, false_implies, implies_true, and_true,
            Option.some.injEq]
          exact eq_comm
      | some text =>
          cases read : readBool text with
          | none => simp [read]
          | some value =>
              simp only [Option.bind_some, read, Option.map_some, Option.some.injEq, forall_eq',
                Option.isSome_some, and_true]
              exact eq_comm

/-- The document says where to listen and which strategy to follow, in a table of its
own, and names one upstream. -/
def document : String := "port = 1\nupstreams = [\"ssh://a\"]\n[strategy.hash]\n"

def documentFields (content : String) : Option Given :=
  if content = document then
    some {
      host := none
      port := some 1
      strategy := some .hash
      directFirst := none
      probeInterval := none
      connectTimeout := none
      upstreams := some ["ssh://a"] }
  else none

def documentHere : Surroundings where
  file _ := .text document
  toml := .ofFields documentFields

def portLine : List String := ["multi-proxy", "-p", "8080", "-u", "ssh://b"]

def portFlag : Flags where
  config := none
  host := none
  port := some "8080"
  strategy := none
  directFirst := none
  upstream := ["ssh://b"]

def portParser : ArgsParser := .ofFlags fun line => if line = portLine then some portFlag else none

def hostVariable : Environment
  | "HOST" => some "::1"
  | "PORT" => some "9"
  | "DIRECT_FIRST" => some "true"
  | _ => none

def portArgs : Args where
  config := "config.toml"
  host := some "::1"
  port := some "8080"
  strategy := none
  directFirst := some true
  upstream := ["ssh://b"]

def portAndHostGiven : Config where
  host := "::1"
  port := 8080
  strategy := .hash
  directFirst := true
  probeInterval := 600
  connectTimeout := 3
  upstreams := ["ssh://a", "ssh://b"]

theorem port_and_host_prioritised :
    ∃ flags, portParser.flags portLine = some flags ∧
      (load documentHere portArgs = .ok portAndHostGiven ↔
        ∃ given, FileGives documentHere (flags.config.getD "config.toml") given ∧
          Prioritised portParser.boolean flags hostVariable given portAndHostGiven) :=
  settings_by_priority documentHere portParser (of_fields_derived documentFields)
    (of_flags_derived _) portLine hostVariable portArgs portAndHostGiven (by decide)

/-- The flag's port wins over the variable's, and that over the document's. -/
example : load documentHere portArgs = .ok portAndHostGiven := by decide

end MultiProxy.Settings
