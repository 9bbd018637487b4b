import MultiProxy.PercentCoding
import MultiProxy.HostTexts
import MultiProxy.PathDestination

/-!
# DSNs of the upstream channels

`Dsn::from_str` and the three parsers it hands the text to. Each of them takes
its parts from a parsed URL, and fills in a port where the URL has none.
-/

namespace MultiProxy.DsnParsing

open MultiProxy.RustRuntime MultiProxy.LossyText MultiProxy.PercentCoding MultiProxy.HostTexts
open MultiProxy.UpstreamDsn MultiProxy.PathRequest MultiProxy.PathDestination

set_option autoImplicit false

/-! ## The parsers -/

/-- What the parsers ask of a `url::Url`. -/
structure DsnUrl where
  hostStr : Option String
  port : Option UInt16
  username : String
  password : Option String
  queryPairs : List (String × String)

section Parsers

variable (parseUrl : String → Except String DsnUrl)

/-- The steps the three parsers share: a URL without a host is an error, one
without a port gets the default. -/
def fromUrl {Parsed : Type} (missing : String) (defaultPort : UInt16)
    (build : DsnUrl → String → UInt16 → Parsed) (s : String) : Except String Parsed :=
  match parseUrl s with
  | .error e => .error e
  | .ok url =>
      match url.hostStr with
      | none => .error missing
      | some host => .ok (build url host (url.port.getD defaultPort))

def userOf (url : DsnUrl) : Option String := if url.username = "" then none else some url.username

def httpFromStr : String → Except String HttpDsn :=
  fromUrl parseUrl "HTTP DSN missing host" 8080 fun url host port =>
    { host := host, port := port, user := userOf url, pass := url.password }

def socks5FromStr : String → Except String Socks5Dsn :=
  fromUrl parseUrl "SOCKS5 DSN missing host" 1080 fun url host port =>
    { host := host, port := port, user := userOf url, pass := url.password }

/-- The value of the first query pair of a name. -/
def queryValue (url : DsnUrl) (name : String) : Option String :=
  (url.queryPairs.find? (·.1 = name)).map (·.2)

def sshFromStr : String → Except String SshDsn :=
  fromUrl parseUrl "SSH DSN missing host" 22 fun url host port =>
    { user := url.username
      pass := url.password
      host := host
      port := port
      keyPath := queryValue url "key"
      keepalive := ((queryValue url "keepalive").bind fun v => parseU64 v.toList).getD 30 }

def fromStr (text : String) : Except String Dsn :=
  let s := String.ofList (trim text.toList)
  if startsWith s "http://" then (httpFromStr parseUrl s).map .http
  else if startsWith s "socks5://" then (socks5FromStr parseUrl s).map .socks5
  else if startsWith s "ssh://" then (sshFromStr parseUrl s).map .ssh
  else .error s!"Unknown DSN scheme: {s}"

end Parsers

/-! ## Written DSNs -/

inductive Scheme where
  | http
  | socks5
  | ssh
  deriving DecidableEq, Repr

namespace Scheme

def text : Scheme → String
  | .http => "http://"
  | .socks5 => "socks5://"
  | .ssh => "ssh://"

/-- The port the URL scheme itself stands for. -/
def ownPort : Scheme → Option UInt16
  | .http => some 80
  | .socks5 => none
  | .ssh => none

end Scheme

structure Userinfo where
  name : String
  pass : Option String

def userinfoText : Option Userinfo → String
  | none => ""
  | some ⟨name, none⟩ => name ++ "@"
  | some ⟨name, some pass⟩ => name ++ ":" ++ pass ++ "@"

structure DsnText where
  scheme : Scheme
  userinfo : Option Userinfo
  host : String
  port : Option UInt16
  query : Option String

def DsnText.text (written : DsnText) : String :=
  written.scheme.text ++ (userinfoText written.userinfo ++
    (written.host ++ (portText written.port ++ queryText written.query)))

/-- The characters that a URL parser leaves as they are in a userinfo. -/
def isUserinfoChar (character : Char) : Bool :=
  character.isAlphanum || decide (character ∈ "!$%&'()*+,-._~".toList)

/-- The characters that a URL parser leaves as they are in a query. -/
def isQueryChar (character : Char) : Bool :=
  decide (0x21 ≤ character.toNat ∧ character.toNat ≤ 0x7E) &&
    decide (character ∉ "\"#'<>".toList)

structure WellFormed (info : Userinfo) : Prop where
  nonempty : info.name ≠ ""
  name : ∀ character ∈ info.name.toList, isUserinfoChar character = true
  pass : ∀ pass, info.pass = some pass →
    ∀ character ∈ pass.toList, isUserinfoChar character = true

structure WellWritten (written : DsnText) : Prop where
  userinfo : ∀ info, written.userinfo = some info → WellFormed info
  host : Host written.host
  query : ∀ query, written.query = some query →
    ∀ character ∈ query.toList, isQueryChar character = true

/-- A label of an internationalised name, which the crate decodes and checks. -/
def hasAceLabel (name : String) : Bool :=
  ((lowered name).toList.splitOn '.').any ("xn--".toList.isPrefixOf ·)

/-- The parts of a URL that was written well: the scheme's own port and an empty
password read as none, and the query pairs are decoded. -/
structure ReadAs (written : DsnText) (url : DsnUrl) : Prop where
  host : ∃ spelling, url.hostStr = some spelling ∧
    Spelled (written.scheme = .http) written.host spelling
  port : url.port = if written.port = written.scheme.ownPort then none else written.port
  username : url.username = (written.userinfo.map Userinfo.name).getD ""
  password : url.password = (written.userinfo.bind Userinfo.pass).filter (· ≠ "")
  pairs : url.queryPairs = formPairs (utf8 (written.query.getD ""))

/-- The url crate on the texts of DSNs. Under `http`, a name with an
internationalised label is read only if that label is valid. -/
def ReadsDsns (parseUrl : String → Except String DsnUrl) : Prop :=
  ∀ written, WellWritten written →
    (written.scheme = .http → hasAceLabel written.host = true →
      ∃ url, parseUrl written.text = .ok url) →
    ∃ url, parseUrl written.text = .ok url ∧ ReadAs written url

theorem ReadAs.port_kept {written : DsnText} {url : DsnUrl} (read : ReadAs written url)
    (ownPort : written.scheme.ownPort = none) : url.port = written.port := by
  rw [read.port, ownPort]
  by_cases unwritten : written.port = none
  · rw [if_pos unwritten, unwritten]
  · rw [if_neg unwritten]

/-! ## The text of a DSN -/

def Visible (text : String) : Prop :=
  ∀ character ∈ text.toList, 0x21 ≤ character.toNat ∧ character.toNat ≤ 0x7E

instance (text : String) : Decidable (Visible text) :=
  inferInstanceAs (Decidable (∀ character ∈ text.toList, _ ∧ _))

theorem visible_append {front back : String} (frontVisible : Visible front)
    (backVisible : Visible back) : Visible (front ++ back) := by
  intro character member
  rw [String.toList_append] at member
  obtain inFront | inBack := List.mem_append.mp member
  · exact frontVisible character inFront
  · exact backVisible character inBack

theorem visible_trimmed {text : String} (visible : Visible text) :
    String.ofList (trim text.toList) = text := by
  rw [trim_solid, String.ofList_toList]
  intro character member
  have range := visible character member
  simp only [isWhitespace, decide_eq_false_iff_not]
  omega

theorem digit_visible {character : Char} (digit : character.isDigit = true) :
    0x21 ≤ character.toNat ∧ character.toNat ≤ 0x7E := by
  simp only [Char.isDigit, Bool.and_eq_true, decide_eq_true_eq] at digit
  have above : 48 ≤ character.toNat := digit.1
  have below : character.toNat ≤ 57 := digit.2
  omega

theorem alphanumeric_visible {character : Char} (alphanumeric : character.isAlphanum = true) :
    0x21 ≤ character.toNat ∧ character.toNat ≤ 0x7E := by
  simp only [Char.isAlphanum, Char.isAlpha, Bool.or_eq_true] at alphanumeric
  obtain (upper | lower) | digit := alphanumeric
  · simp only [Char.isUpper, decide_eq_true_eq] at upper
    have above : 65 ≤ character.toNat := upper.1
    have below : character.toNat ≤ 90 := upper.2
    omega
  · simp only [Char.isLower, Bool.and_eq_true, decide_eq_true_eq] at lower
    have above : 97 ≤ character.toNat := lower.1
    have below : character.toNat ≤ 122 := lower.2
    omega
  · exact digit_visible digit

theorem userinfo_char_visible {character : Char} (allowed : isUserinfoChar character = true) :
    0x21 ≤ character.toNat ∧ character.toNat ≤ 0x7E := by
  have marks : ∀ mark ∈ "!$%&'()*+,-._~".toList, 0x21 ≤ mark.toNat ∧ mark.toNat ≤ 0x7E := by
    decide
  obtain alphanumeric | mark := Bool.or_eq_true_iff.mp allowed
  · exact alphanumeric_visible alphanumeric
  · exact marks character (of_decide_eq_true mark)

theorem host_char_visible {character : Char} (inHost : isHostChar character = true) :
    0x21 ≤ character.toNat ∧ character.toNat ≤ 0x7E := by
  simp only [isHostChar, isNameChar, Bool.or_eq_true, decide_eq_true_eq] at inHost
  obtain (((((alphanumeric | rfl) | rfl) | rfl) | rfl) | rfl) | rfl := inHost
  · exact alphanumeric_visible alphanumeric
  all_goals decide

theorem userinfo_visible {written : DsnText} (well : WellWritten written) :
    Visible (userinfoText written.userinfo) := by
  have sign : Visible "@" := by decide
  have colon : Visible ":" := by decide
  cases same : written.userinfo with
  | none => exact List.forall_mem_nil _
  | some info =>
      obtain ⟨name, given⟩ := info
      have nameVisible : Visible name := by
        intro character member
        exact userinfo_char_visible ((well.userinfo _ same).name character member)
      cases given with
      | none => exact visible_append nameVisible sign
      | some pass =>
          have passVisible : Visible pass := by
            intro character member
            exact userinfo_char_visible ((well.userinfo _ same).pass pass rfl character member)
          exact visible_append (visible_append (visible_append nameVisible colon) passVisible) sign

theorem query_visible {written : DsnText} (well : WellWritten written) :
    Visible (queryText written.query) := by
  cases same : written.query with
  | none => exact List.forall_mem_nil _
  | some query =>
      have mark : Visible "?" := by decide
      have inner : Visible query := by
        intro character member
        have allowed := well.query query same character member
        exact of_decide_eq_true (Bool.and_eq_true_iff.mp allowed).1
      exact visible_append mark inner

theorem text_visible {written : DsnText} (well : WellWritten written) :
    Visible written.text := by
  have scheme : Visible written.scheme.text := by
    cases written.scheme <;> decide
  have host : Visible written.host := by
    intro character member
    exact host_char_visible (host_chars well.host character member)
  have port : Visible (portText written.port) := by
    intro character member
    obtain rfl | digit := port_text_char member
    · decide
    · exact digit_visible digit
  exact visible_append scheme (visible_append (userinfo_visible well)
    (visible_append host (visible_append port (query_visible well))))

/-! ## What the parsers make of it -/

theorem from_url_ok {parseUrl : String → Except String DsnUrl} {Parsed : Type} {url : DsnUrl}
    {text host : String} (parses : parseUrl text = .ok url) (named : url.hostStr = some host)
    (missing : String) (defaultPort : UInt16) (build : DsnUrl → String → UInt16 → Parsed) :
    fromUrl parseUrl missing defaultPort build text =
      .ok (build url host (url.port.getD defaultPort)) := by
  simp only [fromUrl, parses, named]

/-- The variant of the scheme, from the parts of a URL. -/
def dsnOf (scheme : Scheme) (url : DsnUrl) (host : String) : Dsn :=
  match scheme with
  | .http => .http {
      host := host
      port := url.port.getD 8080
      user := userOf url
      pass := url.password }
  | .socks5 => .socks5 {
      host := host
      port := url.port.getD 1080
      user := userOf url
      pass := url.password }
  | .ssh => .ssh {
      user := url.username
      pass := url.password
      host := host
      port := url.port.getD 22
      keyPath := queryValue url "key"
      keepalive := ((queryValue url "keepalive").bind fun v => parseU64 v.toList).getD 30 }

theorem text_begins (written : DsnText) (scheme : Scheme) :
    startsWith written.text scheme.text = decide (written.scheme = scheme) := by
  by_cases same : written.scheme = scheme
  · rw [decide_eq_true same, DsnText.text, same]
    exact starts_with_append scheme.text _
  · rw [decide_eq_false same, DsnText.text, startsWith, String.toList_append]
    cases own : written.scheme <;> cases scheme
    all_goals first
      | exact absurd own same
      | rfl

theorem from_str_ok {parseUrl : String → Except String DsnUrl} {written : DsnText} {url : DsnUrl}
    {host : String} (visible : Visible written.text) (parses : parseUrl written.text = .ok url)
    (named : url.hostStr = some host) :
    fromStr parseUrl written.text = .ok (dsnOf written.scheme url host) := by
  have isHttp : startsWith written.text "http://" = _ := text_begins written .http
  have isSocks5 : startsWith written.text "socks5://" = _ := text_begins written .socks5
  have isSsh : startsWith written.text "ssh://" = _ := text_begins written .ssh
  simp only [fromStr, visible_trimmed visible, isHttp, isSocks5, isSsh, httpFromStr, socks5FromStr,
    sshFromStr, from_url_ok parses named]
  cases written.scheme <;> rfl

theorem exists_parsed_iff {outcome : Except String Dsn} {dsn : Dsn} (parsed : outcome = .ok dsn)
    {holds : Dsn → Prop} : (∃ other, outcome = .ok other ∧ holds other) ↔ holds dsn := by
  rw [parsed]
  constructor
  · rintro ⟨other, same, held⟩
    cases same
    exact held
  · intro held
    exact ⟨dsn, rfl, held⟩

end MultiProxy.DsnParsing
