import MultiProxy.Authorities
import MultiProxy.PathDestination

/-!
# Where the channels of a destination start

The key by which the channels are ordered is made in two places: from the host
of the CONNECT authority as it was written, without its brackets, and from the
host of a URL as its parser spells it.
-/

namespace MultiProxy.SessionAffinity

open MultiProxy.RustRuntime MultiProxy.HostTexts MultiProxy.UpstreamDsn MultiProxy.ChannelHealth
open MultiProxy.InteractionPrograms MultiProxy.InteractionPrograms.Program
open MultiProxy.PathRequest MultiProxy.ProxyRequests MultiProxy.ChannelLoops
open MultiProxy.PathDestination MultiProxy.Authorities

set_option autoImplicit false

/-! ## The key of a request -/

/-- The `target_key` a request comes to, in either style. -/
def targetKey (service : Service) (request : ClientRequest) : Option String :=
  if request.method = "CONNECT" ∧ request.uri.authority.getD "" ≠ "" then
    match parseAuthority (request.uri.authority.getD "") with
    | .ok (host, port) => some (hostPort host port)
    | .error _ => none
  else
    match pathTarget service.parseUrl request.uri with
    | .ok target => some (hostPort target.host target.port)
    | .error _ => none

/-- A program that looks for a connection over the channels in the order of the
key, before or behind a direct attempt. -/
def OrdersBy (service : Service) (key : String) (program : Proxy (Except String Answer)) : Prop :=
  ∃ (Value : Type) (attempt : Route → Proxy (Except String Value))
    (first : Proxy (Except String Value)) (later : String → Proxy (Except String Value))
    (answer : Except String Value → Except String Answer),
    program = (orElse first fun lastErr => do
      let all ← snapshot
      let ordered := orderedChannels service.sha256 service.strategy all key
      orElse (channelLoop attempt ordered lastErr) later) >>= fun outcome => pure (answer outcome)

theorem tunnel_orders (service : Service) (host : String) (port : UInt16) :
    OrdersBy service (hostPort host port) (handleConnect service host port) := by
  refine ⟨_, (establish · host port), tunnelDirectly service.directFirst host port "",
    fun lastErr => orElse (tunnelDirectly (!service.directFirst) host port lastErr) fun lastErr =>
      pure (.error (if lastErr = "" then "no usable upstream" else lastErr)), connectAnswer, ?_⟩
  simp only [← tunnel_through_is_loop]
  apply congrArg (acquireTunnel service host port >>= ·)
  funext outcome
  cases outcome <;> rfl

theorem forward_orders (service : Service) {request : ClientRequest} {target : Target}
    {body : List UInt8} (targeted : pathTarget service.parseUrl request.uri = .ok target)
    (collected : request.body = .ok body) :
    OrdersBy service (hostPort target.host target.port) (handlePathForward service request) := by
  let bytes := requestBytes request.method target request.headers body
  refine ⟨_, connectAndForward target bytes,
    forwardDirectly target bytes service.directFirst "",
    fun lastErr => forwardDirectly target bytes (!service.directFirst) lastErr,
    pathForwardAnswer, ?_⟩
  rw [handle_path_forward_attempts targeted collected]
  simp only [← forward_through_channels_is_loop]
  apply congrArg (forwardAttempts target bytes service >>= ·)
  funext outcome
  cases outcome <;> rfl

/-- Whatever is served from the channels is served in the order of the key. -/
theorem request_orders_by_key {service : Service} {request : ClientRequest} {key : String}
    {body : List UInt8} (keyed : targetKey service request = some key)
    (notHealth : request.uri.path ≠ "/health") (collected : request.body = .ok body) :
    OrdersBy service key (handleRequest service request) := by
  unfold targetKey at keyed
  by_cases connect : request.method = "CONNECT" ∧ request.uri.authority.getD "" ≠ ""
  · rw [if_pos connect] at keyed
    rw [handle_request_tunnels service notHealth connect]
    cases parsed : parseAuthority (request.uri.authority.getD "") with
    | error message => simp [parsed] at keyed
    | ok destination =>
        simp only [parsed, Option.some.injEq] at keyed
        rw [← keyed]
        exact tunnel_orders service destination.1 destination.2
  · rw [if_neg connect] at keyed
    rw [handle_request_forwards service notHealth connect]
    cases targeted : pathTarget service.parseUrl request.uri with
    | error rejection => simp [targeted] at keyed
    | ok target =>
        simp only [targeted, Option.some.injEq] at keyed
        rw [← keyed]
        exact forward_orders service targeted collected

/-! ## One destination in two styles -/

def SameKey (service : Service) (request other : ClientRequest) : Prop :=
  ∃ key, targetKey service request = some key ∧ targetKey service other = some key

/-- The host that a CONNECT request goes to: a literal loses its brackets. -/
inductive ConnectHost : String → String → Prop where
  | plain {text : String} (noBracket : text.toList.head? ≠ some '[') : ConnectHost text text
  | literal {literal : String} {address : List Nat} (denotes : Denotes literal address) :
      ConnectHost (bracketed literal) literal

theorem connect_host_exists {text : String} (isHost : Host text) :
    ∃ host, ConnectHost text host := by
  cases isHost with
  | domain isName => exact ⟨text, .plain (name_has_no_bracket isName)⟩
  | ipv4 first second third fourth =>
      exact ⟨_, .plain (dotted_has_no_bracket first second third fourth)⟩
  | ipv6 denotes => exact ⟨_, .literal denotes⟩

theorem connect_host_parsed {text host : String} (isHost : Host text)
    (given : ConnectHost text host) (port : UInt16) :
    parseAuthority (hostPort text port) = .ok (host, port) := by
  cases given with
  | plain noBracket => exact parse_plain_authority port (host_nonempty isHost) noBracket
  | literal denotes => exact parse_bracketed_authority port (literal_without_bracket denotes).2

theorem connect_key {service : Service} {request : ClientRequest} {text host : String}
    {port : UInt16} (isHost : Host text) (given : ConnectHost text host)
    (method : request.method = "CONNECT")
    (authority : request.uri.authority = some (hostPort text port)) :
    targetKey service request = some (hostPort host port) := by
  have nonempty : hostPort text port ≠ "" := by
    intro empty
    have chars := congrArg String.toList empty
    rw [host_port_chars] at chars
    simp at chars
  have connect : request.method = "CONNECT" ∧ request.uri.authority.getD "" ≠ "" := by
    rw [authority]
    exact ⟨method, nonempty⟩
  unfold targetKey
  rw [if_pos connect, authority, Option.getD_some, connect_host_parsed isHost given port]

theorem connect_host_spelled_iff {text host spelling : String} (given : ConnectHost text host)
    (spelled : Spelled true text spelling) :
    host = spelling ↔
      text.toList.head? ≠ some '[' ∧ ∀ character ∈ text.toList, character.isUpper = false := by
  cases given with
  | plain noBracket =>
      rw [spelled_plain spelled noBracket, eq_comm, lowered_iff]
      exact (and_iff_right noBracket).symm
  | literal denotes =>
      obtain ⟨other, rfl, _⟩ := spelled_literal denotes spelled
      apply iff_of_false
      · intro same
        apply (literal_without_bracket denotes).1
        rw [same, bracketed_chars]
        exact List.mem_cons_self
      · rintro ⟨noBracket, _⟩
        rw [bracketed_chars] at noBracket
        exact noBracket rfl

section Affinity

variable (service : Service) {hostOf : String → Option String} {normalPath : String → String}
  (crate : ParsesUrls service.parseUrl hostOf normalPath)
  (spells : ∀ text spelling, Host text → hostOf text = some spelling →
    Spelled true text spelling)
  (connect path : ClientRequest) (isHttps : Bool) (text spelling : String) (port : UInt16)
  (urlPath : String) (query : Option String) (isHost : Host text)
  (known : hostOf text = some spelling) (absolute : urlPath.toList.head? = some '/')
  (noMark : '?' ∉ urlPath.toList) (noFragment : '#' ∉ urlPath.toList)
  (method : connect.method = "CONNECT")
  (authority : connect.uri.authority = some (hostPort text port))
  (asked : path.uri = uriOf (requestTarget isHttps text (some port) urlPath query))

include crate known absolute noMark noFragment asked

theorem path_key : targetKey service path = some (hostPort spelling port) := by
  obtain ⟨target, targeted, sameHost, samePort, _, _⟩ := path_request_target service crate path
    isHttps text spelling (some port) urlPath query known absolute noMark noFragment asked
  have noAuthority : path.uri.authority.getD "" = "" := by
    rw [asked]
    rfl
  unfold targetKey
  rw [if_neg (by rw [noAuthority]; simp), targeted]
  simp only [sameHost, samePort, Option.getD_some]

include spells isHost method authority

/-- A destination has one key in both styles exactly when its host is written the
way the URL parser spells it: not as an IPv6 literal, and in lower case. Its key is what
the channels of a request are ordered by. -/
theorem one_key_iff_host_spelled :
    (SameKey service connect path ↔
      text.toList.head? ≠ some '[' ∧ ∀ character ∈ text.toList, character.isUpper = false) ∧
    ∀ request ∈ [connect, path], ∀ key body, targetKey service request = some key →
      request.uri.path ≠ "/health" → request.body = .ok body →
        OrdersBy service key (handleRequest service request) := by
  refine ⟨?_, fun _ _ _ _ keyed notHealth collected =>
    request_orders_by_key keyed notHealth collected⟩
  obtain ⟨host, given⟩ := connect_host_exists isHost
  have connectKey : targetKey service connect = some (hostPort host port) :=
    connect_key isHost given method authority
  have pathKey := path_key service crate path isHttps text spelling port urlPath query known
    absolute noMark noFragment asked
  rw [← connect_host_spelled_iff given (spells text spelling isHost known)]
  unfold SameKey
  rw [connectKey, pathKey]
  constructor
  · rintro ⟨key, first, second⟩
    cases first
    exact (host_port_injective (Option.some.inj second)).1.symm
  · intro same
    exact ⟨_, rfl, by rw [same]⟩

end Affinity

/-! ## A parser that knows one host -/

def hostSpelled (written spelling text : String) : Option String :=
  if text = written then some spelling else none

/-- Parses URLs of the one host, whose spelling stays on one line. -/
def spellingUrl (written : String) (spelling : { host : String // (0x0A : UInt8) ∉ utf8 host })
    (text : String) : Except String Url :=
  let isHttps := startsWith text "https://"
  let behind := text.toList.drop ((schemeText isHttps).toList.length + written.toList.length)
  let port :=
    if behind.head? = some ':' then LossyText.parseU16 (behind.tail.takeWhile (· ≠ '/')) else none
  .ok {
    hostStr := some spelling.val
    port := if port = some (defaultPort isHttps) then none else port
    path := String.ofList ((behind.dropWhile (· ≠ '/')).filter (· ≠ '\n'))
    query := none
    host_unbroken := by
      intro host same
      cases same
      exact spelling.property
    path_unbroken := without_line_feed _
    query_unbroken := no_query_unbroken }

theorem spelling_url_parses (written : String) (plain : '?' ∉ written.toList)
    (spelling : { host : String // (0x0A : UInt8) ∉ utf8 host }) :
    ParsesUrls (spellingUrl written spelling) (hostSpelled written spelling.val) examplePath where
  host_plain := by
    intro text host known
    unfold hostSpelled at known
    split at known
    · rename_i same
      rw [same]
      exact plain
    · cases known
  parses := by
    intro isHttps text host port path known absolute _ _
    unfold hostSpelled at known
    split at known
    · rename_i same
      subst same
      cases known
      refine ⟨_, rfl, rfl, ?_, ?_, rfl⟩
      · simp only [urlText, url_scheme, url_rest, url_port port absolute]
      · simp only [urlText, url_scheme, url_rest, url_path_behind_port port absolute]
        rfl
    · cases known

def hashService (written : String) (spelling : { host : String // (0x0A : UInt8) ∉ utf8 host }) :
    Service where
  directFirst := false
  strategy := .hash
  sha256 _ := Vector.replicate 32 0
  parseUrl := spellingUrl written spelling

def connectTo (authority : String) : ClientRequest where
  method := "CONNECT"
  uri := { authority := some authority, path := "", query := none }
  headers := []
  body := .ok []
  method_unbroken := connect_unbroken
  headers_well_formed := no_headers_well_formed

theorem lower_case_host_has_one_key :
    SameKey (hashService "example.com" ⟨"example.com", by decide⟩)
      (connectTo "example.com:443") (getRequest "/https://example.com:443/a?x=1") := by
  have isName : DomainName "example.com" := ⟨by decide, by decide, by decide⟩
  apply (one_key_iff_host_spelled (hashService "example.com" ⟨"example.com", by decide⟩)
    (spelling_url_parses "example.com" (by decide) ⟨"example.com", by decide⟩) ?_
    (connectTo "example.com:443") (getRequest "/https://example.com:443/a?x=1") true
    "example.com" "example.com" 443 "/a" (some "x=1") (.domain isName) rfl rfl (by decide)
    (by decide) rfl rfl rfl).1.mpr
  · decide
  · intro text spelling _ known
    unfold hostSpelled at known
    split at known
    · rename_i same
      cases known
      rw [same]
      exact .domain isName
    · cases known

/-- The key of `CONNECT [::1]:443` has no brackets, that of `/https://[::1]:443/` has. -/
theorem literal_has_two_keys :
    ¬ SameKey (hashService "[::1]" ⟨"[::1]", by decide⟩)
      (connectTo "[::1]:443") (getRequest "/https://[::1]:443/") := by
  have denotes : Denotes "::1" [0, 0, 0, 0, 0, 0, 0, 1] := by decide
  have connectKey : targetKey (hashService "[::1]" ⟨"[::1]", by decide⟩)
      (connectTo "[::1]:443") = some (hostPort "::1" 443) :=
    connect_key (.ipv6 denotes) (.literal denotes) rfl rfl
  have pathKey := path_key (hashService "[::1]" ⟨"[::1]", by decide⟩)
    (spelling_url_parses "[::1]" (by decide) ⟨"[::1]", by decide⟩)
    (getRequest "/https://[::1]:443/") true "[::1]" "[::1]" 443 "/" none rfl rfl (by decide)
    (by decide) rfl
  rintro ⟨key, first, second⟩
  have sameKey : hostPort "::1" 443 = hostPort "[::1]" 443 := by
    rw [connectKey] at first
    rw [pathKey] at second
    exact Option.some.inj (first.trans second.symm)
  have sameHost := (host_port_injective sameKey).1
  revert sameHost
  decide

end MultiProxy.SessionAffinity
