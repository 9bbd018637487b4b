import MultiProxy.HttpConnectTunnel
import MultiProxy.SessionAffinity
import MultiProxy.Socks5Tunnel

/-!
# IPv6 destinations at the consumers of the host

One text carries the host from two parsers to four consumers. The authority of a
CONNECT request gives a literal without its brackets, a URL gives it with them;
a CONNECT line needs the brackets and every other consumer has no use for them.
-/

namespace MultiProxy.Ipv6Destinations

open MultiProxy.RustRuntime MultiProxy.HostTexts MultiProxy.DuplexStream MultiProxy.UpstreamDsn
open MultiProxy.HttpConnectTunnel MultiProxy.ChannelHealth
open MultiProxy.InteractionPrograms MultiProxy.InteractionPrograms.Program
open MultiProxy.PathRequest MultiProxy.ProxyRequests MultiProxy.ChannelLoops
open MultiProxy.PathDestination MultiProxy.Authorities MultiProxy.SessionAffinity

set_option autoImplicit false

/-! ## Consumers -/

inductive Consumer where
  | connectLine
  | socks5Request
  | directTcpip
  | serverName
  deriving DecidableEq

/-- What `channel_open_direct_tcpip` is asked for. -/
structure DirectTcpip where
  hostToConnect : String
  portToConnect : UInt32
  originatorAddress : String
  originatorPort : UInt32
  deriving DecidableEq

def openDirectTcpip (dsn : SshDsn) (targetHost : String) (targetPort : UInt16) : DirectTcpip where
  hostToConnect := targetHost
  portToConnect := targetPort.toUInt32
  originatorAddress := dsn.host
  originatorPort := dsn.port.toUInt32

/-- The request line and the Host header both carry the authority. -/
def CarriesAuthority (authority text : String) : Prop :=
  ∃ rest, text = s!"CONNECT {authority} HTTP/1.1\r\nHost: {authority}\r\n" ++ rest

/-- Wherever the call hands a destination to the consumer, it denotes the address
and the port in the consumer's own syntax. -/
def HandsOver (base64 : List UInt8 → String) (address : List Nat) (port : UInt16) :
    Consumer → Call → Prop
  | .connectLine, .establish (.upstream _ (.http dsn)) host given =>
      ∃ literal, Denotes literal address ∧
        CarriesAuthority (hostPort (bracketed literal) port) (connectRequest base64 host given dsn)
  | .socks5Request, .establish (.upstream _ (.socks5 _)) host given =>
      ∃ literal, Denotes literal address ∧
        Socks5Tunnel.connectRequest host given = Socks5Tunnel.connectRequest literal port
  | .directTcpip, .establish (.upstream _ (.ssh dsn)) host given =>
      Denotes (openDirectTcpip dsn host given).hostToConnect address ∧
        (openDirectTcpip dsn host given).portToConnect = port.toUInt32
  | .serverName, .forward _ host isHttps _ => isHttps = true → Denotes host address
  | _, _ => True

inductive Style where
  | connect
  | path (isHttps : Bool)
  deriving DecidableEq

/-- The consumers that each style of request gets right. The TLS server name is
needed for `https` targets of the path style only. -/
def Right : Style → Consumer → Prop
  | .connect, consumer => consumer ≠ .connectLine
  | .path isHttps, consumer =>
      consumer = .connectLine ∨ (consumer = .serverName ∧ isHttps = false)

instance (style : Style) (consumer : Consumer) : Decidable (Right style consumer) :=
  match style with
  | .connect => inferInstanceAs (Decidable (_ ≠ _))
  | .path _ => inferInstanceAs (Decidable (_ ∨ _))

/-! ## What a host makes of the requests -/

theorem connect_request_carries (base64 : List UInt8 → String) (host : String) (port : UInt16)
    (dsn : HttpDsn) :
    CarriesAuthority (hostPort host port) (connectRequest base64 host port dsn) := by
  unfold connectRequest CarriesAuthority
  dsimp only
  split
  · exact ⟨_, String.append_assoc⟩
  · exact ⟨_, rfl⟩

theorem carried_authority_begins {host text : String} {port : UInt16}
    (carries : CarriesAuthority (hostPort host port) text) :
    ∃ behind, text = "CONNECT " ++ (host ++ behind) := by
  obtain ⟨rest, same⟩ := carries
  have rendered : ∀ authority : String,
      s!"CONNECT {authority} HTTP/1.1\r\nHost: {authority}\r\n" =
        "CONNECT " ++ authority ++ " HTTP/1.1\r\nHost: " ++ authority ++ "\r\n" := fun _ => rfl
  have authority : hostPort host port = host ++ ":" ++ Nat.repr port.toNat := rfl
  rw [rendered] at same
  nth_rewrite 1 [authority] at same
  simp only [String.append_assoc] at same
  exact ⟨_, same⟩

theorem bare_literal_not_carried {base64 : List UInt8 → String} {literal other : String}
    {address : List Nat} {given port : UInt16} {dsn : HttpDsn}
    (denotes : Denotes literal address) :
    ¬ CarriesAuthority (hostPort (bracketed other) port)
      (connectRequest base64 literal given dsn) := by
  intro carries
  obtain ⟨behind, bracket⟩ := carried_authority_begins carries
  obtain ⟨rest, bare⟩ :=
    carried_authority_begins (connect_request_carries base64 literal given dsn)
  have chars := congrArg String.toList (bare.symm.trans bracket)
  simp only [String.toList_append, bracketed_chars, List.append_cancel_left_eq] at chars
  apply (literal_without_bracket denotes).1
  cases same : literal.toList with
  | nil => exact absurd same (literal_nonempty denotes)
  | cons first others =>
      rw [same] at chars
      rw [(List.cons.inj chars).1]
      exact List.mem_cons_self

theorem bracketed_host_not_requested {literal other : String} {address : List Nat}
    {given port : UInt16} (denotes : Denotes literal address) :
    Socks5Tunnel.connectRequest (bracketed other) given ≠
      Socks5Tunnel.connectRequest literal port := by
  intro same
  simp only [Socks5Tunnel.connectRequest, List.cons_append, List.nil_append, List.cons.injEq,
    true_and] at same
  have hosts := (List.append_inj' same.2 rfl).1
  have bracket : (0x5B : UInt8) ∈ utf8 (bracketed other) := by
    rw [utf8, bracketed_chars]
    exact List.mem_cons_self
  rw [hosts] at bracket
  exact (literal_without_bracket denotes).1 (low_char_of_utf8 (by decide) (by decide) bracket)

theorem bracketed_not_denotes (literal : String) (address : List Nat) :
    ¬ Denotes (bracketed literal) address := by
  intro denotes
  apply (literal_without_bracket denotes).1
  rw [bracketed_chars]
  exact List.mem_cons_self

/-! ## What a request hands over -/

section Channels

variable {allowed : Call → Prop}

theorem channels_attempted {Value : Type} {attempt : Route → Proxy (Except String Value)}
    {later : String → Proxy (Except String Value)} {service : Service} {key lastErr : String}
    (calls : EveryCall allowed (snapshot >>= fun all =>
      orElse (channelLoop attempt (orderedChannels service.sha256 service.strategy all key) lastErr)
        later)) (dsn : Dsn) : EveryCall allowed (attempt (.upstream 0 dsn)) := by
  have single : orderedChannels service.sha256 service.strategy [Channel.new 0 dsn] key =
      [Channel.new 0 dsn] := by
    simp [orderedChannels]
  have listed : EveryCall allowed (orElse (channelLoop attempt (orderedChannels service.sha256
      service.strategy [Channel.new 0 dsn] key) lastErr) later) := calls.2 _
  have looped := every_call_of_bind listed
  rw [single, channel_loop_cons] at looped
  have turned : EveryCall allowed (turn attempt (Channel.new 0 dsn) (channelLoop attempt [])) :=
    looped.2 0
  exact every_call_of_bind turned

theorem acquire_tunnel_attempts {service : Service} {host : String} {port : UInt16}
    (calls : EveryCall allowed (acquireTunnel service host port)) (dsn : Dsn) :
    allowed (.establish (.upstream 0 dsn) host port) := by
  rw [acquireTunnel] at calls
  simp only [tunnel_through_is_loop] at calls
  cases first : service.directFirst with
  | true =>
      rw [first] at calls
      exact (channels_attempted (calls.2 (.error "")) dsn).1
  | false =>
      rw [first] at calls
      exact (channels_attempted calls dsn).1

theorem forward_attempts_attempt {service : Service} {target : Target} {bytes : List UInt8}
    (calls : EveryCall allowed (forwardAttempts target bytes service)) (dsn : Dsn) :
    allowed (.establish (.upstream 0 dsn) target.host target.port) := by
  rw [forwardAttempts] at calls
  simp only [forward_through_channels_is_loop] at calls
  cases first : service.directFirst with
  | true =>
      rw [first] at calls
      exact (channels_attempted (calls.2 (.error "")) dsn).1
  | false =>
      rw [first] at calls
      exact (channels_attempted calls dsn).1

end Channels

/-! ## The two styles -/

/-- The request asks for the literal and the port. -/
inductive Asks (request : ClientRequest) (literal : String) (port : UInt16) : Style → Prop where
  | connect (method : request.method = "CONNECT")
      (authority : request.uri.authority = some (hostPort (bracketed literal) port))
      (notHealth : request.uri.path ≠ "/health") : Asks request literal port .connect
  | path {isHttps : Bool} {urlPath : String} {query : Option String} {body : List UInt8}
      (asked : request.uri =
        uriOf (requestTarget isHttps (bracketed literal) (some port) urlPath query))
      (absolute : urlPath.toList.head? = some '/') (noMark : '?' ∉ urlPath.toList)
      (noFragment : '#' ∉ urlPath.toList) (collected : request.body = .ok body) :
      Asks request literal port (.path isHttps)

theorem connect_is_tunnel (service : Service) {request : ClientRequest} {literal : String}
    {address : List Nat} {port : UInt16} (denotes : Denotes literal address)
    (asks : Asks request literal port .connect) :
    handleRequest service request = handleConnect service literal port := by
  cases asks with
  | connect method authority notHealth =>
      have parsed := parse_bracketed_authority port (literal_without_bracket denotes).2
      have nonempty : hostPort (bracketed literal) port ≠ "" := by
        intro empty
        have chars := congrArg String.toList empty
        rw [host_port_chars] at chars
        simp at chars
      have tunnel : request.method = "CONNECT" ∧ request.uri.authority.getD "" ≠ "" := by
        rw [authority, Option.getD_some]
        exact ⟨method, nonempty⟩
      rw [handle_request_tunnels service notHealth tunnel, authority, Option.getD_some, parsed]

theorem connect_hands_over_iff {base64 : List UInt8 → String} {address : List Nat}
    {literal : String} {port : UInt16} {consumer : Consumer} (service : Service)
    (denotes : Denotes literal address) :
    EveryCall (HandsOver base64 address port consumer) (handleConnect service literal port) ↔
      Right .connect consumer := by
  constructor
  · intro calls line
    subst line
    obtain ⟨other, _, carries⟩ := acquire_tunnel_attempts (every_call_of_bind calls)
      (.http { host := "", port := 0, user := none, pass := none })
    exact bare_literal_not_carried denotes carries
  · intro right
    apply every_call_bind
    · apply acquire_tunnel_calls
      · intro route
        cases route with
        | direct => cases consumer <;> trivial
        | upstream id dsn =>
            cases consumer with
            | connectLine => exact absurd rfl right
            | socks5Request =>
                cases dsn with
                | socks5 dsn => exact ⟨literal, denotes, rfl⟩
                | _ => trivial
            | directTcpip =>
                cases dsn with
                | ssh dsn => exact ⟨denotes, rfl⟩
                | _ => trivial
            | serverName => trivial
      · cases consumer <;> exact ⟨trivial, trivial, fun _ _ => trivial⟩
    · intro outcome
      cases outcome <;> trivial

theorem path_hands_over_iff {base64 : List UInt8 → String} {service : Service}
    {request : ClientRequest} {target : Target} {body : List UInt8} {literal : String}
    {address : List Nat} {consumer : Consumer} (denotes : Denotes literal address)
    (targeted : pathTarget service.parseUrl request.uri = .ok target)
    (collected : request.body = .ok body) (spelled : target.host = bracketed literal) :
    EveryCall (HandsOver base64 address target.port consumer) (handlePathForward service request) ↔
      Right (.path target.isHttps) consumer := by
  rw [handle_path_forward_attempts targeted collected]
  constructor
  · intro calls
    have attempts := every_call_of_bind calls
    have attempted := forward_attempts_attempt attempts
    have exchanged := (forward_attempts_exchange attempts).2
    cases consumer with
    | connectLine => exact Or.inl rfl
    | socks5Request =>
        obtain ⟨other, otherDenotes, same⟩ := attempted
          (.socks5 { host := "", port := 0, user := none, pass := none })
        rw [spelled] at same
        exact absurd same (bracketed_host_not_requested otherDenotes)
    | directTcpip =>
        obtain ⟨hostDenotes, _⟩ := attempted (.ssh {
          user := ""
          pass := none
          host := ""
          port := 0
          keyPath := none
          keepalive := 0 })
        have bracketedDenotes : Denotes target.host address := hostDenotes
        rw [spelled] at bracketedDenotes
        exact absurd bracketedDenotes (bracketed_not_denotes literal address)
    | serverName =>
        refine Or.inr ⟨rfl, ?_⟩
        rw [Bool.eq_false_iff]
        intro isHttps
        have named := exchanged { incoming := [], sent := [], flushed := 0, writes := [] } isHttps
        rw [spelled] at named
        exact bracketed_not_denotes literal address named
  · intro right
    apply every_call_bind
    · apply forward_attempts_calls
      · intro route
        cases route with
        | direct => cases consumer <;> trivial
        | upstream id dsn =>
            obtain rfl | ⟨rfl, _⟩ := right
            · cases dsn with
              | http dsn =>
                  refine ⟨literal, denotes, ?_⟩
                  rw [← spelled]
                  exact connect_request_carries base64 target.host target.port dsn
              | _ => trivial
            · trivial
      · intro upstream
        obtain rfl | ⟨rfl, notHttps⟩ := right
        · trivial
        · intro isHttps
          rw [notHttps] at isHttps
          cases isHttps
      · cases consumer <;> exact ⟨trivial, trivial, fun _ _ => trivial⟩
    · intro attempted
      cases attempted <;> trivial

theorem target_is_forwarded {service : Service} {request : ClientRequest} {target : Target}
    (targeted : pathTarget service.parseUrl request.uri = .ok target)
    (noAuthority : request.uri.authority = none) :
    handleRequest service request = handlePathForward service request := by
  have notHealth : request.uri.path ≠ "/health" := by
    intro health
    have refused : parsePathTarget "/health" = .error
        "Invalid path format. Expected /https://target.com or CONNECT host:port HTTP/1.1" := rfl
    rw [pathTarget, health, refused] at targeted
    cases targeted
  apply handle_request_forwards service notHealth
  rintro ⟨_, named⟩
  rw [noAuthority] at named
  exact named rfl

section Request

variable (service : Service) {hostOf : String → Option String} {normalPath : String → String}
  (crate : ParsesUrls service.parseUrl hostOf normalPath)
  (spells : ∀ text spelling, Host text → hostOf text = some spelling →
    Spelled true text spelling)
  (base64 : List UInt8 → String) (request : ClientRequest) {literal spelling : String}
  {address : List Nat} (port : UInt16) (consumer : Consumer) (denotes : Denotes literal address)
  (known : hostOf (bracketed literal) = some spelling)

include crate spells denotes known

theorem path_style_hands_over_iff {isHttps : Bool}
    (asks : Asks request literal port (.path isHttps)) :
    EveryCall (HandsOver base64 address port consumer) (handleRequest service request) ↔
      Right (.path isHttps) consumer := by
  cases asks with
  | path asked absolute noMark noFragment collected =>
      rename_i urlPath query body
      obtain ⟨other, spelledOther, same⟩ :=
        spelled_literal denotes (spells _ _ (.ipv6 denotes) known)
      obtain ⟨target, targeted, sameHost, samePort, sameScheme, _⟩ := path_request_target service
        crate request isHttps (bracketed literal) spelling (some port) urlPath query known absolute
        noMark noFragment asked
      have noAuthority : request.uri.authority = none := by
        rw [asked]
        rfl
      rw [Option.getD_some] at samePort
      rw [target_is_forwarded targeted noAuthority, ← sameScheme, ← samePort]
      exact path_hands_over_iff same targeted collected (sameHost.trans spelledOther)

/-- A literal reaches a consumer in its own syntax exactly when the style and the
consumer agree on brackets. -/
theorem ipv6_destination_denoted_iff {style : Style} (asks : Asks request literal port style) :
    EveryCall (HandsOver base64 address port consumer) (handleRequest service request) ↔
      Right style consumer := by
  cases style with
  | connect =>
      rw [connect_is_tunnel service denotes asks]
      exact connect_hands_over_iff service denotes
  | path isHttps =>
      exact path_style_hands_over_iff service crate spells base64 request port consumer denotes
        known asks

end Request

theorem loopback_denoted : Denotes "::1" [0, 0, 0, 0, 0, 0, 0, 1] := by decide

theorem loopback_spelled (text spelling : String) (_ : Host text)
    (known : hostSpelled "[::1]" "[::1]" text = some spelling) : Spelled true text spelling := by
  unfold hostSpelled at known
  split at known
  · rename_i same
    cases known
    rw [same]
    exact .ipv6 loopback_denoted loopback_denoted
  · cases known

def loopbackService : Service := hashService "[::1]" ⟨"[::1]", by decide⟩

theorem asks_loopback_to_connect : Asks (connectTo "[::1]:443") "::1" 443 .connect :=
  .connect rfl rfl (by decide)

theorem asks_loopback_by_path : Asks (getRequest "/https://[::1]:443/") "::1" 443 (.path true) := by
  have asked : (getRequest "/https://[::1]:443/").uri =
      uriOf (requestTarget true (bracketed "::1") (some 443) "/" none) := rfl
  exact .path asked rfl (by decide) (by decide) rfl

/-- The SOCKS5 request of a CONNECT request carries the bare literal. -/
theorem connect_literal_in_socks5_request :
    EveryCall (HandsOver (fun _ => "") [0, 0, 0, 0, 0, 0, 0, 1] 443 .socks5Request)
      (handleRequest loopbackService (connectTo "[::1]:443")) :=
  (ipv6_destination_denoted_iff loopbackService
    (spelling_url_parses "[::1]" (by decide) ⟨"[::1]", by decide⟩) loopback_spelled (fun _ => "")
    (connectTo "[::1]:443") 443 .socks5Request loopback_denoted rfl
    asks_loopback_to_connect).mpr (by decide)

/-- `CONNECT [::1]:443` goes to an HTTP upstream as `CONNECT ::1:443`, and
`/https://[::1]:443/` names the server `[::1]` in the TLS handshake. -/
theorem literal_not_denoted :
    ¬ EveryCall (HandsOver (fun _ => "") [0, 0, 0, 0, 0, 0, 0, 1] 443 .connectLine)
        (handleRequest loopbackService (connectTo "[::1]:443")) ∧
      ¬ EveryCall (HandsOver (fun _ => "") [0, 0, 0, 0, 0, 0, 0, 1] 443 .serverName)
        (handleRequest loopbackService (getRequest "/https://[::1]:443/")) := by
  constructor
  · rw [connect_is_tunnel loopbackService loopback_denoted asks_loopback_to_connect,
      connect_hands_over_iff loopbackService loopback_denoted]
    decide
  · rw [path_style_hands_over_iff loopbackService
      (spelling_url_parses "[::1]" (by decide) ⟨"[::1]", by decide⟩) loopback_spelled (fun _ => "")
      (getRequest "/https://[::1]:443/") 443 .serverName loopback_denoted rfl asks_loopback_by_path]
    decide

end MultiProxy.Ipv6Destinations
