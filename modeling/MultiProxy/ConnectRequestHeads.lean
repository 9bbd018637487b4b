import MultiProxy.AuthorityGrammar
import MultiProxy.DsnCredentials
import MultiProxy.ForwardedHeads

/-!
# The head that is written to an upstream HTTP proxy

Destinations come from clients and credentials from the configuration, and both are
written into the CONNECT request. Read by the grammar of HTTP/1.1 it is one head that
says the destination and the credentials and nothing else.
-/

namespace MultiProxy.ConnectRequestHeads

open MultiProxy.RustRuntime MultiProxy.ByteScan MultiProxy.MessageFraming
open MultiProxy.UpstreamDsn MultiProxy.InteractionPrograms
open MultiProxy.InteractionPrograms.Program MultiProxy.PathRequest MultiProxy.ProxyRequests
open MultiProxy.ChannelLoops MultiProxy.ForwardedHeads MultiProxy.HttpConnectTunnel
open MultiProxy.DsnParsing MultiProxy.DsnCredentials MultiProxy.AuthorityGrammar

set_option autoImplicit false

/-! ## Base64 is visible -/

theorem base64_digit_visible {digit : Char} {value : Nat}
    (known : Base64.digitValue digit = some value) :
    0x21 ≤ digit.toNat ∧ digit.toNat ≤ 0x7E := by
  have isDigit : digit.isAlphanum = true ∨ digit = '+' ∨ digit = '/' := by
    rw [Base64.digitValue] at known
    simp only [Char.isAlphanum, Char.isAlpha, Bool.or_eq_true]
    split at known
    · exact .inl (.inl (.inl ‹_›))
    · split at known
      · exact .inl (.inl (.inr ‹_›))
      · split at known
        · exact .inl (.inr ‹_›)
        · split at known
          · exact .inr (.inl ‹_›)
          · split at known
            · exact .inr (.inr ‹_›)
            · cases known
  rcases isDigit with alphanumeric | rfl | rfl
  · exact alphanumeric_visible alphanumeric
  · decide
  · decide

theorem group_visible {first second third fourth : Char} {bytes : List UInt8}
    (decoded : Base64.decodeGroup first second third fourth = some bytes) :
    ∀ digit ∈ [first, second, third, fourth], 0x21 ≤ digit.toNat ∧ digit.toNat ≤ 0x7E := by
  rw [Base64.decodeGroup] at decoded
  split at decoded
  · simp only [List.mem_cons, List.not_mem_nil, or_false]
    rintro digit (rfl | rfl | rfl | rfl)
    all_goals exact base64_digit_visible (by assumption)
  · cases decoded

theorem padded_visible {first second third : Char} {bytes : List UInt8}
    (decoded : Base64.decodePadded first second third = some bytes) :
    ∀ digit ∈ [first, second, third, '='], 0x21 ≤ digit.toNat ∧ digit.toNat ≤ 0x7E := by
  rw [Base64.decodePadded] at decoded
  split at decoded
  · have thirdVisible : 0x21 ≤ third.toNat ∧ third.toNat ≤ 0x7E := by
      split at decoded
      · rename_i padding
        rw [padding]
        decide
      · split at decoded
        · exact base64_digit_visible (by assumption)
        · cases decoded
    simp only [List.mem_cons, List.not_mem_nil, or_false]
    rintro digit (rfl | rfl | rfl | rfl)
    · exact base64_digit_visible (by assumption)
    · exact base64_digit_visible (by assumption)
    · exact thirdVisible
    · decide
  · cases decoded

theorem decoded_visible (chars : List Char) (bytes : List UInt8)
    (decoded : Base64.decode chars = some bytes) :
    ∀ digit ∈ chars, 0x21 ≤ digit.toNat ∧ digit.toNat ≤ 0x7E := by
  fun_induction Base64.decode chars generalizing bytes with
  | case1 => exact List.forall_mem_nil _
  | case2 first second third =>
      intro digit member
      exact padded_visible decoded digit member
  | case3 => cases decoded
  | case4 first second third fourth rest notPadding group others decodedRest known ih =>
      intro digit member
      rcases List.mem_append.mp (show digit ∈ [first, second, third, fourth] ++ rest
          from member) with
        here | later
      · exact group_visible known digit here
      · exact ih others decodedRest digit later
  | case5 => cases decoded
  | case6 => cases decoded

/-! ## The request as a head -/

section Head

variable (base64 : List UInt8 → String) (host : String) (port : UInt16) (dsn : HttpDsn)

/-- The credentials, when the DSN has both parts of them. -/
def authorization : List Field :=
  match dsn.user, dsn.pass with
  | some user, some pass =>
      [{ name := utf8 "Proxy-Authorization"
         value := utf8 "Basic " ++ utf8 (base64 (utf8 (user ++ ":" ++ pass))) }]
  | _, _ => []

def connectFields : List Field :=
  { name := utf8 "Host", value := utf8 (hostPort host port) } :: authorization base64 dsn

def spaced (field : Field) : Field := { field with value := 0x20 :: field.value }

theorem head_line_and_host :
    utf8 (requestHead host port) =
      utf8 s!"CONNECT {hostPort host port} HTTP/1.1" ++ crlf ++
        (fieldLine (spaced { name := utf8 "Host", value := utf8 (hostPort host port) }) ++
          crlf) := by
  have rendered : requestHead host port =
      "CONNECT " ++ hostPort host port ++ " HTTP/1.1\r\nHost: " ++
        hostPort host port ++ "\r\n" := rfl
  have line : s!"CONNECT {hostPort host port} HTTP/1.1" =
      "CONNECT " ++ hostPort host port ++ " HTTP/1.1" := rfl
  have between : utf8 " HTTP/1.1\r\nHost: " =
      utf8 " HTTP/1.1" ++ crlf ++ utf8 "Host" ++ [0x3A, 0x20] := by
    decide
  have lineEnd : utf8 "\r\n" = crlf := by decide
  rw [rendered, line]
  simp only [utf8_append, between, lineEnd, fieldLine, spaced, List.append_assoc]
  rfl

theorem authorization_line (value : String) :
    utf8 s!"Proxy-Authorization: Basic {value}\r\n" =
      fieldLine (spaced
        { name := utf8 "Proxy-Authorization", value := utf8 "Basic " ++ utf8 value }) ++ crlf := by
  have rendered : s!"Proxy-Authorization: Basic {value}\r\n" =
      "Proxy-Authorization: Basic " ++ value ++ "\r\n" := rfl
  have front : utf8 "Proxy-Authorization: Basic " =
      utf8 "Proxy-Authorization" ++ 0x3A :: 0x20 :: utf8 "Basic " := by
    decide
  have lineEnd : utf8 "\r\n" = crlf := by decide
  rw [rendered, utf8_append, utf8_append, front, lineEnd]
  simp [fieldLine, spaced]

theorem authorization_cases :
    (∃ user pass, dsn.user = some user ∧ dsn.pass = some pass) ∨
      (connectRequest base64 host port dsn = requestHead host port ++ "\r\n" ∧
        authorization base64 dsn = []) := by
  unfold connectRequest authorization
  cases dsn.user with
  | none => exact .inr ⟨rfl, rfl⟩
  | some user =>
      cases dsn.pass with
      | none => exact .inr ⟨rfl, rfl⟩
      | some pass => exact .inl ⟨user, pass, rfl, rfl⟩

theorem connect_request_section :
    utf8 (connectRequest base64 host port dsn) =
      utf8 s!"CONNECT {hostPort host port} HTTP/1.1" ++ crlf ++
        (fieldSection ((connectFields base64 host port dsn).map spaced) ++ []) := by
  have lineEnd : utf8 "\r\n" = crlf := by decide
  rcases authorization_cases base64 host port dsn with
    ⟨user, pass, hasUser, hasPass⟩ | ⟨plain, none⟩
  · have authorized : authorization base64 dsn =
        [{ name := utf8 "Proxy-Authorization"
           value := utf8 "Basic " ++ utf8 (base64 (utf8 (user ++ ":" ++ pass))) }] := by
      rw [authorization, hasUser, hasPass]
    rw [authorized_request base64 host port hasUser hasPass, authorizedRequest, utf8_append,
      utf8_append, head_line_and_host, authorization_line, lineEnd, connectFields, authorized]
    simp [fieldSection, spaced]
  · rw [plain, utf8_append, head_line_and_host, lineEnd, connectFields, none]
    simp [fieldSection, spaced]

variable {base64 host}

theorem host_port_printable (printable : ∀ byte ∈ utf8 host, isTargetByte byte = true) :
    ∀ byte ∈ utf8 (hostPort host port), isTargetByte byte = true := by
  have rendered : utf8 (hostPort host port) =
      utf8 host ++ (utf8 ":" ++ utf8 (Nat.repr port.toNat)) := by
    rw [← utf8_append, ← utf8_append, ← String.append_assoc]
    rfl
  have colon : ∀ byte ∈ utf8 ":", isTargetByte byte = true := by decide
  rw [rendered]
  intro byte member
  rcases List.mem_append.mp member with inHost | behindHost
  · exact printable byte inHost
  · rcases List.mem_append.mp behindHost with inColon | inPort
    · exact colon byte inColon
    · exact decimal_printable _ byte inPort

/-- Visible text in front of visible text, with a blank between them, is not trimmed. -/
theorem basic_value_kept {value : List UInt8} (nonempty : value ≠ [])
    (printable : ∀ byte ∈ value, isTargetByte byte = true) :
    trimOws (utf8 "Basic " ++ value) = utf8 "Basic " ++ value := by
  have front : (utf8 "Basic " ++ value).dropWhile isOws = utf8 "Basic " ++ value := rfl
  rw [trimOws, front, List.rdropWhile_eq_self_iff]
  intro _
  rw [List.getLast_append_of_ne_nil _ nonempty]
  have visible := printable _ (List.getLast_mem nonempty)
  intro blank
  simp only [isTargetByte, isOws, decide_eq_true_eq] at visible blank
  rcases blank with space | tab
  · rw [space] at visible
    exact absurd visible.1 (by decide)
  · rw [tab] at visible
    exact absurd visible.1 (by decide)

theorem encoded_printable (encodes : Encodes base64) (bytes : List UInt8) :
    ∀ byte ∈ utf8 (base64 bytes), isTargetByte byte = true := by
  have visible := decoded_visible (base64 bytes).toList bytes (encodes bytes)
  have ascii := utf8_of_ascii fun digit member => (visible digit member).2.trans_lt (by decide)
  intro byte member
  rw [ascii] at member
  obtain ⟨digit, inText, rfl⟩ := List.mem_map.mp member
  have range := visible digit inText
  have code : (UInt8.ofNat digit.toNat).toNat = digit.toNat :=
    Nat.mod_eq_of_lt (range.2.trans_lt (by decide))
  simp only [isTargetByte, decide_eq_true_eq, UInt8.le_iff_toNat_le, ← UInt8.toNat_inj,
    UInt8.reduceToNat, ne_eq, code]
  omega

theorem encoded_nonempty (encodes : Encodes base64) {bytes : List UInt8} (nonempty : bytes ≠ []) :
    utf8 (base64 bytes) ≠ [] := by
  intro empty
  have noText : base64 bytes = "" := LossyText.utf8_injective empty
  have decoded := encodes bytes
  rw [noText] at decoded
  cases decoded
  exact nonempty rfl

end Head

theorem credentials_nonempty (user pass : String) : utf8 (user ++ ":" ++ pass) ≠ [] := by
  have colon : utf8 ":" = [0x3A] := by decide
  rw [utf8_append, utf8_append, colon]
  simp

section Parsed

variable {base64 : List UInt8 → String} (encodes : Encodes base64) {host : String}
  (printable : ∀ byte ∈ utf8 host, isTargetByte byte = true) (port : UInt16) (dsn : HttpDsn)

include encodes printable

theorem connect_fields_kept :
    ∀ field ∈ connectFields base64 host port dsn,
      WellFormed (spaced field) ∧ (spaced field).trimmed = field := by
  have kept : ∀ name value, isToken name = true → trimOws value = value →
      (0x0A : UInt8) ∉ value → WellFormed (spaced ⟨name, value⟩) ∧
        (spaced ⟨name, value⟩).trimmed = ⟨name, value⟩ := by
    intro name value token trimmed unbroken
    refine ⟨⟨token, ?_⟩, ?_⟩
    · simpa [spaced] using unbroken
    · rw [spaced, Field.trimmed, trim_ows_space, trimmed]
  have hostPrintable := host_port_printable port printable
  intro field member
  rcases List.mem_cons.mp member with rfl | authorized
  · exact kept _ _ (by decide) (printable_trimmed hostPrintable)
      (printable_unbroken hostPrintable).2.1
  · rw [authorization] at authorized
    split at authorized
    · rename_i user pass _ _
      rw [List.mem_singleton.mp authorized]
      have codePrintable := encoded_printable encodes (utf8 (user ++ ":" ++ pass))
      apply kept _ _ (by decide)
      · exact basic_value_kept (encoded_nonempty encodes (credentials_nonempty user pass))
          codePrintable
      · intro lineFeed
        rcases List.mem_append.mp lineFeed with basic | inCode
        · exact absurd basic (by decide)
        · exact (printable_unbroken codePrintable).2.1 inCode
    · cases authorized

theorem connect_request_parsed :
    parseHead (utf8 (connectRequest base64 host port dsn)) =
        some (utf8 s!"CONNECT {hostPort host port} HTTP/1.1",
          connectFields base64 host port dsn, []) ∧
      parseRequestLine (utf8 s!"CONNECT {hostPort host port} HTTP/1.1") = some {
        method := utf8 "CONNECT"
        target := utf8 (hostPort host port)
        version := utf8 "HTTP/1.1" } := by
  have hostPrintable := host_port_printable port printable
  have kept := connect_fields_kept encodes printable port dsn
  have parts : utf8 s!"CONNECT {hostPort host port} HTTP/1.1" =
      utf8 "CONNECT" ++ 0x20 :: (utf8 (hostPort host port) ++ 0x20 :: utf8 "HTTP/1.1") :=
    request_line_parts "CONNECT" (hostPort host port)
  have wellFormed : ∀ field ∈ (connectFields base64 host port dsn).map spaced,
        WellFormed field := by
    intro field member
    obtain ⟨original, inFields, rfl⟩ := List.mem_map.mp member
    exact (kept original inFields).1
  have trimmed : ((connectFields base64 host port dsn).map spaced).map Field.trimmed =
      connectFields base64 host port dsn := by
    rw [List.map_map]
    exact List.map_congr_left (fun field member => (kept field member).2) |>.trans (List.map_id _)
  constructor
  · have unbroken : (0x0A : UInt8) ∉ utf8 s!"CONNECT {hostPort host port} HTTP/1.1" := by
      rw [parts]
      intro member
      rcases List.mem_append.mp member with inMethod | behind
      · exact absurd inMethod (by decide)
      · rcases List.mem_cons.mp behind with space | behind
        · exact absurd space (by decide)
        · rcases List.mem_append.mp behind with inTarget | inVersion
          · exact (printable_unbroken hostPrintable).2.1 inTarget
          · exact absurd inVersion (by decide)
    rw [connect_request_section, parse_head_section _ _ _ unbroken wellFormed, trimmed]
  · rw [parts]
    apply parse_request_line_parts (by decide) _ hostPrintable (by decide)
    intro empty
    have chars := congrArg String.toList (LossyText.utf8_injective
        (empty.trans (by rfl : [] = utf8 "")))
    rw [host_port_chars] at chars
    simp at chars

end Parsed

/-! ## Whatever is asked for -/

/-- The bytes that ask an upstream for a destination say that, the DSN's credentials,
and nothing besides. -/
structure SaysDestination (base64 : List UInt8 → String) (host : String) (port : UInt16)
    (dsn : HttpDsn) : Prop where
  head : ∃ line, parseHead (utf8 (connectRequest base64 host port dsn)) =
      some (line, connectFields base64 host port dsn, []) ∧
    parseRequestLine line = some {
      method := utf8 "CONNECT"
      target := utf8 (hostPort host port)
      version := utf8 "HTTP/1.1" }
  host_once : fieldValues (utf8 "host") (connectFields base64 host port dsn) =
    [utf8 (hostPort host port)]
  credentials : ∀ user pass, dsn.user = some user → dsn.pass = some pass → ∃ code : String,
    fieldValues (utf8 "proxy-authorization") (connectFields base64 host port dsn) =
        [utf8 "Basic " ++ utf8 code] ∧
      Base64.decode code.toList = some (utf8 (user ++ ":" ++ pass))
  no_credentials : dsn.user = none ∨ dsn.pass = none →
    connectFields base64 host port dsn =
      [{ name := utf8 "Host", value := utf8 (hostPort host port) }]

theorem says_destination {base64 : List UInt8 → String} (encodes : Encodes base64) {host : String}
    (printable : ∀ byte ∈ utf8 host, isTargetByte byte = true) (port : UInt16) (dsn : HttpDsn) :
    SaysDestination base64 host port dsn := by
  have hostTrimmed := printable_trimmed (host_port_printable port printable)
  have hostIsHost : eqIgnoreAsciiCase (utf8 "Host") (utf8 "host") = true := by decide
  have hostIsOther : eqIgnoreAsciiCase (utf8 "Host") (utf8 "proxy-authorization") = false := by
    decide
  have codeIsOther : eqIgnoreAsciiCase (utf8 "Proxy-Authorization") (utf8 "host") = false := by
    decide
  have codeIsCode : eqIgnoreAsciiCase (utf8 "Proxy-Authorization") (utf8 "proxy-authorization") =
      true := by
    decide
  constructor
  · exact ⟨_, connect_request_parsed encodes printable port dsn⟩
  · unfold connectFields authorization
    split
    · simp [fieldValues, hostIsHost, codeIsOther, hostTrimmed]
    · simp [fieldValues, hostIsHost, hostTrimmed]
  · intro user pass hasUser hasPass
    have valueKept := basic_value_kept (encoded_nonempty encodes (credentials_nonempty user pass))
      (encoded_printable encodes (utf8 (user ++ ":" ++ pass)))
    refine ⟨base64 (utf8 (user ++ ":" ++ pass)), ?_, encodes _⟩
    rw [connectFields, authorization, hasUser, hasPass]
    simp only [fieldValues, List.filterMap_cons, List.filterMap_nil, hostIsOther, codeIsCode,
      if_true, Bool.false_eq_true, if_false, valueKept]
  · intro missing
    unfold connectFields authorization
    rcases missing with noUser | noPass
    · rw [noUser]
    · rw [noPass]
      cases dsn.user <;> rfl

def AsksUpstream (base64 : List UInt8 → String) : Call → Prop
  | .establish (.upstream _ (.http dsn)) host port => SaysDestination base64 host port dsn
  | _ => True

theorem accepted_host_chars {authority host : String} {port : UInt16}
    (accepted : parseAuthority authority = .ok (host, port)) :
    ∀ character ∈ host.toList, character ∈ authority.toList := by
  intro character member
  by_cases bracket : authority.toList.head? = some '['
  · obtain ⟨inner, start⟩ := List.head?_eq_some_iff.mp bracket
    obtain ⟨colons, number, bracketed⟩ := accepted_in_brackets start accepted
    rw [bracketed.form]
    simp [member]
  · obtain ⟨number, plain⟩ := accepted_plainly bracket accepted
    rw [plain.form]
    exact List.mem_append_left _ member

theorem accepted_host_printable {uri : Uri} {host : String} {port : UInt16}
    (authority : ∀ text ∈ uri.authority, ∀ byte ∈ utf8 text, isTargetByte byte = true)
    (accepted : parseAuthority (uri.authority.getD "") = .ok (host, port)) :
    ∀ byte ∈ utf8 host, isTargetByte byte = true := by
  intro byte member
  obtain ⟨character, inHost, encoded⟩ := List.mem_flatMap.mp member
  have inAuthority : byte ∈ utf8 (uri.authority.getD "") :=
    List.mem_flatMap.mpr ⟨character, accepted_host_chars accepted character inHost, encoded⟩
  cases given : uri.authority with
  | none =>
      rw [given] at inAuthority
      cases inAuthority
  | some text =>
      rw [given] at inAuthority
      exact authority text given byte inAuthority

/-- Whatever a client asks for, with an authority and URLs as hyper and the url crate
hand them over, and whatever credentials the DSNs have: no upstream HTTP proxy is sent
anything but one head that names the destination. -/
theorem upstreams_are_asked_for_destinations {service : Service}
    (crate : PrintsUrls service.parseUrl) {base64 : List UInt8 → String}
    (encodes : Encodes base64) (request : ClientRequest)
    (authority : ∀ text ∈ request.uri.authority, ∀ byte ∈ utf8 text, isTargetByte byte = true) :
    EveryCall (AsksUpstream base64) (handleRequest service request) := by
  have bookkeeping : Bookkeeping (AsksUpstream base64) := ⟨trivial, trivial, fun _ _ => trivial⟩
  have establishes : ∀ host port, (∀ byte ∈ utf8 host, isTargetByte byte = true) →
      ∀ route, AsksUpstream base64 (.establish route host port) := by
    intro host port printable route
    cases route with
    | direct => trivial
    | upstream id dsn =>
        cases dsn with
        | http dsn => exact says_destination encodes printable port dsn
        | _ => trivial
  by_cases health : request.uri.path = "/health"
  · unfold handleRequest
    rw [if_pos health]
    exact ⟨trivial, fun _ => ⟨trivial, fun _ => ⟨trivial, fun _ => trivial⟩⟩⟩
  · by_cases tunnel : request.method = "CONNECT" ∧ request.uri.authority.getD "" ≠ ""
    · rw [handle_request_tunnels service health tunnel]
      cases accepted : parseAuthority (request.uri.authority.getD "") with
      | error message => trivial
      | ok destination =>
          obtain ⟨host, port⟩ := destination
          have printable : ∀ byte ∈ utf8 host, isTargetByte byte = true :=
            accepted_host_printable authority accepted
          apply every_call_bind (acquire_tunnel_calls (establishes host port printable) bookkeeping
            service)
          intro outcome
          cases outcome <;> trivial
    · rw [handle_request_forwards service health tunnel]
      cases targeted : pathTarget service.parseUrl request.uri with
      | error rejection =>
          unfold handlePathForward
          rw [targeted]
          cases rejection <;> trivial
      | ok target =>
          cases collected : request.body with
          | error message =>
              unfold handlePathForward
              simp only [targeted, collected]
              trivial
          | ok body =>
              have printable := target_host_printable crate targeted
              rw [forward_calls_iff targeted collected bookkeeping
                (establishes target.host target.port printable)]
              exact fun _ => trivial

def rootRequest : ClientRequest := PathDestination.getRequest "/http://example.com/"

theorem root_request_has_no_authority : rootRequest.uri.authority = none := rfl

theorem root_is_asked_for :
    EveryCall (AsksUpstream standardBase64) (handleRequest (rootService none) rootRequest) := by
  apply upstreams_are_asked_for_destinations (root_printed none) standard_base64_encodes
  rw [root_request_has_no_authority]
  intro text given
  cases given

end MultiProxy.ConnectRequestHeads
