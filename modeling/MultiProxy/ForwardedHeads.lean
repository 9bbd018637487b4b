import MultiProxy.MalformedTargets

/-!
# The head that path-style forwarding writes

Whatever route a path-style request takes, the bytes it writes are the ones built
from its target, its headers and its body. Read by the grammar of HTTP/1.1 they
are one request line, the client's fields without the connection fields, one
field that closes the connection, and the body.
-/

namespace MultiProxy.ForwardedHeads

open MultiProxy.RustRuntime MultiProxy.ByteScan MultiProxy.MessageFraming MultiProxy.DuplexStream
open MultiProxy.UpstreamDsn MultiProxy.InteractionPrograms
open MultiProxy.InteractionPrograms.Program MultiProxy.PathRequest MultiProxy.ProxyRequests
open MultiProxy.ChannelLoops MultiProxy.PathDestination MultiProxy.MalformedTargets

set_option autoImplicit false

/-! ## What is written -/

/-- A call that writes a request writes bytes of which this holds. -/
def Writes (said : List UInt8 → Prop) : Call → Prop
  | .forward _ _ _ bytes => said bytes
  | _ => True

/-- Connections go to the target, every attempt on every route writes the same
bytes, and some replies lead to one. -/
theorem forward_calls_iff {allowed : Call → Prop} {service : Service} {request : ClientRequest}
    {target : Target} {body : List UInt8}
    (targeted : pathTarget service.parseUrl request.uri = .ok target)
    (collected : request.body = .ok body) (bookkeeping : Bookkeeping allowed)
    (establishes : ∀ route, allowed (.establish route target.host target.port)) :
    EveryCall allowed (handlePathForward service request) ↔
      ∀ upstream, allowed (.forward upstream target.host target.isHttps
        (requestBytes request.method target request.headers body)) := by
  rw [handle_path_forward_attempts targeted collected]
  constructor
  · intro calls
    exact (forward_attempts_exchange (every_call_of_bind calls)).2
  · intro exchanges
    apply every_call_bind (forward_attempts_calls establishes exchanges bookkeeping service)
    intro attempted
    cases attempted <;> trivial

theorem writes_iff {service : Service} {request : ClientRequest} {target : Target}
    {body : List UInt8} (targeted : pathTarget service.parseUrl request.uri = .ok target)
    (collected : request.body = .ok body) (said : List UInt8 → Prop) :
    EveryCall (Writes said) (handlePathForward service request) ↔
      said (requestBytes request.method target request.headers body) := by
  rw [forward_calls_iff targeted collected ⟨trivial, trivial, fun _ _ => trivial⟩
    (fun _ => trivial)]
  constructor
  · intro written
    exact written { incoming := [], sent := [], flushed := 0, writes := [] }
  · intro written _
    exact written

/-! ## Targets out of URLs -/

/-- The url crate on `http` and `https` URLs: the path is absolute, and what is
serialised has no space and no control character in it. -/
structure PrintsUrls (parseUrl : String → Except String Url) : Prop where
  absolute : ∀ isHttps behind parsed, parseUrl (schemeText isHttps ++ behind) = .ok parsed →
    parsed.path.toList.head? = some '/'
  path : ∀ isHttps behind parsed, parseUrl (schemeText isHttps ++ behind) = .ok parsed →
    ∀ byte ∈ utf8 parsed.path, isTargetByte byte = true
  query : ∀ isHttps behind parsed, parseUrl (schemeText isHttps ++ behind) = .ok parsed →
    ∀ query ∈ parsed.query, ∀ byte ∈ utf8 query, isTargetByte byte = true
  host : ∀ isHttps behind parsed, parseUrl (schemeText isHttps ++ behind) = .ok parsed →
    ∀ host ∈ parsed.hostStr, ∀ byte ∈ utf8 host, isTargetByte byte = true

theorem target_of_url {parseUrl : String → Except String Url} {uri : Uri} {target : Target}
    (targeted : pathTarget parseUrl uri = .ok target) :
    ∃ behind parsed, parseUrl (schemeText target.isHttps ++ behind) = .ok parsed ∧
      parsed.hostStr = some target.host ∧ target.requestPath = requestPath parsed ∧
        target.port = parsed.port.getD (defaultPort target.isHttps) := by
  by_cases prefixed : Prefixed uri.path
  · obtain ⟨isHttps, behind, path⟩ := prefixed
    have scheme : (!startsWith (schemeText isHttps ++ behind) "http://" &&
        !startsWith (schemeText isHttps ++ behind) "https://") = false := by
      cases isHttps with
      | false => simp [schemeText, starts_with_append]
      | true => simp [schemeText, starts_with_append]
    simp only [pathTarget, path, path_target_parsed, scheme, Bool.false_eq_true, if_false]
      at targeted
    cases parses : parseUrl (schemeText isHttps ++ behind) with
    | error message =>
        rw [parses] at targeted
        cases targeted
    | ok parsed =>
        simp only [parses] at targeted
        split at targeted
        · cases targeted
        · rename_i host named
          cases targeted
          exact ⟨behind, parsed, parses, named, rfl, rfl⟩
  · obtain ⟨message, refused⟩ := path_target_of_no_prefix parseUrl prefixed
    rw [refused] at targeted
    cases targeted

section Target

variable {parseUrl : String → Except String Url} (crate : PrintsUrls parseUrl) {uri : Uri}
  {target : Target} (targeted : pathTarget parseUrl uri = .ok target)

include crate targeted

theorem request_path_printable :
    utf8 target.requestPath ≠ [] ∧ ∀ byte ∈ utf8 target.requestPath, isTargetByte byte = true := by
  obtain ⟨behind, parsed, parses, _, path, _⟩ := target_of_url targeted
  have absolute := crate.absolute _ _ _ parses
  have inPath := crate.path _ _ _ parses
  have inQuery := crate.query _ _ _ parses
  have mark : ∀ byte ∈ utf8 "?", isTargetByte byte = true := by decide
  have nonempty : utf8 parsed.path ≠ [] := by
    intro empty
    have noPath : parsed.path = "" := LossyText.utf8_injective empty
    rw [noPath] at absolute
    cases absolute
  rw [path, requestPath]
  cases asked : parsed.query with
  | none => exact ⟨nonempty, inPath⟩
  | some query =>
      have joined : utf8 s!"{parsed.path}?{query}" =
          utf8 parsed.path ++ (utf8 "?" ++ utf8 query) := by
        rw [← utf8_append, ← utf8_append, ← String.append_assoc]
        rfl
      simp only [joined, ne_eq, List.append_eq_nil_iff, nonempty, false_and, not_false_eq_true,
        true_and]
      intro byte member
      rcases List.mem_append.mp member with front | behindPath
      · exact inPath byte front
      · rcases List.mem_append.mp behindPath with inMark | back
        · exact mark byte inMark
        · exact inQuery query asked byte back

theorem target_host_printable : ∀ byte ∈ utf8 target.host, isTargetByte byte = true := by
  obtain ⟨behind, parsed, parses, named, _, _⟩ := target_of_url targeted
  exact crate.host _ _ _ parses _ named

end Target

/-! ## The fields that are passed on -/

/-- `Connection`, `Keep-Alive` and `Proxy-Connection`, in any letter case. -/
def isConnectionHeader (header : Field) : Bool :=
  eqIgnoreAsciiCase header.name (utf8 "connection") ||
    eqIgnoreAsciiCase header.name (utf8 "keep-alive") ||
      eqIgnoreAsciiCase header.name (utf8 "proxy-connection")

/-- The value that a `Host` header is given. -/
def hostValue (target : Target) : List UInt8 :=
  if target.port = 443 then utf8 target.host else utf8 (hostPort target.host target.port)

def withTargetHost (target : Target) (header : Field) : Field :=
  if eqIgnoreAsciiCase header.name (utf8 "host") then
    { name := utf8 "Host", value := hostValue target }
  else header

def closeField : Field where
  name := utf8 "Connection"
  value := utf8 "close"

/-- The client's header list as it is meant to arrive at the target. -/
def passedOn (target : Target) (headers : List Field) : List Field :=
  (headers.filter fun header => !isConnectionHeader header).map (withTargetHost target) ++
    [closeField]

theorem connection_header_is_not_host {header : Field}
    (host : eqIgnoreAsciiCase header.name (utf8 "host") = true) :
    isConnectionHeader header = false := by
  have other : ∀ name, eqIgnoreAsciiCase (utf8 "host") name = false →
      eqIgnoreAsciiCase header.name name = false := by
    intro name different
    rw [Bool.eq_false_iff]
    intro same
    rw [case_equal_names host same] at different
    cases different
  rw [isConnectionHeader, other _ (by decide), other _ (by decide), other _ (by decide)]
  rfl

theorem forwarded_field_trimmed (target : Target) (header : Field) :
    (forwardedField target.host target.port header).map Field.trimmed =
      if isConnectionHeader header then none
      else some (withTargetHost target header).trimmed := by
  rw [forwardedField, withTargetHost]
  by_cases host : eqIgnoreAsciiCase header.name (utf8 "host") = true
  · rw [if_pos host, if_pos host, connection_header_is_not_host host]
    rfl
  · rw [if_neg host, if_neg host]
    change Option.map Field.trimmed (if isConnectionHeader header then none else _) = _
    split
    · rfl
    · rfl

theorem forwarded_fields_trimmed (target : Target) (headers : List Field) :
    (forwardedFields target headers).map Field.trimmed =
      (passedOn target headers).map Field.trimmed := by
  have copied : (headers.filterMap (forwardedField target.host target.port)).map Field.trimmed =
      ((headers.filter fun header => !isConnectionHeader header).map
        (withTargetHost target)).map Field.trimmed := by
    induction headers with
    | nil => rfl
    | cons header headers ih =>
        have here := forwarded_field_trimmed target header
        by_cases connection : isConnectionHeader header = true
        · rw [if_pos connection] at here
          rw [List.filterMap_cons_none (Option.map_eq_none_iff.mp here), ih,
            List.filter_cons_of_neg (by simp [connection])]
        · rw [if_neg connection] at here
          obtain ⟨field, passed, same⟩ := Option.map_eq_some_iff.mp here
          rw [List.filterMap_cons_some passed, List.map_cons, ih, same,
            List.filter_cons_of_pos (by simp [connection]), List.map_cons, List.map_cons]
  rw [forwardedFields, passedOn, List.map_append, List.map_append, copied]
  rfl

theorem written_head_parsed (request : ClientRequest) (target : Target) (body : List UInt8) :
    parseHead (requestBytes request.method target request.headers body) =
      some (utf8 s!"{request.method} {target.requestPath} HTTP/1.1",
        (passedOn target request.headers).map Field.trimmed, body) := by
  rw [request_bytes_section, parse_head_section _ _ _ (start_line_unbroken request target)
    (forwarded_fields_well_formed target request.headers_well_formed), forwarded_fields_trimmed]

/-! ## Nothing else on the lines -/

/-- Free of carriage returns, line feeds and null bytes. -/
def Unbroken (text : List UInt8) : Prop :=
  (0x0D : UInt8) ∉ text ∧ (0x0A : UInt8) ∉ text ∧ (0x00 : UInt8) ∉ text

instance (text : List UInt8) : Decidable (Unbroken text) := inferInstanceAs (Decidable (_ ∧ _))

theorem Unbroken.append {front back : List UInt8} (frontUnbroken : Unbroken front)
    (backUnbroken : Unbroken back) : Unbroken (front ++ back) := by
  simp only [Unbroken, List.mem_append, not_or] at frontUnbroken backUnbroken ⊢
  exact ⟨⟨frontUnbroken.1, backUnbroken.1⟩, ⟨frontUnbroken.2.1, backUnbroken.2.1⟩,
    ⟨frontUnbroken.2.2, backUnbroken.2.2⟩⟩

theorem printable_unbroken {text : List UInt8}
    (printable : ∀ byte ∈ text, isTargetByte byte = true) : Unbroken text := by
  have absent : ∀ byte : UInt8, isTargetByte byte = false → byte ∉ text := by
    intro byte control member
    rw [printable byte member] at control
    cases control
  exact ⟨absent _ (by decide), absent _ (by decide), absent _ (by decide)⟩

theorem token_printable {name : List UInt8} (token : isToken name = true) :
    ∀ byte ∈ name, isTargetByte byte = true := by
  intro byte member
  obtain ⟨above, below⟩ := StreamingResponse.token_visible token byte member
  have notDelete : byte ≠ 0x7F := by
    intro same
    rw [same] at below
    exact absurd below (by decide)
  simp only [isTargetByte, decide_eq_true_eq]
  exact ⟨above, notDelete⟩

theorem decimal_printable (number : Nat) :
    ∀ byte ∈ utf8 (Nat.repr number), isTargetByte byte = true := by
  intro byte member
  rw [utf8_of_decimal] at member
  obtain ⟨character, inText, rfl⟩ := List.mem_map.mp member
  have range := decimal_digit_range inText
  have code : (UInt8.ofNat character.toNat).toNat = character.toNat :=
    Nat.mod_eq_of_lt (range.2.trans_lt (by decide))
  simp only [isTargetByte, decide_eq_true_eq, UInt8.le_iff_toNat_le, ← UInt8.toNat_inj,
    UInt8.reduceToNat, ne_eq, code]
  omega

theorem host_value_printable {target : Target}
    (printable : ∀ byte ∈ utf8 target.host, isTargetByte byte = true) :
    ∀ byte ∈ hostValue target, isTargetByte byte = true := by
  have colon : ∀ byte ∈ utf8 ":", isTargetByte byte = true := by decide
  have rendered : utf8 (hostPort target.host target.port) =
      utf8 target.host ++ (utf8 ":" ++ utf8 (Nat.repr target.port.toNat)) := by
    rw [← utf8_append, ← utf8_append, ← String.append_assoc]
    rfl
  rw [hostValue]
  split
  · exact printable
  · rw [rendered]
    intro byte member
    rcases List.mem_append.mp member with inHost | behindHost
    · exact printable byte inHost
    · rcases List.mem_append.mp behindHost with inColon | inPort
      · exact colon byte inColon
      · exact decimal_printable _ byte inPort

theorem printable_trimmed {text : List UInt8}
    (printable : ∀ byte ∈ text, isTargetByte byte = true) : trimOws text = text := by
  apply trim_ows_of_none
  intro byte member
  have visible := printable byte member
  simp only [isTargetByte, decide_eq_true_eq] at visible
  have notSpace : byte ≠ 0x20 := by
    intro same
    rw [same] at visible
    exact absurd visible.1 (by decide)
  have notTab : byte ≠ 0x09 := by
    intro same
    rw [same] at visible
    exact absurd visible.1 (by decide)
  simp [isOws, notSpace, notTab]

/-! ## The round trip -/

/-- The bytes parse as what was meant to be sent, and as nothing besides. -/
structure RoundTrips (method : String) (target : Target) (headers : List Field)
    (body bytes : List UInt8) : Prop where
  /-- One request line, the fields that are passed on, and the body. -/
  parsed : ∃ line, parseHead bytes =
      some (line, (passedOn target headers).map Field.trimmed, body) ∧ Unbroken line ∧
    parseRequestLine line = some {
      method := utf8 method
      target := utf8 target.requestPath
      version := utf8 "HTTP/1.1" }
  /-- A value that has no space around it is the one that was given. -/
  unchanged : (∀ header ∈ headers, trimOws header.value = header.value) →
    (passedOn target headers).map Field.trimmed = passedOn target headers
  closes : fieldValues (utf8 "connection") (passedOn target headers) = [utf8 "close"]
  fields_unbroken : ∀ field ∈ passedOn target headers, Unbroken field.name ∧ Unbroken field.value
  /-- The body stands behind the first empty line. -/
  ends : ∃ front, bytes = front ++ (blankLine ++ body) ∧
    position blankLine bytes = some front.length

theorem passed_on_cases {target : Target} {headers : List Field} {field : Field}
    (member : field ∈ passedOn target headers) :
    (field ∈ headers ∧ isConnectionHeader field = false) ∨
      field = { name := utf8 "Host", value := hostValue target } ∨ field = closeField := by
  rcases List.mem_append.mp member with copied | close
  · obtain ⟨header, kept, rfl⟩ := List.mem_map.mp copied
    obtain ⟨inHeaders, notConnection⟩ := List.mem_filter.mp kept
    rw [withTargetHost]
    split
    · exact Or.inr (Or.inl rfl)
    · exact Or.inl ⟨inHeaders, by simpa using notConnection⟩
  · exact Or.inr (Or.inr (List.mem_singleton.mp close))

theorem passed_on_trimmed {target : Target} {headers : List Field}
    (printable : ∀ byte ∈ utf8 target.host, isTargetByte byte = true)
    (solid : ∀ header ∈ headers, trimOws header.value = header.value) :
    (passedOn target headers).map Field.trimmed = passedOn target headers := by
  have same : ∀ field ∈ passedOn target headers, field.trimmed = field := by
    intro field member
    rcases passed_on_cases member with ⟨inHeaders, _⟩ | rfl | rfl
    · rw [Field.trimmed, solid field inHeaders]
    · rw [Field.trimmed, printable_trimmed (host_value_printable printable)]
    · rfl
  exact (List.map_congr_left same).trans (List.map_id _)

theorem passed_on_closes (target : Target) (headers : List Field) :
    fieldValues (utf8 "connection") (passedOn target headers) = [utf8 "close"] := by
  have copied : fieldValues (utf8 "connection")
      ((headers.filter fun header => !isConnectionHeader header).map (withTargetHost target)) =
        [] := by
    apply List.filterMap_eq_nil_iff.mpr
    intro field member
    obtain ⟨header, kept, rfl⟩ := List.mem_map.mp member
    have notConnection := (List.mem_filter.mp kept).2
    simp only [isConnectionHeader, Bool.not_eq_true', Bool.or_eq_false_iff] at notConnection
    rw [withTargetHost]
    split
    · rfl
    · exact if_neg (by simp [notConnection.1.1])
  rw [passedOn, fieldValues, List.filterMap_append]
  change fieldValues _ _ ++ _ = _
  rw [copied]
  rfl

theorem passed_on_unbroken {target : Target} {headers : List Field}
    (printable : ∀ byte ∈ utf8 target.host, isTargetByte byte = true)
    (wellFormed : ∀ header ∈ headers, WellFormed header)
    (clean : ∀ header ∈ headers, Unbroken header.value) :
    ∀ field ∈ passedOn target headers, Unbroken field.name ∧ Unbroken field.value := by
  have hostName : Unbroken (utf8 "Host") := by decide
  intro field member
  rcases passed_on_cases member with ⟨inHeaders, _⟩ | rfl | rfl
  · exact ⟨printable_unbroken (token_printable (wellFormed field inHeaders).1),
      clean field inHeaders⟩
  · exact ⟨hostName, printable_unbroken (host_value_printable printable)⟩
  · decide

theorem request_line_parts (method requestPath : String) :
    utf8 s!"{method} {requestPath} HTTP/1.1" =
      utf8 method ++ 0x20 :: (utf8 requestPath ++ 0x20 :: utf8 "HTTP/1.1") := by
  have rendered : utf8 s!"{method} {requestPath} HTTP/1.1" =
      utf8 method ++ (utf8 " " ++ (utf8 requestPath ++ utf8 " HTTP/1.1")) := by
    simp only [← utf8_append, ← String.append_assoc]
    rfl
  rw [rendered]
  rfl

/-- The head of every path-style request parses back to what was meant, on every
route and for every header list. -/
theorem forwarded_head_round_trips {service : Service} (crate : PrintsUrls service.parseUrl)
    (request : ClientRequest) (token : isToken (utf8 request.method) = true)
    (clean : ∀ header ∈ request.headers, Unbroken header.value) {target : Target}
    (targeted : pathTarget service.parseUrl request.uri = .ok target) {body : List UInt8}
    (collected : request.body = .ok body) :
    EveryCall (Writes (RoundTrips request.method target request.headers body))
      (handlePathForward service request) := by
  obtain ⟨nonempty, printable⟩ := request_path_printable crate targeted
  have hostPrintable := target_host_printable crate targeted
  have wellFormed := forwarded_fields_well_formed target request.headers_well_formed
  have version : Unbroken (utf8 " HTTP/1.1") := by decide
  have line : utf8 s!"{request.method} {target.requestPath} HTTP/1.1" =
      utf8 request.method ++ 0x20 :: (utf8 target.requestPath ++ 0x20 :: utf8 "HTTP/1.1") :=
    request_line_parts request.method target.requestPath
  rw [writes_iff targeted collected]
  refine ⟨⟨_, written_head_parsed request target body, ?_, ?_⟩, ?_, ?_, ?_, ?_⟩
  · rw [line]
    have behind := (printable_unbroken printable).append version
    have space : Unbroken [0x20] := by decide
    exact (printable_unbroken (token_printable token)).append (space.append behind)
  · rw [line]
    exact parse_request_line_parts token nonempty printable (by decide)
  · exact passed_on_trimmed hostPrintable
  · exact passed_on_closes target request.headers
  · exact passed_on_unbroken hostPrintable request.headers_well_formed clean
  · rw [request_bytes_section, head_section_lines]
    exact ⟨_, rfl, head_lines_end body (start_line_unbroken request target) wellFormed⟩

/-! ## A request with three headers -/

def field (name value : String) : Field where
  name := utf8 name
  value := utf8 value

theorem get_unbroken : (0x0A : UInt8) ∉ utf8 "GET" := by decide

def getWith (target : String) (headers : List Field)
    (wellFormed : ∀ header ∈ headers, WellFormed header) : ClientRequest where
  method := "GET"
  uri := uriOf target
  headers := headers
  body := .ok []
  method_unbroken := get_unbroken
  headers_well_formed := wellFormed

theorem root_host_unbroken :
    ∀ host ∈ some "example.com", (0x0A : UInt8) ∉ utf8 host := by
  intro host named
  cases named
  exact exampleTarget.host_unbroken

/-- The root of one host, with or without a port. -/
def rootUrl (port : Option UInt16) : Url where
  hostStr := some "example.com"
  port := port
  path := "/"
  query := none
  host_unbroken := root_host_unbroken
  path_unbroken := exampleTarget.request_path_unbroken
  query_unbroken := no_query_unbroken

def rootService (port : Option UInt16) : Service where
  directFirst := true
  strategy := .order
  sha256 _ := Vector.replicate 32 0
  parseUrl _ := .ok (rootUrl port)

theorem root_printed (port : Option UInt16) : PrintsUrls (rootService port).parseUrl where
  absolute := by
    intro isHttps behind parsed parses
    cases parses
    change "/".toList.head? = some '/'
    decide
  path := by
    intro isHttps behind parsed parses
    cases parses
    change ∀ byte ∈ utf8 "/", isTargetByte byte = true
    decide
  query := by
    intro isHttps behind parsed parses query asked
    cases parses
    cases asked
  host := by
    intro isHttps behind parsed parses host named
    cases parses
    cases named
    decide

def keptAlive : ClientRequest :=
  getWith "/http://example.com/"
    [field "host" "localhost", field "Connection" "keep-alive", field "X-Id" "7"] (by decide)

theorem kept_alive_round_trips :
    EveryCall (Writes (RoundTrips "GET" exampleTarget keptAlive.headers []))
      (handlePathForward (rootService none) keptAlive) :=
  forwarded_head_round_trips (root_printed none) keptAlive (by decide) (by decide) rfl rfl

example :
    passedOn exampleTarget keptAlive.headers =
      [field "Host" "example.com:80", field "X-Id" "7", field "Connection" "close"] := by
  decide

end MultiProxy.ForwardedHeads
