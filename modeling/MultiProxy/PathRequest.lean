import MultiProxy.MessageFraming
import MultiProxy.UpstreamDsn

/-!
# The request that path-style forwarding writes

`handle_path_forward` takes its destination out of the request path and then
writes the client's head over again: the host is replaced, the connection
fields are dropped, every other field is copied, and the collected body follows.
hyper has removed the client's transfer coding from the body by then, and has
left the field that announces it.
-/

namespace MultiProxy.PathRequest

open MultiProxy.RustRuntime MultiProxy.ByteScan MultiProxy.MessageFraming
open MultiProxy.ChunkedCoding MultiProxy.UpstreamDsn

set_option autoImplicit false

/-! ## What hyper and the url crate hand over -/

structure Uri where
  authority : Option String
  path : String
  query : Option String
  deriving DecidableEq, Repr

/-- A request as hyper delivers it. The headers are what its `HeaderMap` iterates, names in
lower case and equal names side by side, not the order on the wire. The body is what
collecting it comes back with, its transfer coding removed. -/
structure ClientRequest where
  method : String
  uri : Uri
  headers : List Field
  body : Except String (List UInt8)
  method_unbroken : (0x0A : UInt8) ∉ utf8 method
  headers_well_formed : ∀ field ∈ headers, WellFormed field

/-- A parsed URL, as far as it is asked for. Its serialised parts contain no
line feed. -/
structure Url where
  hostStr : Option String
  port : Option UInt16
  path : String
  query : Option String
  host_unbroken : ∀ host ∈ hostStr, (0x0A : UInt8) ∉ utf8 host
  path_unbroken : (0x0A : UInt8) ∉ utf8 path
  query_unbroken : ∀ text ∈ query, (0x0A : UInt8) ∉ utf8 text

/-! ## The destination -/

def startsWith (text front : String) : Bool := front.toList.isPrefixOf text.toList

def trimStartMatches (character : Char) (text : String) : String :=
  String.ofList (text.toList.dropWhile (· = character))

def parsePathTarget (path : String) : Except String (String × Bool) :=
  if !startsWith path "/http://" && !startsWith path "/https://" then
    .error "Invalid path format. Expected /https://target.com or CONNECT host:port HTTP/1.1"
  else
    .ok (trimStartMatches '/' path, startsWith path "/https://")

/-- A refused target is answered with 400, or ends the service call in an error. -/
inductive Rejection where
  | badRequest (message : String)
  | invalidInput (message : String)
  deriving DecidableEq, Repr

structure Target where
  host : String
  port : UInt16
  isHttps : Bool
  requestPath : String
  host_unbroken : (0x0A : UInt8) ∉ utf8 host
  request_path_unbroken : (0x0A : UInt8) ∉ utf8 requestPath

def requestPath (parsed : Url) : String :=
  match parsed.query with
  | some query => s!"{parsed.path}?{query}"
  | none => parsed.path

theorem request_path_unbroken (parsed : Url) : (0x0A : UInt8) ∉ utf8 (requestPath parsed) := by
  unfold requestPath
  cases asked : parsed.query with
  | none => exact parsed.path_unbroken
  | some query =>
      have joined :
          utf8 s!"{parsed.path}?{query}" = utf8 parsed.path ++ utf8 "?" ++ utf8 query := by
        have rendered : s!"{parsed.path}?{query}" = parsed.path ++ "?" ++ query := rfl
        rw [rendered, utf8_append, utf8_append]
      simp only [joined]
      intro member
      rcases List.mem_append.mp member with front | inQuery
      · rcases List.mem_append.mp front with inPath | mark
        · exact parsed.path_unbroken inPath
        · exact absurd mark (by decide)
      · exact parsed.query_unbroken query (by simp [asked]) inQuery

/-- From the request path to the destination. `Url::parse` comes from outside. -/
def pathTarget (parseUrl : String → Except String Url) (uri : Uri) : Except Rejection Target :=
  match parsePathTarget uri.path with
  | .error message => .error (.badRequest message)
  | .ok (target, isHttps) =>
      let targetUrl :=
        if !startsWith target "http://" && !startsWith target "https://" then s!"http://{target}"
        else target
      match parseUrl targetUrl with
      | .error message => .error (.invalidInput message)
      | .ok parsed =>
          match named : parsed.hostStr with
          | none => .error (.invalidInput "Missing host")
          | some host =>
              .ok {
                host := host
                port := parsed.port.getD (if isHttps then 443 else 80)
                isHttps := isHttps
                requestPath := requestPath parsed
                host_unbroken := parsed.host_unbroken host (by simp [named])
                request_path_unbroken := request_path_unbroken parsed }

/-! ## The request bytes -/

def forwardedHeader (host : String) (port : UInt16) (header : Field) : List UInt8 :=
  if eqIgnoreAsciiCase header.name (utf8 "host") then
    utf8 "Host: " ++ (if port = 443 then utf8 host else utf8 (hostPort host port)) ++ crlf
  else if eqIgnoreAsciiCase header.name (utf8 "connection") ||
      eqIgnoreAsciiCase header.name (utf8 "keep-alive") ||
      eqIgnoreAsciiCase header.name (utf8 "proxy-connection") then
    []
  else
    header.name ++ utf8 ": " ++ header.value ++ crlf

def requestBytes (method : String) (target : Target) (headers : List Field) (body : List UInt8) :
    List UInt8 :=
  utf8 s!"{method} {target.requestPath} HTTP/1.1\r\n" ++
    headers.flatMap (forwardedHeader target.host target.port) ++
      utf8 "Connection: close\r\n\r\n" ++ body

/-! ## The head that was written, as fields -/

/-- The field a header line of the client's becomes, if it is passed on. -/
def forwardedField (host : String) (port : UInt16) (header : Field) : Option Field :=
  if eqIgnoreAsciiCase header.name (utf8 "host") then
    some { name := utf8 "Host"
           value := 0x20 :: (if port = 443 then utf8 host else utf8 (hostPort host port)) }
  else if eqIgnoreAsciiCase header.name (utf8 "connection") ||
      eqIgnoreAsciiCase header.name (utf8 "keep-alive") ||
      eqIgnoreAsciiCase header.name (utf8 "proxy-connection") then
    none
  else
    some { name := header.name, value := 0x20 :: header.value }

def connectionClose : Field where
  name := utf8 "Connection"
  value := utf8 " close"

def forwardedFields (target : Target) (headers : List Field) : List Field :=
  headers.filterMap (forwardedField target.host target.port) ++ [connectionClose]

theorem forwarded_header_line (host : String) (port : UInt16) (header : Field) :
    forwardedHeader host port header =
      ((forwardedField host port header).toList.map fun field =>
        fieldLine field ++ crlf).flatten := by
  have hostName : utf8 "Host: " = utf8 "Host" ++ [0x3A, 0x20] := by decide
  have separator : utf8 ": " = [0x3A, 0x20] := by decide
  rw [forwardedHeader, forwardedField]
  split
  · simp [fieldLine, hostName]
  · split
    · simp
    · simp [fieldLine, separator]

theorem request_bytes_section (method : String) (target : Target) (headers : List Field)
    (body : List UInt8) :
    requestBytes method target headers body =
      utf8 s!"{method} {target.requestPath} HTTP/1.1" ++ crlf ++
        (fieldSection (forwardedFields target headers) ++ body) := by
  have startLine : utf8 s!"{method} {target.requestPath} HTTP/1.1\r\n" =
      utf8 s!"{method} {target.requestPath} HTTP/1.1" ++ crlf := by
    have rendered : s!"{method} {target.requestPath} HTTP/1.1\r\n" =
        s!"{method} {target.requestPath} HTTP/1.1" ++ "\r\n" := by
      simp only [String.append_assoc]
      rfl
    rw [rendered, utf8_append]
    rfl
  have close : utf8 "Connection: close\r\n\r\n" = fieldLine connectionClose ++ crlf ++ crlf := by
    decide
  have copied : headers.flatMap (forwardedHeader target.host target.port) =
      ((headers.filterMap (forwardedField target.host target.port)).map
        fun field => fieldLine field ++ crlf).flatten := by
    induction headers with
    | nil => rfl
    | cons header headers ih =>
        rw [List.flatMap_cons, ih, forwarded_header_line, List.filterMap_cons]
        cases forwardedField target.host target.port header <;> simp
  rw [requestBytes, startLine, close, copied]
  simp [fieldSection, forwardedFields, List.append_assoc]

theorem token_of_host : isToken (utf8 "Host") = true := by decide

theorem host_value_unbroken (target : Target) :
    (0x0A : UInt8) ∉ if target.port = 443 then utf8 target.host
      else utf8 (hostPort target.host target.port) := by
  have rendered : utf8 (hostPort target.host target.port) =
      utf8 target.host ++ utf8 ":" ++ utf8 (Nat.repr target.port.toNat) := by
    rw [← utf8_append, ← utf8_append]
    rfl
  split
  · exact target.host_unbroken
  · rw [rendered]
    intro member
    rcases List.mem_append.mp member with front | inPort
    · rcases List.mem_append.mp front with inHost | colon
      · exact target.host_unbroken inHost
      · exact absurd colon (by decide)
    · exact decimal_has_no_line_feed target.port.toNat inPort

theorem forwarded_field_well_formed (target : Target) {header field : Field}
    (wellFormed : WellFormed header)
    (passed : forwardedField target.host target.port header = some field) : WellFormed field := by
  have valueUnbroken : ∀ value : List UInt8, (0x0A : UInt8) ∉ value →
      (0x0A : UInt8) ∉ (0x20 : UInt8) :: value := by
    intro value unbroken member
    rcases List.mem_cons.mp member with space | inValue
    · exact absurd space (by decide)
    · exact unbroken inValue
  rw [forwardedField] at passed
  split at passed
  · cases passed
    exact ⟨token_of_host, valueUnbroken _ (host_value_unbroken target)⟩
  · split at passed
    · cases passed
    · cases passed
      exact ⟨wellFormed.1, valueUnbroken _ wellFormed.2⟩

theorem forwarded_fields_well_formed (target : Target) {headers : List Field}
    (wellFormed : ∀ header ∈ headers, WellFormed header) :
    ∀ field ∈ forwardedFields target headers, WellFormed field := by
  intro field member
  rcases List.mem_append.mp member with copied | close
  · obtain ⟨header, inHeaders, passed⟩ := List.mem_filterMap.mp copied
    exact forwarded_field_well_formed target (wellFormed header inHeaders) passed
  · rw [List.mem_singleton] at close
    subst close
    decide

theorem start_line_unbroken (request : ClientRequest) (target : Target) :
    (0x0A : UInt8) ∉ utf8 s!"{request.method} {target.requestPath} HTTP/1.1" := by
  have rendered : utf8 s!"{request.method} {target.requestPath} HTTP/1.1" =
      utf8 request.method ++ (utf8 " " ++ (utf8 target.requestPath ++ utf8 " HTTP/1.1")) := by
    simp only [← utf8_append, ← String.append_assoc]
    rfl
  rw [rendered]
  intro member
  rcases List.mem_append.mp member with inMethod | behindMethod
  · exact request.method_unbroken inMethod
  · rcases List.mem_append.mp behindMethod with space | behindSpace
    · exact absurd space (by decide)
    · rcases List.mem_append.mp behindSpace with inPath | version
      · exact target.request_path_unbroken inPath
      · exact absurd version (by decide)

/-! ## Framing -/

def managedNames : List (List UInt8) :=
  [utf8 "host", utf8 "connection", utf8 "keep-alive", utf8 "proxy-connection"]

theorem case_equal_names {left right other : List UInt8}
    (first : eqIgnoreAsciiCase left right = true) (second : eqIgnoreAsciiCase left other = true) :
    eqIgnoreAsciiCase right other = true := by
  simp only [eqIgnoreAsciiCase, beq_iff_eq] at first second ⊢
  exact first.symm.trans second

theorem forwarded_field_values (target : Target) (headers : List Field) {name : List UInt8}
    (unmanaged : ∀ managed ∈ managedNames, eqIgnoreAsciiCase managed name = false) :
    fieldValues name (forwardedFields target headers) = fieldValues name headers := by
  have foreign : ∀ (header : Field) (managed : List UInt8), managed ∈ managedNames →
      eqIgnoreAsciiCase header.name managed = true →
      eqIgnoreAsciiCase header.name name = false := by
    intro header managed member same
    rw [Bool.eq_false_iff]
    intro wanted
    have equal := case_equal_names same wanted
    rw [unmanaged managed member] at equal
    cases equal
  have written : ∀ name', name' ∈ [utf8 "Host", utf8 "Connection"] →
      eqIgnoreAsciiCase name' name = false := by
    intro name' member
    simp only [List.mem_cons, List.not_mem_nil, or_false] at member
    rcases member with rfl | rfl
    · exact foreign ⟨_, []⟩ (utf8 "host") (by decide) (by decide)
    · exact foreign ⟨_, []⟩ (utf8 "connection") (by decide) (by decide)
  have close : fieldValues name [connectionClose] = [] := by
    simp [fieldValues, connectionClose, written (utf8 "Connection") (by simp)]
  have copied : fieldValues name (headers.filterMap (forwardedField target.host target.port)) =
      fieldValues name headers := by
    rw [fieldValues, List.filterMap_filterMap]
    apply List.filterMap_congr
    intro header _
    unfold forwardedField
    split
    · rename_i host
      simp [foreign header _ (by decide) host, written (utf8 "Host") (by simp)]
    · split
      · rename_i dropped
        simp only [Bool.or_eq_true] at dropped
        have other : eqIgnoreAsciiCase header.name name = false := by
          rcases dropped with (connection | keepAlive) | proxyConnection
          · exact foreign header _ (by decide) connection
          · exact foreign header _ (by decide) keepAlive
          · exact foreign header _ (by decide) proxyConnection
        simp [other]
      · simp only [Option.bind_some, trim_ows_space]
  rw [forwardedFields, fieldValues, List.filterMap_append]
  change fieldValues name _ ++ fieldValues name _ = _
  rw [copied, close, List.append_nil]

/-- The head says of its body what the client's head said. -/
theorem forwarded_framing (target : Target) (headers : List Field) :
    framing (forwardedFields target headers) = framing headers := by
  rw [framing, forwarded_field_values target headers (by decide),
    forwarded_field_values target headers (by decide)]
  rfl

/-- How the client framed the body that was collected. -/
inductive ClientFraming (headers : List Field) (body : List UInt8) : Prop where
  | chunked (announced : framing headers = some .chunked)
  | length (announced : framing headers = some (.length body.length))
  | bodiless (unframed : framing headers = some .absent) (empty : body = [])

/-- What goes upstream is one message with the client's body exactly when the
client did not send the body in chunks. -/
theorem forwarded_body_framed_iff_not_chunked (request : ClientRequest) (target : Target)
    (body : List UInt8) (collected : request.body = .ok body)
    (framed : ClientFraming request.headers body) :
    (∃ message, decodeRequest (requestBytes request.method target request.headers body) =
        some message ∧ message.body = body ∧ message.behind = []) ↔
      framing request.headers ≠ some .chunked := by
  have startLine : (0x0A : UInt8) ∉ utf8 s!"{request.method} {target.requestPath} HTTP/1.1" :=
    start_line_unbroken request target
  have wellFormed := forwarded_fields_well_formed target request.headers_well_formed
  have decoded : ∀ found, framing request.headers = some found →
      decodeRequest (requestBytes request.method target request.headers body) =
        (splitBody (fun rest => ([], rest)) found body).map fun split =>
          { startLine := utf8 s!"{request.method} {target.requestPath} HTTP/1.1"
            fields := (forwardedFields target request.headers).map Field.trimmed
            body := split.1, behind := split.2 } := by
    intro found announced
    rw [request_bytes_section, decodeRequest,
      decode_message_section _ _ _ body startLine wellFormed, forwarded_framing, announced]
    rfl
  cases framed with
  | chunked announced =>
      rw [decoded .chunked announced, announced]
      apply iff_of_false
      · intro delivered
        obtain ⟨message, split, sameBody, _⟩ := delivered
        obtain ⟨⟨content, rest⟩, chunks, rfl⟩ := Option.map_eq_some_iff.mp split
        have shorter := decoded_body_shorter chunks
        simp only at sameBody
        rw [sameBody] at shorter
        exact absurd shorter (lt_irrefl _)
      · exact not_not.mpr rfl
  | length announced =>
      rw [decoded (.length body.length) announced, announced, split_body_length]
      apply iff_of_true
      · exact ⟨_, rfl, rfl, rfl⟩
      · simp
  | bodiless unframed empty =>
      subst empty
      rw [decoded .absent unframed, unframed]
      apply iff_of_true
      · exact ⟨_, rfl, rfl, rfl⟩
      · simp

def exampleTarget : Target where
  host := "example.com"
  port := 80
  isHttps := false
  requestPath := "/"
  host_unbroken := by decide
  request_path_unbroken := by decide

theorem post_unbroken : (0x0A : UInt8) ∉ utf8 "POST" := by decide

theorem connect_unbroken : (0x0A : UInt8) ∉ utf8 "CONNECT" := by decide

theorem no_query_unbroken : ∀ text ∈ (none : Option String), (0x0A : UInt8) ∉ utf8 text := by simp

theorem no_headers_well_formed : ∀ field ∈ ([] : List Field), WellFormed field :=
  List.forall_mem_nil WellFormed

def postHello (framingField : Field) (wellFormed : WellFormed framingField) : ClientRequest where
  method := "POST"
  uri := { authority := none, path := "/http://example.com/", query := none }
  headers := [framingField]
  body := .ok (utf8 "hello")
  method_unbroken := post_unbroken
  headers_well_formed := by
    intro field member
    rw [List.mem_singleton] at member
    subst member
    exact wellFormed

def chunkedField : Field where
  name := transferEncoding
  value := chunkedCoding

def lengthField : Field where
  name := contentLength
  value := utf8 "5"

def chunkedHello : ClientRequest := postHello chunkedField (by decide)

def measuredHello : ClientRequest := postHello lengthField (by decide)

/-- A chunked body is announced as chunked and written without chunks. -/
theorem chunked_post_is_not_a_message :
    framing chunkedHello.headers = some .chunked ∧ chunkedHello.body = .ok (utf8 "hello") ∧
      decodeRequest (requestBytes chunkedHello.method exampleTarget chunkedHello.headers
        (utf8 "hello")) = none := by
  decide

theorem measured_post_is_one_message :
    ∃ message, decodeRequest (requestBytes measuredHello.method exampleTarget
        measuredHello.headers (utf8 "hello")) = some message ∧
      message.body = utf8 "hello" ∧ message.behind = [] :=
  (forwarded_body_framed_iff_not_chunked measuredHello exampleTarget (utf8 "hello") rfl
    (.length (by decide))).mpr (by decide)

end MultiProxy.PathRequest
