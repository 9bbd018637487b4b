import MultiProxy.ChannelLoops

/-!
# Where a path-style request goes, and what it asks for there

The request target is cut at its first question mark by hyper; only the part in
front of it is parsed as a URL. The destination survives that, the query does not.
-/

namespace MultiProxy.PathDestination

open MultiProxy.RustRuntime MultiProxy.ByteScan MultiProxy.DuplexStream MultiProxy.UpstreamDsn
open MultiProxy.InteractionPrograms MultiProxy.InteractionPrograms.Program
open MultiProxy.PathRequest MultiProxy.ProxyRequests MultiProxy.ChannelLoops

set_option autoImplicit false

/-! ## Request targets -/

/-- hyper's view of an origin-form target: the path is what precedes the first
question mark, the query what follows it. -/
def uriOf (target : String) : Uri where
  authority := none
  path := String.ofList (target.toList.takeWhile (· ≠ '?'))
  query :=
    match target.toList.dropWhile (· ≠ '?') with
    | [] => none
    | _ :: query => some (String.ofList query)

def schemeText (isHttps : Bool) : String := if isHttps then "https://" else "http://"

def portText (port : Option UInt16) : String :=
  match port with
  | some port => s!":{port}"
  | none => ""

def queryText (query : Option String) : String :=
  match query with
  | some query => s!"?{query}"
  | none => ""

def urlText (isHttps : Bool) (host : String) (port : Option UInt16) (path : String) : String :=
  schemeText isHttps ++ (host ++ (portText port ++ path))

/-- `/S://H[:P]/path[?query]`. -/
def requestTarget (isHttps : Bool) (host : String) (port : Option UInt16) (path : String)
    (query : Option String) : String :=
  "/" ++ urlText isHttps host port path ++ queryText query

def defaultPort (isHttps : Bool) : UInt16 := if isHttps then 443 else 80

/-- The url crate on `http` and `https` URLs without query and fragment: it
recognises a host, elides the scheme's own port and normalises the path. A host
it recognises contains no question mark. -/
structure ParsesUrls (parseUrl : String → Except String Url) (hostOf : String → Option String)
    (normalPath : String → String) : Prop where
  host_plain : ∀ text host, hostOf text = some host → '?' ∉ text.toList
  parses : ∀ isHttps text host port path, hostOf text = some host → path.toList.head? = some '/' →
    '?' ∉ path.toList → '#' ∉ path.toList →
      ∃ parsed, parseUrl (urlText isHttps text port path) = .ok parsed ∧
        parsed.hostStr = some host ∧
        parsed.port = (if port = some (defaultPort isHttps) then none else port) ∧
        parsed.path = normalPath path ∧ parsed.query = none

theorem port_text_chars (port : UInt16) :
    (portText (some port)).toList = ':' :: (Nat.repr port.toNat).toList := by
  have rendered : portText (some port) = ":" ++ Nat.repr port.toNat := rfl
  rw [rendered, String.toList_append]
  rfl

theorem port_text_char {port : Option UInt16} {character : Char}
    (member : character ∈ (portText port).toList) : character = ':' ∨ character.isDigit = true := by
  cases port with
  | none => simp [portText] at member
  | some port =>
      rw [port_text_chars] at member
      rcases List.mem_cons.mp member with colon | inPort
      · exact Or.inl colon
      · exact Or.inr (decimal_digit inPort)

theorem port_text_plain (port : Option UInt16) : '?' ∉ (portText port).toList := by
  intro member
  rcases port_text_char member with colon | digit
  · exact absurd colon (by decide)
  · exact absurd digit (by decide)

theorem url_text_plain (isHttps : Bool) {host : String} (port : Option UInt16) {path : String}
    (hostPlain : '?' ∉ host.toList) (pathPlain : '?' ∉ path.toList) :
    '?' ∉ (urlText isHttps host port path).toList := by
  simp only [urlText, String.toList_append, List.mem_append, not_or]
  refine ⟨?_, hostPlain, port_text_plain port, pathPlain⟩
  cases isHttps <;> decide

theorem query_text_cut (query : Option String) :
    (queryText query).toList.takeWhile (· ≠ '?') = [] := by
  cases query with
  | none => rfl
  | some query =>
      have rendered : queryText (some query) = "?" ++ query := rfl
      rw [rendered, String.toList_append]
      rfl

theorem uri_path_of_target (front : String) (query : Option String) (plain : '?' ∉ front.toList) :
    (uriOf (front ++ queryText query)).path = front := by
  rw [uriOf, String.toList_append]
  simp only [List.takeWhile_append_of_pos (kept_items plain), query_text_cut, List.append_nil,
    String.ofList_toList]

/-! ## The destination that is parsed -/

theorem starts_with_append (front back : String) : startsWith (front ++ back) front = true := by
  rw [startsWith, String.toList_append, List.isPrefixOf_iff_prefix]
  exact List.prefix_append _ _

theorem path_target_parsed (isHttps : Bool) (behind : String) :
    parsePathTarget ("/" ++ (schemeText isHttps ++ behind)) =
      .ok (schemeText isHttps ++ behind, isHttps) := by
  have trimmed : trimStartMatches '/' ("/" ++ (schemeText isHttps ++ behind)) =
      schemeText isHttps ++ behind := by
    have chars : (("/" ++ (schemeText isHttps ++ behind)).toList.dropWhile (· = '/')) =
        (schemeText isHttps ++ behind).toList := by
      rw [String.toList_append, String.toList_append]
      cases isHttps <;> rfl
    rw [trimStartMatches, chars, String.ofList_toList]
  cases isHttps with
  | false =>
      have isHttp : startsWith ("/" ++ ("http://" ++ behind)) "/http://" = true := by
        rw [← String.append_assoc]
        exact starts_with_append "/http://" behind
      have notHttps : startsWith ("/" ++ ("http://" ++ behind)) "/https://" = false := by
        rw [startsWith, String.toList_append, String.toList_append]
        rfl
      simp only [schemeText, Bool.false_eq_true, if_false] at trimmed ⊢
      simp only [parsePathTarget, isHttp, notHttps, trimmed, Bool.not_true, Bool.false_and,
        Bool.false_eq_true, if_false]
  | true =>
      have isHttps : startsWith ("/" ++ ("https://" ++ behind)) "/https://" = true := by
        rw [← String.append_assoc]
        exact starts_with_append "/https://" behind
      simp only [schemeText, if_true] at trimmed ⊢
      simp only [parsePathTarget, isHttps, trimmed, Bool.not_true, Bool.and_false,
        Bool.false_eq_true, if_false]

theorem path_target_ok {parseUrl : String → Except String Url} {uri : Uri} {isHttps : Bool}
    {behind host : String} {parsed : Url} (path : uri.path = "/" ++ (schemeText isHttps ++ behind))
    (parses : parseUrl (schemeText isHttps ++ behind) = .ok parsed)
    (named : parsed.hostStr = some host) :
    ∃ target, pathTarget parseUrl uri = .ok target ∧ target.host = host ∧
      target.port = parsed.port.getD (defaultPort isHttps) ∧ target.isHttps = isHttps ∧
        target.requestPath = requestPath parsed := by
  have scheme : (!startsWith (schemeText isHttps ++ behind) "http://" &&
      !startsWith (schemeText isHttps ++ behind) "https://") = false := by
    cases isHttps with
    | false => simp [schemeText, starts_with_append]
    | true => simp [schemeText, starts_with_append]
  simp only [pathTarget, path, path_target_parsed, scheme, Bool.false_eq_true, if_false, parses]
  split
  · rename_i missing
    rw [named] at missing
    cases missing
  · rename_i other found
    rw [named] at found
    cases found
    exact ⟨_, rfl, rfl, rfl, rfl, rfl⟩

/-! ## Every attempt of the request -/

/-- The call connects to the host and port, or writes a request with the given
first line over a connection secured as asked. -/
def Reaches (host : String) (port : UInt16) (isHttps : Bool) (requestLine : String) : Call → Prop
  | .establish _ givenHost givenPort => givenHost = host ∧ givenPort = port
  | .forward _ givenHost secured bytes =>
      givenHost = host ∧ secured = isHttps ∧ ∃ rest, splitLine bytes = some (utf8 requestLine, rest)
  | _ => True

theorem first_line_of_request (request : ClientRequest) (target : Target) (body : List UInt8) :
    ∃ rest, splitLine (requestBytes request.method target request.headers body) =
      some (utf8 s!"{request.method} {target.requestPath} HTTP/1.1", rest) := by
  rw [request_bytes_section]
  exact ⟨_, split_line_append _ _ (start_line_unbroken request target)⟩

theorem query_changes_line (method path query : String) :
    utf8 s!"{method} {path ++ queryText (some query)} HTTP/1.1" ≠
      utf8 s!"{method} {path} HTTP/1.1" := by
  intro same
  have rendered : ∀ asked, utf8 s!"{method} {asked} HTTP/1.1" =
      utf8 method ++ (utf8 " " ++ (utf8 asked ++ utf8 " HTTP/1.1")) := by
    intro asked
    simp only [← utf8_append, ← String.append_assoc]
    rfl
  have mark : utf8 (queryText (some query)) = utf8 "?" ++ utf8 query := utf8_append "?" query
  have lengths := congrArg List.length same
  rw [rendered, rendered, utf8_append, mark] at lengths
  have one : (utf8 "?").length = 1 := by decide
  simp only [List.length_append, one] at lengths
  omega

section Request

variable (service : Service) {hostOf : String → Option String} {normalPath : String → String}
  (crate : ParsesUrls service.parseUrl hostOf normalPath) (request : ClientRequest)
  (isHttps : Bool) (text host : String) (port : Option UInt16) (path : String)
  (query : Option String) (body : List UInt8) (known : hostOf text = some host)
  (absolute : path.toList.head? = some '/') (noMark : '?' ∉ path.toList)
  (noFragment : '#' ∉ path.toList)
  (asked : request.uri = uriOf (requestTarget isHttps text port path query))
  (collected : request.body = .ok body)

include crate known absolute noMark noFragment asked

theorem path_request_target :
    ∃ target, pathTarget service.parseUrl request.uri = .ok target ∧ target.host = host ∧
      target.port = port.getD (defaultPort isHttps) ∧ target.isHttps = isHttps ∧
        target.requestPath = normalPath path := by
  obtain ⟨parsed, parses, named, parsedPort, parsedPath, noQuery⟩ :=
    crate.parses isHttps text host port path known absolute noMark noFragment
  have uriPath : request.uri.path = "/" ++ urlText isHttps text port path := by
    rw [asked, requestTarget, uri_path_of_target]
    rw [String.toList_append]
    intro member
    rcases List.mem_append.mp member with slash | inUrl
    · exact absurd slash (by decide)
    · exact url_text_plain isHttps port (crate.host_plain text host known) noMark inUrl
  obtain ⟨target, targeted, sameHost, samePort, sameScheme, samePath⟩ :=
    path_target_ok uriPath parses named
  refine ⟨target, targeted, sameHost, ?_, sameScheme, ?_⟩
  · rw [samePort, parsedPort]
    split
    · rename_i elided
      rw [elided]
      rfl
    · rfl
  · rw [samePath, requestPath, noQuery, parsedPath]

include collected

theorem path_request_calls :
    EveryCall (Reaches host (port.getD (defaultPort isHttps)) isHttps
        s!"{request.method} {normalPath path} HTTP/1.1")
      (handlePathForward service request) := by
  rcases path_request_target service crate request isHttps text host port path query
      known absolute noMark
    noFragment asked with ⟨target, targeted, sameHost, samePort, sameScheme, samePath⟩
  obtain ⟨rest, firstLine⟩ := first_line_of_request request target body
  rw [handle_path_forward_attempts targeted collected]
  rw [samePath] at firstLine
  apply every_call_bind
  · apply forward_attempts_calls
    · intro route
      exact ⟨sameHost, samePort⟩
    · intro upstream
      exact ⟨sameHost, sameScheme, rest, firstLine⟩
    · exact ⟨trivial, trivial, fun _ _ => trivial⟩
  · intro attempted
    cases attempted <;> trivial

theorem path_request_misses_query (wanted : String) :
    ¬ EveryCall (Reaches host (port.getD (defaultPort isHttps)) isHttps
        s!"{request.method} {normalPath path ++ queryText (some wanted)} HTTP/1.1")
      (handlePathForward service request) := by
  intro calls
  rcases path_request_target service crate request isHttps text host port path query
      known absolute noMark
    noFragment asked with ⟨target, targeted, _, _, _, samePath⟩
  obtain ⟨rest, firstLine⟩ := first_line_of_request request target body
  rw [handle_path_forward_attempts targeted collected] at calls
  have exchange := (forward_attempts_exchange (every_call_of_bind calls)).2
    { incoming := [], sent := [], flushed := 0, writes := [] }
  obtain ⟨other, line⟩ := exchange.2.2
  rw [firstLine, samePath] at line
  have same := congrArg Prod.fst (Option.some.inj line)
  exact absurd same.symm (query_changes_line request.method (normalPath path) wanted)

/-- A path-style request reaches its host and port, secured as its scheme says,
with its own path and query in the request line, exactly when it has no query. -/
theorem path_request_reaches_target_iff_no_query :
    EveryCall (Reaches host (port.getD (defaultPort isHttps)) isHttps
        s!"{request.method} {normalPath path ++ queryText query} HTTP/1.1")
      (handlePathForward service request) ↔ query = none := by
  cases query with
  | none =>
      have calls := path_request_calls service crate request isHttps text host port path
        none body known
        absolute noMark noFragment asked collected
      apply iff_of_true
      · simpa only [queryText, String.append_empty] using calls
      · rfl
  | some wanted =>
      apply iff_of_false
      · exact path_request_misses_query service crate request isHttps text host port path
          (some wanted) body
          known absolute noMark noFragment asked collected wanted
      · simp

end Request

/-! ## A parser for one host -/

theorem without_line_feed (chars : List Char) :
    (0x0A : UInt8) ∉ utf8 (String.ofList (chars.filter (· ≠ '\n'))) := by
  intro member
  have lineFeed := line_feed_of_utf8 member
  simp at lineFeed

def exampleHost (text : String) : Option String :=
  if text = "example.com" then some "example.com" else none

def examplePath (path : String) : String := String.ofList (path.toList.filter (· ≠ '\n'))

/-- Parses URLs of the one host, with the port elided where it is the scheme's. -/
def exampleUrl (text : String) : Except String Url :=
  let isHttps := startsWith text "https://"
  let behind := text.toList.drop ((schemeText isHttps).toList.length + "example.com".toList.length)
  let port :=
    if behind.head? = some ':' then LossyText.parseU16 (behind.tail.takeWhile (· ≠ '/')) else none
  .ok {
    hostStr := some "example.com"
    port := if port = some (defaultPort isHttps) then none else port
    path := String.ofList ((behind.dropWhile (· ≠ '/')).filter (· ≠ '\n'))
    query := none
    host_unbroken := by simp; decide
    path_unbroken := without_line_feed _
    query_unbroken := no_query_unbroken }

theorem url_scheme (isHttps : Bool) (behind : String) :
    startsWith (schemeText isHttps ++ behind) "https://" = isHttps := by
  cases isHttps with
  | false =>
      rw [startsWith, String.toList_append]
      rfl
  | true => exact starts_with_append "https://" behind

theorem url_rest (isHttps : Bool) (host rest : String) :
    (schemeText isHttps ++ (host ++ rest)).toList.drop
        ((schemeText isHttps).toList.length + host.toList.length) = rest.toList := by
  rw [← String.append_assoc, String.toList_append]
  apply List.drop_left'
  rw [String.toList_append, List.length_append]

theorem url_path_behind_port (port : Option UInt16) {path : String}
    (absolute : path.toList.head? = some '/') :
    ((portText port ++ path).toList.dropWhile (· ≠ '/')) = path.toList := by
  obtain ⟨rest, same⟩ := List.head?_eq_some_iff.mp absolute
  rw [String.toList_append, List.dropWhile_append_of_pos]
  · rw [same]
    rfl
  · intro character member
    rw [decide_eq_true_eq]
    intro slash
    subst slash
    rcases port_text_char member with colon | digit
    · exact absurd colon (by decide)
    · exact absurd digit (by decide)

theorem url_port (port : Option UInt16) {path : String}
    (absolute : path.toList.head? = some '/') :
    (if (portText port ++ path).toList.head? = some ':' then
      LossyText.parseU16 ((portText port ++ path).toList.tail.takeWhile (· ≠ '/')) else none) =
        port := by
  obtain ⟨rest, same⟩ := List.head?_eq_some_iff.mp absolute
  cases port with
  | none => simp [portText, same]
  | some port =>
      have digits : ∀ character ∈ (Nat.repr port.toNat).toList,
          decide (character ≠ '/') = true := by
        intro character member
        rw [decide_eq_true_eq]
        intro slash
        subst slash
        exact absurd (decimal_digit member) (by decide)
      have taken : (Nat.repr port.toNat).toList ++ ('/' :: rest).takeWhile (· ≠ '/') =
          (Nat.repr port.toNat).toList := List.append_nil _
      rw [String.toList_append, port_text_chars, same, List.cons_append, List.head?_cons,
        if_pos rfl,
        List.tail_cons, List.takeWhile_append_of_pos digits, taken]
      exact LossyText.parse_u16_repr port

theorem example_url_parses : ParsesUrls exampleUrl exampleHost examplePath where
  host_plain := by
    intro text host known
    rw [exampleHost] at known
    split at known
    · rename_i same
      subst same
      decide
    · cases known
  parses := by
    intro isHttps text host port path known absolute _ _
    rw [exampleHost] at known
    split at known
    · rename_i same
      subst same
      cases known
      refine ⟨_, rfl, rfl, ?_, ?_, rfl⟩
      · simp only [urlText, url_scheme, url_rest, url_port port absolute]
      · simp only [urlText, url_scheme, url_rest, url_path_behind_port port absolute]
        rfl
    · cases known

def exampleService : Service where
  directFirst := true
  strategy := .order
  sha256 _ := Vector.replicate 32 0
  parseUrl := exampleUrl

def getRequest (target : String) : ClientRequest where
  method := "GET"
  uri := uriOf target
  headers := []
  body := .ok []
  method_unbroken := by decide
  headers_well_formed := no_headers_well_formed

/-- `GET /http://example.com/a?x=1` is written upstream as `GET /a`. -/
theorem query_is_dropped :
    EveryCall (Reaches "example.com" 80 false "GET /a HTTP/1.1")
        (handlePathForward exampleService (getRequest "/http://example.com/a?x=1")) ∧
      ¬ EveryCall (Reaches "example.com" 80 false "GET /a?x=1 HTTP/1.1")
        (handlePathForward exampleService (getRequest "/http://example.com/a?x=1")) := by
  constructor
  · exact path_request_calls exampleService example_url_parses
      (getRequest "/http://example.com/a?x=1") false "example.com" "example.com" none "/a"
      (some "x=1") [] rfl rfl (by decide) (by decide) rfl rfl
  · exact path_request_misses_query exampleService example_url_parses
      (getRequest "/http://example.com/a?x=1") false "example.com" "example.com" none "/a"
      (some "x=1") [] rfl rfl (by decide) (by decide) rfl rfl "x=1"

theorem request_without_query_reaches_target :
    EveryCall (Reaches "example.com" 8443 true "GET /a HTTP/1.1")
      (handlePathForward exampleService (getRequest "/https://example.com:8443/a")) :=
  (path_request_reaches_target_iff_no_query exampleService example_url_parses
    (getRequest "/https://example.com:8443/a") true "example.com" "example.com" (some 8443) "/a"
    none [] rfl rfl (by decide) (by decide) rfl rfl).mpr rfl

end MultiProxy.PathDestination
