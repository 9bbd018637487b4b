import MultiProxy.ForwardedHeads

/-!
# The host that a forwarded request names

The `Host` field is written while the client's headers are walked over, once for
each of its own. Its port is left out where it is 443, whichever scheme the
target has.
-/

namespace MultiProxy.ForwardedHosts

open MultiProxy.RustRuntime MultiProxy.ByteScan MultiProxy.MessageFraming MultiProxy.UpstreamDsn
open MultiProxy.InteractionPrograms MultiProxy.InteractionPrograms.Program
open MultiProxy.PathRequest MultiProxy.ProxyRequests MultiProxy.ChannelLoops
open MultiProxy.PathDestination MultiProxy.ForwardedHeads

set_option autoImplicit false

/-! ## Reading a host and a port -/

/-- The port behind a colon, or the scheme's own where there is none. -/
def readPort (schemePort : Nat) (text : List UInt8) : Option Nat :=
  match text with
  | [] => some schemePort
  | mark :: digits =>
      if mark = 0x3A then if digits = [] then some schemePort else parseDecimal digits else none

/-- `uri-host [":" port]`; colons inside brackets belong to the host. -/
def readHost (schemePort : Nat) (value : List UInt8) : Option (List UInt8 × Nat) :=
  if value.head? = some 0x5B then
    match value.dropWhile (· ≠ 0x5D) with
    | [] => none
    | _ :: rest =>
        (readPort schemePort rest).map fun port => (value.takeWhile (· ≠ 0x5D) ++ [0x5D], port)
  else
    (readPort schemePort (value.dropWhile (· ≠ 0x3A))).map fun port =>
      (value.takeWhile (· ≠ 0x3A), port)

/-- A name or an IPv4 address, or a literal in brackets. -/
inductive UriHost : List UInt8 → Prop where
  | plain {name : List UInt8} (noColon : (0x3A : UInt8) ∉ name)
      (noBracket : name.head? ≠ some 0x5B) : UriHost name
  | literal {inner : List UInt8} (closed : (0x5D : UInt8) ∉ inner) :
      UriHost (0x5B :: (inner ++ [0x5D]))

theorem parse_decimal_repr (number : Nat) :
    parseDecimal (utf8 (Nat.repr number)) = some number := by
  have value : ∀ character ∈ (Nat.repr number).toList,
      digitValue (UInt8.ofNat character.toNat) = some (character.toNat - '0'.toNat) := by
    intro character member
    have range := decimal_digit_range member
    have code : (UInt8.ofNat character.toNat).toNat = character.toNat :=
      Nat.mod_eq_of_lt (range.2.trans_lt (by decide))
    have digit : (0x30 : UInt8) ≤ UInt8.ofNat character.toNat ∧
        UInt8.ofNat character.toNat ≤ 0x39 := by
      simp only [UInt8.le_iff_toNat_le, UInt8.reduceToNat, code]
      exact range
    rw [digitValue, if_pos digit, code]
    rfl
  have form : utf8 (Nat.repr number) ≠ [] ∧
      ∀ byte ∈ utf8 (Nat.repr number), (digitValue byte).isSome = true := by
    rw [utf8_of_decimal]
    constructor
    · simp
    · intro byte member
      obtain ⟨character, inText, rfl⟩ := List.mem_map.mp member
      rw [value character inText]
      rfl
  have folded : ∀ (digits : List Char) (front : Nat),
      (∀ character ∈ digits,
        digitValue (UInt8.ofNat character.toNat) = some (character.toNat - '0'.toNat)) →
      (digits.map fun character => UInt8.ofNat character.toNat).foldl
          (fun sum byte => sum * 10 + (digitValue byte).getD 0) front =
        Nat.ofDigitChars 10 digits front := by
    intro digits front known
    induction digits generalizing front with
    | nil => rfl
    | cons digit digits ih =>
        rw [List.forall_mem_cons] at known
        rw [List.map_cons, List.foldl_cons, ih _ known.2, Nat.ofDigitChars_cons, known.1,
          Option.getD_some, Nat.mul_comm]
  rw [parseDecimal, if_pos form, utf8_of_decimal, folded _ _ value, LossyText.repr_value]

theorem read_port_number (schemePort port : Nat) :
    readPort schemePort (0x3A :: utf8 (Nat.repr port)) = some port := by
  have nonempty : utf8 (Nat.repr port) ≠ [] := by
    rw [utf8_of_decimal]
    simp
  rw [readPort, if_pos rfl, if_neg nonempty, parse_decimal_repr]

theorem read_uri_host {host : List UInt8} (uriHost : UriHost host) (schemePort : Nat)
    {rest : List UInt8} (port : rest = [] ∨ ∃ digits, rest = 0x3A :: digits) :
    readHost schemePort (host ++ rest) =
      (readPort schemePort rest).map fun port => (host, port) := by
  cases uriHost with
  | plain noColon noBracket =>
      have notLiteral : (host ++ rest).head? ≠ some 0x5B := by
        cases host with
        | nil =>
            rcases port with rfl | ⟨digits, rfl⟩
            · simp
            · simp
        | cons first name => simpa using noBracket
      rw [readHost, if_neg notLiteral]
      rcases port with rfl | ⟨digits, rfl⟩
      · rw [List.append_nil, List.takeWhile_eq_self_iff.mpr (kept_items noColon),
          List.dropWhile_eq_nil_iff.mpr (kept_items noColon)]
      · rw [before_separator noColon, from_separator noColon]
  | @literal inner closed =>
      have noEnd : (0x5D : UInt8) ∉ 0x5B :: inner := by
        rw [List.mem_cons, not_or]
        exact ⟨by decide, closed⟩
      have whole : 0x5B :: (inner ++ [0x5D]) ++ rest = (0x5B :: inner) ++ 0x5D :: rest := by simp
      rw [readHost, whole, before_separator noEnd, from_separator noEnd]
      rfl

/-! ## The field that is written -/

def isHostHeader (header : Field) : Bool := eqIgnoreAsciiCase header.name (utf8 "host")

theorem passed_on_hosts (target : Target) (headers : List Field) :
    fieldValues (utf8 "host") (passedOn target headers) =
      (headers.filter isHostHeader).map fun _ => trimOws (hostValue target) := by
  have copied : fieldValues (utf8 "host")
      ((headers.filter fun header => !isConnectionHeader header).map (withTargetHost target)) =
        (headers.filter isHostHeader).map fun _ => trimOws (hostValue target) := by
    rw [fieldValues, List.filterMap_map, List.filterMap_filter]
    induction headers with
    | nil => rfl
    | cons header headers ih =>
        by_cases host : isHostHeader header = true
        · have notConnection : isConnectionHeader header = false :=
            connection_header_is_not_host host
          have written : withTargetHost target header =
              { name := utf8 "Host", value := hostValue target } := if_pos host
          rw [List.filter_cons_of_pos host, List.map_cons, ← ih, List.filterMap_cons_some]
          simp only [notConnection, Function.comp_apply, written]
          rfl
        · have kept : withTargetHost target header = header := if_neg host
          rw [List.filter_cons_of_neg host, ← ih, List.filterMap_cons_none]
          simp only [Function.comp_apply, kept]
          split
          · exact if_neg host
          · rfl
  rw [passedOn, fieldValues, List.filterMap_append]
  change fieldValues _ _ ++ [] = _
  rw [copied, List.append_nil]

/-- The value names the target's host and port, unless it is read with port 80
where 443 was left out. -/
theorem host_value_read_iff (target : Target) (uriHost : UriHost (utf8 target.host)) :
    readHost (defaultPort target.isHttps).toNat (hostValue target) =
        some (utf8 target.host, target.port.toNat) ↔
      ¬ (target.isHttps = false ∧ target.port = 443) := by
  rw [hostValue]
  by_cases elided : target.port = 443
  · have nothing : ([] : List UInt8) = [] ∨ ∃ digits, [] = (0x3A : UInt8) :: digits := Or.inl rfl
    have bare := read_uri_host uriHost (defaultPort target.isHttps).toNat nothing
    rw [List.append_nil] at bare
    rw [if_pos elided, bare, readPort, elided]
    cases target.isHttps with
    | false => simp [defaultPort]
    | true => simp [defaultPort]
  · have rendered : utf8 (hostPort target.host target.port) =
        utf8 target.host ++ 0x3A :: utf8 (Nat.repr target.port.toNat) := by
      have parts : utf8 (hostPort target.host target.port) =
          utf8 target.host ++ (utf8 ":" ++ utf8 (Nat.repr target.port.toNat)) := by
        rw [← utf8_append, ← utf8_append, ← String.append_assoc]
        rfl
      rw [parts]
      rfl
    rw [if_neg elided, rendered, read_uri_host uriHost _ (Or.inr ⟨_, rfl⟩), read_port_number]
    simp [elided]

/-! ## Every attempt of the request -/

/-- The only host field of a head, read with the scheme's port, names host and port. -/
def HeadNames (host : String) (port : UInt16) (schemePort : Nat) (bytes : List UInt8) : Prop :=
  ∃ line fields body value, parseHead bytes = some (line, fields, body) ∧
    fieldValues (utf8 "host") fields = [value] ∧
      readHost schemePort value = some (utf8 host, port.toNat)

/-- Connections go to the host and the port, and whatever is written over them names both. -/
def NamesDestination (host : String) (port : UInt16) (schemePort : Nat) : Call → Prop
  | .establish _ givenHost givenPort => givenHost = host ∧ givenPort = port
  | .forward _ _ _ bytes => HeadNames host port schemePort bytes
  | _ => True

theorem written_head_names_iff (request : ClientRequest) (target : Target) (body : List UInt8)
    (printable : ∀ byte ∈ utf8 target.host, isTargetByte byte = true)
    (uriHost : UriHost (utf8 target.host)) :
    HeadNames target.host target.port (defaultPort target.isHttps).toNat
        (requestBytes request.method target request.headers body) ↔
      (request.headers.filter isHostHeader).length = 1 ∧
        ¬ (target.isHttps = false ∧ target.port = 443) := by
  have solid := printable_trimmed (host_value_printable printable)
  have fields : fieldValues (utf8 "host") ((passedOn target request.headers).map Field.trimmed) =
      (request.headers.filter isHostHeader).map fun _ => hostValue target := by
    rw [field_values_trimmed, passed_on_hosts, solid]
  rw [← host_value_read_iff target uriHost]
  simp only [HeadNames, written_head_parsed, Option.some.injEq, Prod.mk.injEq]
  constructor
  · rintro ⟨_, _, _, value, ⟨_, rfl, _⟩, single, read⟩
    rw [fields] at single
    obtain ⟨header, one, same⟩ := List.map_eq_singleton_iff.mp single
    rw [one, same]
    exact ⟨rfl, read⟩
  · rintro ⟨one, read⟩
    obtain ⟨header, single⟩ := List.length_eq_one_iff.mp one
    refine ⟨_, _, _, hostValue target, ⟨rfl, rfl, rfl⟩, ?_, read⟩
    rw [fields, single]
    rfl

theorem names_destination_iff {service : Service} {request : ClientRequest} {target : Target}
    {body : List UInt8} (targeted : pathTarget service.parseUrl request.uri = .ok target)
    (collected : request.body = .ok body) (schemePort : Nat) :
    EveryCall (NamesDestination target.host target.port schemePort)
        (handlePathForward service request) ↔
      HeadNames target.host target.port schemePort
        (requestBytes request.method target request.headers body) := by
  rw [forward_calls_iff targeted collected ⟨trivial, trivial, fun _ _ => trivial⟩
    (fun _ => ⟨rfl, rfl⟩)]
  constructor
  · intro named
    exact named { incoming := [], sent := [], flushed := 0, writes := [] }
  · intro named _
    exact named

def NamesUriHosts (parseUrl : String → Except String Url) : Prop :=
  ∀ isHttps behind parsed, parseUrl (schemeText isHttps ++ behind) = .ok parsed →
    ∀ host ∈ parsed.hostStr, UriHost (utf8 host)

/-- What is written names the destination exactly if the client sent one host header
and no 443 is left out that is not the scheme's own port. -/
theorem host_field_names_destination_iff {service : Service}
    (crate : PrintsUrls service.parseUrl) (hosts : NamesUriHosts service.parseUrl)
    (request : ClientRequest) {target : Target}
    (targeted : pathTarget service.parseUrl request.uri = .ok target) {body : List UInt8}
    (collected : request.body = .ok body) :
    EveryCall (NamesDestination target.host target.port (defaultPort target.isHttps).toNat)
        (handlePathForward service request) ↔
      (request.headers.filter isHostHeader).length = 1 ∧
        ¬ (target.isHttps = false ∧ target.port = 443) := by
  obtain ⟨behind, parsed, parses, named, _, _⟩ := target_of_url targeted
  rw [names_destination_iff targeted collected]
  exact written_head_names_iff request target body (target_host_printable crate targeted)
    (hosts _ _ _ parses _ named)

theorem example_host_is_name : UriHost (utf8 "example.com") := .plain (by decide) (by decide)

theorem root_host_is_name (port : Option UInt16) :
    NamesUriHosts (rootService port).parseUrl := by
  intro isHttps behind parsed parses host named
  cases parses
  cases named
  exact example_host_is_name

def securedPort : Target := { exampleTarget with port := 443 }

def askingForPort443 : ClientRequest :=
  getWith "/http://example.com:443/" [field "host" "localhost"] (by decide)

def withoutHost : ClientRequest := getWith "/http://example.com/" [] no_headers_well_formed

/-- Without a host header none is written, and in `http://example.com:443/` the port
is left out. -/
theorem host_missing_or_port_lost :
    ¬ EveryCall (NamesDestination "example.com" 80 80)
        (handlePathForward (rootService none) withoutHost) ∧
      ¬ EveryCall (NamesDestination "example.com" 443 80)
        (handlePathForward (rootService (some 443)) askingForPort443) := by
  have missing : pathTarget (rootService none).parseUrl withoutHost.uri = .ok exampleTarget := rfl
  have lost : pathTarget (rootService (some 443)).parseUrl askingForPort443.uri =
      .ok securedPort := rfl
  constructor
  · intro calls
    have named := (names_destination_iff missing rfl 80).mp calls
    have one := (written_head_names_iff withoutHost exampleTarget [] (by decide)
      example_host_is_name).mp named
    exact absurd one (by decide)
  · intro calls
    have named := (names_destination_iff lost rfl 80).mp calls
    have one := (written_head_names_iff askingForPort443 securedPort [] (by decide)
      example_host_is_name).mp named
    exact absurd one (by decide)

/-- A request with one host header for a target without a port. -/
theorem one_host_header_names_target :
    EveryCall (NamesDestination "example.com" 80 80)
      (handlePathForward (rootService none) keptAlive) := by
  have targeted : pathTarget (rootService none).parseUrl keptAlive.uri = .ok exampleTarget := rfl
  exact (host_field_names_destination_iff (root_printed none) (root_host_is_name none) keptAlive
    targeted rfl).mpr (by decide)

end MultiProxy.ForwardedHosts
