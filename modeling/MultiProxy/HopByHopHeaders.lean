import MultiProxy.ForwardedHeads
import MultiProxy.RelayedHeads

/-!
# Hop-by-hop headers in both directions

A peer's header is for the next hop only if it is one of seven, or if one of the
peer's `Connection` headers names it. Both directions drop headers by a fixed list
of names, each by its own, and neither reads what a `Connection` header names.
-/

namespace MultiProxy.HopByHopHeaders

open MultiProxy.RustRuntime MultiProxy.ByteScan MultiProxy.MessageFraming MultiProxy.DuplexStream
open MultiProxy.DuplexStream.Exchange MultiProxy.UpstreamDsn MultiProxy.InteractionPrograms
open MultiProxy.InteractionPrograms.Program MultiProxy.StreamingResponse MultiProxy.RelayedBody
open MultiProxy.RelayedHeads MultiProxy.PathRequest MultiProxy.ProxyRequests
open MultiProxy.ForwardedHeads

set_option autoImplicit false

/-! ## Hop-by-hop names -/

def listElements (value : List UInt8) : List (List UInt8) := (value.splitOn 0x2C).map trimOws

def hopByHopNames : List (List UInt8) :=
  [utf8 "connection", utf8 "keep-alive", utf8 "proxy-connection", utf8 "proxy-authenticate",
    utf8 "proxy-authorization", utf8 "te", utf8 "upgrade"]

def nominatedNames (headers : List Field) : List (List UInt8) :=
  (fieldValues (utf8 "connection") headers).flatMap listElements

/-- The name is not meant for anyone behind the peer's own connection. -/
def isHopByHop (headers : List Field) (name : List UInt8) : Bool :=
  (hopByHopNames ++ nominatedNames headers).any (eqIgnoreAsciiCase name)

theorem hop_by_hop_congr (headers : List Field) {name other : List UInt8}
    (same : ∀ third, eqIgnoreAsciiCase name third = eqIgnoreAsciiCase other third) :
    isHopByHop headers name = isHopByHop headers other := by
  have asFunction : eqIgnoreAsciiCase name = eqIgnoreAsciiCase other := by
    funext third
    exact same third
  rw [isHopByHop, asFunction, isHopByHop]

theorem hop_by_hop_listed (headers : List Field) {name listed : List UInt8}
    (member : listed ∈ hopByHopNames) (same : eqIgnoreAsciiCase name listed = true) :
    isHopByHop headers name = true :=
  List.any_eq_true.mpr ⟨listed, List.mem_append_left _ member, same⟩

/-! ## Lists that a direction passes on -/

/-- Nothing hop-by-hop is sent, and all values under every other name that does not
frame the body are, as this direction writes them. -/
structure Stripped (received sent : List Field) (written : Field → List UInt8) : Prop where
  stripped : ∀ field ∈ sent, isHopByHop received field.name = false
  passed : ∀ name, isHopByHop received name = false → framesTheBody name = false →
    valuesOf name sent =
      (received.filter fun field => eqIgnoreAsciiCase field.name name).map written

/-- A direction that drops only hop-by-hop headers strips them all exactly if it
drops every one that was received. -/
theorem stripped_iff (received : List Field) (dropped : Field → Bool) (rewrite : Field → Field)
    (named : ∀ field name,
      eqIgnoreAsciiCase (rewrite field).name name = eqIgnoreAsciiCase field.name name)
    (covered : ∀ field, dropped field = true → isHopByHop received field.name = true) :
    Stripped received ((received.filter fun field => !dropped field).map rewrite)
        (fun field => (rewrite field).value) ↔
      ∀ field ∈ received, isHopByHop received field.name = true → dropped field = true := by
  have sameHop : ∀ field, isHopByHop received (rewrite field).name =
      isHopByHop received field.name := by
    intro field
    exact hop_by_hop_congr received (named field)
  constructor
  · intro whole field member hop
    by_contra kept
    have inSent : rewrite field ∈ (received.filter fun field => !dropped field).map rewrite := by
      apply List.mem_map_of_mem
      exact List.mem_filter.mpr ⟨member, by simpa using kept⟩
    have clean := whole.stripped _ inSent
    rw [sameHop, hop] at clean
    cases clean
  · intro drops
    constructor
    · intro field member
      obtain ⟨source, inFilter, rfl⟩ := List.mem_map.mp member
      obtain ⟨inReceived, kept⟩ := List.mem_filter.mp inFilter
      rw [sameHop, Bool.eq_false_iff]
      intro hop
      rw [drops source inReceived hop] at kept
      cases kept
    · intro name other _
      have kept : ∀ field : Field, eqIgnoreAsciiCase field.name name = true →
          dropped field = false := by
        intro field same
        rw [Bool.eq_false_iff]
        intro isDropped
        have sameNames : ∀ third, eqIgnoreAsciiCase field.name third =
            eqIgnoreAsciiCase name third := by
          intro third
          simp only [eqIgnoreAsciiCase, beq_iff_eq] at same ⊢
          rw [same]
        have hop := covered field isDropped
        rw [hop_by_hop_congr received sameNames, other] at hop
        cases hop
      rw [valuesOf, List.filter_map, List.map_map, List.filter_filter]
      simp only [Function.comp_def, named]
      congr 1
      apply List.filter_congr
      intro field _
      cases same : eqIgnoreAsciiCase field.name name with
      | false => rfl
      | true => rw [kept field same]; rfl

/-! ## The request -/

def writtenValue (target : Target) (header : Field) : List UInt8 :=
  (withTargetHost target header).trimmed.value

/-- In front of the field that closes the connection the head has the client's
headers without its hop-by-hop ones. -/
def RequestStripped (target : Target) (headers : List Field) (bytes : List UInt8) : Prop :=
  ∃ line fields body, parseHead bytes = some (line, fields ++ [closeField], body) ∧
    Stripped headers fields (writtenValue target)

theorem target_host_named (target : Target) (header : Field) (name : List UInt8) :
    eqIgnoreAsciiCase (withTargetHost target header).trimmed.name name =
      eqIgnoreAsciiCase header.name name := by
  rw [Field.trimmed, withTargetHost]
  split
  · rename_i host
    simp only [eqIgnoreAsciiCase, beq_iff_eq] at host
    rw [eqIgnoreAsciiCase, eqIgnoreAsciiCase, host]
    rfl
  · rfl

theorem connection_header_hop_by_hop (headers : List Field) {header : Field}
    (connection : isConnectionHeader header = true) : isHopByHop headers header.name = true := by
  simp only [isConnectionHeader, Bool.or_eq_true] at connection
  rcases connection with (isConnection | keepAlive) | proxyConnection
  · exact hop_by_hop_listed headers (by decide) isConnection
  · exact hop_by_hop_listed headers (by decide) keepAlive
  · exact hop_by_hop_listed headers (by decide) proxyConnection

theorem request_stripped_iff (request : ClientRequest) (target : Target) (body : List UInt8) :
    RequestStripped target request.headers
        (requestBytes request.method target request.headers body) ↔
      ∀ header ∈ request.headers, isHopByHop request.headers header.name = true →
        isConnectionHeader header = true := by
  have sent : (passedOn target request.headers).map Field.trimmed =
      ((request.headers.filter fun header => !isConnectionHeader header).map
        fun header => (withTargetHost target header).trimmed) ++ [closeField] := by
    rw [passedOn, List.map_append, List.map_map]
    rfl
  rw [← stripped_iff request.headers isConnectionHeader
    (fun header => (withTargetHost target header).trimmed) (target_host_named target)
    (fun _ => connection_header_hop_by_hop request.headers)]
  simp only [RequestStripped, written_head_parsed, sent, Option.some.injEq, Prod.mk.injEq]
  constructor
  · rintro ⟨_, fields, _, ⟨_, same, _⟩, stripped⟩
    rw [List.append_cancel_right same]
    exact stripped
  · intro stripped
    exact ⟨_, _, _, ⟨rfl, rfl, rfl⟩, stripped⟩

/-! ## The response -/

/-- The response has the upstream's headers without its hop-by-hop ones. -/
def ResponseStripped (head : SentHead) (response : Response) : Prop :=
  Stripped head.fields response.headers fun field => relayedValue field.value

theorem response_stripped_iff (head : SentHead) {response : Response}
    (relays : response.headers = head.fields.filterMap relayedField) :
    ResponseStripped head response ↔
      ∀ field ∈ head.fields, isHopByHop head.fields field.name = true →
        eqIgnoreAsciiCase field.name connectionName = true := by
  rw [ResponseStripped, relays, relayed_fields]
  apply stripped_iff
  · intro field name
    exact case_equal_lowered field.name name
  · intro field connection
    exact hop_by_hop_listed head.fields (by decide) connection

/-! ## Both directions -/

/-- Hop-by-hop headers stay on their connection exactly if the client sends no other
than the three that are dropped on the way out, and the upstream no other than the
one that is dropped on the way back. -/
theorem hop_by_hop_stripped_iff {service : Service} {types : HeaderTypes}
    (documented : types.AsDocumented) (request : ClientRequest) {target : Target}
    (targeted : pathTarget service.parseUrl request.uri = .ok target) {body : List UInt8}
    (collected : request.body = .ok body) (head : SentHead) (content : List UInt8)
    (stream : Duplex) (delivers : received stream.incoming = head.text ++ (blankLine ++ content)) :
    (head.text.length + blankLine.length ≤ 65536 →
        ∃ response after, (readStreamingResponse types).run stream = (.ok response, after)) ∧
      ∀ response after, (readStreamingResponse types).run stream = (.ok response, after) →
        (EveryCall (Writes (RequestStripped target request.headers))
              (handlePathForward service request) ∧ ResponseStripped head response ↔
          (∀ header ∈ request.headers, isHopByHop request.headers header.name = true →
              isConnectionHeader header = true) ∧
            ∀ field ∈ head.fields, isHopByHop head.fields field.name = true →
              eqIgnoreAsciiCase field.name connectionName = true) := by
  apply sent_head_answered documented head stream delivers
  intro leading rest _ _
  rw [writes_iff targeted collected, request_stripped_iff, response_stripped_iff head rfl]

/-! ## Headers of either side -/

def okHead (fields : List Field) (sent : ∀ field ∈ fields, SentField field) : SentHead where
  statusLine := utf8 "HTTP/1.1 200 OK"
  fields := fields
  status_line_unbroken := ok_line_unbroken
  fields_sent := sent

def keepAliveHead : SentHead :=
  okHead [field "Keep-Alive" "timeout=5"] (sent_of_one ⟨by decide, by decide⟩)

def contentTypeHead : SentHead :=
  okHead [field "Content-Type" "text/plain"] (sent_of_one ⟨by decide, by decide⟩)

/-- The upstream sends its head in one read and closes. -/
def closedBehind (head : SentHead) : Duplex where
  incoming := [.data (head.text ++ blankLine)]
  sent := []
  flushed := 0
  writes := []

/-- The client's credentials for the proxy, and a header of its own connection. -/
def proxyCredentials : ClientRequest :=
  getWith "/http://example.com/"
    [field "Proxy-Authorization" "Basic eDp5", field "Connection" "X-Hop", field "X-Hop" "1"]
    (by decide)

/-- The credentials and the nominated header reach the origin, and the upstream's
`Keep-Alive` reaches the client. -/
theorem hop_by_hop_headers_cross :
    ¬ EveryCall (Writes (RequestStripped exampleTarget proxyCredentials.headers))
        (handlePathForward (rootService none) proxyCredentials) ∧
      ∃ response after, (readStreamingResponse strictHeaders).run (closedBehind keepAliveHead) =
          (.ok response, after) ∧ ¬ ResponseStripped keepAliveHead response := by
  constructor
  · have targeted : pathTarget (rootService none).parseUrl proxyCredentials.uri =
        .ok exampleTarget := rfl
    rw [writes_iff targeted rfl, request_stripped_iff]
    decide
  · obtain ⟨answered, relays⟩ := sent_head_answered strict_headers_documented keepAliveHead
      (closedBehind keepAliveHead) (List.append_nil _)
      (fun response => response.headers = keepAliveHead.fields.filterMap relayedField)
      (fun _ _ _ _ => rfl)
    obtain ⟨response, after, ran⟩ := answered (by decide)
    refine ⟨response, after, ran, ?_⟩
    rw [response_stripped_iff keepAliveHead (relays response after ran)]
    decide

theorem plain_exchange_is_stripped :
    EveryCall (Writes (RequestStripped exampleTarget keptAlive.headers))
        (handlePathForward (rootService none) keptAlive) ∧
      ∃ response after, (readStreamingResponse strictHeaders).run (closedBehind contentTypeHead) =
          (.ok response, after) ∧ ResponseStripped contentTypeHead response := by
  have targeted : pathTarget (rootService none).parseUrl keptAlive.uri = .ok exampleTarget := rfl
  obtain ⟨answered, stripped⟩ := hop_by_hop_stripped_iff strict_headers_documented keptAlive
    targeted rfl contentTypeHead [] (closedBehind contentTypeHead)
    (by rw [closedBehind, received, received, List.append_nil, List.append_nil])
  obtain ⟨response, after, ran⟩ := answered (by decide)
  have both := (stripped response after ran).mpr (by decide)
  exact ⟨both.1, response, after, ran, both.2⟩

end MultiProxy.HopByHopHeaders
