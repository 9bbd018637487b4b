import MultiProxy.ChunkedCoding
import MultiProxy.StreamingResponse

/-!
# The body a client decodes from a relayed response

The relayed head keeps the fields that frame the upstream's body, and the body
frames are the upstream's bytes as they came. The server library frames the
body again by the same fields. That agrees for a body of announced length and
for one ended by its connection; a chunked body is chunked twice and decoded once.
-/

namespace MultiProxy.RelayedBody

open MultiProxy.RustRuntime MultiProxy.ByteScan MultiProxy.LossyText MultiProxy.MessageFraming
open MultiProxy.ChunkedCoding MultiProxy.DuplexStream MultiProxy.DuplexStream.Exchange
open MultiProxy.StreamingResponse

set_option autoImplicit false

/-! ## Framing fields survive the relay -/

theorem lower_idempotent (byte : UInt8) : lower (lower byte) = lower byte := by
  by_cases upper : 0x41 ≤ byte ∧ byte ≤ 0x5A
  · have lowered : lower byte = byte + 0x20 := if_pos upper
    have notUpper : ¬ (0x41 ≤ byte + 0x20 ∧ byte + 0x20 ≤ 0x5A) := by
      simp only [UInt8.le_iff_toNat_le, UInt8.toNat_add, UInt8.reduceToNat] at upper ⊢
      omega
    rw [lowered]
    exact if_neg notUpper
  · have same : lower byte = byte := if_neg upper
    rw [same, same]

theorem case_equal_lowered (left right : List UInt8) :
    eqIgnoreAsciiCase (left.map lower) right = eqIgnoreAsciiCase left right := by
  have same : (left.map lower).map lower = left.map lower := by
    rw [List.map_map]
    apply List.map_congr_left
    intro byte _
    exact lower_idempotent byte
  rw [eqIgnoreAsciiCase, eqIgnoreAsciiCase, same]

/-- On legal ASCII bytes Rust's whitespace is the optional whitespace of fields. -/
theorem ascii_whitespace {byte : UInt8} (ascii : byte < 0x80) (legal : legalValueByte byte = true) :
    isWhitespace (Char.ofNat byte.toNat) = isOws byte := by
  simp only [legalValueByte, decide_eq_true_eq, UInt8.le_iff_toNat_le, ← UInt8.toNat_inj,
    UInt8.reduceToNat, ne_eq] at legal
  simp only [UInt8.lt_iff_toNat_lt, UInt8.reduceToNat] at ascii
  simp only [isWhitespace, isOws, ascii_char_code, ← UInt8.toNat_inj, UInt8.reduceToNat,
    decide_eq_decide]
  omega

theorem trim_start_ascii (value : List UInt8) (ascii : ∀ byte ∈ value, byte < 0x80)
    (legal : ∀ byte ∈ value, legalValueByte byte = true) :
    trimStart (asciiText value) = asciiText (value.dropWhile isOws) := by
  induction value with
  | nil => rfl
  | cons byte rest ih =>
      have here := ascii_whitespace (ascii byte (by simp)) (legal byte (by simp))
      have later := ih (by intro other member; exact ascii other (by simp [member]))
        (by intro other member; exact legal other (by simp [member]))
      rw [asciiText, List.map_cons, trimStart]
      by_cases space : isOws byte = true
      · rw [List.dropWhile_cons_of_pos (here.trans space), List.dropWhile_cons_of_pos space]
        exact later
      · rw [List.dropWhile_cons_of_neg (by rw [here]; exact space),
          List.dropWhile_cons_of_neg space]
        rfl

theorem trim_ascii (value : List UInt8) (ascii : ∀ byte ∈ value, byte < 0x80)
    (legal : ∀ byte ∈ value, legalValueByte byte = true) :
    trim (asciiText value) = asciiText (trimOws value) := by
  have inStart : ∀ byte ∈ (value.dropWhile isOws).reverse, byte ∈ value := by
    intro byte member
    exact (List.dropWhile_suffix isOws).subset (List.mem_reverse.mp member)
  have ends := trim_start_ascii (value.dropWhile isOws).reverse
    (by intro byte member; exact ascii byte (inStart byte member))
    (by intro byte member; exact legal byte (inStart byte member))
  have reversed : ∀ bytes : List UInt8, (asciiText bytes).reverse = asciiText bytes.reverse := by
    intro bytes
    exact (List.map_reverse).symm
  rw [trim, trim_start_ascii value ascii legal, trimEnd, List.rdropWhile, reversed]
  change (trimStart _).reverse = _
  rw [ends, reversed]
  rfl

theorem relayed_framing_value {field : Field} (legal : LegalField field)
    (frames : framesTheBody field.name = true) :
    trimOws (text (trim (fromUtf8Lossy field.value))) = trimOws field.value := by
  have ascii := legal.framing_ascii frames
  have decoded := lossy_ascii field.value ascii []
  rw [List.append_nil, lossy_nil, List.append_nil] at decoded
  have kept : ∀ byte ∈ trimOws field.value, byte < 0x80 := by
    intro byte member
    have inStart := (List.rdropWhile_prefix isOws _).subset member
    exact ascii byte ((List.dropWhile_suffix isOws).subset inStart)
  rw [decoded, trim_ascii field.value ascii legal.legal, text_ascii kept, trim_ows_idempotent]

theorem relayed_field_values {fields : List Field} (legal : ∀ field ∈ fields, LegalField field)
    {name : List UInt8} (frames : framesTheBody name = true) :
    fieldValues name (fields.filterMap relayedField) = fieldValues name fields := by
  have notConnection : eqIgnoreAsciiCase (utf8 "connection") name = false := by
    rw [Bool.eq_false_iff]
    intro same
    simp only [framesTheBody, Bool.or_eq_true, eqIgnoreAsciiCase, beq_iff_eq] at frames same
    rw [← same] at frames
    exact absurd frames (by decide)
  have sameName : ∀ field : Field, eqIgnoreAsciiCase field.name name = true →
      framesTheBody field.name = true := by
    intro field same
    simp only [framesTheBody, eqIgnoreAsciiCase, beq_iff_eq] at frames same ⊢
    rw [same]
    exact frames
  rw [fieldValues, List.filterMap_filterMap]
  apply List.filterMap_congr
  intro field member
  have here := legal field member
  unfold relayedField
  by_cases connection : eqIgnoreAsciiCase field.name (utf8 "connection") = true
  · have other : eqIgnoreAsciiCase field.name name = false := by
      simp only [eqIgnoreAsciiCase, beq_iff_eq] at connection
      rw [eqIgnoreAsciiCase, connection]
      exact notConnection
    simp [connection, other]
  · rw [if_neg connection]
    simp only [Option.bind_some, case_equal_lowered]
    by_cases wanted : eqIgnoreAsciiCase field.name name = true
    · rw [if_pos wanted, if_pos wanted, relayed_framing_value here (sameName field wanted)]
    · rw [if_neg wanted, if_neg wanted]

theorem relayed_framing (response : UpstreamResponse) :
    framing (response.fields.filterMap relayedField) = framing response.fields := by
  rw [framing, relayed_field_values response.fields_legal (by decide),
    relayed_field_values response.fields_legal (by decide)]
  rfl

/-! ## The server library and the client -/

/-- hyper's HTTP/1 server, as far as a response with a body meets it: the fields
it writes for the given ones, and what it writes behind the head for the data
frames of the body. -/
structure HttpServer where
  fields : List Field → List Field
  transfer : List Field → List (List UInt8) → List UInt8

/-- Frames become chunks unless a length was given; of a given length as many
bytes are written raw. -/
structure HttpServer.AsDocumented (server : HttpServer) : Prop where
  chunks : ∀ fields frames, framing fields = some .chunked ∨ framing fields = some .absent →
    (∀ frame ∈ frames, frame ≠ []) →
      framing (server.fields fields) = some .chunked ∧
        server.transfer fields frames = encodeChunks frames
  raw : ∀ fields frames count, framing fields = some (.length count) →
    framing (server.fields fields) = some (.length count) ∧
      server.transfer fields frames = frames.flatten.take count

def clientBody (server : HttpServer) (response : Response) : Option (List UInt8) :=
  (framing (server.fields response.headers)).bind fun found =>
    (splitBody (fun rest => (rest, [])) found
      (server.transfer response.headers response.body.frames)).map (·.1)

theorem client_body_of_chunks {server : HttpServer} (documented : server.AsDocumented)
    (response : Response) (nonempty : ∀ frame ∈ response.body.frames, frame ≠ [])
    (framed : framing response.headers = some .chunked ∨ framing response.headers = some .absent) :
    clientBody server response = some response.body.frames.flatten := by
  obtain ⟨fields, bytes⟩ := documented.chunks response.headers response.body.frames framed nonempty
  have decoded := decode_encode_chunks response.body.frames [] nonempty
  rw [List.append_nil] at decoded
  simp only [clientBody, fields, bytes, Option.bind_some, splitBody, decoded, Option.map_some]

theorem client_body_of_length {server : HttpServer} (documented : server.AsDocumented)
    (response : Response) (framed : framing response.headers =
      some (.length response.body.frames.flatten.length)) :
    clientBody server response = some response.body.frames.flatten := by
  obtain ⟨fields, bytes⟩ := documented.raw response.headers response.body.frames _ framed
  rw [List.take_length] at bytes
  simp only [clientBody, fields, bytes, Option.bind_some, split_body_length, Option.map_some]

/-- In every case the client gets the upstream's bytes as they were transferred. -/
theorem client_gets_transfer_form {server : HttpServer} (documented : server.AsDocumented)
    (response : UpstreamResponse) {message : Message}
    (decoded : decodeResponse response.bytes = some message) (complete : message.behind = [])
    (relayed : Response) (headers : relayed.headers = response.fields.filterMap relayedField)
    (content : relayed.body.frames.flatten = response.content)
    (nonempty : ∀ frame ∈ relayed.body.frames, frame ≠ []) :
    clientBody server relayed = some response.content ∧
      (message.body = response.content ↔ framing response.fields ≠ some .chunked) := by
  have unbroken := response.status_line_unbroken
  have wellFormed : ∀ field ∈ response.fields, WellFormed field := by
    intro field member
    exact (response.fields_legal field member).sent.well_formed
  rw [response_bytes_section, decodeResponse,
    decode_message_section _ _ _ response.content unbroken wellFormed] at decoded
  have sameFraming : framing relayed.headers = framing response.fields := by
    rw [headers, relayed_framing]
  obtain ⟨found, framed, split⟩ := Option.bind_eq_some_iff.mp decoded
  obtain ⟨⟨body, behind⟩, bodySplit, rfl⟩ := Option.map_eq_some_iff.mp split
  simp only at complete ⊢
  subst complete
  rw [framed, ← content]
  rw [← content] at bodySplit
  cases found with
  | chunked =>
      have shorter := decoded_body_shorter bodySplit
      constructor
      · exact client_body_of_chunks documented relayed nonempty (Or.inl (sameFraming.trans framed))
      · apply iff_of_false
        · intro same
          rw [same] at shorter
          exact absurd shorter (lt_irrefl _)
        · exact not_not.mpr rfl
  | length count =>
      simp only [splitBody] at bodySplit
      split at bodySplit
      · rename_i fits
        simp only [Option.some.injEq, Prod.mk.injEq, List.drop_eq_nil_iff] at bodySplit
        have exactly : count = relayed.body.frames.flatten.length := le_antisymm fits bodySplit.2
        subst exactly
        constructor
        · exact client_body_of_length documented relayed (sameFraming.trans framed)
        · apply iff_of_true
          · rw [← bodySplit.1, List.take_length]
          · simp
      · cases bodySplit
  | absent =>
      cases bodySplit
      constructor
      · exact client_body_of_chunks documented relayed nonempty (Or.inr (sameFraming.trans framed))
      · apply iff_of_true
        · rfl
        · simp

/-- A final response that is relayed reaches the client with its body exactly when
the upstream did not send the body in chunks. Within the head limit it is relayed. -/
theorem relayed_body_same_iff_not_chunked {types : HeaderTypes} (legalHeaders : types.AsDocumented)
    {server : HttpServer} (documented : server.AsDocumented) (response : UpstreamResponse)
    (message : Message) (decoded : decodeResponse response.bytes = some message)
    (complete : message.behind = []) (stream : Duplex) (clean : EndsCleanly stream.incoming)
    (delivers : received stream.incoming = response.bytes) :
    (response.headText.length + 4 ≤ 65536 →
        ∃ relayed after, (readStreamingResponse types).run stream = (.ok relayed, after)) ∧
      ∀ relayed after, (readStreamingResponse types).run stream = (.ok relayed, after) →
        (clientBody server relayed = some message.body ↔
          framing response.fields ≠ some .chunked) := by
  rcases streamed_response legalHeaders response stream delivers with streamed | refused
  · obtain ⟨leading, rest, behind, restClean, ran⟩ := streamed
    constructor
    · intro _
      exact ⟨_, _, ran⟩
    · intro relayed after ok
      rw [ran] at ok
      cases ok
      obtain ⟨joined, nonempty⟩ :=
        body_frames_clean leading { stream with incoming := rest } (restClean clean)
      rcases client_gets_transfer_form documented response decoded complete
        (response.handedOn leading { stream with incoming := rest }) rfl (joined.trans behind)
        nonempty with ⟨gets, same⟩
      rw [gets, ← same, Option.some.injEq]
      exact eq_comm
  · obtain ⟨long, after, ran⟩ := refused
    constructor
    · intro short
      omega
    · intro relayed after' ok
      rw [ran] at ok
      cases ok

/-! ## One response of each kind -/

/-- Header types that accept what is documented and refuse the rest. -/
def strictHeaders : HeaderTypes where
  name chars := if isToken (text chars) then some ((text chars).map lower) else none
  value chars :=
    if ∀ character ∈ chars, legalValueChar character = true then some (text chars) else none

theorem strict_headers_documented : strictHeaders.AsDocumented where
  token_lowered := by
    intro name token
    simp only [strictHeaders, text_ascii (token_ascii token), if_pos token]
  value_kept := by
    intro value legal
    exact if_pos legal

def chunkedField : Field where
  name := transferEncoding
  value := chunkedCoding

/-- A server that announces chunks when nothing else frames the body. -/
def framingServer : HttpServer where
  fields given := if framing given = some .absent then chunkedField :: given else given
  transfer given frames :=
    match framing given with
    | some (.length count) => frames.flatten.take count
    | _ => encodeChunks frames

theorem framing_absent_no_coding {fields : List Field} (absent : framing fields = some .absent) :
    fieldValues transferEncoding fields = [] := by
  simp only [framing, framingOf] at absent
  split at absent
  · split at absent <;> cases absent
  · rename_i noCoding
    exact List.getLast?_eq_none_iff.mp noCoding

theorem framing_chunked_field {fields : List Field} (absent : framing fields = some .absent) :
    framing (chunkedField :: fields) = some .chunked := by
  have values : fieldValues transferEncoding (chunkedField :: fields) =
      trimOws chunkedCoding :: fieldValues transferEncoding fields := rfl
  rw [framing, values, framing_absent_no_coding absent]
  rfl

theorem framing_server_documented : framingServer.AsDocumented where
  chunks := by
    intro fields frames framed _
    rcases framed with chunked | absent
    · simp [framingServer, chunked]
    · simp [framingServer, absent, framing_chunked_field absent]
  raw := by
    intro fields frames count framed
    simp [framingServer, framed]

def helloResponse (field : Field) (content : List UInt8) (legal : LegalField field) :
    UpstreamResponse where
  statusLine := utf8 "HTTP/1.1 200 OK"
  fields := [field]
  content := content
  status_line_unbroken := by decide
  fields_legal := by
    intro other member
    rw [List.mem_singleton] at member
    subst member
    exact legal

def chunkedHello : UpstreamResponse :=
  helloResponse chunkedField (utf8 "5\r\nhello\r\n0\r\n\r\n") ⟨by decide, by decide, by decide⟩

def lengthField : Field where
  name := contentLength
  value := utf8 " 5"

def measuredHello : UpstreamResponse :=
  helloResponse lengthField (utf8 "hello") ⟨by decide, by decide, by decide⟩

/-- The upstream sends the whole response in one read and closes. -/
def inOneRead (response : UpstreamResponse) : Duplex where
  incoming := [.data response.bytes]
  sent := []
  flushed := 0
  writes := []

/-- The client of a chunked response gets the chunk sizes as part of the body. -/
theorem chunked_response_is_chunked_twice :
    ∃ message relayed after, decodeResponse chunkedHello.bytes = some message ∧
      message.body = utf8 "hello" ∧ message.behind = [] ∧
      (readStreamingResponse strictHeaders).run (inOneRead chunkedHello) = (.ok relayed, after) ∧
      clientBody framingServer relayed = some (utf8 "5\r\nhello\r\n0\r\n\r\n") ∧
      clientBody framingServer relayed ≠ some message.body := by
  have decoded : decodeResponse chunkedHello.bytes = some {
      startLine := utf8 "HTTP/1.1 200 OK"
      fields := [chunkedField]
      body := utf8 "hello"
      behind := [] } := by decide
  rcases streamed_response strict_headers_documented chunkedHello (inOneRead chunkedHello)
    (List.append_nil _) with streamed | refused
  · obtain ⟨leading, rest, behind, restClean, ran⟩ := streamed
    obtain ⟨joined, nonempty⟩ :=
      body_frames_clean leading { inOneRead chunkedHello with incoming := rest } (restClean trivial)
    have gets := (client_gets_transfer_form framing_server_documented chunkedHello decoded rfl
      (chunkedHello.handedOn leading { inOneRead chunkedHello with incoming := rest }) rfl
      (joined.trans behind) nonempty).1
    refine ⟨_, _, _, decoded, rfl, rfl, ran, gets, ?_⟩
    rw [gets]
    decide
  · exact absurd refused.1 (by decide)

theorem measured_response_reaches_client :
    ∃ relayed after,
      (readStreamingResponse strictHeaders).run (inOneRead measuredHello) = (.ok relayed, after) ∧
        clientBody framingServer relayed = some (utf8 "hello") := by
  rcases relayed_body_same_iff_not_chunked strict_headers_documented framing_server_documented
    measuredHello
    { startLine := utf8 "HTTP/1.1 200 OK", fields := [lengthField.trimmed], body := utf8 "hello",
      behind := [] } (by decide) rfl (inOneRead measuredHello) trivial (List.append_nil _) with
    ⟨handsOn, same⟩
  obtain ⟨relayed, after, ran⟩ := handsOn (by decide)
  exact ⟨relayed, after, ran, (same relayed after ran).mpr (by decide)⟩

end MultiProxy.RelayedBody
