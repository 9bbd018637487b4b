import MultiProxy.DuplexStream
import MultiProxy.LossyText
import MultiProxy.MessageFraming

/-!
# Reading a response head and streaming its body

`read_streaming_response` gathers reads until the empty line, takes the head
apart as text, and hands what it has read beyond the head, together with the
stream, to a `ReaderBody`. The body bytes are passed on as they arrive; the
fields that say how they are framed are passed on with the head.
-/

namespace MultiProxy.StreamingResponse

open MultiProxy.RustRuntime MultiProxy.ByteScan MultiProxy.LossyText MultiProxy.MessageFraming
open MultiProxy.DuplexStream MultiProxy.DuplexStream.Exchange

set_option autoImplicit false

/-! ## The body -/

structure ReaderBody where
  reader : Duplex
  leading : Option (List UInt8)
  deriving DecidableEq, Repr

def ReaderBody.new (leading : List UInt8) (reader : Duplex) : ReaderBody where
  reader := reader
  leading := if leading = [] then none else some leading

inductive Frame where
  | data (bytes : List UInt8)
  | failure (message : String)
  | finished
  | pending
  deriving DecidableEq, Repr

/-- `poll_frame`, polled again for as long as the reader has nothing yet. Only a
reader that never becomes ready leaves it pending. -/
def ReaderBody.pollFrame (body : ReaderBody) : Frame × ReaderBody :=
  match body.leading with
  | some bytes => (.data bytes, { body with leading := none })
  | none =>
      let (result, rest) := DuplexStream.read 16384 body.reader.incoming
      let after := { body with reader := { body.reader with incoming := rest } }
      match result with
      | .bytes [] => (.finished, after)
      | .bytes filled => (.data filled, after)
      | .failure message => (.failure message, after)
      | .stalled => (.pending, after)

/-- The data frames a reader still has to give, and how they end. -/
def readerFrames (script : List ReadEvent) : List (List UInt8) × Frame :=
  match _ : DuplexStream.read 16384 script with
  | (.bytes [], _) => ([], .finished)
  | (.bytes (first :: more), rest) =>
      ((first :: more) :: (readerFrames rest).1, (readerFrames rest).2)
  | (.failure message, _) => ([], .failure message)
  | (.stalled, _) => ([], .pending)
termination_by scriptSize script
decreasing_by all_goals exact read_shrinks 16384 script rest first more (by assumption)

def ReaderBody.frames (body : ReaderBody) : List (List UInt8) :=
  body.leading.toList ++ (readerFrames body.reader.incoming).1

/-! ## The head -/

/-- `HeaderName` and `HeaderValue` as `http` makes them from text. -/
structure HeaderTypes where
  name : List Char → Option (List UInt8)
  value : List Char → Option (List UInt8)

structure Response where
  status : UInt16
  headers : List Field
  body : ReaderBody

/-- The loop's two stop conditions; which of them it was is asked afterwards. -/
def headRead (headerBuf : List UInt8) : Bool :=
  occurs blankLine headerBuf || decide (65536 < headerBuf.length)

/-- Phase 1. The deadline expires exactly on a stream that has fallen silent. -/
def readHead : Exchange (List UInt8) := fun duplex =>
  match gather 4096 headRead [] duplex.incoming with
  | (.stopped headerBuf, rest) =>
      if occurs blankLine headerBuf then (.ok headerBuf, { duplex with incoming := rest })
      else (.err "response headers too large", { duplex with incoming := rest })
  | (.ended headerBuf, rest) => (.ok headerBuf, { duplex with incoming := rest })
  | (.failure message, rest) =>
      (.err s!"read headers: {message}", { duplex with incoming := rest })
  | (.stalled, rest) => (.err "response header timeout", { duplex with incoming := rest })

/-- The head and the bytes behind its empty line. Without one the slice is out of
range. -/
def splitHead (headerBuf : List UInt8) : Option (List UInt8 × List UInt8) :=
  let sepIdx := (position blankLine headerBuf).getD headerBuf.length
  if sepIdx + 4 ≤ headerBuf.length then some (headerBuf.take sepIdx, headerBuf.drop (sepIdx + 4))
  else none

def statusCode (firstLine : Option (List Char)) : UInt16 :=
  let code := ((firstLine.bind fun line => (splitWhitespace line)[1]?).bind parseU16).getD 200
  if 100 ≤ code ∧ code ≤ 999 then code else 200

def text (chars : List Char) : List UInt8 := utf8 (String.ofList chars)

/-- One turn of the header loop. A header that `http` refuses spoils the builder. -/
def addHeader (types : HeaderTypes) (builder : Option (List Field)) (line : List Char) :
    Option (List Field) :=
  let line := trim line
  if line = [] then builder
  else
    match line.dropWhile (· ≠ ':') with
    | [] => builder
    | _ :: behind =>
        let name := trim (line.takeWhile (· ≠ ':'))
        let value := trim behind
        if eqIgnoreAsciiCase (text name) (utf8 "connection") then builder
        else
          match builder, types.name name, types.value value with
          | some fields, some name, some value =>
              some (fields ++ [{ name := name, value := value }])
          | _, _, _ => none

def takeStream : Exchange Duplex := fun duplex => (.ok duplex, duplex)

def readStreamingResponse (types : HeaderTypes) : Exchange Response := do
  let headerBuf ← readHead
  let (headers, leading) ← unwrap (splitHead headerBuf)
  let headLines := lines (fromUtf8Lossy headers)
  let fields ← unwrap (headLines.tail.foldl (addHeader types) (some []))
  let upstream ← takeStream
  pure { status := statusCode headLines.head?, headers := fields, body := .new leading upstream }

/-! ## Responses of the upstream -/

def legalValueByte (byte : UInt8) : Bool := byte = 0x09 ∨ (0x20 ≤ byte ∧ byte ≠ 0x7F)

def framesTheBody (name : List UInt8) : Bool :=
  eqIgnoreAsciiCase name transferEncoding || eqIgnoreAsciiCase name contentLength

/-- A field as the grammar has it; a field that frames the body is ASCII. -/
structure LegalField (field : Field) : Prop where
  token : isToken field.name = true
  legal : ∀ byte ∈ field.value, legalValueByte byte = true
  framing_ascii : framesTheBody field.name = true → ∀ byte ∈ field.value, byte < 0x80

/-- A response as the upstream sends it; `content` is its body in transfer form. -/
structure UpstreamResponse where
  statusLine : List UInt8
  fields : List Field
  content : List UInt8
  status_line_unbroken : (0x0A : UInt8) ∉ statusLine
  fields_legal : ∀ field ∈ fields, LegalField field

namespace UpstreamResponse

def headText (response : UpstreamResponse) : List UInt8 :=
  response.statusLine ++ ((response.fields.map fieldLine).map (crlf ++ ·)).flatten

def bytes (response : UpstreamResponse) : List UInt8 :=
  response.headText ++ (blankLine ++ response.content)

end UpstreamResponse

/-- A field as the grammar has it, whatever it says. -/
structure SentField (field : Field) : Prop where
  token : isToken field.name = true
  legal : ∀ byte ∈ field.value, legalValueByte byte = true

theorem LegalField.sent {field : Field} (legal : LegalField field) : SentField field :=
  ⟨legal.token, legal.legal⟩

structure SentHead where
  statusLine : List UInt8
  fields : List Field
  status_line_unbroken : (0x0A : UInt8) ∉ statusLine
  fields_sent : ∀ field ∈ fields, SentField field

def SentHead.text (head : SentHead) : List UInt8 :=
  head.statusLine ++ ((head.fields.map fieldLine).map (crlf ++ ·)).flatten

def UpstreamResponse.head (response : UpstreamResponse) : SentHead where
  statusLine := response.statusLine
  fields := response.fields
  status_line_unbroken := response.status_line_unbroken
  fields_sent := by
    intro field member
    exact (response.fields_legal field member).sent

theorem legal_value_unbroken {value : List UInt8}
    (legal : ∀ byte ∈ value, legalValueByte byte = true) : (0x0A : UInt8) ∉ value := by
  intro member
  exact absurd (legal 0x0A member) (by decide)

theorem SentField.well_formed {field : Field} (sent : SentField field) : WellFormed field :=
  ⟨sent.token, legal_value_unbroken sent.legal⟩

theorem response_bytes_section (response : UpstreamResponse) :
    response.bytes = response.statusLine ++ crlf ++
      (fieldSection response.fields ++ response.content) :=
  (head_section_lines response.statusLine response.fields response.content).symm

/-- The first empty line there is stands behind the head. -/
def EndsHead (head : List UInt8) : Prop := position blankLine (head ++ blankLine) = some head.length

theorem EndsHead.position {head : List UInt8} (ends : EndsHead head) (behind : List UInt8) :
    ByteScan.position blankLine (head ++ (blankLine ++ behind)) = some head.length := by
  rw [← List.append_assoc]
  exact position_append behind ends

theorem ends_head_of_position {head behind : List UInt8}
    (found : position blankLine (head ++ (blankLine ++ behind)) = some head.length) :
    EndsHead head := by
  have inside : occurs blankLine (head ++ blankLine) = true :=
    (occurs_iff (by simp [blankLine, crlf])).mpr (List.suffix_append _ _).isInfix
  obtain ⟨index, here⟩ := Option.isSome_iff_exists.mp inside
  have whole := position_append behind here
  rw [List.append_assoc, found] at whole
  rw [EndsHead, here, whole]

theorem SentHead.ends (head : SentHead) : EndsHead head.text := by
  have first := head_lines_end [] head.status_line_unbroken
    (fun field inHead => (head.fields_sent field inHead).well_formed)
  exact ends_head_of_position first

/-! ## Reading the head -/

section Head

variable {head content : List UInt8} (ends : EndsHead head)

include ends

theorem head_in_front {found left : List UInt8}
    (split : found ++ left = head ++ (blankLine ++ content))
    (ended : occurs blankLine found = true) :
    ∃ leading, found = head ++ (blankLine ++ leading) ∧ leading ++ left = content := by
  obtain ⟨index, here⟩ := Option.isSome_iff_exists.mp ended
  have whole := position_append left here
  rw [split, ends.position] at whole
  cases whole
  have starts := position_starts here
  have cut : found.take head.length ++ (blankLine ++
      (found.drop (head.length + blankLine.length) ++ left)) =
        head ++ (blankLine ++ content) := by
    rw [← split]
    conv_rhs => rw [starts]
    simp only [List.append_assoc]
  have size : (found.take head.length).length = head.length := by
    apply List.length_take_of_le
    have lengths := congrArg List.length starts
    have below := position_fits here
    simp only [List.length_append, List.length_take, List.length_drop] at lengths
    have blank : blankLine.length = 4 := rfl
    omega
  obtain ⟨front, back⟩ := List.append_inj cut size
  refine ⟨found.drop (head.length + blankLine.length), ?_, ?_⟩
  · rw [front] at starts
    rw [← List.append_assoc]
    exact starts
  · exact List.append_cancel_left back

/-- What was read up to the empty line and what is left to read make up the
response, unless the head was refused for its length. -/
theorem read_head_of_response (stream : Duplex)
    (delivers : received stream.incoming = head ++ (blankLine ++ content)) :
    (∃ leading rest, leading ++ received rest = content ∧
        (EndsCleanly stream.incoming → EndsCleanly rest) ∧
        readHead.run stream = (.ok (head ++ (blankLine ++ leading)),
          { stream with incoming := rest })) ∨
      (65536 < head.length + 4 ∧
        ∃ after, readHead.run stream = (.err "response headers too large", after)) := by
  have whole : headRead ([] ++ received stream.incoming) = true := by
    have blank : occurs blankLine (head ++ (blankLine ++ content)) = true := by
      rw [occurs, ends.position]
      rfl
    rw [List.nil_append, delivers, headRead, blank, Bool.true_or]
  obtain ⟨found, rest, ran, complete, same, clean⟩ :=
    gather_stops 4096 (by decide) headRead [] stream.incoming rfl whole
  rw [List.nil_append, delivers] at same
  by_cases blank : occurs blankLine found = true
  · obtain ⟨leading, front, behind⟩ := head_in_front ends same blank
    apply Or.inl
    refine ⟨leading, rest, behind, clean, ?_⟩
    simp only [run, readHead, ran, if_pos blank, ← front]
  · apply Or.inr
    constructor
    · simp only [headRead, Bool.or_eq_true, decide_eq_true_eq] at complete
      have long := complete.resolve_left blank
      by_contra short
      apply blank
      have first : head ++ blankLine <+: head ++ (blankLine ++ content) :=
        ⟨content, List.append_assoc head blankLine content⟩
      have size : (head ++ blankLine).length ≤ found.length := by
        rw [List.length_append]
        have blank : blankLine.length = 4 := rfl
        omega
      obtain ⟨more, rfl⟩ := List.prefix_of_prefix_length_le first ⟨received rest, same⟩ size
      apply occurs_in_front (by simp [blankLine, crlf])
      exact (occurs_iff (by simp [blankLine, crlf])).mpr (List.suffix_append _ _).isInfix
    · simp only [run, readHead, ran, if_neg blank]
      exact ⟨_, rfl⟩

theorem split_head_at_blank_line (leading : List UInt8) :
    splitHead (head ++ (blankLine ++ leading)) = some (head, leading) := by
  have size : (blankLine ++ leading).length = leading.length + 4 := by
    rw [List.length_append, Nat.add_comm]
    rfl
  have behind : (head ++ (blankLine ++ leading)).drop (head.length + 4) = leading := by
    rw [List.drop_append, List.drop_of_length_le (by omega), List.nil_append]
    rw [show head.length + 4 - head.length = blankLine.length by
      rw [Nat.add_sub_cancel_left]; rfl]
    exact List.drop_left
  rw [splitHead, ends.position]
  simp only [Option.getD_some, behind, List.take_left]
  rw [if_pos]
  rw [List.length_append, size]
  omega

/-- A response whose header lines are taken is handed on with a body that still
holds every byte behind the head, unless the head was refused for its length. -/
theorem streamed_head {types : HeaderTypes} {fields : List Field}
    (built : (lines (fromUtf8Lossy head)).tail.foldl (addHeader types) (some []) = some fields)
    (stream : Duplex) (delivers : received stream.incoming = head ++ (blankLine ++ content)) :
    (∃ leading rest, leading ++ received rest = content ∧
        (EndsCleanly stream.incoming → EndsCleanly rest) ∧
        (readStreamingResponse types).run stream =
          (.ok {
              status := statusCode (lines (fromUtf8Lossy head)).head?
              headers := fields
              body := .new leading { stream with incoming := rest } },
            { stream with incoming := rest })) ∨
      (65536 < head.length + 4 ∧
        ∃ after, (readStreamingResponse types).run stream =
          (.err "response headers too large", after)) := by
  rcases read_head_of_response ends stream delivers with read | refused
  · obtain ⟨leading, rest, behind, restClean, ran⟩ := read
    apply Or.inl
    refine ⟨leading, rest, behind, restClean, ?_⟩
    rw [readStreamingResponse, run_bind_ok ran, split_head_at_blank_line ends,
      run_bind_ok (run_unwrap_some _ _)]
    simp only [built]
    rw [run_bind_ok (run_unwrap_some _ _)]
    rfl
  · obtain ⟨long, after, ran⟩ := refused
    apply Or.inr
    exact ⟨long, after, run_bind_err ran _⟩

end Head

/-! ## The head as text -/

def fieldText (field : Field) : List Char :=
  asciiText field.name ++ ':' :: fromUtf8Lossy field.value

theorem token_visible {name : List UInt8} (token : isToken name = true) :
    ∀ byte ∈ name, 0x21 ≤ byte ∧ byte ≤ 0x7E := by
  intro byte member
  simp only [isToken, decide_eq_true_eq] at token
  have tchar := token.2 byte member
  simp only [isTokenByte, decide_eq_true_eq] at tchar
  rcases tchar with digit | upper | lower | mark
  · exact ⟨UInt8.le_trans (by decide) digit.1, UInt8.le_trans digit.2 (by decide)⟩
  · exact ⟨UInt8.le_trans (by decide) upper.1, UInt8.le_trans upper.2 (by decide)⟩
  · exact ⟨UInt8.le_trans (by decide) lower.1, UInt8.le_trans lower.2 (by decide)⟩
  · simp only [List.mem_cons, List.not_mem_nil, or_false] at mark
    rcases mark with rfl | rfl | rfl | rfl | rfl | rfl | rfl | rfl | rfl | rfl | rfl | rfl | rfl |
      rfl | rfl <;> decide

theorem token_ascii {name : List UInt8} (token : isToken name = true) :
    ∀ byte ∈ name, byte < 0x80 := by
  intro byte member
  exact UInt8.lt_of_le_of_lt (token_visible token byte member).2 (by decide)

theorem lossy_field_line {field : Field} (sent : SentField field) :
    fromUtf8Lossy (fieldLine field) = fieldText field := by
  have colon := lossy_append_ascii field.name 0x3A (by decide) field.value
  have name := lossy_ascii field.name (token_ascii sent.token) []
  rw [List.append_nil, lossy_nil, List.append_nil] at name
  rw [fieldLine, colon, name]
  rfl

theorem lossy_crlf (front back : List UInt8) :
    fromUtf8Lossy (front ++ (crlf ++ back)) =
      fromUtf8Lossy front ++ '\r' :: '\n' :: fromUtf8Lossy back := by
  have carriageReturn := lossy_append_ascii front 0x0D (by decide) (0x0A :: back)
  have lineFeed := lossy_append_ascii [] 0x0A (by decide) back
  rw [List.nil_append, lossy_nil, List.nil_append] at lineFeed
  rw [lineFeed] at carriageReturn
  exact carriageReturn

theorem field_text_unbroken {field : Field} (sent : SentField field) :
    '\n' ∉ fieldText field := by
  rw [← lossy_field_line sent]
  exact lossy_has_no_line_feed _ (field_line_unbroken sent.well_formed)

theorem lines_of_fields (field : Field) (fields : List Field)
    (sent : ∀ other ∈ field :: fields, SentField other) :
    lines (fromUtf8Lossy (fieldLine field ++ ((fields.map fieldLine).map (crlf ++ ·)).flatten)) =
      fieldText field :: fields.map fieldText := by
  induction fields generalizing field with
  | nil =>
      have here := sent field (by simp)
      simp only [List.map_nil, List.flatten_nil, List.append_nil, lossy_field_line here]
      exact lines_unbroken (field_text_unbroken here) (by simp [fieldText])
  | cons next fields ih =>
      have here := sent field (by simp)
      have later := ih next (by intro other member; exact sent other (by simp [member]))
      simp only [List.map_cons, List.flatten_cons, List.append_assoc]
      rw [lossy_crlf, lossy_field_line here, lines_crlf _ _ (field_text_unbroken here), later]

theorem head_lines (head : SentHead)
    (solid : fromUtf8Lossy head.statusLine ≠ [] ∨ head.fields ≠ []) :
    lines (fromUtf8Lossy head.text) =
      fromUtf8Lossy head.statusLine :: head.fields.map fieldText := by
  have unbroken := lossy_has_no_line_feed _ head.status_line_unbroken
  unfold SentHead.text
  cases named : head.fields with
  | nil =>
      simp only [List.map_nil, List.flatten_nil, List.append_nil]
      exact lines_unbroken unbroken (solid.resolve_right (not_not.mpr named))
  | cons field fields =>
      have sent := head.fields_sent
      rw [named] at sent
      simp only [List.map_cons, List.flatten_cons, List.append_assoc]
      rw [lossy_crlf, lines_crlf _ _ unbroken, lines_of_fields field fields sent]

theorem head_lines_behind_status (head : SentHead) :
    (lines (fromUtf8Lossy head.text)).tail = head.fields.map fieldText := by
  by_cases solid : fromUtf8Lossy head.statusLine ≠ [] ∨ head.fields ≠ []
  · rw [head_lines head solid, List.tail_cons]
  · simp only [not_or, not_not] at solid
    simp only [SentHead.text, solid.2, List.map_nil, List.flatten_nil, List.append_nil, solid.1]
    rfl

/-! ## What `http` makes of a legal field -/

def legalValueChar (character : Char) : Bool :=
  character = '\t' ∨ (0x20 ≤ character.toNat ∧ character.toNat ≠ 0x7F)

/-- Names are tokens and come back in lower case; values without control
characters are kept. -/
structure HeaderTypes.AsDocumented (types : HeaderTypes) : Prop where
  token_lowered : ∀ name, isToken name = true → types.name (asciiText name) = some (name.map lower)
  value_kept : ∀ value, (∀ character ∈ value, legalValueChar character = true) →
    types.value value = some (text value)

/-- What becomes of an upstream field in the relayed response. -/
def relayedField (field : Field) : Option Field :=
  if eqIgnoreAsciiCase field.name (utf8 "connection") then none
  else some { name := field.name.map lower, value := text (trim (fromUtf8Lossy field.value)) }

theorem text_ascii {bytes : List UInt8} (ascii : ∀ byte ∈ bytes, byte < 0x80) :
    text (asciiText bytes) = bytes :=
  utf8_ascii_text ascii

theorem name_text_solid {field : Field} (sent : SentField field) :
    ∀ character ∈ asciiText field.name, isWhitespace character = false :=
  visible_ascii_solid (token_visible sent.token)

theorem name_text_no_colon {field : Field} (sent : SentField field) :
    ':' ∉ asciiText field.name := by
  intro member
  obtain ⟨byte, inName, same⟩ := List.mem_map.mp member
  apply (token_byte sent.token byte inName).1
  apply UInt8.toNat_inj.mp
  rw [← ascii_char_code byte, same]
  rfl

theorem trim_field_text {field : Field} (sent : SentField field) :
    trim (fieldText field) =
      asciiText field.name ++ ':' :: trimEnd (fromUtf8Lossy field.value) := by
  rw [trim, fieldText, trim_start_solid _ ':' _ (name_text_solid sent) rfl,
    trim_end_solid _ ':' _ rfl]

/-- Decoding and trimming a legal value leaves no control character in it. -/
theorem decoded_value_legal {value : List UInt8}
    (legal : ∀ byte ∈ value, legalValueByte byte = true) :
    ∀ character ∈ trim (fromUtf8Lossy value), legalValueChar character = true := by
  intro character member
  have inStart := (List.rdropWhile_prefix isWhitespace _).subset member
  have inValue := (List.dropWhile_suffix isWhitespace).subset inStart
  simp only [legalValueChar, decide_eq_true_eq]
  by_cases low : character.toNat < 0x80
  · obtain ⟨byte, inBytes, same⟩ := lossy_ascii_from_byte low inValue
    have allowed := legal byte inBytes
    simp only [legalValueByte, decide_eq_true_eq, UInt8.le_iff_toNat_le, ← UInt8.toNat_inj,
      UInt8.reduceToNat, ne_eq] at allowed
    rcases allowed with tab | visible
    · apply Or.inl
      apply Char.toNat_inj.mp
      rw [same, tab]
      rfl
    · apply Or.inr
      rw [same]
      exact visible
  · apply Or.inr
    omega

theorem add_header_field {types : HeaderTypes} (documented : types.AsDocumented) {field : Field}
    (sent : SentField field) (fields : List Field) :
    addHeader types (some fields) (fieldText field) =
      some (fields ++ (relayedField field).toList) := by
  have nonempty : asciiText field.name ++ ':' :: trimEnd (fromUtf8Lossy field.value) ≠ [] := by simp
  have named := documented.token_lowered field.name sent.token
  have valued := documented.value_kept _ (decoded_value_legal sent.legal)
  have noColon := name_text_no_colon sent
  simp only [addHeader, trim_field_text sent, if_neg nonempty, before_separator noColon,
    from_separator noColon, trim_solid _ (name_text_solid sent),
    text_ascii (token_ascii sent.token), trim_trim_end, named, valued, relayedField]
  split
  · simp
  · rfl

theorem add_header_fields {types : HeaderTypes} (documented : types.AsDocumented)
    (fields : List Field) (sent : ∀ field ∈ fields, SentField field) (added : List Field) :
    (fields.map fieldText).foldl (addHeader types) (some added) =
      some (added ++ fields.filterMap relayedField) := by
  induction fields generalizing added with
  | nil => simp
  | cons field fields ih =>
      have here := add_header_field documented (sent field (by simp)) added
      have later := ih (by intro other member; exact sent other (by simp [member]))
        (added ++ (relayedField field).toList)
      rw [List.map_cons, List.foldl_cons, here, later, List.filterMap_cons]
      cases relayedField field <;> simp

/-! ## The response that is handed on -/

/-- The response as it is handed on, with `leading` read and the rest to come. -/
def SentHead.handedOn (head : SentHead) (leading : List UInt8) (reader : Duplex) : Response where
  status := statusCode (lines (fromUtf8Lossy head.text)).head?
  headers := head.fields.filterMap relayedField
  body := .new leading reader

/-- A response whose head is within the limit is handed on: every field but the
connection fields, and a body that still holds every byte behind the head. -/
theorem streamed_sent_head {types : HeaderTypes} (documented : types.AsDocumented)
    (head : SentHead) {content : List UInt8} (stream : Duplex)
    (delivers : received stream.incoming = head.text ++ (blankLine ++ content)) :
    (∃ leading rest, leading ++ received rest = content ∧
        (EndsCleanly stream.incoming → EndsCleanly rest) ∧
        (readStreamingResponse types).run stream =
          (.ok (head.handedOn leading { stream with incoming := rest }),
            { stream with incoming := rest })) ∨
      (65536 < head.text.length + 4 ∧
        ∃ after, (readStreamingResponse types).run stream =
          (.err "response headers too large", after)) := by
  have built : (lines (fromUtf8Lossy head.text)).tail.foldl (addHeader types) (some []) =
      some (head.fields.filterMap relayedField) := by
    rw [head_lines_behind_status]
    exact add_header_fields documented head.fields head.fields_sent []
  exact streamed_head head.ends built stream delivers

/-- What holds of every response that may be handed on holds of the one that is
returned, and a head within the limit is answered. -/
theorem sent_head_answered {types : HeaderTypes} (documented : types.AsDocumented)
    (head : SentHead) {content : List UInt8} (stream : Duplex)
    (delivers : received stream.incoming = head.text ++ (blankLine ++ content))
    (said : Response → Prop)
    (holds : ∀ leading rest, leading ++ received rest = content →
      (EndsCleanly stream.incoming → EndsCleanly rest) →
        said (head.handedOn leading { stream with incoming := rest })) :
    (head.text.length + blankLine.length ≤ 65536 →
        ∃ response after, (readStreamingResponse types).run stream = (.ok response, after)) ∧
      ∀ response after, (readStreamingResponse types).run stream = (.ok response, after) →
        said response := by
  rcases streamed_sent_head documented head stream delivers with streamed | refused
  · obtain ⟨leading, rest, whole, clean, ran⟩ := streamed
    constructor
    · intro _
      exact ⟨_, _, ran⟩
    · intro response after ok
      rw [ran] at ok
      cases ok
      exact holds leading rest whole clean
  · obtain ⟨long, after, ran⟩ := refused
    constructor
    · intro short
      have blank : blankLine.length = 4 := rfl
      omega
    · intro response after' ok
      rw [ran] at ok
      cases ok

def UpstreamResponse.handedOn (response : UpstreamResponse) (leading : List UInt8)
    (reader : Duplex) :
    Response where
  status := statusCode (lines (fromUtf8Lossy response.headText)).head?
  headers := response.fields.filterMap relayedField
  body := .new leading reader

theorem streamed_response {types : HeaderTypes} (documented : types.AsDocumented)
    (response : UpstreamResponse) (stream : Duplex)
    (delivers : received stream.incoming = response.bytes) :
    (∃ leading rest, leading ++ received rest = response.content ∧
        (EndsCleanly stream.incoming → EndsCleanly rest) ∧
        (readStreamingResponse types).run stream =
          (.ok (response.handedOn leading { stream with incoming := rest }),
            { stream with incoming := rest })) ∨
      (65536 < response.headText.length + 4 ∧
        ∃ after, (readStreamingResponse types).run stream =
          (.err "response headers too large", after)) :=
  streamed_sent_head documented response.head stream delivers

theorem reader_frames_read (script : List ReadEvent) :
    readerFrames script =
      match DuplexStream.read 16384 script with
      | (.bytes [], _) => ([], .finished)
      | (.bytes filled, rest) => (filled :: (readerFrames rest).1, (readerFrames rest).2)
      | (.failure message, _) => ([], .failure message)
      | (.stalled, _) => ([], .pending) := by
  rw [readerFrames]
  split <;> simp_all

theorem frames_polled (body : ReaderBody) :
    body.frames =
      match body.pollFrame with
      | (.data bytes, after) => bytes :: after.frames
      | _ => [] := by
  obtain ⟨reader, leading⟩ := body
  cases leading with
  | some bytes => rfl
  | none =>
      rw [ReaderBody.frames, ReaderBody.pollFrame, reader_frames_read]
      obtain ⟨result, rest⟩ := DuplexStream.read 16384 reader.incoming
      cases result with
      | bytes filled =>
          cases filled with
          | nil => rfl
          | cons first more => rfl
      | failure message => rfl
      | stalled => rfl

theorem reader_frames_clean (script : List ReadEvent) (clean : EndsCleanly script) :
    (readerFrames script).1.flatten = received script ∧
      (∀ frame ∈ (readerFrames script).1, frame ≠ []) ∧ (readerFrames script).2 = .finished := by
  obtain ⟨bytes, rest, ran, restClean, atEnd⟩ := read_clean 16384 (by decide) script clean
  have kept := read_conserves 16384 script rest bytes ran
  cases bytes with
  | nil =>
      rw [reader_frames_read, ran, atEnd rfl]
      simp
  | cons first more =>
      have smaller := read_shrinks 16384 script rest first more ran
      obtain ⟨joined, nonempty, finished⟩ := reader_frames_clean rest restClean
      rw [reader_frames_read, ran, ← kept, ← joined]
      refine ⟨rfl, ?_, finished⟩
      intro frame member
      rcases List.mem_cons.mp member with rfl | later
      · simp
      · exact nonempty frame later
termination_by scriptSize script

/-- The frames of a body are the bytes read with the head and then the stream's. -/
theorem body_frames_clean (leading : List UInt8) (reader : Duplex)
    (clean : EndsCleanly reader.incoming) :
    (ReaderBody.new leading reader).frames.flatten = leading ++ received reader.incoming ∧
      ∀ frame ∈ (ReaderBody.new leading reader).frames, frame ≠ [] := by
  obtain ⟨joined, nonempty, _⟩ := reader_frames_clean reader.incoming clean
  rw [ReaderBody.frames, ReaderBody.new]
  by_cases empty : leading = []
  · simp only [empty, List.nil_append]
    exact ⟨joined, nonempty⟩
  · simp only [if_neg empty, Option.toList_some, List.singleton_append, List.flatten_cons, joined,
      true_and]
    intro frame member
    rcases List.mem_cons.mp member with rfl | later
    · exact empty
    · exact nonempty frame later

end MultiProxy.StreamingResponse
