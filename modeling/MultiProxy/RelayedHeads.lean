import MultiProxy.RelayedBody

/-!
# Status and values of a relayed head

A well-formed head goes through lossy decoding and through the line, word and
trim functions of text before its fields are built again from bytes. The status
code always survives this. A value does as long as it is text in which the bytes
between the surrounding spaces and tabs are also what trimming text leaves.
-/

namespace MultiProxy.RelayedHeads

open MultiProxy.RustRuntime MultiProxy.ByteScan MultiProxy.LossyText MultiProxy.MessageFraming
open MultiProxy.DuplexStream MultiProxy.DuplexStream.Exchange MultiProxy.StreamingResponse
open MultiProxy.RelayedBody

set_option autoImplicit false

/-! ## Heads with a status line -/

structure ResponseHead where
  version : List UInt8
  code : UInt16
  reason : List UInt8
  fields : List Field
  version_visible : version ≠ [] ∧ ∀ byte ∈ version, 0x21 ≤ byte ∧ byte ≤ 0x7E
  code_in_range : 100 ≤ code ∧ code ≤ 999
  reason_legal : ∀ byte ∈ reason, legalValueByte byte = true
  fields_sent : ∀ field ∈ fields, SentField field

namespace ResponseHead

variable (head : ResponseHead)

def codeText : List Char := (Nat.repr head.code.toNat).toList

def statusLine : List UInt8 :=
  head.version ++ 0x20 :: (utf8 (Nat.repr head.code.toNat) ++ 0x20 :: head.reason)

theorem status_line_unbroken : (0x0A : UInt8) ∉ head.statusLine := by
  have noneInVersion : (0x0A : UInt8) ∉ head.version := by
    intro member
    exact absurd (head.version_visible.2 _ member).1 (by decide)
  have noneInCode : (0x0A : UInt8) ∉ utf8 (Nat.repr head.code.toNat) := by
    intro member
    exact absurd (decimal_digit (line_feed_of_utf8 member)) (by decide)
  have noneInReason := legal_value_unbroken head.reason_legal
  simp [statusLine, noneInVersion, noneInCode, noneInReason]

def sent : SentHead where
  statusLine := head.statusLine
  fields := head.fields
  status_line_unbroken := head.status_line_unbroken
  fields_sent := head.fields_sent

def text : List UInt8 := head.sent.text

theorem status_line_text :
    fromUtf8Lossy head.statusLine =
      asciiText head.version ++ ' ' :: (head.codeText ++ ' ' :: fromUtf8Lossy head.reason) := by
  have version := lossy_ascii head.version
    (fun byte member => visible_is_ascii (head.version_visible.2 byte member)) []
  rw [List.append_nil, lossy_nil, List.append_nil] at version
  have behindCode := lossy_append_ascii [] 0x20 (by decide) head.reason
  rw [List.nil_append, lossy_nil, List.nil_append] at behindCode
  rw [statusLine, lossy_append_ascii head.version 0x20 (by decide), version, lossy_utf8_append,
    behindCode]
  rfl

theorem status_line_words :
    (splitWhitespace (fromUtf8Lossy head.statusLine))[1]? = some head.codeText := by
  have version := visible_ascii_solid head.version_visible.2
  have nonempty : [] ++ asciiText head.version ≠ [] := by
    simpa [asciiText] using head.version_visible.1
  have digits : ∀ character ∈ head.codeText, isWhitespace character = false := by
    intro character member
    have range := decimal_digit_range member
    simp only [isWhitespace, decide_eq_false_iff_not]
    omega
  rw [status_line_text, splitWhitespace, words_from_word [] _ ' ' _ version rfl nonempty,
    words_from_word [] _ ' ' _ digits rfl (repr_nonempty head.code.toNat)]
  rfl

theorem status_code_kept : statusCode (lines (fromUtf8Lossy head.text)).head? = head.code := by
  have solid : fromUtf8Lossy head.sent.statusLine ≠ [] := by
    have form := head.status_line_text
    rw [show head.sent.statusLine = head.statusLine from rfl, form]
    simp
  have words : (splitWhitespace (fromUtf8Lossy head.sent.statusLine))[1]? = some head.codeText :=
    head.status_line_words
  rw [text, head_lines head.sent (Or.inl solid), List.head?_cons]
  simp only [statusCode, Option.bind_some, words, codeText, parse_u16_repr, Option.getD_some,
    if_pos head.code_in_range]

end ResponseHead

/-! ## Values -/

/-- A value whose bytes are text, with no whitespace of text at either end. -/
def PlainText (value : List UInt8) : Prop :=
  ∃ chars, value = StreamingResponse.text chars ∧ SolidEnds chars

/-- What becomes of the bytes of a value. -/
def relayedValue (value : List UInt8) : List UInt8 :=
  StreamingResponse.text (trim (fromUtf8Lossy value))

theorem ows_text_blank {bytes : List UInt8} (blank : ∀ byte ∈ bytes, isOws byte = true) :
    ∀ character ∈ asciiText bytes, isWhitespace character = true := by
  intro character member
  obtain ⟨byte, inBytes, rfl⟩ := List.mem_map.mp member
  have space := blank byte inBytes
  simp only [isOws, decide_eq_true_eq] at space
  rcases space with rfl | rfl <;> rfl

theorem ows_ascii {bytes : List UInt8} (blank : ∀ byte ∈ bytes, isOws byte = true) :
    ∀ byte ∈ bytes, byte < 0x80 := by
  intro byte member
  have space := blank byte member
  simp only [isOws, decide_eq_true_eq] at space
  rcases space with rfl | rfl <;> decide

/-- A value is relayed as it stands between its surrounding spaces and tabs exactly
if that is text with solid ends. -/
theorem relayed_value_iff (value : List UInt8) :
    relayedValue value = trimOws value ↔ PlainText (trimOws value) := by
  constructor
  · intro same
    exact ⟨trim (fromUtf8Lossy value), same.symm, trim_solid_ends _⟩
  · rintro ⟨chars, form, ends⟩
    obtain ⟨front, back, whole, blankFront, blankBack⟩ := ows_around value
    have behind := lossy_ascii back (ows_ascii blankBack) []
    rw [List.append_nil, lossy_nil, List.append_nil] at behind
    have decoded : fromUtf8Lossy value = asciiText front ++ (chars ++ asciiText back) := by
      rw [whole, lossy_ascii front (ows_ascii blankFront), form, StreamingResponse.text,
        lossy_utf8_append, String.toList_ofList, behind]
    rw [relayedValue, decoded, trim_around _ _ _ ends (ows_text_blank blankFront)
      (ows_text_blank blankBack), form]

/-! ## Fields -/

def connectionName : List UInt8 := utf8 "connection"

/-- The values of a name, in order and as they stand. -/
def valuesOf (name : List UInt8) (fields : List Field) : List (List UInt8) :=
  (fields.filter fun field => eqIgnoreAsciiCase field.name name).map Field.value

/-- The upstream's fields except its connection fields, without surrounding spaces
and tabs. -/
def fieldsToRelay (fields : List Field) : List Field :=
  (fields.filter fun field => !eqIgnoreAsciiCase field.name connectionName).map Field.trimmed

def relayed (field : Field) : Field where
  name := field.name.map lower
  value := relayedValue field.value

theorem relayed_fields (fields : List Field) :
    fields.filterMap relayedField =
      (fields.filter fun field => !eqIgnoreAsciiCase field.name connectionName).map relayed := by
  rw [← List.filterMap_eq_map, List.filterMap_filter]
  apply List.filterMap_congr
  intro field _
  rw [relayedField, connectionName]
  by_cases connection : eqIgnoreAsciiCase field.name (utf8 "connection") = true
  · rw [if_pos connection, if_neg (by simp [connection])]
  · rw [if_neg connection, if_pos (by simp [connection])]
    rfl

theorem relayed_values (name : List UInt8) (fields : List Field) :
    valuesOf name (fields.filterMap relayedField) =
      ((fields.filter fun field => !eqIgnoreAsciiCase field.name connectionName).filter
        fun field => eqIgnoreAsciiCase field.name name).map fun field =>
          relayedValue field.value := by
  have sameName : ∀ field : Field,
      eqIgnoreAsciiCase (relayed field).name name = eqIgnoreAsciiCase field.name name :=
    fun field => case_equal_lowered field.name name
  rw [valuesOf, relayed_fields, List.filter_map, List.map_map]
  simp only [Function.comp_def, sameName]
  rfl

theorem values_to_relay (name : List UInt8) (fields : List Field) :
    valuesOf name (fieldsToRelay fields) =
      ((fields.filter fun field => !eqIgnoreAsciiCase field.name connectionName).filter
        fun field => eqIgnoreAsciiCase field.name name).map fun field => trimOws field.value := by
  rw [valuesOf, fieldsToRelay, List.filter_map, List.map_map]
  rfl

/-- Every name keeps its values in order, with duplicates, exactly if the value of
every relayed field does. -/
theorem relayed_values_exact_iff (fields : List Field) :
    (∀ name, valuesOf name (fields.filterMap relayedField) =
        valuesOf name (fieldsToRelay fields)) ↔
      ∀ field ∈ fields, eqIgnoreAsciiCase field.name connectionName = false →
        PlainText (trimOws field.value) := by
  simp only [relayed_values, values_to_relay, List.map_inj_left, List.mem_filter, and_imp,
    Bool.not_eq_true', relayed_value_iff]
  constructor
  · intro plain field member relayed
    exact plain field.name field member relayed (by simp [eqIgnoreAsciiCase])
  · intro plain name field member relayed _
    exact plain field member relayed

/-! ## The relayed head -/

/-- The response has the head's code and, under each name, exactly its values. -/
structure HeadKept (head : ResponseHead) (response : Response) : Prop where
  status : response.status = head.code
  values : ∀ name, valuesOf name response.headers = valuesOf name (fieldsToRelay head.fields)

/-- Within the limit a head is answered, and the answer keeps it exactly if every
value that is relayed is plain text. -/
theorem relayed_head_kept_iff {types : HeaderTypes} (documented : types.AsDocumented)
    (head : ResponseHead) (content : List UInt8) (stream : Duplex)
    (delivers : received stream.incoming = head.text ++ (blankLine ++ content)) :
    (head.text.length + blankLine.length ≤ 65536 →
        ∃ response after, (readStreamingResponse types).run stream = (.ok response, after)) ∧
      ∀ response after, (readStreamingResponse types).run stream = (.ok response, after) →
        (HeadKept head response ↔
          ∀ field ∈ head.fields, eqIgnoreAsciiCase field.name connectionName = false →
            PlainText (trimOws field.value)) := by
  apply sent_head_answered documented head.sent stream delivers
  intro leading rest _ _
  rw [← relayed_values_exact_iff]
  constructor
  · intro kept
    exact kept.values
  · intro values
    exact ⟨head.status_code_kept, values⟩

theorem http_version_visible :
    utf8 "HTTP/1.1" ≠ [] ∧ ∀ byte ∈ utf8 "HTTP/1.1", 0x21 ≤ byte ∧ byte ≤ 0x7E := by decide

theorem ok_line_unbroken : (0x0A : UInt8) ∉ utf8 "HTTP/1.1 200 OK" := by decide

theorem sent_of_one {field : Field} (sent : SentField field) :
    ∀ other ∈ [field], SentField other := by
  intro other member
  rw [List.mem_singleton] at member
  subst member
  exact sent

/-- A head with one field, whose value is given in bytes. -/
def headWith (name value : List UInt8) (sent : SentField { name := name, value := value }) :
    ResponseHead where
  version := utf8 "HTTP/1.1"
  code := 404
  reason := utf8 "Not Found"
  fields := [{ name := name, value := value }]
  version_visible := http_version_visible
  code_in_range := by decide
  reason_legal := by decide
  fields_sent := sent_of_one sent

def headOnly (head : ResponseHead) : Duplex where
  incoming := [.data (head.text ++ blankLine)]
  sent := []
  flushed := 0
  writes := []

def authorName : List UInt8 := utf8 "X-Author"

/-- The value is "René" in the coding that has one byte for each character. -/
def latinHead : ResponseHead :=
  headWith authorName [0x20, 0x52, 0x65, 0x6E, 0xE9] ⟨by decide, by decide⟩

/-- A byte that is no text comes back as the three bytes of the replacement character. -/
theorem latin_value_is_replaced :
    ∃ response after, (readStreamingResponse strictHeaders).run (headOnly latinHead) =
        (.ok response, after) ∧
      valuesOf authorName response.headers = [[0x52, 0x65, 0x6E, 0xEF, 0xBF, 0xBD]] ∧
      ¬ HeadKept latinHead response := by
  obtain ⟨answered, relays⟩ := sent_head_answered strict_headers_documented latinHead.sent
    (headOnly latinHead) (List.append_nil _)
    (fun response => response.headers = latinHead.fields.filterMap relayedField)
    (fun _ _ _ _ => rfl)
  obtain ⟨response, after, ran⟩ := answered (by decide)
  have headers := relays response after ran
  refine ⟨response, after, ran, ?_, ?_⟩
  · rw [headers]
    decide
  · intro kept
    have same := kept.values authorName
    rw [headers] at same
    exact absurd same (by decide)

def serverHead : ResponseHead := headWith (utf8 "Server") (utf8 " nginx ") ⟨by decide, by decide⟩

theorem server_head_is_kept :
    ∃ response after, (readStreamingResponse strictHeaders).run (headOnly serverHead) =
        (.ok response, after) ∧ HeadKept serverHead response := by
  obtain ⟨answered, kept⟩ := relayed_head_kept_iff strict_headers_documented serverHead []
    (headOnly serverHead) (by rw [headOnly, received, received, List.append_nil, List.append_nil])
  obtain ⟨response, after, ran⟩ := answered (by decide)
  refine ⟨response, after, ran, (kept response after ran).mpr ?_⟩
  intro field member _
  rw [serverHead, headWith, List.mem_singleton] at member
  subst member
  exact ⟨trim "nginx".toList, by decide, trim_solid_ends _⟩

end MultiProxy.RelayedHeads
