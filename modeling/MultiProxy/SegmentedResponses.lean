import MultiProxy.RelayedHeads
import MultiProxy.ResponseHeads

/-!
# A response in any segmentation

The head may be cut into reads anywhere, also inside its empty line, and the
last of these reads may carry the beginning of the body. The body is then polled
one poll at a time. Neither the cuts nor the polls that find nothing can be seen
in what `read_streaming_response` returns.
-/

namespace MultiProxy.SegmentedResponses

open MultiProxy.RustRuntime MultiProxy.ByteScan MultiProxy.LossyText MultiProxy.MessageFraming
open MultiProxy.DuplexStream MultiProxy.DuplexStream.Exchange MultiProxy.StreamingResponse
open MultiProxy.RelayedBody MultiProxy.RelayedHeads MultiProxy.ResponseHeads

set_option autoImplicit false

/-! ## Single polls -/

/-- `AsyncRead::poll_read` into a buffer of `capacity` bytes; without a result it
is `Pending`. -/
def pollRead (capacity : Nat) : List ReadEvent → Option ReadResult × List ReadEvent
  | [] => (some (.bytes []), [])
  | .pending :: rest => (none, rest)
  | .failure message :: rest => (some (.failure message), rest)
  | .stall :: rest => (none, .stall :: rest)
  | .data [] :: rest => (none, rest)
  | .data (first :: more) :: rest =>
      if (first :: more).length ≤ capacity then (some (.bytes (first :: more)), rest)
      else (some (.bytes ((first :: more).take capacity)),
        .data ((first :: more).drop capacity) :: rest)

def readerAt (reader : Duplex) (script : List ReadEvent) : ReaderBody where
  reader := { reader with incoming := script }
  leading := none

/-- `poll_frame`, once. -/
def pollOnce (body : ReaderBody) : Frame × ReaderBody :=
  match body.leading with
  | some bytes => (.data bytes, { body with leading := none })
  | none =>
      match pollRead 16384 body.reader.incoming with
      | (none, rest) => (.pending, readerAt body.reader rest)
      | (some (.bytes []), rest) => (.finished, readerAt body.reader rest)
      | (some (.bytes filled), rest) => (.data filled, readerAt body.reader rest)
      | (some (.failure message), rest) => (.failure message, readerAt body.reader rest)
      | (some .stalled, rest) => (.pending, readerAt body.reader rest)

/-- The data frames that a consumer gets with so many polls, and what the last
of them came back with: it polls until the body yields no more data. -/
def drain : Nat → ReaderBody → List (List UInt8) × Frame
  | 0, _ => ([], .pending)
  | polls + 1, body =>
      match pollOnce body with
      | (.data bytes, after) => (bytes :: (drain polls after).1, (drain polls after).2)
      | (.pending, after) => drain polls after
      | (last, _) => ([], last)

/-- Each poll of a stream that ends in order either uses up a part of the script
without a result, or comes back with what the whole read comes back with. -/
theorem poll_read_clean (capacity : Nat) (script : List ReadEvent) (clean : EndsCleanly script) :
    (∃ rest, pollRead capacity script = (none, rest) ∧ EndsCleanly rest ∧
        scriptSize rest < scriptSize script ∧
        DuplexStream.read capacity script = DuplexStream.read capacity rest) ∨
      ∃ result rest, pollRead capacity script = (some result, rest) ∧
        DuplexStream.read capacity script = (result, rest) := by
  cases script with
  | nil => exact Or.inr ⟨_, _, rfl, rfl⟩
  | cons event rest =>
      have smaller : scriptSize rest < scriptSize (event :: rest) := by
        cases event <;> simp [scriptSize, eventSize]
      cases event with
      | pending => exact Or.inl ⟨rest, rfl, clean, smaller, rfl⟩
      | failure message => cases clean
      | stall => cases clean
      | data bytes =>
          cases bytes with
          | nil => exact Or.inl ⟨rest, rfl, clean, smaller, rfl⟩
          | cons first more =>
              apply Or.inr
              simp only [pollRead, DuplexStream.read]
              split
              · exact ⟨_, _, rfl, rfl⟩
              · exact ⟨_, _, rfl, rfl⟩

theorem drain_reader (reader : Duplex) (script : List ReadEvent) (clean : EndsCleanly script)
    (polls : Nat) (enough : scriptSize script < polls) :
    drain polls (readerAt reader script) = readerFrames script := by
  induction polls generalizing script with
  | zero => omega
  | succ polls ih =>
      rcases poll_read_clean 16384 script clean with
        ⟨rest, polled, restClean, smaller, same⟩ | ⟨result, rest, polled, ran⟩
      · have later := ih rest restClean (by omega)
        have sameFrames : readerFrames script = readerFrames rest := by
          rw [reader_frames_read, reader_frames_read rest, same]
        rw [sameFrames, ← later]
        simp only [drain, pollOnce, readerAt, polled]
      · obtain ⟨bytes, left, bytesRead, leftClean, _⟩ := read_clean 16384 (by decide) script clean
        rw [ran] at bytesRead
        cases bytesRead
        rw [reader_frames_read, ran]
        cases bytes with
        | nil => simp only [drain, pollOnce, readerAt, polled]
        | cons first more =>
            have smaller := read_shrinks 16384 script rest first more ran
            have later := ih rest leftClean (by omega)
            simp only [readerAt] at later
            simp only [drain, pollOnce, readerAt, polled, later]

theorem drain_body (leading : List UInt8) (reader : Duplex) (clean : EndsCleanly reader.incoming)
    (polls : Nat) (enough : scriptSize reader.incoming + 1 < polls) :
    drain polls (.new leading reader) = ((ReaderBody.new leading reader).frames, .finished) := by
  obtain ⟨_, _, finished⟩ := reader_frames_clean reader.incoming clean
  cases polls with
  | zero => omega
  | succ polls =>
      by_cases empty : leading = []
      · have drained := drain_reader reader reader.incoming clean (polls + 1) (by omega)
        simp only [readerAt] at drained
        simp only [ReaderBody.new, ReaderBody.frames, if_pos empty, drained, Option.toList_none,
          List.nil_append, ← finished]
      · have drained := drain_reader reader reader.incoming clean polls (by omega)
        simp only [readerAt] at drained
        simp only [ReaderBody.new, ReaderBody.frames, if_neg empty, drain, pollOnce, drained,
          Option.toList_some, List.singleton_append, finished]

/-! ## The whole response -/

/-- A consumer that polls often enough gets these frames and then the end. -/
def Yields (body : ReaderBody) (frames : List (List UInt8)) : Prop :=
  ∃ enough, ∀ polls, enough ≤ polls → drain polls body = (frames, .finished)

theorem new_body_yields (leading : List UInt8) (reader : Duplex)
    (clean : EndsCleanly reader.incoming) :
    ∃ frames, Yields (.new leading reader) frames ∧
      frames.flatten = leading ++ received reader.incoming ∧ ∀ frame ∈ frames, frame ≠ [] :=
  ⟨_, ⟨_, drain_body leading reader clean⟩, body_frames_clean leading reader clean⟩

theorem legal_lines_build (types : HeaderTypes) (headers : List (List Char))
    (legal : ∀ line ∈ headers, ¬ IllegalLine types line) :
    ∃ fields, headers.foldl (addHeader types) (some []) = some fields := by
  apply Option.ne_none_iff_exists'.mp
  intro spoiled
  obtain ⟨line, member, illegal, _⟩ := (builder_spoiled_iff types headers []).mp spoiled
  exact legal line member illegal

theorem field_text_name_and_value {field : Field} (sent : SentField field) :
    nameAndValue (fieldText field) =
      some (asciiText field.name, trim (fromUtf8Lossy field.value)) := by
  have noColon := name_text_no_colon sent
  simp only [nameAndValue, trim_field_text sent, before_separator noColon, from_separator noColon,
    trim_solid _ (name_text_solid sent), trim_trim_end]

theorem sent_lines_legal {types : HeaderTypes} (documented : types.AsDocumented)
    (head : SentHead) :
    ∀ line ∈ (lines (fromUtf8Lossy head.text)).tail, ¬ IllegalLine types line := by
  intro line member
  rw [head_lines_behind_status] at member
  obtain ⟨field, inHead, rfl⟩ := List.mem_map.mp member
  have sent := head.fields_sent field inHead
  have named := documented.token_lowered field.name sent.token
  have valued := documented.value_kept _ (decoded_value_legal sent.legal)
  rintro ⟨name, value, field, refused⟩
  rw [field_text_name_and_value sent] at field
  cases field
  rw [named, valued] at refused
  simp at refused

/-- Status and header list are the head's alone, and the body yields exactly what
follows the empty line, for every way in which the bytes may arrive. -/
theorem response_in_any_segmentation (types : HeaderTypes) (head : List UInt8)
    (short : head.length + blankLine.length ≤ 65536)
    (legal : ∀ line ∈ (lines (fromUtf8Lossy head)).tail, ¬ IllegalLine types line) :
    ∃ status headers, ∀ (content : List UInt8) (stream : Duplex),
      position blankLine (head ++ (blankLine ++ content)) = some head.length →
      EndsCleanly stream.incoming →
      received stream.incoming = head ++ (blankLine ++ content) →
        ∃ response after, (readStreamingResponse types).run stream = (.ok response, after) ∧
          response.status = status ∧ response.headers = headers ∧
          ∃ frames, Yields response.body frames ∧ frames.flatten = content ∧
            ∀ frame ∈ frames, frame ≠ [] := by
  obtain ⟨fields, built⟩ := legal_lines_build types _ legal
  refine ⟨statusCode (lines (fromUtf8Lossy head)).head?, fields, ?_⟩
  intro content stream first clean delivers
  rcases streamed_head (ends_head_of_position first) built stream delivers with
    ⟨leading, rest, behind, restClean, ran⟩ | ⟨long, _⟩
  · obtain ⟨frames, yields, joined, nonempty⟩ :=
      new_body_yields leading { stream with incoming := rest } (restClean clean)
    exact ⟨_, _, ran, rfl, rfl, frames, yields, joined.trans behind, nonempty⟩
  · have blank : blankLine.length = 4 := rfl
    omega

def idField : Field where
  name := utf8 "X-Id"
  value := utf8 " 7"

def identifiedHead : SentHead where
  statusLine := utf8 "HTTP/1.1 200 OK"
  fields := [idField]
  status_line_unbroken := ok_line_unbroken
  fields_sent := sent_of_one ⟨by decide, by decide⟩

/-- The empty line comes in three reads, and the last of them begins the body. -/
def cutInTheEmptyLine : Duplex where
  incoming := [.data (utf8 "HTTP/1.1 200 OK\r\nX-Id: 7\r"), .pending, .data (utf8 "\n\r"),
    .data (utf8 "\nhel"), .pending, .data (utf8 "lo"), .pending]
  sent := []
  flushed := 0
  writes := []

theorem hello_cut_in_the_empty_line :
    ∃ response after, (readStreamingResponse strictHeaders).run cutInTheEmptyLine =
        (.ok response, after) ∧
      ∃ frames, Yields response.body frames ∧ frames.flatten = utf8 "hello" ∧
        ∀ frame ∈ frames, frame ≠ [] := by
  obtain ⟨_, _, streamed⟩ := response_in_any_segmentation strictHeaders identifiedHead.text
    (by decide) (sent_lines_legal strict_headers_documented identifiedHead)
  obtain ⟨response, after, ran, _, _, yielded⟩ := streamed (utf8 "hello") cutInTheEmptyLine
    (identifiedHead.ends.position _) trivial rfl
  exact ⟨response, after, ran, yielded⟩

end MultiProxy.SegmentedResponses
