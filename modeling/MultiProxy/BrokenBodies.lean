import MultiProxy.StreamEndings

/-!
# Bodies that break off

An upstream may close its connection, fail or fall silent anywhere in a body. The body
passes on every byte up to there and then how the reads ended, and the server library
ends the relayed body in order only where the reads did. What a client takes for a
complete body is decided by that and by the announced length.
-/

namespace MultiProxy.BrokenBodies

open MultiProxy.RustRuntime MultiProxy.ByteScan MultiProxy.LossyText MultiProxy.MessageFraming
open MultiProxy.ChunkedCoding MultiProxy.DuplexStream MultiProxy.DuplexStream.Exchange
open MultiProxy.StreamingResponse MultiProxy.RelayedBody MultiProxy.ResponseHeads
open MultiProxy.StreamEndings

set_option autoImplicit false

/-! ## The body to its end -/

def lastPoll : Ending → Frame
  | .eof => .finished
  | .failure message => .failure message
  | .deadline => .pending

/-- The frames of a stream are its bytes, and its last poll tells how the reads ended. -/
theorem reader_frames_whole (script : List ReadEvent) :
    (readerFrames script).1.flatten = received script ∧
      (∀ frame ∈ (readerFrames script).1, frame ≠ []) ∧
        (readerFrames script).2 = lastPoll (endingOf script) := by
  have ending := read_ending 16384 (by decide) script
  rw [reader_frames_read]
  rcases ran : DuplexStream.read 16384 script with ⟨result, rest⟩
  rw [ran] at ending
  cases result with
  | failure message => simp [ending.1, ending.2, lastPoll]
  | stalled => simp [ending.1, ending.2, lastPoll]
  | bytes bytes =>
      cases bytes with
      | nil => simp [ending.1, ending.2.1, lastPoll]
      | cons first more =>
          have kept := read_conserves 16384 script rest (first :: more) ran
          have smaller := read_shrinks 16384 script rest first more ran
          obtain ⟨joined, nonempty, last⟩ := reader_frames_whole rest
          refine ⟨?_, ?_, ?_⟩
          · rw [List.flatten_cons, joined, kept]
          · intro frame member
            rcases List.mem_cons.mp member with rfl | later
            · exact List.cons_ne_nil _ _
            · exact nonempty frame later
          · rw [last, ending]
termination_by scriptSize script

/-- How a body ends once all its frames have been polled. -/
def lastFrame (body : ReaderBody) : Frame := (readerFrames body.reader.incoming).2

theorem body_frames_whole (leading : List UInt8) (reader : Duplex) :
    (ReaderBody.new leading reader).frames.flatten = leading ++ received reader.incoming ∧
      (∀ frame ∈ (ReaderBody.new leading reader).frames, frame ≠ []) ∧
        lastFrame (.new leading reader) = lastPoll (endingOf reader.incoming) := by
  obtain ⟨joined, nonempty, last⟩ := reader_frames_whole reader.incoming
  rw [ReaderBody.frames, ReaderBody.new]
  by_cases empty : leading = []
  · simp only [empty, List.nil_append]
    exact ⟨joined, nonempty, last⟩
  · simp only [if_neg empty, Option.toList_some, List.singleton_append, List.flatten_cons, joined,
      true_and]
    refine ⟨?_, last⟩
    intro frame member
    rcases List.mem_cons.mp member with rfl | later
    · exact empty
    · exact nonempty frame later

/-! ## The head takes nothing of the end -/

theorem head_read_ending {stream after : Duplex} {headerBuf : List UInt8}
    (ran : readHead.run stream = (.ok headerBuf, after)) :
    endingOf after.incoming = endingOf stream.incoming := by
  rw [read_head_exit] at ran
  rcases gathered : gather 4096 headRead [] stream.incoming with ⟨exit, rest⟩
  rw [gathered] at ran
  cases exit with
  | stopped found =>
      rw [headOf] at ran
      split at ran
      · cases ran
        exact (gather_keeps 4096 (by decide) headRead [] _ _ headerBuf (.inl gathered)).1
      · cases ran
  | ended found =>
      cases ran
      exact (gather_keeps 4096 (by decide) headRead [] _ _ headerBuf (.inr gathered)).1
  | failure message => cases ran
  | stalled => cases ran

/-- What is left to read behind the head ends as all of it does. -/
theorem relayed_ending {types : HeaderTypes} {stream after : Duplex} {relayed : Response}
    (ran : (readStreamingResponse types).run stream = (.ok relayed, after)) :
    lastFrame relayed.body = lastPoll (endingOf stream.incoming) := by
  rw [readStreamingResponse, run_bind] at ran
  rcases first : readHead.run stream with ⟨outcome, middle⟩
  rw [first] at ran
  cases outcome with
  | err message => cases ran
  | panic => cases ran
  | hang => cases ran
  | ok headerBuf =>
      have same := head_read_ending first
      cases cut : splitHead headerBuf with
      | none =>
          simp only [cut] at ran
          cases ran
      | some split =>
          obtain ⟨headers, leading⟩ := split
          simp only [cut] at ran
          rw [run_bind_ok (run_unwrap_some _ _)] at ran
          simp only [run_bind] at ran
          cases built : (lines (fromUtf8Lossy headers)).tail.foldl (addHeader types) (some []) with
          | none =>
              rw [built] at ran
              cases ran
          | some fields =>
              rw [built] at ran
              cases ran
              rw [← same]
              exact (body_frames_whole leading after).2.2

/-! ## Server and client -/

/-- hyper's HTTP/1 server, as far as a response with a body meets it (not one to `HEAD`,
nor a 204 or 304): the fields and the bytes behind the head that it writes for the data
frames and for how they end, if it comes to write anything. -/
structure StreamServer where
  respond : List Field → List (List UInt8) → Frame → Option (List Field × List UInt8)

/-- A body that is finished, or has the announced length, is written whole. Of one that
breaks off any part may be written, and the last chunk never is. -/
structure StreamServer.AsDocumented (server : StreamServer) : Prop where
  finished : ∀ fields frames, framing fields = some .chunked ∨ framing fields = some .absent →
    (∀ frame ∈ frames, frame ≠ []) → ∃ written, framing written = some .chunked ∧
      server.respond fields frames .finished = some (written, encodeChunks frames)
  cut : ∀ fields frames last, framing fields = some .chunked ∨ framing fields = some .absent →
    (∀ frame ∈ frames, frame ≠ []) → last ≠ .finished → ∀ written bytes,
      server.respond fields frames last = some (written, bytes) →
        framing written = some .chunked ∧ bytes <+: (frames.map encodeChunk).flatten
  filled : ∀ fields frames last count, framing fields = some (.length count) →
    count ≤ frames.flatten.length → ∃ written, framing written = some (.length count) ∧
      server.respond fields frames last = some (written, frames.flatten.take count)
  short : ∀ fields frames last count, framing fields = some (.length count) →
    frames.flatten.length < count → ∀ written bytes,
      server.respond fields frames last = some (written, bytes) →
        framing written = some (.length count) ∧ bytes <+: frames.flatten

def clientTakes (server : StreamServer) (response : Response) : Option (List UInt8) :=
  (server.respond response.headers response.body.frames (lastFrame response.body)).bind
    fun written => (framing written.1).bind fun found =>
      (splitBody (fun rest => (rest, [])) found written.2).map (·.1)

/-- What there is of a body to be taken for complete: all bytes of the announced length,
or everything there was, if the upstream ended it in order. -/
def wholeBody (found : Framing) (content : List UInt8) (ending : Ending) :
    Option (List UInt8) :=
  match found with
  | .length count => if count ≤ content.length then some (content.take count) else none
  | .chunked => if ending = .eof then some content else none
  | .absent => if ending = .eof then some content else none

theorem chunks_without_last (payloads : List (List UInt8))
    (nonempty : ∀ payload ∈ payloads, payload ≠ []) (fuel : Nat) :
    decodeWithin fuel (payloads.map encodeChunk).flatten = none := by
  induction payloads generalizing fuel with
  | nil => cases fuel <;> rfl
  | cons payload payloads ih =>
      cases fuel with
      | zero => rfl
      | succ fuel =>
          rw [List.map_cons, List.flatten_cons,
            decode_within_chunk fuel payload _ (nonempty payload (by simp)),
            ih (fun later member => nonempty later (by simp [member])) fuel]
          rfl

theorem cut_chunks {payloads : List (List UInt8)} (nonempty : ∀ payload ∈ payloads, payload ≠ [])
    {bytes : List UInt8} (cut : bytes <+: (payloads.map encodeChunk).flatten) :
    decodeChunked bytes = none := by
  obtain ⟨back, whole⟩ := cut
  cases decoded : decodeChunked bytes with
  | none => rfl
  | some body =>
      have further := decode_within_further back decoded
      rw [whole, chunks_without_last payloads nonempty] at further
      cases further

theorem last_poll_finished_iff (ending : Ending) :
    lastPoll ending = .finished ↔ ending = .eof := by
  cases ending <;> simp [lastPoll]

section Takes

variable {server : StreamServer} (documented : server.AsDocumented) {relayed : Response}
  {content : List UInt8} {ending : Ending} (joined : relayed.body.frames.flatten = content)
  (nonempty : ∀ frame ∈ relayed.body.frames, frame ≠ [])
  (last : lastFrame relayed.body = lastPoll ending)

include documented joined

theorem takes_length {count : Nat} (framed : framing relayed.headers = some (.length count)) :
    clientTakes server relayed = wholeBody (.length count) content ending := by
  subst joined
  rw [wholeBody, clientTakes]
  by_cases enough : count ≤ relayed.body.frames.flatten.length
  · obtain ⟨written, fields, responded⟩ :=
      documented.filled _ _ (lastFrame relayed.body) count framed enough
    have taken : (relayed.body.frames.flatten.take count).length = count :=
      List.length_take_of_le enough
    have whole := split_body_length (fun rest => (rest, []))
      (relayed.body.frames.flatten.take count)
    rw [taken] at whole
    simp only [responded, Option.bind_some, fields, whole, Option.map_some, if_pos enough]
  · rw [if_neg enough]
    cases responded : server.respond relayed.headers relayed.body.frames
        (lastFrame relayed.body) with
    | none => rfl
    | some written =>
        obtain ⟨fields, part⟩ :=
          documented.short _ _ _ count framed (Nat.lt_of_not_le enough) _ _ responded
        have fewer : ¬ count ≤ written.2.length :=
          fun all => enough (Nat.le_trans all part.length_le)
        simp only [Option.bind_some, fields, splitBody, if_neg fewer, Option.map_none]

include nonempty last

theorem takes_chunks
    (framed : framing relayed.headers = some .chunked ∨ framing relayed.headers = some .absent) :
    clientTakes server relayed = if ending = .eof then some content else none := by
  rw [clientTakes, last]
  by_cases ended : ending = .eof
  · obtain ⟨written, fields, responded⟩ :=
      documented.finished relayed.headers relayed.body.frames framed nonempty
    have decoded := decode_encode_chunks relayed.body.frames [] nonempty
    rw [List.append_nil, joined] at decoded
    rw [(last_poll_finished_iff ending).mpr ended, responded, if_pos ended]
    simp only [Option.bind_some, fields, splitBody, decoded, Option.map_some]
  · rw [if_neg ended]
    cases responded : server.respond relayed.headers relayed.body.frames (lastPoll ending) with
    | none => rfl
    | some written =>
        obtain ⟨fields, part⟩ := documented.cut _ _ _ framed nonempty
          (fun finished => ended ((last_poll_finished_iff ending).mp finished)) _ _ responded
        simp only [Option.bind_some, fields, splitBody, cut_chunks nonempty part, Option.map_none]

end Takes

/-- However an upstream's reads end, and wherever in its body: a response whose head is
within the limit is relayed, and what its client takes for the complete body is the
upstream's bytes up to the announced length, or, without one, all of them provided
that the upstream closed the stream in order. -/
theorem client_takes_whole_body {types : HeaderTypes} (legalHeaders : types.AsDocumented)
    {server : StreamServer} (documented : server.AsDocumented) (response : UpstreamResponse)
    (found : Framing) (framed : framing response.fields = some found) (stream : Duplex)
    (delivers : received stream.incoming = response.bytes) :
    (response.headText.length + 4 ≤ 65536 →
        ∃ relayed after, (readStreamingResponse types).run stream = (.ok relayed, after)) ∧
      ∀ relayed after, (readStreamingResponse types).run stream = (.ok relayed, after) →
        clientTakes server relayed =
          wholeBody found response.content (endingOf stream.incoming) := by
  rcases streamed_response legalHeaders response stream delivers with streamed | refused
  · obtain ⟨leading, rest, behind, _, streamed⟩ := streamed
    constructor
    · intro _
      exact ⟨_, _, streamed⟩
    · intro relayed after ran
      have last := relayed_ending ran
      rw [streamed] at ran
      cases ran
      obtain ⟨joined, nonempty, _⟩ := body_frames_whole leading { stream with incoming := rest }
      have whole := joined.trans behind
      have same := (relayed_framing response).trans framed
      cases found with
      | length count => exact takes_length documented whole same
      | chunked => exact takes_chunks documented whole nonempty last (.inl same)
      | absent => exact takes_chunks documented whole nonempty last (.inr same)
  · obtain ⟨long, after, ran⟩ := refused
    constructor
    · intro short
      omega
    · intro relayed after' ok
      rw [ran] at ok
      cases ok

/-- A server that announces chunks when nothing else frames the body, and drops what it
has of a body that breaks off. -/
def streamingServer : StreamServer where
  respond given frames last :=
    match framing given with
    | some (.length count) =>
        if count ≤ frames.flatten.length then some (given, frames.flatten.take count) else none
    | _ =>
        if last = .finished then some (framingServer.fields given, encodeChunks frames) else none

theorem streaming_server_documented : streamingServer.AsDocumented where
  finished := by
    intro fields frames framed nonempty
    refine ⟨framingServer.fields fields,
      (framing_server_documented.chunks fields frames framed nonempty).1, ?_⟩
    rcases framed with chunked | absent
    · simp only [streamingServer, chunked, if_true]
    · simp only [streamingServer, absent, if_true]
  cut := by
    intro fields frames last framed _ unfinished written bytes responded
    rcases framed with chunked | absent
    · simp only [streamingServer, chunked, if_neg unfinished, reduceCtorEq] at responded
    · simp only [streamingServer, absent, if_neg unfinished, reduceCtorEq] at responded
  filled := by
    intro fields frames last count framed enough
    exact ⟨fields, framed, by simp only [streamingServer, framed, if_pos enough]⟩
  short := by
    intro fields frames last count framed few written bytes responded
    simp only [streamingServer, framed, if_neg (Nat.not_le_of_lt few), reduceCtorEq] at responded

/-- Five bytes are announced and three of them come. -/
def shortHello : UpstreamResponse := { measuredHello with content := utf8 "hel" }

def resetBehind (response : UpstreamResponse) : Duplex :=
  { inOneRead response with incoming := [.data response.bytes, .failure "connection reset"] }

theorem short_body_not_taken :
    ∃ relayed after,
      (readStreamingResponse strictHeaders).run (resetBehind shortHello) = (.ok relayed, after) ∧
        clientTakes streamingServer relayed = none := by
  obtain ⟨handsOn, takes⟩ := client_takes_whole_body strict_headers_documented
    streaming_server_documented shortHello (.length 5) (by decide) (resetBehind shortHello)
    (List.append_nil _)
  obtain ⟨relayed, after, ran⟩ := handsOn (by decide)
  exact ⟨relayed, after, ran, takes relayed after ran⟩

end MultiProxy.BrokenBodies
