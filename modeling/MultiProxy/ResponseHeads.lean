import MultiProxy.RelayedBody

/-!
# Which response heads are read

The loop of `read_streaming_response` has five exits, and what follows it cuts
the buffer at the empty line and unwraps the builder that the header lines went
through. Every exit is related here to these two operations, for all bytes the
upstream may send, however they are cut into reads.
-/

namespace MultiProxy.ResponseHeads

open MultiProxy.RustRuntime MultiProxy.ByteScan MultiProxy.LossyText MultiProxy.MessageFraming
open MultiProxy.DuplexStream MultiProxy.DuplexStream.Exchange MultiProxy.StreamingResponse
open MultiProxy.RelayedBody

set_option autoImplicit false

/-! ## What the upstream may send -/

/-- How the reads of an upstream come to their end. -/
inductive Ending where
  | eof
  | failure (message : String)
  | deadline
  deriving DecidableEq, Repr

/-- Only a stream that has fallen silent is met by the deadline. -/
def Ending.events : Ending → List ReadEvent
  | .eof => []
  | .failure message => [.failure message]
  | .deadline => [.stall]

/-- The reads of one response, each of which fills at most the chunk of the loop. -/
structure UpstreamReads where
  reads : List (List UInt8)
  ending : Ending
  sizes : ∀ bytes ∈ reads, bytes ≠ [] ∧ bytes.length ≤ 4096

namespace UpstreamReads

def script (upstream : UpstreamReads) : List ReadEvent :=
  upstream.reads.map .data ++ upstream.ending.events

def onto (upstream : UpstreamReads) (stream : Duplex) : Duplex :=
  { stream with incoming := upstream.script }

end UpstreamReads

/-! ## Header lines -/

/-- The name and the value in a header line. A line without a colon has none. -/
def nameAndValue (line : List Char) : Option (List Char × List Char) :=
  match (trim line).dropWhile (· ≠ ':') with
  | [] => none
  | _ :: behind => some (trim ((trim line).takeWhile (· ≠ ':')), trim behind)

def IllegalLine (types : HeaderTypes) (line : List Char) : Prop :=
  ∃ name value, nameAndValue line = some (name, value) ∧
    (types.name name = none ∨ types.value value = none)

/-- A connection field is dropped before `http` sees it. -/
def ConnectionLine (line : List Char) : Prop :=
  ∃ name value, nameAndValue line = some (name, value) ∧
    eqIgnoreAsciiCase (text name) (utf8 "connection") = true

def builderWith : Option (List Field) → Option (List UInt8) → Option (List UInt8) →
    Option (List Field)
  | some fields, some name, some value => some (fields ++ [{ name := name, value := value }])
  | _, _, _ => none

theorem add_header_no_field (types : HeaderTypes) (builder : Option (List Field))
    {line : List Char} (noField : nameAndValue line = none) :
    addHeader types builder line = builder := by
  unfold nameAndValue at noField
  unfold addHeader
  by_cases empty : trim line = []
  · simp [empty]
  · rcases colon : (trim line).dropWhile (· ≠ ':') with _ | ⟨first, behind⟩
    · simp only [if_neg empty, colon]
    · rw [colon] at noField
      cases noField

theorem add_header_named (types : HeaderTypes) (builder : Option (List Field))
    {line name value : List Char} (field : nameAndValue line = some (name, value)) :
    addHeader types builder line =
      if eqIgnoreAsciiCase (text name) (utf8 "connection") then builder
      else builderWith builder (types.name name) (types.value value) := by
  unfold nameAndValue at field
  unfold addHeader
  rcases colon : (trim line).dropWhile (· ≠ ':') with _ | ⟨first, behind⟩
  · rw [colon] at field
    cases field
  · have nonempty : trim line ≠ [] := by
      intro empty
      rw [empty] at colon
      cases colon
    rw [colon] at field
    cases field
    simp only [if_neg nonempty, colon]
    rfl

theorem add_header_spoiled (types : HeaderTypes) (line : List Char) :
    addHeader types none line = none := by
  rcases field : nameAndValue line with _ | ⟨name, value⟩
  · exact add_header_no_field types none field
  · rw [add_header_named types none field]
    split <;> rfl

theorem add_header_spoils_iff (types : HeaderTypes) (fields : List Field) (line : List Char) :
    addHeader types (some fields) line = none ↔
      IllegalLine types line ∧ ¬ ConnectionLine line := by
  rcases field : nameAndValue line with _ | ⟨name, value⟩
  · rw [add_header_no_field types (some fields) field]
    simp [IllegalLine, field]
  · rw [add_header_named types (some fields) field]
    have illegal : IllegalLine types line ↔ types.name name = none ∨ types.value value = none := by
      simp [IllegalLine, field]
    have connection : ConnectionLine line ↔
        eqIgnoreAsciiCase (text name) (utf8 "connection") = true := by
      simp [ConnectionLine, field]
    rw [illegal, connection]
    by_cases dropped : eqIgnoreAsciiCase (text name) (utf8 "connection") = true
    · simp [dropped]
    · rw [if_neg dropped]
      cases types.name name <;> cases types.value value <;> simp [dropped, builderWith]

theorem spoiled_builder_stays (types : HeaderTypes) (headers : List (List Char)) :
    headers.foldl (addHeader types) none = none := by
  induction headers with
  | nil => rfl
  | cons line headers ih => rw [List.foldl_cons, add_header_spoiled, ih]

theorem builder_spoiled_iff (types : HeaderTypes) (headers : List (List Char))
    (fields : List Field) :
    headers.foldl (addHeader types) (some fields) = none ↔
      ∃ line ∈ headers, IllegalLine types line ∧ ¬ ConnectionLine line := by
  induction headers generalizing fields with
  | nil => simp
  | cons line headers ih =>
      rw [List.foldl_cons, List.exists_mem_cons_iff, ← add_header_spoils_iff types fields]
      rcases added : addHeader types (some fields) line with _ | more
      · simp [spoiled_builder_stays]
      · simp [ih more]

/-! ## The exits of the loop -/

/-- What the call goes on with, for each way in which the gathering loop ends. -/
def headOf (stream : Duplex) : Gathered × List ReadEvent → Outcome (List UInt8) × Duplex
  | (.stopped headerBuf, rest) =>
      if occurs blankLine headerBuf then (.ok headerBuf, { stream with incoming := rest })
      else (.err "response headers too large", { stream with incoming := rest })
  | (.ended headerBuf, rest) => (.ok headerBuf, { stream with incoming := rest })
  | (.failure message, rest) => (.err s!"read headers: {message}", { stream with incoming := rest })
  | (.stalled, rest) => (.err "response header timeout", { stream with incoming := rest })

theorem read_head_exit (stream : Duplex) :
    readHead.run stream = headOf stream (gather 4096 headRead [] stream.incoming) := rfl

theorem head_read_keeps {front : List UInt8} (back : List UInt8)
    (complete : headRead front = true) : headRead (front ++ back) = true := by
  simp only [headRead, Bool.or_eq_true, decide_eq_true_eq] at complete ⊢
  rcases complete with blank | long
  · exact Or.inl (occurs_in_front (by simp [blankLine, crlf]) back blank)
  · exact Or.inr (long.trans_le (by simp))

theorem head_unread {buffer : List UInt8} (unfinished : headRead buffer = false) :
    occurs blankLine buffer = false ∧ buffer.length ≤ 65536 := by
  simpa [headRead] using unfinished

theorem split_head_none_iff (buffer : List UInt8) :
    splitHead buffer = none ↔ occurs blankLine buffer = false := by
  unfold splitHead occurs
  cases found : position blankLine buffer with
  | none => simp
  | some index =>
      have below := position_within found
      have blank : blankLine.length = 4 := rfl
      rw [blank] at below
      simp [below]

namespace UpstreamReads

theorem first_boundary_iff (upstream : UpstreamReads) :
    (∃ count, FirstBoundary headRead [] upstream.reads count) ↔
      headRead upstream.reads.flatten = true := by
  constructor
  · rintro ⟨count, boundary⟩
    have whole := head_read_keeps (upstream.reads.drop count).flatten boundary.complete
    rwa [List.nil_append, ← List.flatten_append, List.take_append_drop] at whole
  · intro complete
    have some : 0 < upstream.reads.length := by
      apply List.length_pos_of_ne_nil
      intro none
      rw [none] at complete
      exact absurd complete (by decide)
    rcases first_boundary_exists headRead [] upstream.reads upstream.reads.length some le_rfl
      (by rwa [List.take_length]) with ⟨count, boundary, _⟩
    exact ⟨count, boundary⟩

theorem read_head_at_boundary (upstream : UpstreamReads) (stream : Duplex) {count : Nat}
    (boundary : FirstBoundary headRead [] upstream.reads count) :
    ∃ after, readHead.run (upstream.onto stream) =
      if occurs blankLine (upstream.reads.take count).flatten then
        (.ok (upstream.reads.take count).flatten, after)
      else (.err "response headers too large", after) := by
  have stopped := gather_at_first_boundary 4096 headRead [] upstream.reads upstream.ending.events
    count upstream.sizes boundary
  rw [read_head_exit]
  simp only [onto, script]
  rw [stopped, List.nil_append]
  exact ⟨_, rfl⟩

theorem read_head_unfinished (upstream : UpstreamReads) (stream : Duplex)
    (unfinished : headRead upstream.reads.flatten = false) :
    (upstream.ending = .eof ∧ ∃ after,
        readHead.run (upstream.onto stream) = (.ok upstream.reads.flatten, after)) ∨
      (upstream.ending ≠ .eof ∧ ∃ message after,
        readHead.run (upstream.onto stream) = (.err message, after)) := by
  have never : ∀ count, 0 < count → count ≤ upstream.reads.length →
      headRead ([] ++ (upstream.reads.take count).flatten) = false := by
    intro count _ _
    rw [List.nil_append, Bool.eq_false_iff]
    intro complete
    have whole := head_read_keeps (upstream.reads.drop count).flatten complete
    rw [← List.flatten_append, List.take_append_drop, unfinished] at whole
    cases whole
  have past := gather_past_reads 4096 headRead [] upstream.reads upstream.ending.events
    upstream.sizes never
  rw [List.nil_append] at past
  rw [read_head_exit]
  simp only [onto, script]
  rw [past.trans (gather_of_read 4096 headRead upstream.reads.flatten _)]
  cases upstream.ending with
  | eof => exact Or.inl ⟨rfl, _, rfl⟩
  | failure message => exact Or.inr ⟨by simp, _, _, rfl⟩
  | deadline => exact Or.inr ⟨by simp, _, _, rfl⟩

end UpstreamReads

/-! ## When the head is handled -/

/-- The complete head that the loop stops at, and the bytes read behind it. -/
def UpstreamReads.HeadFound (upstream : UpstreamReads) (head leading : List UInt8) : Prop :=
  ∃ count, FirstBoundary headRead [] upstream.reads count ∧
    splitHead (upstream.reads.take count).flatten = some (head, leading)

/-- A complete head with a header line that `http` refuses. -/
def UpstreamReads.IllegalHead (upstream : UpstreamReads) (types : HeaderTypes) : Prop :=
  ∃ head leading, upstream.HeadFound head leading ∧
    ∃ line ∈ (lines (fromUtf8Lossy head)).tail, IllegalLine types line

/-- The stream is closed in order while the head is still being read. -/
def UpstreamReads.ClosedInHead (upstream : UpstreamReads) : Prop :=
  upstream.ending = .eof ∧ headRead upstream.reads.flatten = false

/-- The call comes back, with a response only for a complete head, holds a bounded
buffer, and answers an unfinished or illegal head with an error. -/
structure HeadHandled (types : HeaderTypes) (upstream : UpstreamReads) (stream : Duplex) :
    Prop where
  returned : ((readStreamingResponse types).run (upstream.onto stream)).1.Returned
  complete : ∀ response,
    ((readStreamingResponse types).run (upstream.onto stream)).1 = .ok response →
      occurs blankLine upstream.reads.flatten = true
  bounded : ∀ held ∈ buffers 4096 headRead [] (upstream.onto stream).incoming,
    held.length ≤ 65536 + 4096
  closed_early : upstream.ending = .eof → occurs blankLine upstream.reads.flatten = false →
    ∃ message, ((readStreamingResponse types).run (upstream.onto stream)).1 = .err message
  illegal_header : upstream.IllegalHead types →
    ∃ message, ((readStreamingResponse types).run (upstream.onto stream)).1 = .err message

section Exits

variable (types : HeaderTypes) (upstream : UpstreamReads) (stream : Duplex)

theorem buffer_bounded :
    ∀ held ∈ buffers 4096 headRead [] (upstream.onto stream).incoming,
      held.length ≤ 65536 + 4096 :=
  buffers_bounded (fun _ unfinished => (head_unread unfinished).2) [] (Nat.zero_le _) _

theorem closed_in_head_panics (closed : upstream.ClosedInHead) :
    ((readStreamingResponse types).run (upstream.onto stream)).1 = .panic := by
  rcases upstream.read_head_unfinished stream closed.2 with
    ⟨_, after, ran⟩ | ⟨notClosed, _⟩
  · have noHead := (split_head_none_iff _).mpr (head_unread closed.2).1
    rw [readStreamingResponse, run_bind_ok ran, noHead]
    rfl
  · exact absurd closed.1 notClosed

theorem broken_in_head_is_error (unfinished : headRead upstream.reads.flatten = false)
    (notClosed : upstream.ending ≠ .eof) :
    ∃ message, ((readStreamingResponse types).run (upstream.onto stream)).1 = .err message := by
  rcases upstream.read_head_unfinished stream unfinished with
    ⟨closed, _⟩ | ⟨_, message, after, ran⟩
  · exact absurd closed notClosed
  · exact ⟨message, congrArg Prod.fst (run_bind_err ran _)⟩

theorem long_head_is_error {count : Nat}
    (boundary : FirstBoundary headRead [] upstream.reads count)
    (unended : occurs blankLine (upstream.reads.take count).flatten = false) :
    ∃ message, ((readStreamingResponse types).run (upstream.onto stream)).1 = .err message := by
  obtain ⟨after, ran⟩ := upstream.read_head_at_boundary stream boundary
  rw [unended] at ran
  exact ⟨_, congrArg Prod.fst (run_bind_err ran _)⟩

theorem complete_head_outcome {head leading : List UInt8}
    (found : upstream.HeadFound head leading) :
    (((readStreamingResponse types).run (upstream.onto stream)).1 = .panic ∧
        ∃ line ∈ (lines (fromUtf8Lossy head)).tail, IllegalLine types line) ∨
      ((∃ response, ((readStreamingResponse types).run (upstream.onto stream)).1 = .ok response) ∧
        ∀ line ∈ (lines (fromUtf8Lossy head)).tail,
          IllegalLine types line → ConnectionLine line) := by
  obtain ⟨count, boundary, split⟩ := found
  have ended : occurs blankLine (upstream.reads.take count).flatten = true := by
    rw [← Bool.not_eq_false, ← split_head_none_iff, split]
    simp
  obtain ⟨after, ran⟩ := upstream.read_head_at_boundary stream boundary
  rw [if_pos ended] at ran
  have spoiled := builder_spoiled_iff types (lines (fromUtf8Lossy head)).tail []
  rw [readStreamingResponse, run_bind_ok ran, split, run_bind_ok (run_unwrap_some _ _)]
  simp only [run_bind]
  cases built : (lines (fromUtf8Lossy head)).tail.foldl (addHeader types) (some []) with
  | none =>
      obtain ⟨line, member, illegal, _⟩ := spoiled.mp built
      exact Or.inl ⟨rfl, line, member, illegal⟩
  | some fields =>
      refine Or.inr ⟨⟨_, rfl⟩, ?_⟩
      intro line member illegal
      by_contra relayed
      have none := spoiled.mpr ⟨line, member, illegal, relayed⟩
      rw [built] at none
      cases none

end Exits

/-- Reading a response head is robust exactly as long as the upstream does not
close the stream inside the head and `http` refuses no header line of it. -/
theorem response_head_handled_iff (types : HeaderTypes) (upstream : UpstreamReads)
    (stream : Duplex) :
    HeadHandled types upstream stream ↔
      ¬ upstream.ClosedInHead ∧ ¬ upstream.IllegalHead types := by
  constructor
  · intro handled
    constructor
    · intro closed
      have returned := handled.returned
      rw [closed_in_head_panics types upstream stream closed] at returned
      exact returned
    · intro illegal
      obtain ⟨message, failed⟩ := handled.illegal_header illegal
      obtain ⟨head, leading, found, _⟩ := illegal
      rcases complete_head_outcome types upstream stream found with
        ⟨panicked, _⟩ | ⟨⟨response, answered⟩, _⟩
      · rw [panicked] at failed
        cases failed
      · rw [answered] at failed
        cases failed
  · rintro ⟨open_, legal⟩
    have bounded := buffer_bounded upstream stream
    have noIllegal : upstream.IllegalHead types →
        ∃ message, ((readStreamingResponse types).run (upstream.onto stream)).1 = .err message :=
      fun illegal => absurd illegal legal
    have fromError : (∃ message,
        ((readStreamingResponse types).run (upstream.onto stream)).1 = .err message) →
          HeadHandled types upstream stream := by
      rintro ⟨message, failed⟩
      refine ⟨by rw [failed]; trivial, ?_, bounded, fun _ _ => ⟨message, failed⟩, noIllegal⟩
      intro response answered
      rw [failed] at answered
      cases answered
    by_cases complete : headRead upstream.reads.flatten = true
    · obtain ⟨count, boundary⟩ := upstream.first_boundary_iff.mpr complete
      rcases split : splitHead (upstream.reads.take count).flatten with _ | ⟨head, leading⟩
      · exact fromError (long_head_is_error types upstream stream boundary
          ((split_head_none_iff _).mp split))
      · have found : upstream.HeadFound head leading := ⟨count, boundary, split⟩
        have ended : occurs blankLine upstream.reads.flatten = true := by
          have front : occurs blankLine (upstream.reads.take count).flatten = true := by
            rw [← Bool.not_eq_false, ← split_head_none_iff, split]
            simp
          rw [← List.take_append_drop count upstream.reads, List.flatten_append]
          exact occurs_in_front (by simp [blankLine, crlf]) _ front
        rcases complete_head_outcome types upstream stream found with
          ⟨_, illegal⟩ | ⟨⟨response, answered⟩, _⟩
        · exact absurd ⟨head, leading, found, illegal⟩ legal
        · refine ⟨by rw [answered]; trivial, fun _ _ => ended, bounded, ?_, noIllegal⟩
          intro _ unended
          rw [ended] at unended
          cases unended
    · have unfinished : headRead upstream.reads.flatten = false := by simpa using complete
      exact fromError (broken_in_head_is_error types upstream stream unfinished
        (fun closed => open_ ⟨closed, unfinished⟩))

def statusLineOnly : UpstreamReads where
  reads := [utf8 "HTTP/1.1 200 OK\r\n"]
  ending := .eof
  sizes := by decide

def freshStream : Duplex where
  incoming := []
  sent := []
  flushed := 0
  writes := []

theorem closed_behind_status_line_panics :
    ¬ HeadHandled strictHeaders statusLineOnly freshStream := by
  intro handled
  have returned := handled.returned
  rw [closed_in_head_panics strictHeaders statusLineOnly freshStream ⟨rfl, by decide⟩] at returned
  exact returned

end MultiProxy.ResponseHeads
