import MultiProxy.ByteScan
import MultiProxy.DuplexStream
import MultiProxy.LossyText
import MultiProxy.UpstreamDsn

/-!
# CONNECT through an upstream HTTP proxy

`establish_http` sends a CONNECT request and reads the answer into a buffer
that it drops once it has looked at the first line. The loop stops at the first
read after which the buffer holds a line end or more than 1024 bytes; nothing
else decides how much of the answer, or of what follows it, was consumed.
-/

namespace MultiProxy.HttpConnectTunnel

open MultiProxy.RustRuntime MultiProxy.ByteScan MultiProxy.LossyText
open MultiProxy.DuplexStream MultiProxy.DuplexStream.Exchange
open MultiProxy.UpstreamDsn

set_option autoImplicit false

/-- The request with its credentials, when the DSN has both parts of them. The
base64 engine is the one thing taken from outside. -/
def connectRequest (base64 : List UInt8 → String) (host : String) (port : UInt16)
    (dsn : HttpDsn) : String :=
  let targetAddr := hostPort host port
  let head := s!"CONNECT {targetAddr} HTTP/1.1\r\nHost: {hostPort host port}\r\n"
  match dsn.user, dsn.pass with
  | some user, some pass =>
      let creds := base64 (utf8 s!"{user}:{pass}")
      head ++ s!"Proxy-Authorization: Basic {creds}\r\n" ++ "\r\n"
  | _, _ => head ++ "\r\n"

/-- The loop's stop condition. -/
def statusLineRead (lineBuf : List UInt8) : Bool :=
  occurs crlf lineBuf || decide (1024 < lineBuf.length)

def firstLine (lineBuf : List UInt8) : List Char :=
  trim ((lines (fromUtf8Lossy lineBuf)).headD "Connection failed".toList)

/-- `first_line.split_whitespace().nth(1) == Some("200")`. -/
def isOk (line : List Char) : Bool := (splitWhitespace line)[1]? == some "200".toList

def dialogue (base64 : List UInt8 → String) (host : String) (port : UInt16) (dsn : HttpDsn) :
    Exchange Unit := do
  writeAll (utf8 (connectRequest base64 host port dsn))
  let lineBuf ← readUntil 256 statusLineRead
  if isOk (firstLine lineBuf) then pure ()
  else fail s!"CONNECT failed: {String.ofList (firstLine lineBuf)}"

def establishHttp (base64 : List UInt8 → String) (tcp : String → TcpConnect) (host : String)
    (port : UInt16) (dsn : HttpDsn) : Outcome Duplex :=
  handOver (dialogue base64 host port dsn)
    ((tcp (hostPort dsn.host dsn.port)).stream "HTTP proxy connection timeout" id)

theorem is_ok_trim (line : List Char) : isOk (trim line) = isOk line := by
  rw [isOk, split_whitespace_trim]
  rfl

theorem request_sent (base64 : List UInt8 → String) (host : String) (port : UInt16)
    (dsn : HttpDsn) {stream : Duplex} (accepting : stream.writes = []) :
    ((dialogue base64 host port dsn).run stream).2.sent =
      stream.sent ++ utf8 (connectRequest base64 host port dsn) := by
  have wrote := run_write_all (utf8 (connectRequest base64 host port dsn)) stream accepting
  have kept := run_read_until_sent 256 statusLineRead
    { stream with sent := stream.sent ++ utf8 (connectRequest base64 host port dsn) }
  unfold dialogue
  rw [run_bind_ok wrote, run_bind]
  split
  · rename_i lineBuf after ran
    rw [ran] at kept
    split <;> exact kept
  all_goals
    rename_i ran
    rw [ran] at kept
    exact kept

/-! ## Status lines -/

/-- A status line: the protocol version, a code, and a reason that a space sets
off. -/
structure StatusLine where
  version : List UInt8
  code : List UInt8
  reason : List UInt8
  version_visible : ∀ byte ∈ version, 0x21 ≤ byte ∧ byte ≤ 0x7E
  version_nonempty : version ≠ []
  code_visible : ∀ byte ∈ code, 0x21 ≤ byte ∧ byte ≤ 0x7E
  code_nonempty : code ≠ []
  reason_spaced : ∀ first rest, reason = first :: rest → first = 0x20
  reason_unbroken : (10 : UInt8) ∉ reason

namespace StatusLine

def bytes (line : StatusLine) : List UInt8 := line.version ++ 0x20 :: line.code ++ line.reason

theorem unbroken (line : StatusLine) : (10 : UInt8) ∉ line.bytes := by
  intro member
  simp only [bytes, List.mem_append, List.mem_cons] at member
  rcases member with (inVersion | space | inCode) | inReason
  · exact absurd (line.version_visible 10 inVersion).1 (by decide)
  · exact absurd space (by decide)
  · exact absurd (line.code_visible 10 inCode).1 (by decide)
  · exact line.reason_unbroken inReason

theorem chars (line : StatusLine) :
    fromUtf8Lossy line.bytes =
      asciiText line.version ++ ' ' :: (asciiText line.code ++ fromUtf8Lossy line.reason) := by
  have ascii : ∀ byte ∈ line.version ++ 0x20 :: line.code, byte < 0x80 := by
    intro byte member
    rcases List.mem_append.mp member with inVersion | inCode
    · exact visible_is_ascii (line.version_visible byte inVersion)
    · rcases List.mem_cons.mp inCode with rfl | inCode
      · decide
      · exact visible_is_ascii (line.code_visible byte inCode)
  rw [bytes, lossy_ascii _ ascii, asciiText, List.map_append, List.append_assoc]
  rfl

theorem second_word (line : StatusLine) :
    (splitWhitespace (fromUtf8Lossy line.bytes))[1]? = some (asciiText line.code) := by
  have nonempty : [] ++ asciiText line.version ≠ [] := by
    simpa [asciiText] using line.version_nonempty
  have codeNonempty : [] ++ asciiText line.code ≠ [] := by
    simpa [asciiText] using line.code_nonempty
  rw [line.chars, splitWhitespace,
    words_from_word [] _ ' ' _ (visible_ascii_solid line.version_visible) rfl nonempty]
  have second : ∃ others, wordsFrom [] (asciiText line.code ++ fromUtf8Lossy line.reason) =
      asciiText line.code :: others := by
    cases reason : line.reason with
    | nil =>
        refine ⟨[], ?_⟩
        rw [lossy_nil, List.append_nil]
        exact words_from_last_word [] _ (visible_ascii_solid line.code_visible) codeNonempty
    | cons first rest =>
        have space := line.reason_spaced first rest reason
        subst space
        refine ⟨wordsFrom [] (fromUtf8Lossy rest), ?_⟩
        have decoded := lossy_append_ascii [] 0x20 (by decide) rest
        simp only [List.nil_append, lossy_nil] at decoded
        rw [decoded]
        exact words_from_word [] _ ' ' _ (visible_ascii_solid line.code_visible) rfl codeNonempty
  obtain ⟨others, words⟩ := second
  rw [words]
  simp

end StatusLine

theorem first_line_of_line {line : List UInt8} (unbroken : (10 : UInt8) ∉ line)
    (behind : List UInt8) : firstLine (line ++ crlf ++ behind) = trim (fromUtf8Lossy line) := by
  have decoded : fromUtf8Lossy (line ++ crlf ++ behind) =
      fromUtf8Lossy line ++ '\r' :: '\n' :: fromUtf8Lossy behind := by
    have carriageReturn := lossy_append_ascii line 0x0D (by decide) (0x0A :: behind)
    have lineFeed := lossy_append_ascii [] 0x0A (by decide) behind
    simp only [List.nil_append, lossy_nil] at lineFeed
    rw [List.append_assoc]
    simpa [crlf, lineFeed] using carriageReturn
  rw [firstLine, decoded, lines_crlf _ _ (lossy_has_no_line_feed line unbroken)]
  rfl

/-! ## Success replies -/

/-- A success reply: the protocol version, code 200 with an optional reason
behind it, and header lines. -/
structure SuccessReply where
  version : List UInt8
  reason : List UInt8
  headers : List (List UInt8)
  version_visible : ∀ byte ∈ version, 0x21 ≤ byte ∧ byte ≤ 0x7E
  version_nonempty : version ≠ []
  reason_spaced : ∀ first rest, reason = first :: rest → first = 0x20
  reason_unbroken : (10 : UInt8) ∉ reason
  headers_unbroken : ∀ line ∈ headers, line ≠ [] ∧ (10 : UInt8) ∉ line

namespace SuccessReply

def statusLine (reply : SuccessReply) : List UInt8 :=
  reply.version ++ [0x20, 0x32, 0x30, 0x30] ++ reply.reason

/-- Everything up to and including the empty line. -/
def bytes (reply : SuccessReply) : List UInt8 :=
  reply.statusLine ++ crlf ++ ((reply.headers.map (· ++ crlf)).flatten ++ crlf)

def line (reply : SuccessReply) : StatusLine where
  version := reply.version
  code := [0x32, 0x30, 0x30]
  reason := reply.reason
  version_visible := reply.version_visible
  version_nonempty := reply.version_nonempty
  code_visible := by decide
  code_nonempty := by decide
  reason_spaced := reply.reason_spaced
  reason_unbroken := reply.reason_unbroken

theorem status_line_unbroken (reply : SuccessReply) : (10 : UInt8) ∉ reply.statusLine :=
  reply.line.unbroken

theorem status_line_second_word (reply : SuccessReply) :
    isOk (fromUtf8Lossy reply.statusLine) = true := by
  have word := reply.line.second_word
  have same : reply.line.bytes = reply.statusLine := rfl
  have code : reply.line.code = [0x32, 0x30, 0x30] := rfl
  rw [same, code] at word
  rw [isOk, word]
  decide

theorem reply_is_ok (reply : SuccessReply) : isOk (firstLine reply.bytes) = true := by
  rw [bytes, first_line_of_line reply.status_line_unbroken, is_ok_trim, isOk]
  exact reply.status_line_second_word

theorem reply_has_line_end (reply : SuccessReply) : occurs crlf reply.bytes = true := by
  apply (occurs_iff (by simp [crlf])).mpr
  exact ⟨reply.statusLine, _, rfl⟩

end SuccessReply

/-! ## Where the read boundaries fall -/

/-- One read ends exactly at the end of the head, and every read before it ends
within the status line and within the first 1024 bytes. -/
def ReadsEndAtHead (head : List UInt8) (reads : List (List UInt8)) : Prop :=
  ∃ count, (reads.take count).flatten = head ∧
    ∀ earlier, earlier < count →
      occurs crlf (reads.take earlier).flatten = false ∧
        (reads.take earlier).flatten.length ≤ 1024

theorem status_line_read_false_iff (buffer : List UInt8) :
    statusLineRead buffer = false ↔ occurs crlf buffer = false ∧ buffer.length ≤ 1024 := by
  simp [statusLineRead]

/-- Where the head has a line end and the reads cover the head, the read loop
has a first boundary, and exactly the bytes behind the head are left there when
the reads end at the head. -/
theorem stops_at_head_iff {head behind : List UInt8} {reads : List (List UInt8)}
    (lineEnd : occurs crlf head = true) (covered : reads.flatten = head ++ behind) :
    ∃ count, FirstBoundary statusLineRead [] reads count ∧
      ((reads.drop count).flatten = behind ↔ ReadsEndAtHead head reads) := by
  have whole : statusLineRead ([] ++ (reads.take reads.length).flatten) = true := by
    rw [List.take_length, covered, statusLineRead, List.nil_append,
      occurs_in_front (by simp [crlf]) behind lineEnd, Bool.true_or]
  have some : 0 < reads.length := by
    apply List.length_pos_of_ne_nil
    intro none
    rw [none] at whole
    exact absurd whole (by decide)
  obtain ⟨count, boundary, _⟩ :=
    first_boundary_exists statusLineRead [] reads reads.length some le_rfl whole
  have joined : (reads.take count).flatten ++ (reads.drop count).flatten = head ++ behind := by
    rw [← List.flatten_append, List.take_append_drop, covered]
  refine ⟨count, boundary, ?_⟩
  constructor
  · intro left
    rw [left] at joined
    refine ⟨count, List.append_cancel_right joined, ?_⟩
    intro earlier before
    rcases Nat.eq_zero_or_pos earlier with start | positive
    · subst start
      exact ⟨rfl, by simp⟩
    · have unfinished := boundary.earliest earlier positive before
      exact (status_line_read_false_iff _).mp unfinished
  · intro ends
    obtain ⟨atHead, reached, unfinished⟩ := ends
    have same : count = atHead := by
      rcases Nat.lt_trichotomy count atHead with before | same | behindHead
      · have notYet := (status_line_read_false_iff _).mpr (unfinished count before)
        have complete := boundary.complete
        rw [List.nil_append, notYet] at complete
        cases complete
      · exact same
      · have positive : 0 < atHead := by
          apply Nat.pos_of_ne_zero
          intro zero
          rw [zero, List.take_zero, List.flatten_nil] at reached
          rw [← reached] at lineEnd
          exact absurd lineEnd (by decide)
        have missed := boundary.earliest atHead positive behindHead
        rw [List.nil_append, reached] at missed
        have found := ((status_line_read_false_iff head).mp missed).1
        rw [lineEnd] at found
        cases found
    subst same
    rw [reached] at joined
    exact List.append_cancel_left joined

/-- Whatever the proxy answers, the outcome is decided by the bytes up to the
first boundary, and the tunnel is what the reads behind it deliver. -/
theorem establish_http_at_boundary (base64 : List UInt8 → String) (tcp : String → TcpConnect)
    (host : String) (port : UInt16) (dsn : HttpDsn) {stream : Duplex} {reads : List (List UInt8)}
    {count : Nat} (connected : tcp (hostPort dsn.host dsn.port) = .connected stream)
    (accepting : stream.writes = []) (delivers : stream.incoming = reads.map .data)
    (sizes : ∀ bytes ∈ reads, bytes ≠ [] ∧ bytes.length ≤ 256)
    (boundary : FirstBoundary statusLineRead [] reads count) :
    establishHttp base64 tcp host port dsn =
      if isOk (firstLine (reads.take count).flatten) then
        .ok { stream with
          sent := stream.sent ++ utf8 (connectRequest base64 host port dsn)
          incoming := (reads.drop count).map .data }
      else .err s!"CONNECT failed: {String.ofList (firstLine (reads.take count).flatten)}" := by
  have wrote := run_write_all (utf8 (connectRequest base64 host port dsn)) stream accepting
  have readLine := run_read_until_at_boundary { stream with
    sent := stream.sent ++ utf8 (connectRequest base64 host port dsn) } delivers sizes boundary
  simp only [establishHttp, connected, TcpConnect.stream, handOver, dialogue]
  rw [run_bind_ok wrote, run_bind_ok readLine]
  by_cases accepted : isOk (firstLine (reads.take count).flatten) = true
  · rw [if_pos accepted, if_pos accepted]
    rfl
  · rw [if_neg accepted, if_neg accepted]
    rfl

theorem boundary_behind_status_line {line behind : List UInt8} {reads : List (List UInt8)}
    {count : Nat} (unbroken : (10 : UInt8) ∉ line) (short : line.length ≤ 1022)
    (boundary : FirstBoundary statusLineRead [] reads count)
    (covered : reads.flatten = line ++ crlf ++ behind) :
    ∃ rest, (reads.take count).flatten = line ++ crlf ++ rest := by
  have joined :
      (reads.take count).flatten ++ (reads.drop count).flatten = line ++ crlf ++ behind := by
    rw [← List.flatten_append, List.take_append_drop, covered]
  rcases List.append_eq_append_iff.mp joined with ⟨rest, whole, _⟩ | ⟨rest, whole, _⟩
  · -- A buffer that ends inside the line has no line feed yet, so the loop goes on.
    rcases List.eq_nil_or_concat rest with rfl | ⟨front, last, rfl⟩
    · exact ⟨[], by rw [whole, List.append_nil, List.append_nil]⟩
    · have inside : line ++ [0x0D] = (reads.take count).flatten ++ front := by
        have ends :
            (line ++ [0x0D]) ++ [0x0A] = ((reads.take count).flatten ++ front) ++ [last] := by
          simpa [crlf] using whole
        exact (List.append_inj' ends rfl).1
      have noLineFeed : (10 : UInt8) ∉ (reads.take count).flatten := by
        intro member
        have inLine : (10 : UInt8) ∈ line ++ [0x0D] := by
          rw [inside]
          exact List.mem_append_left front member
        rcases List.mem_append.mp inLine with found | found
        · exact unbroken found
        · exact absurd found (by decide)
      have unfinished : statusLineRead ([] ++ (reads.take count).flatten) = false := by
        rw [List.nil_append, status_line_read_false_iff]
        constructor
        · rw [Bool.eq_false_iff]
          intro found
          obtain ⟨before, after, split⟩ := (occurs_iff (by simp [crlf])).mp found
          apply noLineFeed
          rw [← split]
          simp [crlf]
        · have lengths := congrArg List.length inside
          simp only [List.length_append, List.length_singleton] at lengths
          omega
      rw [boundary.complete] at unfinished
      cases unfinished
  · exact ⟨rest, whole⟩

theorem http_refused (base64 : List UInt8 → String) (tcp : String → TcpConnect)
    (host : String) (port : UInt16) (dsn : HttpDsn) (stream : Duplex) (line : StatusLine)
    (behind : List UInt8) (reads : List (List UInt8))
    (connected : tcp (hostPort dsn.host dsn.port) = .connected stream)
    (accepting : stream.writes = []) (delivers : stream.incoming = reads.map .data)
    (sizes : ∀ bytes ∈ reads, bytes ≠ [] ∧ bytes.length ≤ 256)
    (refused : line.code ≠ [0x32, 0x30, 0x30]) (short : line.bytes.length ≤ 1022)
    (covered : reads.flatten = line.bytes ++ crlf ++ behind) :
    ∃ message, establishHttp base64 tcp host port dsn = .err message := by
  have lineEnd : occurs crlf (line.bytes ++ crlf) = true :=
    (occurs_iff (by simp [crlf])).mpr ⟨line.bytes, [], by simp⟩
  obtain ⟨count, boundary, _⟩ := stops_at_head_iff lineEnd covered
  obtain ⟨rest, read⟩ := boundary_behind_status_line line.unbroken short boundary covered
  rw [establish_http_at_boundary base64 tcp host port dsn connected accepting delivers
      sizes boundary,
    read]
  have notOk : isOk (firstLine (line.bytes ++ crlf ++ rest)) = false := by
    rw [first_line_of_line line.unbroken, is_ok_trim, isOk, line.second_word]
    have other : asciiText line.code ≠ asciiText [0x32, 0x30, 0x30] :=
      fun same => refused (ascii_text_injective same)
    simpa [asciiText] using other
  rw [notOk]
  exact ⟨_, rfl⟩

/-- After a success reply the tunnel is transparent exactly when the reads the
reply came in end at its empty line. -/
theorem http_tunnel_transparent_iff_reads_end_at_head (base64 : List UInt8 → String)
    (tcp : String → TcpConnect) (host : String) (port : UInt16) (dsn : HttpDsn) (stream : Duplex)
    (reply : SuccessReply) (payload : List UInt8) (reads : List (List UInt8))
    (connected : tcp (hostPort dsn.host dsn.port) = .connected stream)
    (accepting : stream.writes = []) (delivers : stream.incoming = reads.map .data)
    (sizes : ∀ bytes ∈ reads, bytes ≠ [] ∧ bytes.length ≤ 256)
    (split : reads.flatten = reply.bytes ++ payload) :
    (∃ tunnel, establishHttp base64 tcp host port dsn = .ok tunnel ∧
        received tunnel.incoming = payload) ↔ ReadsEndAtHead reply.bytes reads := by
  obtain ⟨count, boundary, leftIff⟩ := stops_at_head_iff reply.reply_has_line_end split
  rw [establish_http_at_boundary base64 tcp host port dsn connected accepting delivers
      sizes boundary,
    ← leftIff]
  constructor
  · intro opened
    obtain ⟨tunnel, ok, yields⟩ := opened
    split at ok
    · cases ok
      exact (received_data _).symm.trans yields
    · cases ok
  · intro left
    have joined : (reads.take count).flatten ++ (reads.drop count).flatten =
        reply.bytes ++ payload := by
      rw [← List.flatten_append, List.take_append_drop, split]
    rw [left] at joined
    rw [List.append_cancel_right joined, if_pos reply.reply_is_ok]
    exact ⟨_, rfl, (received_data _).trans left⟩

def localHttp : HttpDsn where
  host := "127.0.0.1"
  port := 8080
  user := none
  pass := none

/-- `HTTP/1.1 200 OK` without header lines. -/
def bareReply : SuccessReply where
  version := utf8 "HTTP/1.1"
  reason := utf8 " OK"
  headers := []
  version_visible := by decide
  version_nonempty := by decide
  reason_spaced := by
    intro first rest same
    cases same
    rfl
  reason_unbroken := by decide
  headers_unbroken := by simp

def deliveringReads (reads : List (List UInt8)) : Duplex where
  incoming := reads.map .data
  sent := []
  flushed := 0
  writes := []

/-- Tunnel bytes that arrive in the same read as the reply are swallowed. -/
theorem payload_in_reply_read_is_swallowed :
    ∃ tunnel, establishHttp (fun _ => "")
        (fun _ => .connected (deliveringReads [bareReply.bytes ++ [0x41, 0x42]]))
        "example.com" 443 localHttp = .ok tunnel ∧
      received tunnel.incoming = [] ∧ received tunnel.incoming ≠ [0x41, 0x42] := by
  have boundary : FirstBoundary statusLineRead [] [bareReply.bytes ++ [0x41, 0x42]] 1 := by
    refine ⟨by decide, by decide, by decide, ?_⟩
    intro earlier positive before
    omega
  have accepted : isOk (firstLine ([bareReply.bytes ++ [0x41, 0x42]].take 1).flatten) = true := by
    decide
  have ended := establish_http_at_boundary (fun _ => "")
    (fun _ => .connected (deliveringReads [bareReply.bytes ++ [0x41, 0x42]])) "example.com" 443
    localHttp rfl rfl rfl (by decide) boundary
  rw [if_pos accepted] at ended
  exact ⟨_, ended, rfl, by decide⟩

theorem reply_and_payload_in_two_reads :
    ∃ tunnel, establishHttp (fun _ => "")
        (fun _ => .connected (deliveringReads [bareReply.bytes, [0x41, 0x42]]))
        "example.com" 443 localHttp = .ok tunnel ∧ received tunnel.incoming = [0x41, 0x42] :=
  (http_tunnel_transparent_iff_reads_end_at_head (fun _ => "")
    (fun _ => .connected (deliveringReads [bareReply.bytes, [0x41, 0x42]])) "example.com" 443
    localHttp (deliveringReads [bareReply.bytes, [0x41, 0x42]]) bareReply [0x41, 0x42]
    [bareReply.bytes, [0x41, 0x42]] rfl rfl rfl (by decide) (by decide)).mpr
    ⟨1, by decide, by decide⟩

end MultiProxy.HttpConnectTunnel
