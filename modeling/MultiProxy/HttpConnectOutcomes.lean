import MultiProxy.HttpConnectTunnel
import MultiProxy.StreamEndings

/-!
# What becomes of a CONNECT over an upstream HTTP proxy

The upstream may answer with any bytes, in any reads, ended in any way. Which of them
open a tunnel is decided by the first line, and only silence within it is waited on
for ever.
-/

namespace MultiProxy.HttpConnectOutcomes

open MultiProxy.RustRuntime MultiProxy.ByteScan MultiProxy.LossyText
open MultiProxy.DuplexStream MultiProxy.DuplexStream.Exchange MultiProxy.UpstreamDsn
open MultiProxy.HttpConnectTunnel MultiProxy.ResponseHeads MultiProxy.StreamEndings

set_option autoImplicit false

section Answer

variable (base64 : List UInt8 → String) (tcp : String → TcpConnect) (host : String) (port : UInt16)
  (dsn : HttpDsn)

def asked (stream : Duplex) : Duplex :=
  { stream with sent := stream.sent ++ utf8 (connectRequest base64 host port dsn) }

def judged (stream : Duplex) (lineBuf : List UInt8) (rest : List ReadEvent) : Outcome Duplex :=
  if isOk (firstLine lineBuf) then .ok { asked base64 host port dsn stream with incoming := rest }
  else .err s!"CONNECT failed: {String.ofList (firstLine lineBuf)}"

variable {tcp} {stream : Duplex} (connected : tcp (hostPort dsn.host dsn.port) = .connected stream)
  (accepting : stream.writes = [])

include connected accepting

theorem establish_of_gather :
    establishHttp base64 tcp host port dsn =
      match gather 256 statusLineRead [] stream.incoming with
      | (.stopped lineBuf, rest) => judged base64 host port dsn stream lineBuf rest
      | (.ended lineBuf, rest) => judged base64 host port dsn stream lineBuf rest
      | (.failure message, _) => .err message
      | (.stalled, _) => .hang := by
  have wrote : (writeAll (utf8 (connectRequest base64 host port dsn))).run stream =
      (.ok (), asked base64 host port dsn stream) := run_write_all _ stream accepting
  have readLine : (readUntil 256 statusLineRead).run (asked base64 host port dsn stream) =
      match gather 256 statusLineRead [] stream.incoming with
      | (.stopped buffer, rest) =>
          (.ok buffer, { asked base64 host port dsn stream with incoming := rest })
      | (.ended buffer, rest) =>
          (.ok buffer, { asked base64 host port dsn stream with incoming := rest })
      | (.failure message, rest) =>
          (.err message, { asked base64 host port dsn stream with incoming := rest })
      | (.stalled, rest) => (.hang, { asked base64 host port dsn stream with incoming := rest }) :=
    rfl
  simp only [establishHttp, connected, TcpConnect.stream, handOver, dialogue]
  rw [run_bind_ok wrote, run_bind, readLine]
  rcases gather 256 statusLineRead [] stream.incoming with ⟨exit, rest⟩
  cases exit with
  | failure message => rfl
  | stalled => rfl
  | _ lineBuf =>
      simp only [judged]
      by_cases accepted : isOk (firstLine lineBuf) = true
      · simp only [if_pos accepted]
        rfl
      · simp only [if_neg accepted]
        rfl

end Answer

theorem line_read_keeps {front : List UInt8} (back : List UInt8)
    (complete : statusLineRead front = true) : statusLineRead (front ++ back) = true := by
  simp only [statusLineRead, Bool.or_eq_true, decide_eq_true_eq] at complete ⊢
  rcases complete with lineEnd | long
  · exact .inl (occurs_in_front (by simp [crlf]) back lineEnd)
  · exact .inr (long.trans_le (by simp))

/-- A buffer at which the loop stops holds the whole of a short first line. -/
theorem stopped_behind_line {line behind found left : List UInt8}
    (unbroken : (0x0A : UInt8) ∉ line) (short : line.length ≤ 1022)
    (complete : statusLineRead found = true) (joined : found ++ left = line ++ crlf ++ behind) :
    ∃ rest, found = line ++ crlf ++ rest := by
  have boundary : FirstBoundary statusLineRead [] [found, left] 1 := by
    refine ⟨Nat.one_pos, by simp, by simpa using complete, ?_⟩
    intro earlier positive before
    omega
  obtain ⟨rest, read⟩ := boundary_behind_status_line unbroken short boundary
    (by simpa using joined)
  exact ⟨rest, by simpa using read⟩

/-- The buffer that the answer is judged by: the first one that is enough, or, where the
stream ends before that, all of it. -/
structure LineBuffer (script rest : List ReadEvent) (lineBuf : List UInt8) : Prop where
  held : ∃ earlier, buffers 256 statusLineRead [] script = earlier ++ [lineBuf] ∧
    ∀ held ∈ earlier, statusLineRead held = false
  enough : statusLineRead lineBuf = true ∨ received rest = []
  joined : lineBuf ++ received rest = received script
  ending : endingOf rest = endingOf script

theorem stopped_line_buffer {script rest : List ReadEvent} {found : List UInt8}
    (ran : gather 256 statusLineRead [] script = (.stopped found, rest))
    (enough : statusLineRead found = true) : LineBuffer script rest found := by
  obtain ⟨ending, joined⟩ := gather_keeps 256 (by decide) statusLineRead [] _ _ found (.inl ran)
  exact ⟨gathered_last 256 statusLineRead [] script rest found rfl (.inl ran), .inl enough, joined,
    ending⟩

theorem ended_line_buffer {script rest : List ReadEvent}
    (ran : gather 256 statusLineRead [] script = (.ended (received script), rest)) :
    LineBuffer script rest (received script) := by
  obtain ⟨ending, joined⟩ := gather_keeps 256 (by decide) statusLineRead [] _ _ _ (.inr ran)
  exact ⟨gathered_last 256 statusLineRead [] script rest _ rfl (.inr ran),
    .inr (List.append_right_eq_self.mp joined), joined, ending⟩

/-- What an upstream can bring about with the reads that it answers with. -/
structure Answered (request : List UInt8) (stream : Duplex) (outcome : Outcome Duplex) :
    Prop where
  no_panic : outcome ≠ .panic
  hangs_iff : outcome = .hang ↔
    endingOf stream.incoming = .deadline ∧ statusLineRead (received stream.incoming) = false
  opened : ∀ tunnel, outcome = .ok tunnel → tunnel.sent = stream.sent ++ request ∧
    ∃ lineBuf, LineBuffer stream.incoming tunnel.incoming lineBuf ∧
      isOk (firstLine lineBuf) = true
  decided : ∀ line behind, (0x0A : UInt8) ∉ line → line.length ≤ 1022 →
    received stream.incoming = line ++ crlf ++ behind →
      (isOk (fromUtf8Lossy line) = true ∧ ∃ tunnel, outcome = .ok tunnel) ∨
        (isOk (fromUtf8Lossy line) = false ∧
          outcome = .err s!"CONNECT failed: {String.ofList (trim (fromUtf8Lossy line))}")
  bounded : ∀ held ∈ buffers 256 statusLineRead [] stream.incoming, held.length ≤ 1024 + 256

theorem judged_returned (base64 : List UInt8 → String) (host : String) (port : UInt16)
    (dsn : HttpDsn) (stream : Duplex) (lineBuf : List UInt8) (rest : List ReadEvent) :
    judged base64 host port dsn stream lineBuf rest ≠ .panic ∧
      judged base64 host port dsn stream lineBuf rest ≠ .hang := by
  rw [judged]
  split <;> simp

theorem judged_ok {base64 : List UInt8 → String} {host : String} {port : UInt16} {dsn : HttpDsn}
    {stream tunnel : Duplex} {lineBuf : List UInt8} {rest : List ReadEvent}
    (ok : judged base64 host port dsn stream lineBuf rest = .ok tunnel) :
    isOk (firstLine lineBuf) = true ∧
      tunnel = { asked base64 host port dsn stream with incoming := rest } := by
  rw [judged] at ok
  split at ok
  · cases ok
    exact ⟨‹_›, rfl⟩
  · cases ok

theorem judged_by_line (base64 : List UInt8 → String) (host : String) (port : UInt16)
    (dsn : HttpDsn) (stream : Duplex) {line : List UInt8} (rest : List UInt8)
    (left : List ReadEvent) (unbroken : (0x0A : UInt8) ∉ line) :
    (isOk (fromUtf8Lossy line) = true ∧
        ∃ tunnel, judged base64 host port dsn stream (line ++ crlf ++ rest) left = .ok tunnel) ∨
      (isOk (fromUtf8Lossy line) = false ∧
        judged base64 host port dsn stream (line ++ crlf ++ rest) left =
          .err s!"CONNECT failed: {String.ofList (trim (fromUtf8Lossy line))}") := by
  rw [judged, first_line_of_line unbroken, is_ok_trim]
  by_cases accepted : isOk (fromUtf8Lossy line) = true
  · exact .inl ⟨accepted, _, if_pos accepted⟩
  · exact .inr ⟨by simpa using accepted, if_neg accepted⟩

theorem no_line_unread {bytes line behind : List UInt8} (unread : statusLineRead bytes = false) :
    bytes ≠ line ++ crlf ++ behind := by
  rintro rfl
  have lineEnd : occurs crlf (line ++ crlf ++ behind) = true :=
    (occurs_iff (by simp [crlf])).mpr ⟨line, behind, rfl⟩
  rw [statusLineRead, lineEnd] at unread
  cases unread

/-- Whatever bytes an upstream HTTP proxy sends, in whatever reads and however they end: only
silence within the first line is waited on for ever, a tunnel lacks the buffer that the
answer was judged by, and a line of at most 1022 bytes that is there in full decides,
however it was cut into reads. -/
theorem any_answer_is_judged (base64 : List UInt8 → String) (tcp : String → TcpConnect)
    (host : String) (port : UInt16) (dsn : HttpDsn) (stream : Duplex)
    (connected : tcp (hostPort dsn.host dsn.port) = .connected stream)
    (accepting : stream.writes = []) :
    Answered (utf8 (connectRequest base64 host port dsn)) stream
      (establishHttp base64 tcp host port dsn) := by
  have bounded : ∀ held ∈ buffers 256 statusLineRead [] stream.incoming,
      held.length ≤ 1024 + 256 :=
    buffers_bounded (fun buffer unread => ((status_line_read_false_iff buffer).mp unread).2) []
      (Nat.zero_le _) _
  rw [establish_of_gather base64 host port dsn connected accepting]
  by_cases complete : statusLineRead (received stream.incoming) = true
  · -- The loop stops with bytes in hand, so the end of the reads is not met.
    obtain ⟨found, rest, ran, enough, _⟩ := gather_stops 256 (by decide) statusLineRead []
      stream.incoming rfl complete
    have lineBuffer := stopped_line_buffer ran enough
    obtain ⟨noPanic, noHang⟩ := judged_returned base64 host port dsn stream found rest
    simp only [ran]
    refine ⟨noPanic, ?_, ?_, ?_, bounded⟩
    · exact iff_of_false noHang (by simp [complete])
    · intro tunnel ok
      obtain ⟨accepted, rfl⟩ := judged_ok ok
      exact ⟨rfl, found, lineBuffer, accepted⟩
    · intro line behind unbroken short delivers
      obtain ⟨more, rfl⟩ := stopped_behind_line unbroken short enough
        (lineBuffer.joined.trans delivers)
      exact judged_by_line base64 host port dsn stream more rest unbroken
  · rw [Bool.not_eq_true] at complete
    have exit := gather_exhausted (by decide : 0 < 256) (fun _ back => line_read_keeps back) []
      stream.incoming complete
    rcases ran : gather 256 statusLineRead [] stream.incoming with ⟨gathered, rest⟩
    rw [ran, List.nil_append] at exit
    cases ending : endingOf stream.incoming with
    | failure message =>
        rw [ending] at exit
        cases exit
        exact ⟨by simp, by simp [ending], by simp,
          fun _ _ _ _ delivers => absurd delivers (no_line_unread complete), bounded⟩
    | deadline =>
        rw [ending] at exit
        cases exit
        exact ⟨by simp, by simp [complete, ending], by simp,
          fun _ _ _ _ delivers => absurd delivers (no_line_unread complete), bounded⟩
    | eof =>
        rw [ending] at exit
        cases exit
        obtain ⟨noPanic, noHang⟩ :=
          judged_returned base64 host port dsn stream (received stream.incoming) rest
        refine ⟨noPanic, iff_of_false noHang (by simp [ending]), ?_,
          fun _ _ _ _ delivers => absurd delivers (no_line_unread complete), bounded⟩
        intro tunnel ok
        obtain ⟨accepted, rfl⟩ := judged_ok ok
        exact ⟨rfl, _, ended_line_buffer ran, accepted⟩

def officeProxy : HttpDsn := { host := "127.0.0.1", port := 3128, user := none, pass := none }

def silentInLine : Duplex where
  incoming := [.data (utf8 "HTTP/1.1 2"), .stall]
  sent := []
  flushed := 0
  writes := []

theorem silent_in_line_hangs :
    establishHttp (fun _ => "") (fun _ => .connected silentInLine) "example.com" 443 officeProxy =
      .hang :=
  (any_answer_is_judged (fun _ => "") (fun _ => .connected silentInLine) "example.com" 443
    officeProxy silentInLine rfl rfl).hangs_iff.mpr ⟨rfl, by decide⟩

end MultiProxy.HttpConnectOutcomes
