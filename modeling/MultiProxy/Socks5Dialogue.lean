import MultiProxy.Socks5Messages

/-!
# Every way the SOCKS5 dialogue ends

The three rounds of `establish_socks5` against a server that may send any bytes
and stop anywhere: what the server has to send for the tunnel to open, what has
been written by then, and where the client panics or waits for ever.
-/

namespace MultiProxy.Socks5Dialogue

open MultiProxy.RustRuntime MultiProxy.DuplexStream MultiProxy.DuplexStream.Exchange
open MultiProxy.UpstreamDsn MultiProxy.Socks5Tunnel MultiProxy.Socks5Messages

set_option autoImplicit false

/-! ## One round -/

/-- From `before` to `after` the client wrote `written` and took `taken`. -/
structure Advanced (before after : Duplex) (written taken : List UInt8) : Prop where
  sent : after.sent = before.sent ++ written
  writes : after.writes = []
  bytes : received before.incoming = taken ++ received after.incoming
  silence : FallsSilent after.incoming ↔ FallsSilent before.incoming

theorem Advanced.trans {before between after : Duplex} {written written' taken taken' : List UInt8}
    (first : Advanced before between written taken)
    (second : Advanced between after written' taken') :
    Advanced before after (written ++ written') (taken ++ taken') where
  sent := by rw [second.sent, first.sent, List.append_assoc]
  writes := second.writes
  bytes := by rw [first.bytes, second.bytes, List.append_assoc]
  silence := second.silence.trans first.silence

/-- A read that was not filled: without end where the server has fallen silent,
an error where the stream has ended. -/
def BrokenOff {Value : Type} (stream : Duplex) (outcome : Outcome Value) : Prop :=
  (FallsSilent stream.incoming ∧ outcome = .hang) ∨
    (¬ FallsSilent stream.incoming ∧ ∃ message, outcome = .err message)

/-- A message, an answer of `count` bytes to it, and what is made of the answer. -/
theorem round_ends {Value : Type} (message : List UInt8) (count : Nat)
    (next : List UInt8 → Exchange Value) {stream : Duplex} (accepting : stream.writes = []) :
    (∃ answer after, answer.length = count ∧ Advanced stream after message answer ∧
        (do writeAll message; let answer ← readExact count; next answer).run stream =
          (next answer).run after) ∨
      ((received stream.incoming).length < count ∧
        ∃ outcome after, after.sent = stream.sent ++ message ∧ BrokenOff stream outcome ∧
          (do writeAll message; let answer ← readExact count; next answer).run stream =
            (outcome, after)) := by
  have wrote := run_write_all message stream accepting
  rw [run_bind_ok wrote]
  rcases run_read_exact_cases count { stream with sent := stream.sent ++ message } with
    ⟨answer, behind, after, delivers, size, ran, left, silence, sent, writes⟩ |
    ⟨short, after, sent, broken⟩
  · apply Or.inl
    refine ⟨answer, after, size, ⟨sent, writes.trans accepting, ?_, silence⟩, run_bind_ok ran next⟩
    rw [left]
    exact delivers
  · apply Or.inr
    refine ⟨short, ?_⟩
    rcases broken with ⟨silent, ran⟩ | ⟨heard, text, ran⟩
    · refine ⟨.hang, after, sent, Or.inl ⟨silent, rfl⟩, ?_⟩
      rw [run_bind, ran]
    · exact ⟨.err text, after, sent, Or.inr ⟨heard, text, rfl⟩, run_bind_err ran next⟩

/-! ## The three rounds -/

def greeting (dsn : Socks5Dsn) : List UInt8 :=
  [0x05, UInt8.ofNat (methods dsn).length] ++ methods dsn

/-- The server's answers that let the client come to its request, and what the
client has written by then. -/
inductive Opening (dsn : Socks5Dsn) : (answers written : List UInt8) → Prop where
  | open_ : Opening dsn [0x05, 0x00] (greeting dsn)
  | password (user pass : String) (version : UInt8) (userGiven : dsn.user = some user)
      (passGiven : dsn.pass = some pass) :
      Opening dsn [0x05, 0x02, version, 0x00] (greeting dsn ++ passwordRequest user pass)

theorem Opening.negotiated {dsn : Socks5Dsn} {answers written : List UInt8}
    (opening : Opening dsn answers written) : Negotiated dsn answers := by
  cases opening with
  | open_ => exact .open_
  | password user pass version userGiven passGiven =>
      exact .password user pass version userGiven passGiven

/-- The server picks the password method and the client has not both of user
and password. -/
def Unoffered (dsn : Socks5Dsn) (bytes : List UInt8) : Prop :=
  (∃ behind, bytes = 0x05 :: 0x02 :: behind) ∧ (dsn.user = none ∨ dsn.pass = none)

/-- The bytes come to their end while the client still waits for an answer. -/
inductive Unanswered (dsn : Socks5Dsn) (bytes : List UInt8) : Prop where
  | greeting (short : bytes.length < 2)
  | password {user pass : String} {behind : List UInt8} (userGiven : dsn.user = some user)
      (passGiven : dsn.pass = some pass) (same : bytes = 0x05 :: 0x02 :: behind)
      (short : behind.length < 2)
  | request {answers written behind : List UInt8} (opening : Opening dsn answers written)
      (same : bytes = answers ++ behind) (short : behind.length < 10)

/-- What the client has written when the dialogue ends. -/
inductive Written (host : String) (port : UInt16) (dsn : Socks5Dsn) : List UInt8 → Prop where
  | greeting : Written host port dsn (greeting dsn)
  | password (user pass : String) (userGiven : dsn.user = some user)
      (passGiven : dsn.pass = some pass) :
      Written host port dsn (Socks5Dialogue.greeting dsn ++ passwordRequest user pass)
  | request {answers written : List UInt8} (opening : Opening dsn answers written) :
      Written host port dsn (written ++ connectRequest host port)

/-- An answer that the client turns down. -/
inductive Refusal (dsn : Socks5Dsn) (bytes : List UInt8) : Prop where
  | version {version method : UInt8} {behind : List UInt8} (other : version ≠ 0x05)
      (same : bytes = version :: method :: behind)
  | method {method : UInt8} {behind : List UInt8} (notOpen : method ≠ 0x00)
      (notPassword : method ≠ 0x02) (same : bytes = 0x05 :: method :: behind)
  | password {user pass : String} {version status : UInt8} {behind : List UInt8}
      (userGiven : dsn.user = some user) (passGiven : dsn.pass = some pass)
      (failed : status ≠ 0x00) (same : bytes = 0x05 :: 0x02 :: version :: status :: behind)
  | request {answers written reply behind : List UInt8} (opening : Opening dsn answers written)
      (size : reply.length = 10) (refused : reply[1]? ≠ some 0x00)
      (same : bytes = answers ++ (reply ++ behind))

/-- The ways the dialogue stops short: an answer that is turned down, a stream that
ends too early, the unwrap of a credential that is not there, or a server that
falls silent while the client waits. -/
inductive Stopped {Value : Type} (dsn : Socks5Dsn) (stream : Duplex) : Outcome Value → Prop where
  | refused (message : String) (refusal : Refusal dsn (received stream.incoming)) :
      Stopped dsn stream (.err message)
  | cutOff (message : String) (unanswered : Unanswered dsn (received stream.incoming))
      (heard : ¬ FallsSilent stream.incoming) : Stopped dsn stream (.err message)
  | panicked (unoffered : Unoffered dsn (received stream.incoming)) : Stopped dsn stream .panic
  | waiting (unanswered : Unanswered dsn (received stream.incoming))
      (silent : FallsSilent stream.incoming) : Stopped dsn stream .hang

/-- The dialogue ends with the tunnel open, or it stops short. -/
inductive Ends (host : String) (port : UInt16) (dsn : Socks5Dsn) (stream after : Duplex) :
    Outcome Unit → Prop where
  | opened {answers written reply : List UInt8} (opening : Opening dsn answers written)
      (size : reply.length = 10) (granted : reply[1]? = some 0x00)
      (advanced : Advanced stream after (written ++ connectRequest host port) (answers ++ reply)) :
      Ends host port dsn stream after (.ok ())
  | stopped {outcome : Outcome Unit} (short : Stopped dsn stream outcome) :
      Ends host port dsn stream after outcome

theorem stopped_of_broken {Value : Type} {dsn : Socks5Dsn} {stream between : Duplex}
    {outcome : Outcome Value} (unanswered : Unanswered dsn (received stream.incoming))
    (silence : FallsSilent between.incoming ↔ FallsSilent stream.incoming)
    (broken : BrokenOff between outcome) : Stopped dsn stream outcome := by
  rcases broken with ⟨silent, rfl⟩ | ⟨heard, message, rfl⟩
  · exact .waiting unanswered (silence.mp silent)
  · exact .cutOff message unanswered (fun silent => heard (silence.mpr silent))

theorem stopped_bind {Value Other : Type} {dsn : Socks5Dsn} {stream before after : Duplex}
    {action : Exchange Value} {outcome : Outcome Value} (short : Stopped dsn stream outcome)
    (ran : action.run before = (outcome, after)) (next : Value → Exchange Other) :
    ∃ result, (action >>= next).run before = (result, after) ∧ Stopped dsn stream result := by
  rw [run_bind, ran]
  cases short with
  | refused message refusal => exact ⟨_, rfl, .refused message refusal⟩
  | cutOff message unanswered heard => exact ⟨_, rfl, .cutOff message unanswered heard⟩
  | panicked unoffered => exact ⟨_, rfl, .panicked unoffered⟩
  | waiting unanswered silent => exact ⟨_, rfl, .waiting unanswered silent⟩

theorem handshake_ends (dsn : Socks5Dsn) {stream : Duplex} (accepting : stream.writes = []) :
    (∃ method after, (handshake dsn).run stream = (.ok method, after) ∧
        Advanced stream after (greeting dsn) [0x05, method]) ∨
      (∃ outcome after, (handshake dsn).run stream = (outcome, after) ∧
        after.sent = stream.sent ++ greeting dsn ∧ Stopped dsn stream outcome) := by
  have wrote := run_write_all [0x05, UInt8.ofNat (methods dsn).length] stream accepting
  have stillAccepting : ({ stream with
      sent := stream.sent ++ [0x05, UInt8.ofNat (methods dsn).length] } : Duplex).writes = [] :=
    accepting
  unfold handshake
  rw [run_bind_ok wrote]
  rcases round_ends (methods dsn) 2
    (fun reply => if reply.getD 0 0 ≠ 0x05 then fail "SOCKS5 version mismatch"
      else pure (reply.getD 1 0)) stillAccepting with
    ⟨reply, after, size, answered, ran⟩ | ⟨short, outcome, after, sent, broken, ran⟩
  · obtain ⟨version, method, rfl⟩ := List.length_eq_two.mp size
    have whole : Advanced stream after (greeting dsn) [version, method] := by
      refine ⟨?_, answered.writes, answered.bytes, answered.silence⟩
      rw [answered.sent, greeting, List.append_assoc]
    by_cases five : version = 0x05
    · subst five
      exact Or.inl ⟨method, after, ran, whole⟩
    · have mismatch : [version, method].getD 0 0 ≠ 0x05 := five
      rw [if_pos mismatch] at ran
      exact Or.inr ⟨_, after, ran, whole.sent, .refused _ (.version five whole.bytes)⟩
  · apply Or.inr
    refine ⟨outcome, after, ran, by rw [sent, greeting, List.append_assoc], ?_⟩
    exact stopped_of_broken (.greeting short) Iff.rfl broken

theorem password_ends {dsn : Socks5Dsn} {user pass : String} (userGiven : dsn.user = some user)
    (passGiven : dsn.pass = some pass) {stream between : Duplex}
    (advanced : Advanced stream between (greeting dsn) [0x05, 0x02]) :
    (∃ answers written after, (authentication dsn 0x02).run between = (.ok (), after) ∧
        Opening dsn answers written ∧ Advanced stream after written answers) ∨
      (∃ outcome after, (authentication dsn 0x02).run between = (outcome, after) ∧
        after.sent = stream.sent ++ (greeting dsn ++ passwordRequest user pass) ∧
        Stopped dsn stream outcome) := by
  have asks : authentication dsn 0x02 = (do
      writeAll (passwordRequest user pass)
      let authReply ← readExact 2
      if authReply.getD 1 0 ≠ 0x00 then fail s!"SOCKS5 auth failed: status={authReply.getD 1 0}"
      else pure ()) := by
    simp only [authentication, userGiven, passGiven]
    rfl
  rw [asks]
  rcases round_ends (passwordRequest user pass) 2
    (fun authReply => if authReply.getD 1 0 ≠ 0x00 then
      fail s!"SOCKS5 auth failed: status={authReply.getD 1 0}" else pure ()) advanced.writes with
    ⟨reply, after, size, answered, ran⟩ | ⟨short, outcome, after, sent, broken, ran⟩
  · have whole := advanced.trans answered
    obtain ⟨version, status, rfl⟩ := List.length_eq_two.mp size
    by_cases passed : status = 0x00
    · subst passed
      exact Or.inl ⟨_, _, after, ran, .password user pass version userGiven passGiven, whole⟩
    · have refused : [version, status].getD 1 0 ≠ 0x00 := passed
      rw [if_pos refused] at ran
      exact Or.inr ⟨_, after, ran, whole.sent,
        .refused _ (.password userGiven passGiven passed whole.bytes)⟩
  · apply Or.inr
    refine ⟨outcome, after, ran, by rw [sent, advanced.sent, List.append_assoc], ?_⟩
    exact stopped_of_broken (.password userGiven passGiven advanced.bytes short)
      advanced.silence broken

theorem authentication_panics {dsn : Socks5Dsn} (missing : dsn.user = none ∨ dsn.pass = none)
    (stream : Duplex) : (authentication dsn 0x02).run stream = (.panic, stream) := by
  rcases missing with noUser | noPass
  · simp only [authentication, noUser]
    rfl
  · cases userGiven : dsn.user with
    | none =>
        simp only [authentication, userGiven]
        rfl
    | some user =>
        simp only [authentication, userGiven, noPass]
        rfl

theorem authentication_ends (host : String) (port : UInt16) {dsn : Socks5Dsn}
    {stream between : Duplex} {method : UInt8}
    (advanced : Advanced stream between (greeting dsn) [0x05, method]) :
    (∃ answers written after, (authentication dsn method).run between = (.ok (), after) ∧
        Opening dsn answers written ∧ Advanced stream after written answers) ∨
      (∃ outcome after messages, (authentication dsn method).run between = (outcome, after) ∧
        after.sent = stream.sent ++ messages ∧ Written host port dsn messages ∧
        Stopped dsn stream outcome) := by
  by_cases noPassword : method = 0x00
  · subst noPassword
    exact Or.inl ⟨_, _, between, rfl, .open_, advanced⟩
  · by_cases password : method = 0x02
    · subst password
      by_cases given : dsn.user = none ∨ dsn.pass = none
      · have panicked := authentication_panics given between
        exact Or.inr ⟨_, between, _, panicked, advanced.sent, .greeting,
          .panicked ⟨⟨_, advanced.bytes⟩, given⟩⟩
      · simp only [not_or, ← ne_eq, Option.ne_none_iff_exists'] at given
        obtain ⟨⟨user, userGiven⟩, pass, passGiven⟩ := given
        rcases password_ends userGiven passGiven advanced with passed | ⟨outcome, after, ended⟩
        · exact Or.inl passed
        · exact Or.inr ⟨outcome, after, _, ended.1, ended.2.1,
            .password user pass userGiven passGiven, ended.2.2⟩
    · have refused : ∃ message, (authentication dsn method).run between =
          (.err message, between) := by
        unfold authentication
        rw [if_neg noPassword, if_neg password]
        by_cases none : method = 0xFF
        · rw [if_pos none]
          exact ⟨_, rfl⟩
        · rw [if_neg none]
          exact ⟨_, rfl⟩
      obtain ⟨message, ran⟩ := refused
      exact Or.inr ⟨_, between, _, ran, advanced.sent, .greeting,
        .refused message (.method noPassword password advanced.bytes)⟩

theorem request_ends (host : String) (port : UInt16) {dsn : Socks5Dsn} {stream between : Duplex}
    {answers written : List UInt8} (opening : Opening dsn answers written)
    (advanced : Advanced stream between written answers) :
    ∃ outcome after, (connectCommand host port).run between = (outcome, after) ∧
      after.sent = stream.sent ++ (written ++ connectRequest host port) ∧
      Ends host port dsn stream after outcome := by
  rcases round_ends (connectRequest host port) 10
    (fun reply => if reply.getD 1 0 ≠ 0x00 then
      fail s!"SOCKS5 connect failed: {connectReason (reply.getD 1 0)}" else pure ())
    advanced.writes with
    ⟨reply, after, size, answered, ran⟩ | ⟨short, outcome, after, sent, broken, ran⟩
  · have whole := advanced.trans answered
    have second : reply[1]? = some (reply.getD 1 0) := by
      rw [List.getD_eq_getElem?_getD, List.getElem?_eq_getElem (by omega)]
      rfl
    by_cases granted : reply.getD 1 0 = 0x00
    · rw [if_neg (not_not.mpr granted)] at ran
      rw [granted] at second
      exact ⟨.ok (), after, ran, whole.sent, .opened opening size second whole⟩
    · rw [if_pos granted] at ran
      have bytes := whole.bytes
      rw [List.append_assoc] at bytes
      refine ⟨_, after, ran, whole.sent, .stopped (.refused _ (.request opening size ?_ bytes))⟩
      rw [second]
      exact fun zero => granted (Option.some.inj zero)
  · refine ⟨outcome, after, ran, ?_, .stopped ?_⟩
    · rw [sent, advanced.sent, List.append_assoc]
    · exact stopped_of_broken (.request opening advanced.bytes short) advanced.silence broken

/-- Every run against a server that takes what is written. -/
theorem dialogue_ends (host : String) (port : UInt16) (dsn : Socks5Dsn) {stream : Duplex}
    (accepting : stream.writes = []) :
    ∃ outcome after messages, (dialogue host port dsn).run stream = (outcome, after) ∧
      after.sent = stream.sent ++ messages ∧ Written host port dsn messages ∧
      Ends host port dsn stream after outcome := by
  unfold dialogue
  rcases handshake_ends dsn accepting with
    ⟨method, between, shook, advanced⟩ | ⟨outcome, after, shook, sent, short⟩
  · rw [run_bind_ok shook]
    rcases authentication_ends host port advanced with
      ⟨answers, written, later, passed, opening, further⟩ |
      ⟨outcome, after, messages, ran, sent, wrote, short⟩
    · rw [run_bind_ok passed]
      obtain ⟨outcome, after, ran, sent, ends⟩ := request_ends host port opening further
      exact ⟨outcome, after, _, ran, sent, .request opening, ends⟩
    · obtain ⟨result, whole, stopped⟩ := stopped_bind short ran fun _ => connectCommand host port
      exact ⟨result, after, messages, whole, sent, wrote, .stopped stopped⟩
  · obtain ⟨result, whole, stopped⟩ := stopped_bind short shook fun method =>
      authentication dsn method >>= fun _ => connectCommand host port
    exact ⟨result, after, _, whole, sent, .greeting, .stopped stopped⟩

theorem password_message_sent (host : String) (port : UInt16) {dsn : Socks5Dsn}
    {user pass : String} (userGiven : dsn.user = some user) (passGiven : dsn.pass = some pass)
    {stream : Duplex} (accepting : stream.writes = []) {behind : List UInt8}
    (picked : received stream.incoming = 0x05 :: 0x02 :: behind) :
    ∃ later, ((dialogue host port dsn).run stream).2.sent =
        stream.sent ++ (greeting dsn ++ (passwordRequest user pass ++ later)) ∧
      (later = [] ∨ later = connectRequest host port) := by
  obtain ⟨between, shook, _, _⟩ := handshake_answered dsn 0x02 stream behind accepting picked
  have advanced : Advanced stream between (greeting dsn) [0x05, 0x02] := by
    obtain ⟨method, after, ran, whole⟩ | ⟨outcome, after, ran, _, short⟩ :=
      handshake_ends dsn accepting
    · rw [shook] at ran
      cases ran
      exact whole
    · rw [shook] at ran
      cases ran
      cases short
  unfold dialogue
  rw [run_bind_ok shook]
  obtain ⟨answers, written, after, passed, opening, further⟩ | ⟨outcome, after, ran, sent, short⟩ :=
    password_ends userGiven passGiven advanced
  · obtain ⟨outcome, last, asked, whole, _⟩ := request_ends host port opening further
    refine ⟨connectRequest host port, ?_, Or.inr rfl⟩
    rw [run_bind_ok passed, asked, whole]
    cases opening with
    | open_ =>
        have bytes := further.bytes
        rw [picked] at bytes
        cases bytes
    | password user' pass' version userSame passSame =>
        rw [userGiven] at userSame
        rw [passGiven] at passSame
        cases userSame
        cases passSame
        simp
  · obtain ⟨result, whole, _⟩ := stopped_bind short ran fun _ => connectCommand host port
    refine ⟨[], ?_, Or.inl rfl⟩
    rw [whole, sent, List.append_nil]

end MultiProxy.Socks5Dialogue
