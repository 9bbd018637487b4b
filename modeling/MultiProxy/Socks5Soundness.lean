import MultiProxy.Socks5Dialogue
import MultiProxy.Authorities

/-!
# What an open SOCKS5 tunnel vouches for

Against any server: whether the client comes back, what its success says of the
answers it took, and whether the messages it wrote are read by the server as the
destination and the credentials they were written for.
-/

namespace MultiProxy.Socks5Soundness

open MultiProxy.RustRuntime MultiProxy.DuplexStream MultiProxy.DuplexStream.Exchange
open MultiProxy.UpstreamDsn MultiProxy.Socks5Tunnel MultiProxy.Socks5Messages
open MultiProxy.Socks5Dialogue MultiProxy.ProxyRequests MultiProxy.Authorities

set_option autoImplicit false

def serverSends (script : List ReadEvent) : Duplex where
  incoming := script
  sent := []
  flushed := 0
  writes := []

theorem server_accepts (script : List ReadEvent) : (serverSends script).writes = [] := rfl

/-! ## One kind of answer at a time -/

theorem opening_unique {dsn : Socks5Dsn} {answers written answers' written' : List UInt8}
    {behind behind' : List UInt8} (opening : Opening dsn answers written)
    (opening' : Opening dsn answers' written') (same : answers ++ behind = answers' ++ behind') :
    answers = answers' ∧ behind = behind' := by
  cases opening with
  | open_ =>
      cases opening' with
      | open_ => exact ⟨rfl, by simpa using same⟩
      | password user pass version userGiven passGiven => simp at same
  | password user pass version userGiven passGiven =>
      cases opening' with
      | open_ => simp at same
      | password user' pass' version' userGiven' passGiven' =>
          simp only [List.cons_append, List.nil_append, List.cons.injEq, true_and] at same
          exact ⟨by rw [same.1], same.2⟩

theorem opening_written {dsn : Socks5Dsn} {answers written written' : List UInt8}
    (opening : Opening dsn answers written) (opening' : Opening dsn answers written') :
    written = written' := by
  cases opening with
  | open_ => cases opening' with | open_ => rfl
  | password user pass version userGiven passGiven =>
      cases opening' with
      | password user' pass' version' userGiven' passGiven' =>
          rw [userGiven] at userGiven'
          rw [passGiven] at passGiven'
          cases userGiven'
          cases passGiven'
          rfl

theorem answered_not_unanswered {dsn : Socks5Dsn} {answers written reply behind : List UInt8}
    (opening : Opening dsn answers written) (size : reply.length = 10) :
    ¬ Unanswered dsn (answers ++ (reply ++ behind)) := by
  intro unanswered
  cases unanswered with
  | greeting short =>
      simp only [List.length_append] at short
      omega
  | password userGiven passGiven same short =>
      cases opening with
      | open_ => simp at same
      | password user pass version userGiven' passGiven' =>
          simp only [List.cons_append, List.nil_append, List.cons.injEq, true_and] at same
          simp [← same] at short
  | request opening' same short =>
      have left := (opening_unique opening opening' same).2
      rw [← left, List.length_append] at short
      omega

theorem unoffered_not_unanswered {dsn : Socks5Dsn} {bytes : List UInt8}
    (unoffered : Unoffered dsn bytes) : ¬ Unanswered dsn bytes := by
  intro unanswered
  obtain ⟨⟨behind, rfl⟩, missing⟩ := unoffered
  cases unanswered with
  | greeting short => simp at short
  | password userGiven passGiven same short => simp [userGiven, passGiven] at missing
  | request opening same short =>
      cases opening with
      | open_ => simp at same
      | password user pass version userGiven passGiven => simp [userGiven, passGiven] at missing

theorem refused_not_unanswered {dsn : Socks5Dsn} {bytes : List UInt8}
    (refusal : Refusal dsn bytes) : ¬ Unanswered dsn bytes := by
  intro unanswered
  cases refusal with
  | version other same =>
      subst same
      cases unanswered with
      | greeting short => simp at short
      | password userGiven passGiven same short => simp [other] at same
      | request opening same short =>
          cases opening with
          | open_ => simp [other] at same
          | password user pass version userGiven passGiven => simp [other] at same
  | method notOpen notPassword same =>
      subst same
      cases unanswered with
      | greeting short => simp at short
      | password userGiven passGiven same short => simp [notPassword] at same
      | request opening same short =>
          cases opening with
          | open_ => simp [notOpen] at same
          | password user pass version userGiven passGiven => simp [notPassword] at same
  | password userGiven passGiven failed same =>
      subst same
      cases unanswered with
      | greeting short => simp at short
      | password userGiven passGiven same short =>
          simp only [List.cons.injEq, true_and] at same
          simp [← same] at short
      | request opening same short =>
          cases opening with
          | open_ => simp at same
          | password user pass version userGiven passGiven => simp [failed] at same
  | request opening size refused same =>
      subst same
      exact answered_not_unanswered opening size unanswered

/-! ## The outcome of each kind -/

/-- The server completes a negotiation and grants the request in ten bytes. -/
structure Granted (dsn : Socks5Dsn) (bytes answers reply : List UInt8) : Prop where
  opening : ∃ written, Opening dsn answers written
  size : reply.length = 10
  granted : reply[1]? = some 0x00
  starts : answers ++ reply <+: bytes

section Outcomes

variable (host : String) (port : UInt16) (dsn : Socks5Dsn) (script : List ReadEvent)

theorem unoffered_panics (unoffered : Unoffered dsn (received script)) :
    ((dialogue host port dsn).run (serverSends script)).1 = .panic := by
  obtain ⟨⟨behind, delivers⟩, missing⟩ := unoffered
  obtain ⟨after, shook, _, _⟩ :=
    handshake_answered dsn 0x02 (serverSends script) behind rfl delivers
  unfold dialogue
  rw [run_bind_ok shook, run_bind, authentication_panics missing after]

theorem granted_opens {answers written reply : List UInt8} (opening : Opening dsn answers written)
    (granted : Granted dsn (received script) answers reply) :
    ∃ after, (dialogue host port dsn).run (serverSends script) = (.ok (), after) ∧
      after.sent = written ++ connectRequest host port := by
  obtain ⟨_, size, accepted, behind, same⟩ := granted
  rw [List.append_assoc] at same
  obtain ⟨middle, ran, accepting, left⟩ := dialogue_after_negotiation host port
    opening.negotiated (server_accepts script) same.symm
  obtain ⟨after, _, ended⟩ := connect_command_takes_ten host port accepting left
    (by rw [List.length_append]; omega)
  have code : (reply ++ behind).getD 1 0 = 0 := by
    rw [List.getD_eq_getElem?_getD, List.getElem?_append_left (by omega), accepted]
    rfl
  rw [if_pos code] at ended
  have ok := ran.trans ended
  refine ⟨after, ok, ?_⟩
  obtain ⟨outcome, after', messages, ran', sent, _, ends⟩ :=
    dialogue_ends host port dsn (server_accepts script)
  cases ok.symm.trans ran'
  cases ends with
  | opened opening' size' accepted' advanced =>
      have delivered : received script = _ := advanced.bytes
      rw [List.append_assoc, ← same] at delivered
      have sameAnswers := (opening_unique opening opening' delivered).1
      subst sameAnswers
      rw [opening_written opening opening']
      exact advanced.sent
  | stopped short => cases short

theorem unanswered_hangs (unanswered : Unanswered dsn (received script))
    (silent : FallsSilent script) :
    ((dialogue host port dsn).run (serverSends script)).1 = .hang := by
  obtain ⟨outcome, after, messages, ran, _, _, ends⟩ :=
    dialogue_ends host port dsn (server_accepts script)
  rw [ran]
  cases ends with
  | opened opening size granted advanced =>
      have bytes := advanced.bytes
      rw [List.append_assoc] at bytes
      have delivered : received script = _ := bytes
      rw [delivered] at unanswered
      exact absurd unanswered (answered_not_unanswered opening size)
  | stopped short =>
      cases short with
      | refused message refusal => exact absurd unanswered (refused_not_unanswered refusal)
      | cutOff message waits heard => exact absurd silent heard
      | panicked unoffered => exact absurd unanswered (unoffered_not_unanswered unoffered)
      | waiting waits hears => rfl

end Outcomes

/-! ## What success vouches for -/

/-- The server's reply to the request, behind the replies of its negotiation. -/
def connectReply (bytes : List UInt8) : List UInt8 :=
  if bytes[1]? = some 0x02 then bytes.drop 4 else bytes.drop 2

/-- What the answers of the server and the messages of the client have to be for
the tunnel to count as established. -/
structure Vouched (dsn : Socks5Dsn) (bytes sent : List UInt8) : Prop where
  method_offered : bytes[0]? = some 0x05 ∧ ∃ method ∈ methods dsn, bytes[1]? = some method
  authenticated : bytes[1]? = some 0x02 → bytes[3]? = some 0x00 ∧
    ∃ user pass message behind, dsn.user = some user ∧ dsn.pass = some pass ∧
      sent = greeting dsn ++ message ++ behind ∧
      decodePassword message = some ((utf8 user, utf8 pass), [])
  granted : (connectReply bytes)[0]? = some 0x05 ∧ (connectReply bytes)[1]? = some 0x00

/-- The client comes back, and only with a tunnel that is vouched for. -/
structure ClientSound (host : String) (port : UInt16) (dsn : Socks5Dsn)
    (script : List ReadEvent) : Prop where
  returned : (establishSocks5 (fun _ => .connected (serverSends script)) host port dsn).Returned
  vouched : ∀ tunnel,
    establishSocks5 (fun _ => .connected (serverSends script)) host port dsn = .ok tunnel →
      Vouched dsn (received script) tunnel.sent

/-- The answers of a server that the client gets right. -/
structure WellAnswered (dsn : Socks5Dsn) (script : List ReadEvent) : Prop where
  offered : ¬ Unoffered dsn (received script)
  heard : Unanswered dsn (received script) → ¬ FallsSilent script
  version_five : ∀ answers reply, Granted dsn (received script) answers reply →
    reply[0]? = some 0x05
  credentials_fit : ∀ version reply user pass,
    Granted dsn (received script) [0x05, 0x02, version, 0x00] reply →
      dsn.user = some user → dsn.pass = some pass → FitsLengthByte user ∧ FitsLengthByte pass

theorem hand_over_returned (dialogue : Exchange Unit) (stream : Duplex) :
    (handOver dialogue (.ok stream)).Returned ↔ (dialogue.run stream).1.Returned := by
  simp only [handOver]
  obtain ⟨outcome, after⟩ := dialogue.run stream
  cases outcome <;> exact Iff.rfl

theorem opening_offered {dsn : Socks5Dsn} {answers written behind : List UInt8}
    (opening : Opening dsn answers written) :
    (answers ++ behind)[0]? = some 0x05 ∧
      ∃ method ∈ methods dsn, (answers ++ behind)[1]? = some method := by
  cases opening with
  | open_ =>
      refine ⟨rfl, 0x00, ?_, rfl⟩
      unfold methods
      split <;> simp
  | password user pass version userGiven passGiven =>
      refine ⟨rfl, 0x02, ?_, rfl⟩
      simp [methods, userGiven, passGiven]

theorem reply_behind_opening {dsn : Socks5Dsn} {answers written : List UInt8}
    (opening : Opening dsn answers written) (behind : List UInt8) :
    connectReply (answers ++ behind) = behind := by
  cases opening with
  | open_ => rfl
  | password user pass version userGiven passGiven => rfl

section Soundness

variable (host : String) (port : UInt16) (dsn : Socks5Dsn) (script : List ReadEvent)

theorem opened_vouched (well : WellAnswered dsn script) {after : Duplex}
    {answers written reply : List UInt8} (opening : Opening dsn answers written)
    (size : reply.length = 10) (accepted : reply[1]? = some 0x00)
    (advanced : Advanced (serverSends script) after (written ++ connectRequest host port)
      (answers ++ reply)) :
    Vouched dsn (received script) after.sent := by
  have delivers : received script = answers ++ (reply ++ received after.incoming) := by
    rw [← List.append_assoc]
    exact advanced.bytes
  have granted : Granted dsn (received script) answers reply :=
    ⟨⟨written, opening⟩, size, accepted, ⟨_, advanced.bytes.symm⟩⟩
  have sent : after.sent = written ++ connectRequest host port := advanced.sent
  have version := well.version_five answers reply granted
  rw [delivers, sent]
  refine ⟨opening_offered opening, ?_, ?_⟩
  · intro password
    cases opening with
    | open_ => simp at password
    | password user pass status userGiven passGiven =>
        have fits := well.credentials_fit status reply user pass granted userGiven passGiven
        exact ⟨rfl, user, pass, passwordRequest user pass, connectRequest host port, userGiven,
          passGiven, rfl, (decode_password_request_iff user pass).mpr fits⟩
  · rw [reply_behind_opening opening, List.getElem?_append_left (by omega),
      List.getElem?_append_left (by omega)]
    exact ⟨version, accepted⟩

/-- The client is sound exactly for the servers that do not pick a method it
cannot answer, fall silent while it waits, grant in another version, or ask for
credentials that do not fit their message. -/
theorem socks5_client_sound_iff :
    ClientSound host port dsn script ↔ WellAnswered dsn script := by
  have outcome : establishSocks5 (fun _ => .connected (serverSends script)) host port dsn =
      handOver (dialogue host port dsn) (.ok (serverSends script)) := rfl
  constructor
  · intro sound
    have returned := sound.returned
    rw [outcome, hand_over_returned] at returned
    have opened : ∀ answers reply, Granted dsn (received script) answers reply →
        ∃ sent, Vouched dsn (received script) sent := by
      intro answers reply granted
      obtain ⟨written, opening⟩ := granted.opening
      obtain ⟨after, ran, _⟩ := granted_opens host port dsn script opening granted
      exact ⟨after.sent, sound.vouched after ((hand_over_ok_iff _ _ _).mpr ran)⟩
    refine ⟨?_, ?_, ?_, ?_⟩
    · intro unoffered
      rw [unoffered_panics host port dsn script unoffered] at returned
      exact returned
    · intro unanswered silent
      rw [unanswered_hangs host port dsn script unanswered silent] at returned
      exact returned
    · intro answers reply granted
      obtain ⟨sent, vouched⟩ := opened answers reply granted
      obtain ⟨⟨written, opening⟩, size, _, behind, same⟩ := granted
      have version := vouched.granted.1
      rw [← same, List.append_assoc, reply_behind_opening opening,
        List.getElem?_append_left (by omega)] at version
      exact version
    · intro status reply user pass granted userGiven passGiven
      obtain ⟨sent, vouched⟩ := opened _ reply granted
      obtain ⟨_, _, _, behind, same⟩ := granted
      have picked : (received script)[1]? = some 0x02 := by
        rw [← same]
        rfl
      obtain ⟨_, user', pass', message, rest, userSame, passSame, _, decoded⟩ :=
        vouched.authenticated picked
      rw [userGiven] at userSame
      rw [passGiven] at passSame
      cases userSame
      cases passSame
      exact decoded_password_fits decoded
  · intro well
    obtain ⟨result, after, messages, ran, _, _, ends⟩ :=
      dialogue_ends host port dsn (server_accepts script)
    constructor
    · rw [outcome, hand_over_returned, ran]
      cases ends with
      | opened opening size accepted advanced => trivial
      | stopped short =>
          cases short with
          | refused message refusal => trivial
          | cutOff message unanswered heard => trivial
          | panicked unoffered => exact well.offered unoffered
          | waiting unanswered silent => exact well.heard unanswered silent
    · intro tunnel opened
      rw [outcome, hand_over_ok_iff, ran] at opened
      cases opened
      cases ends with
      | opened opening size accepted advanced =>
          exact opened_vouched host port dsn script well opening size accepted advanced
      | stopped short => cases short

end Soundness

def withoutCredentials : Socks5Dsn where
  host := "127.0.0.1"
  port := 1080
  user := none
  pass := none

/-- `05 02` from a server that was only offered method 0. -/
theorem unoffered_method_panics :
    ¬ ClientSound "example.com" 443 withoutCredentials [.data [0x05, 0x02]] := by
  intro sound
  have well := (socks5_client_sound_iff "example.com" 443 withoutCredentials
    [.data [0x05, 0x02]]).mp sound
  exact well.offered ⟨⟨[], rfl⟩, Or.inl rfl⟩

/-! ## The messages that are written -/

/-- Behind its greeting the client writes at most two messages: one that decodes
to its user and password, and one that decodes to the host and port. -/
def WritesFaithfully (host : String) (port : UInt16) (dsn : Socks5Dsn) : Prop :=
  ∀ script, ∃ authentication request,
    ((dialogue host port dsn).run (serverSends script)).2.sent =
        greeting dsn ++ (authentication ++ request) ∧
      (authentication = [] ∨ ∃ user pass, dsn.user = some user ∧ dsn.pass = some pass ∧
        decodePassword authentication = some ((utf8 user, utf8 pass), [])) ∧
      (request = [] ∨ decodeConnect request = some ((.domain (utf8 host), port.toNat), []))

/-- Every text that a dialogue may have to send fits behind its length byte. -/
def AllFit (host : String) (dsn : Socks5Dsn) : Prop :=
  FitsLengthByte host ∧ ∀ user pass, dsn.user = some user → dsn.pass = some pass →
    FitsLengthByte user ∧ FitsLengthByte pass

/-- The messages are faithful, and texts that do not fit end in an error. -/
structure EncodesFaithfully (host : String) (port : UInt16) (dsn : Socks5Dsn) : Prop where
  written : WritesFaithfully host port dsn
  oversize : ¬ AllFit host dsn → ∀ script, ∃ message,
    establishSocks5 (fun _ => .connected (serverSends script)) host port dsn = .err message

section Encoding

variable (host : String) (port : UInt16) (dsn : Socks5Dsn)

theorem writes_faithfully (fits : AllFit host dsn) : WritesFaithfully host port dsn := by
  intro script
  obtain ⟨outcome, after, messages, ran, sent, wrote, _⟩ :=
    dialogue_ends host port dsn (server_accepts script)
  have whole : after.sent = messages := sent
  rw [ran, whole]
  have asked := (decode_connect_request_iff host port).mpr fits.1
  cases wrote with
  | greeting => exact ⟨[], [], by simp, Or.inl rfl, Or.inl rfl⟩
  | password user pass userGiven passGiven =>
      have decoded := (decode_password_request_iff user pass).mpr
        (fits.2 user pass userGiven passGiven)
      exact ⟨passwordRequest user pass, [], by simp,
        Or.inr ⟨user, pass, userGiven, passGiven, decoded⟩, Or.inl rfl⟩
  | request opening =>
      cases opening with
      | open_ => exact ⟨[], connectRequest host port, rfl, Or.inl rfl, Or.inr asked⟩
      | password user pass version userGiven passGiven =>
          have decoded := (decode_password_request_iff user pass).mpr
            (fits.2 user pass userGiven passGiven)
          exact ⟨passwordRequest user pass, connectRequest host port, by simp,
            Or.inr ⟨user, pass, userGiven, passGiven, decoded⟩, Or.inr asked⟩

def grantingReply : List UInt8 := [0x05, 0x00, 0x00, 0x01, 0, 0, 0, 0, 0, 0]

theorem request_reaches_server {answers written : List UInt8}
    (opening : Opening dsn answers written) :
    ((dialogue host port dsn).run
        (serverSends [.data (answers ++ grantingReply)])).2.sent =
      written ++ connectRequest host port := by
  have granted : Granted dsn (received [.data (answers ++ grantingReply)]) answers grantingReply :=
    ⟨⟨written, opening⟩, rfl, rfl, ⟨[], rfl⟩⟩
  obtain ⟨after, ran, sent⟩ := granted_opens host port dsn _ opening granted
  rw [ran]
  exact sent

theorem faithful_host_fits (faithful : WritesFaithfully host port dsn) : FitsLengthByte host := by
  obtain ⟨authentication, request, sent, password, asked⟩ :=
    faithful [.data ([0x05, 0x00] ++ grantingReply)]
  rw [request_reaches_server host port dsn .open_] at sent
  have messages := List.append_cancel_left sent
  have first : (authentication ++ request).head? = some 0x05 := by
    rw [← messages]
    rfl
  rcases password with rfl | ⟨user, pass, _, _, decoded⟩
  · rw [List.nil_append] at messages
    rcases asked with rfl | decoded
    · cases messages
    · rw [← messages] at decoded
      exact (decode_connect_request_iff host port).mp decoded
  · rw [List.head?_append, decoded_password_version decoded] at first
    cases first

theorem faithful_credentials_fit (faithful : WritesFaithfully host port dsn) {user pass : String}
    (userGiven : dsn.user = some user) (passGiven : dsn.pass = some pass) :
    FitsLengthByte user ∧ FitsLengthByte pass := by
  have opening : Opening dsn [0x05, 0x02, 0x01, 0x00] _ :=
    .password user pass 0x01 userGiven passGiven
  obtain ⟨authentication, request, sent, password, asked⟩ :=
    faithful [.data ([0x05, 0x02, 0x01, 0x00] ++ grantingReply)]
  rw [request_reaches_server host port dsn opening, List.append_assoc] at sent
  have messages := List.append_cancel_left sent
  rcases password with rfl | ⟨user', pass', userSame, passSame, decoded⟩
  · have first : request.head? = some 0x01 := by
      rw [← List.nil_append request, ← messages]
      rfl
    rcases asked with rfl | decoded
    · cases first
    · rw [decoded_connect_version decoded] at first
      cases first
  · rw [userGiven] at userSame
    rw [passGiven] at passSame
    cases userSame
    cases passSame
    exact decoded_password_fits decoded

/-- The messages are faithful, and oversize texts are turned down, exactly when
there are no oversize texts: each is at most 255 bytes long. -/
theorem socks5_messages_faithful_iff : EncodesFaithfully host port dsn ↔ AllFit host dsn := by
  constructor
  · intro faithful
    refine ⟨faithful_host_fits host port dsn faithful.written, ?_⟩
    intro user pass userGiven passGiven
    exact faithful_credentials_fit host port dsn faithful.written userGiven passGiven
  · intro fits
    exact ⟨writes_faithfully host port dsn fits, fun oversize => absurd fits oversize⟩

end Encoding

def longHost (size : Nat) : String := String.ofList (List.replicate size 'a')

theorem long_host_size (size : Nat) : (utf8 (longHost size)).length = size := by
  have one : (String.utf8EncodeChar 'a').length = 1 := by decide
  rw [longHost, utf8, String.toList_ofList, List.length_flatMap, List.map_replicate, one]
  simp

theorem long_host_parses (size : Nat) (port : UInt16) (some : size ≠ 0) :
    parseAuthority (hostPort (longHost size) port) = .ok (longHost size, port) := by
  apply parse_plain_authority port
  · intro empty
    have length := long_host_size size
    rw [empty] at length
    exact some length.symm
  · rw [longHost, String.toList_ofList]
    cases size with
    | zero => simp
    | succ size => simp [List.replicate_succ]

/-- An authority with a host of 256 bytes is accepted, and the request that is
written for it does not decode to that host. -/
theorem long_host_written_wrong :
    parseAuthority (hostPort (longHost 256) 443) = .ok (longHost 256, 443) ∧
      ¬ EncodesFaithfully (longHost 256) 443 withoutCredentials := by
  constructor
  · exact long_host_parses 256 443 (by decide)
  · intro faithful
    have fits := faithful_host_fits (longHost 256) 443 withoutCredentials faithful.written
    rw [FitsLengthByte, long_host_size] at fits
    omega

end MultiProxy.Socks5Soundness
