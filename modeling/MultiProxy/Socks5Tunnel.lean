import MultiProxy.DuplexStream
import MultiProxy.UpstreamDsn

/-!
# The SOCKS5 client dialogue

`establish_socks5` in its three steps: method negotiation, the RFC 1929
authentication when the server asks for it, and the connect command. The reply
to the command is read as ten bytes whatever address type it announces.
-/

namespace MultiProxy.Socks5Tunnel

open MultiProxy.RustRuntime MultiProxy.DuplexStream MultiProxy.DuplexStream.Exchange
open MultiProxy.UpstreamDsn

set_option autoImplicit false

def methods (dsn : Socks5Dsn) : List UInt8 :=
  if dsn.user.isSome ∧ dsn.pass.isSome then [0x02, 0x00] else [0x00]

/-- Step 1: the handshake; its value is the method the server chose. -/
def handshake (dsn : Socks5Dsn) : Exchange UInt8 := do
  writeAll [0x05, UInt8.ofNat (methods dsn).length]
  writeAll (methods dsn)
  let reply ← readExact 2
  if reply.getD 0 0 ≠ 0x05 then fail "SOCKS5 version mismatch" else pure (reply.getD 1 0)

/-- The RFC 1929 message. `len() as u8` keeps the low byte of a length. -/
def passwordRequest (user pass : String) : List UInt8 :=
  [0x01] ++ [UInt8.ofNat (utf8 user).length] ++ utf8 user ++
    [UInt8.ofNat (utf8 pass).length] ++ utf8 pass

/-- Step 2: authentication. The unwraps are those of the source. -/
def authentication (dsn : Socks5Dsn) (method : UInt8) : Exchange Unit :=
  if method = 0x00 then pure ()
  else if method = 0x02 then do
    let user ← unwrap dsn.user
    let pass ← unwrap dsn.pass
    writeAll (passwordRequest user pass)
    let authReply ← readExact 2
    if authReply.getD 1 0 ≠ 0x00 then fail s!"SOCKS5 auth failed: status={authReply.getD 1 0}"
    else pure ()
  else if method = 0xFF then fail "SOCKS5: no acceptable auth method"
  else fail s!"SOCKS5: unexpected auth method reply: {method}"

def portBytes (port : UInt16) : List UInt8 :=
  [UInt8.ofNat (port.toNat / 256), UInt8.ofNat (port.toNat % 256)]

def connectRequest (host : String) (port : UInt16) : List UInt8 :=
  [0x05, 0x01, 0x00, 0x03] ++ [UInt8.ofNat (utf8 host).length] ++ utf8 host ++ portBytes port

def reasons : List String :=
  ["succeeded", "general failure", "connection not allowed", "network unreachable",
    "host unreachable", "connection refused", "TTL expired", "command not supported",
    "address type not supported"]

def connectReason (code : UInt8) : String :=
  match reasons[code.toNat]? with
  | some reason => reason
  | none => s!"code={code}"

/-- Step 3: the connect command and the ten bytes read in answer to it. -/
def connectCommand (host : String) (port : UInt16) : Exchange Unit := do
  writeAll (connectRequest host port)
  let reply ← readExact 10
  if reply.getD 1 0 ≠ 0x00 then
    fail s!"SOCKS5 connect failed: {connectReason (reply.getD 1 0)}"
  else pure ()

def dialogue (host : String) (port : UInt16) (dsn : Socks5Dsn) : Exchange Unit := do
  let method ← handshake dsn
  authentication dsn method
  connectCommand host port

def establishSocks5 (tcp : String → TcpConnect) (host : String) (port : UInt16)
    (dsn : Socks5Dsn) : Outcome Duplex :=
  handOver (dialogue host port dsn)
    ((tcp (hostPort dsn.host dsn.port)).stream "SOCKS5 connection timeout" id)

/-! ## A server that accepts -/

/-- What an accepting server sends before its reply to the connect command: the
method, and the status of the password check when it asked for one. -/
inductive Negotiated (dsn : Socks5Dsn) : List UInt8 → Prop where
  | open_ : Negotiated dsn [0x05, 0x00]
  | password (user pass : String) (version : UInt8) (userGiven : dsn.user = some user)
      (passGiven : dsn.pass = some pass) : Negotiated dsn [0x05, 0x02, version, 0x00]

theorem handshake_answered (dsn : Socks5Dsn) (method : UInt8) :
    Answers (handshake dsn) [0x05, method] method :=
  answers_bind (answers_write _) (answers_bind (answers_write _)
    (answers_bind (answers_read [0x05, method] rfl) (answers_pure method)))

theorem authentication_answered (dsn : Socks5Dsn) (method : UInt8) (rest : List UInt8)
    (negotiated : Negotiated dsn (0x05 :: method :: rest)) :
    Answers (authentication dsn method) rest () := by
  cases negotiated with
  | open_ => exact answers_pure ()
  | password user pass version userGiven passGiven =>
      simp only [authentication, userGiven, passGiven]
      exact answers_bind (answers_unwrap user) (answers_bind (answers_unwrap pass)
        (answers_bind (answers_write _) (answers_bind (answers_read [version, 0x00] rfl)
          (answers_pure ()))))

/-- Up to the connect command the dialogue consumes the negotiation exactly. -/
theorem negotiation_answered {dsn : Socks5Dsn} {negotiation : List UInt8}
    (negotiated : Negotiated dsn negotiation) :
    Answers (handshake dsn >>= authentication dsn) negotiation () := by
  cases negotiated with
  | open_ =>
      exact answers_bind (handshake_answered dsn 0x00) (authentication_answered dsn 0x00 [] .open_)
  | password user pass version userGiven passGiven =>
      exact answers_bind (handshake_answered dsn 0x02)
        (authentication_answered dsn 0x02 [version, 0x00]
          (.password user pass version userGiven passGiven))

theorem dialogue_after_negotiation (host : String) (port : UInt16) {dsn : Socks5Dsn}
    {negotiation behind : List UInt8} (negotiated : Negotiated dsn negotiation)
    {stream : Duplex} (accepting : stream.writes = [])
    (delivers : received stream.incoming = negotiation ++ behind) :
    ∃ middle, (dialogue host port dsn).run stream = (connectCommand host port).run middle ∧
      middle.writes = [] ∧ received middle.incoming = behind := by
  obtain ⟨middle, ran, stillAccepting, left⟩ :=
    negotiation_answered negotiated stream behind accepting delivers
  refine ⟨middle, ?_, stillAccepting, left⟩
  rw [← run_bind_ok ran (fun _ => connectCommand host port)]
  simp only [dialogue, run_bind]
  obtain ⟨outcome, after⟩ := (handshake dsn).run stream
  cases outcome <;> rfl

theorem connect_command_takes_ten (host : String) (port : UInt16) {duplex : Duplex}
    {bytes : List UInt8} (accepting : duplex.writes = [])
    (delivers : received duplex.incoming = bytes)
    (enough : 10 ≤ bytes.length) :
    ∃ after, received after.incoming = bytes.drop 10 ∧
      (connectCommand host port).run duplex =
        if bytes.getD 1 0 = 0 then (.ok (), after)
        else (.err s!"SOCKS5 connect failed: {connectReason (bytes.getD 1 0)}", after) := by
  have wrote := run_write_all (connectRequest host port) duplex accepting
  have split : received duplex.incoming = bytes.take 10 ++ bytes.drop 10 := by
    rw [delivers, List.take_append_drop]
  have size : (bytes.take 10).length = 10 := List.length_take_of_le enough
  have code : (bytes.take 10).getD 1 0 = bytes.getD 1 0 := by
    simp [List.getD_eq_getElem?_getD]
  have afterWrite : received ({ duplex with
      sent := duplex.sent ++ connectRequest host port } : Duplex).incoming =
        bytes.take 10 ++ bytes.drop 10 := split
  obtain ⟨after, ran, left, _, _⟩ := run_read_exact afterWrite size
  refine ⟨after, left, ?_⟩
  simp only [connectCommand]
  rw [run_bind_ok wrote, run_bind_ok ran, code]
  by_cases accepted : bytes.getD 1 0 = 0
  · rw [if_pos accepted, if_neg (not_not.mpr accepted)]
    rfl
  · rw [if_neg accepted, if_pos accepted]
    rfl

theorem connect_command_starved (host : String) (port : UInt16) {duplex : Duplex}
    (accepting : duplex.writes = []) (short : (received duplex.incoming).length < 10) :
    ((connectCommand host port).run duplex).1 ≠ .ok () := by
  have wrote := run_write_all (connectRequest host port) duplex accepting
  have afterWrite : (received ({ duplex with
      sent := duplex.sent ++ connectRequest host port } : Duplex).incoming).length < 10 := short
  have starved := run_read_exact_starved afterWrite
  simp only [connectCommand]
  rw [run_bind_ok wrote, run_bind]
  rcases result : (Exchange.readExact 10).run { duplex with
    sent := duplex.sent ++ connectRequest host port } with ⟨outcome, after⟩
  cases outcome with
  | ok bytes => exact absurd (congrArg Prod.fst result) (starved bytes)
  | err message => simp
  | panic => simp
  | hang => simp

/-! ## Replies of every address type -/

/-- The bound address of a reply, with the length its type allows. -/
inductive BoundAddress where
  | ipv4 (octets : List UInt8) (size : octets.length = 4)
  | domain (name : List UInt8) (size : name.length < 256)
  | ipv6 (octets : List UInt8) (size : octets.length = 16)

def BoundAddress.bytes : BoundAddress → List UInt8
  | .ipv4 octets _ => 0x01 :: octets
  | .domain name _ => 0x03 :: UInt8.ofNat name.length :: name
  | .ipv6 octets _ => 0x04 :: octets

/-- A reply to the connect command: version, code, reserved byte, address, port. -/
structure ConnectReply where
  code : UInt8
  address : BoundAddress
  port : UInt16

def ConnectReply.bytes (reply : ConnectReply) : List UInt8 :=
  [0x05, reply.code, 0x00] ++ reply.address.bytes ++ portBytes reply.port

def TenByteAddress : BoundAddress → Prop
  | .ipv4 _ _ => True
  | .domain name _ => name.length = 3
  | .ipv6 _ _ => False

theorem reply_ten_bytes_iff (reply : ConnectReply) :
    reply.bytes.length = 10 ↔ TenByteAddress reply.address := by
  obtain ⟨code, address, port⟩ := reply
  cases address with
  | ipv4 octets size =>
      simp [ConnectReply.bytes, BoundAddress.bytes, portBytes, TenByteAddress, size]
  | domain name size =>
      simp only [ConnectReply.bytes, BoundAddress.bytes, portBytes, TenByteAddress,
        List.length_append, List.length_cons, List.length_nil]
      omega
  | ipv6 octets size =>
      simp [ConnectReply.bytes, BoundAddress.bytes, portBytes, TenByteAddress, size]

theorem reply_code (reply : ConnectReply) (behind : List UInt8) :
    (reply.bytes ++ behind).getD 1 0 = reply.code := rfl

theorem drop_eq_behind_iff {front behind : List UInt8} {count : Nat}
    (enough : count ≤ (front ++ behind).length) :
    (front ++ behind).drop count = behind ↔ front.length = count := by
  constructor
  · intro same
    have lengths := congrArg List.length same
    rw [List.length_append] at enough
    simp only [List.length_drop, List.length_append] at lengths
    omega
  · intro size
    exact List.drop_left' size

/-- Behind a success reply the tunnel is transparent exactly for the replies of
ten bytes: an IPv4 address, or a domain name of three bytes. -/
theorem socks5_tunnel_transparent_iff_ten_byte_address (tcp : String → TcpConnect)
    (host : String) (port : UInt16) (dsn : Socks5Dsn) (stream : Duplex)
    (negotiation : List UInt8) (reply : ConnectReply) (payload : List UInt8)
    (connected : tcp (hostPort dsn.host dsn.port) = .connected stream)
    (accepting : stream.writes = []) (negotiated : Negotiated dsn negotiation)
    (success : reply.code = 0x00)
    (delivers : received stream.incoming = negotiation ++ (reply.bytes ++ payload)) :
    (∃ tunnel, establishSocks5 tcp host port dsn = .ok tunnel ∧
        received tunnel.incoming = payload) ↔ TenByteAddress reply.address := by
  obtain ⟨middle, ran, stillAccepting, left⟩ :=
    dialogue_after_negotiation host port negotiated accepting delivers
  simp only [establishSocks5, connected, TcpConnect.stream, hand_over_ok_iff, ran]
  rw [← reply_ten_bytes_iff]
  by_cases enough : 10 ≤ (reply.bytes ++ payload).length
  · obtain ⟨after, behind, ended⟩ := connect_command_takes_ten host port stillAccepting left enough
    rw [reply_code, if_pos success] at ended
    rw [← drop_eq_behind_iff enough, ← behind]
    constructor
    · intro opened
      obtain ⟨tunnel, ok, yields⟩ := opened
      cases ended.symm.trans ok
      exact yields
    · intro yields
      exact ⟨after, ended, yields⟩
  · constructor
    · intro opened
      obtain ⟨tunnel, ok, _⟩ := opened
      have starved := connect_command_starved host port stillAccepting
        (by rw [left]; omega)
      exact absurd (congrArg Prod.fst ok) starved
    · intro size
      rw [List.length_append, size] at enough
      omega

/-- A refusal by the proxy ends the attempt in an error with its reason. -/
theorem socks5_refused (tcp : String → TcpConnect) (host : String) (port : UInt16)
    (dsn : Socks5Dsn) (stream : Duplex) (negotiation : List UInt8) (reply : ConnectReply)
    (behind : List UInt8) (connected : tcp (hostPort dsn.host dsn.port) = .connected stream)
    (accepting : stream.writes = []) (negotiated : Negotiated dsn negotiation)
    (refused : reply.code ≠ 0x00) (enough : 10 ≤ (reply.bytes ++ behind).length)
    (delivers : received stream.incoming = negotiation ++ (reply.bytes ++ behind)) :
    establishSocks5 tcp host port dsn =
      .err s!"SOCKS5 connect failed: {connectReason reply.code}" := by
  obtain ⟨middle, ran, stillAccepting, left⟩ :=
    dialogue_after_negotiation host port negotiated accepting delivers
  obtain ⟨after, _, ended⟩ := connect_command_takes_ten host port stillAccepting left enough
  rw [reply_code, if_neg refused] at ended
  simp only [establishSocks5, connected, TcpConnect.stream, handOver, ran, ended]

def localSocks5 : Socks5Dsn where
  host := "127.0.0.1"
  port := 1080
  user := none
  pass := none

/-- A server without authentication that sends all its bytes in one read. -/
def answersWith (reply : ConnectReply) (payload : List UInt8) : Duplex where
  incoming := [.data ([0x05, 0x00] ++ (reply.bytes ++ payload))]
  sent := []
  flushed := 0
  writes := []

def ipv6Reply : ConnectReply where
  code := 0x00
  address := .ipv6 (List.replicate 16 0x00) rfl
  port := 1080

def ipv4Reply : ConnectReply where
  code := 0x00
  address := .ipv4 [127, 0, 0, 1] rfl
  port := 1080

/-- Twelve bytes of an IPv6 reply are delivered in front of the payload. -/
theorem ipv6_reply_leaks_into_tunnel :
    ∃ tunnel, establishSocks5 (fun _ => .connected (answersWith ipv6Reply [0x41, 0x42]))
        "example.com" 443 localSocks5 = .ok tunnel ∧
      received tunnel.incoming = List.replicate 10 0x00 ++ [0x04, 0x38] ++ [0x41, 0x42] ∧
      received tunnel.incoming ≠ [0x41, 0x42] := by
  refine ⟨_, rfl, ?_, ?_⟩
  · decide
  · decide

theorem ipv4_reply_is_transparent :
    ∃ tunnel, establishSocks5 (fun _ => .connected (answersWith ipv4Reply [0x41, 0x42]))
        "example.com" 443 localSocks5 = .ok tunnel ∧ received tunnel.incoming = [0x41, 0x42] :=
  (socks5_tunnel_transparent_iff_ten_byte_address
    (fun _ => .connected (answersWith ipv4Reply [0x41, 0x42])) "example.com" 443 localSocks5
    (answersWith ipv4Reply [0x41, 0x42]) [0x05, 0x00] ipv4Reply [0x41, 0x42] rfl rfl .open_ rfl
    rfl).mpr trivial

end MultiProxy.Socks5Tunnel
