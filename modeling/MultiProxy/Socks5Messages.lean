import MultiProxy.LengthPrefixes
import MultiProxy.Socks5Tunnel

/-!
# SOCKS5 messages as their receiver reads them

The decoders of RFC 1928 and RFC 1929 for the two messages that carry text of
the client: the request with the destination and the message with user and
password. What `establish_socks5` writes is read back by them exactly as long
as every text fits behind its length byte.
-/

namespace MultiProxy.Socks5Messages

open MultiProxy.RustRuntime MultiProxy.LengthPrefixes MultiProxy.UpstreamDsn
open MultiProxy.Socks5Tunnel

set_option autoImplicit false

/-- A destination address by its type: four octets, a name, sixteen octets. -/
inductive Address where
  | ipv4 (octets : List UInt8)
  | domain (name : List UInt8)
  | ipv6 (octets : List UInt8)
  deriving DecidableEq, Repr

def takeAddress (kind : UInt8) (bytes : List UInt8) : Option (Address × List UInt8) :=
  if kind = 0x01 then (takeBytes 4 bytes).map fun taken => (.ipv4 taken.1, taken.2)
  else if kind = 0x03 then (takePrefixed bytes).map fun taken => (.domain taken.1, taken.2)
  else if kind = 0x04 then (takeBytes 16 bytes).map fun taken => (.ipv6 taken.1, taken.2)
  else none

/-- A request of RFC 1928 that asks for a connection, and what follows it. -/
def decodeConnect : List UInt8 → Option ((Address × Nat) × List UInt8)
  | version :: command :: reserved :: kind :: rest =>
      if version = 0x05 ∧ command = 0x01 ∧ reserved = 0x00 then
        (takeAddress kind rest).bind fun (address, rest) =>
          (takeBigEndian rest).map fun (port, rest) => ((address, port), rest)
      else none
  | _ => none

/-- A message of RFC 1929, and what follows it. -/
def decodePassword : List UInt8 → Option ((List UInt8 × List UInt8) × List UInt8)
  | version :: rest =>
      if version = 0x01 then
        (takePrefixed rest).bind fun (user, rest) =>
          (takePrefixed rest).map fun (pass, rest) => ((user, pass), rest)
      else none
  | [] => none

def FitsLengthByte (text : String) : Prop := (utf8 text).length ≤ 255

instance (text : String) : Decidable (FitsLengthByte text) :=
  inferInstanceAs (Decidable (_ ≤ _))

theorem connect_request_prefixed (host : String) (port : UInt16) :
    connectRequest host port =
      [0x05, 0x01, 0x00, 0x03] ++ (prefixed (utf8 host) ++ bigEndian port.toNat) := by
  simp [connectRequest, prefixed, portBytes, bigEndian]

theorem password_request_prefixed (user pass : String) :
    passwordRequest user pass = 0x01 :: (prefixed (utf8 user) ++ prefixed (utf8 pass)) := by
  simp [passwordRequest, prefixed]

theorem decode_connect_domain (rest : List UInt8) :
    decodeConnect ([0x05, 0x01, 0x00, 0x03] ++ rest) =
      (takePrefixed rest).bind fun (name, rest) =>
        (takeBigEndian rest).map fun (port, rest) => ((.domain name, port), rest) := by
  simp only [decodeConnect, List.cons_append, List.nil_append, takeAddress]
  cases takePrefixed rest with
  | none => rfl
  | some taken => rfl

theorem decode_connect_request_iff (host : String) (port : UInt16) :
    decodeConnect (connectRequest host port) = some ((.domain (utf8 host), port.toNat), []) ↔
      FitsLengthByte host := by
  rw [connect_request_prefixed, decode_connect_domain]
  constructor
  · intro decoded
    obtain ⟨taken, read, rest⟩ := Option.bind_eq_some_iff.mp decoded
    obtain ⟨behind, _, same⟩ := Option.map_eq_some_iff.mp rest
    have name : taken.1 = utf8 host := by simpa using congrArg (·.1.1) same
    unfold FitsLengthByte
    rw [← name]
    exact taken_prefixed_fits read
  · intro fits
    have port_read := take_big_endian_append port.toNat_lt []
    rw [List.append_nil] at port_read
    rw [take_prefixed_append fits]
    simp [port_read]

theorem decoded_connect_version {bytes rest : List UInt8} {destination : Address × Nat}
    (decoded : decodeConnect bytes = some (destination, rest)) : bytes.head? = some 0x05 := by
  unfold decodeConnect at decoded
  split at decoded
  · rename_i version command reserved kind behind
    by_cases form : version = 0x05 ∧ command = 0x01 ∧ reserved = 0x00
    · rw [form.1]
      rfl
    · simp [if_neg form] at decoded
  · cases decoded

theorem decoded_password_version {bytes rest : List UInt8} {fields : List UInt8 × List UInt8}
    (decoded : decodePassword bytes = some (fields, rest)) : bytes.head? = some 0x01 := by
  cases bytes with
  | nil => cases decoded
  | cons version behind =>
      by_cases first : version = 0x01
      · rw [first]
        rfl
      · simp [decodePassword, if_neg first] at decoded

theorem decoded_password_fits {bytes user pass rest : List UInt8}
    (decoded : decodePassword bytes = some ((user, pass), rest)) :
    user.length ≤ 255 ∧ pass.length ≤ 255 := by
  cases bytes with
  | nil => cases decoded
  | cons version behind =>
      by_cases first : version = 0x01
      · simp only [decodePassword, if_pos first] at decoded
        obtain ⟨taken, userRead, later⟩ := Option.bind_eq_some_iff.mp decoded
        obtain ⟨taken', passRead, same⟩ := Option.map_eq_some_iff.mp later
        have fields : taken.1 = user ∧ taken'.1 = pass := by simpa using congrArg (·.1) same
        rw [← fields.1, ← fields.2]
        exact ⟨taken_prefixed_fits userRead, taken_prefixed_fits passRead⟩
      · simp [decodePassword, if_neg first] at decoded

theorem decoded_password_whole {bytes user pass rest : List UInt8}
    (decoded : decodePassword bytes = some ((user, pass), rest)) :
    bytes = 0x01 :: (prefixed user ++ (prefixed pass ++ rest)) := by
  cases bytes with
  | nil => cases decoded
  | cons version behind =>
      by_cases first : version = 0x01
      · simp only [decodePassword, if_pos first] at decoded
        obtain ⟨taken, userRead, later⟩ := Option.bind_eq_some_iff.mp decoded
        obtain ⟨taken', passRead, same⟩ := Option.map_eq_some_iff.mp later
        cases same
        rw [first, taken_prefixed_whole userRead, taken_prefixed_whole passRead]
      · simp [decodePassword, if_neg first] at decoded

theorem decode_password_request_iff (user pass : String) :
    decodePassword (passwordRequest user pass) = some ((utf8 user, utf8 pass), []) ↔
      FitsLengthByte user ∧ FitsLengthByte pass := by
  constructor
  · exact decoded_password_fits
  · intro fits
    have passRead := take_prefixed_append fits.2 []
    rw [List.append_nil] at passRead
    rw [password_request_prefixed]
    simp only [decodePassword, if_true]
    rw [take_prefixed_append fits.1]
    simp [passRead]

end MultiProxy.Socks5Messages
