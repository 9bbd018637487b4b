import MultiProxy.RustRuntime
import MultiProxy.ByteScan
import Std.Data.String.ToNat

/-!
Parsed DSNs of the upstream channels, and the `host:port` text that every
connection, every log line and every hash key is made from.
-/

namespace MultiProxy.UpstreamDsn

open MultiProxy.RustRuntime MultiProxy.ByteScan

set_option autoImplicit false

structure HttpDsn where
  host : String
  port : UInt16
  user : Option String
  pass : Option String
  deriving DecidableEq, Repr

structure Socks5Dsn where
  host : String
  port : UInt16
  user : Option String
  pass : Option String
  deriving DecidableEq, Repr

structure SshDsn where
  user : String
  pass : Option String
  host : String
  port : UInt16
  keyPath : Option String
  keepalive : UInt64
  deriving DecidableEq, Repr

inductive Dsn where
  | http (dsn : HttpDsn)
  | socks5 (dsn : Socks5Dsn)
  | ssh (dsn : SshDsn)
  deriving DecidableEq, Repr

/-- `format!("{}:{}", host, port)`. -/
def hostPort (host : String) (port : UInt16) : String := s!"{host}:{port}"

theorem host_port_chars (host : String) (port : UInt16) :
    (hostPort host port).toList = host.toList ++ ':' :: (Nat.repr port.toNat).toList := by
  have rendered : hostPort host port = host ++ ":" ++ Nat.repr port.toNat := rfl
  simp [rendered]

theorem decimal_has_no_colon (value : Nat) : ':' ∉ (Nat.repr value).toList := by
  intro member
  exact absurd (decimal_digit member) (by decide)

theorem decimal_has_no_line_feed (value : Nat) : (0x0A : UInt8) ∉ utf8 (Nat.repr value) := by
  intro member
  exact absurd (decimal_digit (line_feed_of_utf8 member)) (by decide)

/-- The port is what follows the last colon, so the text determines both parts
even when the host itself contains colons. -/
theorem host_port_injective {host host' : String} {port port' : UInt16}
    (same : hostPort host port = hostPort host' port') : host = host' ∧ port = port' := by
  have chars := congrArg String.toList same
  rw [host_port_chars, host_port_chars] at chars
  obtain ⟨hosts, ports⟩ := split_at_last_separator (decimal_has_no_colon port.toNat)
    (decimal_has_no_colon port'.toNat) chars
  refine ⟨String.toList_inj.mp hosts, UInt16.toNat_inj.mp ?_⟩
  exact Nat.repr_injective (String.toList_inj.mp ports)

end MultiProxy.UpstreamDsn
