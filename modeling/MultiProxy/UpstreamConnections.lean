import MultiProxy.HttpConnectTunnel
import MultiProxy.RequestRuns
import MultiProxy.Socks5Tunnel

/-!
# Connections over the network

How a route is connected: the origin itself, or the dialogue that the DSN of a
channel asks for. A live upstream that reports the destination as unreachable
ends the attempt in an error like any other.
-/

namespace MultiProxy.UpstreamConnections

open MultiProxy.RustRuntime MultiProxy.ByteScan MultiProxy.DuplexStream MultiProxy.UpstreamDsn
open MultiProxy.Socks5Tunnel MultiProxy.HttpConnectTunnel
open MultiProxy.ProxyRequests MultiProxy.RequestRuns

set_option autoImplicit false

/-- The network as attempts find it. A TCP connection is named by the number of
the attempt, the destination that will be asked for, and the address. -/
structure Network where
  tcp : Nat → String → UInt16 → String → TcpConnect
  base64 : List UInt8 → String
  ssh : Nat → SshDsn → String → UInt16 → Outcome Duplex

def establishDirect (tcp : String → TcpConnect) (host : String) (port : UInt16) : Outcome Duplex :=
  (tcp (hostPort host port)).stream "Direct connection timeout"
    fun message => s!"Direct connect failed: {message}"

namespace Network

variable (network : Network)

def establishViaDsn (number : Nat) (dsn : Dsn) (host : String) (port : UInt16) : Outcome Duplex :=
  match dsn with
  | .http dsn => establishHttp network.base64 (network.tcp number host port) host port dsn
  | .socks5 dsn => establishSocks5 (network.tcp number host port) host port dsn
  | .ssh dsn => network.ssh number dsn host port

def connect (number : Nat) (route : Route) (host : String) (port : UInt16) : Outcome Duplex :=
  match route with
  | .direct => establishDirect (network.tcp number host port) host port
  | .upstream _ dsn => network.establishViaDsn number dsn host port

end Network

/-- The same surroundings over the given network. -/
def Network.around (network : Network) (rest : Surroundings) : Surroundings :=
  { rest with connect := network.connect }

/-- The attempt finds a live proxy that accepts the client and then reports the
destination: SOCKS5 replies 3 to 6, or status 502 or 504. -/
inductive ReportsUnreachable (network : Network) (number : Nat) (host : String) (port : UInt16) :
    Dsn → Prop where
  | socks5 (dsn : Socks5Dsn) (stream : Duplex) (negotiation : List UInt8) (reply : ConnectReply)
      (behind : List UInt8)
      (connected : network.tcp number host port (hostPort dsn.host dsn.port) = .connected stream)
      (accepting : stream.writes = []) (negotiated : Negotiated dsn negotiation)
      (code : reply.code ∈ [0x03, 0x04, 0x05, 0x06])
      (enough : 10 ≤ (reply.bytes ++ behind).length)
      (delivers : received stream.incoming = negotiation ++ (reply.bytes ++ behind)) :
      ReportsUnreachable network number host port (.socks5 dsn)
  | http (dsn : HttpDsn) (stream : Duplex) (line : StatusLine) (behind : List UInt8)
      (reads : List (List UInt8))
      (connected : network.tcp number host port (hostPort dsn.host dsn.port) = .connected stream)
      (accepting : stream.writes = []) (delivers : stream.incoming = reads.map .data)
      (sizes : ∀ bytes ∈ reads, bytes ≠ [] ∧ bytes.length ≤ 256)
      (code : line.code ∈ [[0x35, 0x30, 0x32], [0x35, 0x30, 0x34]])
      (short : line.bytes.length ≤ 1022)
      (covered : reads.flatten = line.bytes ++ crlf ++ behind) :
      ReportsUnreachable network number host port (.http dsn)

theorem reported_unreachable_fails {network : Network} {number : Nat}
    {host : String} {port : UInt16} {dsn : Dsn}
    (reported : ReportsUnreachable network number host port dsn) (id : Nat) :
    ∃ message, network.connect number (.upstream id dsn) host port = .err message := by
  cases reported with
  | socks5 dsn stream negotiation reply behind connected accepting negotiated code
      enough delivers =>
      have refused : reply.code ≠ 0x00 := by
        intro success
        rw [success] at code
        exact absurd code (by decide)
      exact ⟨_, socks5_refused _ host port dsn stream negotiation reply behind connected accepting
        negotiated refused enough delivers⟩
  | http dsn stream line behind reads connected accepting delivers sizes code short covered =>
      have refused : line.code ≠ [0x32, 0x30, 0x30] := by
        intro success
        rw [success] at code
        exact absurd code (by decide)
      exact http_refused _ _ host port dsn stream line behind reads connected accepting delivers
        sizes refused short covered

end MultiProxy.UpstreamConnections
