import SocksMonitor.Probing.Latencies
import SocksMonitor.Time.Timestamp

/-!
# Summary of a probe

What one probe of a proxy has found out. The engine in `Probing/Engine.lean` fills it in step by
step, and the store keeps the last one.
-/

namespace SocksMonitor.Probing

inductive AuthMethod where
  | none
  | userPass
deriving Repr, DecidableEq

/-- What a proxy turned out to be able to do. -/
structure Features where
  /-- Unknown until the handshake has succeeded. -/
  auth : Option AuthMethod := .none
  ipv6 : Bool := false
  /-- Reserved: the outcome of the UDP step is in `Summary.udpOk`. -/
  udp : Bool := false
deriving Repr, DecidableEq, Inhabited

/-- The outcome of a probe. The default is that of no probe at all. -/
structure Summary where
  reachable : Bool := false
  socksOk : Bool := false
  connectOk : Bool := false
  udpOk : Bool := false
  latencies : Latencies := .empty
  features : Features := {}
  warnings : List String := []
  lastChecked : Option Time.Timestamp := .none
deriving DecidableEq, Inhabited

end SocksMonitor.Probing
