import SocksMonitor.Agent.Lifecycle
import SocksMonitor.Probing.Summary

/-!
# Snapshot of the agent

The records that describe the daemon's subsystems, and the snapshot that holds them all. The
defaults are those of a daemon that has just been created.
-/

namespace SocksMonitor.Agent

structure TunRecord where
  name : String := ""
  up : Bool := false
  mtu : UInt32 := 0
  localIp : String := ""
  peerIp : String := ""
deriving Repr, DecidableEq, Inhabited

/-- The routing table, as far as the agent manages it. -/
structure RouteRecord where
  defaultVia : String := ""
  lanCidrs : List String := []
  bypassHosts : List String := []
  proxyHostRoute : Bool := false
  /-- The default gateway before it was replaced. -/
  originalGateway : String := ""
deriving Repr, DecidableEq, Inhabited

/-- The process that carries packets to the proxy. -/
structure TunnelRecord where
  pid : UInt32 := 0
  uptimeSec : UInt64 := 0
  tcpOk : Bool := false
  udpOk : Bool := false
deriving Repr, DecidableEq, Inhabited

/-- Everything that the agent knows about itself at one moment. -/
structure Snapshot where
  phase : Phase := .inactive
  startedAt : Option Time.Timestamp := none
  warnings : List String := []
  tun : TunRecord := {}
  routes : RouteRecord := {}
  tunnel : TunnelRecord := {}
  lastProbe : Probing.Summary := {}
deriving DecidableEq, Inhabited

/-- What the status route reports: a snapshot, the seconds since the start, and the time of the
report. -/
structure StatusReport where
  snapshot : Snapshot
  uptimeSec : UInt64
  generatedAt : Time.Timestamp
deriving DecidableEq

/-- The report of a snapshot at a time. The uptime is zero without a start time, and while the
start time lies ahead. -/
def Snapshot.report (s : Snapshot) (now : Time.Timestamp) : StatusReport :=
  let uptime := match s.startedAt with
    | some start => now.secondsSince start
    | none => 0
  ⟨s, UInt64.ofNat uptime, now⟩

structure ErrorReport where
  error : String
  timestamp : Time.Timestamp
deriving DecidableEq

end SocksMonitor.Agent
