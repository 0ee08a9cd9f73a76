import SocksMonitor.Agent.Snapshot
import SocksMonitor.Json.Layout
import SocksMonitor.Json.Reader
import SocksMonitor.Json.Printer
import SocksMonitor.Socks.Message

/-!
# Records as JSON

The JSON form of every record that the control plane sends or reads. A record is written with all
of its parts in order. Records that are read as a part of a status report have been held on to as
values first; `held` says so where that makes a difference.
-/

namespace SocksMonitor

open Json (Layout Slots)

/-! ## Probe records -/

namespace Probing

def AuthMethod.name : AuthMethod → String
  | .none => "none"
  | .userPass => "userpass"

def AuthMethod.ofName? (name : String) : Option AuthMethod :=
  [AuthMethod.none, .userPass].find? fun m => m.name == name

def AuthMethod.toJson (m : AuthMethod) : Json := .text m.name

def AuthMethod.ofJson? (held : Bool) (v : Json) : Option AuthMethod :=
  v.asName? held AuthMethod.ofName?

def Features.layout : Layout := .full ["auth", "ipv6", "udp"]

def Features.toJson (f : Features) : Json :=
  .record [("auth", .optional AuthMethod.toJson f.auth), ("ipv6", .bool f.ipv6),
    ("udp", .bool f.udp)]

def Features.ofJson? (held : Bool) (v : Json) : Option Features := do
  let parts ← Features.layout.slots? v
  let auth ← Slots.maybe parts "auth" (AuthMethod.ofJson? held)
  let ipv6 ← Slots.need parts "ipv6" Json.asBool?
  let udp ← Slots.need parts "udp" Json.asBool?
  return ⟨auth, ipv6, udp⟩

/-- An object of latencies, in the order of its names. -/
def Latencies.toJson (l : Latencies) : Json :=
  .record (l.entries.map fun (name, ms) => (name, .nat ms.toNat))

/-- A name that is given twice has the last value. -/
def Latencies.ofJson? : Json → Option Latencies
  | .object fields => do
    let entries ← fields.mapM fun (name, v) => do
      let name ← name
      let ms ← Json.asUInt64? v
      return (name, ms)
    return .ofList entries
  | _ => none

def Summary.layout : Layout :=
  .full ["reachable", "socks_ok", "connect_ok", "udp_ok", "latencies_ms", "features", "warnings",
    "last_checked"]

def Summary.toJson (s : Summary) : Json :=
  .record [("reachable", .bool s.reachable), ("socks_ok", .bool s.socksOk),
    ("connect_ok", .bool s.connectOk), ("udp_ok", .bool s.udpOk),
    ("latencies_ms", s.latencies.toJson), ("features", s.features.toJson),
    ("warnings", .array (s.warnings.map Json.text)),
    ("last_checked", .optional Json.time s.lastChecked)]

def Summary.ofJson? (held : Bool) (v : Json) : Option Summary := do
  let parts ← Summary.layout.slots? v
  let reachable ← Slots.need parts "reachable" Json.asBool?
  let socksOk ← Slots.need parts "socks_ok" Json.asBool?
  let connectOk ← Slots.need parts "connect_ok" Json.asBool?
  let udpOk ← Slots.need parts "udp_ok" Json.asBool?
  let latencies ← Slots.need parts "latencies_ms" Latencies.ofJson?
  let features ← Slots.need parts "features" (Features.ofJson? held)
  let warnings ← Slots.need parts "warnings" (Json.asList? Json.asText?)
  let lastChecked ← Slots.maybe parts "last_checked" Json.asTime?
  return ⟨reachable, socksOk, connectOk, udpOk, latencies, features, warnings, lastChecked⟩

end Probing

/-! ## Credentials -/

namespace Socks

def Credentials.layout : Layout := .full ["username", "password"]

def Credentials.ofJson? (v : Json) : Option Credentials := do
  let parts ← Credentials.layout.slots? v
  let username ← Slots.need parts "username" Json.asText?
  let password ← Slots.need parts "password" Json.asText?
  return ⟨username, password⟩

end Socks

/-! ## Agent records -/

namespace Agent

def Phase.toJson (phase : Phase) : Json := .text phase.name

def Phase.ofJson? (held : Bool) (v : Json) : Option Phase := v.asName? held Phase.ofName?

def TunRecord.layout : Layout := .full ["name", "up", "mtu", "local_ip", "peer_ip"]

def TunRecord.toJson (r : TunRecord) : Json :=
  .record [("name", .text r.name), ("up", .bool r.up), ("mtu", .nat r.mtu.toNat),
    ("local_ip", .text r.localIp), ("peer_ip", .text r.peerIp)]

def TunRecord.ofJson? (v : Json) : Option TunRecord := do
  let parts ← TunRecord.layout.slots? v
  let name ← Slots.need parts "name" Json.asText?
  let up ← Slots.need parts "up" Json.asBool?
  let mtu ← Slots.need parts "mtu" Json.asUInt32?
  let localIp ← Slots.need parts "local_ip" Json.asText?
  let peerIp ← Slots.need parts "peer_ip" Json.asText?
  return ⟨name, up, mtu, localIp, peerIp⟩

def RouteRecord.layout : Layout :=
  .full ["default_via", "lan_cidrs", "bypass_hosts", "proxy_host_route", "original_gateway"]

def RouteRecord.toJson (r : RouteRecord) : Json :=
  .record [("default_via", .text r.defaultVia), ("lan_cidrs", .array (r.lanCidrs.map Json.text)),
    ("bypass_hosts", .array (r.bypassHosts.map Json.text)),
    ("proxy_host_route", .bool r.proxyHostRoute), ("original_gateway", .text r.originalGateway)]

def RouteRecord.ofJson? (v : Json) : Option RouteRecord := do
  let parts ← RouteRecord.layout.slots? v
  let defaultVia ← Slots.need parts "default_via" Json.asText?
  let lanCidrs ← Slots.need parts "lan_cidrs" (Json.asList? Json.asText?)
  let bypassHosts ← Slots.need parts "bypass_hosts" (Json.asList? Json.asText?)
  let proxyHostRoute ← Slots.need parts "proxy_host_route" Json.asBool?
  let originalGateway ← Slots.need parts "original_gateway" Json.asText?
  return ⟨defaultVia, lanCidrs, bypassHosts, proxyHostRoute, originalGateway⟩

def TunnelRecord.layout : Layout := .full ["pid", "uptime_sec", "tcp_ok", "udp_ok"]

def TunnelRecord.toJson (r : TunnelRecord) : Json :=
  .record [("pid", .nat r.pid.toNat), ("uptime_sec", .nat r.uptimeSec.toNat),
    ("tcp_ok", .bool r.tcpOk), ("udp_ok", .bool r.udpOk)]

def TunnelRecord.ofJson? (v : Json) : Option TunnelRecord := do
  let parts ← TunnelRecord.layout.slots? v
  let pid ← Slots.need parts "pid" Json.asUInt32?
  let uptimeSec ← Slots.need parts "uptime_sec" Json.asUInt64?
  let tcpOk ← Slots.need parts "tcp_ok" Json.asBool?
  let udpOk ← Slots.need parts "udp_ok" Json.asBool?
  return ⟨pid, uptimeSec, tcpOk, udpOk⟩

def Snapshot.layout : Layout :=
  .full ["state", "started_at", "warnings", "tun", "routes", "tun2socks", "last_probe"]

/-- The fields of a snapshot, which a status report has among its own. -/
def Snapshot.fields (s : Snapshot) : List (String × Json) :=
  [("state", s.phase.toJson), ("started_at", .optional Json.time s.startedAt),
    ("warnings", .array (s.warnings.map Json.text)), ("tun", s.tun.toJson),
    ("routes", s.routes.toJson), ("tun2socks", s.tunnel.toJson),
    ("last_probe", s.lastProbe.toJson)]

def Snapshot.toJson (s : Snapshot) : Json := .record s.fields

def Snapshot.ofJson? (held : Bool) (v : Json) : Option Snapshot := do
  let parts ← Snapshot.layout.slots? v
  let phase ← Slots.need parts "state" (Phase.ofJson? held)
  let startedAt ← Slots.maybe parts "started_at" Json.asTime?
  let warnings ← Slots.need parts "warnings" (Json.asList? Json.asText?)
  let tun ← Slots.need parts "tun" TunRecord.ofJson?
  let routes ← Slots.need parts "routes" RouteRecord.ofJson?
  let tunnel ← Slots.need parts "tun2socks" TunnelRecord.ofJson?
  let lastProbe ← Slots.need parts "last_probe" (Probing.Summary.ofJson? held)
  return ⟨phase, startedAt, warnings, tun, routes, tunnel, lastProbe⟩

def StatusReport.layout : Layout := .full ["uptime_sec", "generated_at"]

def StatusReport.toJson (r : StatusReport) : Json :=
  .record (r.snapshot.fields ++
    [("uptime_sec", .nat r.uptimeSec.toNat), ("generated_at", .time r.generatedAt)])

/-- The deepest nesting of a status report that is read. -/
def StatusReport.maxDepth : Nat := 127

/-- Reads a status report. Its fields and those of the snapshot stand side by side, so all of them
are held on to before it is known which belong where, and there is no array form. -/
def StatusReport.ofJson? : Json → Option StatusReport
  | .object fields => do
    let v := Json.object fields
    if ¬(v.isMeaningful ∧ v.depth ≤ StatusReport.maxDepth) then none
    let parts ← StatusReport.layout.slots? v
    let uptimeSec ← Slots.need parts "uptime_sec" Json.asUInt64?
    let generatedAt ← Slots.need parts "generated_at" Json.asTime?
    let snapshot ← Snapshot.ofJson? true v
    return ⟨snapshot, uptimeSec, generatedAt⟩
  | _ => none

def ErrorReport.layout : Layout := .full ["error", "timestamp"]

def ErrorReport.toJson (r : ErrorReport) : Json :=
  .record [("error", .text r.error), ("timestamp", .time r.timestamp)]

def ErrorReport.ofJson? (v : Json) : Option ErrorReport := do
  let parts ← ErrorReport.layout.slots? v
  let error ← Slots.need parts "error" Json.asText?
  let timestamp ← Slots.need parts "timestamp" Json.asTime?
  return ⟨error, timestamp⟩

end Agent

end SocksMonitor
