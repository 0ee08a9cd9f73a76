import SocksMonitor.Agent.Records
import SocksMonitor.Probing.Plan

/-!
# Request bodies

What the routes read from the body of a POST request, and the checks that they make on it before
anything happens. A body that passes comes out as what it asks for, one that does not as the text of
the refusal.
-/

namespace SocksMonitor.Control

open Json (Layout Slots)

/-- The text for a body that is not JSON of the right shape. The JSON reader's own words, which name
the fault and its place behind a colon, are left out. -/
def invalidJson : String := "invalid JSON"

/-- The text for a body that names no proxy. -/
def serverRequired : String := "socks_server is required"

/-! ## Probe -/

/-- Credentials in a probe body. Two empty ones stand for none. -/
structure AuthBody where
  username : String := ""
  password : String := ""
deriving Repr, DecidableEq

structure ProbeBody where
  socksServer : String := ""
  timeoutMs : Int := 0
  auth : Option AuthBody := none
  connectTarget : String := ""
  udpTest : Bool := false
deriving Repr, DecidableEq

def AuthBody.layout : Layout := ⟨["username", "password"], 0, false⟩

def AuthBody.ofJson? (v : Json) : Option AuthBody := do
  let parts ← AuthBody.layout.slots? v
  let username ← Slots.withDefault parts "username" "" Json.asText?
  let password ← Slots.withDefault parts "password" "" Json.asText?
  return ⟨username, password⟩

def AuthBody.credentials (auth : AuthBody) : Option Socks.Credentials :=
  if auth.username.isEmpty ∧ auth.password.isEmpty then none
  else some ⟨auth.username, auth.password⟩

namespace ProbeBody

/-- Only the parts behind `auth` may be left out of the array form. -/
def layout : Layout :=
  ⟨["socks_server", "timeout_ms", "auth", "connect_target", "udp_test"], 3, false⟩

def ofJson? (v : Json) : Option ProbeBody := do
  let parts ← layout.slots? v
  let socksServer ← Slots.withDefault parts "socks_server" "" Json.asText?
  let timeoutMs ← Slots.withDefault parts "timeout_ms" 0
    (Json.asInt? (-0x8000000000000000) 0x7FFFFFFFFFFFFFFF)
  let auth ← Slots.maybe parts "auth" AuthBody.ofJson?
  let connectTarget ← Slots.withDefault parts "connect_target" "" Json.asText?
  let udpTest ← Slots.withDefault parts "udp_test" false Json.asBool?
  return ⟨socksServer, timeoutMs, auth, connectTarget, udpTest⟩

def request (body : ProbeBody) : Probing.ProbeRequest :=
  { server := body.socksServer
    timeoutMs := body.timeoutMs.toNat
    auth := body.auth.bind AuthBody.credentials
    connectTarget := body.connectTarget
    udpTest := body.udpTest }

def accept (bytes : Bytes) : Except String Probing.ProbeRequest :=
  match (Json.read? bytes).bind ofJson? with
  | none => .error invalidJson
  | some body =>
    if body.socksServer.isEmpty then .error serverRequired
    else if body.timeoutMs < 0 then .error "timeout_ms must be >= 0"
    else .ok body.request

end ProbeBody

/-! ## Start -/

structure StartBody where
  socksServer : String := ""
  /-- Zero selects the default. -/
  mtu : Int := 0
deriving Repr, DecidableEq

namespace StartBody

/-- Other names are refused. -/
def layout : Layout := ⟨["socks_server", "mtu"], 0, true⟩

def ofJson? (v : Json) : Option StartBody := do
  let parts ← layout.slots? v
  let socksServer ← Slots.withDefault parts "socks_server" "" Json.asText?
  let mtu ← Slots.withDefault parts "mtu" 0 (Json.asInt? (-0x80000000) 0x7FFFFFFF)
  return ⟨socksServer, mtu⟩

/-- The sizes of packets that a device can be set to. -/
def mtuFits (mtu : Int) : Bool := mtu == 0 || (576 ≤ mtu && mtu ≤ 9000)

def accept (bytes : Bytes) : Except String StartBody :=
  match (Json.read? bytes).bind ofJson? with
  | none => .error invalidJson
  | some body =>
    if body.socksServer.isEmpty then .error serverRequired
    else if mtuFits body.mtu then .ok body
    else .error "mtu must be 0 or between 576 and 9000"

end StartBody

/-! ## Stop -/

namespace StopBody

/-- The body of a stop request has no parts. -/
def layout : Layout := ⟨[], 0, true⟩

def isSpace (b : UInt8) : Bool :=
  b == 0x20 || b == 0x09 || b == 0x0A || b == 0x0C || b == 0x0D

/-- Looks whether a body asks for a stop; one of white space alone does. -/
def accept (bytes : Bytes) : Except String Unit :=
  if bytes.all isSpace then .ok ()
  else
    match (Json.read? bytes).bind layout.slots? with
    | none => .error invalidJson
    | some _ => .ok ()

end StopBody

end SocksMonitor.Control
