import SocksMonitor.Probing.Failure
import SocksMonitor.Socks.Message
import SocksMonitor.Text.Blank

/-!
# Request and plan of a probe

A `ProbeRequest` is what a caller asks for; its plan has the addresses read and the defaults put
in. The server is judged before the target and the target before the credentials, and nothing is
dialled for a request without a plan.
-/

namespace SocksMonitor.Probing

open Socks (Address Credentials)

structure ProbeRequest where
  /-- The proxy, as `host:port`. -/
  server : String
  /-- Milliseconds for the whole run; zero selects the default. -/
  timeoutMs : Nat := 0
  /-- Offered to the proxy in addition to no authentication. -/
  auth : Option Credentials := none
  /-- The destination of CONNECT, as `host:port`; a blank one selects the default. -/
  connectTarget : String := ""
  udpTest : Bool := false
deriving Repr, DecidableEq

def defaultTimeoutMs : Nat := 3000

def defaultTarget : String := "example.com:80"

/-- A request whose inputs have been found good. -/
structure Plan where
  server : Address
  target : Address
  timeoutMs : Nat
  auth : Option Credentials
  udpTest : Bool
deriving DecidableEq

namespace ProbeRequest

def targetText (r : ProbeRequest) : String :=
  if Text.allBlank r.connectTarget.toList then defaultTarget else r.connectTarget

def checkAuth (r : ProbeRequest) : Except Socks.Fault Unit :=
  match r.auth with
  | some credentials => Socks.checkCredentials credentials
  | none => .ok ()

/-- The plan of a request, or the first input that is refused. -/
def plan (r : ProbeRequest) : Except ProbeFailure Plan :=
  match Address.read r.server with
  | .error fault => .error (.invalidServer fault)
  | .ok server =>
    match Address.read r.targetText with
    | .error fault => .error (.invalidTarget fault)
    | .ok target =>
      match r.checkAuth with
      | .error fault => .error (.invalidCredentials fault)
      | .ok () =>
        let timeoutMs := if r.timeoutMs = 0 then defaultTimeoutMs else r.timeoutMs
        .ok ⟨server, target, timeoutMs, r.auth, r.udpTest⟩

/-- What a plan says of its request: both addresses could be read, the credentials fit, and the
rest is taken over. -/
theorem of_plan {r : ProbeRequest} {plan : Plan} (h : r.plan = .ok plan) :
    Address.read r.server = .ok plan.server ∧ Address.read r.targetText = .ok plan.target
      ∧ r.checkAuth = .ok () ∧ plan.auth = r.auth ∧ plan.udpTest = r.udpTest := by
  unfold ProbeRequest.plan at h
  split at h
  · cases h
  · next server hserver =>
    split at h
    · cases h
    · next target htarget =>
      split at h
      · cases h
      · next hauth =>
        cases h
        exact ⟨hserver, htarget, hauth, rfl, rfl⟩

theorem kind_of_plan_error {r : ProbeRequest} {failure : ProbeFailure}
    (h : r.plan = .error failure) : failure.kind = .input := by
  unfold ProbeRequest.plan at h
  split at h
  · cases h
    rfl
  · split at h
    · cases h
      rfl
    · split at h
      · cases h
        rfl
      · cases h

end ProbeRequest

end SocksMonitor.Probing
