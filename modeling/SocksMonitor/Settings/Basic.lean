import SocksMonitor.Net.Endpoint
import SocksMonitor.Probing.Plan

/-!
# Settings of the daemon

What the settings file decides: where the control plane listens, how long a shutdown may take, and
which proxy is probed at intervals. `ProbeSettings.request` turns the settings of the probe into the
request that the engine takes. Each setting has a default, so that an empty file will do.
-/

namespace SocksMonitor.Settings

structure ControlSettings where
  /-- The address to listen at; by default `127.0.0.1:8787`. -/
  listen : Net.Endpoint := .v4 ⟨127, 0, 0, 1⟩ 8787
  /-- The seconds that requests in flight get at the end. -/
  shutdownSecs : Nat := 5
deriving DecidableEq

structure ProbeSettings where
  server : Option String := none
  timeoutMs : Nat := Probing.defaultTimeoutMs
  connectTarget : String := Probing.defaultTarget
  udpTest : Bool := false
  /-- The seconds from one probe to the next; zero for no probes. -/
  intervalSecs : Nat := 0
  auth : Option Socks.Credentials := none
deriving DecidableEq

structure DaemonSettings where
  control : ControlSettings := {}
  probe : ProbeSettings := {}
deriving DecidableEq

namespace ProbeSettings

def request (settings : ProbeSettings) (server : String) : Probing.ProbeRequest :=
  { server
    timeoutMs := settings.timeoutMs
    auth := settings.auth
    connectTarget := settings.connectTarget
    udpTest := settings.udpTest }

/-- The server that is probed at intervals and the seconds between two probes, if there is a server
and the interval is not zero. -/
def periodic (settings : ProbeSettings) : Option (String × Nat) :=
  match settings.server with
  | some server => if 0 < settings.intervalSecs then some (server, settings.intervalSecs) else none
  | none => none

/-- Probes are repeated exactly with a server and an interval that is not zero. -/
theorem periodic_eq_some_iff {settings : ProbeSettings} {server : String} {secs : Nat} :
    settings.periodic = some (server, secs) ↔
      settings.server = some server ∧ settings.intervalSecs = secs ∧ 0 < secs := by
  unfold periodic
  cases settings.server with
  | none => simp
  | some s =>
    by_cases h : 0 < settings.intervalSecs
    · simp only [h, if_true, Option.some.injEq, Prod.mk.injEq]
      constructor
      · rintro ⟨rfl, rfl⟩
        exact ⟨rfl, rfl, h⟩
      · rintro ⟨rfl, rfl, -⟩
        exact ⟨rfl, rfl⟩
    · simp only [h, if_false, reduceCtorEq, false_iff]
      rintro ⟨-, rfl, positive⟩
      exact h positive

end ProbeSettings

end SocksMonitor.Settings
