import SocksMonitor.Control.Routes
import SocksMonitor.Settings.Document

/-!
# The daemon

The daemon answers requests from its store, and if its settings name a server and an interval it
also probes that server, the first time at once. What it does between its start and the signal that
ends it is a sequence of these two steps.
-/

namespace SocksMonitor.Control

open Settings (DaemonSettings LoadError)

/-! ## Log -/

inductive Level where
  | info
  | warning
  | error
deriving Repr, DecidableEq

def Level.name : Level → String
  | info => "INFO"
  | warning => "WARN"
  | error => "ERROR"

structure LogLine where
  level : Level
  text : String
deriving Repr, DecidableEq

def LogLine.line (l : LogLine) : String := l.level.name ++ " " ++ l.text

def secondsText (secs : Nat) : String := Numeral.decimalText secs ++ "s"

/-! ## Steps -/

structure Daemon where
  settings : DaemonSettings
  store : Agent.Snapshot := {}

inductive StopSignal where
  | interrupt
  | terminate
deriving Repr, DecidableEq

def StopSignal.name : StopSignal → String
  | interrupt => "SIGINT"
  | terminate => "SIGTERM"

namespace Daemon

/-- The settings to run with: those of the file, if there is one, with the address to listen at
replaced if another is given. -/
def settingsOf (file : Option (Except LoadError DaemonSettings)) (listen : Option Net.Endpoint) :
    Except LoadError DaemonSettings := do
  let settings ← file.getD (.ok {})
  match listen with
  | some address => return { settings with control := { settings.control with listen := address } }
  | none => return settings

def loadFailure (path : String) (e : LoadError) : String :=
  "failed to load config '" ++ path ++ "': " ++ e.message

/-- What is logged at the start, with the text of the address that is listened at. -/
def startLog (settings : DaemonSettings) (address : String) : List LogLine :=
  ⟨.info, "API Server running at http://" ++ address⟩ ::
    match settings.probe.periodic with
    | some (server, secs) => [⟨.info, "Probing " ++ server ++ " every " ++ secondsText secs⟩]
    | none => []

/-- What is logged at the end: the signal, and whether requests were still in flight when the time
for them had passed. -/
def stopLog (settings : DaemonSettings) (signal : StopSignal) (finished : Bool) : List LogLine :=
  ⟨.info, "Received " ++ signal.name ++ ", shutting down..."⟩ ::
    if finished then []
    else [⟨.warning, "Shutdown did not finish within " ++
      secondsText settings.control.shutdownSecs⟩]

def answer (daemon : Daemon) (env : Surroundings) (request : Request) : Daemon × Turn :=
  let turn := handle env daemon.store request
  ({ daemon with store := turn.store }, turn)

/-- Does the probe that is repeated, if there is one. -/
def probe (daemon : Daemon) (env : Surroundings) : Daemon × Option Probing.Report :=
  match daemon.settings.probe.periodic with
  | none => (daemon, none)
  | some (server, _) =>
    let report := (daemon.settings.probe.request server).run env.signal env.timing env.dial
    let store := (daemon.store.apply env.now (.updateProbe report.summary)).1
    ({ daemon with store }, some report)

end Daemon

end SocksMonitor.Control
