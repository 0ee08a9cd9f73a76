import SocksMonitor.CommandLine.Command
import SocksMonitor.Control.Daemon

/-!
# Outcomes of commands

What a command prints, logs and exits with, once the world has answered: the file has been read, the
probe has been run, the daemon has been asked.
-/

namespace SocksMonitor.CommandLine

open Control (LogLine secondsText)
open Settings (DaemonSettings LoadError)

structure Outcome where
  exit : Nat := 0
  output : List String := []
  complaint : String := ""
  log : List LogLine := []
deriving Repr, DecidableEq

namespace Outcome

def failure (text : String) : Outcome := { exit := 1, complaint := "Error: " ++ text }

/-- The lines of a text without line ends at its end. -/
def linesOf (s : String) : List String := (Text.splitAll '\n' s.toList).map String.ofList

def ofSettings (path : String) (loaded : Except LoadError DaemonSettings) : Outcome :=
  match loaded with
  | .ok settings =>
    let periodic := match settings.probe.periodic with
      | some (server, secs) => server ++ " every " ++ secondsText secs
      | none => "disabled"
    { log := [⟨.info, "Configuration '" ++ path ++ "' is valid."⟩,
        ⟨.info, "API Listen: " ++ String.ofList settings.control.listen.text⟩,
        ⟨.info, "Periodic probe: " ++ periodic⟩] }
  | .error e =>
    { failure "Invalid config" with
      log := [⟨.error, "Configuration '" ++ path ++ "' is INVALID: " ++ e.message⟩] }

/-- The outcome of a single probe. The summary is printed whether the probe succeeded or not. -/
def ofReport (report : Probing.Report) : Outcome :=
  let output := linesOf report.summary.toJson.indentedText
  match report.result with
  | .ok () => { output }
  | .error e => { failure ("probe failed: " ++ e.message) with output }

/-- The outcome of asking a daemon for its status. That there is no answer is no failure. -/
def ofStatus (answer : Except String Agent.StatusReport) : Outcome :=
  match answer with
  | .ok status => { output := linesOf status.toJson.indentedText }
  | .error text => { complaint := "Failed to connect to API: " ++ text }

end Outcome

/-! ## Without a command -/

def versionText : String := "socksprobe 0.1.0"

def helpText : List String :=
  ["SOCKS5 proxy prober and local control-plane daemon", "",
    "Usage: socksprobe [COMMAND]", "",
    "Commands:",
    "  run       Run the control-plane daemon",
    "            [-c, --config <CONFIG>] [--listen <LISTEN>]",
    "  probe     Probe a SOCKS5 server once and print the summary",
    "            -s, --server <SERVER> [-t, --target <TARGET>] [--timeout-ms <MS>] [--udp]",
    "            [--username <USERNAME> --password <PASSWORD>]",
    "  validate  Validate configuration file",
    "            [-c, --config <CONFIG>]",
    "  show      Show current daemon state",
    "            [-w, --watch] [--api <API>]",
    "  help      Print this message", "",
    "Options:",
    "  -h, --help     Print help",
    "  -V, --version  Print version"]

def Halt.outcome : Halt → Outcome
  | .help => { output := helpText }
  | .version => { output := [versionText] }
  | .usage => { exit := 2, complaint := "error: see 'socksprobe --help'" }

end SocksMonitor.CommandLine
