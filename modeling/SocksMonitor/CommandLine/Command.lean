import SocksMonitor.CommandLine.Options
import SocksMonitor.Net.Endpoint
import SocksMonitor.Probing.Plan

/-!
# Commands

The commands of the program, each with its own options. Without arguments the daemon runs with its
defaults.
-/

namespace SocksMonitor.CommandLine

inductive Command where
  /-- Runs the daemon, with the path of a settings file and an address in place of its own. -/
  | run (config : Option String) (listen : Option Net.Endpoint)
  | probe (request : Probing.ProbeRequest)
  | validate (config : String)
  /-- Shows the state of a daemon once, or keeps watching it. -/
  | display (watch : Bool) (api : String)
deriving DecidableEq

/-! ## Options of the commands -/

def anyText : OptionKind := .value fun _ => true

def readEndpoint? (s : String) : Option Net.Endpoint := Net.Endpoint.read? s.toList

/-- A number of milliseconds below 2 ^ 64. A plus sign and leading zeros are allowed. -/
def readMillis? (s : String) : Option Nat :=
  (Numeral.readDecimal? (Numeral.dropPlus s.toList)).filter (· < UInt64.size)

def helpOption : OptionForm := ⟨"help", some 'h', .halt .help⟩

/-- The options in front of a command. -/
def generalOptions : List OptionForm := [helpOption, ⟨"version", some 'V', .halt .version⟩]

def runOptions : List OptionForm :=
  [helpOption, ⟨"config", some 'c', anyText⟩,
    ⟨"listen", none, .value fun s => (readEndpoint? s).isSome⟩]

def probeOptions : List OptionForm :=
  [helpOption, ⟨"server", some 's', anyText⟩, ⟨"target", some 't', anyText⟩,
    ⟨"timeout-ms", none, .value fun s => (readMillis? s).isSome⟩, ⟨"udp", none, .flag⟩,
    ⟨"username", none, anyText⟩, ⟨"password", none, anyText⟩]

def validateOptions : List OptionForm := [helpOption, ⟨"config", some 'c', anyText⟩]

def displayOptions : List OptionForm :=
  [helpOption, ⟨"watch", some 'w', .flag⟩, ⟨"api", none, anyText⟩]

def defaultConfig : String := "socksprobe.toml"

def defaultApi : String := "http://127.0.0.1:8787"

/-! ## Commands from options -/

def runCommand (given : Given) : Except Halt Command :=
  .ok (.run (given.lookup "config") ((given.lookup "listen").bind readEndpoint?))

/-- The server is required, and a username comes with a password or not at all. -/
def probeCommand (given : Given) : Except Halt Command := do
  let some server := given.lookup "server" | .error .usage
  let auth ← match given.lookup "username", given.lookup "password" with
    | none, none => .ok none
    | some username, some password => .ok (some ⟨username, password⟩)
    | _, _ => .error .usage
  return .probe
    { server
      timeoutMs := ((given.lookup "timeout-ms").bind readMillis?).getD Probing.defaultTimeoutMs
      auth
      connectTarget := (given.lookup "target").getD Probing.defaultTarget
      udpTest := (given.lookup "udp").isSome }

def validateCommand (given : Given) : Except Halt Command :=
  .ok (.validate ((given.lookup "config").getD defaultConfig))

def displayCommand (given : Given) : Except Halt Command :=
  .ok (.display (given.lookup "watch").isSome ((given.lookup "api").getD defaultApi))

def commandNames : List String := ["run", "probe", "validate", "show", "help"]

/-- Asks for help, in general or on one command. -/
def readHelp : List String → Except Halt Command
  | [] => .error .help
  | [name] => .error (if commandNames.contains name then .help else .usage)
  | _ => .error .usage

def readNamed (name : String) (args : List String) : Except Halt Command :=
  match name with
  | "run" => readOptions runOptions [] args >>= runCommand
  | "probe" => readOptions probeOptions [] args >>= probeCommand
  | "validate" => readOptions validateOptions [] args >>= validateCommand
  | "show" => readOptions displayOptions [] args >>= displayCommand
  | "help" => readHelp args
  | _ => .error .usage

def readCommand (args : List String) : Except Halt Command :=
  match args with
  | [] => .ok (.run none none)
  | arg :: rest =>
    if shape arg = .word then readNamed arg rest
    else (readOptions generalOptions [] args).map fun _ => .run none none

end SocksMonitor.CommandLine
