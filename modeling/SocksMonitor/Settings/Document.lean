import SocksMonitor.Settings.Basic
import SocksMonitor.Toml.Document
import SocksMonitor.Toml.Record

/-!
# The settings file

Settings are read from a TOML document with the tables `api` and `probe`. A setting of a wrong type
makes the whole document unreadable, an unknown one is passed over.
-/

namespace SocksMonitor.Settings

open Toml (Parts Value)

/-! ## Settings from values -/

def endpoint? (v : Value) : Option Net.Endpoint :=
  v.asText?.bind fun s => Net.Endpoint.read? s.toList

/-- Credentials need both of their parts. -/
def credentials? (v : Value) : Option Socks.Credentials := do
  let parts ← v.parts? ["username", "password"]
  let username ← Parts.need parts "username" Value.asText?
  let password ← Parts.need parts "password" Value.asText?
  return ⟨username, password⟩

def ControlSettings.ofValue? (v : Value) : Option ControlSettings := do
  let base : ControlSettings := {}
  let parts ← v.parts? ["listen", "shutdown_secs"]
  let listen ← Parts.withDefault parts "listen" base.listen endpoint?
  let shutdownSecs ← Parts.withDefault parts "shutdown_secs" base.shutdownSecs Value.asNat?
  return ⟨listen, shutdownSecs⟩

def ProbeSettings.ofValue? (v : Value) : Option ProbeSettings := do
  let base : ProbeSettings := {}
  let parts ← v.parts?
    ["server", "timeout_ms", "connect_target", "udp_test", "interval_secs", "auth"]
  let server ← Parts.maybe parts "server" Value.asText?
  let timeoutMs ← Parts.withDefault parts "timeout_ms" base.timeoutMs Value.asNat?
  let connectTarget ← Parts.withDefault parts "connect_target" base.connectTarget Value.asText?
  let udpTest ← Parts.withDefault parts "udp_test" base.udpTest Value.asBool?
  let intervalSecs ← Parts.withDefault parts "interval_secs" base.intervalSecs Value.asNat?
  let auth ← Parts.maybe parts "auth" credentials?
  return ⟨server, timeoutMs, connectTarget, udpTest, intervalSecs, auth⟩

def DaemonSettings.ofParts? (parts : Parts) : Option DaemonSettings := do
  let control ← parts.withDefault "api" {} ControlSettings.ofValue?
  let probe ← parts.withDefault "probe" {} ProbeSettings.ofValue?
  return ⟨control, probe⟩

def DaemonSettings.ofDocument? (document : String) : Option DaemonSettings :=
  (Toml.read? document).bind DaemonSettings.ofParts?

/-! ## Settings from a file -/

inductive FileError where
  | missing
  | other (text : String)
deriving Repr, DecidableEq

def FileError.message : FileError → String
  | missing => "No such file or directory (os error 2)"
  | other text => text

inductive LoadError where
  | file (error : FileError)
  | encoding
  /-- The text is no TOML document, or a setting has a wrong type. -/
  | document
deriving Repr, DecidableEq

namespace LoadError

/-- The kind of an error, with which its text begins. -/
def kindText : LoadError → String
  | file _ | encoding => "IO error"
  | document => "Parse error"

/-- The text of an error. Of an unreadable document it names no more than the kind. -/
def message (e : LoadError) : String :=
  match e with
  | file error => e.kindText ++ ": " ++ error.message
  | encoding => e.kindText ++ ": stream did not contain valid UTF-8"
  | document => e.kindText

end LoadError

/-- The settings in a file, given its bytes or the reason for having none. -/
def DaemonSettings.load (content : Except FileError Bytes) : Except LoadError DaemonSettings :=
  match content with
  | .error error => .error (.file error)
  | .ok bytes =>
    match Text.ofUtf8? bytes with
    | none => .error .encoding
    | some document =>
      match DaemonSettings.ofDocument? document with
      | none => .error .document
      | some settings => .ok settings

end SocksMonitor.Settings
