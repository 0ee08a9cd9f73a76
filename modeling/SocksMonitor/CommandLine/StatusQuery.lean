import SocksMonitor.CommandLine.Command
import SocksMonitor.Control.Routes

/-!
# Asking a daemon for its status

The status query as an HTTP exchange: the URL to ask, the bytes to send, and what the answer means.
The query is made in the version of HTTP in which the answer ends with the connection.
-/

namespace SocksMonitor.CommandLine

def statusUrl (api : String) : String := api ++ Control.Route.status.path

structure StatusQuery where
  host : Socks.Address
  authority : String
  target : String
deriving DecidableEq

def endsAuthority (c : Char) : Bool := c == '/' || c == '?' || c == '#'

/-- The query for a daemon. A URL without a port means port 80. -/
def StatusQuery.ofApi? (api : String) : Option StatusQuery := do
  let rest ← Control.afterScheme? (statusUrl api).toList
  let authority := String.ofList (rest.takeWhile fun c => !endsAuthority c)
  let target := String.ofList (rest.dropWhile fun c => !endsAuthority c)
  let host ← match Socks.Address.read authority with
    | .ok host => some host
    | .error _ => (Socks.Address.read (authority ++ ":80")).toOption
  return ⟨host, authority, target⟩

def StatusQuery.request (q : StatusQuery) : Bytes :=
  Text.utf8 ("GET " ++ q.target ++ " HTTP/1.0\r\nHost: " ++ q.authority ++ "\r\n\r\n")

/-- The status that a daemon has answered with. Of the codes only failures are refused. -/
def statusOf (code : Nat) (body : Bytes) : Except String Agent.StatusReport :=
  if 400 ≤ code ∧ code < 600 then .error ("HTTP status " ++ Numeral.decimalText code)
  else
    match (Json.read? body).bind Agent.StatusReport.ofJson? with
    | some status => .ok status
    | none => .error "error decoding response body"

/-- What follows the empty line behind the head of an answer. -/
def bodyOf : Bytes → Bytes
  | 0x0D :: 0x0A :: 0x0D :: 0x0A :: body => body
  | _ :: rest => bodyOf rest
  | [] => []

def codeOf? (bytes : Bytes) : Option Nat :=
  let digits := (bytes.dropWhile (· != 0x20)).drop 1 |>.take 3
  Numeral.readDecimal? (digits.map fun b => Char.ofNat b.toNat)

def readStatus (bytes : Bytes) : Except String Agent.StatusReport :=
  match codeOf? bytes with
  | some code => statusOf code (bodyOf bytes)
  | none => .error "error sending request"

end SocksMonitor.CommandLine
