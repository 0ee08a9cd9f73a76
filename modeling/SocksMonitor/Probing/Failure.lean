import SocksMonitor.Socks.Fault
import SocksMonitor.Socks.Reply

/-!
# Failures of a probe

A probe fails before any I/O, on an input that it refuses, or in one of its steps. A step fails
because its I/O was cut off or because the proxy answered with something that is not accepted.
`ProbeFailure.kind` tells the three apart, and the `message` functions hold the wording.
-/

namespace SocksMonitor.Probing

open Socks (Fault Reply)

/-- The steps of a probe, in order. -/
inductive Step where
  | tcpConnect
  | socksHandshake
  | connect
  | udpAssociate
deriving Repr, DecidableEq

namespace Step

/-- The name under which the latency of the step is kept. -/
def key : Step → String
  | tcpConnect => "tcp_connect"
  | socksHandshake => "socks_handshake"
  | connect => "connect"
  | udpAssociate => "udp_associate"

def text : Step → String
  | tcpConnect => "tcp connect"
  | socksHandshake => "socks handshake"
  | connect => "connect"
  | udpAssociate => "udp associate"

end Step

/-- A single action within a step, as error texts name it. -/
structure Operation where
  name : String
deriving Repr, DecidableEq

namespace Operation

def dial : Operation := ⟨"dial"⟩
def writeGreeting : Operation := ⟨"write greeting"⟩
def readMethodSelection : Operation := ⟨"read method selection"⟩
def methodSelection : Operation := ⟨"method selection"⟩
def encodeUserPass : Operation := ⟨"encode user/pass"⟩
def writeUserPass : Operation := ⟨"write user/pass"⟩
def readUserPassReply : Operation := ⟨"read user/pass reply"⟩
def userPassReply : Operation := ⟨"user/pass reply"⟩
def writeRequest : Operation := ⟨"write request"⟩
def readReplyHeader : Operation := ⟨"read reply header"⟩
def replyHeader : Operation := ⟨"reply header"⟩
def readBoundAddress : Operation := ⟨"read bound address"⟩

end Operation

inductive IoError where
  /-- The peer has closed its side before all bytes had come. -/
  | earlyEof
  | connectionRefused
  | connectionReset
  | networkUnreachable
  | addressInUse
  | other (text : String)
deriving Repr, DecidableEq

def IoError.message : IoError → String
  | earlyEof => "early eof"
  | connectionRefused => "Connection refused (os error 111)"
  | connectionReset => "Connection reset by peer (os error 104)"
  | networkUnreachable => "Network is unreachable (os error 101)"
  | addressInUse => "Address already in use (os error 98)"
  | other text => text

inductive StepFailure where
  | io (op : Operation) (error : IoError)
  | timeout (op : Operation)
  | cancelled (op : Operation)
  | framing (op : Operation) (fault : Fault)
  | methodsRejected
  | unsupportedMethod (method : UInt8)
  /-- The proxy wants a username and password, and there are none. -/
  | credentialsRequired
  | authFailed
  | rejected (reply : Reply)
deriving Repr, DecidableEq

/-- Who is to blame for a failure. -/
inductive FailureKind where
  /-- An input, refused before any I/O. -/
  | input
  /-- The connection: dialling, a write or a read, the deadline or a cancellation. -/
  | transport
  /-- The proxy, which answered. -/
  | protocol
deriving Repr, DecidableEq

namespace StepFailure

def kind : StepFailure → FailureKind
  | io .. | timeout .. | cancelled .. => .transport
  | _ => .protocol

def message : StepFailure → String
  | io op error => op.name ++ ": " ++ error.message
  | timeout op => op.name ++ ": deadline exceeded"
  | cancelled op => op.name ++ ": cancelled"
  | framing op fault => op.name ++ ": " ++ fault.message
  | methodsRejected => "proxy rejected offered methods"
  | unsupportedMethod method =>
    "unsupported method selected by proxy: 0x" ++ Numeral.byteText method
  | credentialsRequired => "proxy requires username/password but none provided"
  | authFailed => "user/pass authentication failed"
  | rejected reply => reply.message

end StepFailure

inductive ProbeFailure where
  | invalidServer (fault : Fault)
  | invalidTarget (fault : Fault)
  | invalidCredentials (fault : Fault)
  | step (step : Step) (cause : StepFailure)
deriving Repr, DecidableEq

namespace ProbeFailure

def kind : ProbeFailure → FailureKind
  | step _ cause => cause.kind
  | _ => .input

def message : ProbeFailure → String
  | invalidServer fault => "invalid socks server: " ++ fault.message
  | invalidTarget fault => "invalid connect target: " ++ fault.message
  | invalidCredentials fault => "invalid credentials: " ++ fault.message
  | step s cause => s.text ++ " failed: " ++ cause.message

theorem kind_step_ne_input (s : Step) (cause : StepFailure) : (step s cause).kind ≠ .input := by
  cases cause <;> simp [kind, StepFailure.kind]

end ProbeFailure

/-- How an action is cut off: by the network, by the deadline of the run, or by a cancellation. -/
inductive Interruption where
  | io (error : IoError)
  | deadline
  | cancelled
deriving Repr, DecidableEq, Inhabited

def Interruption.failure (op : Operation) : Interruption → StepFailure
  | io error => .io op error
  | deadline => .timeout op
  | cancelled => .cancelled op

theorem Interruption.kind_failure (op : Operation) (stall : Interruption) :
    (stall.failure op).kind = .transport := by
  cases stall <;> rfl

end SocksMonitor.Probing
