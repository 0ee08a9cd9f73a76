import SocksMonitor.Probing.Dialogue
import SocksMonitor.Probing.Plan
import SocksMonitor.Probing.Summary
import SocksMonitor.Socks.Cursor

/-!
# The probe

One run is a strict sequence over a single connection: dial, greeting with authentication, CONNECT,
and UDP ASSOCIATE if asked for. Each step leaves its latency in the summary, a failed one a warning
too. A failure ends the run, except that of the UDP step, which is a best effort: it is only a
warning, whatever its cause.

The steps behind the dial are dialogues, so a run is a function of the peer's bytes, of the way in
which a wait for missing ones is cut off, and of the actions that are cut off besides.
-/

namespace SocksMonitor.Probing

open Socks (Address Command Credentials Decoder)

/-! ## The dialogues of the steps -/

def authenticate (credentials : Credentials) : Dialogue Unit :=
  match Socks.checkCredentials credentials with
  | .error fault => .fail (.framing .encodeUserPass fault)
  | .ok () => do
    .say .writeUserPass (Socks.userPassMessage credentials)
    let reply ← .hear .readUserPassReply 2
    let accepted ← .framed .userPassReply (Decoder.userPassReply reply).1
    if accepted then pure () else .fail .authFailed

def answerMethod (auth : Option Credentials) (method : UInt8) : Dialogue AuthMethod :=
  if method = Socks.Method.noAuth then pure .none
  else if method = Socks.Method.userPass then
    match auth with
    | none => .fail .credentialsRequired
    | some credentials => do
      authenticate credentials
      pure .userPass
  else if method = Socks.Method.noneAcceptable then .fail .methodsRejected
  else .fail (.unsupportedMethod method)

/-- Greeting, method selection, and authentication if the proxy wants it. -/
def handshake (auth : Option Credentials) : Dialogue AuthMethod := do
  .say .writeGreeting (Socks.greeting auth.isSome)
  let selection ← .hear .readMethodSelection 2
  let method ← .framed .methodSelection (Decoder.methodSelection selection).1
  answerMethod auth method

def skipBoundAddress (atyp : UInt8) : Dialogue Unit := do
  let form ← .framed .readBoundAddress (Socks.boundAddress atyp)
  match form with
  | .fixed count => do
    let _ ← .hear .readBoundAddress count
    pure ()
  | .lengthPrefixed => do
    let first ← .hear .readBoundAddress 1
    let count ← .framed .readBoundAddress (Socks.boundDomainLength (first.headD 0))
    let _ ← .hear .readBoundAddress count
    pure ()

/-- Sends a request and takes the whole reply off the stream, so that the next message is in
front. The reply must report success. -/
def ask (command : Command) (address : Address) : Dialogue Unit := do
  .say .writeRequest (Socks.request command address)
  let bytes ← .hear .readReplyHeader 4
  let header ← .framed .replyHeader (Decoder.replyHeader bytes).1
  if header.reply = .succeeded then skipBoundAddress header.atyp
  else .fail (.rejected header.reply)

/-! ## Surroundings of a run -/

/-- A peer that has accepted the connection: the bytes that it sends, and how a wait for more of
them is cut off. -/
structure Peer where
  bytes : Bytes
  stall : Interruption
deriving Repr, DecidableEq

inductive Dial where
  /-- The connection is made. `cuts` tells for each step which of its actions are cut off, besides
  the waits for missing bytes. -/
  | accepted (peer : Peer) (cuts : Step → Cuts := fun _ => .never)
  | failed (cause : Interruption)

/-- The cancellation signal that a caller may hand in. -/
inductive Signal where
  | absent
  /-- A value, and whether its sender can still change it. -/
  | channel (value : Bool) (senderAlive : Bool)
deriving Repr, DecidableEq

/-- Whether the signal is on. A sender that is gone makes no difference. -/
def Signal.isRaised : Signal → Bool
  | absent => false
  | channel value _ => value

/-- A signal that is on wins over anything that dialling would come to. -/
def Signal.dial (signal : Signal) (dial : Dial) : Dial :=
  if signal.isRaised then .failed .cancelled else dial

theorem Signal.dial_of_raised {signal : Signal} (hraised : signal.isRaised = true) (dial : Dial) :
    signal.dial dial = .failed .cancelled := if_pos hraised

theorem Signal.dial_of_off {signal : Signal} (hoff : signal.isRaised = false) (dial : Dial) :
    signal.dial dial = dial := by
  simp [Signal.dial, hoff]

/-- Readings of the clock during a run: the milliseconds of each step, and the time of its end. -/
structure Timing where
  latency : Step → UInt64
  finished : Time.Timestamp

structure Report where
  summary : Summary
  result : Except ProbeFailure Unit
  /-- All bytes sent, or `none` if no connection was made. -/
  sent : Option Bytes

/-! ## The run -/

namespace Summary

def timed (s : Summary) (timing : Timing) (step : Step) : Summary :=
  { s with latencies := s.latencies.insert step.key (timing.latency step) }

def warned (s : Summary) (step : Step) (cause : StepFailure) : Summary :=
  { s with warnings := s.warnings ++ [(ProbeFailure.step step cause).message] }

end Summary

namespace Plan

def stopped (timing : Timing) (before : Summary) (step : Step) (cause : StepFailure)
    (sent : Option Bytes) : Report :=
  ⟨(before.timed timing step).warned step cause, .error (.step step cause), sent⟩

def afterUdp (timing : Timing) (before : Summary) (outcome : Outcome Unit) : Summary :=
  let s := before.timed timing .udpAssociate
  match outcome.result with
  | .ok () => { s with udpOk := true }
  | .error cause => s.warned .udpAssociate cause

/-- The steps from CONNECT on. `sent` and `rest` are what was sent and what the peer has left. -/
def runRequests (plan : Plan) (timing : Timing) (stall : Interruption) (cuts : Step → Cuts)
    (before : Summary) (sent rest : Bytes) : Report :=
  let connect := (ask .connect plan.target).run stall (cuts .connect) rest
  let sent := sent ++ connect.sent
  match connect.result with
  | .error cause => stopped timing before .connect cause (some sent)
  | .ok () =>
    let s := before.timed timing .connect
    let features := { s.features with ipv6 := plan.target.isIpv6 }
    let s := { s with connectOk := true, features }
    if plan.udpTest then
      let udp := (ask .udpAssociate Address.unspecified).run stall (cuts .udpAssociate) connect.rest
      ⟨afterUdp timing s udp, .ok (), some (sent ++ udp.sent)⟩
    else ⟨s, .ok (), some sent⟩

/-- The steps from the handshake on, with a peer that has accepted the connection. -/
def runSession (plan : Plan) (timing : Timing) (peer : Peer) (cuts : Step → Cuts)
    (before : Summary) : Report :=
  let greeted := (handshake plan.auth).run peer.stall (cuts .socksHandshake) peer.bytes
  match greeted.result with
  | .error cause => stopped timing before .socksHandshake cause (some greeted.sent)
  | .ok method =>
    let s := before.timed timing .socksHandshake
    let s := { s with socksOk := true, features := { s.features with auth := some method } }
    plan.runRequests timing peer.stall cuts s greeted.sent greeted.rest

def run (plan : Plan) (timing : Timing) (dial : Dial) : Report :=
  match dial with
  | .failed cause => stopped timing {} .tcpConnect (cause.failure .dial) none
  | .accepted peer cuts =>
    let s := Summary.timed {} timing .tcpConnect
    plan.runSession timing peer cuts { s with reachable := true }

end Plan

/-- Runs a probe. The summary holds what was found out on every path, and the time of the end. A
signal that comes on behind the dial is among the cuts (`Probing/Guard.lean`). -/
def ProbeRequest.run (request : ProbeRequest) (signal : Signal) (timing : Timing) (dial : Dial) :
    Report :=
  let report : Report :=
    match request.plan with
    | .error failure => ⟨{}, .error failure, none⟩
    | .ok plan => plan.run timing (signal.dial dial)
  { report with summary := { report.summary with lastChecked := some timing.finished } }

end SocksMonitor.Probing
