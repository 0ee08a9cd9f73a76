import Std.Async
import Std.Http
import SocksMonitor.CommandLine.Outcome
import SocksMonitor.CommandLine.StatusQuery
import SocksMonitor.Dashboard.Frame

/-!
# The program

All that touches the world outside: files, clocks, connections, signals and the terminal. The rest
of the library decides what is sent and what the answers mean. A probe is a function of the bytes
that its peer has sent, so the loop here runs it anew whenever bytes have come in, sends what the
run has sent beyond the last one, and ends when the outcome no longer depends on further bytes.
-/

namespace SocksMonitor.Outside

open Std.Async Std.Net
open Probing (Dial Interruption IoError Peer ProbeRequest Report Signal Step Summary Timing)

/-! ## Clocks -/

def now : IO Time.Timestamp := do
  let t ← Std.Time.Timestamp.now
  return (Time.Timestamp.ofUnixNanos? t.toNanosecondsSinceUnixEpoch.val.toNat).getD .epoch

def millis (n : Nat) : Std.Time.Millisecond.Offset := .ofNat n

/-- When each step was done, in milliseconds from the start. -/
abbrev Marks := List (Step × Nat)

def steps : List Step := [.tcpConnect, .socksHandshake, .connect, .udpAssociate]

/-- Marks the steps that have been done since the last marks. -/
def Marks.update (marks : Marks) (summary : Summary) (elapsed : Nat) : Marks :=
  marks ++ (steps.filter fun s => Dashboard.succeeded summary s && (marks.lookup s).isNone).map
    fun s => (s, elapsed)

/-- The time of each step: from the end of the one before it to its own, or up to now. -/
def Marks.latency (marks : Marks) (elapsed : Nat) (step : Step) : UInt64 :=
  let before := (steps.takeWhile (· != step)).getLast?.bind fun s => marks.lookup s
  UInt64.ofNat ((marks.lookup step).getD elapsed - before.getD 0)

/-! ## Connections -/

/-- The number of a system error, whose sign depends on where it comes from. -/
def errorNumber (code : UInt32) : Nat := min code.toNat (-code).toNat

def ioError (e : IO.Error) : IoError :=
  let known (code : UInt32) : IoError :=
    match errorNumber code with
    | 98 => .addressInUse
    | 101 => .networkUnreachable
    | 104 => .connectionReset
    | 111 => .connectionRefused
    | _ => .other (toString e)
  match e with
  | .noSuchThing _ code _ | .resourceVanished code _ | .resourceBusy code _ => known code
  | e => .other (toString e)

def socketAddress : Net.Endpoint → SocketAddress
  | .v4 ip port => .v4 ⟨.ofParts ip.a ip.b ip.c ip.d, port⟩
  | .v6 ip _ port =>
    let g (i : Nat) := ip.groups.getD i 0
    .v6 ⟨.ofParts (g 0) (g 1) (g 2) (g 3) (g 4) (g 5) (g 6) (g 7), port⟩

def resolve : Socks.Address → Async (List SocketAddress)
  | .socket e => return [socketAddress e]
  | .domain host port => do
    let found ← DNS.getAddrInfo host ""
    return found.toList.map fun
      | .v4 ip => .v4 ⟨ip, port⟩
      | .v6 ip => .v6 ⟨ip, port⟩

def connectAny (last : IoError) : List SocketAddress → Async (Except IoError TCP.Socket.Client)
  | [] => return .error last
  | a :: rest => do
    try
      let client ← TCP.Socket.Client.mk
      client.connect a
      return .ok client
    catch e => connectAny (ioError e) rest

def connect (address : Socks.Address) : Async (Except IoError TCP.Socket.Client) := do
  try connectAny (.other "no address") (← resolve address)
  catch e => return .error (ioError e)

/-- What ends the waiting: a timer or a cancellation. -/
def cutOffs {α : Type} (timer : Selector Unit) (cancel : Std.CancellationToken) :
    Array (Selectable (Except Interruption α)) :=
  #[.case timer fun _ => return .error .deadline,
    .case cancel.selector fun _ => return .error .cancelled]

/-- Does the work unless the time is over or a cancellation comes first. -/
def guarded {α : Type} (timeLeft : Nat) (cancel : Std.CancellationToken)
    (work : Async (Except Interruption α)) : Async (Except Interruption α) := do
  let timer ← Selector.sleep (millis timeLeft)
  Async.race work (Selectable.one (cutOffs timer cancel))

/-! ## Probes -/

/-- What the network has come to in a probe. -/
structure Transcript where
  dial : Dial
  timing : Timing

/-- The run as far as the network has come, without a clock. -/
def soFar (request : ProbeRequest) (dial : Dial) : Report :=
  request.run .absent ⟨fun _ => 0, .epoch⟩ dial

/-- Cuts off the write that comes when `said` has been sent. -/
def cutWrite (request : ProbeRequest) (peer : Peer) (said : Bytes) (cause : Interruption) : Dial :=
  let cutAt (step : Step) (action : Nat) : Dial :=
    .accepted peer fun s n => if s = step ∧ n = action then some ⟨cause, 0⟩ else none
  let writes := [cutAt .socksHandshake 0, cutAt .socksHandshake 2, cutAt .connect 0]
  -- a cut that is never met lets everything be sent
  (writes.find? fun dial => (soFar request dial).sent = some said).getD (cutAt .udpAssociate 0)

/-- Hears the peer until the outcome is settled. `heard` and `said` are the bytes so far. -/
partial def hear (request : ProbeRequest) (client : TCP.Socket.Client)
    (cancel : Std.CancellationToken) (start limit : Nat) (marks : Marks) (heard said : Bytes) :
    Async (Dial × Marks) := do
  let elapsed := (← IO.monoMsNow) - start
  let peer (stall : Interruption) : Peer := ⟨heard, stall⟩
  let report := soFar request (.accepted (peer .deadline))
  let marks := marks.update report.summary elapsed
  let sent := report.sent.getD []
  if said.length < sent.length then
    let write : Async (Except Interruption Unit) := do
      try
        client.send (sent.drop said.length).toByteArray
        return .ok ()
      catch e => return .error (.io (ioError e))
    match ← guarded (limit - elapsed) cancel write with
    | .ok () => pure ()
    | .error cut => return (cutWrite request (peer .deadline) said cut, marks)
  if report.summary = (soFar request (.accepted (peer .cancelled))).summary then
    return (.accepted (peer .deadline), marks)
  let data : Selectable (Except Interruption ByteArray) :=
    .case (client.recvSelector 4096) fun
      | some bytes => return .ok bytes
      | none => return .error (.io .earlyEof)
  let timer ← Selector.sleep (millis (limit - elapsed))
  let answer ← try Selectable.one (#[data] ++ cutOffs timer cancel)
    catch e => pure (.error (.io (ioError e)))
  match answer with
  | .ok bytes => hear request client cancel start limit marks (heard ++ bytes.toList) sent
  | .error cut => return (.accepted (peer cut), marks)

def dial (request : ProbeRequest) (cancel : Std.CancellationToken) : Async Transcript := do
  let start ← IO.monoMsNow
  let finish (dial : Dial) (marks : Marks) : Async Transcript := do
    let elapsed := (← IO.monoMsNow) - start
    return ⟨dial, marks.latency elapsed, ← now⟩
  match request.plan with
  | .error _ => finish (.failed .deadline) []
  | .ok plan =>
    let limit := plan.timeoutMs
    let made : Async (Except Interruption TCP.Socket.Client) := do
      return (← connect plan.server).mapError .io
    match ← guarded limit cancel made with
    | .error cut => finish (.failed cut) []
    | .ok client =>
      let elapsed := (← IO.monoMsNow) - start
      let (dial, marks) ← hear request client cancel start limit [(.tcpConnect, elapsed)] [] []
      try client.shutdown catch _ => pure ()
      finish dial marks

def probe (request : ProbeRequest) : Async Report := do
  let transcript ← dial request (← Std.CancellationToken.new)
  return request.run .absent transcript.timing transcript.dial

/-! ## Status -/

partial def receiveAll (client : TCP.Socket.Client) (heard : Bytes) : Async Bytes := do
  match ← client.recv? 4096 with
  | some bytes => receiveAll client (heard ++ bytes.toList)
  | none => return heard

def fetch (api : String) : Async (Except String Agent.StatusReport) := do
  match CommandLine.StatusQuery.ofApi? api with
  | none => return .error "builder error"
  | some query =>
    match ← connect query.host with
    | .error e => return .error e.message
    | .ok client =>
      try
        client.send query.request.toByteArray
        return CommandLine.readStatus (← receiveAll client [])
      catch e => return .error (ioError e).message

def screenSize : IO (Nat × Nat) := do
  let size (name : String) (fallback : Nat) : IO Nat := do
    return ((← IO.getEnv name).bind String.toNat?).getD fallback
  return (← size "LINES" 24, ← size "COLUMNS" 80)

/-- Draws a frame every second until a line that begins with `q` is read. -/
partial def watch (api : String) (quit : Task (Except IO.Error Unit)) : Async Unit := do
  let status ← fetch api
  let (rows, cols) ← screenSize
  let frame := Dashboard.frame rows cols status.toOption
  IO.print "\x1b[2J\x1b[H"
  IO.print ("\n".intercalate (frame.map String.ofList))
  (← IO.getStdout).flush
  sleep (millis 1000)
  if ← IO.hasFinished quit then return
  watch api quit

partial def awaitQuit : IO Unit := do
  let line ← (← IO.getStdin).getLine
  if line.isEmpty || line.startsWith "q" then return
  awaitQuit

/-! ## Files -/

def readFile (path : String) : IO (Except Settings.FileError Bytes) := do
  try return .ok (← IO.FS.readBinFile path).toList
  catch
    | .noFileOrDirectory .. => return .error .missing
    | e => return .error (.other (toString e))

def loadSettings (path : String) : IO (Except Settings.LoadError Settings.DaemonSettings) := do
  return Settings.DaemonSettings.load (← readFile path)

/-! ## Daemon -/

/-- Reads a body, up to a little more than the limit. -/
partial def readBody (body : Std.Http.Body.Stream) (read : Bytes) : Async Bytes := do
  if Control.bodyLimit < read.length then return read
  match ← Std.Http.Body.recv body with
  | some chunk => readBody body (read ++ chunk.data.toList)
  | none => return read

def sendable (r : Control.Response) : Async (Std.Http.Response Std.Http.Body.Any) := do
  let status := (Std.Http.Status.ofCode none (UInt16.ofNat r.status.code)).getD .ok
  let head := (Std.Http.Response.withStatus status).header! "Content-Type" r.content.mediaType
  let head := match r.allow with
    | some methods => head.header! "Allow" methods
    | none => head
  return head.body (.ofBody (← Std.Http.Body.Full.ofByteArray r.body.toByteArray))

/-- A daemon that is shared by all connections. -/
structure Shared where
  daemon : Std.Mutex Control.Daemon
  stopping : Std.CancellationToken

namespace Shared

def surroundings (shared : Shared) (transcript : Option Transcript) : IO Control.Surroundings := do
  let time ← now
  let (dial, timing) := match transcript with
    | some t => (t.dial, t.timing)
    | none => (.failed .deadline, ⟨fun _ => 0, time⟩)
  return ⟨time, .channel (← shared.stopping.isCancelled) true, timing, dial⟩

def answer (shared : Shared) (request : Std.Http.Request Std.Http.Body.Stream) :
    Async (Std.Http.Response Std.Http.Body.Any) := do
  let asked : Control.Request :=
    { method := toString request.line.method
      target := toString request.line.uri
      body := ← readBody request.body [] }
  let transcript ← match asked.probe? with
    | some probe => some <$> dial probe shared.stopping
    | none => pure none
  let env ← shared.surroundings transcript
  let turn ← shared.daemon.atomically do
    let (daemon, turn) := (← get).answer env asked
    set daemon
    return turn
  sendable turn.response

partial def probeLoop (shared : Shared) (server : String) (secs : Nat) : Async Unit := do
  let daemon ← shared.daemon.atomically get
  let transcript ← dial (daemon.settings.probe.request server) shared.stopping
  let env ← shared.surroundings (some transcript)
  shared.daemon.atomically do
    set ((← get).probe env).1
  let timer ← Selector.sleep (millis (secs * 1000))
  let goOn ← Selectable.one #[.case timer fun _ => return true,
    .case shared.stopping.selector fun _ => return false]
  if goOn then probeLoop shared server secs

end Shared

def log (lines : List Control.LogLine) : IO Unit := do
  lines.forM fun l => IO.println l.line
  (← IO.getStdout).flush

def awaitSignal : Async Control.StopSignal := do
  let interrupt ← Signal.Waiter.mk .sigint false
  let terminate ← Signal.Waiter.mk .sigterm false
  Selectable.one #[.case interrupt.selector fun _ => return .interrupt,
    .case terminate.selector fun _ => return .terminate]

def runDaemon (settings : Settings.DaemonSettings) : Async CommandLine.Outcome := do
  let shared : Shared := ⟨← Std.Mutex.new ⟨settings, {}⟩, ← Std.CancellationToken.new⟩
  let handler := Std.Http.Server.Handler.ofFn fun request => shared.answer request
  try
    let server ← Std.Http.Server.serve (socketAddress settings.control.listen) handler
    let address := (server.localAddr.map toString).getD (String.ofList settings.control.listen.text)
    log (Control.Daemon.startLog settings address)
    match settings.probe.periodic with
    | some (target, secs) => background (shared.probeLoop target secs)
    | none => pure ()
    let signal ← awaitSignal
    shared.stopping.cancel
    let timer ← Selector.sleep (millis (settings.control.shutdownSecs * 1000))
    server.shutdown
    let finished ← Selectable.one #[.case timer fun _ => return false,
      .case server.waitShutdownSelector fun _ => return true]
    log (Control.Daemon.stopLog settings signal finished)
    return {}
  catch e => return .failure (ioError e).message

/-! ## Commands -/

def perform : CommandLine.Command → Async CommandLine.Outcome
  | .probe request => return .ofReport (← probe request)
  | .validate path => return .ofSettings path (← loadSettings path)
  | .display false api => return .ofStatus (← fetch api)
  | .display true api => do
    watch api (← IO.asTask awaitQuit)
    return {}
  | .run config listen => do
    let loaded ← config.mapM fun path => loadSettings path
    match Control.Daemon.settingsOf loaded listen with
    | .error e => return .failure (Control.Daemon.loadFailure (config.getD "") e)
    | .ok settings => runDaemon settings

def report (o : CommandLine.Outcome) : IO UInt32 := do
  log o.log
  o.output.forM fun line => IO.println line
  unless o.complaint.isEmpty do IO.eprintln o.complaint
  return UInt32.ofNat o.exit

end SocksMonitor.Outside

open SocksMonitor in
def main (args : List String) : IO UInt32 := do
  match CommandLine.readCommand args with
  | .error halt => Outside.report halt.outcome
  | .ok command => Outside.report (← (Outside.perform command).block)
