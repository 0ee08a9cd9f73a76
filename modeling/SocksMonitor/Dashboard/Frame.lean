import SocksMonitor.Agent.Snapshot
import SocksMonitor.Dashboard.Canvas
import SocksMonitor.Probing.Failure
import SocksMonitor.Text.Split
import SocksMonitor.Time.Rfc3339

/-!
# The dashboard

One frame of the dashboard: three blocks above each other for the state of the agent, its last probe
and all warnings. Without a status there is only a line that says so. Every character takes one
column, and control characters are left out.
-/

namespace SocksMonitor.Dashboard

open Agent (StatusReport)
open Probing (Step Summary)

def isControl (c : Char) : Bool := c.toNat < 0x20 || (0x7F ≤ c.toNat && c.toNat ≤ 0x9F)

/-- The characters of a text that can be shown. -/
def shown (s : String) : Row := s.toList.filter fun c => !isControl c

/-! ## Status -/

def statusLine (r : StatusReport) : String :=
  let tun := r.snapshot.tun
  "State: " ++ r.snapshot.phase.name ++ " | Uptime: " ++ Numeral.decimalText r.uptimeSec.toNat ++
    "s | TUN: " ++ (if tun.name.isEmpty then "-" else tun.name) ++
    " (" ++ (if tun.up then "up" else "down") ++ ") | tun2socks pid: " ++
    Numeral.decimalText r.snapshot.tunnel.pid.toNat

/-! ## Last probe -/

/-- The columns at which the second and the third cell of a table row begin, and the one behind the
third: two, three and four fifths of the width to the nearest column, each after the gaps of one
column in front of it. -/
def columns (width : Nat) : Nat × Nat × Nat :=
  let share (tenths : Nat) := (tenths * width + 5) / 10
  (share 4 + 1, share 6 + 2, share 8 + 2)

/-- A table row of three cells, each cut to its column. -/
def tableRow (width : Nat) (first second third : Row) : Row :=
  let (b, c, stop) := columns width
  fit width (fit (b - 1) first ++ ' ' :: fit (c - 1 - b) second ++ ' ' :: fit (stop - c) third)

def succeeded (s : Summary) : Step → Bool
  | .tcpConnect => s.reachable
  | .socksHandshake => s.socksOk
  | .connect => s.connectOk
  | .udpAssociate => s.udpOk

def stepTitle : Step → String
  | .tcpConnect => "TCP connect"
  | .socksHandshake => "SOCKS handshake"
  | .connect => "CONNECT"
  | .udpAssociate => "UDP ASSOCIATE"

def latencyText (s : Summary) (step : Step) : String :=
  match s.latencies.get? step.key with
  | some ms => Numeral.decimalText ms.toNat ++ " ms"
  | none => "-"

def stepRow (width : Nat) (s : Summary) (step : Step) : Row :=
  tableRow width (shown (stepTitle step)) (shown (if succeeded s step then "ok" else "fail"))
    (shown (latencyText s step))

def probeRows (width : Nat) (s : Summary) : List Row :=
  tableRow width (shown "Step") (shown "Result") (shown "Latency") ::
    [Step.tcpConnect, .socksHandshake, .connect, .udpAssociate].map (stepRow width s)

/-- The title of the probe's block, with the time of the probe. -/
def probeTitle (s : Summary) : String :=
  let time := match s.lastChecked with
    | some t => String.ofList t.offsetText
    | none => "never"
  "Last probe (" ++ time ++ ")"

/-! ## Warnings -/

/-- The lines of all warnings, those of the agent first. -/
def warningLines (r : StatusReport) : List Row :=
  match r.snapshot.warnings ++ r.snapshot.lastProbe.warnings with
  | [] => [shown "none"]
  | warnings =>
    warnings.flatMap fun w => (Text.splitAll '\n' w.toList).map fun l => shown (String.ofList l)

/-! ## The frame -/

/-- The heights of the three blocks on a screen. The upper ones are served first. -/
def heights (rows : Nat) : Nat × Nat × Nat :=
  (min 3 rows, min 8 (rows - 3), rows - 11)

def frame (rows cols : Nat) (status : Option StatusReport) : List Row :=
  let (top, middle, bottom) := heights rows
  fitRows cols rows <|
    match status with
    | none => [shown "Connecting to daemon API..."]
    | some r =>
      let probe := r.snapshot.lastProbe
      block cols top (shown "Status") [shown (statusLine r)] ++
        block cols middle (shown (probeTitle probe)) (probeRows (cols - 2) probe) ++
        block cols bottom (shown "Warnings") (warningLines r)

theorem length_frame (rows cols : Nat) (status : Option StatusReport) :
    (frame rows cols status).length = rows := length_fitRows ..

theorem length_of_mem_frame {rows cols : Nat} {status : Option StatusReport} {row : Row}
    (h : row ∈ frame rows cols status) : row.length = cols := length_of_mem_fitRows h

end SocksMonitor.Dashboard
