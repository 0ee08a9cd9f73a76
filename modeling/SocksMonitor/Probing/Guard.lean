import SocksMonitor.Probing.Engine

/-!
# The guard of a run

Every action of a run is raced against the cancellation signal: the dial, each write and each read.
The signal is looked at before the action is, and again whenever the action is found not done; each
action waits for the signal anew. A `Watch` has the signal at every look that there is, and it may
be another at each of them.

An action that loses the race is cut off by a cancellation, so a guarded run is one of the engine,
with these cuts in front of those that the connection has on its own (`Watch.guarded`).
-/

namespace SocksMonitor.Probing

/-- A wait for the signal, within one action. -/
inductive Wait where
  | listening
  /-- There is no signal, or its sender is gone: nothing ends the wait any more. -/
  | abandoned

/-- One look at the signal: `none` if it ends the wait. The value is looked at first, and counts
also if the sender is gone. -/
def Wait.poll : Wait → Signal → Option Wait
  | abandoned, _ => some abandoned
  | listening, .absent => some abandoned
  | listening, .channel true _ => none
  | listening, .channel false senderAlive => some (if senderAlive then listening else abandoned)

/-- Whether the signal wins over an action that will be found not done `pending` times. It is
looked at first each time. -/
def Wait.race (looks : Nat → Signal) (wait : Wait) (look : Nat) : (pending : Nat) → Bool
  | 0 => (wait.poll (looks look)).isNone
  | pending + 1 =>
    match wait.poll (looks look) with
    | none => true
    | some wait => wait.race looks (look + 1) pending

/-- The signal in the course of a run. Actions are told by their step and their number in it. -/
structure Watch where
  /-- The signal at each look that an action takes. -/
  signal : Step → (action look : Nat) → Signal
  /-- How often an action is found not done. -/
  delay : Step → (action : Nat) → Nat
  /-- How many bytes of a message are out when the signal comes on. -/
  out : Step → (action : Nat) → Nat

namespace Watch

/-- A signal that stays as it is. -/
def steady (signal : Signal) (delay out : Step → Nat → Nat) : Watch :=
  ⟨fun _ _ _ => signal, delay, out⟩

def cancels (watch : Watch) (step : Step) (action : Nat) : Bool :=
  Wait.listening.race (watch.signal step action) 0 (watch.delay step action)

/-- What dialling comes to, and the connection behind it, with every action under the guard. -/
def guarded (watch : Watch) (dial : Dial) : Dial :=
  if watch.cancels .tcpConnect 0 then .failed .cancelled
  else
    match dial with
    | .failed cause => .failed cause
    | .accepted peer cuts =>
      .accepted peer fun step action =>
        if watch.cancels step action then some ⟨.cancelled, watch.out step action⟩
        else cuts step action

end Watch

/-- The run of a request with every action under the guard. Nothing is guarded before there is a
plan. -/
def ProbeRequest.guardedRun (request : ProbeRequest) (watch : Watch) (timing : Timing)
    (dial : Dial) : Report :=
  request.run .absent timing (watch.guarded dial)

end SocksMonitor.Probing
