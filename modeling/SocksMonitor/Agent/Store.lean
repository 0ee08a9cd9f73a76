import SocksMonitor.Agent.Snapshot

/-!
# The store

The daemon's shared state is one snapshot that changes by the operations below, one at a time. The
start time is set on the first entry into the active phase and dropped on return to the inactive
one; `reset` keeps or drops phase and start time together.
-/

namespace SocksMonitor.Agent

structure InvalidMove where
  source : Phase
  target : Phase
deriving Repr, DecidableEq

def InvalidMove.message (m : InvalidMove) : String :=
  "invalid agent state transition: " ++ m.source.name ++ " -> " ++ m.target.name

inductive Operation where
  | setPhase (target : Phase)
  | appendWarning (text : String)
  | clearWarnings
  | updateTun (record : TunRecord)
  | updateRoutes (record : RouteRecord)
  | updateTunnel (record : TunnelRecord)
  | updateProbe (summary : Probing.Summary)
  | reset (clearLifecycle : Bool)
  | read
deriving DecidableEq

namespace Snapshot

/-- The start time after entering a phase at the time `now`. -/
def startOnEntry (s : Snapshot) (target : Phase) (now : Time.Timestamp) : Option Time.Timestamp :=
  match target, s.startedAt with
  | .active, none => some now
  | .inactive, _ => none
  | _, start => start

/-- Moves the lifecycle. Staying in a phase succeeds without effect. -/
def setPhase (s : Snapshot) (target : Phase) (now : Time.Timestamp) : Except InvalidMove Snapshot :=
  if s.phase = target then .ok s
  else if s.phase.canMoveTo target then
    .ok { s with phase := target, startedAt := s.startOnEntry target now }
  else .error ⟨s.phase, target⟩

/-- Adds a warning; an empty one is passed over. -/
def appendWarning (s : Snapshot) (text : String) : Snapshot :=
  if text.isEmpty then s else { s with warnings := s.warnings ++ [text] }

/-- Drops warnings and subsystem records, and with `clearLifecycle` phase and start time too. -/
def reset (s : Snapshot) (clearLifecycle : Bool) : Snapshot :=
  if clearLifecycle then {} else { phase := s.phase, startedAt := s.startedAt }

/-- The nanoseconds since the start, zero if there was none or if it lies ahead. -/
def uptimeNanos (s : Snapshot) (now : Time.Timestamp) : Nat :=
  match s.startedAt with
  | some start => (now.nanosSince start).toNat
  | none => 0

/-- Does one operation at the time `now`: the snapshot after it, and the refusal if it was one. -/
def apply (s : Snapshot) (now : Time.Timestamp) : Operation → Snapshot × Option InvalidMove
  | .setPhase target =>
    match s.setPhase target now with
    | .ok moved => (moved, none)
    | .error refusal => (s, some refusal)
  | .appendWarning text => (s.appendWarning text, none)
  | .clearWarnings => ({ s with warnings := [] }, none)
  | .updateTun record => ({ s with tun := record }, none)
  | .updateRoutes record => ({ s with routes := record }, none)
  | .updateTunnel record => ({ s with tunnel := record }, none)
  | .updateProbe summary => ({ s with lastProbe := summary }, none)
  | .reset clearLifecycle => (s.reset clearLifecycle, none)
  | .read => (s, none)

/-- Does operations one after another, each with its reading of the clock. -/
def applyAll (s : Snapshot) (history : List (Time.Timestamp × Operation)) : Snapshot :=
  history.foldl (fun s step => (s.apply step.1 step.2).1) s

theorem apply_setPhase (s : Snapshot) (now : Time.Timestamp) (target : Phase) :
    s.apply now (.setPhase target) =
      if s.phase = target then (s, none)
      else if s.phase.canMoveTo target then
        ({ s with phase := target, startedAt := s.startOnEntry target now }, none)
      else (s, some ⟨s.phase, target⟩) := by
  simp only [apply, setPhase]
  by_cases hsame : s.phase = target
  · rw [if_pos hsame, if_pos hsame]
  · rw [if_neg hsame, if_neg hsame]
    cases s.phase.canMoveTo target <;> rfl

theorem applyAll_append (s : Snapshot) (history later : List (Time.Timestamp × Operation)) :
    s.applyAll (history ++ later) = (s.applyAll history).applyAll later :=
  List.foldl_append

theorem applyAll_concat (s : Snapshot) (history : List (Time.Timestamp × Operation))
    (now : Time.Timestamp) (op : Operation) :
    s.applyAll (history ++ [(now, op)]) = ((s.applyAll history).apply now op).1 :=
  applyAll_append s history [(now, op)]

end Snapshot

/-- What is done to a store, in order, each operation with its reading of the clock. -/
abbrev History := List (Time.Timestamp × Operation)

end SocksMonitor.Agent
