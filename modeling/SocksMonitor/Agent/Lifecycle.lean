/-!
# Lifecycle of the agent

The phases of the daemon and the table of moves between them:

```text
inactive -> starting | active
starting -> active | error | inactive
active   -> degraded | stopping | error
degraded -> active | stopping | error
stopping -> inactive | error
error    -> inactive | starting
```

Staying in a phase is no move. `Agent/Store.lean` couples the phase with the start time.
-/

namespace SocksMonitor.Agent

inductive Phase where
  | inactive
  | starting
  | active
  | degraded
  | stopping
  | error
deriving Repr, DecidableEq, Inhabited

namespace Phase

/-- All phases, in the order of the lifecycle. -/
def all : List Phase := [inactive, starting, active, degraded, stopping, error]

def name : Phase → String
  | inactive => "inactive"
  | starting => "starting"
  | active => "active"
  | degraded => "degraded"
  | stopping => "stopping"
  | error => "error"

/-- The phase of a name, case-sensitively. -/
def ofName? (name : String) : Option Phase := all.find? fun phase => phase.name == name

def successors : Phase → List Phase
  | inactive => [starting, active]
  | starting => [active, error, inactive]
  | active => [degraded, stopping, error]
  | degraded => [active, stopping, error]
  | stopping => [inactive, error]
  | error => [inactive, starting]

/-- Whether the table has the move. -/
def canMoveTo (source target : Phase) : Bool := source.successors.contains target

theorem ofName?_name (phase : Phase) : ofName? phase.name = some phase := by
  cases phase <;> decide

theorem canMoveTo_self (phase : Phase) : phase.canMoveTo phase = false := by
  cases phase <;> rfl

end Phase

end SocksMonitor.Agent
