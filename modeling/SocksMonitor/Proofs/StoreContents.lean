import Mathlib.Data.List.DropRight
import SocksMonitor.Agent.Store

/-!
# What the store holds

The store after a history, told from the history alone. Every field has operations of its own, and
what it holds follows from these and the resets among them: the warnings are those appended since
they were last dropped, each record is the one that was put there last, and phase and start time are
those of the lifecycle operations. Callers may come in any order: a history is the order in which
they came.

A record is only ever replaced as a whole. `Register` is a field of this kind, and
`Register.get_applyAll` the one induction for all four of them; `history_kept` puts the fields
together.
-/

namespace SocksMonitor.Agent

open Time (Timestamp)

/-! ## The operations of each field -/

namespace Operation

def isReset : Operation → Bool
  | reset _ => true
  | _ => false

/-- Whether an operation drops the warnings. -/
def dropsWarnings : Operation → Bool
  | clearWarnings | reset _ => true
  | _ => false

/-- Whether an operation can make a difference to phase and start time. -/
def isLifecycle : Operation → Bool
  | setPhase _ | reset true => true
  | _ => false

/-- The warning that an operation adds. -/
def warning? : Operation → Option String
  | appendWarning text => if text = "" then none else some text
  | _ => none

def tun? : Operation → Option TunRecord
  | updateTun record => some record
  | _ => none

def routes? : Operation → Option RouteRecord
  | updateRoutes record => some record
  | _ => none

def tunnel? : Operation → Option TunnelRecord
  | updateTunnel record => some record
  | _ => none

def probe? : Operation → Option Probing.Summary
  | updateProbe summary => some summary
  | _ => none

end Operation

namespace History

variable {α : Type}

/-- The operations behind the last one that `stops`; all of them if none does. -/
def since (stops : Operation → Bool) (history : History) : List Operation :=
  (history.map Prod.snd).rtakeWhile fun op => !stops op

/-- What the operations since the last reset have put in a place, the last of them winning. -/
def latest? (put? : Operation → Option α) (history : History) : Option α :=
  ((history.since Operation.isReset).filterMap put?).getLast?

theorem since_concat (stops : Operation → Bool) (history : History) (now : Timestamp)
    (op : Operation) :
    since stops (history ++ [(now, op)]) =
      if stops op then [] else since stops history ++ [op] := by
  rw [since, List.map_append, List.map_singleton, List.rtakeWhile_concat]
  cases stops op <;> rfl

theorem latest?_concat (put? : Operation → Option α) (history : History) (now : Timestamp)
    (op : Operation) :
    latest? put? (history ++ [(now, op)]) =
      if op.isReset then none else (put? op).or (latest? put? history) := by
  rw [latest?, since_concat]
  cases op.isReset with
  | true => rfl
  | false =>
      simp only [Bool.false_eq_true, if_false, List.filterMap_append]
      cases hput : put? op with
      | none => simp [hput, latest?]
      | some a => simp [hput]

end History

/-! ## One operation -/

namespace Snapshot

/-- What an operation makes of each field. Phase and start time are a matter of their own. -/
theorem apply_eq (s : Snapshot) (now : Timestamp) (op : Operation) :
    (s.apply now op).1 =
      { phase := (s.apply now op).1.phase
        startedAt := (s.apply now op).1.startedAt
        warnings := if op.dropsWarnings then [] else s.warnings ++ op.warning?.toList
        tun := if op.isReset then {} else op.tun?.getD s.tun
        routes := if op.isReset then {} else op.routes?.getD s.routes
        tunnel := if op.isReset then {} else op.tunnel?.getD s.tunnel
        lastProbe := if op.isReset then {} else op.probe?.getD s.lastProbe } := by
  -- an operation without a warning adds an empty list of them
  have hadded : s.warnings ++ (none : Option String).toList = s.warnings := List.append_nil _
  cases op with
  | setPhase target =>
      rw [apply_setPhase]
      simp only [Operation.dropsWarnings, Operation.warning?, Bool.false_eq_true, if_false, hadded]
      split
      · rfl
      · split <;> rfl
  | appendWarning text =>
      simp only [apply, appendWarning, Operation.dropsWarnings, Operation.warning?,
        String.isEmpty_iff, Bool.false_eq_true, if_false]
      split
      · simp only [hadded]
        rfl
      · rfl
  | reset clearLifecycle => cases clearLifecycle <;> rfl
  | clearWarnings => rfl
  | updateTun | updateRoutes | updateTunnel | updateProbe | read =>
      simp only [Operation.dropsWarnings, Operation.warning?, Bool.false_eq_true, if_false, hadded]
      rfl

/-- Phase and start time. -/
def lifecycle (s : Snapshot) : Phase × Option Timestamp := (s.phase, s.startedAt)

theorem lifecycle_apply_congr {s s' : Snapshot} (h : s.lifecycle = s'.lifecycle)
    (now : Timestamp) (op : Operation) :
    (s.apply now op).1.lifecycle = (s'.apply now op).1.lifecycle := by
  obtain ⟨hphase, hstart⟩ := Prod.mk.injEq .. |>.mp h
  cases op with
  | setPhase target =>
      simp only [apply_setPhase, startOnEntry, hphase, hstart]
      split
      · exact h
      · split
        · rfl
        · exact h
  | appendWarning text =>
      simp only [apply, appendWarning]
      split <;> exact h
  | reset clearLifecycle =>
      cases clearLifecycle with
      | true => rfl
      | false => exact h
  | clearWarnings | updateTun | updateRoutes | updateTunnel | updateProbe | read => exact h

theorem lifecycle_apply_of_not {op : Operation} (hother : op.isLifecycle = false) (s : Snapshot)
    (now : Timestamp) : (s.apply now op).1.lifecycle = s.lifecycle := by
  cases op with
  | setPhase target => cases hother
  | appendWarning text =>
      simp only [apply, appendWarning]
      split <;> rfl
  | reset clearLifecycle =>
      cases clearLifecycle with
      | true => cases hother
      | false => rfl
  | clearWarnings | updateTun | updateRoutes | updateTunnel | updateProbe | read => rfl

end Snapshot

/-! ## Fields after a history -/

/-- A field of the snapshot that holds what was put there last. -/
structure Register (α : Type) where
  get : Snapshot → α
  put? : Operation → Option α
  get_apply : ∀ s now op, get (Snapshot.apply s now op).1 =
    if op.isReset then get {} else (put? op).getD (get s)

namespace Register

def tun : Register TunRecord where
  get := Snapshot.tun
  put? := Operation.tun?
  get_apply s now op := congrArg Snapshot.tun (s.apply_eq now op)

def routes : Register RouteRecord where
  get := Snapshot.routes
  put? := Operation.routes?
  get_apply s now op := congrArg Snapshot.routes (s.apply_eq now op)

def tunnel : Register TunnelRecord where
  get := Snapshot.tunnel
  put? := Operation.tunnel?
  get_apply s now op := congrArg Snapshot.tunnel (s.apply_eq now op)

def lastProbe : Register Probing.Summary where
  get := Snapshot.lastProbe
  put? := Operation.probe?
  get_apply s now op := congrArg Snapshot.lastProbe (s.apply_eq now op)

variable {α : Type} (r : Register α)

/-- A register holds what was put there last since the last reset. -/
theorem get_applyAll (history : History) :
    r.get (Snapshot.applyAll {} history) = (history.latest? r.put?).getD (r.get {}) := by
  induction history using List.reverseRecOn with
  | nil => rfl
  | append_singleton history step ih =>
      obtain ⟨now, op⟩ := step
      rw [Snapshot.applyAll_concat, r.get_apply, History.latest?_concat, ih]
      cases op.isReset with
      | true => rfl
      | false => cases r.put? op <;> rfl

/-- Operations that put nothing into a register leave it alone, resets apart. -/
theorem get_apply_of_none {s : Snapshot} {op : Operation} (hreset : op.isReset = false)
    (hput : r.put? op = none) (now : Timestamp) : r.get (s.apply now op).1 = r.get s := by
  rw [r.get_apply, hreset, hput]
  rfl

end Register

/-- The warnings are those appended since they were last dropped. -/
theorem warnings_applyAll (history : History) :
    (Snapshot.applyAll {} history).warnings =
      (history.since Operation.dropsWarnings).filterMap Operation.warning? := by
  induction history using List.reverseRecOn with
  | nil => rfl
  | append_singleton history step ih =>
      obtain ⟨now, op⟩ := step
      rw [Snapshot.applyAll_concat, Snapshot.apply_eq, History.since_concat, ih]
      cases op.dropsWarnings with
      | true => rfl
      | false =>
          simp only [Bool.false_eq_true, if_false, List.filterMap_append]
          cases hwarning : op.warning? <;> simp [hwarning]

/-- Phase and start time are those of the lifecycle operations alone. -/
theorem lifecycle_applyAll (history : History) :
    (Snapshot.applyAll {} history).lifecycle =
      (Snapshot.applyAll {} (history.filter fun step => step.2.isLifecycle)).lifecycle := by
  induction history using List.reverseRecOn with
  | nil => rfl
  | append_singleton history step ih =>
      obtain ⟨now, op⟩ := step
      rw [Snapshot.applyAll_concat, List.filter_append]
      cases hop : op.isLifecycle with
      | true =>
          rw [List.filter_singleton, hop, cond_true, Snapshot.applyAll_concat]
          exact Snapshot.lifecycle_apply_congr ih now op
      | false =>
          rw [List.filter_singleton, hop, cond_false, List.append_nil]
          exact (Snapshot.lifecycle_apply_of_not hop _ now).trans ih

/-! ## The store after a history -/

/-- An operation has left the fields alone that are not its own. -/
structure Undisturbed (op : Operation) (s s' : Snapshot) : Prop where
  lifecycle : op.isLifecycle = false → s'.phase = s.phase ∧ s'.startedAt = s.startedAt
  warnings : op.dropsWarnings = false → op.warning? = none → s'.warnings = s.warnings
  tun : op.isReset = false → op.tun? = none → s'.tun = s.tun
  routes : op.isReset = false → op.routes? = none → s'.routes = s.routes
  tunnel : op.isReset = false → op.tunnel? = none → s'.tunnel = s.tunnel
  lastProbe : op.isReset = false → op.probe? = none → s'.lastProbe = s.lastProbe

theorem undisturbed_apply (s : Snapshot) (now : Timestamp) (op : Operation) :
    Undisturbed op s (s.apply now op).1 where
  lifecycle hother := Prod.mk.injEq .. |>.mp (Snapshot.lifecycle_apply_of_not hother s now)
  warnings hdrops hwarning := by
    rw [Snapshot.apply_eq, hdrops, hwarning]
    exact List.append_nil _
  tun hreset hput := Register.tun.get_apply_of_none hreset hput now
  routes hreset hput := Register.routes.get_apply_of_none hreset hput now
  tunnel hreset hput := Register.tunnel.get_apply_of_none hreset hput now
  lastProbe hreset hput := Register.lastProbe.get_apply_of_none hreset hput now

/-- The store holds what its history says, field by field. -/
structure History.Kept (history : History) (s : Snapshot) : Prop where
  lifecycle : s.lifecycle =
    (Snapshot.applyAll {} (history.filter fun step => step.2.isLifecycle)).lifecycle
  warnings : s.warnings = (history.since Operation.dropsWarnings).filterMap Operation.warning?
  tun : s.tun = (history.latest? Operation.tun?).getD {}
  routes : s.routes = (history.latest? Operation.routes?).getD {}
  tunnel : s.tunnel = (history.latest? Operation.tunnel?).getD {}
  lastProbe : s.lastProbe = (history.latest? Operation.probe?).getD {}
  undisturbed : ∀ now op, Undisturbed op s (s.apply now op).1
  /-- After a full reset the store is as good as new. -/
  renewed : ∀ now later,
    Snapshot.applyAll {} (history ++ (now, .reset true) :: later) = Snapshot.applyAll {} later
  /-- Any other reset differs from a full one in phase and start time alone. -/
  emptied : ∀ now,
    Snapshot.applyAll {} (history ++ [(now, .reset false)]) =
      { Snapshot.applyAll {} (history ++ [(now, .reset true)]) with
        phase := s.phase, startedAt := s.startedAt }

/-- **The store loses, duplicates and mixes nothing**: after every history of a new store, in
whatever order its callers came, each field follows from the operations on it. -/
theorem history_kept (history : History) : history.Kept (Snapshot.applyAll {} history) where
  lifecycle := lifecycle_applyAll history
  warnings := warnings_applyAll history
  tun := Register.tun.get_applyAll history
  routes := Register.routes.get_applyAll history
  tunnel := Register.tunnel.get_applyAll history
  lastProbe := Register.lastProbe.get_applyAll history
  undisturbed := undisturbed_apply _
  renewed now later := by
    rw [Snapshot.applyAll_append]
    rfl
  emptied now := by
    rw [Snapshot.applyAll_concat, Snapshot.applyAll_concat]
    rfl

end SocksMonitor.Agent
