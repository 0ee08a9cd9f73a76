import SocksMonitor.Agent.Store
import SocksMonitor.Control.Bodies
import SocksMonitor.Control.Exchange
import SocksMonitor.Probing.Engine

/-!
# Routes of the control plane

`handle` answers one request: it finds the route by its path, checks the method, accepts the body
and does the work. The only route that changes the store is the probe route, which keeps the summary
of every run that it has admitted, successful or not.
-/

namespace SocksMonitor.Control

open Agent (Snapshot)
open Probing (Dial Report Signal Timing)

/-! ## Routes and methods -/

inductive Route where
  | health
  | status
  | probe
  | start
  | stop
deriving Repr, DecidableEq

namespace Route

def all : List Route := [health, status, probe, start, stop]

def path : Route → String
  | health => "/v1/healthz"
  | status => "/v1/status"
  | probe => "/v1/probe"
  | start => "/v1/start"
  | stop => "/v1/stop"

/-- The route of a path, which has to be exactly the same. -/
def ofPath? (path : String) : Option Route := all.find? fun route => route.path == path

def methods : Route → List String
  | health | status => ["GET", "HEAD"]
  | probe | start | stop => ["POST"]

/-- Whether the body of a request matters to a route. -/
def readsBody : Route → Bool
  | health | status => false
  | probe | start | stop => true

theorem ofPath?_eq_some_iff {path : String} {route : Route} :
    ofPath? path = some route ↔ path = route.path := by
  constructor
  · intro h
    have hpath := List.find?_some h
    exact (beq_iff_eq.mp hpath).symm
  · rintro rfl
    cases route <;> decide

end Route

def bodyLimit : Nat := 2097152

/-! ## Answers -/

/-- What a request meets: the time, the shutdown signal, and the network with its timing. -/
structure Surroundings where
  now : Time.Timestamp
  signal : Signal
  timing : Timing
  dial : Dial

/-- What comes of a request: the response, the store after it, and the report of the probe if one
was run. -/
structure Turn where
  response : Response
  store : Snapshot
  report : Option Report := none

def Turn.only (store : Snapshot) (response : Response) : Turn := { response, store }

def probeResponse (now : Time.Timestamp) (report : Report) : Response :=
  match report.result with
  | .ok () => .success report.summary.toJson
  | .error failure =>
    let status := match failure.kind with
      | .input => Status.badRequest
      | .transport | .protocol => Status.badGateway
    .failure status now ("probe failed: " ++ failure.message)

def Route.serve (route : Route) (env : Surroundings) (store : Snapshot) (body : Bytes) : Turn :=
  match route with
  | .probe =>
    match ProbeBody.accept body with
    | .error text => .only store (.failure .badRequest env.now text)
    | .ok request =>
      let report := request.run env.signal env.timing env.dial
      { response := probeResponse env.now report
        store := (store.apply env.now (.updateProbe report.summary)).1
        report := some report }
  | .start =>
    match StartBody.accept body with
    | .error text => .only store (.failure .badRequest env.now text)
    | .ok _ => .only store (.failure .notImplemented env.now "start not implemented yet")
  | .stop =>
    match StopBody.accept body with
    | .error text => .only store (.failure .badRequest env.now text)
    | .ok () => .only store (.failure .notImplemented env.now "stop not implemented yet")
  | .health =>
    .only store (.success (.record [("status", .text "ok"), ("timestamp", .time env.now)]))
  | .status => .only store (.success (store.report env.now).toJson)

def tooLarge : Response :=
  { status := .contentTooLarge
    content := .text "Failed to buffer the request body: length limit exceeded" }

/-- Reads the body and does the work, for a method that the route takes. Routes that need no body
look at none. -/
def Route.answer (route : Route) (env : Surroundings) (store : Snapshot) (body : Bytes) : Turn :=
  if route.readsBody ∧ bodyLimit < body.length then .only store tooLarge
  else route.serve env store body

/-- The probe that a request leads to, if it leads to one. -/
def Request.probe? (request : Request) : Option Probing.ProbeRequest :=
  if Route.ofPath? request.path = some .probe ∧ Route.probe.methods.contains request.method ∧
      request.body.length ≤ bodyLimit then
    (ProbeBody.accept request.body).toOption
  else none

def handle (env : Surroundings) (store : Snapshot) (request : Request) : Turn :=
  let turn : Turn :=
    match Route.ofPath? request.path with
    | none => .only store (.failure .notFound env.now "not found")
    | some route =>
      if route.methods.contains request.method then route.answer env store request.body
      else .only store { Response.failure .methodNotAllowed env.now "method not allowed" with
          allow := some (",".intercalate route.methods) }
  { turn with response := { turn.response with headOnly := request.method == "HEAD" } }

section Answers

variable {env : Surroundings} {store : Snapshot} {request : Request}

theorem headOnly_answer (route : Route) (body : Bytes) :
    (route.answer env store body).response.headOnly = false := by
  unfold Route.answer
  split
  · rfl
  cases route with
  | health | status => rfl
  | probe =>
    simp only [Route.serve]
    split
    · rfl
    · simp only [probeResponse]
      split <;> rfl
  | start =>
    simp only [Route.serve]
    split <;> rfl
  | stop =>
    simp only [Route.serve]
    split <;> rfl

/-- A request with a path and a method of a route is answered by the route. -/
theorem handle_of_route (route : Route) (hpath : request.path = route.path)
    (hmethod : route.methods.contains request.method = true) (hhead : request.method ≠ "HEAD") :
    handle env store request = route.answer env store request.body := by
  have hhead' : (request.method == "HEAD") = false := beq_eq_false_iff_ne.mpr hhead
  -- `handle` overwrites the flag, here with the value that it has already
  have hwhole : (route.answer env store request.body).response.headOnly = false :=
    headOnly_answer route request.body
  simp only [handle, Route.ofPath?_eq_some_iff.mpr hpath, hmethod, if_true, hhead', ← hwhole]

theorem handle_status (hpath : request.path = "/v1/status") (hmethod : request.method = "GET") :
    handle env store request = .only store (.success (store.report env.now).toJson) :=
  handle_of_route .status hpath (by rw [hmethod]; rfl) (by rw [hmethod]; decide)

end Answers

end SocksMonitor.Control
