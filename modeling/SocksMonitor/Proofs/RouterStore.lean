import Mathlib.Data.List.Induction
import SocksMonitor.Proofs.RecordText

/-!
# The store behind the control plane

A router with a new store goes through requests and through settings of its shutdown channel. Its
store can be told from them: of all fields only the last probe ever changes, and it is the summary
of the last probe request that was let in (`Admits`), whatever came of the run.

`probe?_eq_some_iff` says which requests are let in, and `handle_of_probe?` and
`store_handle_of_none` what they and all others do to the store. What holds after any sequence of
events is collected in `Faithful`, together with what the router reports of its store.
-/

namespace SocksMonitor.Control

open Agent (Snapshot)
open Probing (Dial Report Signal Timing)

/-! ## Routers -/

/-- The setting of a channel by its sender; once the sender is gone nobody can set it. -/
def setChannel (value : Bool) : Signal → Signal
  | .channel _ true => .channel value true
  | signal => signal

/-- A channel that has lost its sender keeps its value. -/
def dropSender : Signal → Signal
  | .channel value _ => .channel value false
  | .absent => .absent

/-- What the outside world has ready for a request: the time, and the network with its timing. -/
structure World where
  now : Time.Timestamp
  timing : Timing
  dial : Dial

/-- A router: its store and the shutdown channel that it watches. -/
structure Router where
  store : Snapshot := {}
  shutdown : Signal := .channel false true

/-- What happens to a router. -/
inductive Event where
  | request (world : World) (request : Request)
  | setShutdown (value : Bool)
  | dropShutdown

namespace Router

def answer (router : Router) (world : World) (request : Request) : Turn :=
  handle ⟨world.now, router.shutdown, world.timing, world.dial⟩ router.store request

def next (router : Router) : Event → Router
  | .request world request => { router with store := (router.answer world request).store }
  | .setShutdown value => { router with shutdown := setChannel value router.shutdown }
  | .dropShutdown => { router with shutdown := dropSender router.shutdown }

/-- A router with a new store and an untouched channel, after some events. -/
def after (events : List Event) : Router := events.foldl next {}

end Router

/-! ## Requests for a probe -/

/-- The request is let in and asks for the probe of the body. -/
structure Admits (request : Request) (body : ProbeBody) : Prop where
  method : request.method = "POST"
  path : request.path = "/v1/probe"
  size : request.body.length ≤ 2097152
  json : (Json.read? request.body).bind ProbeBody.ofJson? = some body
  server : body.socksServer ≠ ""
  timeout : 0 ≤ body.timeoutMs

theorem accept_eq_ok_iff {bytes : Bytes} {probe : Probing.ProbeRequest} :
    ProbeBody.accept bytes = .ok probe ↔
      ∃ body, (Json.read? bytes).bind ProbeBody.ofJson? = some body ∧ body.socksServer ≠ ""
        ∧ 0 ≤ body.timeoutMs ∧ probe = body.request := by
  unfold ProbeBody.accept
  cases (Json.read? bytes).bind ProbeBody.ofJson? with
  | none => simp
  | some body =>
      by_cases hserver : body.socksServer = ""
      · simp [hserver]
      by_cases htimeout : body.timeoutMs < 0
      · simp [hserver, htimeout, Int.not_le.mpr htimeout]
      · have hnonneg : 0 ≤ body.timeoutMs := Int.not_lt.mp htimeout
        simp only [String.isEmpty_iff, if_neg hserver, if_neg htimeout, Except.ok.injEq,
          Option.some.injEq]
        constructor
        · rintro rfl
          exact ⟨body, rfl, hserver, hnonneg, rfl⟩
        · rintro ⟨_, rfl, -, -, rfl⟩
          rfl

/-- A request leads to a probe exactly if it is let in. -/
theorem probe?_eq_some_iff {request : Request} {probe : Probing.ProbeRequest} :
    request.probe? = some probe ↔ ∃ body, Admits request body ∧ probe = body.request := by
  unfold Request.probe?
  constructor
  · intro h
    split at h
    · next hroute =>
      obtain ⟨hpath, hmethod, hsize⟩ := hroute
      cases haccept : ProbeBody.accept request.body with
      | error text =>
          rw [haccept] at h
          cases h
      | ok accepted =>
          rw [haccept] at h
          cases h
          obtain ⟨body, hjson, hserver, htimeout, hbody⟩ := accept_eq_ok_iff.mp haccept
          have hroute : request.path = Route.path .probe := Route.ofPath?_eq_some_iff.mp hpath
          refine ⟨body, ⟨?_, hroute, hsize, hjson, hserver, htimeout⟩, hbody⟩
          simpa [Route.methods] using hmethod
    · cases h
  · rintro ⟨body, hadmits, hbody⟩
    have haccept : ProbeBody.accept request.body = .ok probe :=
      accept_eq_ok_iff.mpr ⟨body, hadmits.json, hadmits.server, hadmits.timeout, hbody⟩
    rw [if_pos, haccept]
    · rfl
    · refine ⟨Route.ofPath?_eq_some_iff.mpr hadmits.path, ?_, hadmits.size⟩
      rw [hadmits.method]
      rfl

theorem probe?_eq_none_iff {request : Request} :
    request.probe? = none ↔ ∀ body, ¬ Admits request body := by
  rw [Option.eq_none_iff_forall_ne_some]
  constructor
  · exact fun h body hadmits => h _ (probe?_eq_some_iff.mpr ⟨body, hadmits, rfl⟩)
  · intro h probe hprobe
    obtain ⟨body, hadmits, -⟩ := probe?_eq_some_iff.mp hprobe
    exact h body hadmits

/-! ## One request -/

section Requests

variable {env : Surroundings} {store : Snapshot} {request : Request}

theorem handle_of_probe_route (hpath : request.path = "/v1/probe")
    (hmethod : request.method = "POST") :
    handle env store request =
      if bodyLimit < request.body.length then .only store tooLarge
      else Route.probe.serve env store request.body := by
  rw [handle_of_route .probe hpath (by rw [hmethod]; rfl) (by rw [hmethod]; decide)]
  simp [Route.answer, Route.readsBody]

/-- A request that is let in is answered by its run, whose summary is kept. -/
theorem handle_of_probe? {probe : Probing.ProbeRequest} (hprobe : request.probe? = some probe) :
    let report := probe.run env.signal env.timing env.dial
    (handle env store request).store = { store with lastProbe := report.summary }
      ∧ (handle env store request).response = probeResponse env.now report := by
  intro report
  obtain ⟨body, hadmits, hbody⟩ := probe?_eq_some_iff.mp hprobe
  have haccept : ProbeBody.accept request.body = .ok probe :=
    accept_eq_ok_iff.mpr ⟨body, hadmits.json, hadmits.server, hadmits.timeout, hbody⟩
  have hsize : ¬ bodyLimit < request.body.length := Nat.not_lt.mpr hadmits.size
  rw [handle_of_probe_route hadmits.path hadmits.method, if_neg hsize, Route.serve, haccept]
  exact ⟨rfl, rfl⟩

/-- A probe request that is not let in fails, without a trace in the store. -/
theorem handle_of_refused_probe (hpath : request.path = "/v1/probe")
    (hmethod : request.method = "POST") (hprobe : request.probe? = none) :
    (handle env store request).store = store
      ∧ (handle env store request).response.status ≠ .ok := by
  rw [handle_of_probe_route hpath hmethod]
  split
  · exact ⟨rfl, by simp [Turn.only, tooLarge]⟩
  · next hsize =>
    cases haccept : ProbeBody.accept request.body with
    | error text =>
        rw [Route.serve, haccept]
        exact ⟨rfl, by simp [Turn.only, Response.failure]⟩
    | ok probe =>
        obtain ⟨body, hjson, hserver, htimeout, -⟩ := accept_eq_ok_iff.mp haccept
        exact absurd ⟨hmethod, hpath, Nat.not_lt.mp hsize, hjson, hserver, htimeout⟩
          (probe?_eq_none_iff.mp hprobe body)

/-- No other route touches the store. -/
theorem store_answer_of_ne_probe {route : Route} (hroute : route ≠ .probe) (body : Bytes) :
    (route.answer env store body).store = store := by
  unfold Route.answer
  split
  · rfl
  · cases route with
    | probe => exact absurd rfl hroute
    | health | status => rfl
    | start =>
        simp only [Route.serve]
        split <;> rfl
    | stop =>
        simp only [Route.serve]
        split <;> rfl

/-- All requests that are not let in leave the store alone. -/
theorem store_handle_of_none (hprobe : request.probe? = none) :
    (handle env store request).store = store := by
  by_cases hasked : request.path = "/v1/probe" ∧ request.method = "POST"
  · exact (handle_of_refused_probe hasked.1 hasked.2 hprobe).1
  simp only [handle]
  cases hpath : Route.ofPath? request.path with
  | none => rfl
  | some route =>
      by_cases hmethod : route.methods.contains request.method = true
      · simp only [if_pos hmethod]
        refine store_answer_of_ne_probe ?_ request.body
        rintro rfl
        exact hasked ⟨Route.ofPath?_eq_some_iff.mp hpath, by simpa [Route.methods] using hmethod⟩
      · simp only [if_neg hmethod]
        rfl

theorem status_probeResponse_eq_ok_iff {now : Time.Timestamp} {report : Report} :
    (probeResponse now report).status = .ok ↔ report.result = .ok () := by
  unfold probeResponse
  cases report.result with
  | ok _ => simp [Response.success]
  | error failure => cases hkind : failure.kind <;> simp [Response.failure, hkind]

/-- A success of the probe route carries the summary that is stored with it. -/
theorem body_probeResponse {now : Time.Timestamp} {report : Report}
    (hok : report.result = .ok ()) :
    (probeResponse now report).body = report.summary.toJson.print := by
  simp only [probeResponse, hok]
  rfl

/-- The probe route answers with a success if the run of a request that was let in is one. -/
theorem status_handle_eq_ok_iff (hpath : request.path = "/v1/probe")
    (hmethod : request.method = "POST") :
    (handle env store request).response.status = .ok ↔
      ∃ body, Admits request body
        ∧ (body.request.run env.signal env.timing env.dial).result = .ok () := by
  cases hprobe : request.probe? with
  | none =>
      refine iff_of_false (handle_of_refused_probe hpath hmethod hprobe).2 ?_
      rintro ⟨body, hadmits, -⟩
      exact probe?_eq_none_iff.mp hprobe body hadmits
  | some probe =>
      rw [(handle_of_probe? hprobe).2, status_probeResponse_eq_ok_iff]
      obtain ⟨body, hadmits, rfl⟩ := probe?_eq_some_iff.mp hprobe
      constructor
      · exact fun hok => ⟨body, hadmits, hok⟩
      · rintro ⟨body', hadmits', hok⟩
        rwa [Option.some.inj (hadmits.json.symm.trans hadmits'.json)]

/-- A success of the probe route tells the summary that is stored by then. -/
theorem body_handle_of_ok (hpath : request.path = "/v1/probe") (hmethod : request.method = "POST")
    (hok : (handle env store request).response.status = .ok) :
    (handle env store request).response.body =
      (handle env store request).store.lastProbe.toJson.print := by
  obtain ⟨body, hadmits, hresult⟩ := (status_handle_eq_ok_iff hpath hmethod).mp hok
  obtain ⟨hstore, hresponse⟩ := handle_of_probe? (probe?_eq_some_iff.mpr ⟨body, hadmits, rfl⟩)
  rw [hstore, hresponse, body_probeResponse hresult]

end Requests

/-! ## Sequences of events -/

namespace Router

theorem after_append (before later : List Event) :
    after (before ++ later) = later.foldl next (after before) :=
  List.foldl_append

theorem after_concat (events : List Event) (event : Event) :
    after (events ++ [event]) = (after events).next event :=
  after_append events [event]

/-- Events without a probe leave the store alone. -/
theorem store_foldl_of_quiet (events : List Event) (router : Router)
    (hquiet : ∀ world request body, .request world request ∈ events → ¬ Admits request body) :
    (events.foldl next router).store = router.store := by
  induction events generalizing router with
  | nil => rfl
  | cons event events ih =>
      -- the event may have set the channel, so the others start from another router
      have hlater := ih (router.next event) fun world request body hmem =>
        hquiet world request body (List.mem_cons_of_mem event hmem)
      refine hlater.trans ?_
      cases event with
      | request world request =>
          refine store_handle_of_none (probe?_eq_none_iff.mpr fun body => ?_)
          exact hquiet world request body List.mem_cons_self
      | setShutdown | dropShutdown => rfl

/-- Nothing but the last probe ever differs from a new store. -/
theorem store_after (events : List Event) :
    ∃ summary, (after events).store = { lastProbe := summary } := by
  induction events using List.reverseRecOn with
  | nil => exact ⟨{}, rfl⟩
  | append_singleton events event ih =>
      obtain ⟨summary, hstore⟩ := ih
      rw [after_concat]
      cases event with
      | request world request =>
          cases hprobe : request.probe? with
          | none => exact ⟨summary, (store_handle_of_none hprobe).trans hstore⟩
          | some probe =>
              refine ⟨(probe.run (after events).shutdown world.timing world.dial).summary, ?_⟩
              refine (handle_of_probe? hprobe).1.trans ?_
              rw [hstore]
      | setShutdown | dropShutdown => exact ⟨summary, hstore⟩

end Router

/-- What holds of a router after some events: what its store is, what the next request makes of it,
and what that request is told. -/
structure Faithful (events : List Event) : Prop where
  /-- All fields but the last probe are those of a new store. -/
  others : (Router.after events).store = { lastProbe := (Router.after events).store.lastProbe }
  /-- The last probe is that of the last request that was let in, whatever its result. -/
  probed : ∀ before world request later body,
    events = before ++ .request world request :: later → Admits request body →
    (∀ world' request' body', .request world' request' ∈ later → ¬ Admits request' body') →
      (Router.after events).store.lastProbe =
        (body.request.run (Router.after before).shutdown world.timing world.dial).summary
  unprobed : (∀ world request body, .request world request ∈ events → ¬ Admits request body) →
    (Router.after events).store.lastProbe = {}
  untouched : ∀ world request, (∀ body, ¬ Admits request body) →
    ((Router.after events).answer world request).store = (Router.after events).store
  /-- The probe route succeeds with the run of a request that is let in. -/
  success : ∀ world request, request.method = "POST" → request.path = "/v1/probe" →
    let router := Router.after events
    ((router.answer world request).response.status = .ok ↔ ∃ body, Admits request body
      ∧ (body.request.run router.shutdown world.timing world.dial).result = .ok ())
  /-- A success tells the summary that is stored by then: its text is that of the summary, and
  reading it gives the summary back. -/
  told : ∀ world request, request.method = "POST" → request.path = "/v1/probe" →
    let turn := (Router.after events).answer world request
    turn.response.status = .ok →
      turn.response.body = turn.store.lastProbe.toJson.print
        ∧ reread? (Probing.Summary.ofJson? false) turn.response.body = some turn.store.lastProbe
  /-- The status route tells the store. Its client reads the snapshot, the uptime, which is zero
  as no agent is up, and the time. -/
  status : ∀ world request, request.method = "GET" → request.path = "/v1/status" →
    let router := Router.after events
    let turn := router.answer world request
    turn.response.status = .ok
      ∧ turn.response.body = (Json.record (router.store.fields ++
        [("uptime_sec", .nat 0), ("generated_at", .time world.now)])).print
      ∧ CommandLine.statusOf turn.response.status.code turn.response.body =
        .ok ⟨router.store, 0, world.now⟩

/-- **The control plane changes nothing but the last probe, and reports what it has stored**, after
every sequence of requests and settings of the shutdown channel on a router with a new store. -/
theorem router_faithful (events : List Event) : Faithful events where
  others := by
    obtain ⟨summary, hstore⟩ := Router.store_after events
    rw [hstore]
  probed before world request later body hevents hadmits hquiet := by
    have hprobe := probe?_eq_some_iff.mpr ⟨body, hadmits, rfl⟩
    rw [hevents, Router.after_append, List.foldl_cons, Router.store_foldl_of_quiet later _ hquiet]
    exact congrArg Snapshot.lastProbe (handle_of_probe? hprobe).1
  unprobed hquiet := congrArg Snapshot.lastProbe (Router.store_foldl_of_quiet events {} hquiet)
  untouched world request hrefused := store_handle_of_none (probe?_eq_none_iff.mpr hrefused)
  success world request hmethod hpath := status_handle_eq_ok_iff hpath hmethod
  told world request hmethod hpath := by
    intro turn hok
    have hbody : turn.response.body = turn.store.lastProbe.toJson.print :=
      body_handle_of_ok hpath hmethod hok
    refine ⟨hbody, ?_⟩
    rw [hbody]
    exact (Agent.survives_summary false).back turn.store.lastProbe
  status world request hmethod hpath := by
    intro router turn
    obtain ⟨summary, hstore⟩ : ∃ summary, router.store = { lastProbe := summary } :=
      Router.store_after events
    have hturn : turn = .only router.store (.success (router.store.report world.now).toJson) :=
      handle_status hpath hmethod
    have hreport : router.store.report world.now = ⟨router.store, 0, world.now⟩ := by
      rw [hstore]
      rfl
    refine ⟨?_, ?_, ?_⟩
    · rw [hturn]
      rfl
    · rw [hturn, hreport]
      rfl
    · rw [← hreport]
      exact Agent.statusOf_handle_status hpath hmethod

end SocksMonitor.Control
