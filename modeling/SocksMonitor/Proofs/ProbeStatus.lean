import SocksMonitor.Proofs.Consistency
import SocksMonitor.Proofs.RecordParts
import SocksMonitor.Proofs.RouterStore

/-!
# The status of a probe request

The status of an answer is found from the failure of the run, the stored summary is filled in while
the run goes on. This file says that the two agree: a run succeeds exactly if CONNECT has
(`result_run_eq_ok_iff`), and it is refused for an input exactly if it has no latency at all
(`run_refused_iff`). What follows for the probe route is collected in `Declined`, for a body that
asks for no probe, and in `Judged`, for all others.

The main result is `probe_status_agrees`, which holds of every body within the limit, every proxy
and every state of the shutdown channel.
-/

namespace SocksMonitor.Probing

/-! ## Runs without a plan -/

section Runs

variable (request : ProbeRequest) (signal : Signal) (timing : Timing) (dial : Dial)

/-- A run with a plan fails in a step if it fails, and so never for an input. -/
theorem kind_of_run_error {request : ProbeRequest} {plan : Plan} (hplan : request.plan = .ok plan)
    {failure : ProbeFailure} (hfailure : (request.run signal timing dial).result = .error failure) :
    failure.kind ≠ .input := by
  simp only [ProbeRequest.run, hplan] at hfailure
  cases hdial : signal.dial dial with
  | failed cause =>
      rw [hdial] at hfailure
      cases hfailure
      exact ProbeFailure.kind_step_ne_input _ _
  | accepted peer cuts =>
      rw [hdial, run_accepted] at hfailure
      exact kind_of_result_error hfailure

/-- CONNECT is the last step whose failure counts. -/
theorem result_run_eq_ok_iff :
    (request.run signal timing dial).result = .ok () ↔
      (request.run signal timing dial).summary.connectOk = true := by
  unfold ProbeRequest.run
  cases hplan : request.plan with
  | error failure => exact (consistent_refused hplan dial timing.finished).result
  | ok plan => exact (consistent_run hplan timing (signal.dial dial) timing.finished).result

/-- The first latency is that of dialling, which every plan leads to. -/
theorem latencies_run_eq_empty_iff :
    (request.run signal timing dial).summary.latencies = .empty ↔
      ∃ failure, request.plan = .error failure := by
  constructor
  · intro hempty
    cases hplan : request.plan with
    | error failure => exact ⟨failure, rfl⟩
    | ok plan =>
        have hconsistent := consistent_run hplan timing (signal.dial dial) timing.finished
        have htcp := (hconsistent.latencies Step.tcpConnect.key).mpr
          ⟨.tcpConnect, ⟨plan, hplan⟩, rfl⟩
        simp only [ProbeRequest.run, hplan] at hempty
        rw [Report.dated, hempty] at htcp
        exact absurd htcp Latencies.not_mem_names_empty
  · intro hrefused
    obtain ⟨failure, hplan⟩ := hrefused
    rw [run_of_refused hplan]

/-- A run is refused for an input exactly if nothing has been timed. -/
theorem run_refused_iff :
    (∃ failure, (request.run signal timing dial).result = .error failure
        ∧ failure.kind = .input) ↔
      (request.run signal timing dial).summary.latencies = .empty := by
  rw [latencies_run_eq_empty_iff]
  constructor
  · intro hrefused
    obtain ⟨failure, hfailure, hkind⟩ := hrefused
    cases hplan : request.plan with
    | error failure => exact ⟨failure, rfl⟩
    | ok plan => exact absurd hkind (kind_of_run_error signal timing dial hplan hfailure)
  · intro hrefused
    obtain ⟨failure, hplan⟩ := hrefused
    refine ⟨failure, ?_, ProbeRequest.kind_of_plan_error hplan⟩
    rw [run_of_refused hplan]

/-- A signal that is on keeps every run from connecting, to the proxy and through it. -/
theorem unconnected_of_raised (hraised : signal.isRaised = true) :
    (request.run signal timing dial).summary.connectOk = false
      ∧ (request.run signal timing dial).sent = none := by
  cases hplan : request.plan with
  | error failure =>
      rw [run_of_refused hplan]
      exact ⟨rfl, rfl⟩
  | ok plan =>
      rw [run_of_raised hplan hraised]
      exact ⟨rfl, rfl⟩

end Runs

end SocksMonitor.Probing

namespace SocksMonitor.Control

open Agent (Snapshot)
open Probing (Report)

/-! ## Answers -/

/-- A body that asks for no probe: it cannot be read as one, names no proxy, or sets a time limit
below zero. -/
inductive Inadmissible (bytes : Bytes) : Prop where
  | unreadable (hjson : (Json.read? bytes).bind ProbeBody.ofJson? = none)
  | nameless {body : ProbeBody} (hjson : (Json.read? bytes).bind ProbeBody.ofJson? = some body)
      (hserver : body.socksServer = "")
  | negative {body : ProbeBody} (hjson : (Json.read? bytes).bind ProbeBody.ofJson? = some body)
      (htimeout : body.timeoutMs < 0)

/-- A connection was made, and these bytes were sent on it. -/
def Turn.Connected (turn : Turn) : Prop :=
  ∃ report bytes, turn.report = some report ∧ report.sent = some bytes

/-- The answer to a body that asks for no probe. -/
structure Declined (store : Snapshot) (turn : Turn) : Prop where
  status : turn.response.status.code = 400
  store : turn.store = store
  unconnected : ¬ turn.Connected

/-- The answer to a body that asks for a probe, by the summary that is stored with it. -/
structure Judged (env : Surroundings) (store : Snapshot) (probe : Probing.ProbeRequest)
    (turn : Turn) : Prop where
  report : turn.report = some (probe.run env.signal env.timing env.dial)
  store : turn.store =
    { store with lastProbe := (probe.run env.signal env.timing env.dial).summary }
  ok : turn.response.status.code = 200 ↔ turn.store.lastProbe.connectOk = true
  badRequest : turn.response.status.code = 400 ↔ turn.store.lastProbe.latencies = .empty
  badGateway : turn.response.status.code = 502 ↔
    turn.store.lastProbe.connectOk = false ∧ turn.store.lastProbe.latencies ≠ .empty
  /-- Without a latency the inputs were found bad, before any I/O. -/
  refused : turn.store.lastProbe.latencies = .empty ↔ ∃ failure, probe.plan = .error failure
  unconnected : turn.response.status.code = 400 → ¬ turn.Connected

theorem inadmissible_iff {bytes : Bytes} :
    Inadmissible bytes ↔ ∃ text, ProbeBody.accept bytes = .error text := by
  unfold ProbeBody.accept
  constructor
  · intro h
    cases h with
    | unreadable hjson => exact ⟨invalidJson, by rw [hjson]⟩
    | nameless hjson hserver => exact ⟨serverRequired, by simp [hjson, hserver]⟩
    | negative hjson htimeout =>
        simp only [hjson, htimeout, if_true]
        split
        · exact ⟨_, rfl⟩
        · exact ⟨_, rfl⟩
  · intro h
    obtain ⟨text, haccept⟩ := h
    cases hjson : (Json.read? bytes).bind ProbeBody.ofJson? with
    | none => exact .unreadable hjson
    | some body =>
        rw [hjson] at haccept
        by_cases hserver : body.socksServer = ""
        · exact .nameless hjson hserver
        by_cases htimeout : body.timeoutMs < 0
        · exact .negative hjson htimeout
        · simp [hserver, htimeout] at haccept

/-! ## From the run to the status -/

section Status

variable (now : Time.Timestamp) (report : Report)

theorem code_probeResponse_eq_ok_iff :
    (probeResponse now report).status.code = 200 ↔ report.result = .ok () := by
  have hstatus : (probeResponse now report).status = .ok ↔ report.result = .ok () :=
    status_probeResponse_eq_ok_iff
  rw [← hstatus]
  cases (probeResponse now report).status <;> decide

theorem code_probeResponse_eq_badRequest_iff :
    (probeResponse now report).status.code = 400 ↔
      ∃ failure, report.result = .error failure ∧ failure.kind = .input := by
  unfold probeResponse
  cases report.result with
  | ok _ => simp [Response.success, Status.code]
  | error failure => cases hkind : failure.kind <;> simp [Response.failure, Status.code, hkind]

theorem code_probeResponse_eq_badGateway_iff :
    (probeResponse now report).status.code = 502 ↔
      (probeResponse now report).status.code ≠ 200
        ∧ (probeResponse now report).status.code ≠ 400 := by
  unfold probeResponse
  cases report.result with
  | ok _ => simp [Response.success, Status.code]
  | error failure => cases hkind : failure.kind <;> simp [Response.failure, Status.code, hkind]

end Status

/-! ## The probe route -/

section Requests

variable {env : Surroundings} {store : Snapshot} {request : Request}

/-- Within the limit the body alone decides what the probe route does. -/
theorem handle_of_fitting_probe (hmethod : request.method = "POST")
    (hpath : request.path = "/v1/probe") (hsize : request.body.length ≤ 2097152) :
    handle env store request = Route.probe.serve env store request.body := by
  rw [handle_of_probe_route hpath hmethod]
  exact if_neg (Nat.not_lt.mpr hsize)

theorem declined_serve {bytes : Bytes} {text : String}
    (haccept : ProbeBody.accept bytes = .error text) :
    Declined store (Route.probe.serve env store bytes) := by
  simp only [Route.serve, haccept]
  constructor
  case status => rfl
  case store => rfl
  case unconnected =>
    intro hconnected
    obtain ⟨report, bytes, hreport, -⟩ := hconnected
    cases hreport

theorem judged_serve {bytes : Bytes} {probe : Probing.ProbeRequest}
    (haccept : ProbeBody.accept bytes = .ok probe) :
    Judged env store probe (Route.probe.serve env store bytes) := by
  simp only [Route.serve, haccept]
  have hplan := Probing.latencies_run_eq_empty_iff probe env.signal env.timing env.dial
  have hok := code_probeResponse_eq_ok_iff env.now (probe.run env.signal env.timing env.dial)
  rw [Probing.result_run_eq_ok_iff] at hok
  have hbad :=
    code_probeResponse_eq_badRequest_iff env.now (probe.run env.signal env.timing env.dial)
  rw [Probing.run_refused_iff] at hbad
  constructor
  case report => rfl
  case store => rfl
  case ok => exact hok
  case badRequest => exact hbad
  case badGateway =>
    rw [code_probeResponse_eq_badGateway_iff]
    refine and_congr ?_ (not_congr hbad)
    rw [← Bool.not_eq_true]
    exact not_congr hok
  case refused => exact hplan
  case unconnected =>
    intro hcode hconnected
    obtain ⟨failure, hfailure⟩ := hplan.mp (hbad.mp hcode)
    obtain ⟨report, bytes, hreport, hsent⟩ := hconnected
    cases hreport
    rw [Probing.run_of_refused hfailure] at hsent
    cases hsent

/-- While the channel is on, a run that is let in is answered by 400 or 502. -/
theorem Judged.of_raised {probe : Probing.ProbeRequest} {turn : Turn}
    (hjudged : Judged env store probe turn) (hraised : env.signal.isRaised = true) :
    (turn.response.status.code = 400 ∨ turn.response.status.code = 502) ∧ ¬ turn.Connected := by
  obtain ⟨hunconnected, hunsent⟩ :=
    Probing.unconnected_of_raised probe env.signal env.timing env.dial hraised
  constructor
  · by_cases hempty : turn.store.lastProbe.latencies = .empty
    · exact .inl (hjudged.badRequest.mpr hempty)
    · refine .inr (hjudged.badGateway.mpr ⟨?_, hempty⟩)
      rw [hjudged.store]
      exact hunconnected
  · intro hconnected
    obtain ⟨report, bytes, hreport, hsent⟩ := hconnected
    rw [hjudged.report] at hreport
    cases hreport
    rw [hunsent] at hsent
    cases hsent

/-- **The status of a probe request agrees with the stored summary.** A body that asks for no probe
is turned away without a connection or a trace in the store. For any other the summary of its run
is stored, and the status is 200 with `connectOk`, 400 without a latency, and 502 in all other
cases. If the shutdown channel is on, the answer is 400 or 502 and no connection is made. -/
theorem probe_status_agrees (env : Surroundings) (store : Snapshot) (request : Request)
    (hmethod : request.method = "POST") (hpath : request.path = "/v1/probe")
    (hsize : request.body.length ≤ 2097152) :
    let turn := handle env store request
    (Inadmissible request.body → Declined store turn)
      ∧ (¬ Inadmissible request.body →
          ∃ body, (Json.read? request.body).bind ProbeBody.ofJson? = some body
            ∧ Judged env store body.request turn)
      ∧ (env.signal.isRaised = true →
          (turn.response.status.code = 400 ∨ turn.response.status.code = 502)
            ∧ ¬ turn.Connected) := by
  intro turn
  have hturn : turn = Route.probe.serve env store request.body :=
    handle_of_fitting_probe hmethod hpath hsize
  rw [hturn, inadmissible_iff]
  cases haccept : ProbeBody.accept request.body with
  | error text =>
      have hdeclined : Declined store (Route.probe.serve env store request.body) :=
        declined_serve haccept
      refine ⟨fun _ => hdeclined, fun hadmissible => ?_, fun _ => ?_⟩
      · exact absurd ⟨text, rfl⟩ hadmissible
      · exact ⟨.inl hdeclined.status, hdeclined.unconnected⟩
  | ok probe =>
      have hjudged : Judged env store probe (Route.probe.serve env store request.body) :=
        judged_serve haccept
      obtain ⟨body, hjson, -, -, rfl⟩ := accept_eq_ok_iff.mp haccept
      refine ⟨?_, fun _ => ⟨body, hjson, hjudged⟩, hjudged.of_raised⟩
      intro hinadmissible
      obtain ⟨text, htext⟩ := hinadmissible
      cases htext

/-- A proxy grants CONNECT and falls silent: the probe is a success without its UDP step. -/
theorem silent_relay_probe_ok :
    let env : Surroundings := ⟨.epoch, .channel false true, ⟨fun _ => 0, .epoch⟩,
      .accepted ⟨[5, 0, 5, 0, 0, 1, 0, 0, 0, 0, 0, 0], .deadline⟩⟩
    let body :=
      (Json.record [("socks_server", .text "proxy:1080"), ("udp_test", .bool true)]).print
    let turn := handle env {} ⟨"POST", "/v1/probe", body⟩
    body.length ≤ 2097152 ∧ turn.response.status.code = 200
      ∧ turn.store.lastProbe.warnings =
        ["udp associate failed: read reply header: deadline exceeded"] := by
  intro env body turn
  have hsize : body.length ≤ 2097152 := by decide +kernel
  have hread : Json.read? body =
      some (.record [("socks_server", .text "proxy:1080"), ("udp_test", .bool true)]) := by
    refine Json.Plain.read?_print (d := 1) (.record ?_)
    simp [Json.Plain.text, Json.Plain.bool]
  have hjson : (Json.read? body).bind ProbeBody.ofJson? =
      some { socksServer := "proxy:1080", udpTest := true } := by
    rw [hread]
    rfl
  have hadmissible : ¬ Inadmissible body := by
    rw [inadmissible_iff, ProbeBody.accept, hjson]
    intro hrefused
    obtain ⟨text, htext⟩ := hrefused
    cases htext
  have hagrees := probe_status_agrees env {} ⟨"POST", "/v1/probe", body⟩ rfl (by decide) hsize
  obtain ⟨probe, hprobe, hjudged⟩ := hagrees.2.1 hadmissible
  cases hjson.symm.trans hprobe
  have hstored : turn.store = _ := hjudged.store
  refine ⟨hsize, hjudged.ok.mpr ?_, ?_⟩
  · show turn.store.lastProbe.connectOk = true
    rw [hstored]
    rfl
  · rw [hstored]
    rfl

end Requests

end SocksMonitor.Control
