import SocksMonitor.Proofs.Finality

/-!
# Cancelled runs

A signal that is raised while a run waits for the peer ends the wait. This file says what the run
reports then, at every wait of every step (`cancellation_reported_iff`): a cancelled handshake or
CONNECT is returned as the failure that it is, while a cancelled UDP step is taken for a step that
has failed on its own, and the run is reported as a success. `relay_cancelled_in_silence` is such
a run. In either case the summary is that of the steps before (`Partial`), with the cancellation
as its one warning.
-/

namespace SocksMonitor.Probing

open Dialogue

/-- A signal that is off and has a sender. No other signal can be raised in the course of a run. -/
def Signal.pending : Signal := .channel false true

theorem Signal.isRaised_pending : pending.isRaised = false := rfl

/-- The steps of a run up to the given one. -/
def Step.upTo : Step → List Step
  | tcpConnect => [tcpConnect]
  | socksHandshake => [tcpConnect, socksHandshake]
  | connect => [tcpConnect, socksHandshake, connect]
  | udpAssociate => [tcpConnect, socksHandshake, connect, udpAssociate]

/-- The summary of a run with a step that fails, when all steps before have succeeded. -/
structure Partial (plan : Plan) (s : Summary) (step : Step) (cause : StepFailure) : Prop where
  reachable : s.reachable = true ↔ step ≠ .tcpConnect
  socksOk : s.socksOk = true ↔ step = .connect ∨ step = .udpAssociate
  connectOk : s.connectOk = true ↔ step = .udpAssociate
  udpOk : s.udpOk = false
  latencies : ∀ name, name ∈ s.latencies.names ↔ ∃ begun ∈ step.upTo, name = begun.key
  auth : s.features.auth.isSome = s.socksOk
  ipv6 : s.features.ipv6 = (s.connectOk && plan.target.isIpv6)
  warnings : s.warnings = [(ProbeFailure.step step cause).message]

theorem steps_eq_upTo {c : Course} {step : Step} {halt : Halt}
    (hhalt : c.halt? = some (step, halt)) : c.steps = step.upTo := by
  match c with
  | .ungreeted .. | .unconnected .. | .connected _ (some (.error _)) _ =>
      cases hhalt
      rfl
  | .connected _ none _ | .connected _ (some (.ok ())) _ => cases hhalt

/-- A course that halts in a step has come through all the others before. -/
theorem partial_report {c : Course} {step : Step} {halt : Halt}
    (hhalt : c.halt? = some (step, halt)) (plan : Plan) (timing : Timing) (stall : Interruption) :
    Partial plan (c.report plan timing stall).summary step (halt.cause stall) := by
  have hwarnings : c.warnings stall = [(ProbeFailure.step step (halt.cause stall)).message] := by
    rw [Course.warnings, hhalt]
  constructor
  case latencies =>
    intro name
    rw [← steps_eq_upTo hhalt]
    exact mem_names_latencies
  case warnings => exact hwarnings
  case auth | ipv6 => rfl
  all_goals
    rcases c with _ | _ | ⟨_, _ | _ | _, _⟩ <;> cases hhalt <;>
      simp [Course.report, Course.method?, Course.isConnected, Course.isAssociated]

section Runs

variable {request : ProbeRequest} {plan : Plan} {bytes : Bytes} {step : Step} {op : Operation}

/-- **A cancellation is reported, but not in the UDP step.** When the signal is raised while a run
waits for bytes of the peer, the run returns the cancellation as the failure of its step exactly if
that is not the UDP step; otherwise it returns a success. The summary says what the steps before
have found out. -/
theorem cancellation_reported_iff (hplan : request.plan = .ok plan) (timing : Timing)
    (hstalls : plan.Stalls bytes step op) :
    let report := request.run .pending timing (.accepted ⟨bytes, .cancelled⟩)
    let failure := ProbeFailure.step step (.cancelled op)
    (report.result = .error failure ↔ step ≠ .udpAssociate)
      ∧ (report.result = .ok () ↔ step = .udpAssociate)
      ∧ failure.kind = .transport
      ∧ Partial plan report.summary step (.cancelled op) := by
  have hhalt := stalls_iff_halt?.mp hstalls
  have hresult : (plan.course bytes).result .cancelled =
      if step = .udpAssociate then .ok () else .error (.step step (.cancelled op)) := by
    rw [Course.result_eq, hhalt]
    rfl
  rw [run_of_plan hplan Signal.isRaised_pending]
  refine ⟨?_, ?_, rfl, ?_⟩
  · show (plan.course bytes).result .cancelled = _ ↔ _
    rw [hresult]
    split <;> simp [*]
  · show (plan.course bytes).result .cancelled = _ ↔ _
    rw [hresult]
    split <;> simp [*]
  · have hpartial := partial_report hhalt plan timing .cancelled
    exact { hpartial with }

/-- A run that is cancelled in the header of the reply to CONNECT. -/
theorem connect_cancelled_in_header :
    let request : ProbeRequest := { server := "proxy:1080", udpTest := true }
    let report :=
      request.run .pending ⟨fun _ => 0, .epoch⟩ (.accepted ⟨[5, 0, 5, 0], .cancelled⟩)
    (∃ plan, request.plan = .ok plan ∧ plan.Stalls [5, 0, 5, 0] .connect .readReplyHeader)
      ∧ report.result = .error (.step .connect (.cancelled .readReplyHeader)) := by
  intro request report
  let plan : Plan :=
    { server := .domain "proxy" 1080, target := .domain "example.com" 80, timeoutMs := 3000,
      auth := none, udpTest := true }
  have hplan : request.plan = .ok plan := by
    simp only [request]
    rfl
  have hgreeted : (handshake plan.auth).trace [5, 0, 5, 0] =
      ⟨.ok .none, [5, 1, 0], [5, 0]⟩ := rfl
  have hstalls : plan.Stalls [5, 0, 5, 0] .connect .readReplyHeader :=
    .connect hgreeted (stalls_iff_starved.mpr rfl)
  obtain ⟨hreported, -⟩ := cancellation_reported_iff hplan ⟨fun _ => 0, .epoch⟩ hstalls
  exact ⟨⟨plan, hplan, hstalls⟩, hreported.mpr (by decide)⟩

/-- Not every cancellation is reported: a proxy grants CONNECT and falls silent, the signal is
raised in the wait for its next reply, and the run is a success. -/
theorem relay_cancelled_in_silence :
    ¬ ∀ (request : ProbeRequest) (plan : Plan) (timing : Timing) (bytes : Bytes) (step : Step)
        (op : Operation), request.plan = .ok plan → plan.Stalls bytes step op →
      (request.run .pending timing (.accepted ⟨bytes, .cancelled⟩)).result =
        .error (.step step (.cancelled op)) := by
  intro hreported
  let request : ProbeRequest :=
    { server := "127.0.0.1:1080", connectTarget := "1.2.3.4:80", udpTest := true }
  let plan : Plan :=
    { server := .socket (.v4 ⟨127, 0, 0, 1⟩ 1080), target := .socket (.v4 ⟨1, 2, 3, 4⟩ 80),
      timeoutMs := 3000, auth := none, udpTest := true }
  have hplan : request.plan = .ok plan := by
    simp only [request]
    rfl
  have hgreeted : (handshake plan.auth).trace [5, 0, 5, 0, 0, 1, 0, 0, 0, 0, 0, 0] =
      ⟨.ok .none, [5, 1, 0], [5, 0, 0, 1, 0, 0, 0, 0, 0, 0]⟩ := rfl
  have hasked : (ask .connect plan.target).trace [5, 0, 0, 1, 0, 0, 0, 0, 0, 0] =
      ⟨.ok (), Socks.request .connect plan.target, []⟩ := rfl
  have hstalls : plan.Stalls [5, 0, 5, 0, 0, 1, 0, 0, 0, 0, 0, 0] .udpAssociate
      .readReplyHeader := .udpAssociate hgreeted hasked rfl (stalls_iff_starved.mpr rfl)
  have hresult := hreported request plan ⟨fun _ => 0, .epoch⟩ _ _ _ hplan hstalls
  rw [run_of_plan hplan Signal.isRaised_pending] at hresult
  cases hresult

end Runs

end SocksMonitor.Probing
