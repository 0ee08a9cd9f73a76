import SocksMonitor.Proofs.Course

/-!
# The summary agrees with the result

A run fills its summary in step by step, leaves it wherever a step fails, and swallows the failure
of its last step. What its fields say of each other after all that is collected in `Consistent`:
how far the flags go decides which latencies there are, what is known of the proxy, whether the
run has succeeded, and which warning there is, if any.

`Plan.Fails` says which step it is that fails, in terms of the dialogues alone, and
`fails_iff_halt?` finds it in the course of the run. The main result is `run_consistent`, which
asks for nothing: it holds of requests without a plan, of peers that are never reached, and of
writes and reads that are cut off at any place as well.
-/

namespace SocksMonitor.Probing

open Socks (Address)
open Dialogue

/-! ## The step that fails -/

/-- The run fails in the given step, of the given cause, and in no step before. -/
inductive Plan.Fails (plan : Plan) : Dial → Step → StepFailure → Prop where
  | tcpConnect (cause : Interruption) : Fails plan (.failed cause) .tcpConnect (cause.failure .dial)
  | socksHandshake {peer : Peer} {cuts : Step → Cuts} {cause : StepFailure} {greeted rest : Bytes}
      (hgreeted : (handshake plan.auth).run peer.stall (cuts .socksHandshake) peer.bytes =
        ⟨.error cause, greeted, rest⟩) :
      Fails plan (.accepted peer cuts) .socksHandshake cause
  | connect {peer : Peer} {cuts : Step → Cuts} {method : AuthMethod} {cause : StepFailure}
      {greeted first asked rest : Bytes}
      (hgreeted : (handshake plan.auth).run peer.stall (cuts .socksHandshake) peer.bytes =
        ⟨.ok method, greeted, first⟩)
      (hasked : (ask .connect plan.target).run peer.stall (cuts .connect) first =
        ⟨.error cause, asked, rest⟩) :
      Fails plan (.accepted peer cuts) .connect cause
  | udpAssociate {peer : Peer} {cuts : Step → Cuts} {method : AuthMethod} {cause : StepFailure}
      {greeted first asked second told rest : Bytes}
      (hgreeted : (handshake plan.auth).run peer.stall (cuts .socksHandshake) peer.bytes =
        ⟨.ok method, greeted, first⟩)
      (hasked : (ask .connect plan.target).run peer.stall (cuts .connect) first =
        ⟨.ok (), asked, second⟩)
      (htest : plan.udpTest = true)
      (htold : (ask .udpAssociate Address.unspecified).run peer.stall (cuts .udpAssociate) second =
        ⟨.error cause, told, rest⟩) :
      Fails plan (.accepted peer cuts) .udpAssociate cause

theorem run_eq_ok_iff {α : Type} {d : Dialogue α} {stall : Interruption} {cuts : Cuts}
    {bytes sent rest : Bytes} {a : α} :
    d.run stall cuts bytes = ⟨.ok a, sent, rest⟩ ↔
      (d.cutBy cuts).trace bytes = ⟨.ok a, sent, rest⟩ := by
  rw [run_eq_outcome]
  rcases (d.cutBy cuts).trace bytes with ⟨halt | _, _, _⟩ <;> simp

theorem run_eq_error_iff {α : Type} {d : Dialogue α} {stall : Interruption} {cuts : Cuts}
    {bytes sent rest : Bytes} {cause : StepFailure} :
    d.run stall cuts bytes = ⟨.error cause, sent, rest⟩ ↔
      ∃ halt, (d.cutBy cuts).trace bytes = ⟨.error halt, sent, rest⟩
        ∧ cause = halt.cause stall := by
  rw [run_eq_outcome]
  rcases (d.cutBy cuts).trace bytes with ⟨halt | _, _, _⟩
  · simp [eq_comm, and_comm, and_assoc]
  · simp

/-- The course of a run knows the step that fails. -/
theorem fails_iff_halt? {plan : Plan} {peer : Peer} {cuts : Step → Cuts} {step : Step}
    {cause : StepFailure} :
    plan.Fails (.accepted peer cuts) step cause ↔
      ∃ halt, (plan.cutCourse cuts peer.bytes).halt? = some (step, halt)
        ∧ cause = halt.cause peer.stall := by
  simp only [Plan.cutCourse, Course.halt?_of_eq_some_iff]
  constructor
  · intro h
    cases h with
    | socksHandshake hfailed =>
        obtain ⟨halt, hgreeted, rfl⟩ := run_eq_error_iff.mp hfailed
        exact ⟨halt, .socksHandshake hgreeted, rfl⟩
    | connect hgreeted hfailed =>
        obtain ⟨halt, hasked, rfl⟩ := run_eq_error_iff.mp hfailed
        exact ⟨halt, .connect (run_eq_ok_iff.mp hgreeted) hasked, rfl⟩
    | udpAssociate hgreeted hasked htest hfailed =>
        obtain ⟨halt, htold, rfl⟩ := run_eq_error_iff.mp hfailed
        exact ⟨halt, .udpAssociate (run_eq_ok_iff.mp hgreeted) (run_eq_ok_iff.mp hasked) htest
          htold, rfl⟩
  · rintro ⟨halt, hhalts, rfl⟩
    cases hhalts with
    | socksHandshake hgreeted =>
        exact .socksHandshake (run_eq_error_iff.mpr ⟨halt, hgreeted, rfl⟩)
    | connect hgreeted hasked =>
        exact .connect (run_eq_ok_iff.mpr hgreeted) (run_eq_error_iff.mpr ⟨halt, hasked, rfl⟩)
    | udpAssociate hgreeted hasked htest htold =>
        exact .udpAssociate (run_eq_ok_iff.mpr hgreeted) (run_eq_ok_iff.mpr hasked) htest
          (run_eq_error_iff.mpr ⟨halt, htold, rfl⟩)

/-! ## Consistency -/

/-- The steps that a run begins, as its summary tells: each one needs the success of the one
before. -/
def Begun (request : ProbeRequest) (s : Summary) : Step → Prop
  | .tcpConnect => ∃ plan, request.plan = .ok plan
  | .socksHandshake => s.reachable = true
  | .connect => s.socksOk = true
  | .udpAssociate => s.connectOk = true ∧ request.udpTest = true

/-- The run has nothing to warn of: it has not got as far as dialling, or has done all that it was
asked to. -/
def Unwarned (request : ProbeRequest) (report : Report) : Prop :=
  (∃ failure, report.result = .error failure ∧ failure.kind = .input)
    ∨ (report.result = .ok () ∧ (request.udpTest = false ∨ report.summary.udpOk = true))

/-- The warning is that of the step that fails, which is also the result unless it is the UDP
step. -/
structure WarnedOf (plan : Plan) (dial : Dial) (report : Report) (step : Step)
    (cause : StepFailure) : Prop where
  fails : plan.Fails dial step cause
  warnings : report.summary.warnings = [(ProbeFailure.step step cause).message]
  result : report.result =
    if step = .udpAssociate then .ok () else .error (.step step cause)

/-- What the fields of a report say of each other. -/
structure Consistent (request : ProbeRequest) (dial : Dial) (report : Report) : Prop where
  connectOk_of_udpOk : report.summary.udpOk = true → report.summary.connectOk = true
  socksOk_of_connectOk : report.summary.connectOk = true → report.summary.socksOk = true
  reachable_of_socksOk : report.summary.socksOk = true → report.summary.reachable = true
  latencies : ∀ name, name ∈ report.summary.latencies.names ↔
    ∃ step, Begun request report.summary step ∧ name = step.key
  auth : report.summary.features.auth.isSome = true ↔ report.summary.socksOk = true
  ipv6 : report.summary.features.ipv6 = true ↔ report.summary.connectOk = true
    ∧ ∃ ip scope port, Address.read request.targetText = .ok (.socket (.v6 ip scope port))
      ∧ ip.toMapped? = none
  udp : report.summary.features.udp = false
  result : report.result = .ok () ↔ report.summary.connectOk = true
  unwarned : Unwarned request report → report.summary.warnings = []
  warned : ¬ Unwarned request report →
    ∃ plan step cause, request.plan = .ok plan ∧ WarnedOf plan dial report step cause
  lastChecked : report.summary.lastChecked.isSome = true

theorem mem_names_latencies {timing : Timing} {steps : List Step} {name : String} :
    name ∈ (timing.latencies steps).names ↔ ∃ step ∈ steps, name = step.key := by
  -- the fold goes from the left, so the entries made before have to be any
  have hfold : ∀ l : Latencies,
      name ∈ (steps.foldl (fun l step => l.insert step.key (timing.latency step)) l).names ↔
        (∃ step ∈ steps, name = step.key) ∨ name ∈ l.names := by
    induction steps with
    | nil => simp
    | cons step steps ih =>
        intro l
        simp only [List.foldl_cons, ih, Latencies.mem_names_insert, List.mem_cons,
          exists_eq_or_imp, or_assoc]
        exact or_left_comm
  rw [Timing.latencies, hfold]
  exact or_iff_left Latencies.not_mem_names_empty

theorem isIpv6_target_iff {request : ProbeRequest} {plan : Plan}
    (hplan : request.plan = .ok plan) :
    plan.target.isIpv6 = true ↔
      ∃ ip scope port, Address.read request.targetText = .ok (.socket (.v6 ip scope port))
        ∧ ip.toMapped? = none := by
  obtain ⟨-, htarget, -, -, -⟩ := ProbeRequest.of_plan hplan
  constructor
  · intro h
    rcases hform : plan.target with (_ | ⟨ip, scope, port⟩) | _
    · rw [hform] at h
      cases h
    · rw [hform] at htarget
      obtain ⟨host, -, port', -, -, hhost⟩ := Address.read_eq_ok_iff.mp htarget
      obtain ⟨-, ⟨endpoint, hliteral, ⟨⟩⟩ | ⟨-, -, ⟨⟩⟩⟩ := Address.readHost_eq_ok_iff.mp hhost
      exact ⟨ip, scope, port, htarget, Address.toMapped?_of_readLiteral? hliteral⟩
    · rw [hform] at h
      cases h
  · rintro ⟨ip, scope, port, hread, -⟩
    rw [htarget] at hread
    rw [Except.ok.inj hread]
    rfl

/-! ## Each way in which a run ends -/

section Ends

variable {request : ProbeRequest} {plan : Plan} {greet : Dialogue AuthMethod}
  {connect relay : Dialogue Unit} {relays : Bool} {bytes : Bytes}

theorem consistent_refused {failure : ProbeFailure} (hplan : request.plan = .error failure)
    (dial : Dial) (finished : Time.Timestamp) :
    Consistent request dial ⟨{ lastChecked := some finished }, .error failure, none⟩ := by
  have hquiet : Unwarned request ⟨{ lastChecked := some finished }, .error failure, none⟩ :=
    .inl ⟨failure, rfl, ProbeRequest.kind_of_plan_error hplan⟩
  constructor
  case latencies =>
    intro name
    refine iff_of_false Latencies.not_mem_names_empty ?_
    rintro ⟨step, hbegun, -⟩
    cases step with
    | tcpConnect =>
        obtain ⟨plan, h⟩ := hbegun
        rw [hplan] at h
        cases h
    | socksHandshake => cases hbegun
    | connect => cases hbegun
    | udpAssociate => cases hbegun.1
  case warned => exact fun h => absurd hquiet h
  all_goals simp

theorem consistent_unreached (hplan : request.plan = .ok plan) (timing : Timing)
    (cause : Interruption) (finished : Time.Timestamp) :
    Consistent request (.failed cause) ((plan.run timing (.failed cause)).dated finished) := by
  constructor
  case latencies =>
    intro name
    show name ∈ (timing.latencies [.tcpConnect]).names ↔ _
    rw [mem_names_latencies]
    refine exists_congr fun step => and_congr_left fun _ => ?_
    cases step with
    | tcpConnect => exact iff_of_true (List.mem_singleton.mpr rfl) ⟨plan, hplan⟩
    | socksHandshake | connect | udpAssociate =>
        simp [Begun, Report.dated, Plan.run, Plan.stopped, Summary.warned, Summary.timed]
  case unwarned =>
    rintro (⟨failure, hfailure, hkind⟩ | ⟨hok, -⟩)
    · cases hfailure
      exact absurd hkind (ProbeFailure.kind_step_ne_input _ _)
    · cases hok
  case warned =>
    intro _
    exact ⟨plan, .tcpConnect, cause.failure .dial, hplan, .tcpConnect cause, rfl, rfl⟩
  all_goals simp [Report.dated, Plan.run, Plan.stopped, Summary.warned, Summary.timed]

theorem mem_steps_iff {c : Course} (htakes : Course.Takes greet connect relay relays bytes c)
    {step : Step} :
    step ∈ c.steps ↔
      match step with
      | .tcpConnect | .socksHandshake => True
      | .connect => c.method?.isSome = true
      | .udpAssociate => c.isConnected = true ∧ relays = true := by
  cases htakes with
  | ungreeted => cases step <;> simp [Course.steps, Course.method?, Course.isConnected]
  | unconnected => cases step <;> simp [Course.steps, Course.method?, Course.isConnected]
  | connected hgreeted hasked htest =>
      cases step <;> simp [Course.steps, Course.method?, Course.isConnected, htest]
  | associated hgreeted hasked htest =>
      cases step <;> simp [Course.steps, Course.method?, Course.isConnected, htest]

theorem halt?_eq_none_iff {c : Course}
    (htakes : Course.Takes greet connect relay relays bytes c) :
    c.halt? = none ↔ c.isConnected = true ∧ (relays = false ∨ c.isAssociated = true) := by
  cases htakes with
  | ungreeted => simp [Course.halt?, Course.isConnected]
  | unconnected => simp [Course.halt?, Course.isConnected]
  | connected hgreeted hasked htest => simp [Course.halt?, Course.isConnected, htest]
  | @associated _ udp _ _ _ _ _ _ hgreeted hasked htest =>
      cases udp <;> simp [Course.halt?, Course.isConnected, Course.isAssociated, htest]

theorem kind_of_result_error {c : Course} {stall : Interruption} {failure : ProbeFailure}
    (hfailure : c.result stall = .error failure) : failure.kind ≠ .input := by
  cases c with
  | ungreeted =>
      cases hfailure
      exact ProbeFailure.kind_step_ne_input _ _
  | unconnected =>
      cases hfailure
      exact ProbeFailure.kind_step_ne_input _ _
  | connected => cases hfailure

theorem consistent_course (hplan : request.plan = .ok plan) (timing : Timing) (peer : Peer)
    (cuts : Step → Cuts) (finished : Time.Timestamp) :
    Consistent request (.accepted peer cuts)
      (((plan.cutCourse cuts peer.bytes).report plan timing peer.stall).dated finished) := by
  obtain ⟨-, -, -, -, htest⟩ := ProbeRequest.of_plan hplan
  have htakes := takes_cutCourse plan cuts peer.bytes
  have hfails : ∀ step halt, (plan.cutCourse cuts peer.bytes).halt? = some (step, halt) →
      plan.Fails (.accepted peer cuts) step (halt.cause peer.stall) :=
    fun step halt hhalt => fails_iff_halt?.mpr ⟨halt, hhalt, rfl⟩
  generalize plan.cutCourse cuts peer.bytes = c at htakes hfails
  have hunwarned : Unwarned request ((c.report plan timing peer.stall).dated finished) ↔
      c.halt? = none := by
    rw [halt?_eq_none_iff htakes, htest]
    constructor
    · rintro (⟨failure, hfailure, hkind⟩ | ⟨hok, hudp⟩)
      · exact absurd hkind (kind_of_result_error hfailure)
      · exact ⟨Course.result_eq_ok_iff.mp hok, hudp⟩
    · rintro ⟨hconnected, hudp⟩
      exact .inr ⟨Course.result_eq_ok_iff.mpr hconnected, hudp⟩
  constructor
  case connectOk_of_udpOk =>
    show c.isAssociated = true → c.isConnected = true
    cases c <;> simp [Course.isAssociated, Course.isConnected]
  case socksOk_of_connectOk =>
    show c.isConnected = true → c.method?.isSome = true
    cases c <;> simp [Course.method?, Course.isConnected]
  case latencies =>
    intro name
    show name ∈ (timing.latencies c.steps).names ↔ _
    rw [mem_names_latencies]
    refine exists_congr fun step => and_congr_left fun _ => ?_
    rw [mem_steps_iff htakes]
    cases step with
    | tcpConnect => exact iff_of_true trivial ⟨plan, hplan⟩
    | socksHandshake => exact iff_of_true trivial rfl
    | connect => exact Iff.rfl
    | udpAssociate =>
        rw [htest]
        exact Iff.rfl
  case ipv6 =>
    show (c.isConnected && plan.target.isIpv6) = true ↔ c.isConnected = true ∧ _
    rw [Bool.and_eq_true, isIpv6_target_iff hplan]
  case result => exact Course.result_eq_ok_iff
  case unwarned =>
    intro h
    show c.warnings peer.stall = []
    rw [Course.warnings, hunwarned.mp h]
  case warned =>
    intro h
    rcases hhalt : c.halt? with _ | ⟨step, halt⟩
    · exact absurd (hunwarned.mpr hhalt) h
    refine ⟨plan, step, halt.cause peer.stall, hplan, hfails step halt hhalt, ?_, ?_⟩
    · show c.warnings peer.stall = _
      rw [Course.warnings, hhalt]
    · show c.result peer.stall = _
      rw [Course.result_eq, hhalt]
  all_goals simp [Report.dated, Course.report]

theorem consistent_run (hplan : request.plan = .ok plan) (timing : Timing) (dial : Dial)
    (finished : Time.Timestamp) :
    Consistent request dial ((plan.run timing dial).dated finished) := by
  cases dial with
  | failed cause => exact consistent_unreached hplan timing cause finished
  | accepted peer cuts =>
      rw [run_accepted]
      exact consistent_course hplan timing peer cuts finished

end Ends

/-! ## All runs -/

/-- **Every run leaves a consistent report**: of a request with or without a plan, with a signal
that is on or off, of a proxy that is reached or not, whatever it sends, and whichever action of
the run is cut off, a write or a read, by the network, the deadline or a cancellation. -/
theorem run_consistent (request : ProbeRequest) (signal : Signal) (timing : Timing)
    (dial : Dial) :
    Consistent request (signal.dial dial) (request.run signal timing dial) := by
  unfold ProbeRequest.run
  cases hplan : request.plan with
  | error failure => exact consistent_refused hplan _ _
  | ok plan => exact consistent_run hplan timing _ timing.finished

end SocksMonitor.Probing
