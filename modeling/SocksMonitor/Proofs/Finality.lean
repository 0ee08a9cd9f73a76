import SocksMonitor.Proofs.Consistency

/-!
# What is decided stays decided

A run waits for exact numbers of bytes, one wait after another. When every wait of a run is filled,
the run does not depend on anything that the peer does afterwards: not on bytes that come behind
those that were taken, and not on how the connection ends. When a wait is not filled, the run stops
there, and all that it learns from the way in which it is cut off is the cause that it reports.

`Plan.Stalls` names the wait that is not filled, from the dialogues alone. `course_append` follows
two runs in lock step, the second one with more bytes than the first, and `report_agree` says that
the cause of a stall is all that a report takes from it. Reports are compared up to the readings of
the clock (`Report.Agree`).
-/

namespace SocksMonitor.Probing

open Socks (Address)
open Dialogue

/-! ## Waits that are not filled -/

/-- A wait for `op` comes upon fewer bytes than it asks for. -/
inductive Dialogue.Stalls {α : Type} : Dialogue α → Bytes → Operation → Prop where
  | send {op op' : Operation} {message bytes : Bytes} {next : Dialogue α}
      (hnext : Stalls next bytes op') : Stalls (.send op message next) bytes op'
  | short {op : Operation} {count : Nat} {next : Bytes → Dialogue α} {bytes : Bytes}
      (hshort : bytes.length < count) : Stalls (.receive op count next) bytes op
  | filled {op op' : Operation} {count : Nat} {next : Bytes → Dialogue α} {bytes : Bytes}
      (hcount : count ≤ bytes.length)
      (hnext : Stalls (next (bytes.take count)) (bytes.drop count) op') :
      Stalls (.receive op count next) bytes op'

/-- A wait of a run is not filled, in the given step; all steps before it have succeeded. -/
inductive Plan.Stalls (plan : Plan) (bytes : Bytes) : Step → Operation → Prop where
  | socksHandshake {op : Operation} (hstalls : (handshake plan.auth).Stalls bytes op) :
      Stalls plan bytes .socksHandshake op
  | connect {method : AuthMethod} {greeted first : Bytes} {op : Operation}
      (hgreeted : (handshake plan.auth).trace bytes = ⟨.ok method, greeted, first⟩)
      (hstalls : (ask .connect plan.target).Stalls first op) : Stalls plan bytes .connect op
  | udpAssociate {method : AuthMethod} {greeted first asked second : Bytes} {op : Operation}
      (hgreeted : (handshake plan.auth).trace bytes = ⟨.ok method, greeted, first⟩)
      (hasked : (ask .connect plan.target).trace first = ⟨.ok (), asked, second⟩)
      (htest : plan.udpTest = true)
      (hstalls : (ask .udpAssociate Address.unspecified).Stalls second op) :
      Stalls plan bytes .udpAssociate op

/-- The wait that starves a trace is the one that is not filled. -/
theorem stalls_iff_starved {α : Type} {d : Dialogue α} {bytes : Bytes} {op : Operation} :
    d.Stalls bytes op ↔ (d.trace bytes).ending = .error (.starved op) := by
  induction d generalizing bytes with
  | finish result =>
      constructor
      · intro h
        cases h
      · intro h
        cases result <;> cases h
  | send op' message next ih =>
      constructor
      · rintro ⟨hnext⟩
        exact ih.mp hnext
      · exact fun h => .send (ih.mpr h)
  | receive op' count next ih =>
      by_cases hcount : count ≤ bytes.length
      · simp only [trace, if_pos hcount, ← ih]
        constructor
        · intro h
          cases h with
          | short hshort => omega
          | filled _ hnext => exact hnext
        · exact .filled hcount
      · simp only [trace, if_neg hcount, Trace.starved]
        constructor
        · intro h
          cases h with
          | short => rfl
          | filled hfilled => exact absurd hfilled hcount
        · rintro ⟨⟩
          exact .short (Nat.not_le.mp hcount)

theorem Dialogue.Stalls.starved {α : Type} {d : Dialogue α} {bytes : Bytes} {op : Operation}
    (h : d.Stalls bytes op) : ∃ sent rest, d.trace bytes = ⟨.error (.starved op), sent, rest⟩ :=
  ⟨_, _, Trace.eq_of_ending (stalls_iff_starved.mp h)⟩

theorem stalls_iff_halt? {plan : Plan} {bytes : Bytes} {step : Step} {op : Operation} :
    plan.Stalls bytes step op ↔ (plan.course bytes).halt? = some (step, .starved op) := by
  rw [Plan.course, Course.halt?_of_eq_some_iff]
  constructor
  · intro h
    cases h with
    | socksHandshake hstalls =>
        obtain ⟨_, _, hgreeted⟩ := hstalls.starved
        exact .socksHandshake hgreeted
    | connect hgreeted hstalls =>
        obtain ⟨_, _, hasked⟩ := hstalls.starved
        exact .connect hgreeted hasked
    | udpAssociate hgreeted hasked htest hstalls =>
        obtain ⟨_, _, htold⟩ := hstalls.starved
        exact .udpAssociate hgreeted hasked htest htold
  · intro h
    cases h with
    | socksHandshake hgreeted =>
        exact .socksHandshake (stalls_iff_starved.mpr (by rw [hgreeted]))
    | connect hgreeted hasked =>
        exact .connect hgreeted (stalls_iff_starved.mpr (by rw [hasked]))
    | udpAssociate hgreeted hasked htest htold =>
        exact .udpAssociate hgreeted hasked htest (stalls_iff_starved.mpr (by rw [htold]))

/-! ## More bytes -/

section Append

variable {plan : Plan} {bytes : Bytes}

theorem trace_append_of_eq {α : Type} {d : Dialogue α} {sent rest : Bytes}
    {ending : Except Halt α} (htrace : d.trace bytes = ⟨ending, sent, rest⟩)
    (hfed : ∀ op, ending ≠ .error (.starved op)) (more : Bytes) :
    d.trace (bytes ++ more) = ⟨ending, sent, rest ++ more⟩ := by
  rw [trace_append d bytes more (by rw [htrace]; exact hfed), htrace]

theorem trace_append_ok {α : Type} {d : Dialogue α} {sent rest : Bytes} {a : α}
    (htrace : d.trace bytes = ⟨.ok a, sent, rest⟩) (more : Bytes) :
    d.trace (bytes ++ more) = ⟨.ok a, sent, rest ++ more⟩ :=
  trace_append_of_eq htrace (by simp) more

/-- A finished course is that of all longer input as well. -/
theorem course_append (hfed : ∀ step op, ¬ plan.Stalls bytes step op) (more : Bytes) :
    plan.course (bytes ++ more) = plan.course bytes := by
  simp only [stalls_iff_halt?] at hfed
  have htakes := takes_course plan bytes
  generalize plan.course bytes = c at htakes hfed ⊢
  rw [course_eq_iff]
  -- every dialogue but the last one has succeeded, and the last one is not starved
  cases htakes with
  | @ungreeted halt _ _ hgreeted =>
      refine .ungreeted (trace_append_of_eq hgreeted ?_ more)
      rintro op ⟨⟩
      exact hfed .socksHandshake op rfl
  | unconnected hgreeted hasked =>
      refine .unconnected (trace_append_ok hgreeted more) (trace_append_of_eq hasked ?_ more)
      rintro op ⟨⟩
      exact hfed .connect op rfl
  | connected hgreeted hasked htest =>
      exact .connected (trace_append_ok hgreeted more) (trace_append_ok hasked more) htest
  | associated hgreeted hasked htest htold =>
      refine .associated (trace_append_ok hgreeted more) (trace_append_ok hasked more) htest
        (trace_append_of_eq htold ?_ more)
      rintro op ⟨⟩
      exact hfed .udpAssociate op rfl

theorem isConnected_course_append (hconnected : (plan.course bytes).isConnected = true)
    (more : Bytes) : (plan.course (bytes ++ more)).isConnected = true := by
  rw [isConnected_course_iff] at hconnected ⊢
  obtain ⟨method, greeted, first, asked, rest, hgreeted, hasked⟩ := hconnected
  exact ⟨method, greeted, first ++ more, asked, rest ++ more,
    trace_append_ok hgreeted more, trace_append_ok hasked more⟩

end Append

/-! ## Other endings -/

/-- Only a starved wait takes its cause from the stall. -/
theorem Course.cause_eq {c : Course} {step : Step} {halt : Halt}
    (hfed : ∀ step op, c.halt? ≠ some (step, .starved op)) (hhalt : c.halt? = some (step, halt))
    (stall stall' : Interruption) : halt.cause stall = halt.cause stall' := by
  cases halt with
  | refused cause => rfl
  | starved op => exact absurd hhalt (hfed step op)

/-- A course without a stall is reported in the same way, whatever comes after it. -/
theorem report_agree {c : Course} (hfed : ∀ step op, c.halt? ≠ some (step, .starved op))
    (plan : Plan) (timing timing' : Timing) (stall stall' : Interruption) :
    (c.report plan timing stall).Agree (c.report plan timing' stall') := by
  have hwarnings : c.warnings stall = c.warnings stall' := by
    unfold Course.warnings
    rcases hhalt : c.halt? with _ | ⟨step, halt⟩
    · rfl
    · simp only [Course.cause_eq hfed hhalt stall stall']
  have hresult : c.result stall = c.result stall' := by
    rw [Course.result_eq, Course.result_eq]
    rcases hhalt : c.halt? with _ | ⟨step, halt⟩
    · rfl
    · simp only [Course.cause_eq hfed hhalt stall stall']
  refine ⟨hresult, ?_, rfl⟩
  simp only [Summary.findings, Course.report, hwarnings, names_latencies timing timing']

/-- An error of a run that has stalled is one of the connection. -/
theorem kind_of_stalled {c : Course} {step : Step} {op : Operation}
    (hhalt : c.halt? = some (step, .starved op)) {stall : Interruption} {failure : ProbeFailure}
    (hfailure : c.result stall = .error failure) : failure.kind ≠ .protocol := by
  rw [Course.result_eq, hhalt] at hfailure
  simp only [Halt.cause] at hfailure
  split at hfailure
  · cases hfailure
  · cases hfailure
    simp [ProbeFailure.kind, Interruption.kind_failure]

section Runs

variable {request : ProbeRequest} {plan : Plan} {signal signal' : Signal}

theorem run_agree (hplan : request.plan = .ok plan) (hsignal : signal.isRaised = false)
    (hsignal' : signal'.isRaised = false) (timing timing' : Timing) {bytes : Bytes}
    (hfed : ∀ step op, ¬ plan.Stalls bytes step op) (more : Bytes) (stall stall' : Interruption) :
    (request.run signal timing (.accepted ⟨bytes, stall⟩)).Agree
      (request.run signal' timing' (.accepted ⟨bytes ++ more, stall'⟩)) := by
  rw [run_of_plan hplan hsignal, run_of_plan hplan hsignal']
  simp only [course_append hfed]
  simp only [stalls_iff_halt?] at hfed
  exact (report_agree hfed plan timing timing' stall stall').dated _ _

/-- The report of a run that is stopped in a step. But for the cause it is like `report`. -/
structure StoppedLike (report : Report) (step : Step) (cause : StepFailure) (other : Report) :
    Prop where
  result : other.result = if step = .udpAssociate then .ok () else .error (.step step cause)
  findings : other.summary.findings =
    { report.summary.findings with warnings := [(ProbeFailure.step step cause).message] }
  sent : other.sent = report.sent

/-- What the report of a run with a peer that sends `bytes` tells about the runs with peers that
send the same, or more. -/
structure DecidedOrStalled (request : ProbeRequest) (plan : Plan) (bytes : Bytes)
    (report : Report) : Prop where
  /-- If every wait is filled, no later bytes and no other ending change the report. -/
  decided : (∀ step op, ¬ plan.Stalls bytes step op) →
    ∀ signal timing more stall, signal.isRaised = false →
      (∀ step op, ¬ plan.Stalls (bytes ++ more) step op)
        ∧ report.Agree (request.run signal timing (.accepted ⟨bytes ++ more, stall⟩))
  /-- If one is not, every way of being cut off stops the run there. -/
  stalled : ∀ step op, plan.Stalls bytes step op →
    ∀ signal timing stall, signal.isRaised = false →
      plan.Fails (.accepted ⟨bytes, stall⟩) step (stall.failure op)
        ∧ StoppedLike report step (stall.failure op)
          (request.run signal timing (.accepted ⟨bytes, stall⟩))
  success : report.result = .ok () → ∀ signal timing more stall, signal.isRaised = false →
    (request.run signal timing (.accepted ⟨bytes ++ more, stall⟩)).result = .ok ()
  refusal : ∀ failure, report.result = .error failure → failure.kind = .protocol →
    ∀ signal timing more stall, signal.isRaised = false →
      report.Agree (request.run signal timing (.accepted ⟨bytes ++ more, stall⟩))

/-- **What is decided stays decided, and a stall is reported by its cause alone.** If every wait of
a run is filled, no later bytes and no other ending change the report. If one is not, every way of
being cut off stops the run at that wait with everything else unchanged. So a success and a refusal
of the proxy's bytes are final. -/
theorem run_decided_or_stalled (hplan : request.plan = .ok plan)
    (hsignal : signal.isRaised = false) (timing : Timing) (bytes : Bytes) (stall : Interruption) :
    DecidedOrStalled request plan bytes
      (request.run signal timing (.accepted ⟨bytes, stall⟩)) where
  decided hfed signal' timing' more stall' hsignal' := by
    refine ⟨fun step op hstalls => hfed step op ?_,
      run_agree hplan hsignal hsignal' timing timing' hfed more stall stall'⟩
    rw [stalls_iff_halt?] at hstalls ⊢
    rwa [course_append hfed] at hstalls
  stalled step op hstalls signal' timing' stall' hsignal' := by
    have hhalt := stalls_iff_halt?.mp hstalls
    rw [run_of_plan hplan hsignal, run_of_plan hplan hsignal']
    constructor
    · rw [fails_iff_halt?, Plan.cutCourse_never]
      exact ⟨.starved op, hhalt, rfl⟩
    constructor
    case result =>
      show (plan.course bytes).result stall' = _
      rw [Course.result_eq, hhalt]
      rfl
    case findings =>
      simp only [Report.dated, Course.report, Summary.findings, Course.warnings, hhalt,
        names_latencies timing' timing]
      rfl
    case sent => rfl
  success hok signal' timing' more stall' hsignal' := by
    rw [run_of_plan hplan hsignal] at hok
    rw [run_of_plan hplan hsignal']
    exact Course.result_eq_ok_iff.mpr
      (isConnected_course_append (Course.result_eq_ok_iff.mp hok) more)
  refusal failure hfailure hkind signal' timing' more stall' hsignal' := by
    refine run_agree hplan hsignal hsignal' timing timing' (fun step op hstalls => ?_) more stall
      stall'
    rw [run_of_plan hplan hsignal] at hfailure
    exact kind_of_stalled (stalls_iff_halt?.mp hstalls) hfailure hkind

/-- A proxy that breaks off in the header of its first reply. -/
theorem run_stalled_in_reply_header :
    let request : ProbeRequest := { server := "proxy:1080" }
    let gone : Signal := .channel false false
    (∃ plan, request.plan = .ok plan) ∧ Signal.absent.isRaised = false ∧ gone.isRaised = false
      ∧ ∀ stall, (request.run gone ⟨fun _ => 1, .epoch⟩
        (.accepted ⟨[5, 0, 5, 0, 0], stall⟩)).result =
          .error (.step .connect (stall.failure .readReplyHeader)) := by
  intro request gone
  have hplan : request.plan = .ok
      { server := .domain "proxy" 1080, target := .domain "example.com" 80, timeoutMs := 3000,
        auth := none, udpTest := false } := by
    simp only [request]
    rfl
  have hsignal : Signal.absent.isRaised = false := rfl
  have hgone : gone.isRaised = false := rfl
  have hdecided := run_decided_or_stalled hplan hsignal ⟨fun _ => 0, .epoch⟩ [5, 0, 5, 0, 0]
    .deadline
  refine ⟨⟨_, hplan⟩, hsignal, hgone, fun stall => ?_⟩
  have hgreeted : (handshake none).trace [5, 0, 5, 0, 0] =
      ⟨.ok .none, [5, 1, 0], [5, 0, 0]⟩ := rfl
  obtain ⟨-, hstopped⟩ := hdecided.stalled .connect .readReplyHeader
    (.connect hgreeted (stalls_iff_starved.mpr rfl)) gone ⟨fun _ => 1, .epoch⟩ stall hgone
  exact hstopped.result

end Runs

end SocksMonitor.Probing
