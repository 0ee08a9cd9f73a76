import SocksMonitor.Probing.Guard
import SocksMonitor.Proofs.Secrecy

/-!
# What the guard makes of a signal

Only the value `true` ends the wait for the signal (`poll_eq_none_iff`), so an action is held up by
nothing else (`race_of_off`), and a value that is `true` at the first look wins before anything is
done (`race_of_raised`). Hence a run whose signal never comes on is the engine's without a signal
(`guardedRun_of_quiet`), whether senders are dropped on the way or not, and a run whose signal is on
at first is the engine's with one (`guardedRun_of_raised`).

The main result, `only_raised_signal_cancels`, says what both come to.
-/

namespace SocksMonitor.Probing

/-! ## What ends a wait -/

namespace Wait

theorem poll_eq_none_iff {wait : Wait} {signal : Signal} :
    wait.poll signal = none ↔ wait = .listening ∧ signal.isRaised = true := by
  cases wait with
  | abandoned => simp [poll]
  | listening =>
      cases signal with
      | absent => simp [poll, Signal.isRaised]
      | channel value senderAlive => cases value <;> simp [poll, Signal.isRaised]

theorem exists_poll_of_off (wait : Wait) {signal : Signal} (hoff : signal.isRaised = false) :
    ∃ next, wait.poll signal = some next := by
  rw [← Option.ne_none_iff_exists']
  intro hnone
  rw [(poll_eq_none_iff.mp hnone).2] at hoff
  cases hoff

/-- A signal that does not come on wins over no action, however long it takes. -/
theorem race_of_off {looks : Nat → Signal} (hoff : ∀ look, (looks look).isRaised = false)
    (wait : Wait) (look pending : Nat) : wait.race looks look pending = false := by
  induction pending generalizing wait look with
  | zero =>
      obtain ⟨next, hpoll⟩ := wait.exists_poll_of_off (hoff look)
      rw [race, hpoll]
      rfl
  | succ pending ih =>
      obtain ⟨next, hpoll⟩ := wait.exists_poll_of_off (hoff look)
      rw [race, hpoll]
      exact ih next (look + 1)

/-- A signal that is on when it is looked at wins, be the action done or not. -/
theorem race_of_raised {looks : Nat → Signal} {look : Nat}
    (hraised : (looks look).isRaised = true) (pending : Nat) :
    listening.race looks look pending = true := by
  have hpoll : listening.poll (looks look) = none := poll_eq_none_iff.mpr ⟨rfl, hraised⟩
  cases pending with
  | zero => rw [race, hpoll]; rfl
  | succ pending => rw [race, hpoll]

end Wait

/-! ## What becomes of a run -/

namespace Watch

/-- The signal does not come on: there is none, or its value stays `false`, and its sender may be
dropped at any time. -/
def Quiet (watch : Watch) : Prop := ∀ step action look,
  (watch.signal step action look).isRaised = false

theorem guarded_of_quiet {watch : Watch} (hquiet : watch.Quiet) (dial : Dial) :
    watch.guarded dial = dial := by
  have hcancels : ∀ step action, watch.cancels step action = false := fun step action =>
    Wait.race_of_off (hquiet step action) .listening 0 (watch.delay step action)
  cases dial with
  | failed cause => simp [guarded, hcancels]
  | accepted peer cuts => simp [guarded, hcancels]

theorem guarded_of_raised {watch : Watch} (hfirst : (watch.signal .tcpConnect 0 0).isRaised = true)
    (dial : Dial) : watch.guarded dial = .failed .cancelled :=
  if_pos (Wait.race_of_raised hfirst (watch.delay .tcpConnect 0))

end Watch

section Runs

variable {watch : Watch} {signal : Signal}

/-- A signal that does not come on is as good as none. -/
theorem guardedRun_of_quiet (hquiet : watch.Quiet) (hsignal : signal.isRaised = false)
    (request : ProbeRequest) (timing : Timing) (dial : Dial) :
    request.guardedRun watch timing dial = request.run signal timing dial := by
  have habsent : Signal.absent.isRaised = false := rfl
  simp only [ProbeRequest.guardedRun, ProbeRequest.run, Watch.guarded_of_quiet hquiet,
    Signal.dial_of_off hsignal, Signal.dial_of_off habsent]

/-- A signal that is on at first is met by the engine, too, whatever becomes of it. -/
theorem guardedRun_of_raised (hfirst : (watch.signal .tcpConnect 0 0).isRaised = true)
    (hsignal : signal.isRaised = true) (request : ProbeRequest) (timing : Timing) (dial : Dial) :
    request.guardedRun watch timing dial = request.run signal timing dial := by
  have habsent : Signal.absent.isRaised = false := rfl
  simp only [ProbeRequest.guardedRun, ProbeRequest.run, Watch.guarded_of_raised hfirst,
    Signal.dial_of_raised hsignal, Signal.dial_of_off habsent]

end Runs

/-! ## All runs -/

/-- The report of a run that is cancelled before it has dialled. -/
structure CancelledAtDial (report : Report) : Prop where
  result : report.result = .error (.step .tcpConnect (.cancelled .dial))
  unsent : report.sent = none
  unreached : report.summary.reachable = false
  latencies : report.summary.latencies.names = ["tcp_connect"]
  warnings : ∀ failure, report.result = .error failure →
    report.summary.warnings = [failure.message]

/-- The report of a request without a plan: nothing is known but the time. -/
structure RefusedFor (failure : ProbeFailure) (finished : Time.Timestamp) (report : Report) :
    Prop where
  kind : failure.kind = .input
  result : report.result = .error failure
  unsent : report.sent = none
  summary : report.summary = { lastChecked := some finished }

theorem cancelledAtDial_run {request : ProbeRequest} {plan : Plan} (hplan : request.plan = .ok plan)
    {signal : Signal} (hsignal : signal.isRaised = true) (timing : Timing) (dial : Dial) :
    CancelledAtDial (request.run signal timing dial) := by
  rw [run_of_raised hplan hsignal]
  constructor
  case warnings =>
    intro failure hfailure
    cases hfailure
    rfl
  all_goals rfl

theorem refusedFor_run {request : ProbeRequest} {failure : ProbeFailure}
    (hplan : request.plan = .error failure) (signal : Signal) (timing : Timing) (dial : Dial) :
    RefusedFor failure timing.finished (request.run signal timing dial) := by
  rw [run_of_refused hplan]
  exact ⟨ProbeRequest.kind_of_plan_error hplan, rfl, rfl, rfl⟩

/-- What a request's runs come to under the guard, by what becomes of the signal. -/
structure OnlyRaisedCancels (request : ProbeRequest) (dial : Dial) : Prop where
  /-- Whether there is a signal at all makes no difference as long as it stays off. -/
  quiet : ∀ watch watch' timing timing', watch.Quiet → watch'.Quiet →
    (request.guardedRun watch timing dial).Agree (request.guardedRun watch' timing' dial)
  raised : ∀ watch timing, (watch.signal .tcpConnect 0 0).isRaised = true →
    (∃ plan, request.plan = .ok plan) → CancelledAtDial (request.guardedRun watch timing dial)
  /-- Inputs that are refused are refused with and without a signal. -/
  refused : ∀ watch watch' timing failure, (watch.signal .tcpConnect 0 0).isRaised = true →
    watch'.Quiet → request.plan = .error failure →
      RefusedFor failure timing.finished (request.guardedRun watch timing dial)
        ∧ RefusedFor failure timing.finished (request.guardedRun watch' timing dial)
  /-- The engine's own signal is one that stays as it is. -/
  steady : ∀ signal delay out timing,
    request.guardedRun (.steady signal delay out) timing dial = request.run signal timing dial

/-- **Only a signal that is on cancels, and it wins before any I/O.** Whatever the proxy does, runs
whose signal stays off come to the same, up to the readings of the clock. A run whose signal is on
at first is cancelled at the dial if there is a plan; without one it is refused as it would be
without a signal. Under a signal that stays as it is, these are the runs of the engine. -/
theorem only_raised_signal_cancels (request : ProbeRequest) (dial : Dial) :
    OnlyRaisedCancels request dial := by
  have hoff : Signal.absent.isRaised = false := rfl
  have hon : (Signal.channel true true).isRaised = true := rfl
  constructor
  case quiet =>
    intro watch watch' timing timing' hquiet hquiet'
    rw [guardedRun_of_quiet hquiet hoff, guardedRun_of_quiet hquiet' hoff]
    exact agree_of_timing request .absent timing timing' dial
  case raised =>
    intro watch timing hfirst hplanned
    obtain ⟨plan, hplan⟩ := hplanned
    rw [guardedRun_of_raised hfirst hon]
    exact cancelledAtDial_run hplan hon timing dial
  case refused =>
    intro watch watch' timing failure hfirst hquiet' hplan
    rw [guardedRun_of_raised hfirst hon, guardedRun_of_quiet hquiet' hoff]
    exact ⟨refusedFor_run hplan _ timing dial, refusedFor_run hplan .absent timing dial⟩
  case steady =>
    intro signal delay out timing
    cases hsignal : signal.isRaised with
    | false => exact guardedRun_of_quiet (fun _ _ _ => hsignal) hsignal request timing dial
    | true => exact guardedRun_of_raised hsignal hsignal request timing dial

/-- A sender is dropped in the handshake, and one after its value was set. -/
theorem dropped_senders_in_handshake :
    let request : ProbeRequest := { server := "proxy:1080" }
    let dropped : Watch :=
      ⟨fun step action look => .channel false (step = .tcpConnect ∨ action = 0 ∧ look < 2),
        fun _ _ => 3, fun _ _ => 0⟩
    let raised : Watch := .steady (.channel true false) (fun _ _ => 3) fun _ _ => 0
    let dial : Dial := .accepted ⟨[5, 0, 5, 0, 0, 1, 0, 0, 0, 0, 0, 0], .deadline⟩
    let timing : Timing := ⟨fun _ => 0, .epoch⟩
    dropped.Quiet ∧ (raised.signal .tcpConnect 0 0).isRaised = true
      ∧ (request.guardedRun dropped timing dial).Agree
        (request.guardedRun (.steady .absent (fun _ _ => 0) fun _ _ => 0) timing dial)
      ∧ CancelledAtDial (request.guardedRun raised timing dial) := by
  intro request dropped raised dial timing
  have hquiet : dropped.Quiet := fun _ _ _ => rfl
  have habsent : (Watch.steady .absent (fun _ _ => 0) fun _ _ => 0).Quiet := fun _ _ _ => rfl
  have hraised : (raised.signal .tcpConnect 0 0).isRaised = true := rfl
  have hplan : request.plan = .ok
      { server := .domain "proxy" 1080, target := .domain "example.com" 80, timeoutMs := 3000,
        auth := none, udpTest := false } := by
    simp only [request]
    rfl
  have hcancels := only_raised_signal_cancels request dial
  exact ⟨hquiet, hraised, hcancels.quiet _ _ timing timing hquiet habsent,
    hcancels.raised raised timing hraised ⟨_, hplan⟩⟩

end SocksMonitor.Probing
