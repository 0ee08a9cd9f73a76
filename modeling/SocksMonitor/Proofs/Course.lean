import SocksMonitor.Probing.Engine
import SocksMonitor.Proofs.Trace

/-!
# The course of a run

A run with a peer that has accepted the connection goes through up to three dialogues. This file
says once what each of them can come to (`trace_handshake_cons`, `trace_ask_cons` and their
companions for short input) and puts them together to a `Course`: how far the run gets and what
stops it, without the clock and without the cause of a starved wait. `Course.of` does so for any
three dialogues, and `Course.Halts` names the one that stops it. With those of a plan it is
`Plan.course`, what the peer's bytes lead to, and with what the cuts leave of them it is
`Plan.cutCourse`.

`run_accepted` is the bridge to the engine: the report of a run is the report of its course. What a
report holds is then a matter of five cases of `Course`.
-/

namespace SocksMonitor.Probing

open Socks (Address Command Credentials Decoder Reply)
open Dialogue

/-! ## The traces of the steps -/

section Steps

variable {credentials : Credentials} {auth : Option Credentials} {bytes : Bytes}

theorem trace_authenticate_short (hfits : Socks.checkCredentials credentials = .ok ())
    (hshort : bytes.length < 2) :
    (authenticate credentials).trace bytes =
      Trace.after (Socks.userPassMessage credentials) (.starved .readUserPassReply) := by
  simp only [authenticate, hfits, bind_eq, trace_say_bind, trace_hear_bind,
    if_neg (Nat.not_le.mpr hshort)]

/-- The answer to credentials: a wrong version is refused before the status is looked at. -/
theorem trace_authenticate_cons (hfits : Socks.checkCredentials credentials = .ok ())
    (ver status : UInt8) (rest : Bytes) :
    (authenticate credentials).trace (ver :: status :: rest) =
      Trace.after (Socks.userPassMessage credentials)
        (if ver = 0x01 then
          if status = 0x00 then ⟨.ok (), [], rest⟩ else .refused .authFailed rest
        else .refused (.framing .userPassReply (.unexpectedVersion ver)) rest) := by
  simp only [authenticate, hfits, bind_eq, trace_say_bind, trace_hear_bind]
  by_cases hver : ver = 0x01
  · subst hver
    by_cases hstatus : status = 0x00
    · subst hstatus
      rfl
    · have haccepted : (status == 0x00) = false := beq_eq_false_iff_ne.mpr hstatus
      simp [Decoder.userPassReply, Socks.userPassVersion, trace_framed_ok, haccepted, hstatus,
        trace_fail]
  · simp [Decoder.userPassReply, Socks.userPassVersion, trace_framed_error, hver]

theorem trace_answerMethod_noAuth :
    (answerMethod auth 0x00).trace bytes = ⟨.ok .none, [], bytes⟩ := rfl

theorem trace_answerMethod_userPass_none :
    (answerMethod none 0x02).trace bytes = .refused .credentialsRequired bytes := rfl

theorem trace_answerMethod_userPass_some :
    (answerMethod (some credentials) 0x02).trace bytes =
      ((authenticate credentials).trace bytes).andThen
        fun _ rest => ⟨.ok .userPass, [], rest⟩ := by
  show ((authenticate credentials).bind fun _ => finish (.ok AuthMethod.userPass)).trace bytes = _
  rw [trace_bind]
  rfl

theorem trace_answerMethod_noneAcceptable :
    (answerMethod auth 0xFF).trace bytes = .refused .methodsRejected bytes := rfl

theorem trace_answerMethod_other {method : UInt8} (h0 : method ≠ 0x00) (h2 : method ≠ 0x02)
    (hff : method ≠ 0xFF) :
    (answerMethod auth method).trace bytes = .refused (.unsupportedMethod method) bytes := by
  simp [answerMethod, Socks.Method.noAuth, Socks.Method.userPass, Socks.Method.noneAcceptable,
    h0, h2, hff, trace_fail]

theorem trace_handshake_short (hshort : bytes.length < 2) :
    (handshake auth).trace bytes =
      Trace.after (Socks.greeting auth.isSome) (.starved .readMethodSelection) := by
  simp only [handshake, bind_eq, trace_say_bind, trace_hear_bind,
    if_neg (Nat.not_le.mpr hshort)]

/-- The answer to a greeting is a version and a method; what the method asks for comes next. -/
theorem trace_handshake_cons (ver method : UInt8) (rest : Bytes) :
    (handshake auth).trace (ver :: method :: rest) =
      Trace.after (Socks.greeting auth.isSome)
        (if ver = 0x05 then (answerMethod auth method).trace rest
        else .refused (.framing .methodSelection (.unexpectedVersion ver)) rest) := by
  simp only [handshake, bind_eq, trace_say_bind, trace_hear_bind]
  by_cases hver : ver = 0x05
  · simp [Decoder.methodSelection, Socks.version, trace_framed_ok, hver]
  · simp [Decoder.methodSelection, Socks.version, trace_framed_error, hver]

theorem trace_skipBoundAddress_ipv4 :
    (skipBoundAddress 1).trace bytes = .skipped .readBoundAddress 6 bytes := rfl

theorem trace_skipBoundAddress_ipv6 :
    (skipBoundAddress 4).trace bytes = .skipped .readBoundAddress 18 bytes := rfl

theorem trace_skipBoundAddress_domain_nil :
    (skipBoundAddress 3).trace [] = .starved .readBoundAddress := rfl

theorem trace_skipBoundAddress_domain_cons (length : UInt8) (rest : Bytes) :
    (skipBoundAddress 3).trace (length :: rest) =
      if length = 0 then .refused (.framing .readBoundAddress .emptyBoundDomain) rest
      else .skipped .readBoundAddress (length.toNat + 2) rest := by
  have hform : Socks.boundAddress 3 = .ok .lengthPrefixed := rfl
  simp only [skipBoundAddress, hform, bind_eq, trace_framed_ok, trace_hear_bind]
  by_cases hzero : length = 0
  · simp [Socks.boundDomainLength, hzero, trace_framed_error]
  · simp [Socks.boundDomainLength, hzero, trace_framed_ok, pure_eq, trace_skip]

theorem trace_skipBoundAddress_unknown {atyp : UInt8} (h1 : atyp ≠ 1) (h3 : atyp ≠ 3)
    (h4 : atyp ≠ 4) :
    (skipBoundAddress atyp).trace bytes =
      .refused (.framing .readBoundAddress (.unknownAddressType atyp)) bytes := by
  have hform : Socks.boundAddress atyp = .error (.unknownAddressType atyp) := by
    simp [Socks.boundAddress, Socks.AddressType.ofCode, h1, h3, h4]
  simp only [skipBoundAddress, hform, bind_eq, trace_framed_error]

variable {command : Command} {address : Address}

theorem trace_ask_short (hshort : bytes.length < 4) :
    (ask command address).trace bytes =
      Trace.after (Socks.request command address) (.starved .readReplyHeader) := by
  simp only [ask, bind_eq, trace_say_bind, trace_hear_bind, if_neg (Nat.not_le.mpr hshort)]

/-- The answer to a request: the version is judged before the outcome, and the bound address is
taken off the stream only behind a success. -/
theorem trace_ask_cons (ver rep reserved atyp : UInt8) (rest : Bytes) :
    (ask command address).trace (ver :: rep :: reserved :: atyp :: rest) =
      Trace.after (Socks.request command address)
        (if ver = 0x05 then
          if rep = 0x00 then (skipBoundAddress atyp).trace rest
          else .refused (.rejected (Reply.ofCode rep)) rest
        else .refused (.framing .replyHeader (.unexpectedVersion ver)) rest) := by
  simp only [ask, bind_eq, trace_say_bind, trace_hear_bind]
  by_cases hver : ver = 0x05
  · by_cases hrep : rep = 0x00
    · subst hver hrep
      rfl
    · have hreply : Reply.ofCode rep ≠ .succeeded := fun h => hrep (by
        rw [← Reply.code_ofCode rep, h]
        rfl)
      simp [Decoder.replyHeader, Socks.version, trace_framed_ok, hver, hrep, hreply, trace_fail]
  · simp [Decoder.replyHeader, Socks.version, trace_framed_error, hver]

theorem sent_trace_skipBoundAddress (atyp : UInt8) (bytes : Bytes) :
    ((skipBoundAddress atyp).trace bytes).sent = [] := by
  by_cases h1 : atyp = 1
  · subst h1
    exact Trace.sent_skipped _ 6 bytes
  by_cases h4 : atyp = 4
  · subst h4
    exact Trace.sent_skipped _ 18 bytes
  by_cases h3 : atyp = 3
  · subst h3
    cases bytes with
    | nil => rfl
    | cons length rest =>
        rw [trace_skipBoundAddress_domain_cons]
        split
        · rfl
        · exact Trace.sent_skipped _ _ rest
  · rw [trace_skipBoundAddress_unknown h1 h3 h4]
    rfl

/-- A request is sent whole before anything is waited for, and nothing is sent after it. -/
theorem sent_trace_ask (command : Command) (address : Address) (bytes : Bytes) :
    ((ask command address).trace bytes).sent = Socks.request command address := by
  match bytes with
  | [] | [_] | [_, _] | [_, _, _] =>
      rw [trace_ask_short (by simp)]
      simp
  | ver :: rep :: reserved :: atyp :: rest =>
      rw [trace_ask_cons]
      split
      · split
        · simp [sent_trace_skipBoundAddress]
        · simp
      · simp

end Steps

/-! ## Courses -/

/-- How far a run gets once the peer has accepted the connection, and all that it sends. -/
inductive Course where
  /-- The handshake fails. -/
  | ungreeted (halt : Halt) (sent : Bytes)
  /-- CONNECT fails. -/
  | unconnected (method : AuthMethod) (halt : Halt) (sent : Bytes)
  /-- CONNECT succeeds; `udp` is what the UDP step comes to, if there is one. -/
  | connected (method : AuthMethod) (udp : Option (Except Halt Unit)) (sent : Bytes)

namespace Course

/-- The steps that are begun, in order. -/
def steps : Course → List Step
  | ungreeted .. => [.tcpConnect, .socksHandshake]
  | unconnected .. => [.tcpConnect, .socksHandshake, .connect]
  | connected _ none _ => [.tcpConnect, .socksHandshake, .connect]
  | connected _ (some _) _ => [.tcpConnect, .socksHandshake, .connect, .udpAssociate]

/-- The authentication that is settled on. -/
def method? : Course → Option AuthMethod
  | ungreeted .. => none
  | unconnected method .. => some method
  | connected method .. => some method

def isConnected : Course → Bool
  | connected .. => true
  | _ => false

def isAssociated : Course → Bool
  | connected _ (some (.ok ())) _ => true
  | _ => false

/-- The step that fails, and why it ends. -/
def halt? : Course → Option (Step × Halt)
  | ungreeted halt _ => some (.socksHandshake, halt)
  | unconnected _ halt _ => some (.connect, halt)
  | connected _ (some (.error halt)) _ => some (.udpAssociate, halt)
  | connected .. => none

def sent : Course → Bytes
  | ungreeted _ sent => sent
  | unconnected _ _ sent => sent
  | connected _ _ sent => sent

/-- The warnings of a run: the one of the failed step. -/
def warnings (stall : Interruption) (c : Course) : List String :=
  match c.halt? with
  | some (step, halt) => [(ProbeFailure.step step (halt.cause stall)).message]
  | none => []

/-- The result of a run. A failed UDP step does not count. -/
def result (stall : Interruption) : Course → Except ProbeFailure Unit
  | ungreeted halt _ => .error (.step .socksHandshake (halt.cause stall))
  | unconnected _ halt _ => .error (.step .connect (halt.cause stall))
  | connected .. => .ok ()

theorem result_eq (stall : Interruption) (c : Course) :
    c.result stall =
      match c.halt? with
      | some (step, halt) =>
          if step = .udpAssociate then .ok () else .error (.step step (halt.cause stall))
      | none => .ok () := by
  match c with
  | ungreeted .. | unconnected .. => rfl
  | connected _ none _ | connected _ (some (.ok ())) _ | connected _ (some (.error _)) _ => rfl

theorem result_eq_ok_iff {stall : Interruption} {c : Course} :
    c.result stall = .ok () ↔ c.isConnected = true := by
  cases c <;> simp [result, isConnected]

end Course

/-- The latencies of the given steps. -/
def Timing.latencies (timing : Timing) (steps : List Step) : Latencies :=
  steps.foldl (fun l step => l.insert step.key (timing.latency step)) .empty

/-- The report with the time of its end. -/
def Report.dated (r : Report) (finished : Time.Timestamp) : Report :=
  { r with summary := { r.summary with lastChecked := some finished } }

/-- The report of a course. -/
def Course.report (c : Course) (plan : Plan) (timing : Timing) (stall : Interruption) : Report where
  summary :=
    { reachable := true
      socksOk := c.method?.isSome
      connectOk := c.isConnected
      udpOk := c.isAssociated
      latencies := timing.latencies c.steps
      features := { auth := c.method?, ipv6 := c.isConnected && plan.target.isIpv6 }
      warnings := c.warnings stall }
  result := c.result stall
  sent := some c.sent

/-! ## Up to the clock -/

/-- What a summary says without the readings of the clock. -/
structure Findings where
  reachable : Bool
  socksOk : Bool
  connectOk : Bool
  udpOk : Bool
  /-- The names of the latencies. -/
  timed : List String
  features : Features
  warnings : List String
  isDated : Bool
deriving Repr, DecidableEq

def Summary.findings (s : Summary) : Findings where
  reachable := s.reachable
  socksOk := s.socksOk
  connectOk := s.connectOk
  udpOk := s.udpOk
  timed := s.latencies.names
  features := s.features
  warnings := s.warnings
  isDated := s.lastChecked.isSome

/-- Two reports say the same, up to the readings of the clock. -/
structure Report.Agree (r r' : Report) : Prop where
  result : r.result = r'.result
  findings : r.summary.findings = r'.summary.findings
  sent : r.sent = r'.sent

theorem Report.Agree.dated {r r' : Report} (h : r.Agree r') (finished finished' : Time.Timestamp) :
    (r.dated finished).Agree (r'.dated finished') := by
  refine ⟨h.result, ?_, h.sent⟩
  have hfindings : ∀ (r : Report) finished,
      (r.dated finished).summary.findings = { r.summary.findings with isDated := true } :=
    fun _ _ => rfl
  rw [hfindings, hfindings, h.findings]

theorem names_latencies (timing timing' : Timing) (steps : List Step) :
    (timing.latencies steps).names = (timing'.latencies steps).names := by
  -- entries made before may have been made by different clocks, too
  have hfold : ∀ l l' : Latencies, l.names = l'.names →
      (steps.foldl (fun l step => l.insert step.key (timing.latency step)) l).names =
        (steps.foldl (fun l step => l.insert step.key (timing'.latency step)) l').names := by
    induction steps with
    | nil => exact fun l l' h => h
    | cons step steps ih =>
        intro l l' h
        exact ih _ _ (Latencies.names_insert_congr h)
  exact hfold .empty .empty rfl

/-! ## The course of three dialogues -/

section Dialogues

variable {greet : Dialogue AuthMethod} {connect relay : Dialogue Unit} {relays : Bool}
  {bytes : Bytes}

/-- The course of three dialogues that are held one after the other. The last one is held only if
`relays` is set. -/
def Course.of (greet : Dialogue AuthMethod) (connect relay : Dialogue Unit) (relays : Bool)
    (bytes : Bytes) : Course :=
  let greeted := greet.trace bytes
  match greeted.ending with
  | .error halt => .ungreeted halt greeted.sent
  | .ok method =>
      let asked := connect.trace greeted.rest
      match asked.ending with
      | .error halt => .unconnected method halt (greeted.sent ++ asked.sent)
      | .ok () =>
          if relays then
            let told := relay.trace asked.rest
            .connected method (some told.ending) (greeted.sent ++ asked.sent ++ told.sent)
          else .connected method none (greeted.sent ++ asked.sent)

/-- What a course says about its dialogues. -/
inductive Course.Takes (greet : Dialogue AuthMethod) (connect relay : Dialogue Unit)
    (relays : Bool) (bytes : Bytes) : Course → Prop where
  | ungreeted {halt : Halt} {greeted rest : Bytes}
      (hgreeted : greet.trace bytes = ⟨.error halt, greeted, rest⟩) :
      Takes greet connect relay relays bytes (.ungreeted halt greeted)
  | unconnected {method : AuthMethod} {halt : Halt} {greeted first asked rest : Bytes}
      (hgreeted : greet.trace bytes = ⟨.ok method, greeted, first⟩)
      (hasked : connect.trace first = ⟨.error halt, asked, rest⟩) :
      Takes greet connect relay relays bytes (.unconnected method halt (greeted ++ asked))
  | connected {method : AuthMethod} {greeted first asked rest : Bytes}
      (hgreeted : greet.trace bytes = ⟨.ok method, greeted, first⟩)
      (hasked : connect.trace first = ⟨.ok (), asked, rest⟩)
      (htest : relays = false) :
      Takes greet connect relay relays bytes (.connected method none (greeted ++ asked))
  | associated {method : AuthMethod} {udp : Except Halt Unit}
      {greeted first asked second told rest : Bytes}
      (hgreeted : greet.trace bytes = ⟨.ok method, greeted, first⟩)
      (hasked : connect.trace first = ⟨.ok (), asked, second⟩)
      (htest : relays = true)
      (htold : relay.trace second = ⟨udp, told, rest⟩) :
      Takes greet connect relay relays bytes
        (.connected method (some udp) (greeted ++ asked ++ told))

theorem Course.takes_of (greet : Dialogue AuthMethod) (connect relay : Dialogue Unit)
    (relays : Bool) (bytes : Bytes) :
    Takes greet connect relay relays bytes (.of greet connect relay relays bytes) := by
  unfold Course.of
  rcases hgreeted : greet.trace bytes with ⟨halt | method, greeted, first⟩
  · exact .ungreeted hgreeted
  simp only
  rcases hasked : connect.trace first with ⟨halt | _, asked, second⟩
  · exact .unconnected hgreeted hasked
  cases htest : relays with
  | false => exact .connected hgreeted hasked rfl
  | true => exact .associated hgreeted hasked rfl rfl

/-- The dialogues determine the course. -/
theorem Course.of_eq_iff {c : Course} :
    .of greet connect relay relays bytes = c ↔ Takes greet connect relay relays bytes c := by
  constructor
  · rintro rfl
    exact takes_of greet connect relay relays bytes
  · intro h
    cases h with
    | ungreeted hgreeted => simp only [Course.of, hgreeted]
    | unconnected hgreeted hasked => simp only [Course.of, hgreeted, hasked]
    | connected hgreeted hasked htest => simp [Course.of, hgreeted, hasked, htest]
    | associated hgreeted hasked htest htold =>
        simp only [Course.of, hgreeted, hasked, htest, htold, if_true]

/-- One of the dialogues halts, in the given step; all before it have come to their ends. -/
inductive Course.Halts (greet : Dialogue AuthMethod) (connect relay : Dialogue Unit)
    (relays : Bool) (bytes : Bytes) : Step → Halt → Prop where
  | socksHandshake {halt : Halt} {greeted rest : Bytes}
      (hgreeted : greet.trace bytes = ⟨.error halt, greeted, rest⟩) :
      Halts greet connect relay relays bytes .socksHandshake halt
  | connect {method : AuthMethod} {halt : Halt} {greeted first asked rest : Bytes}
      (hgreeted : greet.trace bytes = ⟨.ok method, greeted, first⟩)
      (hasked : connect.trace first = ⟨.error halt, asked, rest⟩) :
      Halts greet connect relay relays bytes .connect halt
  | udpAssociate {method : AuthMethod} {halt : Halt} {greeted first asked second told rest : Bytes}
      (hgreeted : greet.trace bytes = ⟨.ok method, greeted, first⟩)
      (hasked : connect.trace first = ⟨.ok (), asked, second⟩)
      (htest : relays = true)
      (htold : relay.trace second = ⟨.error halt, told, rest⟩) :
      Halts greet connect relay relays bytes .udpAssociate halt

/-- The course knows the dialogue that halts. -/
theorem Course.halt?_of_eq_some_iff {step : Step} {halt : Halt} :
    (Course.of greet connect relay relays bytes).halt? = some (step, halt) ↔
      Halts greet connect relay relays bytes step halt := by
  constructor
  · intro hhalt
    have htakes := takes_of greet connect relay relays bytes
    generalize Course.of greet connect relay relays bytes = c at htakes hhalt
    cases htakes with
    | ungreeted hgreeted =>
        cases hhalt
        exact .socksHandshake hgreeted
    | unconnected hgreeted hasked =>
        cases hhalt
        exact .connect hgreeted hasked
    | connected => cases hhalt
    | @associated _ udp _ _ _ _ _ _ hgreeted hasked htest htold =>
        cases udp with
        | ok _ => cases hhalt
        | error _ =>
            cases hhalt
            exact .udpAssociate hgreeted hasked htest htold
  · intro h
    cases h with
    | socksHandshake hgreeted =>
        rw [of_eq_iff.mpr (.ungreeted hgreeted)]
        rfl
    | connect hgreeted hasked =>
        rw [of_eq_iff.mpr (.unconnected hgreeted hasked)]
        rfl
    | udpAssociate hgreeted hasked htest htold =>
        rw [of_eq_iff.mpr (.associated hgreeted hasked htest htold)]
        rfl

end Dialogues

/-! ## The course of a run -/

namespace Plan

/-- The course of a run with a peer that sends `bytes`. -/
def course (plan : Plan) (bytes : Bytes) : Course :=
  .of (handshake plan.auth) (ask .connect plan.target) (ask .udpAssociate Address.unspecified)
    plan.udpTest bytes

/-- The course of a run some of whose actions are cut off. -/
def cutCourse (plan : Plan) (cuts : Step → Cuts) (bytes : Bytes) : Course :=
  .of ((handshake plan.auth).cutBy (cuts .socksHandshake))
    ((ask .connect plan.target).cutBy (cuts .connect))
    ((ask .udpAssociate Address.unspecified).cutBy (cuts .udpAssociate)) plan.udpTest bytes

theorem cutCourse_never (plan : Plan) (bytes : Bytes) :
    plan.cutCourse (fun _ => .never) bytes = plan.course bytes := by
  simp only [cutCourse, course, cutBy_never]

/-- The dialogues behind the course of a run. -/
abbrev Takes (plan : Plan) (bytes : Bytes) : Course → Prop :=
  Course.Takes (handshake plan.auth) (ask .connect plan.target)
    (ask .udpAssociate Address.unspecified) plan.udpTest bytes

/-- What the cuts leave of the dialogues behind the course of a run. -/
abbrev CutTakes (plan : Plan) (cuts : Step → Cuts) (bytes : Bytes) : Course → Prop :=
  Course.Takes ((handshake plan.auth).cutBy (cuts .socksHandshake))
    ((ask .connect plan.target).cutBy (cuts .connect))
    ((ask .udpAssociate Address.unspecified).cutBy (cuts .udpAssociate)) plan.udpTest bytes

end Plan

theorem takes_course (plan : Plan) (bytes : Bytes) : plan.Takes bytes (plan.course bytes) :=
  Course.takes_of ..

theorem course_eq_iff {plan : Plan} {bytes : Bytes} {c : Course} :
    plan.course bytes = c ↔ plan.Takes bytes c :=
  Course.of_eq_iff

theorem takes_cutCourse (plan : Plan) (cuts : Step → Cuts) (bytes : Bytes) :
    plan.CutTakes cuts bytes (plan.cutCourse cuts bytes) :=
  Course.takes_of ..

theorem cutCourse_eq_iff {plan : Plan} {cuts : Step → Cuts} {bytes : Bytes} {c : Course} :
    plan.cutCourse cuts bytes = c ↔ plan.CutTakes cuts bytes c :=
  Course.of_eq_iff

section Runs

variable {plan : Plan} {bytes : Bytes}

theorem method?_course_eq_some_iff {method : AuthMethod} :
    (plan.course bytes).method? = some method ↔
      ∃ greeted first, (handshake plan.auth).trace bytes = ⟨.ok method, greeted, first⟩ := by
  have htakes := takes_course plan bytes
  generalize plan.course bytes = c at htakes ⊢
  cases htakes <;> simp_all [Course.method?]

theorem isConnected_course_iff :
    (plan.course bytes).isConnected = true ↔
      ∃ method greeted first asked rest,
        (handshake plan.auth).trace bytes = ⟨.ok method, greeted, first⟩
        ∧ (ask .connect plan.target).trace first = ⟨.ok (), asked, rest⟩ := by
  constructor
  · intro h
    have htakes := takes_course plan bytes
    generalize plan.course bytes = c at htakes h
    cases htakes with
    | ungreeted => cases h
    | unconnected => cases h
    | connected hgreeted hasked => exact ⟨_, _, _, _, _, hgreeted, hasked⟩
    | associated hgreeted hasked => exact ⟨_, _, _, _, _, hgreeted, hasked⟩
  · rintro ⟨method, greeted, first, asked, rest, hgreeted, hasked⟩
    cases htest : plan.udpTest with
    | false => rw [course_eq_iff.mpr (.connected hgreeted hasked htest)]; rfl
    | true => rw [course_eq_iff.mpr (.associated hgreeted hasked htest rfl)]; rfl

theorem isAssociated_course_iff :
    (plan.course bytes).isAssociated = true ↔
      plan.udpTest = true ∧ ∃ method greeted first asked second told rest,
        (handshake plan.auth).trace bytes = ⟨.ok method, greeted, first⟩
        ∧ (ask .connect plan.target).trace first = ⟨.ok (), asked, second⟩
        ∧ (ask .udpAssociate Address.unspecified).trace second = ⟨.ok (), told, rest⟩ := by
  constructor
  · intro h
    have htakes := takes_course plan bytes
    generalize plan.course bytes = c at htakes h
    cases htakes with
    | ungreeted => cases h
    | unconnected => cases h
    | connected => cases h
    | @associated _ udp _ _ _ _ _ _ hgreeted hasked htest htold =>
        cases udp with
        | error halt => cases h
        | ok _ => exact ⟨htest, _, _, _, _, _, _, _, hgreeted, hasked, htold⟩
  · rintro ⟨htest, method, greeted, first, asked, second, told, rest, hgreeted, hasked, htold⟩
    rw [course_eq_iff.mpr (.associated hgreeted hasked htest htold)]
    rfl

end Runs

/-! ## The bridge to the engine -/

/-- The engine reports the course of its run. -/
theorem run_accepted (plan : Plan) (timing : Timing) (peer : Peer) (cuts : Step → Cuts) :
    plan.run timing (.accepted peer cuts) =
      (plan.cutCourse cuts peer.bytes).report plan timing peer.stall := by
  simp only [Plan.run, Plan.runSession, Plan.runRequests, Plan.cutCourse, Course.of,
    run_eq_outcome]
  rcases ((handshake plan.auth).cutBy _).trace peer.bytes with ⟨halt | method, greeted, first⟩
  · rfl
  simp only [Trace.outcome_ok]
  rcases ((ask .connect plan.target).cutBy _).trace first with ⟨halt | _, asked, second⟩
  · rfl
  simp only [Trace.outcome_ok]
  cases plan.udpTest with
  | false => rfl
  | true =>
      rcases ((ask .udpAssociate Address.unspecified).cutBy _).trace second with
        ⟨halt | _, told, rest⟩ <;> rfl

/-- The report of a request that is refused. -/
theorem run_of_refused {request : ProbeRequest} {failure : ProbeFailure}
    (hplan : request.plan = .error failure) (signal : Signal) (timing : Timing) (dial : Dial) :
    request.run signal timing dial =
      ⟨{ lastChecked := some timing.finished }, .error failure, none⟩ := by
  simp only [ProbeRequest.run, hplan]

/-- The report of a request that is not even dialled for, because the signal is on. -/
theorem run_of_raised {request : ProbeRequest} {plan : Plan} (hplan : request.plan = .ok plan)
    {signal : Signal} (hraised : signal.isRaised = true) (timing : Timing) (dial : Dial) :
    request.run signal timing dial =
      (Plan.stopped timing {} .tcpConnect (.cancelled .dial) none).dated timing.finished := by
  simp only [ProbeRequest.run, hplan, Signal.dial_of_raised hraised]
  rfl

/-- The report of a request whose plan is known, in a run without a signal and without cuts. -/
theorem run_of_plan {request : ProbeRequest} {plan : Plan} (hplan : request.plan = .ok plan)
    {signal : Signal} (hsignal : signal.isRaised = false) (timing : Timing) (peer : Peer) :
    request.run signal timing (.accepted peer) =
      ((plan.course peer.bytes).report plan timing peer.stall).dated timing.finished := by
  simp only [ProbeRequest.run, hplan, Signal.dial_of_off hsignal, run_accepted,
    Plan.cutCourse_never, Report.dated]

end SocksMonitor.Probing
