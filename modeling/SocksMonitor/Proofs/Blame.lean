import SocksMonitor.Proofs.Cuts
import SocksMonitor.Proofs.ReplyGrammar

/-!
# Failures name their cause

What a step reports when it fails, told from the peer's bytes. `GreetingFault` lists the answers to
a greeting that a client refuses, and `ReplyFault` the replies to a request; in both the field that
comes first on the wire is judged first, so an answer that is wrong in two ways has one cause only.
`Plan.Refuses` finds the refused answer among the bytes of a whole run, behind the words of the
grammar in `Proofs/ReplyGrammar.lean` that have been accepted until then.

- `refused_handshake_iff` and `refused_ask_iff`: the dialogues refuse exactly these answers.
- `fails_iff`: a step fails for no other reason than an action that is cut off, a refused answer or
  a wait that is not filled.
- `run_blames`: what a run returns, and what it swallows. The decoders' fault for a message that is
  too short and the encoder's fault for credentials that are too long are in neither.
-/

namespace SocksMonitor.Probing

open Socks (Address Command Credentials Reply)
open Dialogue

/-! ## Answers that are refused -/

/-- The bytes begin with an answer to the greeting, or one to the credentials behind it, that is
refused for the given cause. -/
inductive GreetingFault (auth : Option Credentials) : Bytes → StepFailure → Prop where
  | version {ver method : UInt8} {rest : Bytes} (hver : ver ≠ 0x05) :
      GreetingFault auth (ver :: method :: rest)
        (.framing .methodSelection (.unexpectedVersion ver))
  | noneAcceptable {rest : Bytes} : GreetingFault auth (0x05 :: 0xFF :: rest) .methodsRejected
  | unsupported {method : UInt8} {rest : Bytes} (h0 : method ≠ 0x00) (h2 : method ≠ 0x02)
      (hff : method ≠ 0xFF) :
      GreetingFault auth (0x05 :: method :: rest) (.unsupportedMethod method)
  | unprovided {rest : Bytes} (hauth : auth = none) :
      GreetingFault auth (0x05 :: 0x02 :: rest) .credentialsRequired
  | userPassVersion {ver status : UInt8} {rest : Bytes} (hauth : auth.isSome = true)
      (hver : ver ≠ 0x01) : GreetingFault auth (0x05 :: 0x02 :: ver :: status :: rest)
        (.framing .userPassReply (.unexpectedVersion ver))
  | userPassStatus {status : UInt8} {rest : Bytes} (hauth : auth.isSome = true)
      (hstatus : status ≠ 0x00) :
      GreetingFault auth (0x05 :: 0x02 :: 0x01 :: status :: rest) .authFailed

/-- The bytes begin with a reply to a request that is refused for the given cause. -/
inductive ReplyFault : Bytes → StepFailure → Prop where
  | version {ver rep reserved atyp : UInt8} {rest : Bytes} (hver : ver ≠ 0x05) :
      ReplyFault (ver :: rep :: reserved :: atyp :: rest)
        (.framing .replyHeader (.unexpectedVersion ver))
  | rejected {rep reserved atyp : UInt8} {rest : Bytes} (hrep : rep ≠ 0x00) :
      ReplyFault (0x05 :: rep :: reserved :: atyp :: rest) (.rejected (Reply.ofCode rep))
  | addressType {reserved atyp : UInt8} {rest : Bytes} (h1 : atyp ≠ 0x01) (h3 : atyp ≠ 0x03)
      (h4 : atyp ≠ 0x04) : ReplyFault (0x05 :: 0x00 :: reserved :: atyp :: rest)
        (.framing .readBoundAddress (.unknownAddressType atyp))
  | emptyDomain {reserved : UInt8} {rest : Bytes} :
      ReplyFault (0x05 :: 0x00 :: reserved :: 0x03 :: 0x00 :: rest)
        (.framing .readBoundAddress .emptyBoundDomain)

/-! ## What the dialogues refuse -/

section Dialogues

variable {auth : Option Credentials} {cause : StepFailure} {bytes : Bytes}

theorem fault_of_refused_authenticate {credentials : Credentials}
    (hfits : Socks.checkCredentials credentials = .ok ())
    (hrefused : ((authenticate credentials).trace bytes).ending = .error (.refused cause)) :
    GreetingFault (some credentials) (0x05 :: 0x02 :: bytes) cause := by
  match bytes with
  | [] | [_] =>
      rw [trace_authenticate_short hfits (by simp)] at hrefused
      cases hrefused
  | ver :: status :: rest =>
      rw [trace_authenticate_cons hfits] at hrefused
      by_cases hver : ver = 0x01
      · by_cases hstatus : status = 0x00
        · rw [if_pos hver, if_pos hstatus] at hrefused
          cases hrefused
        · rw [if_pos hver, if_neg hstatus] at hrefused
          cases hrefused
          subst hver
          exact .userPassStatus rfl hstatus
      · rw [if_neg hver] at hrefused
        cases hrefused
        exact .userPassVersion rfl hver

theorem fault_of_refused_answerMethod (hfits : Fits auth) {method : UInt8}
    (hrefused : ((answerMethod auth method).trace bytes).ending = .error (.refused cause)) :
    GreetingFault auth (0x05 :: method :: bytes) cause := by
  by_cases h0 : method = 0x00
  · subst h0
    rw [trace_answerMethod_noAuth] at hrefused
    cases hrefused
  by_cases h2 : method = 0x02
  · subst h2
    cases auth with
    | none =>
        rw [trace_answerMethod_userPass_none] at hrefused
        cases hrefused
        exact .unprovided rfl
    | some credentials =>
        rw [trace_answerMethod_userPass_some] at hrefused
        refine fault_of_refused_authenticate (hfits credentials rfl) ?_
        rcases htrace : (authenticate credentials).trace bytes with ⟨halt | _, sent, rest⟩
        · rw [htrace] at hrefused
          cases hrefused
          rfl
        · rw [htrace] at hrefused
          cases hrefused
  by_cases hff : method = 0xFF
  · subst hff
    rw [trace_answerMethod_noneAcceptable] at hrefused
    cases hrefused
    exact .noneAcceptable
  · rw [trace_answerMethod_other h0 h2 hff] at hrefused
    cases hrefused
    exact .unsupported h0 h2 hff

theorem fault_of_refused_handshake (hfits : Fits auth)
    (hrefused : ((handshake auth).trace bytes).ending = .error (.refused cause)) :
    GreetingFault auth bytes cause := by
  match bytes with
  | [] | [_] =>
      rw [trace_handshake_short (by simp)] at hrefused
      cases hrefused
  | ver :: method :: rest =>
      rw [trace_handshake_cons] at hrefused
      by_cases hver : ver = 0x05
      · rw [if_pos hver] at hrefused
        subst hver
        exact fault_of_refused_answerMethod hfits hrefused
      · rw [if_neg hver] at hrefused
        cases hrefused
        exact .version hver

/-- A handshake refuses the answers of `GreetingFault` and no others. -/
theorem refused_handshake_iff (hfits : Fits auth) :
    ((handshake auth).trace bytes).ending = .error (.refused cause) ↔
      GreetingFault auth bytes cause := by
  constructor
  · exact fault_of_refused_handshake hfits
  · intro hfault
    cases hfault with
    | version hver =>
        rw [trace_handshake_cons, if_neg hver]
        rfl
    | noneAcceptable => rfl
    | unsupported h0 h2 hff =>
        rw [trace_handshake_cons, if_pos rfl, trace_answerMethod_other h0 h2 hff]
        rfl
    | unprovided hauth =>
        subst hauth
        rfl
    | userPassVersion hauth hver =>
        obtain ⟨credentials, rfl⟩ := Option.isSome_iff_exists.mp hauth
        rw [trace_handshake_cons, if_pos rfl, trace_answerMethod_userPass_some,
          trace_authenticate_cons (hfits credentials rfl), if_neg hver]
        rfl
    | userPassStatus hauth hstatus =>
        obtain ⟨credentials, rfl⟩ := Option.isSome_iff_exists.mp hauth
        rw [trace_handshake_cons, if_pos rfl, trace_answerMethod_userPass_some,
          trace_authenticate_cons (hfits credentials rfl), if_pos rfl, if_neg hstatus]
        rfl

theorem skipped_ne_refused {op : Operation} {count : Nat} :
    (Trace.skipped op count bytes).ending ≠ .error (.refused cause) := by
  unfold Trace.skipped
  split <;> rintro ⟨⟩

theorem fault_of_refused_skipBoundAddress {reserved atyp : UInt8}
    (hrefused : ((skipBoundAddress atyp).trace bytes).ending = .error (.refused cause)) :
    ReplyFault (0x05 :: 0x00 :: reserved :: atyp :: bytes) cause := by
  by_cases h1 : atyp = 1
  · subst h1
    exact absurd hrefused skipped_ne_refused
  by_cases h4 : atyp = 4
  · subst h4
    exact absurd hrefused skipped_ne_refused
  by_cases h3 : atyp = 3
  · subst h3
    cases bytes with
    | nil => cases hrefused
    | cons length bytes =>
        rw [trace_skipBoundAddress_domain_cons] at hrefused
        by_cases hzero : length = 0
        · rw [if_pos hzero] at hrefused
          cases hrefused
          subst hzero
          exact .emptyDomain
        · rw [if_neg hzero] at hrefused
          exact absurd hrefused skipped_ne_refused
  · rw [trace_skipBoundAddress_unknown h1 h3 h4] at hrefused
    cases hrefused
    exact .addressType h1 h3 h4

theorem fault_of_refused_ask {command : Command} {address : Address}
    (hrefused : ((ask command address).trace bytes).ending = .error (.refused cause)) :
    ReplyFault bytes cause := by
  match bytes with
  | [] | [_] | [_, _] | [_, _, _] =>
      rw [trace_ask_short (by simp)] at hrefused
      cases hrefused
  | ver :: rep :: reserved :: atyp :: rest =>
      rw [trace_ask_cons] at hrefused
      by_cases hver : ver = 0x05
      · by_cases hrep : rep = 0x00
        · rw [if_pos hver, if_pos hrep] at hrefused
          subst hver hrep
          exact fault_of_refused_skipBoundAddress hrefused
        · rw [if_pos hver, if_neg hrep] at hrefused
          cases hrefused
          subst hver
          exact .rejected hrep
      · rw [if_neg hver] at hrefused
        cases hrefused
        exact .version hver

/-- A request refuses the replies of `ReplyFault` and no others. -/
theorem refused_ask_iff (command : Command) (address : Address) :
    ((ask command address).trace bytes).ending = .error (.refused cause) ↔
      ReplyFault bytes cause := by
  constructor
  · exact fault_of_refused_ask
  · intro hfault
    cases hfault with
    | version hver =>
        rw [trace_ask_cons, if_neg hver]
        rfl
    | rejected hrep =>
        rw [trace_ask_cons, if_pos rfl, if_neg hrep]
        rfl
    | addressType h1 h3 h4 =>
        rw [trace_ask_cons, if_pos rfl, if_pos rfl, trace_skipBoundAddress_unknown h1 h3 h4]
        rfl
    | emptyDomain => rfl

end Dialogues

/-! ## The answer that a run refuses -/

/-- A run refuses an answer in the given step, for the given cause; what the peer has sent before
that answer is as it should be. -/
inductive Plan.Refuses (plan : Plan) : Bytes → Step → StepFailure → Prop where
  | socksHandshake {bytes : Bytes} {cause : StepFailure}
      (hfault : GreetingFault plan.auth bytes cause) : Refuses plan bytes .socksHandshake cause
  | connect {method : AuthMethod} {selection answer : Bytes} {cause : StepFailure}
      (hsettled : Settled plan.auth method selection) (hfault : ReplyFault answer cause) :
      Refuses plan (selection ++ answer) .connect cause
  | udpAssociate {method : AuthMethod} {selection reply answer : Bytes} {cause : StepFailure}
      (htest : plan.udpTest = true) (hsettled : Settled plan.auth method selection)
      (hgranted : Granted reply) (hfault : ReplyFault answer cause) :
      Refuses plan (selection ++ (reply ++ answer)) .udpAssociate cause

section Runs

variable {plan : Plan} {bytes : Bytes} {peer : Peer} {cuts : Step → Cuts} {step : Step}
  {cause : StepFailure}

theorem refuses_socksHandshake_iff :
    plan.Refuses bytes .socksHandshake cause ↔ GreetingFault plan.auth bytes cause := by
  constructor
  · rintro ⟨hfault⟩
    exact hfault
  · exact .socksHandshake

theorem refuses_connect_iff :
    plan.Refuses bytes .connect cause ↔
      ∃ method selection answer, Settled plan.auth method selection ∧ ReplyFault answer cause
        ∧ bytes = selection ++ answer := by
  constructor
  · rintro ⟨⟩
    exact ⟨_, _, _, ‹_›, ‹_›, rfl⟩
  · rintro ⟨method, selection, answer, hsettled, hfault, rfl⟩
    exact .connect hsettled hfault

theorem refuses_udpAssociate_iff :
    plan.Refuses bytes .udpAssociate cause ↔
      plan.udpTest = true ∧ ∃ method selection reply answer, Settled plan.auth method selection
        ∧ Granted reply ∧ ReplyFault answer cause ∧ bytes = selection ++ (reply ++ answer) := by
  constructor
  · rintro ⟨⟩
    exact ⟨‹_›, _, _, _, _, ‹_›, ‹_›, ‹_›, rfl⟩
  · rintro ⟨htest, method, selection, reply, answer, hsettled, hgranted, hfault, rfl⟩
    exact .udpAssociate htest hsettled hgranted hfault

theorem refuses_iff_halt? (hfits : Fits plan.auth) :
    plan.Refuses bytes step cause ↔
      (plan.course bytes).halt? = some (step, .refused cause) := by
  rw [Plan.course, Course.halt?_of_eq_some_iff]
  constructor
  · intro h
    cases h with
    | socksHandshake hfault =>
        exact .socksHandshake (Trace.eq_of_ending ((refused_handshake_iff hfits).mpr hfault))
    | @connect method selection answer _ hsettled hfault =>
        obtain ⟨greeted, hgreeted⟩ := (accepts_handshake hfits).trace_word method hsettled answer
        exact .connect hgreeted (Trace.eq_of_ending ((refused_ask_iff _ _).mpr hfault))
    | @udpAssociate method selection reply answer _ htest hsettled hgranted hfault =>
        obtain ⟨greeted, hgreeted⟩ :=
          (accepts_handshake hfits).trace_word method hsettled (reply ++ answer)
        obtain ⟨asked, hasked⟩ :=
          (accepts_ask .connect plan.target).trace_word () hgranted answer
        exact .udpAssociate hgreeted hasked htest
          (Trace.eq_of_ending ((refused_ask_iff _ _).mpr hfault))
  · intro h
    cases h with
    | socksHandshake hgreeted =>
        exact .socksHandshake (fault_of_refused_handshake hfits (by rw [hgreeted]))
    | connect hgreeted hasked =>
        obtain ⟨selection, hsettled, rfl⟩ := (accepts_handshake hfits).split hgreeted
        exact .connect hsettled (fault_of_refused_ask (by rw [hasked]))
    | udpAssociate hgreeted hasked htest htold =>
        obtain ⟨selection, hsettled, rfl⟩ := (accepts_handshake hfits).split hgreeted
        obtain ⟨reply, hgranted, rfl⟩ := (accepts_ask _ _).split hasked
        exact .udpAssociate htest hsettled hgranted (fault_of_refused_ask (by rw [htold]))

/-- A step fails on an action that is cut off. In a run that comes to none it fails on an answer
that is refused or on a wait that is not filled, and for no other reason. -/
theorem fails_iff (hfits : Fits plan.auth) :
    plan.Fails (.accepted peer cuts) step cause ↔
      (∃ op i, plan.CutAt peer cuts step op i ∧ cause = i.failure op)
        ∨ plan.Undisturbed peer cuts ∧ (plan.Refuses peer.bytes step cause
          ∨ ∃ op, plan.Stalls peer.bytes step op ∧ cause = peer.stall.failure op) := by
  by_cases hwhole : plan.Undisturbed peer cuts
  · have huncut : ¬ ∃ op i, plan.CutAt peer cuts step op i ∧ cause = i.failure op := by
      rintro ⟨op, i, hcut, -⟩
      exact hwhole step op i hcut
    rw [or_iff_right huncut, and_iff_right hwhole, fails_iff_halt?,
      cutCourse_of_undisturbed hwhole]
    simp only [refuses_iff_halt? hfits, stalls_iff_halt?]
    constructor
    · rintro ⟨halt | op, hhalt, rfl⟩
      · exact .inl hhalt
      · exact .inr ⟨op, hhalt, rfl⟩
    · rintro (hhalt | ⟨op, hhalt, rfl⟩)
      · exact ⟨_, hhalt, rfl⟩
      · exact ⟨_, hhalt, rfl⟩
  · -- the run fails at its first cut, and nowhere else
    obtain ⟨step', op, i, hcut⟩ : ∃ step op i, plan.CutAt peer cuts step op i := by
      simpa only [Plan.Undisturbed, Classical.not_forall, Classical.not_not] using hwhole
    rw [or_iff_left fun h => hwhole h.1]
    constructor
    · intro hfails
      obtain ⟨rfl, rfl⟩ := (fails_of_cutAt hcut).unique hfails
      exact ⟨op, i, hcut, rfl⟩
    · rintro ⟨op', i', hcut', rfl⟩
      exact fails_of_cutAt hcut'

/-- Whatever a proxy answers, it is not blamed for a message of the client or for one that has not
come to its end. -/
theorem cause_of_refuses (h : plan.Refuses bytes step cause) :
    cause.kind = .protocol
      ∧ ∀ op, cause ≠ .framing op .tooShort ∧ cause ≠ .framing op .credentialTooLong := by
  cases h with
  | socksHandshake hfault => cases hfault <;> simp [StepFailure.kind]
  | connect _ hfault => cases hfault <;> simp [StepFailure.kind]
  | udpAssociate _ _ _ hfault => cases hfault <;> simp [StepFailure.kind]

theorem fails_failed_iff {stall : Interruption} :
    plan.Fails (.failed stall) step cause ↔ step = .tcpConnect ∧ cause = stall.failure .dial := by
  constructor
  · rintro ⟨⟩
    exact ⟨rfl, rfl⟩
  · rintro ⟨rfl, rfl⟩
    exact .tcpConnect stall

theorem fails_iff_refuses (hfits : Fits plan.auth) (hkind : cause.kind = .protocol) :
    plan.Fails (.accepted peer cuts) step cause ↔
      plan.Undisturbed peer cuts ∧ plan.Refuses peer.bytes step cause := by
  have hfailure : ∀ (op : Operation) (i : Interruption), cause ≠ i.failure op := by
    rintro op i rfl
    rw [Interruption.kind_failure] at hkind
    cases hkind
  rw [fails_iff hfits, or_iff_right]
  · refine and_congr_right fun _ => or_iff_left ?_
    exact fun ⟨op, _, hcause⟩ => hfailure op _ hcause
  · exact fun ⟨op, i, _, hcause⟩ => hfailure op i hcause

theorem fails_iff_cut_or_stalls (hfits : Fits plan.auth) (hkind : cause.kind = .transport) :
    plan.Fails (.accepted peer cuts) step cause ↔
      (∃ op i, plan.CutAt peer cuts step op i ∧ cause = i.failure op)
        ∨ plan.Undisturbed peer cuts
          ∧ ∃ op, plan.Stalls peer.bytes step op ∧ cause = peer.stall.failure op := by
  rw [fails_iff hfits]
  refine or_congr_right (and_congr_right fun _ => or_iff_right fun hrefuses => ?_)
  rw [(cause_of_refuses hrefuses).1] at hkind
  cases hkind

/-- No step fails with a decoder's fault for a message that is not whole, or with the encoder's for
credentials that do not fit. -/
theorem guarded_of_fails (hfits : Fits plan.auth) {dial : Dial}
    (hfails : plan.Fails dial step cause) (op : Operation) :
    cause ≠ .framing op .tooShort ∧ cause ≠ .framing op .credentialTooLong := by
  have hcut : ∀ (op' : Operation) (i : Interruption),
      i.failure op' ≠ .framing op .tooShort ∧ i.failure op' ≠ .framing op .credentialTooLong := by
    intro op' i
    cases i <;> simp [Interruption.failure]
  cases dial with
  | failed stall =>
      obtain ⟨-, rfl⟩ := fails_failed_iff.mp hfails
      exact hcut .dial stall
  | accepted peer cuts =>
      rcases (fails_iff hfits).mp hfails with ⟨op', i, -, rfl⟩ | ⟨-, hrefuses | ⟨op', -, rfl⟩⟩
      · exact hcut op' i
      · exact (cause_of_refuses hrefuses).2 op
      · exact hcut op' peer.stall

theorem exists_operation_of_fails (hfits : Fits plan.auth) {dial : Dial}
    (hfails : plan.Fails dial step cause) (hkind : cause.kind = .transport) :
    ∃ op ∈ step.operations, ∃ i : Interruption, cause = i.failure op := by
  cases dial with
  | failed stall =>
      obtain ⟨rfl, rfl⟩ := fails_failed_iff.mp hfails
      exact ⟨.dial, List.mem_singleton.mpr rfl, stall, rfl⟩
  | accepted peer cuts =>
      rcases (fails_iff_cut_or_stalls hfits hkind).mp hfails with
        ⟨op, i, hcut, rfl⟩ | ⟨-, op, hstalls, rfl⟩
      · exact ⟨op, mem_operations_of_cutAt hcut, i, rfl⟩
      · exact ⟨op, mem_operations_of_stalls hstalls, peer.stall, rfl⟩

/-! ## What a run returns -/

/-- The failure of a step is returned, unless it is that of the UDP step. -/
theorem result_run_eq_step_iff (plan : Plan) (timing : Timing) (dial : Dial) :
    (plan.run timing dial).result = .error (.step step cause) ↔
      step ≠ .udpAssociate ∧ plan.Fails dial step cause := by
  cases dial with
  | failed stall =>
      rw [fails_failed_iff]
      constructor
      · rintro ⟨⟩
        exact ⟨by decide, rfl, rfl⟩
      · rintro ⟨-, rfl, rfl⟩
        rfl
  | accepted peer cuts =>
      rw [run_accepted, fails_iff_halt?]
      show (plan.cutCourse cuts peer.bytes).result peer.stall = _ ↔ _
      rw [Course.result_eq]
      rcases (plan.cutCourse cuts peer.bytes).halt? with _ | ⟨step', halt⟩
      · simp
      · by_cases hudp : step' = .udpAssociate
        · subst hudp
          simp only [if_true, Option.some.injEq, Prod.mk.injEq]
          refine iff_of_false (by rintro ⟨⟩) ?_
          rintro ⟨hstep, _, ⟨rfl, rfl⟩, -⟩
          exact hstep rfl
        · simp only [if_neg hudp, Except.error.injEq, ProbeFailure.step.injEq, Option.some.injEq,
            Prod.mk.injEq]
          constructor
          · rintro ⟨rfl, rfl⟩
            exact ⟨hudp, halt, ⟨rfl, rfl⟩, rfl⟩
          · rintro ⟨-, _, ⟨rfl, rfl⟩, rfl⟩
            exact ⟨rfl, rfl⟩

end Runs

theorem warnings_of_fails {plan : Plan} {dial : Dial} {step : Step} {cause : StepFailure}
    (hfails : plan.Fails dial step cause) (timing : Timing) :
    (plan.run timing dial).summary.warnings = [(ProbeFailure.step step cause).message] := by
  cases dial with
  | failed stall =>
      obtain ⟨rfl, rfl⟩ := fails_failed_iff.mp hfails
      rfl
  | accepted peer cuts =>
      obtain ⟨halt, hhalt, rfl⟩ := fails_iff_halt?.mp hfails
      rw [run_accepted]
      simp only [Course.report, Course.warnings, hhalt]

theorem result_of_fails_udpAssociate {plan : Plan} {dial : Dial} {cause : StepFailure}
    (hfails : plan.Fails dial .udpAssociate cause) (timing : Timing) :
    (plan.run timing dial).result = .ok () := by
  cases dial with
  | failed stall => cases hfails
  | accepted peer cuts =>
      obtain ⟨halt, hhalt, rfl⟩ := fails_iff_halt?.mp hfails
      rw [run_accepted]
      show (plan.cutCourse cuts peer.bytes).result peer.stall = _
      rw [Course.result_eq, hhalt]
      rfl

/-- What the failures of a run say, of a request whose dial comes to `dial`. -/
structure Blames (request : ProbeRequest) (dial : Dial) (report : Report) : Prop where
  /-- A failure that is returned is that of the step that fails. It is not the UDP step. -/
  returned : ∀ step cause, report.result = .error (.step step cause) ↔
    step ≠ .udpAssociate ∧ ∃ plan, request.plan = .ok plan ∧ plan.Fails dial step cause
  /-- The failure of the UDP step is the warning instead. -/
  swallowed : ∀ plan cause, request.plan = .ok plan → plan.Fails dial .udpAssociate cause →
    report.result = .ok ()
      ∧ report.summary.warnings = [(ProbeFailure.step .udpAssociate cause).message]
  /-- Decoders are asked for whole messages, and the encoder for credentials that fit. -/
  guarded : ∀ plan step cause, request.plan = .ok plan → plan.Fails dial step cause →
    ∀ op, cause ≠ .framing op .tooShort ∧ cause ≠ .framing op .credentialTooLong
  tcpConnect : ∀ plan cause, request.plan = .ok plan →
    (report.result = .error (.step .tcpConnect cause) ↔
      ∃ stall, dial = .failed stall ∧ cause = stall.failure .dial)
  /-- Behind the dial, a failure of the connection is an action that is cut off, a write or a read.
  If the run comes to none, it is a wait that is not filled. -/
  transport : ∀ plan peer cuts step cause, request.plan = .ok plan →
    dial = .accepted peer cuts → cause.kind = .transport → (plan.Fails dial step cause ↔
      (∃ op i, plan.CutAt peer cuts step op i ∧ cause = i.failure op)
        ∨ plan.Undisturbed peer cuts
          ∧ ∃ op, plan.Stalls peer.bytes step op ∧ cause = peer.stall.failure op)
  /-- It names an action of its step. -/
  operation : ∀ plan step cause, request.plan = .ok plan → plan.Fails dial step cause →
    cause.kind = .transport → ∃ op ∈ step.operations, ∃ i : Interruption, cause = i.failure op
  /-- Every other failure is an answer of the proxy that is refused, in a run that comes to no
  cut. -/
  socksHandshake : ∀ plan peer cuts cause, request.plan = .ok plan →
    dial = .accepted peer cuts → cause.kind = .protocol →
      (report.result = .error (.step .socksHandshake cause) ↔
        plan.Undisturbed peer cuts ∧ GreetingFault request.auth peer.bytes cause)
  connect : ∀ plan peer cuts cause, request.plan = .ok plan → dial = .accepted peer cuts →
    cause.kind = .protocol → (report.result = .error (.step .connect cause) ↔
      plan.Undisturbed peer cuts ∧ ∃ method selection answer,
        Settled request.auth method selection ∧ ReplyFault answer cause
          ∧ peer.bytes = selection ++ answer)
  udpAssociate : ∀ plan peer cuts cause, request.plan = .ok plan → dial = .accepted peer cuts →
    cause.kind = .protocol → (plan.Fails dial .udpAssociate cause ↔
      plan.Undisturbed peer cuts ∧ request.udpTest = true ∧ ∃ method selection reply answer,
        Settled request.auth method selection ∧ Granted reply ∧ ReplyFault answer cause
          ∧ peer.bytes = selection ++ (reply ++ answer))
  /-- A connection without cuts leaves every run undisturbed. -/
  undisturbed : ∀ (plan : Plan) peer, plan.Undisturbed peer fun _ => .never

section Plans

variable {request : ProbeRequest} {plan : Plan}

/-- A request without a plan is refused before any step. -/
theorem blames_refused {failure : ProbeFailure} (hplan : request.plan = .error failure)
    (dial : Dial) (finished : Time.Timestamp) :
    Blames request dial ⟨{ lastChecked := some finished }, .error failure, none⟩ := by
  have hnone : ∀ plan, request.plan ≠ .ok plan := by
    intro plan h
    rw [hplan] at h
    cases h
  constructor
  case returned =>
    intro step cause
    refine iff_of_false ?_ ?_
    · intro hstep
      cases hstep
      exact ProbeFailure.kind_step_ne_input _ _ (ProbeRequest.kind_of_plan_error hplan)
    · rintro ⟨-, plan, h, -⟩
      exact hnone plan h
  case undisturbed => exact undisturbed_never
  all_goals
    intro plan
    intros
    exact absurd ‹request.plan = .ok plan› (hnone plan)

theorem blames_run (hplan : request.plan = .ok plan) (timing : Timing) (dial : Dial)
    (finished : Time.Timestamp) :
    Blames request dial ((plan.run timing dial).dated finished) := by
  obtain ⟨-, -, -, hauth, htest⟩ := ProbeRequest.of_plan hplan
  have hfits := fits_of_plan hplan
  have hreturned : ∀ step cause, (plan.run timing dial).result = .error (.step step cause) ↔
      step ≠ .udpAssociate ∧ plan.Fails dial step cause :=
    fun step cause => result_run_eq_step_iff plan timing dial
  constructor
  case returned =>
    intro step cause
    refine (hreturned step cause).trans (and_congr_right fun _ => ?_)
    rw [hplan]
    simp
  case swallowed =>
    intro plan' cause hplan' hfails
    obtain rfl := Except.ok.inj (hplan.symm.trans hplan')
    exact ⟨result_of_fails_udpAssociate hfails timing, warnings_of_fails hfails timing⟩
  case guarded =>
    intro plan' step cause hplan' hfails
    obtain rfl := Except.ok.inj (hplan.symm.trans hplan')
    exact guarded_of_fails hfits hfails
  case tcpConnect =>
    intro plan' cause _
    refine (hreturned .tcpConnect cause).trans ((and_iff_right (by decide)).trans ?_)
    constructor
    · rintro ⟨stall⟩
      exact ⟨stall, rfl, rfl⟩
    · rintro ⟨stall, rfl, rfl⟩
      exact .tcpConnect stall
  case transport =>
    rintro plan' peer cuts step cause hplan' rfl hkind
    obtain rfl := Except.ok.inj (hplan.symm.trans hplan')
    exact fails_iff_cut_or_stalls hfits hkind
  case operation =>
    intro plan' step cause hplan' hfails hkind
    obtain rfl := Except.ok.inj (hplan.symm.trans hplan')
    exact exists_operation_of_fails hfits hfails hkind
  case socksHandshake =>
    rintro plan' peer cuts cause hplan' rfl hkind
    obtain rfl := Except.ok.inj (hplan.symm.trans hplan')
    rw [← hauth, ← refuses_socksHandshake_iff, ← fails_iff_refuses hfits hkind]
    exact (hreturned .socksHandshake cause).trans (and_iff_right (by decide))
  case connect =>
    rintro plan' peer cuts cause hplan' rfl hkind
    obtain rfl := Except.ok.inj (hplan.symm.trans hplan')
    rw [← hauth, ← refuses_connect_iff, ← fails_iff_refuses hfits hkind]
    exact (hreturned .connect cause).trans (and_iff_right (by decide))
  case udpAssociate =>
    rintro plan' peer cuts cause hplan' rfl hkind
    obtain rfl := Except.ok.inj (hplan.symm.trans hplan')
    rw [← hauth, ← htest, ← refuses_udpAssociate_iff]
    exact fails_iff_refuses hfits hkind
  case undisturbed => exact undisturbed_never

end Plans

/-- **Every failure names its true cause**: with any request, signal and dial, whatever the peer
sends, and whichever action of the run is cut off. -/
theorem run_blames (request : ProbeRequest) (signal : Signal) (timing : Timing) (dial : Dial) :
    Blames request (signal.dial dial) (request.run signal timing dial) := by
  unfold ProbeRequest.run
  cases hplan : request.plan with
  | error failure => exact blames_refused hplan _ _
  | ok plan => exact blames_run hplan timing _ timing.finished

/-- A proxy that refuses all methods is not blamed for a greeting that is cut off. -/
example :
    let request : ProbeRequest := { server := "proxy:1080" }
    let cuts : Step → Cuts := fun _ _ => some ⟨.cancelled, 1⟩
    (request.run .absent ⟨fun _ => 0, .epoch⟩ (.accepted ⟨[5, 255], .deadline⟩ cuts)).result =
      .error (.step .socksHandshake (.cancelled .writeGreeting)) := by
  rfl

end SocksMonitor.Probing
