import Mathlib.Data.List.Forall2
import SocksMonitor.Proofs.RouterStore
import SocksMonitor.Proofs.SentMessages

/-!
# Credentials stay on the wire

Of two runs that differ in their credentials alone, nobody can tell which is which but by the one
message that carries them. The reason is that a dialogue waits for the same bytes and ends in the
same way whatever its messages say: `Dialogue.muted` takes the messages out, and `muted_handshake`
finds the same handshake left for all credentials that fit behind their length bytes.

From there on secrecy is passed on: to the course of a run (`muted_course`), to its report
(`report_alike`), to one answer of the control plane (`answer_alike`) and to a whole history of
requests (`history_alike`). `credentials_concealed` collects what is and what is not to be seen.
-/

namespace SocksMonitor.Probing

open Socks (Address Command Credentials)
open Dialogue

/-! ## Dialogues without their messages -/

namespace Dialogue

variable {α β : Type}

/-- What a dialogue does but for what its messages say. -/
def muted : Dialogue α → Dialogue α
  | finish result => finish result
  | send op _ next => send op [] next.muted
  | receive op count next => receive op count fun bytes => (next bytes).muted

theorem muted_bind (d : Dialogue α) (f : α → Dialogue β) :
    (d.bind f).muted = d.muted.bind fun a => (f a).muted := by
  induction d with
  | finish result => cases result <;> rfl
  | send op message next ih => simp only [bind, muted, ih]
  | receive op count next ih => simp only [bind, muted, ih]

/-- Cuts take no notice of what messages say. -/
theorem muted_cutBy (d : Dialogue α) (cuts : Cuts) :
    (d.cutBy cuts).muted = d.muted.cutBy cuts := by
  induction d generalizing cuts with
  | finish result => rfl
  | send op message next ih =>
      simp only [cutBy, muted]
      cases cuts 0 with
      | some cut => simp only [muted, fail, List.take_nil]
      | none => simp only [muted, ih]
  | receive op count next ih =>
      simp only [cutBy, muted]
      cases cuts 0 with
      | some cut => rfl
      | none => simp only [muted, ih]

/-- Messages make no difference to the ending of a dialogue and to what it leaves. -/
theorem trace_muted (d : Dialogue α) (bytes : Bytes) :
    d.muted.trace bytes = ⟨(d.trace bytes).ending, [], (d.trace bytes).rest⟩ := by
  induction d generalizing bytes with
  | finish result => cases result <;> rfl
  | send op message next ih => simp only [muted, trace, ih, Trace.after, List.append_nil]
  | receive op count next ih =>
      simp only [muted, trace]
      split
      · exact ih _ _
      · rfl

end Dialogue

section Muted

variable {c c' : Credentials} (hfits : Socks.checkCredentials c = .ok ())
  (hfits' : Socks.checkCredentials c' = .ok ())

include hfits hfits'

theorem muted_authenticate : (authenticate c).muted = (authenticate c').muted := by
  -- past the check, credentials occur in the message alone
  simp only [authenticate, hfits, hfits']
  rfl

theorem muted_answerMethod (method : UInt8) :
    (answerMethod (some c) method).muted = (answerMethod (some c') method).muted := by
  unfold answerMethod
  split
  · rfl
  split
  · simp only [bind_eq, muted_bind, muted_authenticate hfits hfits']
  · rfl

/-- The handshake offers the same methods to all proxies, and goes on in the same way. -/
theorem muted_handshake : (handshake (some c)).muted = (handshake (some c')).muted := by
  simp only [handshake, bind_eq, muted_bind, muted_answerMethod hfits hfits', Option.isSome_some]

end Muted

/-! ## Courses and reports -/

namespace Course

/-- How far a run gets, whatever it sends. -/
def muted : Course → Course
  | ungreeted halt _ => ungreeted halt []
  | unconnected method halt _ => unconnected method halt []
  | connected method udp _ => connected method udp []

theorem report_muted (d : Course) (plan : Plan) (timing : Timing) (stall : Interruption) :
    d.muted.report plan timing stall = { d.report plan timing stall with sent := some [] } := by
  match d with
  | ungreeted .. | unconnected .. => rfl
  | connected _ none _ | connected _ (some (.ok ())) _ | connected _ (some (.error _)) _ => rfl

theorem requests_muted (d : Course) (target : Address) :
    d.muted.requests target = d.requests target := by
  match d with
  | ungreeted .. | unconnected .. | connected _ none _ | connected _ (some _) _ => rfl

end Course

/-- Handshakes that differ in nothing but messages get equally far. -/
theorem muted_of {greet greet' : Dialogue AuthMethod} (hmuted : greet.muted = greet'.muted)
    (connect relay : Dialogue Unit) (relays : Bool) (bytes : Bytes) :
    (Course.of greet connect relay relays bytes).muted =
      (Course.of greet' connect relay relays bytes).muted := by
  have htrace := congrArg (fun d => d.trace bytes) hmuted
  simp only [trace_muted, Trace.mk.injEq, true_and] at htrace
  obtain ⟨hending, hrest⟩ := htrace
  simp only [Course.of, hending, hrest]
  -- now both courses go through the same requests, and only what was sent before differs
  rcases (greet'.trace bytes).ending with halt | method
  · rfl
  simp only
  rcases (connect.trace (greet'.trace bytes).rest).ending with halt | _
  · rfl
  cases relays <;> rfl

/-- So do plans, wherever their runs are cut off. -/
theorem muted_cutCourse (plan : Plan) {auth auth' : Option Credentials}
    (hmuted : (handshake auth).muted = (handshake auth').muted) (cuts : Step → Cuts)
    (bytes : Bytes) :
    (Plan.cutCourse { plan with auth } cuts bytes).muted =
      (Plan.cutCourse { plan with auth := auth' } cuts bytes).muted :=
  muted_of (by rw [muted_cutBy, hmuted, muted_cutBy]) ..

/-- Two reports say the same, and leave open what was sent. -/
structure Report.Alike (r r' : Report) : Prop where
  result : r.result = r'.result
  summary : r.summary = r'.summary

/-- A report takes nothing from the messages of its course. -/
theorem report_alike (plan : Plan) (auth auth' : Option Credentials) {d d' : Course}
    (hmuted : d.muted = d'.muted) (timing : Timing) (stall : Interruption) :
    (d.report { plan with auth } timing stall).Alike
      (d'.report { plan with auth := auth' } timing stall) := by
  have hreport : d.muted.report { plan with auth } timing stall =
      d'.muted.report { plan with auth := auth' } timing stall := by
    rw [hmuted]
    rfl
  simp only [Course.report_muted, Report.mk.injEq] at hreport
  exact ⟨hreport.2.1, hreport.1⟩

/-! ## Runs -/

/-- The request with these credentials, or with none, in place of its own. -/
def ProbeRequest.offering (request : ProbeRequest) (auth : Option Credentials) : ProbeRequest :=
  { request with auth }

/-- A run of the request gets to talk to the peer, with these actions cut off, unless its
credentials are refused. -/
structure ProbeRequest.Meets (request : ProbeRequest) (signal : Signal) (dial : Dial)
    (peer : Peer) (cuts : Step → Cuts := fun _ => .never) : Prop where
  server : ∃ address, Address.read request.server = .ok address
  target : ∃ address, Address.read request.targetText = .ok address
  signal : signal.isRaised = false
  dial : dial = .accepted peer cuts

@[simp] theorem ProbeRequest.server_offering (request : ProbeRequest)
    (auth : Option Credentials) : (request.offering auth).server = request.server := rfl

@[simp] theorem ProbeRequest.targetText_offering (request : ProbeRequest)
    (auth : Option Credentials) : (request.offering auth).targetText = request.targetText := rfl

section Runs

variable {auth : Option Credentials} {request : ProbeRequest} {signal : Signal} {dial : Dial}

theorem fits_some {c : Credentials} (hfits : Socks.checkCredentials c = .ok ()) :
    Fits (some c) := by
  rintro _ ⟨⟩
  exact hfits

theorem checkAuth_offering (hfits : Fits auth) (request : ProbeRequest) :
    (request.offering auth).checkAuth = .ok () := by
  cases auth with
  | none => rfl
  | some c => exact hfits c rfl

/-- Credentials that fit are taken over into the plan, and change nothing else of it. -/
theorem plan_offering (hfits : Fits auth) (request : ProbeRequest) :
    (request.offering auth).plan = (request.offering none).plan.map ({ · with auth }) := by
  simp only [ProbeRequest.plan, checkAuth_offering hfits, checkAuth_offering fits_none,
    ProbeRequest.server_offering, ProbeRequest.targetText_offering]
  cases Address.read request.server with
  | error fault => rfl
  | ok server => cases Address.read request.targetText <;> rfl

/-- The readings of the clock show up in nothing but themselves. -/
theorem findings_run (request : ProbeRequest) (signal : Signal) (timing timing' : Timing)
    (dial : Dial) :
    (request.run signal timing dial).result = (request.run signal timing' dial).result
      ∧ (request.run signal timing dial).summary.findings =
        (request.run signal timing' dial).summary.findings := by
  unfold ProbeRequest.run
  cases request.plan with
  | error failure => exact ⟨rfl, rfl⟩
  | ok plan =>
      -- a latency enters the findings by its name
      have hnames := fun steps => names_latencies timing timing' steps
      cases signal.dial dial with
      | failed cause =>
          refine ⟨rfl, ?_⟩
          have htimed := hnames [.tcpConnect]
          simp only [Timing.latencies, List.foldl_cons, List.foldl_nil] at htimed
          simp [Plan.run, Plan.stopped, Summary.findings, Summary.warned, Summary.timed, htimed]
      | accepted peer cuts =>
          refine ⟨by simp only [run_accepted, Course.report], ?_⟩
          simp only [run_accepted, Course.report, Summary.findings, hnames]
          rfl

theorem agree_of_timing (request : ProbeRequest) (signal : Signal) (timing timing' : Timing)
    (dial : Dial) : (request.run signal timing dial).Agree (request.run signal timing' dial) := by
  obtain ⟨hresult, hfindings⟩ := findings_run request signal timing timing' dial
  refine ⟨hresult, hfindings, ?_⟩
  unfold ProbeRequest.run
  cases request.plan with
  | error failure => rfl
  | ok plan =>
      cases signal.dial dial with
      | failed cause => rfl
      | accepted peer cuts => simp only [run_accepted, Course.report]

theorem exists_plan_iff :
    (∃ plan, (request.offering none).plan = .ok plan) ↔
      (∃ address, Address.read request.server = .ok address)
        ∧ ∃ address, Address.read request.targetText = .ok address := by
  constructor
  · rintro ⟨plan, hplan⟩
    obtain ⟨hserver, htarget, -⟩ := ProbeRequest.of_plan hplan
    exact ⟨⟨plan.server, hserver⟩, ⟨plan.target, htarget⟩⟩
  · rintro ⟨⟨server, hserver⟩, ⟨target, htarget⟩⟩
    simp [ProbeRequest.plan, checkAuth_offering fits_none, hserver, htarget]

/-- A run talks to a peer exactly if there is a plan and the peer is dialled undisturbed. -/
theorem meets_iff {peer : Peer} {cuts : Step → Cuts} :
    request.Meets signal dial peer cuts ↔
      (∃ plan, (request.offering none).plan = .ok plan)
        ∧ signal.dial dial = .accepted peer cuts := by
  rw [exists_plan_iff]
  constructor
  · rintro ⟨hserver, htarget, hsignal, rfl⟩
    exact ⟨⟨hserver, htarget⟩, Signal.dial_of_off hsignal _⟩
  · rintro ⟨⟨hserver, htarget⟩, hdial⟩
    unfold Signal.dial at hdial
    split at hdial
    · cases hdial
    · next hsignal => exact ⟨hserver, htarget, Bool.eq_false_iff.mpr hsignal, hdial⟩

/-- A run that talks to no peer sends nothing. -/
theorem sent_of_not_meets (hfits : Fits auth)
    (hnobody : ∀ peer cuts, ¬ request.Meets signal dial peer cuts) (timing : Timing) :
    ((request.offering auth).run signal timing dial).sent = none := by
  simp only [ProbeRequest.run, plan_offering hfits]
  cases hplan : (request.offering none).plan with
  | error failure => rfl
  | ok plan =>
      cases hdial : signal.dial dial with
      | failed cause => rfl
      | accepted peer cuts =>
          exact absurd (meets_iff.mpr ⟨⟨plan, hplan⟩, hdial⟩) (hnobody peer cuts)

theorem disclosed_none (bytes : Bytes) : disclosed none bytes = none := by
  simp [disclosed]

/-- What a run says to its peer, and what a server reads of it. -/
theorem sent_offering (hfits : Fits auth) {plan : Plan}
    (hplan : (request.offering none).plan = .ok plan) {peer : Peer}
    (hdial : signal.dial dial = .accepted peer) (timing : Timing) :
    let told := disclosed auth peer.bytes
    let requests := (Plan.course { plan with auth } peer.bytes).requests plan.target
    let sent := Socks.greeting auth.isSome
      ++ (told.elim [] Socks.userPassMessage ++ requests.flatMap fun r => Socks.request r.1 r.2)
    ((request.offering auth).run signal timing dial).sent = some sent
      ∧ Socks.Server.speech? sent = some ⟨Socks.Method.offered auth.isSome,
          told.map Socks.Server.pairOf, requests.map fun r => ⟨.of r.1, .of r.2⟩⟩ := by
  intro told requests sent
  obtain ⟨-, htarget, -⟩ := ProbeRequest.of_plan hplan
  constructor
  · have hcourse : (Plan.course { plan with auth } peer.bytes).sent = sent := sent_course hfits
    simp only [ProbeRequest.run, plan_offering hfits, hplan, hdial, Except.map, run_accepted,
      Plan.cutCourse_never, Course.report, hcourse]
  · have hasked : ∀ r ∈ requests, r.2.Fits :=
      fun r hr => fits_of_mem_requests (Socks.fits_of_read htarget) hr
    exact Socks.Server.speech?_messages auth.isSome told requests
      (fits_disclosed hfits peer.bytes) hasked

section Pair

variable {c c' : Credentials} (hfits : Socks.checkCredentials c = .ok ())
  (hfits' : Socks.checkCredentials c' = .ok ())

include hfits hfits'

/-- Credentials make no difference to what is reported of a run. -/
theorem run_alike (request : ProbeRequest) (signal : Signal) (timing : Timing) (dial : Dial) :
    ((request.offering (some c)).run signal timing dial).Alike
      ((request.offering (some c')).run signal timing dial) := by
  simp only [ProbeRequest.run, plan_offering (fits_some hfits), plan_offering (fits_some hfits')]
  cases (request.offering none).plan with
  | error failure => exact ⟨rfl, rfl⟩
  | ok plan =>
      cases signal.dial dial with
      | failed cause => exact ⟨rfl, rfl⟩
      | accepted peer cuts =>
          have hmuted := muted_cutCourse plan (muted_handshake hfits hfits') cuts peer.bytes
          obtain ⟨hresult, hsummary⟩ :=
            report_alike plan (some c) (some c') hmuted timing peer.stall
          simp only [Except.map, run_accepted]
          exact ⟨hresult, by rw [hsummary]⟩

theorem requests_alike (plan : Plan) (bytes : Bytes) (target : Address) :
    (Plan.course { plan with auth := some c } bytes).requests target =
      (Plan.course { plan with auth := some c' } bytes).requests target := by
  have hmuted := muted_of (muted_handshake hfits hfits') (ask .connect plan.target)
    (ask .udpAssociate Address.unspecified) plan.udpTest bytes
  rw [← Course.requests_muted, Plan.course, hmuted, Course.requests_muted]
  rfl

end Pair

end Runs

end SocksMonitor.Probing

namespace SocksMonitor.Control

open Probing
open Socks (Address Command Credentials)

/-! ## Answers of the control plane -/

/-- Two events that differ at most in the credentials of a probe, which are `c` in the first and
`c'` in the second one. -/
inductive Event.Alike (c c' : Credentials) : Event → Event → Prop where
  | same (event : Event) : Alike c c' event event
  | probe (world : World) {asked asked' : Request} (request : ProbeRequest)
      (hasked : asked.probe? = some (request.offering (some c)))
      (hasked' : asked'.probe? = some (request.offering (some c'))) :
      Alike c c' (.request world asked) (.request world asked')

namespace Router

/-- The response to a request, if the event is one. -/
def response? (router : Router) : Event → Option Response
  | .request world request => some (router.answer world request).response
  | _ => none

/-- The responses to the requests among some events. -/
def responses (router : Router) : List Event → List (Option Response)
  | [] => []
  | event :: events => router.response? event :: (router.next event).responses events

end Router

theorem Router.answer_of_probe? (router : Router) (world : World) {asked : Request}
    {probe : ProbeRequest} (hprobe : asked.probe? = some probe) :
    let report := probe.run router.shutdown world.timing world.dial
    (router.answer world asked).store = { router.store with lastProbe := report.summary }
      ∧ (router.answer world asked).response = probeResponse world.now report :=
  handle_of_probe? hprobe

theorem probeResponse_congr {report report' : Report} (h : report.Alike report')
    (now : Time.Timestamp) : probeResponse now report = probeResponse now report' := by
  simp only [probeResponse, h.result, h.summary]

section Pair

variable {c c' : Credentials} (hfits : Socks.checkCredentials c = .ok ())
  (hfits' : Socks.checkCredentials c' = .ok ())

include hfits hfits'

/-- Credentials make no difference to one answer, and none to what is kept. -/
theorem answer_alike {event event' : Event} (halike : Event.Alike c c' event event')
    (router : Router) :
    router.next event = router.next event' ∧ router.response? event = router.response? event' := by
  cases halike with
  | same => exact ⟨rfl, rfl⟩
  | probe world request hasked hasked' =>
      obtain ⟨hstore, hresponse⟩ := router.answer_of_probe? world hasked
      obtain ⟨hstore', hresponse'⟩ := router.answer_of_probe? world hasked'
      have hrun := run_alike hfits hfits' request router.shutdown world.timing world.dial
      constructor
      · simp only [Router.next, hstore, hstore', hrun.summary]
      · simp only [Router.response?, hresponse, hresponse', probeResponse_congr hrun]

/-- Nor do they to any answer of a history. -/
theorem history_alike {events events' : List Event}
    (halike : List.Forall₂ (Event.Alike c c') events events') (router : Router) :
    events.foldl Router.next router = events'.foldl Router.next router
      ∧ router.responses events = router.responses events' := by
  induction halike generalizing router with
  | nil => exact ⟨rfl, rfl⟩
  | cons hfirst hothers ih =>
      obtain ⟨hnext, hresponse⟩ := answer_alike hfits hfits' hfirst router
      obtain ⟨hafter, hresponses⟩ := ih (router.next _)
      simp only [List.foldl_cons, Router.responses, ← hnext, ← hresponse]
      exact ⟨hafter, congrArg _ hresponses⟩

end Pair

/-! ## All that is to be seen -/

/-- What two users with the credentials `c` and `c'` let others see when they ask for the same
probe, and when they and others go through the same history of the control plane. -/
structure Concealed (request : ProbeRequest) (c c' : Credentials) : Prop where
  /-- Results are the same, with all that their texts are made of. -/
  result : ∀ signal timing timing' dial,
    ((request.offering (some c)).run signal timing dial).result =
      ((request.offering (some c')).run signal timing' dial).result
  findings : ∀ signal timing timing' dial,
    ((request.offering (some c)).run signal timing dial).summary.findings =
      ((request.offering (some c')).run signal timing' dial).summary.findings
  summary : ∀ signal timing dial,
    ((request.offering (some c)).run signal timing dial).summary =
      ((request.offering (some c')).run signal timing dial).summary
  /-- The credentials are in one message behind the greeting, or in none, as the peer's first two
  bytes say. A server reads the same requests. -/
  sent : ∀ signal dial peer, request.Meets signal dial peer →
    ∃ requests : List (Command × Address), ∀ x, x = c ∨ x = c' → ∀ timing,
      let told := if [0x05, 0x02] <+: peer.bytes then some x else none
      let sent := [0x05, 0x02, 0x00, 0x02] ++ (told.elim [] Socks.userPassMessage
        ++ requests.flatMap fun r => Socks.request r.1 r.2)
      ((request.offering (some x)).run signal timing dial).sent = some sent
        ∧ Socks.Server.speech? sent = some ⟨[0x00, 0x02], told.map Socks.Server.pairOf,
            requests.map fun r => ⟨.of r.1, .of r.2⟩⟩
  /-- Nobody else is sent anything. -/
  unsent : ∀ signal dial, (∀ peer cuts, ¬ request.Meets signal dial peer cuts) →
    ∀ x, x = c ∨ x = c' → ∀ timing,
      ((request.offering (some x)).run signal timing dial).sent = none
  /-- Who has no credentials never sends any. -/
  silent : ∀ signal timing peer sent,
    ((request.offering none).run signal timing (.accepted peer)).sent = some sent →
      ∃ requests : List (Command × Address),
        sent = [0x05, 0x01, 0x00] ++ requests.flatMap (fun r => Socks.request r.1 r.2)
          ∧ Socks.Server.speech? sent =
              some ⟨[0x00], none, requests.map fun r => ⟨.of r.1, .of r.2⟩⟩
  /-- The control plane gives the same answers and ends with the same store. -/
  history : ∀ events events', List.Forall₂ (Event.Alike c c') events events' →
    Router.after events = Router.after events'
      ∧ Router.responses {} events = Router.responses {} events'

/-- **Credentials influence nothing but the one message that carries them**, if their fields fit
behind a length byte. -/
theorem credentials_concealed (request : ProbeRequest) {c c' : Credentials}
    (hfits : Text.byteLength c.username ≤ 255 ∧ Text.byteLength c.password ≤ 255)
    (hfits' : Text.byteLength c'.username ≤ 255 ∧ Text.byteLength c'.password ≤ 255) :
    Concealed request c c' := by
  have hchecked : Socks.checkCredentials c = .ok () := if_pos hfits
  have hchecked' : Socks.checkCredentials c' = .ok () := if_pos hfits'
  constructor
  case result =>
    intro signal timing timing' dial
    exact (run_alike hchecked hchecked' request signal timing dial).result.trans
      (findings_run _ signal timing timing' dial).1
  case findings =>
    intro signal timing timing' dial
    have hsummary := (run_alike hchecked hchecked' request signal timing dial).summary
    exact (congrArg Summary.findings hsummary).trans
      (findings_run _ signal timing timing' dial).2
  case summary =>
    intro signal timing dial
    exact (run_alike hchecked hchecked' request signal timing dial).summary
  case sent =>
    intro signal dial peer hmeets
    obtain ⟨⟨plan, hplan⟩, hdial⟩ := meets_iff.mp hmeets
    -- either course will do for the requests, since they are the same
    refine ⟨(Plan.course { plan with auth := some c } peer.bytes).requests plan.target, ?_⟩
    rintro x (rfl | rfl) timing
    · exact sent_offering (fits_some hchecked) hplan hdial timing
    · rw [requests_alike hchecked hchecked']
      exact sent_offering (fits_some hchecked') hplan hdial timing
  case unsent =>
    rintro signal dial hnobody x (rfl | rfl) timing
    · exact sent_of_not_meets (fits_some hchecked) hnobody timing
    · exact sent_of_not_meets (fits_some hchecked') hnobody timing
  case silent =>
    intro signal timing peer sent hsent
    by_cases hmeets : request.Meets signal (.accepted peer) peer
    · obtain ⟨⟨plan, hplan⟩, hdial⟩ := meets_iff.mp hmeets
      obtain ⟨hsaid, hspeech⟩ := sent_offering fits_none hplan hdial timing
      simp only [disclosed_none] at hsaid hspeech
      obtain rfl := Option.some.inj (hsaid.symm.trans hsent)
      exact ⟨_, rfl, hspeech⟩
    · have hnobody : ∀ peer' cuts, ¬ request.Meets signal (.accepted peer) peer' cuts := by
        intro peer' cuts hother
        cases hother.dial
        exact hmeets hother
      rw [sent_of_not_meets fits_none hnobody] at hsent
      cases hsent
  case history => exact fun events events' halike => history_alike hchecked hchecked' halike {}

/-- Two users who are turned away by a proxy. Neither the run nor the control plane tells them
apart, though one of them has no password. -/
theorem credentials_concealed_from_refusing_proxy :
    let request : ProbeRequest := { server := "p:1" }
    let bob : Credentials := ⟨"bob", ""⟩
    let alice : Credentials := ⟨"alice", "rabbit"⟩
    let world : World := ⟨.epoch, ⟨fun _ => 0, .epoch⟩, .accepted ⟨[5, 2, 1, 1], .deadline⟩⟩
    let asked (body : String) : Event := .request world ⟨"POST", "/v1/probe", Text.utf8 body⟩
    (Text.byteLength bob.username ≤ 255 ∧ Text.byteLength bob.password ≤ 255)
      ∧ (Text.byteLength alice.username ≤ 255 ∧ Text.byteLength alice.password ≤ 255)
      ∧ (∀ timing, ((request.offering (some alice)).run .absent timing world.dial).result =
        .error (.step .socksHandshake .authFailed))
      ∧ (∃ requests : List (Command × Address), ∀ timing,
        ((request.offering (some alice)).run .absent timing world.dial).sent = some
          ([5, 2, 0, 2] ++ (Socks.userPassMessage alice ++ requests.flatMap fun r =>
            Socks.request r.1 r.2)))
      ∧ Router.responses {}
          [asked "\x7b\"socks_server\":\"p:1\",\"auth\":\x7b\"username\":\"bob\"\x7d\x7d"] =
        Router.responses {} [asked "[\"p:1\",0,[\"alice\",\"rabbit\"]]"] := by
  intro request bob alice world asked
  have hbob : Text.byteLength bob.username ≤ 255 ∧ Text.byteLength bob.password ≤ 255 := by decide
  have halice : Text.byteLength alice.username ≤ 255 ∧ Text.byteLength alice.password ≤ 255 := by
    decide
  have hconcealed := credentials_concealed request hbob halice
  refine ⟨hbob, halice, fun timing => ?_, ?_, ?_⟩
  · have hrefused : ((request.offering (some bob)).run .absent timing world.dial).result =
        .error (.step .socksHandshake .authFailed) := by
      simp only [request, bob, world]
      rfl
    rw [← hconcealed.result .absent timing timing world.dial, hrefused]
  · have hmeets : request.Meets .absent world.dial ⟨[5, 2, 1, 1], .deadline⟩ :=
      ⟨⟨.domain "p" 1, by decide⟩, ⟨.domain "example.com" 80, by decide⟩, rfl, rfl⟩
    obtain ⟨requests, hsent⟩ := hconcealed.sent .absent world.dial _ hmeets
    exact ⟨requests, fun timing => (hsent alice (.inr rfl) timing).1⟩
  · have hasked : Admits
        ⟨"POST", "/v1/probe",
          Text.utf8 "\x7b\"socks_server\":\"p:1\",\"auth\":\x7b\"username\":\"bob\"\x7d\x7d"⟩
        { socksServer := "p:1", auth := some ⟨"bob", ""⟩ } :=
      ⟨rfl, rfl, by decide, by decide +kernel, by decide, by decide⟩
    have hasked' : Admits
        ⟨"POST", "/v1/probe", Text.utf8 "[\"p:1\",0,[\"alice\",\"rabbit\"]]"⟩
        { socksServer := "p:1", auth := some ⟨"alice", "rabbit"⟩ } :=
      ⟨rfl, rfl, by decide, by decide +kernel, by decide, by decide⟩
    exact (hconcealed.history _ _ (.cons (.probe world request
      (probe?_eq_some_iff.mpr ⟨_, hasked, rfl⟩)
      (probe?_eq_some_iff.mpr ⟨_, hasked', rfl⟩)) .nil)).2

end SocksMonitor.Control
