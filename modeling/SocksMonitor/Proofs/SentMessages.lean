import Mathlib.Logic.Basic
import SocksMonitor.Proofs.ReplyGrammar
import SocksMonitor.Proofs.ServerReader

/-!
# What a probe sends

A run sends a greeting, then perhaps credentials, then up to two requests, and nothing else. Which
of them depends on what the peer has answered until then; how the run goes on after its last
message makes no difference. `sent_course` says so message by message, with `disclosed` for the
credentials and `Course.requests` for the rest.

The messages are written by encoders that put one-byte lengths in front of fields of any length.
With the reader of `Proofs/ServerReader.lean` it is proved that nothing of this is ever lost: a
plan lets only such fields through as a length byte can count.
-/

namespace SocksMonitor.Probing

open Socks (Address Command Credentials)
open Dialogue

/-! ## Messages of a course -/

/-- The credentials that a peer gets to see: those of a client that has any, once the peer has
selected them. -/
def disclosed (auth : Option Credentials) (bytes : Bytes) : Option Credentials :=
  if [0x05, 0x02] <+: bytes then auth else none

/-- The requests of a run, in order. -/
def Course.requests (target : Address) : Course → List (Command × Address)
  | ungreeted .. => []
  | unconnected .. => [(.connect, target)]
  | connected _ none _ => [(.connect, target)]
  | connected _ (some _) _ => [(.connect, target), (.udpAssociate, Address.unspecified)]

theorem sent_trace_authenticate {credentials : Credentials}
    (hfits : Socks.checkCredentials credentials = .ok ()) (bytes : Bytes) :
    ((authenticate credentials).trace bytes).sent = Socks.userPassMessage credentials := by
  match bytes with
  | [] | [_] =>
      rw [trace_authenticate_short hfits (by simp)]
      simp
  | ver :: status :: rest =>
      rw [trace_authenticate_cons hfits]
      split
      · split <;> simp
      · simp

theorem sent_trace_answerMethod {auth : Option Credentials} (hfits : Fits auth) (method : UInt8)
    (bytes : Bytes) :
    ((answerMethod auth method).trace bytes).sent =
      if method = 0x02 then auth.elim [] Socks.userPassMessage else [] := by
  by_cases h2 : method = 0x02
  · subst h2
    cases auth with
    | none =>
        rw [trace_answerMethod_userPass_none]
        rfl
    | some credentials =>
        have hsent := sent_trace_authenticate (hfits credentials rfl) bytes
        rw [trace_answerMethod_userPass_some, if_pos rfl, Option.elim_some, ← hsent]
        unfold Trace.andThen
        split <;> simp
  · rw [if_neg h2]
    by_cases h0 : method = 0x00
    · subst h0
      rfl
    by_cases hff : method = 0xFF
    · subst hff
      rfl
    · rw [trace_answerMethod_other h0 h2 hff]
      rfl

theorem sent_trace_handshake {auth : Option Credentials} (hfits : Fits auth) (bytes : Bytes) :
    ((handshake auth).trace bytes).sent =
      Socks.greeting auth.isSome ++ (disclosed auth bytes).elim [] Socks.userPassMessage := by
  match bytes with
  | [] | [_] =>
      rw [trace_handshake_short (by simp)]
      simp [disclosed]
  | ver :: method :: rest =>
      rw [trace_handshake_cons]
      by_cases hver : ver = 0x05
      · subst hver
        simp only [Trace.sent_after, if_true, sent_trace_answerMethod hfits, disclosed,
          List.cons_prefix_cons, List.nil_prefix, true_and, and_true]
        by_cases h2 : method = 0x02
        · simp [h2]
        · simp [h2, eq_comm]
      · simp [hver, disclosed, eq_comm]

section Messages

variable {plan : Plan} {bytes : Bytes}

/-- All that a run sends: the greeting, the credentials that the peer has asked for, and the
requests. -/
theorem sent_course (hfits : Fits plan.auth) :
    (plan.course bytes).sent =
      Socks.greeting plan.auth.isSome
        ++ ((disclosed plan.auth bytes).elim [] Socks.userPassMessage
        ++ ((plan.course bytes).requests plan.target).flatMap
          fun r => Socks.request r.1 r.2) := by
  have hhandshake := sent_trace_handshake hfits bytes
  have hask : ∀ command address bytes sent rest (ending : Except Halt Unit),
      (ask command address).trace bytes = ⟨ending, sent, rest⟩ →
        sent = Socks.request command address := by
    intro command address bytes sent rest ending htrace
    rw [← sent_trace_ask command address bytes, htrace]
  have htakes := takes_course plan bytes
  generalize plan.course bytes = c at htakes ⊢
  cases htakes with
  | ungreeted hgreeted =>
      rw [hgreeted] at hhandshake
      simpa [Course.sent, Course.requests] using hhandshake
  | unconnected hgreeted hasked =>
      rw [hgreeted] at hhandshake
      simp only at hhandshake
      simp [Course.sent, Course.requests, hhandshake, hask _ _ _ _ _ _ hasked]
  | connected hgreeted hasked =>
      rw [hgreeted] at hhandshake
      simp only at hhandshake
      simp [Course.sent, Course.requests, hhandshake, hask _ _ _ _ _ _ hasked]
  | associated hgreeted hasked htest htold =>
      rw [hgreeted] at hhandshake
      simp only at hhandshake
      simp [Course.sent, Course.requests, hhandshake, hask _ _ _ _ _ _ hasked,
        hask _ _ _ _ _ _ htold]

/-- CONNECT is asked for once the handshake has succeeded, and UDP ASSOCIATE once CONNECT has, if
it is asked for at all. -/
theorem requests_course :
    (plan.course bytes).requests plan.target =
      (if (plan.course bytes).method?.isSome then [(.connect, plan.target)] else [])
        ++ (if plan.udpTest ∧ (plan.course bytes).isConnected then
            [(.udpAssociate, Address.unspecified)] else []) := by
  have htakes := takes_course plan bytes
  generalize plan.course bytes = c at htakes ⊢
  cases htakes with
  | ungreeted => simp [Course.requests, Course.method?, Course.isConnected]
  | unconnected => simp [Course.requests, Course.method?, Course.isConnected]
  | connected hgreeted hasked htest =>
      simp [Course.requests, Course.method?, Course.isConnected, htest]
  | associated hgreeted hasked htest =>
      simp [Course.requests, Course.method?, Course.isConnected, htest]

theorem fits_none : Fits none := by
  rintro c ⟨⟩

theorem fits_disclosed {auth : Option Credentials} (hfits : Fits auth) (bytes : Bytes) :
    Fits (disclosed auth bytes) := by
  unfold disclosed
  split
  · exact hfits
  · exact fits_none

theorem fits_of_mem_requests {c : Course} {target : Address} (htarget : target.Fits)
    {r : Command × Address} (hr : r ∈ c.requests target) : r.2.Fits := by
  have hmem : r = (.connect, target) ∨ r = (.udpAssociate, Address.unspecified) := by
    cases c with
    | ungreeted => cases hr
    | unconnected => exact .inl (List.mem_singleton.mp hr)
    | connected method udp =>
        cases udp with
        | none => exact .inl (List.mem_singleton.mp hr)
        | some _ => simpa [Course.requests] using hr
  rcases hmem with rfl | rfl
  · exact htarget
  · trivial

end Messages

/-! ## What a run sends -/

open Classical in
/-- The requests that a client makes of a peer with these bytes: CONNECT if they begin with an
answer to the greeting, UDP ASSOCIATE if CONNECT is granted behind it. -/
noncomputable def requestsFor (request : ProbeRequest) (target : Address) (bytes : Bytes) :
    List (Command × Address) :=
  (if ∃ method selection, Settled request.auth method selection ∧ selection <+: bytes
    then [(.connect, target)] else [])
  ++ (if request.udpTest = true ∧ ∃ method selection reply,
        Settled request.auth method selection ∧ Granted reply ∧ selection ++ reply <+: bytes
      then [(.udpAssociate, Address.unspecified)] else [])

/-- The messages that a client sends to a peer with these bytes. -/
noncomputable def messagesFor (request : ProbeRequest) (target : Address) (bytes : Bytes) :
    Bytes :=
  (if request.auth.isSome then [0x05, 0x02, 0x00, 0x02] else [0x05, 0x01, 0x00])
    ++ ((disclosed request.auth bytes).elim [] Socks.userPassMessage
    ++ (requestsFor request target bytes).flatMap fun r => Socks.request r.1 r.2)

open Classical in
theorem requestsFor_eq {request : ProbeRequest} {plan : Plan} (hplan : request.plan = .ok plan)
    (bytes : Bytes) :
    requestsFor request plan.target bytes = (plan.course bytes).requests plan.target := by
  obtain ⟨-, -, -, hauth, htest⟩ := ProbeRequest.of_plan hplan
  have hfits := fits_of_plan hplan
  -- the grammar is asked for words where the course has flags
  have hsettled : (plan.course bytes).method?.isSome = true ↔
      ∃ method selection, Settled plan.auth method selection ∧ selection <+: bytes := by
    rw [Option.isSome_iff_exists]
    exact exists_congr fun method => method?_course_iff_settled hfits
  have hgranted : plan.udpTest = true ∧ (plan.course bytes).isConnected = true ↔
      request.udpTest = true ∧ ∃ method selection reply, Settled plan.auth method selection
        ∧ Granted reply ∧ selection ++ reply <+: bytes := by
    rw [htest]
    exact and_congr_right fun _ => isConnected_course_iff_granted hfits
  rw [requests_course, requestsFor, ← hauth]
  exact (congrArg₂ _ (if_congr hsettled rfl rfl) (if_congr hgranted rfl rfl)).symm

theorem messagesFor_eq {request : ProbeRequest} {plan : Plan} (hplan : request.plan = .ok plan)
    (bytes : Bytes) :
    messagesFor request plan.target bytes =
      Socks.greeting plan.auth.isSome
        ++ ((disclosed plan.auth bytes).elim [] Socks.userPassMessage
        ++ (requestsFor request plan.target bytes).flatMap fun r => Socks.request r.1 r.2) := by
  obtain ⟨-, -, -, hauth, -⟩ := ProbeRequest.of_plan hplan
  rw [messagesFor, ← hauth]
  cases plan.auth.isSome <;> rfl

/-- What is sent to a peer with these bytes, and what a server makes of it. -/
structure SendsMessages (request : ProbeRequest) (plan : Plan) (bytes : Bytes) (report : Report) :
    Prop where
  sent : report.sent = some (messagesFor request plan.target bytes)
  read : Socks.Server.speech? (messagesFor request plan.target bytes) = some
    { methods := if request.auth.isSome then [0x00, 0x02] else [0x00]
      credentials := (disclosed request.auth bytes).map fun c =>
        (Text.utf8 c.username, Text.utf8 c.password)
      requests := (requestsFor request plan.target bytes).map fun r =>
        ⟨Socks.Server.Command.of r.1, Socks.Server.Destination.of r.2⟩ }
  target : Address.read request.targetText = .ok plan.target
  relay : Socks.Server.Destination.of Address.unspecified = ⟨.ipv4, [0, 0, 0, 0], 0⟩
  /-- The lengths that are written as one byte say what they stand for. -/
  credential_lengths : ∀ c, request.auth = some c →
    (UInt8.ofNat (Text.byteLength c.username)).toNat = Text.byteLength c.username
      ∧ (UInt8.ofNat (Text.byteLength c.password)).toNat = Text.byteLength c.password
  host_length : ∀ host port, plan.target = .domain host port →
    (UInt8.ofNat (Text.byteLength host)).toNat = Text.byteLength host

/-- **A probe sends the messages of the protocol, and a server reads them back without loss.**
What is sent to a peer that has accepted the connection is settled by the words of the grammar
that the peer's bytes begin with, however a wait for missing bytes is cut off, if nothing else
is. -/
theorem run_sends_messages {request : ProbeRequest} {plan : Plan}
    (hplan : request.plan = .ok plan) {signal : Signal} (hsignal : signal.isRaised = false)
    (timing : Timing) (peer : Peer) :
    SendsMessages request plan peer.bytes (request.run signal timing (.accepted peer)) := by
  obtain ⟨-, htarget, -, hauth, -⟩ := ProbeRequest.of_plan hplan
  have hfits := fits_of_plan hplan
  constructor
  case sent =>
    rw [run_of_plan hplan hsignal, messagesFor_eq hplan, requestsFor_eq hplan, ← sent_course hfits]
    rfl
  case read =>
    have hasked : ∀ r ∈ requestsFor request plan.target peer.bytes, r.2.Fits := by
      rw [requestsFor_eq hplan]
      exact fun r hr => fits_of_mem_requests (Socks.fits_of_read htarget) hr
    rw [messagesFor_eq hplan, Socks.Server.speech?_messages plan.auth.isSome
      (disclosed plan.auth peer.bytes) _ (fits_disclosed hfits peer.bytes) hasked, ← hauth]
    cases plan.auth.isSome <;> rfl
  case target => exact htarget
  case relay => rfl
  case credential_lengths =>
    intro c hc
    obtain ⟨husername, hpassword⟩ := Socks.lengths_of_checkCredentials (hfits c (hauth.trans hc))
    exact ⟨Socks.toNat_lengthByte husername, Socks.toNat_lengthByte hpassword⟩
  case host_length =>
    intro host port hdomain
    have hhost := Socks.fits_of_read htarget
    rw [hdomain] at hhost
    exact Socks.toNat_lengthByte hhost

/-- A proxy that takes the credentials and grants CONNECT has been asked for the relay when it
closes the connection. -/
theorem run_sends_all_messages :
    let request : ProbeRequest :=
      { server := "proxy:1080", auth := some ⟨"bob", ""⟩, connectTarget := "a:80",
        udpTest := true }
    let bytes : Bytes := [5, 2, 1, 0] ++ [5, 0, 0, 1, 0, 0, 0, 0, 0, 0]
    let report := request.run .absent ⟨fun _ => 0, .epoch⟩ (.accepted ⟨bytes, .io .earlyEof⟩)
    (∃ plan, request.plan = .ok plan) ∧ Signal.absent.isRaised = false
      ∧ ∃ sent, report.sent = some sent ∧ Socks.Server.speech? sent = some
        ⟨[0, 2], some ([98, 111, 98], []),
          [⟨.connect, ⟨.domain, [97], 80⟩⟩, ⟨.udpAssociate, ⟨.ipv4, [0, 0, 0, 0], 0⟩⟩]⟩ := by
  intro request bytes report
  have hplan : request.plan = .ok
      { server := .domain "proxy" 1080, target := .domain "a" 80, timeoutMs := 3000,
        auth := some ⟨"bob", ""⟩, udpTest := true } := by
    simp only [request]
    rfl
  have hsignal : Signal.absent.isRaised = false := rfl
  have hsettled : Settled request.auth .userPass [5, 2, 1, 0] := .userPass rfl
  have hgranted : Granted [5, 0, 0, 1, 0, 0, 0, 0, 0, 0] := ⟨0, .ipv4 rfl⟩
  have hgreeted : ∃ method selection,
      Settled request.auth method selection ∧ selection <+: bytes := ⟨_, _, hsettled, _, rfl⟩
  have hconnected : request.udpTest = true ∧ ∃ method selection reply,
      Settled request.auth method selection ∧ Granted reply ∧ selection ++ reply <+: bytes :=
    ⟨rfl, _, _, _, hsettled, hgranted, [], rfl⟩
  have hsends := run_sends_messages hplan hsignal ⟨fun _ => 0, .epoch⟩ ⟨bytes, .io .earlyEof⟩
  refine ⟨⟨_, hplan⟩, hsignal, _, hsends.sent, hsends.read.trans ?_⟩
  rw [requestsFor, if_pos hgreeted, if_pos hconnected]
  rfl

end SocksMonitor.Probing
