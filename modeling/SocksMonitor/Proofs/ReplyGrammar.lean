import SocksMonitor.Proofs.Course

/-!
# The grammar of a successful exchange

Which bytes of a proxy make a probe succeed, told without the client: `Settled` is the proxy's
half of a handshake, `Granted` a reply that grants a request, with the bound address in each of
its three forms. The dialogues of the engine read one field after another, each with a wait of its
own; here it is proved that together they accept exactly the words of this grammar.

`Dialogue.Accepts` is the notion that carries this: a dialogue comes to its end on exactly those
bytes that begin with a word of a language, and leaves the rest on the stream. A dialogue takes
what it takes, so a language that is accepted is unambiguous (`Accepts.unique`): no word of it is
followed by bytes that could be read as part of another one.
-/

namespace SocksMonitor.Probing

open Socks (Address Command Credentials)
open Dialogue

/-! ## The grammar -/

/-- BND.ADDR and BND.PORT behind a reply header, by the ATYP of the header. -/
inductive BoundField : UInt8 → Bytes → Prop where
  | ipv4 {field : Bytes} (hwidth : field.length = 6) : BoundField 0x01 field
  | ipv6 {field : Bytes} (hwidth : field.length = 18) : BoundField 0x04 field
  | domain {length : UInt8} {field : Bytes} (hlength : 1 ≤ length.toNat)
      (hwidth : field.length = length.toNat + 2) : BoundField 0x03 (length :: field)

/-- A reply that grants a request. The reserved byte may be any. -/
inductive Granted : Bytes → Prop where
  | mk (reserved : UInt8) {atyp : UInt8} {field : Bytes} (hfield : BoundField atyp field) :
      Granted (0x05 :: 0x00 :: reserved :: atyp :: field)

/-- The proxy's half of a handshake that settles on a method of authentication. -/
inductive Settled (auth : Option Credentials) : AuthMethod → Bytes → Prop where
  | noAuth : Settled auth .none [0x05, 0x00]
  | userPass (hauth : auth.isSome = true) : Settled auth .userPass [0x05, 0x02, 0x01, 0x00]

/-! ## Acceptance -/

/-- The dialogue comes to its end with `a` on exactly those bytes that begin with a word of
`L a`, and takes no byte behind that word. -/
def Dialogue.Accepts {α : Type} (d : Dialogue α) (L : α → Bytes → Prop) : Prop :=
  ∀ bytes a rest, (d.trace bytes).ending = .ok a ∧ (d.trace bytes).rest = rest ↔
    ∃ taken, L a taken ∧ bytes = taken ++ rest

section Acceptance

variable {α : Type} {d : Dialogue α} {L : α → Bytes → Prop}

theorem Dialogue.Accepts.split (h : d.Accepts L) {bytes sent rest : Bytes} {a : α}
    (htrace : d.trace bytes = ⟨.ok a, sent, rest⟩) :
    ∃ taken, L a taken ∧ bytes = taken ++ rest :=
  (h bytes a rest).mp (by rw [htrace]; exact ⟨rfl, rfl⟩)

theorem Dialogue.Accepts.trace_word (h : d.Accepts L) {taken : Bytes} (a : α) (ha : L a taken)
    (rest : Bytes) : ∃ sent, d.trace (taken ++ rest) = ⟨.ok a, sent, rest⟩ := by
  obtain ⟨hending, hrest⟩ := (h (taken ++ rest) a rest).mpr ⟨taken, ha, rfl⟩
  refine ⟨(d.trace (taken ++ rest)).sent, ?_⟩
  generalize d.trace (taken ++ rest) = t at hending hrest
  rw [← hending, ← hrest]

/-- An accepted language is unambiguous: of all words only one can be in front of given bytes. -/
theorem Dialogue.Accepts.unique (h : d.Accepts L) {m n r s : Bytes} (a b : α) (ha : L a m)
    (hb : L b n) (heq : m ++ r = n ++ s) : a = b ∧ m = n ∧ r = s := by
  obtain ⟨sent, hm⟩ := h.trace_word a ha r
  obtain ⟨told, hn⟩ := h.trace_word b hb s
  rw [heq, hn] at hm
  obtain ⟨hending, -, rfl⟩ := Trace.mk.injEq .. |>.mp hm
  exact ⟨(Except.ok.inj hending).symm, List.append_cancel_right heq, rfl⟩

end Acceptance

/-- A dialogue that breaks off has come upon no word. -/
theorem broken_off_iff {α : Type} {t : Trace α} {halt : Halt} {a : α} {rest : Bytes} {p : Prop}
    (hbroken : t.ending = .error halt) (hnone : ¬ p) :
    t.ending = .ok a ∧ t.rest = rest ↔ p := by
  refine iff_of_false ?_ hnone
  rintro ⟨h, -⟩
  rw [hbroken] at h
  cases h

/-- Bytes that fill a wait, taken apart at its end. -/
theorem wait_filled_iff {bytes rest : Bytes} {count : Nat} :
    count ≤ bytes.length ∧ bytes.drop count = rest ↔
      ∃ taken, taken.length = count ∧ bytes = taken ++ rest := by
  constructor
  · rintro ⟨hcount, rfl⟩
    exact ⟨bytes.take count, List.length_take_of_le hcount, (List.take_append_drop ..).symm⟩
  · rintro ⟨taken, rfl, rfl⟩
    exact ⟨by simp, List.drop_left ..⟩

/-! ## What the dialogues accept -/

theorem skipped_ok_iff {op : Operation} {count : Nat} {bytes rest : Bytes} :
    (Trace.skipped op count bytes).ending = .ok ()
      ∧ (Trace.skipped op count bytes).rest = rest ↔
      ∃ taken, taken.length = count ∧ bytes = taken ++ rest := by
  rw [← wait_filled_iff]
  by_cases hcount : count ≤ bytes.length
  · simp [Trace.skipped, hcount]
  · simp [Trace.skipped, Trace.starved, hcount]

theorem accepts_domain :
    (skipBoundAddress 3).Accepts fun _ taken => BoundField 3 taken := by
  intro bytes _ rest
  cases bytes with
  | nil =>
      rw [trace_skipBoundAddress_domain_nil]
      refine broken_off_iff rfl ?_
      rintro ⟨_, hfield, h⟩
      cases hfield
      cases h
  | cons length bytes =>
      rw [trace_skipBoundAddress_domain_cons]
      by_cases hzero : length = 0
      · rw [if_pos hzero]
        refine broken_off_iff rfl ?_
        rintro ⟨_, hfield, h⟩
        cases hfield with
        | domain hlength hwidth =>
            obtain ⟨rfl, -⟩ := List.cons.inj h
            subst hzero
            exact absurd hlength (by decide)
      · have hlength : 1 ≤ length.toNat :=
          Nat.one_le_iff_ne_zero.mpr fun h => hzero (UInt8.toNat_inj.mp h)
        rw [if_neg hzero, skipped_ok_iff]
        constructor
        · rintro ⟨field, hwidth, rfl⟩
          exact ⟨length :: field, .domain hlength hwidth, rfl⟩
        · rintro ⟨_, hfield, h⟩
          cases hfield with
          | @domain _ field _ hwidth =>
              obtain ⟨rfl, rfl⟩ := List.cons.inj h
              exact ⟨field, hwidth, rfl⟩

theorem accepts_skipBoundAddress (atyp : UInt8) :
    (skipBoundAddress atyp).Accepts fun _ taken => BoundField atyp taken := by
  intro bytes _ rest
  by_cases h1 : atyp = 1
  · subst h1
    rw [trace_skipBoundAddress_ipv4, skipped_ok_iff]
    constructor
    · rintro ⟨taken, hwidth, rfl⟩
      exact ⟨taken, .ipv4 hwidth, rfl⟩
    · rintro ⟨taken, hfield, rfl⟩
      cases hfield with
      | ipv4 hwidth => exact ⟨taken, hwidth, rfl⟩
  by_cases h4 : atyp = 4
  · subst h4
    rw [trace_skipBoundAddress_ipv6, skipped_ok_iff]
    constructor
    · rintro ⟨taken, hwidth, rfl⟩
      exact ⟨taken, .ipv6 hwidth, rfl⟩
    · rintro ⟨taken, hfield, rfl⟩
      cases hfield with
      | ipv6 hwidth => exact ⟨taken, hwidth, rfl⟩
  by_cases h3 : atyp = 3
  · subst h3
    exact accepts_domain bytes () rest
  · rw [trace_skipBoundAddress_unknown h1 h3 h4]
    refine broken_off_iff rfl ?_
    rintro ⟨_, hfield, -⟩
    cases hfield with
    | ipv4 => exact absurd rfl h1
    | ipv6 => exact absurd rfl h4
    | domain => exact absurd rfl h3

theorem accepts_ask (command : Command) (address : Address) :
    (ask command address).Accepts fun _ taken => Granted taken := by
  intro bytes _ rest
  match bytes with
  | [] | [_] | [_, _] | [_, _, _] =>
      rw [trace_ask_short (by simp)]
      refine broken_off_iff rfl ?_
      rintro ⟨_, ⟨reserved, hfield⟩, h⟩
      simp at h
  | ver :: rep :: reserved :: atyp :: bytes =>
      rw [trace_ask_cons]
      constructor
      · rintro ⟨hending, hrest⟩
        by_cases hver : ver = 0x05
        · by_cases hrep : rep = 0x00
          · rw [if_pos hver, if_pos hrep] at hending hrest
            obtain ⟨field, hfield, rfl⟩ :=
              (accepts_skipBoundAddress atyp bytes () rest).mp ⟨hending, hrest⟩
            subst hver hrep
            exact ⟨_, ⟨reserved, hfield⟩, rfl⟩
          · rw [if_pos hver, if_neg hrep] at hending
            cases hending
        · rw [if_neg hver] at hending
          cases hending
      · rintro ⟨_, hgranted, h⟩
        cases hgranted with
        | mk reserved' hfield =>
            simp only [List.cons_append, List.cons.injEq] at h
            obtain ⟨rfl, rfl, rfl, rfl, rfl⟩ := h
            rw [if_pos rfl, if_pos rfl]
            exact (accepts_skipBoundAddress _ _ () rest).mpr ⟨_, hfield, rfl⟩

theorem accepts_authenticate {credentials : Credentials}
    (hfits : Socks.checkCredentials credentials = .ok ()) :
    (authenticate credentials).Accepts fun _ taken => taken = [0x01, 0x00] := by
  intro bytes _ rest
  match bytes with
  | [] | [_] =>
      rw [trace_authenticate_short hfits (by simp)]
      refine broken_off_iff rfl ?_
      rintro ⟨_, rfl, h⟩
      simp at h
  | ver :: status :: bytes =>
      rw [trace_authenticate_cons hfits]
      constructor
      · rintro ⟨hending, hrest⟩
        by_cases hver : ver = 0x01
        · by_cases hstatus : status = 0x00
          · rw [if_pos hver, if_pos hstatus] at hrest
            subst hver hstatus hrest
            exact ⟨_, rfl, rfl⟩
          · rw [if_pos hver, if_neg hstatus] at hending
            cases hending
        · rw [if_neg hver] at hending
          cases hending
      · rintro ⟨_, rfl, h⟩
        simp only [List.cons_append, List.nil_append, List.cons.injEq] at h
        obtain ⟨rfl, rfl, rfl⟩ := h
        exact ⟨rfl, rfl⟩

/-- What has to follow the selection of a method for the handshake to succeed. -/
inductive Completes (auth : Option Credentials) : UInt8 → AuthMethod → Bytes → Prop where
  | noAuth : Completes auth 0x00 .none []
  | userPass (hauth : auth.isSome = true) : Completes auth 0x02 .userPass [0x01, 0x00]

/-- The credentials of a plan fit behind their length bytes. -/
def Fits (auth : Option Credentials) : Prop :=
  ∀ credentials, auth = some credentials → Socks.checkCredentials credentials = .ok ()

theorem accepts_userPass {credentials : Credentials}
    (hfits : Socks.checkCredentials credentials = .ok ()) :
    (answerMethod (some credentials) 0x02).Accepts (Completes (some credentials) 0x02) := by
  intro bytes settled rest
  rw [trace_answerMethod_userPass_some]
  constructor
  · rintro ⟨hending, hrest⟩
    rcases htrace : (authenticate credentials).trace bytes with ⟨halt | _, sent, rest'⟩
    · rw [htrace] at hending
      cases hending
    · rw [htrace] at hending hrest
      cases hending
      cases hrest
      obtain ⟨_, rfl, rfl⟩ := (accepts_authenticate hfits).split htrace
      exact ⟨_, .userPass rfl, rfl⟩
  · rintro ⟨_, hcompletes, rfl⟩
    cases hcompletes with
    | userPass =>
        obtain ⟨sent, htrace⟩ := (accepts_authenticate hfits).trace_word () rfl rest
        rw [htrace]
        exact ⟨rfl, rfl⟩

theorem accepts_answerMethod {auth : Option Credentials} (hfits : Fits auth) (method : UInt8) :
    (answerMethod auth method).Accepts (Completes auth method) := by
  intro bytes settled rest
  by_cases h0 : method = 0x00
  · subst h0
    rw [trace_answerMethod_noAuth]
    constructor
    · rintro ⟨⟨⟩, rfl⟩
      exact ⟨[], .noAuth, rfl⟩
    · rintro ⟨_, hcompletes, rfl⟩
      cases hcompletes
      exact ⟨rfl, rfl⟩
  by_cases h2 : method = 0x02
  · subst h2
    cases auth with
    | none =>
        rw [trace_answerMethod_userPass_none]
        refine broken_off_iff rfl ?_
        rintro ⟨_, hcompletes, -⟩
        cases hcompletes with
        | userPass hauth => cases hauth
    | some credentials => exact accepts_userPass (hfits credentials rfl) bytes settled rest
  · have hrefused : ∃ cause, (answerMethod auth method).trace bytes = .refused cause bytes := by
      by_cases hff : method = 0xFF
      · subst hff
        exact ⟨_, trace_answerMethod_noneAcceptable⟩
      · exact ⟨_, trace_answerMethod_other h0 h2 hff⟩
    obtain ⟨cause, htrace⟩ := hrefused
    rw [htrace]
    refine broken_off_iff rfl ?_
    rintro ⟨_, hcompletes, -⟩
    cases hcompletes with
    | noAuth => exact absurd rfl h0
    | userPass => exact absurd rfl h2

theorem settled_iff_completes {auth : Option Credentials} {settled : AuthMethod}
    {selection : Bytes} :
    Settled auth settled selection ↔
      ∃ method taken, Completes auth method settled taken
        ∧ selection = 0x05 :: method :: taken := by
  constructor
  · rintro (_ | hauth)
    · exact ⟨_, _, .noAuth, rfl⟩
    · exact ⟨_, _, .userPass hauth, rfl⟩
  · rintro ⟨_, _, _ | hauth, rfl⟩
    · exact .noAuth
    · exact .userPass hauth

theorem accepts_handshake {auth : Option Credentials} (hfits : Fits auth) :
    (handshake auth).Accepts (Settled auth) := by
  intro bytes settled rest
  simp only [settled_iff_completes]
  match bytes with
  | [] | [_] =>
      rw [trace_handshake_short (by simp)]
      refine broken_off_iff rfl ?_
      rintro ⟨_, ⟨method, taken, -, rfl⟩, h⟩
      simp at h
  | ver :: method :: bytes =>
      rw [trace_handshake_cons]
      constructor
      · rintro ⟨hending, hrest⟩
        by_cases hver : ver = 0x05
        · rw [if_pos hver] at hending hrest
          obtain ⟨taken, hcompletes, rfl⟩ :=
            (accepts_answerMethod hfits method bytes settled rest).mp ⟨hending, hrest⟩
          subst hver
          exact ⟨_, ⟨method, taken, hcompletes, rfl⟩, rfl⟩
        · rw [if_neg hver] at hending
          cases hending
      · rintro ⟨_, ⟨method', taken, hcompletes, rfl⟩, h⟩
        simp only [List.cons_append, List.cons.injEq] at h
        obtain ⟨rfl, rfl, rfl⟩ := h
        rw [if_pos rfl]
        exact (accepts_answerMethod hfits _ _ settled rest).mpr ⟨taken, hcompletes, rfl⟩

theorem settled_unique {auth : Option Credentials} (hfits : Fits auth)
    {method method' : AuthMethod} {selection selection' rest rest' : Bytes}
    (hsettled : Settled auth method selection) (hsettled' : Settled auth method' selection')
    (heq : selection ++ rest = selection' ++ rest') :
    method = method' ∧ selection = selection' ∧ rest = rest' :=
  (accepts_handshake hfits).unique method method' hsettled hsettled' heq

theorem granted_unique {reply reply' rest rest' : Bytes} (hgranted : Granted reply)
    (hgranted' : Granted reply') (heq : reply ++ rest = reply' ++ rest') :
    reply = reply' ∧ rest = rest' :=
  ((accepts_ask .connect Address.unspecified).unique () () hgranted hgranted' heq).2

/-! ## What a run accepts -/

theorem fits_of_plan {request : ProbeRequest} {plan : Plan} (hplan : request.plan = .ok plan) :
    Fits plan.auth := by
  obtain ⟨-, -, hcheck, hauth, -⟩ := ProbeRequest.of_plan hplan
  intro credentials h
  rw [hauth] at h
  simpa [ProbeRequest.checkAuth, h] using hcheck

section Runs

variable {plan : Plan} {bytes : Bytes}

theorem method?_course_iff_settled (hfits : Fits plan.auth) {method : AuthMethod} :
    (plan.course bytes).method? = some method ↔
      ∃ selection, Settled plan.auth method selection ∧ selection <+: bytes := by
  rw [method?_course_eq_some_iff]
  constructor
  · rintro ⟨greeted, first, hgreeted⟩
    obtain ⟨selection, hsettled, rfl⟩ := (accepts_handshake hfits).split hgreeted
    exact ⟨selection, hsettled, first, rfl⟩
  · rintro ⟨selection, hsettled, first, rfl⟩
    obtain ⟨greeted, hgreeted⟩ := (accepts_handshake hfits).trace_word method hsettled first
    exact ⟨greeted, first, hgreeted⟩

theorem isConnected_course_iff_granted (hfits : Fits plan.auth) :
    (plan.course bytes).isConnected = true ↔
      ∃ method selection reply, Settled plan.auth method selection ∧ Granted reply
        ∧ selection ++ reply <+: bytes := by
  rw [isConnected_course_iff]
  constructor
  · rintro ⟨method, greeted, first, asked, rest, hgreeted, hasked⟩
    obtain ⟨selection, hsettled, rfl⟩ := (accepts_handshake hfits).split hgreeted
    obtain ⟨reply, hgranted, rfl⟩ := (accepts_ask _ _).split hasked
    exact ⟨method, selection, reply, hsettled, hgranted, rest, List.append_assoc ..⟩
  · rintro ⟨method, selection, reply, hsettled, hgranted, rest, rfl⟩
    rw [List.append_assoc]
    obtain ⟨greeted, hgreeted⟩ :=
      (accepts_handshake hfits).trace_word method hsettled (reply ++ rest)
    obtain ⟨asked, hasked⟩ := (accepts_ask .connect plan.target).trace_word () hgranted rest
    exact ⟨method, greeted, _, asked, rest, hgreeted, hasked⟩

theorem isAssociated_course_iff_granted (hfits : Fits plan.auth) :
    (plan.course bytes).isAssociated = true ↔
      plan.udpTest = true ∧ ∃ method selection reply answer, Settled plan.auth method selection
        ∧ Granted reply ∧ Granted answer ∧ selection ++ reply ++ answer <+: bytes := by
  rw [isAssociated_course_iff]
  refine and_congr_right fun _ => ?_
  constructor
  · rintro ⟨method, greeted, first, asked, second, told, rest, hgreeted, hasked, htold⟩
    obtain ⟨selection, hsettled, rfl⟩ := (accepts_handshake hfits).split hgreeted
    obtain ⟨reply, hgranted, rfl⟩ := (accepts_ask _ _).split hasked
    obtain ⟨answer, hanswer, rfl⟩ := (accepts_ask _ _).split htold
    exact ⟨method, selection, reply, answer, hsettled, hgranted, hanswer, rest, by
      simp only [List.append_assoc]⟩
  · rintro ⟨method, selection, reply, answer, hsettled, hgranted, hanswer, rest, rfl⟩
    simp only [List.append_assoc]
    obtain ⟨greeted, hgreeted⟩ :=
      (accepts_handshake hfits).trace_word method hsettled (reply ++ (answer ++ rest))
    obtain ⟨asked, hasked⟩ :=
      (accepts_ask .connect plan.target).trace_word () hgranted (answer ++ rest)
    obtain ⟨told, htold⟩ :=
      (accepts_ask .udpAssociate Address.unspecified).trace_word () hanswer rest
    exact ⟨method, greeted, _, asked, _, told, rest, hgreeted, hasked, htold⟩

end Runs

/-- What the result and the flags of a report tell about the peer's bytes. -/
structure ToldByGrammar (request : ProbeRequest) (bytes : Bytes) (report : Report) : Prop where
  result : report.result = .ok () ↔
    ∃ method selection reply, Settled request.auth method selection ∧ Granted reply
      ∧ selection ++ reply <+: bytes
  socksOk : report.summary.socksOk = true ↔
    ∃ method selection, Settled request.auth method selection ∧ selection <+: bytes
  auth : ∀ method, report.summary.features.auth = some method ↔
    ∃ selection, Settled request.auth method selection ∧ selection <+: bytes
  connectOk : report.summary.connectOk = true ↔
    ∃ method selection reply, Settled request.auth method selection ∧ Granted reply
      ∧ selection ++ reply <+: bytes
  udpOk : report.summary.udpOk = true ↔ request.udpTest = true ∧
    ∃ method selection reply answer, Settled request.auth method selection ∧ Granted reply
      ∧ Granted answer ∧ selection ++ reply ++ answer <+: bytes
  /-- The bytes can be taken apart in one way only. -/
  selection_unique : ∀ method method' selection selection',
    Settled request.auth method selection → Settled request.auth method' selection' →
    selection <+: bytes → selection' <+: bytes → method = method' ∧ selection = selection'
  reply_unique : ∀ method method' selection selection' reply reply',
    Settled request.auth method selection → Settled request.auth method' selection' →
    Granted reply → Granted reply' → selection ++ reply <+: bytes →
    selection' ++ reply' <+: bytes → selection = selection' ∧ reply = reply'

/-- **A probe succeeds exactly on the grammar.** With a peer that has accepted the connection and
a signal that is off, the flags of the summary and the result tell which words of the grammar the
peer's bytes begin with, however a wait for missing bytes is cut off, if nothing else is. The words
are unique: the same bytes cannot be taken apart in another way. -/
theorem run_succeeds_iff_grammar {request : ProbeRequest} {plan : Plan}
    (hplan : request.plan = .ok plan) {signal : Signal} (hsignal : signal.isRaised = false)
    (timing : Timing) (peer : Peer) :
    ToldByGrammar request peer.bytes (request.run signal timing (.accepted peer)) := by
  obtain ⟨-, -, -, hauth, htest⟩ := ProbeRequest.of_plan hplan
  have hfits := fits_of_plan hplan
  have hmethod : ∀ method, (plan.course peer.bytes).method? = some method ↔
      ∃ selection, Settled plan.auth method selection ∧ selection <+: peer.bytes :=
    fun method => method?_course_iff_settled hfits
  rw [run_of_plan hplan hsignal]
  constructor <;> rw [← hauth]
  case result => exact Course.result_eq_ok_iff.trans (isConnected_course_iff_granted hfits)
  case socksOk =>
    show (plan.course peer.bytes).method?.isSome = true ↔ _
    rw [Option.isSome_iff_exists]
    exact exists_congr hmethod
  case auth => exact hmethod
  case connectOk => exact isConnected_course_iff_granted hfits
  case udpOk =>
    rw [← htest]
    exact isAssociated_course_iff_granted hfits
  case selection_unique =>
    rintro method method' selection selection' hsettled hsettled' ⟨rest, hrest⟩ ⟨rest', hrest'⟩
    obtain ⟨hmethods, hselections, -⟩ :=
      settled_unique hfits hsettled hsettled' (hrest.trans hrest'.symm)
    exact ⟨hmethods, hselections⟩
  case reply_unique =>
    rintro method method' selection selection' reply reply' hsettled hsettled' hgranted hgranted'
      ⟨rest, hrest⟩ ⟨rest', hrest'⟩
    rw [List.append_assoc] at hrest hrest'
    obtain ⟨-, hselections, hreplies⟩ :=
      settled_unique hfits hsettled hsettled' (hrest.trans hrest'.symm)
    exact ⟨hselections, (granted_unique hgranted hgranted' hreplies).1⟩

/-- A proxy that takes the credentials, binds CONNECT to a host name and the relay to an IPv6
address, and sends one byte more. -/
theorem run_succeeds_on_mixed_replies :
    let request : ProbeRequest :=
      { server := "proxy:1080", auth := some ⟨"bob", ""⟩, connectTarget := "[::1]:7",
        udpTest := true }
    let bytes : Bytes := [5, 2, 1, 0] ++ [5, 0, 9, 3, 1, 104, 0, 80]
      ++ ([5, 0, 0, 4] ++ List.replicate 18 0) ++ [255]
    let report := request.run .absent ⟨fun _ => 0, .epoch⟩ (.accepted ⟨bytes, .deadline⟩)
    (∃ plan, request.plan = .ok plan) ∧ Signal.absent.isRaised = false
      ∧ report.result = .ok () ∧ report.summary.udpOk = true := by
  intro request bytes report
  have hplan : request.plan = .ok
      { server := .domain "proxy" 1080, target := .socket (.v6 ⟨[0, 0, 0, 0, 0, 0, 0, 1], rfl⟩ 0 7),
        timeoutMs := 3000, auth := some ⟨"bob", ""⟩, udpTest := true } := by
    simp only [request]
    rfl
  have hsignal : Signal.absent.isRaised = false := rfl
  have htold := run_succeeds_iff_grammar hplan hsignal ⟨fun _ => 0, .epoch⟩ ⟨bytes, .deadline⟩
  have hsettled : Settled request.auth .userPass [5, 2, 1, 0] := .userPass rfl
  have hreply : Granted [5, 0, 9, 3, 1, 104, 0, 80] := ⟨9, .domain (by decide) rfl⟩
  have hanswer : Granted ([5, 0, 0, 4] ++ List.replicate 18 0) := ⟨0, .ipv6 rfl⟩
  refine ⟨⟨_, hplan⟩, hsignal, htold.result.mpr ?_, htold.udpOk.mpr ⟨rfl, ?_⟩⟩
  · exact ⟨_, _, _, hsettled, hreply, _, rfl⟩
  · exact ⟨_, _, _, _, hsettled, hreply, hanswer, [255], rfl⟩

end SocksMonitor.Probing
