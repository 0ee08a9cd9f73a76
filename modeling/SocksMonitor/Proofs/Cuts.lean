import SocksMonitor.Proofs.Finality

/-!
# Runs that are cut off

Behind the dial, the connection fails a run in two ways: an action is cut off, be it a write or a
read, or a wait is not filled. `Plan.Stalls` names the wait, and `Plan.CutAt` the first of the
actions that the run comes to and that the cuts name. Cuts behind it, or in a part of the dialogues
that is never reached, make no difference.

- `fails_of_cutAt`: a run that comes to a cut fails there, for its cause.
- `cutCourse_of_undisturbed`: a run that comes to none is the run without cuts.
- `mem_operations_of_cutAt`, `mem_operations_of_stalls`: the actions that a step has, by the names
  that its failures give them.
-/

namespace SocksMonitor.Probing

open Socks (Address Command Credentials)
open Dialogue

/-! ## Dialogues -/

/-- The dialogue comes to an action `op` that is cut off. -/
inductive Dialogue.CutAt {α : Type} :
    Dialogue α → Cuts → Bytes → Operation → Interruption → Prop where
  | write {op : Operation} {message bytes : Bytes} {next : Dialogue α} {cuts : Cuts} {cut : Cut}
      (hcut : cuts 0 = some cut) : CutAt (.send op message next) cuts bytes op cut.cause
  | read {op : Operation} {count : Nat} {next : Bytes → Dialogue α} {bytes : Bytes} {cuts : Cuts}
      {cut : Cut} (hcut : cuts 0 = some cut) :
      CutAt (.receive op count next) cuts bytes op cut.cause
  | written {op op' : Operation} {message bytes : Bytes} {next : Dialogue α} {cuts : Cuts}
      {cause : Interruption} (hwhole : cuts 0 = none)
      (hnext : CutAt next cuts.later bytes op' cause) :
      CutAt (.send op message next) cuts bytes op' cause
  | filled {op op' : Operation} {count : Nat} {next : Bytes → Dialogue α} {bytes : Bytes}
      {cuts : Cuts} {cause : Interruption} (hwhole : cuts 0 = none) (hcount : count ≤ bytes.length)
      (hnext : CutAt (next (bytes.take count)) cuts.later (bytes.drop count) op' cause) :
      CutAt (.receive op count next) cuts bytes op' cause

section Dialogues

variable {α : Type} {d : Dialogue α} {cuts : Cuts} {bytes : Bytes} {op : Operation}
  {cause : Interruption}

theorem Dialogue.CutAt.exists_trace (h : d.CutAt cuts bytes op cause) :
    ∃ sent rest,
      (d.cutBy cuts).trace bytes = ⟨.error (.refused (cause.failure op)), sent, rest⟩ := by
  induction h with
  | write hcut =>
      simp only [cutBy, hcut]
      exact ⟨_, _, rfl⟩
  | read hcut =>
      simp only [cutBy, hcut]
      exact ⟨_, _, rfl⟩
  | written hwhole _ ih =>
      obtain ⟨sent, rest, htrace⟩ := ih
      simp only [cutBy, hwhole, trace, htrace]
      exact ⟨_, _, rfl⟩
  | filled hwhole hcount _ ih =>
      simp only [cutBy, hwhole, trace, if_pos hcount]
      exact ih

/-- A dialogue that comes to no cut is held as it is. -/
theorem trace_cutBy (hwhole : ∀ op cause, ¬ d.CutAt cuts bytes op cause) :
    (d.cutBy cuts).trace bytes = d.trace bytes := by
  induction d generalizing cuts bytes with
  | finish result => rfl
  | send op message next ih =>
      cases hcut : cuts 0 with
      | some cut => exact absurd (.write hcut) (hwhole op cut.cause)
      | none =>
          simp only [cutBy, hcut, trace]
          rw [ih fun op' cause hnext => hwhole op' cause (.written hcut hnext)]
  | receive op count next ih =>
      cases hcut : cuts 0 with
      | some cut => exact absurd (.read hcut) (hwhole op cut.cause)
      | none =>
          simp only [cutBy, hcut, trace]
          by_cases hcount : count ≤ bytes.length
          · rw [if_pos hcount, if_pos hcount]
            exact ih _ fun op' cause hnext => hwhole op' cause (.filled hcut hcount hnext)
          · rw [if_neg hcount, if_neg hcount]

theorem not_cutAt_never : ¬ d.CutAt .never bytes op cause := by
  have hlater : Cuts.later .never = .never := rfl
  intro h
  generalize hnever : Cuts.never = cuts at h
  induction h with
  | write hcut | read hcut =>
      subst hnever
      cases hcut
  | written _ _ ih | filled _ _ _ ih =>
      subst hnever
      exact ih hlater.symm

end Dialogues

/-! ## Runs -/

/-- A run comes to an action `op` that is cut off, in the given step; all steps before it have
succeeded. -/
inductive Plan.CutAt (plan : Plan) (peer : Peer) (cuts : Step → Cuts) :
    Step → Operation → Interruption → Prop where
  | socksHandshake {op : Operation} {cause : Interruption}
      (hcut : (handshake plan.auth).CutAt (cuts .socksHandshake) peer.bytes op cause) :
      CutAt plan peer cuts .socksHandshake op cause
  | connect {method : AuthMethod} {greeted first : Bytes} {op : Operation} {cause : Interruption}
      (hgreeted : (handshake plan.auth).run peer.stall (cuts .socksHandshake) peer.bytes =
        ⟨.ok method, greeted, first⟩)
      (hcut : (ask .connect plan.target).CutAt (cuts .connect) first op cause) :
      CutAt plan peer cuts .connect op cause
  | udpAssociate {method : AuthMethod} {greeted first asked second : Bytes} {op : Operation}
      {cause : Interruption}
      (hgreeted : (handshake plan.auth).run peer.stall (cuts .socksHandshake) peer.bytes =
        ⟨.ok method, greeted, first⟩)
      (hasked : (ask .connect plan.target).run peer.stall (cuts .connect) first =
        ⟨.ok (), asked, second⟩)
      (htest : plan.udpTest = true)
      (hcut : (ask .udpAssociate Address.unspecified).CutAt (cuts .udpAssociate) second op cause) :
      CutAt plan peer cuts .udpAssociate op cause

/-- The run comes to no action that is cut off. -/
def Plan.Undisturbed (plan : Plan) (peer : Peer) (cuts : Step → Cuts) : Prop :=
  ∀ step op cause, ¬ plan.CutAt peer cuts step op cause

section Runs

variable {plan : Plan} {peer : Peer} {cuts : Step → Cuts} {step step' : Step} {op : Operation}

theorem fails_of_cutAt {cause : Interruption} (h : plan.CutAt peer cuts step op cause) :
    plan.Fails (.accepted peer cuts) step (cause.failure op) := by
  cases h with
  | socksHandshake hcut =>
      obtain ⟨_, _, htrace⟩ := hcut.exists_trace
      exact .socksHandshake (run_eq_error_iff.mpr ⟨_, htrace, rfl⟩)
  | connect hgreeted hcut =>
      obtain ⟨_, _, htrace⟩ := hcut.exists_trace
      exact .connect hgreeted (run_eq_error_iff.mpr ⟨_, htrace, rfl⟩)
  | udpAssociate hgreeted hasked htest hcut =>
      obtain ⟨_, _, htrace⟩ := hcut.exists_trace
      exact .udpAssociate hgreeted hasked htest (run_eq_error_iff.mpr ⟨_, htrace, rfl⟩)

theorem undisturbed_never (plan : Plan) (peer : Peer) :
    plan.Undisturbed peer fun _ => .never := by
  intro step op cause h
  cases h with
  | socksHandshake hcut => exact not_cutAt_never hcut
  | connect _ hcut => exact not_cutAt_never hcut
  | udpAssociate _ _ _ hcut => exact not_cutAt_never hcut

/-- A run that comes to no cut is the run without cuts. -/
theorem cutCourse_of_undisturbed (hwhole : plan.Undisturbed peer cuts) :
    plan.cutCourse cuts peer.bytes = plan.course peer.bytes := by
  have hgreet := trace_cutBy fun op cause hcut => hwhole _ op cause (.socksHandshake hcut)
  have hask : ∀ {method greeted first},
      (handshake plan.auth).trace peer.bytes = ⟨.ok method, greeted, first⟩ →
        ((ask .connect plan.target).cutBy (cuts .connect)).trace first =
          (ask .connect plan.target).trace first :=
    fun hgreeted => trace_cutBy fun op cause hcut =>
      hwhole _ op cause (.connect (run_eq_ok_iff.mpr (hgreet.trans hgreeted)) hcut)
  have htakes := takes_course plan peer.bytes
  generalize plan.course peer.bytes = c at htakes ⊢
  rw [cutCourse_eq_iff]
  -- every dialogue that the run comes to is held as it is
  cases htakes with
  | ungreeted hgreeted => exact .ungreeted (hgreet.trans hgreeted)
  | unconnected hgreeted hasked =>
      exact .unconnected (hgreet.trans hgreeted) ((hask hgreeted).trans hasked)
  | connected hgreeted hasked htest =>
      exact .connected (hgreet.trans hgreeted) ((hask hgreeted).trans hasked) htest
  | associated hgreeted hasked htest htold =>
      refine .associated (hgreet.trans hgreeted) ((hask hgreeted).trans hasked) htest
        ((trace_cutBy fun op cause hcut => ?_).trans htold)
      exact hwhole _ op cause (.udpAssociate (run_eq_ok_iff.mpr (hgreet.trans hgreeted))
        (run_eq_ok_iff.mpr ((hask hgreeted).trans hasked)) htest hcut)

theorem Plan.Fails.unique {cause cause' : StepFailure}
    (h : plan.Fails (.accepted peer cuts) step cause)
    (h' : plan.Fails (.accepted peer cuts) step' cause') : step = step' ∧ cause = cause' := by
  obtain ⟨halt, hhalt, rfl⟩ := fails_iff_halt?.mp h
  obtain ⟨halt', hhalt', rfl⟩ := fails_iff_halt?.mp h'
  rw [hhalt] at hhalt'
  cases hhalt'
  exact ⟨rfl, rfl⟩

end Runs

/-! ## Actions by their names -/

/-- The actions of a step on the network, as its failures name them. -/
def Step.operations : Step → List Operation
  | tcpConnect => [.dial]
  | socksHandshake => [.writeGreeting, .readMethodSelection, .writeUserPass, .readUserPassReply]
  | connect | udpAssociate => [.writeRequest, .readReplyHeader, .readBoundAddress]

/-- All actions of the dialogue have names among these. -/
def Dialogue.Within {α : Type} (ops : List Operation) : Dialogue α → Prop
  | finish _ => True
  | send op _ next => op ∈ ops ∧ next.Within ops
  | receive op _ next => op ∈ ops ∧ ∀ bytes, (next bytes).Within ops

section Operations

variable {α β : Type} {ops : List Operation} {d : Dialogue α} {op : Operation}

theorem within_bind {f : α → Dialogue β} (hd : d.Within ops) (hf : ∀ a, (f a).Within ops) :
    (d.bind f).Within ops := by
  induction d with
  | finish result =>
      cases result with
      | error cause => trivial
      | ok a => exact hf a
  | send op message next ih => exact ⟨hd.1, ih hd.2⟩
  | receive op count next ih => exact ⟨hd.1, fun bytes => ih bytes (hd.2 bytes)⟩

theorem within_say {message : Bytes} (hop : op ∈ ops) : (say op message).Within ops :=
  ⟨hop, trivial⟩

theorem within_hear {count : Nat} (hop : op ∈ ops) : (hear op count).Within ops :=
  ⟨hop, fun _ => trivial⟩

theorem within_framed (op : Operation) (decoded : Except Socks.Fault α) :
    (framed op decoded).Within ops := by
  cases decoded <;> trivial

theorem Dialogue.CutAt.mem {cuts : Cuts} {bytes : Bytes} {cause : Interruption}
    (h : d.CutAt cuts bytes op cause) (hd : d.Within ops) : op ∈ ops := by
  induction h with
  | write => exact hd.1
  | read => exact hd.1
  | written _ _ ih => exact ih hd.2
  | filled _ _ _ ih => exact ih (hd.2 _)

theorem Dialogue.Stalls.mem {bytes : Bytes} (h : d.Stalls bytes op) (hd : d.Within ops) :
    op ∈ ops := by
  induction h with
  | send _ ih => exact ih hd.2
  | short => exact hd.1
  | filled _ _ ih => exact ih (hd.2 _)

theorem within_authenticate (credentials : Credentials) :
    (authenticate credentials).Within Step.socksHandshake.operations := by
  unfold authenticate
  cases Socks.checkCredentials credentials with
  | error fault => trivial
  | ok _ =>
      refine within_bind (within_say (by decide)) fun _ => ?_
      refine within_bind (within_hear (by decide)) fun reply => ?_
      refine within_bind (within_framed _ _) fun accepted => ?_
      cases accepted <;> trivial

theorem within_handshake (auth : Option Credentials) :
    (handshake auth).Within Step.socksHandshake.operations := by
  refine within_bind (within_say (by decide)) fun _ => ?_
  refine within_bind (within_hear (by decide)) fun selection => ?_
  refine within_bind (within_framed _ _) fun method => ?_
  unfold answerMethod
  split
  · trivial
  split
  · cases auth with
    | none => trivial
    | some credentials => exact within_bind (within_authenticate credentials) fun _ => trivial
  split <;> trivial

theorem within_skipBoundAddress (atyp : UInt8) :
    (skipBoundAddress atyp).Within Step.connect.operations := by
  refine within_bind (within_framed _ _) fun form => ?_
  cases form with
  | fixed count => exact within_bind (within_hear (by decide)) fun _ => trivial
  | lengthPrefixed =>
      refine within_bind (within_hear (by decide)) fun first => ?_
      refine within_bind (within_framed _ _) fun count => ?_
      exact within_bind (within_hear (by decide)) fun _ => trivial

theorem within_ask (command : Command) (address : Address) :
    (ask command address).Within Step.connect.operations := by
  refine within_bind (within_say (by decide)) fun _ => ?_
  refine within_bind (within_hear (by decide)) fun bytes => ?_
  refine within_bind (within_framed _ _) fun header => ?_
  split
  · exact within_skipBoundAddress header.atyp
  · trivial

theorem mem_operations_of_cutAt {plan : Plan} {peer : Peer} {cuts : Step → Cuts} {step : Step}
    {cause : Interruption} (h : plan.CutAt peer cuts step op cause) : op ∈ step.operations := by
  cases h with
  | socksHandshake hcut => exact hcut.mem (within_handshake plan.auth)
  | connect _ hcut => exact hcut.mem (within_ask _ _)
  | udpAssociate _ _ _ hcut => exact hcut.mem (within_ask _ _)

theorem mem_operations_of_stalls {plan : Plan} {bytes : Bytes} {step : Step}
    (h : plan.Stalls bytes step op) : op ∈ step.operations := by
  cases h with
  | socksHandshake hstalls => exact hstalls.mem (within_handshake plan.auth)
  | connect _ hstalls => exact hstalls.mem (within_ask _ _)
  | udpAssociate _ _ _ hstalls => exact hstalls.mem (within_ask _ _)

end Operations

end SocksMonitor.Probing
