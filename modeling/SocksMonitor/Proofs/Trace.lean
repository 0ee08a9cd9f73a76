import SocksMonitor.Probing.Dialogue

/-!
# Traces of dialogues

`Dialogue.run` answers three questions at once: what the peer's bytes lead to, what cuts off a
wait that they do not fill, and which actions are cut off besides. A trace answers the first one
alone. It names the starved wait and leaves its cause open, so everything that holds for every way
of being cut off is a fact about traces. What cuts off other actions is put into the dialogue
itself: `Dialogue.cutBy` ends it where the first cut is met.

- `run_eq_outcome`: a run is the trace of the dialogue that the cuts leave, with the starved wait
  reported as what cut it off.
- `cutBy_never`: without a cut that is the dialogue itself.
- `trace_bind` and the lemmas beside it: how each action of a dialogue shows up in its trace.
- `trace_append`: bytes behind those that a finished trace has taken make no difference to it.

`Proofs/Course.lean` puts the traces of the single steps together.
-/

namespace SocksMonitor.Probing

/-- Why a dialogue ends before its last action. -/
inductive Halt where
  /-- The peer's bytes are not acceptable, the client's own message cannot be encoded, or an action
  is cut off. -/
  | refused (cause : StepFailure)
  /-- A wait for more bytes than the peer has. -/
  | starved (op : Operation)
deriving Repr, DecidableEq

/-- The failure that a halt is reported as, once it is known what cuts waits off. -/
def Halt.cause (stall : Interruption) : Halt → StepFailure
  | refused cause => cause
  | starved op => stall.failure op

/-- A dialogue held with given bytes, before it is known what cuts waits off. -/
structure Trace (α : Type) where
  ending : Except Halt α
  sent : Bytes
  rest : Bytes

namespace Trace

/-- What the trace comes to when waits are cut off by `stall`. -/
def outcome {α : Type} (stall : Interruption) (t : Trace α) : Outcome α :=
  ⟨t.ending.mapError (Halt.cause stall), t.sent, t.rest⟩

@[simp] theorem outcome_ok {α : Type} (stall : Interruption) (a : α) (sent rest : Bytes) :
    outcome stall ⟨.ok a, sent, rest⟩ = ⟨.ok a, sent, rest⟩ := rfl

@[simp] theorem outcome_error {α : Type} (stall : Interruption) (halt : Halt)
    (sent rest : Bytes) :
    outcome stall (⟨.error halt, sent, rest⟩ : Trace α) = ⟨.error (halt.cause stall), sent, rest⟩ :=
  rfl

/-- A trace with more sent in front. -/
def after {α : Type} (message : Bytes) (t : Trace α) : Trace α :=
  ⟨t.ending, message ++ t.sent, t.rest⟩

/-- Goes on with what follows a finished trace. -/
def andThen {α β : Type} (t : Trace α) (next : α → Bytes → Trace β) : Trace β :=
  match t.ending with
  | .ok a => (next a t.rest).after t.sent
  | .error halt => ⟨.error halt, t.sent, t.rest⟩

/-- The trace of a dialogue that gives up. -/
def refused {α : Type} (cause : StepFailure) (bytes : Bytes) : Trace α :=
  ⟨.error (.refused cause), [], bytes⟩

/-- The trace of a dialogue that waits in vain. What had come until then is lost. -/
def starved {α : Type} (op : Operation) : Trace α := ⟨.error (.starved op), [], []⟩

/-- The trace of a dialogue that takes so many bytes off the stream. -/
def skipped (op : Operation) (count : Nat) (bytes : Bytes) : Trace Unit :=
  if count ≤ bytes.length then ⟨.ok (), [], bytes.drop count⟩ else .starved op

theorem eq_of_ending {α : Type} {t : Trace α} {ending : Except Halt α}
    (hending : t.ending = ending) : t = ⟨ending, t.sent, t.rest⟩ := by
  rw [← hending]

section Fields

variable {α : Type} (message : Bytes) (t : Trace α)

@[simp] theorem sent_after : (t.after message).sent = message ++ t.sent := rfl

@[simp] theorem sent_refused (cause : StepFailure) (bytes : Bytes) :
    (refused cause bytes : Trace α).sent = [] := rfl

@[simp] theorem sent_starved (op : Operation) : (starved op : Trace α).sent = [] := rfl

@[simp] theorem sent_skipped (op : Operation) (count : Nat) (bytes : Bytes) :
    (skipped op count bytes).sent = [] := by
  unfold skipped
  split <;> rfl

end Fields

end Trace

namespace Dialogue

variable {α β : Type}

/-- Holds the dialogue with a peer that sends `bytes`, and stops at the first wait for more. -/
def trace : Dialogue α → Bytes → Trace α
  | finish (.ok a), bytes => ⟨.ok a, [], bytes⟩
  | finish (.error cause), bytes => .refused cause bytes
  | send _ message next, bytes => (next.trace bytes).after message
  | receive op count next, bytes =>
      if count ≤ bytes.length then (next (bytes.take count)).trace (bytes.drop count)
      else .starved op

/-- The dialogue that the cuts leave: the first action that is cut off is its last one. -/
def cutBy : Dialogue α → Cuts → Dialogue α
  | finish result, _ => finish result
  | send op message next, cuts =>
      match cuts 0 with
      | some cut => send op (message.take cut.out) (fail (cut.cause.failure op))
      | none => send op message (next.cutBy cuts.later)
  | receive op count next, cuts =>
      match cuts 0 with
      | some cut => fail (cut.cause.failure op)
      | none => receive op count fun bytes => (next bytes).cutBy cuts.later

theorem cutBy_never (d : Dialogue α) : d.cutBy .never = d := by
  have hlater : Cuts.later .never = .never := rfl
  induction d with
  | finish result => rfl
  | send op message next ih => simp only [cutBy, Cuts.never, hlater, ih]
  | receive op count next ih => simp only [cutBy, Cuts.never, hlater, ih]

/-- A run is the trace of what the cuts leave, with the starved wait reported as what cut it
off. -/
theorem run_eq_outcome (stall : Interruption) (d : Dialogue α) (cuts : Cuts) (bytes : Bytes) :
    d.run stall cuts bytes = ((d.cutBy cuts).trace bytes).outcome stall := by
  induction d generalizing cuts bytes with
  | finish result => cases result <;> rfl
  | send op message next ih =>
      simp only [run, cutBy]
      cases cuts 0 with
      | some cut => simp [fail, trace, Trace.refused, Trace.after, Halt.cause]
      | none =>
          simp only [ih, trace]
          rfl
  | receive op count next ih =>
      simp only [run, cutBy]
      cases cuts 0 with
      | some cut => rfl
      | none =>
          simp only [ih, trace]
          split <;> rfl

/-! ## The trace of each action -/

theorem bind_eq (d : Dialogue α) (f : α → Dialogue β) : (d >>= f) = d.bind f := rfl

theorem pure_eq (a : α) : (pure a : Dialogue α) = finish (.ok a) := rfl

theorem trace_fail (cause : StepFailure) (bytes : Bytes) :
    (fail cause : Dialogue α).trace bytes = .refused cause bytes := rfl

theorem trace_bind (d : Dialogue α) (f : α → Dialogue β) (bytes : Bytes) :
    (d.bind f).trace bytes = (d.trace bytes).andThen fun a rest => (f a).trace rest := by
  induction d generalizing bytes with
  | finish result => cases result <;> rfl
  | send op message next ih =>
      simp only [bind, trace, ih, Trace.andThen, Trace.after]
      cases (next.trace bytes).ending <;> simp
  | receive op count next ih =>
      simp only [bind, trace]
      split
      · exact ih _ _
      · rfl

theorem trace_say_bind (op : Operation) (message : Bytes) (f : Unit → Dialogue β)
    (bytes : Bytes) :
    ((say op message).bind f).trace bytes = ((f ()).trace bytes).after message := rfl

theorem trace_hear_bind (op : Operation) (count : Nat) (f : Bytes → Dialogue β) (bytes : Bytes) :
    ((hear op count).bind f).trace bytes =
      if count ≤ bytes.length then (f (bytes.take count)).trace (bytes.drop count)
      else .starved op := rfl

theorem trace_skip (op : Operation) (count : Nat) (bytes : Bytes) :
    ((hear op count).bind fun _ => (finish (.ok ()) : Dialogue Unit)).trace bytes =
      .skipped op count bytes := rfl

theorem trace_framed_ok (op : Operation) (a : α) (f : α → Dialogue β) (bytes : Bytes) :
    ((framed op (.ok a)).bind f).trace bytes = (f a).trace bytes := rfl

theorem trace_framed_error (op : Operation) (fault : Socks.Fault) (f : α → Dialogue β)
    (bytes : Bytes) :
    ((framed op (.error fault)).bind f).trace bytes = .refused (.framing op fault) bytes := rfl

/-! ## No dialogue looks ahead -/

/-- A trace that is not starved takes no notice of what comes behind the bytes that it has: longer
input leads to the same ending with the same bytes sent, and only the rest is longer. -/
theorem trace_append (d : Dialogue α) (bytes more : Bytes)
    (hfed : ∀ op, (d.trace bytes).ending ≠ .error (.starved op)) :
    d.trace (bytes ++ more) =
      ⟨(d.trace bytes).ending, (d.trace bytes).sent, (d.trace bytes).rest ++ more⟩ := by
  induction d generalizing bytes with
  | finish result => cases result <;> rfl
  | send op message next ih => simp only [trace, Trace.after, ih bytes hfed]
  | receive op count next ih =>
      by_cases hcount : count ≤ bytes.length
      · have hlong : count ≤ (bytes ++ more).length := by
          rw [List.length_append]
          omega
        simp only [trace, if_pos hcount] at hfed
        simp only [trace, if_pos hcount, if_pos hlong, List.take_append_of_le_length hcount,
          List.drop_append_of_le_length hcount]
        exact ih _ _ hfed
      · simp only [trace, if_neg hcount] at hfed
        exact absurd rfl (hfed op)

end Dialogue

end SocksMonitor.Probing
