import SocksMonitor.Probing.Failure
import SocksMonitor.Text.Utf8

/-!
# Dialogues

What a client says to a peer, written as a tree: send a message and go on, or wait for a number of
bytes and go on with them, or finish. `Dialogue.run` holds it over a connection to a peer whose
bytes are given. The tree knows nothing of sockets, deadlines or signals; all of them come down to
how an action is cut off, be it a wait for bytes that do not come or one of the actions that `Cuts`
names.
-/

namespace SocksMonitor.Probing

/-- A client's side of a conversation. -/
inductive Dialogue (α : Type) where
  | finish (result : Except StepFailure α)
  | send (op : Operation) (message : Bytes) (next : Dialogue α)
  | receive (op : Operation) (count : Nat) (next : Bytes → Dialogue α)

/-- An action that is cut off, whatever the peer has sent: a write that fails, a deadline that has
passed or a cancellation. -/
structure Cut where
  cause : Interruption
  /-- How many bytes of a message are out by then. -/
  out : Nat

/-- Which actions of a dialogue are cut off, by their number. -/
abbrev Cuts := Nat → Option Cut

def Cuts.never : Cuts := fun _ => none

/-- The cuts of the actions behind the first one. -/
def Cuts.later (cuts : Cuts) : Cuts := fun n => cuts (n + 1)

structure Outcome (α : Type) where
  result : Except StepFailure α
  sent : Bytes
  /-- The peer's bytes that the client has not taken. -/
  rest : Bytes

namespace Dialogue

/-- Goes on with a second dialogue unless the first has failed. -/
def bind {α β : Type} (d : Dialogue α) (f : α → Dialogue β) : Dialogue β :=
  match d with
  | finish (.ok a) => f a
  | finish (.error failure) => finish (.error failure)
  | send op message next => send op message (next.bind f)
  | receive op count next => receive op count fun bytes => (next bytes).bind f

instance : Monad Dialogue where
  pure a := finish (.ok a)
  bind := bind

def say (op : Operation) (message : Bytes) : Dialogue Unit := send op message (finish (.ok ()))

def hear (op : Operation) (count : Nat) : Dialogue Bytes :=
  receive op count fun bytes => finish (.ok bytes)

def fail {α : Type} (failure : StepFailure) : Dialogue α := finish (.error failure)

/-- Takes a fault of the peer's message as the failure of an action. -/
def framed {α : Type} (op : Operation) : Except Socks.Fault α → Dialogue α
  | .ok a => finish (.ok a)
  | .error fault => finish (.error (.framing op fault))

/-- Holds the dialogue with a peer that sends `bytes`. A wait for more than that is cut off by
`stall`, and what had come until then is lost. The actions that `cuts` names are cut off in any
case. -/
def run {α : Type} (stall : Interruption) : Dialogue α → Cuts → Bytes → Outcome α
  | finish result, _, bytes => ⟨result, [], bytes⟩
  | send op message next, cuts, bytes =>
    match cuts 0 with
    | some cut => ⟨.error (cut.cause.failure op), message.take cut.out, bytes⟩
    | none =>
      let outcome := next.run stall cuts.later bytes
      ⟨outcome.result, message ++ outcome.sent, outcome.rest⟩
  | receive op count next, cuts, bytes =>
    match cuts 0 with
    | some cut => ⟨.error (cut.cause.failure op), [], bytes⟩
    | none =>
      if count ≤ bytes.length then
        (next (bytes.take count)).run stall cuts.later (bytes.drop count)
      else ⟨.error (stall.failure op), [], []⟩

end Dialogue

end SocksMonitor.Probing
