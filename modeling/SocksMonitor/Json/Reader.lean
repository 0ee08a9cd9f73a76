import SocksMonitor.Json.Literal

/-!
# Reading JSON

A text is read by a machine with a stack of the arrays and objects that are still open, so that
nesting is limited by nothing but the length of the text. The machine either looks for a value or
has one at hand that goes into the topmost open container. Every move takes at least one byte,
hence the number of bytes bounds the moves.
-/

namespace SocksMonitor.Json

def isSpace (b : UInt8) : Bool := b == 0x20 || b == 0x09 || b == 0x0A || b == 0x0D

def skipSpace (bytes : Bytes) : Bytes := bytes.dropWhile isSpace

/-- An open container: what it has so far, in reverse order, and the name of the next value. -/
inductive Frame where
  | items (found : List Json)
  | fields (found : List (Option String × Json)) (name : Option String)

inductive Task where
  | seek
  /-- Put a finished value into the topmost container. -/
  | place (value : Json)

def readName? (bytes : Bytes) : Option (Option String × Bytes) :=
  match skipSpace bytes with
  | 0x22 :: rest => do
    let (name, rest) ← readString? rest
    match skipSpace rest with
    | 0x3A :: rest => some (name, rest)
    | _ => none
  | _ => none

def readWord? (word bytes : Bytes) : Option Bytes :=
  if word.isPrefixOf bytes then some (bytes.drop word.length) else none

/-- `true`, `false`, `null`, a string or a number. -/
def readScalar? (bytes : Bytes) : Option (Json × Bytes) :=
  match bytes with
  | [] => none
  | b :: rest =>
    if b = 0x22 then (readString? rest).map fun (s, rest) => (string s, rest)
    else if b = 0x74 then (readWord? [0x72, 0x75, 0x65] rest).map fun rest => (bool true, rest)
    else if b = 0x66 then
      (readWord? [0x61, 0x6C, 0x73, 0x65] rest).map fun rest => (bool false, rest)
    else if b = 0x6E then (readWord? [0x75, 0x6C, 0x6C] rest).map fun rest => (null, rest)
    else (readNumber? bytes).map fun (n, rest) => (number n, rest)

/-- The machine: the first value of the bytes within the open containers, and what follows when all
are closed. `moves` is an upper bound for its moves. -/
def machine? (moves : Nat) (task : Task) (stack : List Frame) (bytes : Bytes) :
    Option (Json × Bytes) :=
  match moves with
  | 0 => none
  | moves + 1 =>
    match task, stack with
    | .place value, [] => some (value, bytes)
    | .place value, .items found :: stack =>
      match skipSpace bytes with
      | 0x2C :: rest => machine? moves .seek (.items (value :: found) :: stack) rest
      | 0x5D :: rest => machine? moves (.place (.array (value :: found).reverse)) stack rest
      | _ => none
    | .place value, .fields found name :: stack =>
      match skipSpace bytes with
      | 0x2C :: rest =>
        match readName? rest with
        | some (next, rest) =>
          machine? moves .seek (.fields ((name, value) :: found) next :: stack) rest
        | none => none
      | 0x7D :: rest =>
        machine? moves (.place (.object ((name, value) :: found).reverse)) stack rest
      | _ => none
    | .seek, stack =>
      match skipSpace bytes with
      | 0x5B :: rest =>
        match skipSpace rest with
        | 0x5D :: rest => machine? moves (.place (.array [])) stack rest
        | rest => machine? moves .seek (.items [] :: stack) rest
      | 0x7B :: rest =>
        match skipSpace rest with
        | 0x7D :: rest => machine? moves (.place (.object [])) stack rest
        | rest =>
          match readName? rest with
          | some (name, rest) => machine? moves .seek (.fields [] name :: stack) rest
          | none => none
      | rest =>
        match readScalar? rest with
        | some (value, rest) => machine? moves (.place value) stack rest
        | none => none

/-- Reads a value that makes up a whole text, with nothing but white space around it. -/
def read? (bytes : Bytes) : Option Json :=
  match machine? (2 * bytes.length + 2) .seek [] bytes with
  | some (value, rest) => if (skipSpace rest).isEmpty then some value else none
  | none => none

end SocksMonitor.Json
