import SocksMonitor.Toml.Token

/-!
# TOML documents

Values, and the lines of a document: `name = value`, `[header]` and `[[header]]`. Every name may be
given once, and a table is declared once. Arrays and inline tables nest to a limit, which is also
what the recursion goes by; along the text it goes by a fuel that is more than the text's length.
-/

namespace SocksMonitor.Toml

/-! ## Values -/

/-- The items of an array behind its opening bracket. White space, comments and line ends may stand
between them, and a comma behind the last. What has been read comes in reverse order. -/
def arrayItems (value : Reader Value) (fuel : Nat) (read : List Value) : Reader Value := fun cs =>
  match fuel with
  | 0 => none
  | fuel + 1 =>
    match skipLines (fuel + 1) cs with
    | ']' :: rest => some (.array read.reverse, rest)
    | cs =>
      match value cs with
      | none => none
      | some (v, rest) =>
        match skipLines (fuel + 1) rest with
        | ',' :: rest => arrayItems value fuel (v :: read) rest
        | ']' :: rest => some (.array (v :: read).reverse, rest)
        | _ => none

/-- The fields of an inline table, on one line and with at least one of them, up to and with the
closing brace. -/
def inlineFields (value : Reader Value) (fuel : Nat) (read : Entries) : Reader Value := fun cs =>
  match fuel with
  | 0 => none
  | fuel + 1 => do
    let ((path, last), rest) ← name cs
    let ((), rest) ← mark '=' rest
    let (v, rest) ← value (skipSpace rest)
    let read ← read.addDotted path last v .declared
    match skipSpace rest with
    | ',' :: rest => inlineFields value fuel read rest
    | '\x7d' :: rest => some (.table (Node.entryValues read), rest)
    | _ => none

/-- The most levels of arrays and inline tables within each other. -/
def nestingLimit : Nat := 80

/-- A value with up to `levels` levels of arrays and inline tables. -/
def value (fuel levels : Nat) : Reader Value := fun cs =>
  match cs with
  | [] => none
  | c :: rest =>
    if c = '"' ∨ c = '\'' then (string fuel cs).map fun (s, rest) => (.string s, rest)
    else if c = '[' then
      match levels with
      | 0 => none
      | levels + 1 => arrayItems (value fuel levels) fuel [] rest
    else if c = '\x7b' then
      match levels with
      | 0 => none
      | levels + 1 =>
        match skipSpace rest with
        | '\x7d' :: rest => some (.table [], rest)
        | rest => inlineFields (value fuel levels) fuel [] rest
    else if c = 't' then
      (word ['t', 'r', 'u', 'e'] cs).map fun rest => (.bool true, rest)
    else if c = 'f' then
      (word ['f', 'a', 'l', 's', 'e'] cs).map fun rest => (.bool false, rest)
    else
      match dateTime cs, decimalFloat cs, specialFloat cs with
      | some found, _, _ => some found
      | none, some found, _ => some found
      | none, none, some found => some found
      | none, none, none => integer cs

/-! ## Lines -/

/-- A document while it is read: all of its entries, and the path of the last header. -/
structure Draft where
  entries : Entries := []
  header : List String := []

namespace Draft

/-- Takes up `path.last = v` under the last header. -/
def assign (draft : Draft) (path : List String) (last : String) (v : Value) : Option Draft := do
  let entries ← draft.entries.modifyAt .implied
    (fun origin entries => entries.addDotted path last v origin) .declared draft.header
  return { draft with entries }

/-- Takes up a header: of a single table, or of a further one among several. -/
def declare (draft : Draft) (several : Bool) (path : List String) (last : String) :
    Option Draft := do
  let change := if several then Entries.declareNext last else Entries.declareTable last
  let entries ← draft.entries.modifyAt .implied change .declared path
  return ⟨entries, path ++ [last]⟩

end Draft

def headerLine (draft : Draft) (several : Bool) (cs : List Char) : Option (Draft × List Char) := do
  let ((path, last), rest) ← name cs
  let ((), rest) ← mark ']' rest
  let rest ← if several then (mark ']' rest).map Prod.snd else some rest
  let rest ← restOfLine rest
  let draft ← draft.declare several path last
  return (draft, rest)

def assignmentLine (fuel : Nat) (draft : Draft) (cs : List Char) : Option (Draft × List Char) := do
  let ((path, last), rest) ← name cs
  let ((), rest) ← mark '=' rest
  let (v, rest) ← value fuel nestingLimit (skipSpace rest)
  let rest ← restOfLine rest
  let draft ← draft.assign path last v
  return (draft, rest)

def lines (fuel : Nat) (draft : Draft) (cs : List Char) : Option Draft :=
  match fuel with
  | 0 => none
  | fuel + 1 =>
    match skipSpace cs with
    | [] => some draft
    | '[' :: '[' :: rest => do
      let (draft, rest) ← headerLine draft true rest
      lines fuel draft rest
    | '[' :: rest => do
      let (draft, rest) ← headerLine draft false rest
      lines fuel draft rest
    | c :: rest =>
      if c = '#' ∨ c = '\n' ∨ c = '\r' then do
        let rest ← restOfLine (c :: rest)
        lines fuel draft rest
      else do
        let (draft, rest) ← assignmentLine fuel draft (c :: rest)
        lines fuel draft rest

/-- The text behind a byte order mark, if it begins with one. -/
def skipByteOrderMark : List Char → List Char
  | '\ufeff' :: cs => cs
  | cs => cs

/-- The table that a document stands for. -/
def read? (s : String) : Option (List (String × Value)) :=
  let cs := skipByteOrderMark s.toList
  (lines (cs.length + 1) {} cs).map fun draft => Node.entryValues draft.entries

end SocksMonitor.Toml
