/-!
# TOML values

The value of a TOML document. Floats and times have a place in it but no content, since no setting
is one of them. `Node` is the document while it is being put together: it remembers how a table has
come to be, on which depends who may still add to it.
-/

namespace SocksMonitor.Toml

/-- A value of a document. The names of a table differ from each other. -/
inductive Value where
  | string (text : String)
  | integer (value : Int)
  | bool (value : Bool)
  | float
  | time
  | array (items : List Value)
  | table (entries : List (String × Value))
deriving Repr, Inhabited

inductive Origin where
  /-- By a header of its own, or as an inline table or the document. -/
  | declared
  /-- By the header of a table below it; its own header may follow. -/
  | implied
  /-- By a dotted name, within the table that has it. -/
  | dotted
deriving Repr, DecidableEq

inductive Node where
  | value (value : Value)
  | table (origin : Origin) (entries : List (String × Node))
  /-- Tables under one `[[header]]`, the latest first. -/
  | tables (latest : List (List (String × Node)))
deriving Inhabited

abbrev Entries := List (String × Node)

/-! ## Adding to a document -/

namespace Entries

/-- Replaces the entry of a name, or adds it at the end. -/
def put (name : String) (node : Node) : Entries → Entries
  | [] => [(name, node)]
  | (n, old) :: rest => if n = name then (name, node) :: rest else (n, old) :: put name node rest

/-- Changes the table that a path leads to. Missing tables on the way come to be with the origin
`fresh`; a path of dotted names does not lead through declared tables. At several tables under one
header it goes on in the latest. The change gets the origin of the table too. -/
def modifyAt (fresh : Origin) (change : Origin → Entries → Option Entries) (origin : Origin) :
    List String → Entries → Option Entries
  | [], entries => change origin entries
  | name :: path, entries =>
    match entries.lookup name with
    | none => do
      let inner ← modifyAt fresh change fresh path []
      return entries.put name (.table fresh inner)
    | some (.table kind inner) =>
      if fresh = .dotted ∧ kind = .declared then none
      else do
        let inner ← modifyAt fresh change kind path inner
        return entries.put name (.table kind inner)
    | some (.tables (last :: earlier)) => do
      let last ← modifyAt fresh change .declared path last
      return entries.put name (.tables (last :: earlier))
    | some (.tables []) => none
    | some (.value _) => none

/-- Adds an entry that must be new. A dotted path must end in a table of its own kind, and a plain
name in another one. -/
def addNew (dottedPath : Bool) (name : String) (v : Value) (origin : Origin) (entries : Entries) :
    Option Entries :=
  if (origin = .dotted) ≠ (dottedPath = true) then none
  else
    match entries.lookup name with
    | none => some (entries ++ [(name, .value v)])
    | some _ => none

/-- Adds `path.name = v` below a table. -/
def addDotted (path : List String) (name : String) (v : Value) (origin : Origin)
    (entries : Entries) : Option Entries :=
  modifyAt .dotted (addNew (!path.isEmpty) name v) origin path entries

/-- Declares a table under a name that has none yet, or an implied one. -/
def declareTable (name : String) (_ : Origin) (entries : Entries) : Option Entries :=
  match entries.lookup name with
  | none => some (entries ++ [(name, .table .declared [])])
  | some (.table .implied inner) => some (entries.put name (.table .declared inner))
  | some _ => none

/-- Begins a further table under a name that has none yet, or several. -/
def declareNext (name : String) (_ : Origin) (entries : Entries) : Option Entries :=
  match entries.lookup name with
  | none => some (entries ++ [(name, .tables [[]])])
  | some (.tables latest) => some (entries.put name (.tables ([] :: latest)))
  | some _ => none

end Entries

/-! ## The finished document -/

mutual

def Node.toValue : Node → Value
  | .value v => v
  | .table _ entries => .table (Node.entryValues entries)
  | .tables latest => .array (Node.tableValues latest).reverse

def Node.entryValues : List (String × Node) → List (String × Value)
  | [] => []
  | (name, node) :: rest => (name, node.toValue) :: Node.entryValues rest

def Node.tableValues : List (List (String × Node)) → List Value
  | [] => []
  | entries :: rest => .table (Node.entryValues entries) :: Node.tableValues rest

end

end SocksMonitor.Toml
