import SocksMonitor.Json.Value
import SocksMonitor.Time.Rfc3339

/-!
# Reading records

A record is written as an object with a field for each of its parts, or as an array of the parts
in order. `Layout.slots?` settles the shape: which names a record has, whether others may stand
beside them, and how many parts an array may leave out at its end. The readers below it take the
parts out and check their types.
-/

namespace SocksMonitor.Json

structure Layout where
  names : List String
  /-- The fewest items of the array form. -/
  least : Nat
  /-- Whether an object with other names is refused. -/
  closed : Bool

/-- The parts that a text has given, by name. -/
abbrev Slots := List (String × Json)

namespace Layout

/-- A record all of whose parts must be there, beside any others. -/
def full (names : List String) : Layout := ⟨names, names.length, false⟩

/-- The parts among the fields of an object, behind those found so far. Every name must be text,
and a part must not be given twice. -/
def collect? (layout : Layout) (found : Slots) : List (Option String × Json) → Option Slots
  | [] => some found
  | (none, _) :: _ => none
  | (some name, value) :: fields =>
    if layout.names.contains name then
      if (found.lookup name).isSome then none
      else layout.collect? ((name, value) :: found) fields
    else if layout.closed then none
    else layout.collect? found fields

def slots? (layout : Layout) : Json → Option Slots
  | object fields => layout.collect? [] fields
  | array items =>
    if layout.least ≤ items.length ∧ items.length ≤ layout.names.length then
      some (layout.names.zip items)
    else none
  | _ => none

end Layout

namespace Slots

variable {α : Type}

def need (slots : Slots) (name : String) (read : Json → Option α) : Option α :=
  (slots.lookup name).bind read

/-- A part that may be missing or `null`. -/
def maybe (slots : Slots) (name : String) (read : Json → Option α) : Option (Option α) :=
  match slots.lookup name with
  | none => some none
  | some null => some none
  | some value => (read value).map some

/-- A part that has a default when it is missing; `null` is no default. -/
def withDefault (slots : Slots) (name : String) (fallback : α) (read : Json → Option α) :
    Option α :=
  match slots.lookup name with
  | none => some fallback
  | some value => read value

end Slots

/-! ## Types of parts -/

def asBool? : Json → Option Bool
  | bool b => some b
  | _ => none

def asText? : Json → Option String
  | string text => text
  | _ => none

def asInt? (low high : Int) : Json → Option Int
  | number (.integer n) => if low ≤ n ∧ n ≤ high then some n else none
  | _ => none

def asUInt32? (v : Json) : Option UInt32 :=
  (asInt? 0 0xFFFFFFFF v).map fun n => UInt32.ofNat n.toNat

def asUInt64? (v : Json) : Option UInt64 :=
  (asInt? 0 0xFFFFFFFFFFFFFFFF v).map fun n => UInt64.ofNat n.toNat

/-- An array whose items all have one type. -/
def asList? {α : Type} (read : Json → Option α) : Json → Option (List α)
  | array items => items.mapM read
  | _ => none

def asTime? (v : Json) : Option Time.Timestamp :=
  (asText? v).bind fun s => Time.Timestamp.read? s.toList

def time (t : Time.Timestamp) : Json := text (String.ofList t.text)

/-- Whether a value says nothing. A value that was held on to may be an empty object. -/
def isUnit (held : Bool) : Json → Bool
  | null => true
  | object [] => held
  | _ => false

/-- One of several names, or an object with the name as its only field and nothing as its value. -/
def asName? {α : Type} (held : Bool) (ofName? : String → Option α) : Json → Option α
  | string (some name) => ofName? name
  | object [(some name, value)] => if isUnit held value then ofName? name else none
  | _ => none

end SocksMonitor.Json
