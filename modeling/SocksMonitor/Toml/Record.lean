import SocksMonitor.Toml.Value

/-!
# Reading records from TOML

A record is given as a table with an entry for each of its parts, or as an array of its leading
parts in order. Entries of other names are passed over, and so are items behind the last part. A
date or time counts as a record without any of the parts.
-/

namespace SocksMonitor.Toml

abbrev Parts := List (String × Value)

namespace Value

/-- The parts of a record whose parts have the given names, in order. -/
def parts? (names : List String) : Value → Option Parts
  | table entries => some entries
  | array items => some (names.zip items)
  | time => some []
  | _ => none

def asText? : Value → Option String
  | string text => some text
  | _ => none

def asBool? : Value → Option Bool
  | bool value => some value
  | _ => none

def asNat? : Value → Option Nat
  | integer value => if 0 ≤ value then some value.toNat else none
  | _ => none

end Value

namespace Parts

variable {α : Type}

def need (parts : Parts) (name : String) (read : Value → Option α) : Option α :=
  (parts.lookup name).bind read

def withDefault (parts : Parts) (name : String) (fallback : α) (read : Value → Option α) :
    Option α :=
  match parts.lookup name with
  | none => some fallback
  | some value => read value

def maybe (parts : Parts) (name : String) (read : Value → Option α) : Option (Option α) :=
  parts.withDefault name none fun value => (read value).map some

end Parts

end SocksMonitor.Toml
