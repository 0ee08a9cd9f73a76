import SocksMonitor.Json.Binary64
import SocksMonitor.Text.Utf8

/-!
# JSON values

A value as it stands in a text. Two kinds of literals can be well-formed without having a plain
meaning: a string whose escapes or bytes make up no Unicode text, and a number that is not a plain
integer. Such a value may stand wherever nobody asks for it, so both are kept.
-/

namespace SocksMonitor

/-- A number, as far as its digits are kept. -/
inductive Json.Number where
  /-- Digits of at most 64 bits with or without a minus sign; `-0` is not among them. -/
  | integer (value : Int)
  /-- `mantissa · 10 ^ exponent`, written with a fraction, with an exponent, with more digits than
  64 bits hold, or as `-0`. The mantissa has the leading digits, as many as 64 bits hold. -/
  | decimal (mantissa exponent : Int)
deriving Repr, DecidableEq

/-- A JSON value. The fields of an object are kept in their order, repeated ones too. A string
literal, as a value or as a name, is `none` if it stands for no text. -/
inductive Json where
  | null
  | bool (value : Bool)
  | number (value : Json.Number)
  | string (text : Option String)
  | array (items : List Json)
  | object (fields : List (Option String × Json))
deriving Repr

namespace Json

def text (s : String) : Json := string (some s)

def nat (n : Nat) : Json := number (.integer n)

def record (fields : List (String × Json)) : Json :=
  object (fields.map fun (name, value) => (some name, value))

/-- An optional value, `null` if it is missing. -/
def optional {α : Type} (write : α → Json) : Option α → Json
  | some a => write a
  | none => null

/-! ## Values that a program may hold on to

Fields of an unknown meaning are passed over whatever they hold. A reader that has to keep them
until it knows which it needs asks for more: every string must be text, every number must have a
finite binary64 approximation, and the nesting is limited. -/

namespace Number

/-- The largest power of ten that is below infinity. -/
def maxExponent : Nat := 308

/-- Whether a number has a finite approximation. The mantissa and the power of ten are rounded
each by itself, so a number close to the limit may be judged by the error of its factors. -/
def isFinite : Number → Bool
  | integer _ => true
  | decimal m e =>
    m == 0 || e < 0
      || (e ≤ maxExponent && Binary64.isFiniteMul m.natAbs (Nat.pow 10 e.toNat))

end Number

mutual

/-- The nesting of arrays and objects. -/
def depth : Json → Nat
  | array items => 1 + itemsDepth items
  | object fields => 1 + fieldsDepth fields
  | _ => 0

def itemsDepth : List Json → Nat
  | [] => 0
  | v :: vs => max v.depth (itemsDepth vs)

def fieldsDepth : List (Option String × Json) → Nat
  | [] => 0
  | (_, v) :: fs => max v.depth (fieldsDepth fs)

end

mutual

/-- Whether all literals of a value have a meaning. -/
def isMeaningful : Json → Bool
  | null => true
  | bool _ => true
  | number n => n.isFinite
  | string text => text.isSome
  | array items => itemsMeaningful items
  | object fields => fieldsMeaningful fields

def itemsMeaningful : List Json → Bool
  | [] => true
  | v :: vs => v.isMeaningful && itemsMeaningful vs

/-- Whether all literals of some fields have a meaning, their names included. -/
def fieldsMeaningful : List (Option String × Json) → Bool
  | [] => true
  | (name, v) :: fs => name.isSome && v.isMeaningful && fieldsMeaningful fs

end

theorem itemsDepth_le_iff {items : List Json} {n : Nat} :
    itemsDepth items ≤ n ↔ ∀ v ∈ items, v.depth ≤ n := by
  induction items with
  | nil => simp [itemsDepth]
  | cons v items ih => rw [itemsDepth, Nat.max_le, ih, List.forall_mem_cons]

theorem fieldsDepth_le_iff {fields : List (Option String × Json)} {n : Nat} :
    fieldsDepth fields ≤ n ↔ ∀ f ∈ fields, f.2.depth ≤ n := by
  induction fields with
  | nil => simp [fieldsDepth]
  | cons f fields ih => rw [fieldsDepth, Nat.max_le, ih, List.forall_mem_cons]

theorem itemsMeaningful_iff {items : List Json} :
    itemsMeaningful items = true ↔ ∀ v ∈ items, v.isMeaningful = true := by
  induction items with
  | nil => simp [itemsMeaningful]
  | cons v items ih => simp [itemsMeaningful, ih]

theorem fieldsMeaningful_iff {fields : List (Option String × Json)} :
    fieldsMeaningful fields = true ↔
      ∀ f ∈ fields, f.1.isSome = true ∧ f.2.isMeaningful = true := by
  induction fields with
  | nil => simp [fieldsMeaningful]
  | cons f fields ih => simp [fieldsMeaningful, ih]

end Json

end SocksMonitor
