import SocksMonitor.Json.Value
import SocksMonitor.Text.Numeral

/-!
# Printing JSON

The compact form has no white space; the indented form has a line for every item and field, two
spaces deeper for every level, and `[]` and `{}` for empty containers. Strings escape the
quote, the backslash and the control characters below U+0020, and nothing else, so escaping can
work on bytes: those of longer characters are all above.
-/

namespace SocksMonitor.Json

def hexByte (n : Nat) : UInt8 := if n < 10 then UInt8.ofNat (0x30 + n) else UInt8.ofNat (0x57 + n)

def escapeByte (b : UInt8) : Bytes :=
  if b = 0x22 then [0x5C, 0x22]
  else if b = 0x5C then [0x5C, 0x5C]
  else if b = 0x08 then [0x5C, 0x62]
  else if b = 0x0C then [0x5C, 0x66]
  else if b = 0x0A then [0x5C, 0x6E]
  else if b = 0x0D then [0x5C, 0x72]
  else if b = 0x09 then [0x5C, 0x74]
  else if b < 0x20 then [0x5C, 0x75, 0x30, 0x30, hexByte (b.toNat / 16), hexByte (b.toNat % 16)]
  else [b]

/-- A string literal. One that stands for no text becomes a lone surrogate, which stands for none
either. -/
def printString : Option String → Bytes
  | some s => 0x22 :: (Text.utf8 s).flatMap escapeByte ++ [0x22]
  | none => [0x22, 0x5C, 0x75, 0x64, 0x38, 0x30, 0x30, 0x22]

def ascii (cs : List Char) : Bytes := cs.map fun c => UInt8.ofNat c.toNat

def printInt (n : Int) : Bytes :=
  let digits := ascii (Numeral.decimal n.natAbs)
  if n < 0 then 0x2D :: digits else digits

def printNumber : Number → Bytes
  | .integer n => printInt n
  | .decimal m e => printInt m ++ 0x65 :: printInt e

def printBool (b : Bool) : Bytes :=
  ascii (if b then ['t', 'r', 'u', 'e'] else ['f', 'a', 'l', 's', 'e'])

/-! ## The compact form -/

mutual

def print : Json → Bytes
  | null => ascii ['n', 'u', 'l', 'l']
  | bool b => printBool b
  | number n => printNumber n
  | string s => printString s
  | array items => 0x5B :: printItems items
  | object fields => 0x7B :: printFields fields

def printItems : List Json → Bytes
  | [] => [0x5D]
  | [v] => v.print ++ [0x5D]
  | v :: vs => v.print ++ 0x2C :: printItems vs

def printFields : List (Option String × Json) → Bytes
  | [] => [0x7D]
  | [(name, v)] => printString name ++ 0x3A :: v.print ++ [0x7D]
  | (name, v) :: fs => printString name ++ 0x3A :: v.print ++ 0x2C :: printFields fs

end

/-! ## The indented form -/

/-- A line break and the indentation of a level. -/
def newLine (level : Nat) : Bytes := 0x0A :: List.replicate (2 * level) 0x20

mutual

/-- The indented form of a value whose first line is already indented for its level. -/
def printIndented (level : Nat) : Json → Bytes
  | null => ascii ['n', 'u', 'l', 'l']
  | bool b => printBool b
  | number n => printNumber n
  | string s => printString s
  | array [] => [0x5B, 0x5D]
  | array items => 0x5B :: indentedItems (level + 1) items ++ newLine level ++ [0x5D]
  | object [] => [0x7B, 0x7D]
  | object fields => 0x7B :: indentedFields (level + 1) fields ++ newLine level ++ [0x7D]

def indentedItems (level : Nat) : List Json → Bytes
  | [] => []
  | [v] => newLine level ++ v.printIndented level
  | v :: vs => newLine level ++ v.printIndented level ++ 0x2C :: indentedItems level vs

def indentedFields (level : Nat) : List (Option String × Json) → Bytes
  | [] => []
  | [(name, v)] => newLine level ++ printString name ++ 0x3A :: 0x20 :: v.printIndented level
  | (name, v) :: fs =>
    newLine level ++ printString name ++ 0x3A :: 0x20 :: v.printIndented level ++
      0x2C :: indentedFields level fs

end

def compactText (v : Json) : String := (Text.ofUtf8? v.print).getD ""

def indentedText (v : Json) : String := (Text.ofUtf8? (v.printIndented 0)).getD ""

end SocksMonitor.Json
