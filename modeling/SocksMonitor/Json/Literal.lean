import SocksMonitor.Json.Value
import SocksMonitor.Text.Numeral

/-!
# JSON literals

Strings and numbers at the level of bytes. A string literal is first taken apart into its pieces,
which settles where it ends; whether the pieces make up a text is a question of its own, since
surrogates may stand alone and bytes need not be UTF-8.
-/

namespace SocksMonitor.Json

/-- What one place of a string literal stands for: a byte, or the 16-bit code unit of a `\u`
escape. -/
inductive Piece where
  | byte (b : UInt8)
  | unit (u : Nat)
deriving Repr, DecidableEq

namespace Piece

def hexDigit? (b : UInt8) : Option Nat := Numeral.hexDigit? (Char.ofNat b.toNat)

def unit? (a b c d : UInt8) : Option Nat := do
  let a ← hexDigit? a
  let b ← hexDigit? b
  let c ← hexDigit? c
  let d ← hexDigit? d
  return ((a * 16 + b) * 16 + c) * 16 + d

def escaped? (letter : UInt8) : Option UInt8 :=
  if letter = 0x22 ∨ letter = 0x5C ∨ letter = 0x2F then some letter
  else if letter = 0x62 then some 0x08
  else if letter = 0x66 then some 0x0C
  else if letter = 0x6E then some 0x0A
  else if letter = 0x72 then some 0x0D
  else if letter = 0x74 then some 0x09
  else none

/-- Takes the rest of a string literal apart, behind its opening quote. The pieces found so far
come in reverse order. Control characters below U+0020 must be escaped. -/
def scan? (found : List Piece) : Bytes → Option (List Piece × Bytes)
  | [] => none
  | b :: rest =>
    if b = 0x22 then some (found.reverse, rest)
    else if b = 0x5C then
      match rest with
      | [] => none
      | letter :: rest =>
        if letter = 0x75 then
          match rest with
          | h :: i :: j :: k :: rest =>
            match unit? h i j k with
            | some u => scan? (.unit u :: found) rest
            | none => none
          | _ => none
        else
          match escaped? letter with
          | some c => scan? (.byte c :: found) rest
          | none => none
    else if b < 0x20 then none
    else scan? (.byte b :: found) rest

def pairChar (high low : Nat) : Char :=
  Char.ofNat (0x10000 + (high - 0xD800) * 0x400 + (low - 0xDC00))

def isHigh (u : Nat) : Bool := 0xD800 ≤ u && u < 0xDC00

def isLow (u : Nat) : Bool := 0xDC00 ≤ u && u < 0xE000

/-- The bytes that pieces stand for, behind those found so far in reverse order. A surrogate must
have its partner. -/
def bytes? (found : Bytes) : List Piece → Option Bytes
  | [] => some found.reverse
  | .byte b :: ps => bytes? (b :: found) ps
  | .unit u :: ps =>
    if isHigh u then
      match ps with
      | .unit v :: ps =>
        if isLow v then bytes? ((String.utf8EncodeChar (pairChar u v)).reverse ++ found) ps
        else none
      | _ => none
    else if isLow u then none
    else bytes? ((String.utf8EncodeChar (Char.ofNat u)).reverse ++ found) ps

def text? (pieces : List Piece) : Option String := (bytes? [] pieces).bind Text.ofUtf8?

end Piece

def readString? (bytes : Bytes) : Option (Option String × Bytes) :=
  (Piece.scan? [] bytes).map fun (pieces, rest) => (Piece.text? pieces, rest)

/-! ## Numbers -/

def isDigit (b : UInt8) : Bool := 0x30 ≤ b && b ≤ 0x39

/-- The leading digits of a number, as many as 64 bits hold, and the count of those left out. -/
structure Leading where
  value : Nat
  omitted : Nat

/-- Takes up one more digit. After the first one that does not fit all are left out. -/
def Leading.add (l : Leading) (digit : UInt8) : Leading :=
  let value := 10 * l.value + (digit.toNat - 0x30)
  if l.omitted = 0 ∧ value < UInt64.size then ⟨value, 0⟩ else ⟨l.value, l.omitted + 1⟩

def leading (digits : Bytes) : Leading := digits.foldl Leading.add ⟨0, 0⟩

def readDigits? (bytes : Bytes) : Option (Bytes × Bytes) :=
  let digits := bytes.takeWhile isDigit
  if digits.isEmpty then none else some (digits, bytes.dropWhile isDigit)

/-- An optional fraction: its digits. -/
def readFraction? : Bytes → Option (Bytes × Bytes)
  | 0x2E :: rest => readDigits? rest
  | bytes => some ([], bytes)

/-- The digits of an exponent behind its optional sign. Of an exponent beyond 64 bits the leading
digits will do: they too are far beyond every exponent that matters. -/
def readSigned? : Bytes → Option (Int × Bytes)
  | 0x2D :: rest => (readDigits? rest).map fun (ds, rest) => (-((leading ds).value : Int), rest)
  | 0x2B :: rest => (readDigits? rest).map fun (ds, rest) => ((leading ds).value, rest)
  | bytes => (readDigits? bytes).map fun (ds, rest) => ((leading ds).value, rest)

def readExponent? : Bytes → Option (Option Int × Bytes)
  | b :: rest =>
    if b = 0x65 ∨ b = 0x45 then (readSigned? rest).map fun (e, rest) => (some e, rest)
    else some (none, b :: rest)
  | [] => some (none, [])

/-- The digits of a number behind its optional sign. A zero in front stands alone. -/
def readMagnitude? (negative : Bool) (bytes : Bytes) : Option (Number × Bytes) := do
  let (whole, rest) ← readDigits? bytes
  if whole.head? = some 0x30 ∧ whole.length ≠ 1 then none
  let (fraction, rest) ← readFraction? rest
  let (exponent, rest) ← readExponent? rest
  let ⟨magnitude, omitted⟩ := leading (whole ++ fraction)
  let mantissa : Int := if negative then -magnitude else magnitude
  if fraction.isEmpty ∧ exponent.isNone ∧ omitted = 0 ∧ ¬(negative ∧ magnitude = 0) then
    some (.integer mantissa, rest)
  else some (.decimal mantissa (exponent.getD 0 - fraction.length + omitted), rest)

def readNumber? : Bytes → Option (Number × Bytes)
  | 0x2D :: rest => readMagnitude? true rest
  | bytes => readMagnitude? false bytes

end SocksMonitor.Json
