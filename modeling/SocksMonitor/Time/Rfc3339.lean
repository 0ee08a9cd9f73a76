import SocksMonitor.Time.Timestamp
import SocksMonitor.Text.Blank
import SocksMonitor.Text.Numeral

/-!
# RFC 3339 texts

`Timestamp.text` prints a moment in UTC with the shortest of 0, 3, 6 and 9 fraction digits.
`Timestamp.read?` is lenient: white space may stand around the numbers, months to seconds may have
one digit, a letter of either case or a space separates date and time, a year with a sign may have
any number of digits, fractions are cut after nine digits, and `UTC` may stand for the offset.
-/

namespace SocksMonitor.Time

/-! ## Printing -/

def twoDigits (n : Nat) : List Char := Numeral.fill 2 (Numeral.decimal n)

/-- A year: four digits, with a sign in front outside of 0 to 9999. -/
def yearText (year : Int) : List Char :=
  let digits := Numeral.fill 4 (Numeral.decimal year.natAbs)
  if year < 0 then '-' :: digits else if year ≤ 9999 then digits else '+' :: digits

/-- The fraction of a second with the fewest groups of three digits. -/
def fractionText (nanos : Nat) : List Char :=
  if nanos = 0 then []
  else if nanos % 1000000 = 0 then '.' :: Numeral.fill 3 (Numeral.decimal (nanos / 1000000))
  else if nanos % 1000 = 0 then '.' :: Numeral.fill 6 (Numeral.decimal (nanos / 1000))
  else '.' :: Numeral.fill 9 (Numeral.decimal nanos)

namespace Timestamp

/-- Date and time without an offset. A leap second shows as second 60. -/
def localText (t : Timestamp) : List Char :=
  let leaps := second ≤ t.nanos
  let sec := t.seconds % 60 + if leaps then 1 else 0
  let nanos := if leaps then t.nanos - second else t.nanos
  yearText t.date.year ++ '-' :: twoDigits t.date.month ++ '-' :: twoDigits t.date.day ++
    'T' :: twoDigits (t.seconds / 3600) ++ ':' :: twoDigits (t.seconds / 60 % 60) ++
    ':' :: twoDigits sec ++ fractionText nanos

/-- The text with `Z` for the offset, as records have it. -/
def text (t : Timestamp) : List Char := t.localText ++ ['Z']

/-- The text with a numeric offset, as the dashboard has it. -/
def offsetText (t : Timestamp) : List Char := t.localText ++ ['+', '0', '0', ':', '0', '0']

end Timestamp

/-! ## Reading -/

namespace Rfc3339

/-- What a reader makes of the front of a text, with the rest. -/
abbrev Reader (α : Type) := List Char → Option (α × List Char)

/-- A run of one to `most` digits (any number for `none`), after white space. -/
def number (most : Option Nat) : Reader Nat := fun cs =>
  let cs := Text.dropBlank cs
  let digits := cs.takeWhile Char.isDigit
  let digits := match most with
    | some n => digits.take n
    | none => digits
  if digits.isEmpty then none
  else some (Nat.ofDigitChars 10 digits 0, cs.drop digits.length)

def field (most : Option Nat) (low high : Nat) : Reader Nat := fun cs =>
  (number most cs).filter fun (n, _) => low ≤ n && n ≤ high

/-- The largest magnitude of a written year, far beyond the years a date can have. -/
def yearLimit : Nat := 1 <<< 31

/-- A year of up to four digits, or with a sign and any number of digits. -/
def year : Reader Int := fun cs =>
  match Text.dropBlank cs with
  | '-' :: rest => (signed rest).map fun (n, rest) => (-(n : Int), rest)
  | '+' :: rest => (signed rest).map fun (n, rest) => ((n : Int), rest)
  | cs => (number (some 4) cs).map fun (n, rest) => ((n : Int), rest)
where
  /-- The digits behind a sign follow it directly. -/
  signed (cs : List Char) : Option (Nat × List Char) :=
    match cs with
    | c :: _ => if c.isDigit then field none 0 yearLimit cs else none
    | [] => none

def mark (c : Char) : Reader Unit := fun cs =>
  match Text.dropBlank cs with
  | d :: rest => if c = d then some ((), rest) else none
  | [] => none

def separator : Reader Unit
  | c :: rest => if c = 'T' ∨ c = 't' ∨ c = ' ' then some ((), rest) else none
  | [] => none

/-- An optional fraction of a second in nanoseconds. Digits after the ninth are passed over. -/
def fraction : Reader Nat
  | '.' :: cs =>
    let digits := cs.takeWhile Char.isDigit
    let kept := digits.take 9
    if kept.isEmpty then none
    else some (Nat.ofDigitChars 10 kept 0 * Nat.pow 10 (9 - kept.length), cs.dropWhile Char.isDigit)
  | cs => some (0, cs)

def pair : Reader Nat
  | a :: b :: rest =>
    if a.isDigit ∧ b.isDigit then some (Nat.ofDigitChars 10 [a, b] 0, rest) else none
  | _ => none

/-- Hours and minutes of an offset in seconds; colons and white space between them are free. -/
def offsetSize : Reader Nat := fun cs => do
  let (hours, cs) ← pair cs
  let (minutes, cs) ← pair (cs.dropWhile fun c => c == ':' || Text.isBlank c)
  if minutes < 60 ∧ hours < 24 then some (hours * 3600 + minutes * 60, cs) else none

def offset : Reader Int := fun cs =>
  match cs with
  | c :: rest =>
    if c = 'Z' ∨ c = 'z' then some (0, rest)
    else if c = '+' then (offsetSize rest).map fun (n, rest) => ((n : Int), rest)
    else if c = '-' ∨ c = '−' then (offsetSize rest).map fun (n, rest) => (-(n : Int), rest)
    else if (cs.take 3).map Char.toUpper = ['U', 'T', 'C'] then some (0, cs.drop 3)
    else none
  | [] => none

end Rfc3339

open Rfc3339 in
def Timestamp.read? (cs : List Char) : Option Timestamp := do
  let (year, cs) ← year cs
  let ((), cs) ← mark '-' cs
  let (month, cs) ← field (some 2) 1 12 cs
  let ((), cs) ← mark '-' cs
  let (day, cs) ← field (some 2) 1 31 cs
  let ((), cs) ← separator cs
  let (hour, cs) ← field (some 2) 0 23 cs
  let ((), cs) ← mark ':' cs
  let (minute, cs) ← field (some 2) 0 59 cs
  let ((), cs) ← mark ':' cs
  let (sec, cs) ← field (some 2) 0 60 cs
  let (nanos, cs) ← fraction cs
  let (offset, cs) ← offset (Text.dropBlank cs)
  if ¬(Text.allBlank cs) then none
  let date ← Date.of? year month day
  let seconds := hour * 3600 + minute * 60
  if sec = 60 then Timestamp.ofLocal? date (seconds + 59) (nanos + second) offset
  else Timestamp.ofLocal? date (seconds + sec) nanos offset

end SocksMonitor.Time
