import SocksMonitor.Text.Numeral
import SocksMonitor.Time.Calendar
import SocksMonitor.Toml.Value

/-!
# TOML tokens

The parts of a TOML text that hold no other values: white space and comments, names, strings,
numbers, dates and times. A reader takes what it knows off the front of a text and gives the rest.
-/

namespace SocksMonitor.Toml

/-- What is read at the front of a text, with the rest. -/
abbrev Reader (α : Type) := List Char → Option (α × List Char)

/-! ## Space, comments, line ends -/

def isSpace (c : Char) : Bool := c == ' ' || c == '\t'

def skipSpace (cs : List Char) : List Char := cs.dropWhile isSpace

/-- The characters that stand for themselves in comments and strings: all but the control
characters, a tab apart. -/
def isPlain (c : Char) : Bool := c == '\t' || (0x20 ≤ c.toNat && c.toNat != 0x7F)

/-- A line feed, alone or behind a carriage return. -/
def lineEnd : Reader Unit
  | '\n' :: cs => some ((), cs)
  | '\r' :: '\n' :: cs => some ((), cs)
  | _ => none

def skipComment : List Char → List Char
  | '#' :: cs => cs.dropWhile isPlain
  | cs => cs

/-- What may follow on a line: a comment, and the end of the line or of the text. -/
def restOfLine (cs : List Char) : Option (List Char) :=
  match skipComment (skipSpace cs) with
  | [] => some []
  | cs => (lineEnd cs).map Prod.snd

/-- Passes over white space, comments and line ends, up to so many lines. -/
def skipLines (fuel : Nat) (cs : List Char) : List Char :=
  match fuel with
  | 0 => cs
  | fuel + 1 =>
    let cs := skipComment (skipSpace cs)
    match lineEnd cs with
    | some ((), rest) => skipLines fuel rest
    | none => cs

/-! ## Strings -/

/-- The character of a code point that is a Unicode scalar value. -/
def scalar? (n : Nat) : Option Char :=
  if h : n.isValidChar then some (Char.ofNatAux n h) else none

def letterEscape : Char → Option Char
  | 'b' => some '\x08'
  | 't' => some '\t'
  | 'n' => some '\n'
  | 'f' => some '\x0c'
  | 'r' => some '\r'
  | '"' => some '"'
  | '\\' => some '\\'
  | _ => none

/-- The character whose code point is given by hexadecimal digits. -/
def codePoint (digits : List Char) : Option Char := (Numeral.readHex? digits).bind scalar?

def escape : Reader Char
  | 'u' :: a :: b :: c :: d :: cs => (codePoint [a, b, c, d]).map fun e => (e, cs)
  | 'U' :: a :: b :: c :: d :: e :: f :: g :: h :: cs =>
    (codePoint [a, b, c, d, e, f, g, h]).map fun e => (e, cs)
  | c :: cs => (letterEscape c).map fun e => (e, cs)
  | [] => none

theorem length_escape_lt {cs rest : List Char} {c : Char} (h : escape cs = some (c, rest)) :
    rest.length < cs.length := by
  unfold escape at h
  split at h <;> simp only [Option.map_eq_some_iff, Prod.mk.injEq, reduceCtorEq] at h
  all_goals
    obtain ⟨_, -, -, rfl⟩ := h
    simp only [List.length_cons]
    omega

/-- The rest of a string on one line, behind its opening quote. What has been read comes in
reverse order. -/
def basicString (read : List Char) (cs : List Char) : Option (String × List Char) :=
  match cs with
  | [] => none
  | c :: rest =>
    if c = '"' then some (String.ofList read.reverse, rest)
    else if c = '\\' then
      match _found : escape rest with
      | some (e, rest) => basicString (e :: read) rest
      | none => none
    else if isPlain c then basicString (c :: read) rest
    else none
termination_by cs.length
decreasing_by
  · have := length_escape_lt _found
    simp only [List.length_cons]
    omega
  · simp

/-- The rest of a literal string on one line, behind its opening apostrophe. -/
def literalString (cs : List Char) : Option (String × List Char) :=
  let text := cs.takeWhile fun c => isPlain c && c != '\''
  match cs.drop text.length with
  | '\'' :: rest => some (String.ofList text, rest)
  | _ => none

/-- The number of quotes in front, at most five: three that close and two that are text. -/
def quoteRun (quote : Char) (cs : List Char) : Nat := ((cs.takeWhile (· == quote)).take 5).length

/-- Passes over white space and line ends, up to so many lines. -/
def skipBlankLines (fuel : Nat) (cs : List Char) : List Char :=
  match fuel with
  | 0 => cs
  | fuel + 1 =>
    match lineEnd (skipSpace cs) with
    | some ((), rest) => skipBlankLines fuel rest
    | none => skipSpace cs

/-- What is left behind a backslash at the end of a line: the space there, and all white space and
line ends that follow, are passed over. -/
def skipFold (fuel : Nat) (cs : List Char) : Option (List Char) :=
  (lineEnd (skipSpace cs)).map fun ((), rest) => skipBlankLines fuel rest

/-- The rest of a string over several lines, behind its opening quotes and the line end that may
follow them. Escapes count if `escapes` holds. Line ends become line feeds. -/
def longString (quote : Char) (escapes : Bool) (fuel : Nat) (read : List Char) : Reader String :=
  fun cs =>
  match fuel, cs with
  | 0, _ => none
  | _ + 1, [] => none
  | fuel + 1, c :: rest =>
    let run := quoteRun quote (c :: rest)
    if 3 ≤ run then
      some (String.ofList (List.replicate (run - 3) quote ++ read).reverse, (c :: rest).drop run)
    else if 0 < run then
      longString quote escapes fuel (List.replicate run quote ++ read) ((c :: rest).drop run)
    else if escapes && c == '\\' then
      match skipFold fuel rest with
      | some rest => longString quote escapes fuel read rest
      | none =>
        match escape rest with
        | some (e, rest) => longString quote escapes fuel (e :: read) rest
        | none => none
    else if isPlain c then longString quote escapes fuel (c :: read) rest
    else
      match lineEnd (c :: rest) with
      | some ((), rest) => longString quote escapes fuel ('\n' :: read) rest
      | none => none

/-- The text behind the line end right after opening quotes, if there is one. -/
def skipFirstLineEnd (cs : List Char) : List Char :=
  match lineEnd cs with
  | some ((), rest) => rest
  | none => cs

/-- A string of any of the four kinds. The fuel is more than the length of the text. -/
def string (fuel : Nat) : Reader String
  | '"' :: '"' :: '"' :: cs => longString '"' true fuel [] (skipFirstLineEnd cs)
  | '"' :: cs => basicString [] cs
  | '\'' :: '\'' :: '\'' :: cs => longString '\'' false fuel [] (skipFirstLineEnd cs)
  | '\'' :: cs => literalString cs
  | _ => none

/-! ## Names -/

def isBare (c : Char) : Bool := c.isAlphanum || c == '_' || c == '-'

def namePart : Reader String
  | '"' :: cs => basicString [] cs
  | '\'' :: cs => literalString cs
  | cs =>
    let bare := cs.takeWhile isBare
    if bare.isEmpty then none else some (String.ofList bare, cs.drop bare.length)

/-- The most parts that a name can have. -/
def nameLimit : Nat := 79

/-- A name of up to `most` parts with dots between them. Space may stand around each part. -/
def nameParts (most : Nat) : Reader (List String) := fun cs =>
  match most with
  | 0 => none
  | most + 1 =>
    match namePart (skipSpace cs) with
    | none => none
    | some (part, rest) =>
      match skipSpace rest with
      | '.' :: rest => (nameParts most rest).map fun (parts, rest) => (part :: parts, rest)
      | rest => some ([part], rest)

/-- A name: the parts in front, and the last one. -/
def name : Reader (List String × String) := fun cs =>
  (nameParts nameLimit cs).bind fun (parts, rest) =>
    parts.getLast?.map fun last => ((parts.dropLast, last), rest)

/-! ## Numbers -/

/-- Further digits of a kind, each with an underscore in front or without. -/
def moreDigits (isDigit : Char → Bool) : Reader (List Char)
  | [] => some ([], [])
  | '_' :: [] => none
  | '_' :: c :: cs =>
    if isDigit c then (moreDigits isDigit cs).map fun (ds, rest) => (c :: ds, rest) else none
  | c :: cs =>
    if isDigit c then (moreDigits isDigit cs).map fun (ds, rest) => (c :: ds, rest)
    else some ([], c :: cs)

/-- Digits of a kind, at least one; single underscores may stand between them. -/
def digitRun (isDigit : Char → Bool) : Reader (List Char)
  | [] => none
  | c :: cs =>
    if isDigit c then (moreDigits isDigit cs).map fun (ds, rest) => (c :: ds, rest) else none

/-- An optional sign: whether it is a minus. -/
def sign : List Char → Bool × List Char
  | '-' :: cs => (true, cs)
  | '+' :: cs => (false, cs)
  | cs => (false, cs)

/-- The digits of a decimal integer behind its sign. A zero in front stands alone. -/
def wholeDigits : Reader (List Char)
  | '0' :: cs => some (['0'], cs)
  | cs => digitRun Char.isDigit cs

/-- The bounds of an integer: 64 bits with a sign. -/
def inRange (n : Int) : Bool := -0x8000000000000000 ≤ n && n < 0x8000000000000000

def isDigitOf (base : Nat) (c : Char) : Bool :=
  match Numeral.hexDigit? c with
  | some d => d < base
  | none => false

def digitsValue (base : Nat) (digits : List Char) : Nat :=
  digits.foldl (fun n c => base * n + (Numeral.hexDigit? c).getD 0) 0

/-- An integer in a base, behind the mark of the base. -/
def based (base : Nat) : Reader Value := fun cs =>
  match digitRun (isDigitOf base) cs with
  | some (digits, rest) =>
    let n : Int := digitsValue base digits
    if inRange n then some (.integer n, rest) else none
  | none => none

/-- An integer. Bases other than ten have no sign. -/
def integer : Reader Value
  | '0' :: 'x' :: cs => based 16 cs
  | '0' :: 'o' :: cs => based 8 cs
  | '0' :: 'b' :: cs => based 2 cs
  | cs =>
    let (negative, cs) := sign cs
    match wholeDigits cs with
    | some (digits, rest) =>
      let magnitude : Int := digitsValue 10 digits
      let n := if negative then -magnitude else magnitude
      if inRange n then some (.integer n, rest) else none
    | none => none

/-- An exponent behind its letter. -/
def exponent : Reader Int := fun cs =>
  let (negative, cs) := sign cs
  (digitRun Char.isDigit cs).map fun (digits, rest) =>
    let n : Int := digitsValue 10 digits
    (if negative then -n else n, rest)

def exponent? : Reader (Option Int)
  | 'e' :: cs => (exponent cs).map fun (e, rest) => (some e, rest)
  | 'E' :: cs => (exponent cs).map fun (e, rest) => (some e, rest)
  | cs => some (none, cs)

/-- Whether `digits · 10 ^ exponent` is too large for binary64. -/
def overflows (digits : List Char) (exponent : Int) : Bool :=
  let m := digitsValue 10 digits
  let size := (Numeral.decimal m).length + exponent
  let limit := 1 <<< 1024 - 1 <<< 970
  if m = 0 || size < 309 then false
  else if 310 < size then true
  else if 0 ≤ exponent then limit ≤ m * Nat.pow 10 exponent.toNat
  else limit * Nat.pow 10 (-exponent).toNat ≤ m

/-- A float with a fraction or an exponent. A positive one must be below infinity. -/
def decimalFloat : Reader Value := fun cs => do
  let (negative, cs) := sign cs
  let (whole, cs) ← wholeDigits cs
  let (fraction, cs) ← match cs with
    | '.' :: cs => digitRun Char.isDigit cs
    | cs => some ([], cs)
  let (exponent, cs) ← exponent? cs
  if fraction.isEmpty ∧ exponent.isNone then none
  if !negative && overflows (whole ++ fraction) (exponent.getD 0 - fraction.length) then none
  return (.float, cs)

def word (w : List Char) (cs : List Char) : Option (List Char) :=
  if w.isPrefixOf cs then some (cs.drop w.length) else none

/-- Infinity or not-a-number, with or without a sign. -/
def specialFloat : Reader Value := fun cs =>
  let (_, cs) := sign cs
  match word ['i', 'n', 'f'] cs, word ['n', 'a', 'n'] cs with
  | some rest, _ => some (.float, rest)
  | none, some rest => some (.float, rest)
  | none, none => none

/-! ## Dates and times -/

/-- Exactly so many digits, with a value within bounds. -/
def fixedDigits (count low high : Nat) : Reader Nat := fun cs =>
  let digits := cs.take count
  if digits.length = count ∧ digits.all Char.isDigit then
    let n := digitsValue 10 digits
    if low ≤ n ∧ n ≤ high then some (n, cs.drop count) else none
  else none

def mark (c : Char) : Reader Unit
  | d :: cs => if c = d then some ((), cs) else none
  | [] => none

def date : Reader Unit := fun cs => do
  let (year, cs) ← fixedDigits 4 0 9999 cs
  let ((), cs) ← mark '-' cs
  let (month, cs) ← fixedDigits 2 1 12 cs
  let ((), cs) ← mark '-' cs
  let (day, cs) ← fixedDigits 2 1 31 cs
  if day ≤ Time.daysInMonth year month then some ((), cs) else none

/-- A time of day with seconds, and a fraction if there is one. -/
def timeOfDay : Reader Unit := fun cs => do
  let (_, cs) ← fixedDigits 2 0 23 cs
  let ((), cs) ← mark ':' cs
  let (_, cs) ← fixedDigits 2 0 59 cs
  let ((), cs) ← mark ':' cs
  let (_, cs) ← fixedDigits 2 0 60 cs
  match cs with
  | '.' :: rest =>
    match rest with
    | d :: _ => if d.isDigit then some ((), rest.dropWhile Char.isDigit) else some ((), cs)
    | [] => some ((), cs)
  | cs => some ((), cs)

def offset : Reader Unit
  | 'Z' :: cs => some ((), cs)
  | 'z' :: cs => some ((), cs)
  | '+' :: cs => hoursMinutes cs
  | '-' :: cs => hoursMinutes cs
  | cs => some ((), cs)
where
  hoursMinutes : Reader Unit := fun cs => do
    let (_, cs) ← fixedDigits 2 0 23 cs
    let ((), cs) ← mark ':' cs
    let (_, cs) ← fixedDigits 2 0 59 cs
    return ((), cs)

def dateTime : Reader Value := fun cs =>
  match date cs with
  | some ((), rest) =>
    match rest with
    | c :: more =>
      if c = 'T' ∨ c = 't' ∨ c = ' ' then
        match timeOfDay more with
        | some ((), more) => (offset more).map fun ((), more) => (.time, more)
        | none => some (.time, rest)
      else some (.time, rest)
    | [] => some (.time, [])
  | none => (timeOfDay cs).map fun ((), rest) => (.time, rest)

end SocksMonitor.Toml
