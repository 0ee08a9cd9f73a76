/-!
# Numerals

Decimal and hexadecimal digits, read and written. Ports, address parts, times and JSON integers
all go through these few functions; what differs between them (signs, leading zeros, limits) is
decided where it is used.
-/

namespace SocksMonitor.Numeral

/-- The decimal digits of a number, without leading zeros. -/
def decimal (n : Nat) : List Char := Nat.toDigits 10 n

def hexadecimal (n : Nat) : List Char := Nat.toDigits 16 n

/-- Digits filled up with zeros on the left to a least width. -/
def fill (width : Nat) (digits : List Char) : List Char :=
  List.replicate (width - digits.length) '0' ++ digits

def decimalText (n : Nat) : String := String.ofList (decimal n)

def byteText (b : UInt8) : String := String.ofList (fill 2 (hexadecimal b.toNat))

/-- The number that decimal digits stand for; leading zeros are allowed, nothing else is. -/
def readDecimal? (cs : List Char) : Option Nat :=
  if cs.isEmpty || !cs.all Char.isDigit then none else some (Nat.ofDigitChars 10 cs 0)

def dropPlus : List Char → List Char
  | '+' :: cs => cs
  | cs => cs

/-- The value of a hexadecimal digit of either case. -/
def hexDigit? (c : Char) : Option Nat :=
  let n := c.toNat
  if 0x30 ≤ n && n ≤ 0x39 then some (n - 0x30)
  else if 0x61 ≤ n && n ≤ 0x66 then some (n - 0x61 + 10)
  else if 0x41 ≤ n && n ≤ 0x46 then some (n - 0x41 + 10)
  else none

/-- The number that hexadecimal digits stand for, appended to the digits read so far. -/
def readHexFrom? (sofar : Nat) : List Char → Option Nat
  | [] => some sofar
  | c :: cs => (hexDigit? c).bind fun d => readHexFrom? (16 * sofar + d) cs

def readHex? (cs : List Char) : Option Nat :=
  if cs.isEmpty then none else readHexFrom? 0 cs

theorem decimal_ne_nil (n : Nat) : decimal n ≠ [] := Nat.toDigits_ne_nil

theorem isDigit_of_mem_decimal {n : Nat} {c : Char} (h : c ∈ decimal n) : c.isDigit = true :=
  Nat.isDigit_of_mem_toDigits (by decide) (by decide) h

theorem readDecimal?_eq_some_iff {cs : List Char} {n : Nat} :
    readDecimal? cs = some n ↔
      cs ≠ [] ∧ (∀ c ∈ cs, c.isDigit = true) ∧ Nat.ofDigitChars 10 cs 0 = n := by
  unfold readDecimal?
  by_cases h : cs = []
  · simp [h]
  · simp [h]

theorem readDecimal?_of_digits {cs : List Char} (ne : cs ≠ [])
    (digits : ∀ c ∈ cs, c.isDigit = true) : readDecimal? cs = some (Nat.ofDigitChars 10 cs 0) :=
  readDecimal?_eq_some_iff.2 ⟨ne, digits, rfl⟩

theorem readDecimal?_decimal (n : Nat) : readDecimal? (decimal n) = some n := by
  rw [readDecimal?_of_digits (decimal_ne_nil n) fun _ => isDigit_of_mem_decimal]
  exact congrArg some Nat.ofDigitChars_ten_toDigits

/-! ## Filled digits -/

theorem fill_ne_nil (width n : Nat) : fill width (decimal n) ≠ [] := by
  simp [fill, decimal_ne_nil]

theorem isDigit_of_mem_fill {width n : Nat} {c : Char} (h : c ∈ fill width (decimal n)) :
    c.isDigit = true := by
  rcases List.mem_append.1 h with h | h
  · rw [(List.mem_replicate.1 h).2]; rfl
  · exact isDigit_of_mem_decimal h

theorem ofDigitChars_fill (width n : Nat) :
    Nat.ofDigitChars 10 (fill width (decimal n)) 0 = n := by
  simp [fill, Nat.ofDigitChars_append, decimal, Nat.ofDigitChars_ten_toDigits]

theorem length_fill {width n : Nat} (pos : 0 < width) (fits : n < Nat.pow 10 width) :
    (fill width (decimal n)).length = width := by
  have h : (decimal n).length ≤ width := (Nat.length_toDigits_le_iff (by decide) pos).2 fits
  simp only [fill, List.length_append, List.length_replicate]
  omega

/-! ## Digits without leading zeros -/

/-- Only zero is written with a zero in front. -/
theorem head?_decimal {n : Nat} (hn : n ≠ 0) : (decimal n).head? ≠ some '0' := by
  induction n using Nat.strongRecOn with
  | _ n ih =>
    by_cases hlt : n < 10
    · have hall : ∀ n < 10, n ≠ 0 → (decimal n).head? ≠ some '0' := by decide
      exact hall n hlt hn
    · have hsplit : decimal n = decimal (n / 10) ++ [(n % 10).digitChar] :=
        Nat.toDigits_of_base_le (by decide) (Nat.not_lt.1 hlt)
      obtain ⟨c, cs, hfront⟩ := List.exists_cons_of_ne_nil (decimal_ne_nil (n / 10))
      have hhead := ih (n / 10) (by omega) (by omega)
      rw [hfront] at hhead
      rw [hsplit, hfront]
      exact hhead

theorem digitChar_ofDigit {c : Char} (hc : c.isDigit = true) :
    c.toNat - 48 < 10 ∧ Nat.digitChar (c.toNat - 48) = c := by
  have hbounds : 48 ≤ c.toNat ∧ c.toNat ≤ 57 := by
    simpa [Char.isDigit, UInt32.le_iff_toNat_le] using hc
  have hall : ∀ n ≤ 57, 48 ≤ n → n - 48 < 10 ∧ Nat.digitChar (n - 48) = Char.ofNat n := by decide
  simpa using hall c.toNat hbounds.2 hbounds.1

/-- Digits are those of their number, unless there is a zero in front of others. -/
theorem decimal_ofDigitChars {cs : List Char} (ne : cs ≠ []) (digits : ∀ c ∈ cs, c.isDigit = true)
    (zero : cs.head? = some '0' → cs.length = 1) : decimal (Nat.ofDigitChars 10 cs 0) = cs := by
  -- the last digit is what division by ten leaves
  induction h : cs.length generalizing cs with
  | zero => exact absurd (List.length_eq_zero_iff.1 h) ne
  | succ n ih =>
    obtain ⟨front, c, rfl⟩ := List.eq_nil_or_concat cs |>.resolve_left ne
    have hc := digitChar_ofDigit (digits c (by simp))
    have hlast : decimal (c.toNat - 48) = [c] := by
      rw [decimal, Nat.toDigits_of_lt_base hc.1, hc.2]
    rw [List.concat_eq_append] at *
    rw [Nat.ofDigitChars_append, Nat.ofDigitChars_cons, Nat.ofDigitChars_nil,
      show '0'.toNat = 48 from rfl]
    by_cases hfront : front = []
    · subst hfront
      simpa [Nat.ofDigitChars_nil] using hlast
    · have hhead : front.head? ≠ some '0' := by
        intro hhead
        have hlength := zero (by simp [List.head?_append, hhead])
        exact hfront (List.length_eq_zero_iff.1 (by simpa using hlength))
      have hread := ih hfront (fun d hd => digits d (by simp [hd]))
        (fun hzero => absurd hzero hhead) (by simpa using h)
      have hpos : 0 < Nat.ofDigitChars 10 front 0 := by
        refine Nat.pos_of_ne_zero fun hzero => hhead ?_
        rw [← hread, hzero]
        rfl
      rw [decimal, ← Nat.toDigits_append_toDigits (by decide) hpos hc.1]
      rw [decimal] at hread hlast
      rw [hread, hlast]

end SocksMonitor.Numeral
