import SocksMonitor.Json.Literal
import SocksMonitor.Json.Printer

/-!
# Literals survive their text

Strings and numbers as they are printed, read again with other bytes behind them. A byte of a
string comes back as a piece of its own (`Piece.ofByte`), whichever of the three escaped forms it
has, so that the text of a string is taken apart byte by byte. An integer comes back if it fits
into 64 bits: its digits are then all taken up, and no zero stands in front of them.

`readString?_stringTail` and `readNumber?_printInt` are what `Proofs/JsonRoundTrip.lean` builds on.
-/

namespace SocksMonitor.Json

/-! ## Strings -/

namespace Piece

/-- The piece by which a byte of a text comes back from its escaped form. -/
def ofByte (b : UInt8) : Piece :=
  if b < 0x20 ∧ b ∉ [0x08, 0x09, 0x0A, 0x0C, 0x0D] then .unit b.toNat else .byte b

section Scan

variable (found : List Piece) (rest : Bytes)

theorem scan?_quote : scan? found (0x22 :: rest) = some (found.reverse, rest) := by
  rw [scan?.eq_def]
  rfl

theorem scan?_plain {b : UInt8} (hquote : b ≠ 0x22) (hescape : b ≠ 0x5C) (hcontrol : ¬ b < 0x20) :
    scan? found (b :: rest) = scan? (.byte b :: found) rest := by
  rw [scan?.eq_def]
  simp only [if_neg hquote, if_neg hescape, if_neg hcontrol]

theorem scan?_escaped {letter c : UInt8} (hletter : letter ≠ 0x75)
    (hescaped : escaped? letter = some c) :
    scan? found (0x5C :: letter :: rest) = scan? (.byte c :: found) rest := by
  rw [scan?.eq_def]
  simp [hletter, hescaped]

theorem scan?_unit {h i j k : UInt8} {u : Nat} (hunit : unit? h i j k = some u) :
    scan? found (0x5C :: 0x75 :: h :: i :: j :: k :: rest) = scan? (.unit u :: found) rest := by
  rw [scan?.eq_def]
  simp [hunit]

theorem unit?_hexByte {n : Nat} (hn : n < 0x20) :
    unit? 0x30 0x30 (hexByte (n / 16)) (hexByte (n % 16)) = some n := by
  have hall : ∀ n < 0x20, unit? 0x30 0x30 (hexByte (n / 16)) (hexByte (n % 16)) = some n := by
    decide
  exact hall n hn

theorem scan?_escapeByte (b : UInt8) :
    scan? found (escapeByte b ++ rest) = scan? (ofByte b :: found) rest := by
  by_cases hspecial : b ∈ [0x22, 0x5C, 0x08, 0x0C, 0x0A, 0x0D, 0x09]
  · simp only [List.mem_cons, List.not_mem_nil, or_false] at hspecial
    rcases hspecial with rfl | rfl | rfl | rfl | rfl | rfl | rfl <;>
      exact scan?_escaped found rest (by decide) (by decide)
  simp only [List.mem_cons, List.not_mem_nil, or_false, not_or] at hspecial
  obtain ⟨h22, h5c, h08, h0c, h0a, h0d, h09⟩ := hspecial
  by_cases hcontrol : b < 0x20
  · have hform : escapeByte b =
        [0x5C, 0x75, 0x30, 0x30, hexByte (b.toNat / 16), hexByte (b.toNat % 16)] := by
      simp [escapeByte, *]
    have hpiece : ofByte b = .unit b.toNat := by simp [ofByte, *]
    rw [hform, hpiece]
    exact scan?_unit found rest (unit?_hexByte hcontrol)
  · have hform : escapeByte b = [b] := by simp [escapeByte, *]
    have hpiece : ofByte b = .byte b := by simp [ofByte, *]
    rw [hform, hpiece]
    exact scan?_plain found rest h22 h5c hcontrol

theorem scan?_flatMap_escapeByte (bytes : Bytes) :
    scan? found (bytes.flatMap escapeByte ++ 0x22 :: rest) =
      some (found.reverse ++ bytes.map ofByte, rest) := by
  induction bytes generalizing found with
  | nil => simp [scan?_quote]
  | cons b bytes ih =>
      rw [List.flatMap_cons, List.append_assoc, scan?_escapeByte, ih]
      simp

end Scan

theorem bytes?_ofByte (b : UInt8) (found : Bytes) (pieces : List Piece) :
    bytes? found (ofByte b :: pieces) = bytes? (b :: found) pieces := by
  unfold ofByte
  split
  · next hcontrol =>
    have hall : ∀ n < 0x20, isHigh n = false ∧ isLow n = false
        ∧ String.utf8EncodeChar (Char.ofNat n) = [UInt8.ofNat n] := by
      decide
    obtain ⟨hhigh, hlow, hchar⟩ := hall b.toNat hcontrol.1
    rw [bytes?.eq_def]
    simp [hhigh, hlow, hchar]
  · rfl

theorem bytes?_map_ofByte (bytes found : Bytes) :
    bytes? found (bytes.map ofByte) = some (found.reverse ++ bytes) := by
  induction bytes generalizing found with
  | nil => simp [bytes?]
  | cons b bytes ih => simp [bytes?_ofByte, ih]

theorem text?_map_ofByte (s : String) : text? ((Text.utf8 s).map ofByte) = some s := by
  rw [text?, bytes?_map_ofByte]
  exact Text.ofUtf8?_utf8 s

end Piece

/-- A string literal behind its opening quote. -/
def stringTail (s : Option String) : Bytes := (printString s).tail

theorem printString_eq (s : Option String) : printString s = 0x22 :: stringTail s := by
  cases s <;> rfl

/-- Reading undoes printing, for a literal that stands for no text as well. -/
theorem readString?_stringTail (s : Option String) (rest : Bytes) :
    readString? (stringTail s ++ rest) = some (s, rest) := by
  cases s with
  | none =>
      have hunit : Piece.unit? 0x64 0x38 0x30 0x30 = some 0xD800 := by decide
      show (Piece.scan? [] (0x5C :: 0x75 :: 0x64 :: 0x38 :: 0x30 :: 0x30 :: 0x22 :: rest)).map _ = _
      rw [Piece.scan?_unit _ _ hunit, Piece.scan?_quote]
      rfl
  | some s =>
      have htail : stringTail (some s) = (Text.utf8 s).flatMap escapeByte ++ [0x22] := rfl
      rw [readString?, htail, List.append_assoc]
      show (Piece.scan? [] (_ ++ 0x22 :: rest)).map _ = _
      rw [Piece.scan?_flatMap_escapeByte]
      simp [Piece.text?_map_ofByte]

/-! ## Numbers -/

/-- What can follow a value in a text that has no white space. -/
inductive Follows : Bytes → Prop where
  | nothing : Follows []
  | comma (rest : Bytes) : Follows (0x2C :: rest)
  | bracket (rest : Bytes) : Follows (0x5D :: rest)
  | brace (rest : Bytes) : Follows (0x7D :: rest)

theorem isDigit_of_char {c : Char} (hc : c.isDigit = true) :
    isDigit (UInt8.ofNat c.toNat) = true ∧ (UInt8.ofNat c.toNat).toNat = c.toNat := by
  have hbounds : 48 ≤ c.toNat ∧ c.toNat ≤ 57 := by
    simpa [Char.isDigit, UInt32.le_iff_toNat_le] using hc
  have hbyte : (UInt8.ofNat c.toNat).toNat = c.toNat := by
    rw [UInt8.toNat_ofNat']
    omega
  refine ⟨?_, hbyte⟩
  simp [isDigit, UInt8.le_iff_toNat_le, hbyte, hbounds]

theorem isDigit_of_mem_ascii {n : Nat} {b : UInt8} (h : b ∈ ascii (Numeral.decimal n)) :
    isDigit b = true := by
  obtain ⟨c, hc, rfl⟩ := List.mem_map.mp h
  exact (isDigit_of_char (Numeral.isDigit_of_mem_decimal hc)).1

theorem readDigits?_append {digits rest : Bytes} (hne : digits ≠ [])
    (hdigits : ∀ b ∈ digits, isDigit b = true) (hrest : Follows rest) :
    readDigits? (digits ++ rest) = some (digits, rest) := by
  have htake : rest.takeWhile isDigit = [] := by cases hrest <;> rfl
  have hdrop : rest.dropWhile isDigit = rest := by cases hrest <;> rfl
  simp only [readDigits?, List.takeWhile_append_of_pos hdigits,
    List.dropWhile_append_of_pos hdigits, htake, hdrop, List.append_nil, List.isEmpty_iff,
    if_neg hne]

theorem le_ofDigitChars (cs : List Char) (n : Nat) : n ≤ Nat.ofDigitChars 10 cs n := by
  induction cs generalizing n with
  | nil => exact Nat.le_refl n
  | cons c cs ih =>
      refine Nat.le_trans ?_ (ih (10 * n + (c.toNat - '0'.toNat)))
      omega

/-- Digits that fit into 64 bits are all taken up. -/
theorem foldl_add_ascii {cs : List Char} (hcs : ∀ c ∈ cs, c.isDigit = true) (n : Nat)
    (hfits : Nat.ofDigitChars 10 cs n < UInt64.size) :
    (ascii cs).foldl Leading.add ⟨n, 0⟩ = ⟨Nat.ofDigitChars 10 cs n, 0⟩ := by
  induction cs generalizing n with
  | nil => rfl
  | cons c cs ih =>
      obtain ⟨hc, hothers⟩ := List.forall_mem_cons.mp hcs
      have hnext : 10 * n + ((UInt8.ofNat c.toNat).toNat - 0x30) =
          10 * n + (c.toNat - '0'.toNat) := by
        rw [(isDigit_of_char hc).2]
        rfl
      have hlt : 10 * n + (c.toNat - '0'.toNat) < UInt64.size :=
        Nat.lt_of_le_of_lt (le_ofDigitChars cs _) hfits
      have hadd : Leading.add ⟨n, 0⟩ (UInt8.ofNat c.toNat) =
          ⟨10 * n + (c.toNat - '0'.toNat), 0⟩ := by
        simp only [Leading.add, hnext, hlt, and_self, if_true]
      show (ascii cs).foldl Leading.add (Leading.add ⟨n, 0⟩ (UInt8.ofNat c.toNat)) = _
      rw [hadd, ih hothers _ hfits]
      rfl

theorem leading_decimal {n : Nat} (hn : n < UInt64.size) :
    leading (ascii (Numeral.decimal n)) = ⟨n, 0⟩ := by
  have hvalue : Nat.ofDigitChars 10 (Numeral.decimal n) 0 = n := Nat.ofDigitChars_ten_toDigits
  rw [leading, foldl_add_ascii (fun _ => Numeral.isDigit_of_mem_decimal) 0 (by rwa [hvalue]),
    hvalue]

theorem leadingZero_decimal (n : Nat) :
    ¬ ((ascii (Numeral.decimal n)).head? = some 0x30
      ∧ (ascii (Numeral.decimal n)).length ≠ 1) := by
  rintro ⟨hhead, hlength⟩
  by_cases hn : n = 0
  · subst hn
    exact hlength rfl
  rw [ascii, List.head?_map] at hhead
  obtain ⟨c, hc, hbyte⟩ := Option.map_eq_some_iff.mp hhead
  have hdigit := Numeral.isDigit_of_mem_decimal (List.mem_of_head? hc)
  have hvalue : c.toNat = 48 := by
    rw [← (isDigit_of_char hdigit).2, hbyte]
    rfl
  refine Numeral.head?_decimal hn ?_
  rw [hc]
  exact congrArg some (Char.toNat_inj.mp hvalue)

theorem readMagnitude?_decimal {n : Nat} (hn : n < UInt64.size) (negative : Bool)
    (hsign : negative = true → n ≠ 0) {rest : Bytes} (hrest : Follows rest) :
    readMagnitude? negative (ascii (Numeral.decimal n) ++ rest) =
      some (.integer (if negative then -n else n), rest) := by
  have hne : ascii (Numeral.decimal n) ≠ [] := by simp [ascii, Numeral.decimal_ne_nil]
  have hdigits := readDigits?_append hne (fun _ => isDigit_of_mem_ascii) hrest
  have hfraction : readFraction? rest = some ([], rest) := by cases hrest <;> rfl
  have hexponent : readExponent? rest = some (none, rest) := by cases hrest <;> rfl
  have hplain : ¬ (negative = true ∧ n = 0) := fun h => hsign h.1 h.2
  simp only [readMagnitude?, hdigits, Option.bind_eq_bind, Option.bind_some,
    if_neg (leadingZero_decimal n), hfraction, hexponent, List.append_nil, leading_decimal hn]
  simp [hplain]

theorem exists_digit_decimal (n : Nat) :
    ∃ b digits, ascii (Numeral.decimal n) = b :: digits ∧ isDigit b = true := by
  obtain ⟨b, digits, hdigits⟩ := List.exists_cons_of_ne_nil
    (show ascii (Numeral.decimal n) ≠ [] by simp [ascii, Numeral.decimal_ne_nil])
  exact ⟨b, digits, hdigits, isDigit_of_mem_ascii (hdigits ▸ List.mem_cons_self)⟩

/-- Reading undoes printing, up to the size of a word. -/
theorem readNumber?_printInt {n : Int} (hn : n.natAbs < UInt64.size) {rest : Bytes}
    (hrest : Follows rest) : readNumber? (printInt n ++ rest) = some (.integer n, rest) := by
  unfold printInt
  by_cases hneg : n < 0
  · rw [if_pos hneg]
    show readMagnitude? true (ascii (Numeral.decimal n.natAbs) ++ rest) = _
    rw [readMagnitude?_decimal hn true (fun _ => by omega) hrest]
    simp only [if_true]
    congr 3
    omega
  · rw [if_neg hneg]
    have hread := readMagnitude?_decimal hn false (by simp) hrest
    obtain ⟨b, digits, hdigits, hb⟩ := exists_digit_decimal n.natAbs
    rw [hdigits, List.cons_append] at hread ⊢
    have hsign : b ≠ 0x2D := by
      rintro rfl
      cases hb
    unfold readNumber?
    split
    · next h => exact absurd (List.cons.inj h).1 hsign
    · rw [hread]
      simp only [Bool.false_eq_true, if_false]
      congr 3
      omega

theorem exists_head_printInt (n : Int) :
    ∃ b tail, printInt n = b :: tail ∧ (b = 0x2D ∨ isDigit b = true) := by
  obtain ⟨b, digits, hdigits, hb⟩ := exists_digit_decimal n.natAbs
  unfold printInt
  split
  · exact ⟨0x2D, _, rfl, .inl rfl⟩
  · exact ⟨b, digits, hdigits, .inr hb⟩

end SocksMonitor.Json
