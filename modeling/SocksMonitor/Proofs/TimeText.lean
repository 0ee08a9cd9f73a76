import SocksMonitor.Time.Rfc3339

/-!
# Times survive their text

Every moment is read back from its text: years on both sides of the four digits, leap seconds, and
fractions of each length. Each part of the text is read by itself with the rest of the text behind
it, which begins with something that is no digit (`Stops`).

`read?_text` is the main statement.
-/

namespace SocksMonitor.Time

/-! ## Digits -/

/-- What can stand behind a number: its first character is no digit. -/
def Stops (rest : List Char) : Prop := ∀ c ∈ rest.head?, c.isDigit = false

theorem stops_cons {c : Char} (hc : c.isDigit = false) (rest : List Char) : Stops (c :: rest) := by
  intro d hd
  rw [← Option.some.inj hd]
  exact hc

theorem takeWhile_digits {digits rest : List Char} (hdigits : ∀ c ∈ digits, c.isDigit = true)
    (hrest : Stops rest) : (digits ++ rest).takeWhile Char.isDigit = digits := by
  rw [List.takeWhile_append_of_pos hdigits]
  cases rest with
  | nil => simp
  | cons c rest => simp [hrest c rfl]

theorem dropWhile_digits {digits rest : List Char} (hdigits : ∀ c ∈ digits, c.isDigit = true)
    (hrest : Stops rest) : (digits ++ rest).dropWhile Char.isDigit = rest := by
  rw [List.dropWhile_append_of_pos hdigits]
  cases rest with
  | nil => rfl
  | cons c rest => simp [hrest c rfl]

theorem isBlank_of_isDigit {c : Char} (hc : c.isDigit = true) : Text.isBlank c = false := by
  have hbounds : 48 ≤ c.toNat ∧ c.toNat ≤ 57 := by
    simpa [Char.isDigit, UInt32.le_iff_toNat_le] using hc
  have hall : ∀ n ≤ 57, 48 ≤ n → Text.isBlank (Char.ofNat n) = false := by decide
  simpa using hall c.toNat hbounds.2 hbounds.1

theorem dropBlank_digits {digits : List Char} (hne : digits ≠ [])
    (hdigits : ∀ c ∈ digits, c.isDigit = true) (rest : List Char) :
    Text.dropBlank (digits ++ rest) = digits ++ rest := by
  obtain ⟨c, cs, rfl⟩ := List.exists_cons_of_ne_nil hne
  have hc := isBlank_of_isDigit (hdigits c List.mem_cons_self)
  simp [Text.dropBlank, hc]

namespace Rfc3339

/-- A number that is filled up to a width is read back where at least so many digits are taken. -/
theorem number_fill {most : Option Nat} {width n : Nat}
    (hmost : ∀ m ∈ most, (Numeral.fill width (Numeral.decimal n)).length ≤ m) {rest : List Char}
    (hrest : Stops rest) :
    number most (Numeral.fill width (Numeral.decimal n) ++ rest) = some (n, rest) := by
  have hne := Numeral.fill_ne_nil width n
  have hdigits : ∀ c ∈ Numeral.fill width (Numeral.decimal n), c.isDigit = true :=
    fun _ => Numeral.isDigit_of_mem_fill
  have htake := takeWhile_digits hdigits hrest
  have hvalue := Numeral.ofDigitChars_fill width n
  cases most with
  | none =>
      simp only [number, dropBlank_digits hne hdigits rest, htake, List.isEmpty_iff, if_neg hne,
        hvalue, List.drop_left]
  | some m =>
      have hlength := hmost m rfl
      simp only [number, dropBlank_digits hne hdigits rest, htake, List.take_of_length_le hlength,
        List.isEmpty_iff, if_neg hne, hvalue, List.drop_left]

theorem field_twoDigits {n low high : Nat} (hlow : low ≤ n) (hhigh : n ≤ high) (hn : n < 100)
    {rest : List Char} (hrest : Stops rest) :
    field (some 2) low high (twoDigits n ++ rest) = some (n, rest) := by
  have hlength := Numeral.length_fill (show 0 < 2 by decide) hn
  have hread : number (some 2) (twoDigits n ++ rest) = some (n, rest) :=
    number_fill (by rintro m ⟨⟩; exact Nat.le_of_eq hlength) hrest
  simp [field, hread, hlow, hhigh]

theorem mark_cons {c : Char} (hc : Text.isBlank c = false) (rest : List Char) :
    mark c (c :: rest) = some ((), rest) := by
  simp [mark, Text.dropBlank, hc]

theorem separator_cons (rest : List Char) : separator ('T' :: rest) = some ((), rest) := rfl

theorem exists_digit_fill (width n : Nat) :
    ∃ c cs, Numeral.fill width (Numeral.decimal n) = c :: cs ∧ c.isDigit = true := by
  obtain ⟨c, cs, hcs⟩ := List.exists_cons_of_ne_nil (Numeral.fill_ne_nil width n)
  exact ⟨c, cs, hcs, Numeral.isDigit_of_mem_fill (hcs ▸ List.mem_cons_self)⟩

theorem signed_fill {n : Nat} (hn : n ≤ yearLimit) {rest : List Char} (hrest : Stops rest) :
    year.signed (Numeral.fill 4 (Numeral.decimal n) ++ rest) = some (n, rest) := by
  have hread : number none (Numeral.fill 4 (Numeral.decimal n) ++ rest) = some (n, rest) :=
    number_fill (by rintro m ⟨⟩) hrest
  have hfield : field none 0 yearLimit (Numeral.fill 4 (Numeral.decimal n) ++ rest)
      = some (n, rest) := by
    simp [field, hread, hn]
  obtain ⟨c, cs, hcs, hc⟩ := exists_digit_fill 4 n
  rw [hcs, List.cons_append] at hfield ⊢
  simp only [year.signed, hc, if_true, hfield]

theorem year_fill {n : Nat} (hn : n < Nat.pow 10 4) {rest : List Char} (hrest : Stops rest) :
    year (Numeral.fill 4 (Numeral.decimal n) ++ rest) = some ((n : Int), rest) := by
  have hlength := Numeral.length_fill (show 0 < 4 by decide) hn
  have hread : number (some 4) (Numeral.fill 4 (Numeral.decimal n) ++ rest) = some (n, rest) :=
    number_fill (by rintro m ⟨⟩; exact Nat.le_of_eq hlength) hrest
  have hblank := dropBlank_digits (Numeral.fill_ne_nil 4 n)
    (fun _ => Numeral.isDigit_of_mem_fill) rest
  obtain ⟨c, cs, hcs, hc⟩ := exists_digit_fill 4 n
  rw [hcs, List.cons_append] at hread hblank ⊢
  unfold year
  rw [hblank]
  -- what begins with a digit has no sign
  split
  · next h =>
    rw [(List.cons.inj h).1] at hc
    cases hc
  · next h =>
    rw [(List.cons.inj h).1] at hc
    cases hc
  · rw [hread]
    rfl

theorem year_yearText {y : Int} (hlow : firstYear ≤ y) (hhigh : y ≤ lastYear) {rest : List Char}
    (hrest : Stops rest) : year (yearText y ++ rest) = some (y, rest) := by
  have hlimit : y.natAbs ≤ yearLimit := by
    simp only [firstYear, lastYear, yearLimit] at *
    omega
  unfold yearText
  by_cases hneg : y < 0
  · have hvalue : -(y.natAbs : Int) = y := by omega
    rw [if_pos hneg]
    show (year.signed (Numeral.fill 4 (Numeral.decimal y.natAbs) ++ rest)).map _ = _
    rw [signed_fill hlimit hrest]
    exact congrArg (fun y => some (y, rest)) hvalue
  have hvalue : (y.natAbs : Int) = y := by omega
  rw [if_neg hneg]
  by_cases hshort : y ≤ 9999
  · have hfits : y.natAbs < Nat.pow 10 4 := show _ < 10000 by omega
    rw [if_pos hshort, year_fill hfits hrest, hvalue]
  · rw [if_neg hshort]
    show (year.signed (Numeral.fill 4 (Numeral.decimal y.natAbs) ++ rest)).map _ = _
    rw [signed_fill hlimit hrest]
    exact congrArg (fun y => some (y, rest)) hvalue

/-- A fraction with so many digits is read back in nanoseconds. -/
theorem fraction_fill {width n : Nat} (hpos : 0 < width) (hwidth : width ≤ 9)
    (hn : n < Nat.pow 10 width) {rest : List Char} (hrest : Stops rest) :
    fraction ('.' :: Numeral.fill width (Numeral.decimal n) ++ rest)
      = some (n * Nat.pow 10 (9 - width), rest) := by
  have hdigits : ∀ c ∈ Numeral.fill width (Numeral.decimal n), c.isDigit = true :=
    fun _ => Numeral.isDigit_of_mem_fill
  have hlength := Numeral.length_fill hpos hn
  have htake : (Numeral.fill width (Numeral.decimal n)).take 9
      = Numeral.fill width (Numeral.decimal n) :=
    List.take_of_length_le (by omega)
  simp only [List.cons_append, fraction, takeWhile_digits hdigits hrest,
    dropWhile_digits hdigits hrest, htake, List.isEmpty_iff, if_neg (Numeral.fill_ne_nil width n),
    Numeral.ofDigitChars_fill, hlength]

theorem fraction_fractionText {nanos : Nat} (hnanos : nanos < second) {rest : List Char}
    (hrest : Stops rest) (hdot : rest.head? ≠ some '.') :
    fraction (fractionText nanos ++ rest) = some (nanos, rest) := by
  unfold second at hnanos
  unfold fractionText
  by_cases hzero : nanos = 0
  · rw [if_pos hzero, List.nil_append, hzero]
    unfold fraction
    split
    · exact absurd rfl hdot
    · rfl
  rw [if_neg hzero]
  by_cases hmillis : nanos % 1000000 = 0
  · have hfits : nanos / 1000000 < Nat.pow 10 3 := show _ < 1000 by omega
    have hwhole : nanos / 1000000 * 1000000 = nanos := by omega
    rw [if_pos hmillis, fraction_fill (by decide) (by decide) hfits hrest]
    exact congrArg (fun n => some (n, rest)) hwhole
  rw [if_neg hmillis]
  by_cases hmicros : nanos % 1000 = 0
  · have hfits : nanos / 1000 < Nat.pow 10 6 := show _ < 1000000 by omega
    have hwhole : nanos / 1000 * 1000 = nanos := by omega
    rw [if_pos hmicros, fraction_fill (by decide) (by decide) hfits hrest]
    exact congrArg (fun n => some (n, rest)) hwhole
  · rw [if_neg hmicros, fraction_fill (by decide) (by decide) hnanos hrest]
    exact congrArg (fun n => some (n, rest)) nanos.mul_one

end Rfc3339

theorem stops_fractionText {nanos : Nat} {rest : List Char} (hrest : Stops rest) :
    Stops (fractionText nanos ++ rest) := by
  unfold fractionText
  split
  · exact hrest
  · split
    · exact stops_cons (by decide) _
    · split <;> exact stops_cons (by decide) _

theorem bind_of_eq {α β : Type} {o : Option α} {a : α} (h : o = some a) {next : α → Option β} :
    (o >>= next) = next a := by
  rw [h]
  rfl

namespace Timestamp

theorem ofLocal?_fields (t : Timestamp) : ofLocal? t.date t.seconds t.nanos 0 = some t := by
  have hlow : ¬ (t.seconds : Int) - 0 < 0 := by omega
  have hhigh : (t.seconds : Int) - 0 < daySeconds := by
    have := t.seconds_lt
    omega
  unfold ofLocal?
  rw [if_neg hlow, if_pos hhigh, Int.sub_zero, Int.toNat_natCast]
  exact of?_fields t

open Rfc3339 in
/-- A text is read by its parts. -/
theorem read?_parts (date : Date) (hour minute sec nanos : Nat) (hhour : hour < 24)
    (hminute : minute < 60) (hsec : sec ≤ 60) (hnanos : nanos < second) :
    read? (yearText date.year ++ '-' :: twoDigits date.month ++ '-' :: twoDigits date.day ++
        'T' :: twoDigits hour ++ ':' :: twoDigits minute ++ ':' :: twoDigits sec ++
        fractionText nanos ++ ['Z']) =
      if sec = 60 then ofLocal? date (hour * 3600 + minute * 60 + 59) (nanos + second) 0
      else ofLocal? date (hour * 3600 + minute * 60 + sec) nanos 0 := by
  obtain ⟨hmonth, hmonth'⟩ := date.month_bounds
  have hday' := date.day_le_31
  have dash {rest : List Char} : Stops ('-' :: rest) := stops_cons (by decide) rest
  have colon {rest : List Char} : Stops (':' :: rest) := stops_cons (by decide) rest
  have letter {rest : List Char} : Stops ('T' :: rest) := stops_cons (by decide) rest
  have zulu : Stops ['Z'] := stops_cons (by decide) []
  simp only [List.append_assoc, List.cons_append, read?]
  -- part by part, each with the mark behind it
  refine (bind_of_eq (year_yearText date.year_ge date.year_le dash)).trans ?_
  refine (bind_of_eq (mark_cons (by decide) _)).trans ?_
  refine (bind_of_eq (field_twoDigits hmonth hmonth' (by omega) dash)).trans ?_
  refine (bind_of_eq (mark_cons (by decide) _)).trans ?_
  refine (bind_of_eq (field_twoDigits date.day_ge hday' (by omega) letter)).trans ?_
  refine (bind_of_eq (separator_cons _)).trans ?_
  refine (bind_of_eq (field_twoDigits hour.zero_le (by omega) (by omega) colon)).trans ?_
  refine (bind_of_eq (mark_cons (by decide) _)).trans ?_
  refine (bind_of_eq (field_twoDigits minute.zero_le (by omega) (by omega) colon)).trans ?_
  refine (bind_of_eq (mark_cons (by decide) _)).trans ?_
  refine (bind_of_eq (field_twoDigits sec.zero_le hsec (by omega)
    (stops_fractionText zulu))).trans ?_
  refine (bind_of_eq (fraction_fractionText hnanos zulu (by decide))).trans ?_
  refine (bind_of_eq (show offset (Text.dropBlank ['Z']) = some (0, []) from rfl)).trans ?_
  refine (if_neg (not_not_intro rfl)).trans ?_
  exact bind_of_eq (Date.of?_fields date)

/-- Reading undoes printing, for every moment. -/
theorem read?_text (t : Timestamp) : read? t.text = some t := by
  have hseconds : t.seconds < 86400 := t.seconds_lt
  have hnanos := t.nanos_lt
  by_cases hleap : second ≤ t.nanos
  -- shown as second 60, and read as the second before it
  · have hlast := t.leap hleap
    have hread := read?_parts t.date (t.seconds / 3600) (t.seconds / 60 % 60) (t.seconds % 60 + 1)
      (t.nanos - second) (by omega) (by omega) (by omega) (by omega)
    have hclock : t.seconds / 3600 * 3600 + t.seconds / 60 % 60 * 60 + 59 = t.seconds := by omega
    rw [if_pos (by omega), hclock, Nat.sub_add_cancel hleap, ofLocal?_fields] at hread
    simpa only [text, localText, hleap, if_true] using hread
  · have hread := read?_parts t.date (t.seconds / 3600) (t.seconds / 60 % 60) (t.seconds % 60 + 0)
      t.nanos (by omega) (by omega) (by omega) (by omega)
    have hclock : t.seconds / 3600 * 3600 + t.seconds / 60 % 60 * 60 + (t.seconds % 60 + 0)
        = t.seconds := by
      omega
    rw [if_neg (by omega), hclock, ofLocal?_fields] at hread
    simpa only [text, localText, hleap, if_false] using hread

end Timestamp

end SocksMonitor.Time
