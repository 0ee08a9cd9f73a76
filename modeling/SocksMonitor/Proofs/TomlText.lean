import SocksMonitor.Proofs.Literals
import SocksMonitor.Toml.Document

/-!
# Writing TOML

A document that holds a given value: strings with escapes where they need them, integers in decimal
digits, truth values, and tables on one line. `Reads` says that a text is read as a value in front
of anything that may follow a value; there is one lemma for each form, and tables are put together
from the texts of their fields. So whatever is made of these forms can be told in a document
(`exists_document`).
-/

namespace SocksMonitor.Toml

/-! ## Values in front of something else -/

/-- What follows a value in a table on one line, or at the end of a document. -/
inductive Ends : List Char → Prop where
  | nothing : Ends []
  | comma (rest : List Char) : Ends (',' :: rest)
  | close (rest : List Char) : Ends ('\x7d' :: rest)

/-- The text stands for the value, which may have so many levels. -/
structure Reads (levels : Nat) (cs : List Char) (v : Value) : Prop where
  begins : ∀ rest, skipSpace (cs ++ rest) = cs ++ rest
  read : ∀ fuel rest, cs.length ≤ fuel → Ends rest →
    value fuel levels (cs ++ rest) = some (v, rest)

/-- No space is skipped in front of a character that is of a kind without spaces. -/
theorem skipSpace_of_kind {kind : Char → Bool} {c : Char} (hc : kind c = true)
    (hspace : kind ' ' = false) (htab : kind '\t' = false) (cs : List Char) :
    skipSpace (c :: cs) = c :: cs := by
  have hno : isSpace c = false := by
    simp [isSpace, Text.ne_of_kind hc hspace, Text.ne_of_kind hc htab]
  rw [skipSpace, List.dropWhile_cons_of_neg]
  simp [hno]

/-! ## Strings -/

/-- A character within a string. What cannot stand for itself has a code point below 128. -/
def escapeChar (c : Char) : List Char :=
  if c = '"' ∨ c = '\\' ∨ isPlain c = false then
    ['\\', 'u', '0', '0', Nat.digitChar (c.toNat / 16), Nat.digitChar (c.toNat % 16)]
  else [c]

def stringText (s : String) : List Char := '"' :: s.toList.flatMap escapeChar ++ ['"']

theorem toNat_lt_of_not_plain {c : Char} (h : c = '"' ∨ c = '\\' ∨ isPlain c = false) :
    c.toNat < 128 := by
  rcases h with rfl | rfl | h
  · decide
  · decide
  · simp only [isPlain, Bool.or_eq_false_iff, Bool.and_eq_false_iff, decide_eq_false_iff_not,
      bne_eq_false_iff_eq] at h
    omega

theorem codePoint_of_lt {c : Char} (h : c.toNat < 128) :
    codePoint ['0', '0', Nat.digitChar (c.toNat / 16), Nat.digitChar (c.toNat % 16)] = some c := by
  have hall : ∀ n < 128, codePoint ['0', '0', Nat.digitChar (n / 16), Nat.digitChar (n % 16)] =
      some (Char.ofNat n) := by
    decide
  simpa using hall c.toNat h

theorem basicString_escapeChar (found : List Char) (c : Char) (rest : List Char) :
    basicString found (escapeChar c ++ rest) = basicString (c :: found) rest := by
  unfold escapeChar
  split
  next h =>
    have hescape : escape ('u' :: '0' :: '0' :: Nat.digitChar (c.toNat / 16)
        :: Nat.digitChar (c.toNat % 16) :: rest) = some (c, rest) := by
      simp [escape, codePoint_of_lt (toNat_lt_of_not_plain h)]
    simp only [List.cons_append, List.nil_append]
    rw [basicString, if_neg (by decide), if_pos rfl]
    split
    next hfound =>
      rw [hescape] at hfound
      cases hfound
      rfl
    next hfound =>
      rw [hescape] at hfound
      cases hfound
  next h =>
    rw [not_or, not_or, Bool.not_eq_false] at h
    obtain ⟨hquote, hescape, hplain⟩ := h
    rw [List.singleton_append, basicString]
    simp [hquote, hescape, hplain]

theorem basicString_flatMap (cs found rest : List Char) :
    basicString found (cs.flatMap escapeChar ++ '"' :: rest) =
      some (String.ofList (found.reverse ++ cs), rest) := by
  induction cs generalizing found with
  | nil => simp [basicString]
  | cons c cs ih =>
      rw [List.flatMap_cons, List.append_assoc, basicString_escapeChar, ih, List.reverse_cons,
        List.append_assoc, List.singleton_append]

/-- No character of a string looks like its end. -/
theorem exists_head_escapeChar (c : Char) : ∃ d ds, escapeChar c = d :: ds ∧ d ≠ '"' := by
  unfold escapeChar
  split
  · exact ⟨_, _, rfl, by decide⟩
  next h => exact ⟨_, _, rfl, fun hc => h (.inl hc)⟩

theorem string_basicString (fuel : Nat) {cs : List Char} (hcs : ∀ rest, cs ≠ '"' :: '"' :: rest) :
    string fuel ('"' :: cs) = basicString [] cs := by
  unfold string
  split
  next h => exact absurd (List.cons.inj h).2 (hcs _)
  next h => rw [(List.cons.inj h).2]
  next h => cases h
  next h => cases h
  next _ h _ _ => exact absurd rfl (h cs)

theorem stringText_append (s : String) (rest : List Char) :
    stringText s ++ rest = '"' :: (s.toList.flatMap escapeChar ++ '"' :: rest) := by
  simp [stringText]

theorem string_stringText (fuel : Nat) (s : String) {rest : List Char} (hrest : Ends rest) :
    string fuel (stringText s ++ rest) = some (s, rest) := by
  have hshort : ∀ more, s.toList.flatMap escapeChar ++ '"' :: rest ≠ '"' :: '"' :: more := by
    intro more h
    cases hs : s.toList with
    | nil =>
        rw [hs] at h
        cases hrest <;> cases h
    | cons c cs =>
        obtain ⟨d, ds, hd, hquote⟩ := exists_head_escapeChar c
        rw [hs, List.flatMap_cons, hd] at h
        exact hquote (List.cons.inj h).1
  rw [stringText_append, string_basicString fuel hshort, basicString_flatMap]
  simp

theorem Reads.string (levels : Nat) (s : String) : Reads levels (stringText s) (.string s) where
  begins rest := rfl
  read fuel rest _ hrest := by
    have hread := string_stringText fuel s hrest
    rw [stringText_append] at hread ⊢
    rw [value.eq_def]
    simp [hread]

/-! ## Truth values -/

def boolText : Bool → List Char
  | true => ['t', 'r', 'u', 'e']
  | false => ['f', 'a', 'l', 's', 'e']

theorem Reads.bool (levels : Nat) (b : Bool) : Reads levels (boolText b) (.bool b) where
  begins rest := by cases b <;> rfl
  read fuel rest _ _ := by
    rw [value.eq_def]
    cases b <;> simp [boolText, word]

/-! ## Integers -/

section Digits

variable {ds rest : List Char}

theorem moreDigits_append (hds : ∀ c ∈ ds, c.isDigit = true) (hrest : Ends rest) :
    moreDigits Char.isDigit (ds ++ rest) = some (ds, rest) := by
  induction ds with
  | nil => cases hrest <;> rfl
  | cons d ds ih =>
      obtain ⟨hd, hmore⟩ := List.forall_mem_cons.mp hds
      have hunderscore : d ≠ '_' := Text.ne_of_kind hd rfl
      rw [List.cons_append, moreDigits]
      · simp [hd, ih hmore]
      · exact fun h => absurd h hunderscore
      · exact fun _ _ h => absurd h hunderscore

/-- Of digits so many can be taken only if there are so many. -/
theorem exists_of_fixedDigits (hds : ∀ c ∈ ds, c.isDigit = true) (hrest : Ends rest)
    {count low high n : Nat} {rest' : List Char}
    (h : fixedDigits count low high (ds ++ rest) = some (n, rest')) :
    ∃ ds', (∀ c ∈ ds', c.isDigit = true) ∧ rest' = ds' ++ rest := by
  simp only [fixedDigits] at h
  split at h
  next htaken =>
    obtain ⟨hlength, hall⟩ := htaken
    have hcount : count ≤ ds.length := by
      by_contra hlong
      obtain ⟨more, rfl⟩ := Nat.exists_eq_add_of_lt (Nat.not_le.mp hlong)
      cases hrest with
      | nothing =>
          simp only [List.append_nil, List.length_take] at hlength
          omega
      | comma => simp [List.take_append, Nat.add_assoc] at hall
      | close => simp [List.take_append, Nat.add_assoc] at hall
    split at h
    · cases h
      refine ⟨ds.drop count, fun c hc => hds c (List.mem_of_mem_drop hc), ?_⟩
      exact List.drop_append_of_le_length hcount
    · cases h
  · cases h

/-- No mark stands behind digits. -/
theorem mark_append (hds : ∀ c ∈ ds, c.isDigit = true) (hrest : Ends rest) {c : Char}
    (hdigit : c.isDigit = false) (hends : c ≠ ',' ∧ c ≠ '}') : mark c (ds ++ rest) = none := by
  cases ds with
  | nil => cases hrest <;> simp [mark, hends]
  | cons d ds =>
      have hne : c ≠ d := (Text.ne_of_kind (hds d List.mem_cons_self) hdigit).symm
      simp [mark, hne]

theorem dateTime_append (hds : ∀ c ∈ ds, c.isDigit = true) (hrest : Ends rest) :
    dateTime (ds ++ rest) = none := by
  have hdate : date (ds ++ rest) = none := by
    unfold date
    rcases hyear : fixedDigits 4 0 9999 (ds ++ rest) with _ | ⟨year, rest'⟩
    · rfl
    · obtain ⟨ds', hds', rfl⟩ := exists_of_fixedDigits hds hrest hyear
      have hmark : mark '-' (ds' ++ rest) = none := mark_append hds' hrest rfl (by decide)
      simp [hmark]
  have htime : timeOfDay (ds ++ rest) = none := by
    unfold timeOfDay
    rcases hhour : fixedDigits 2 0 23 (ds ++ rest) with _ | ⟨hour, rest'⟩
    · rfl
    · obtain ⟨ds', hds', rfl⟩ := exists_of_fixedDigits hds hrest hhour
      have hmark : mark ':' (ds' ++ rest) = none := mark_append hds' hrest rfl (by decide)
      simp [hmark]
  simp [dateTime, hdate, htime]

theorem digitsValue_eq (hds : ∀ c ∈ ds, c.isDigit = true) :
    digitsValue 10 ds = Nat.ofDigitChars 10 ds 0 := by
  have hfold : ∀ n, ds.foldl (fun n c => 10 * n + (Numeral.hexDigit? c).getD 0) n =
      Nat.ofDigitChars 10 ds n := by
    induction ds with
    | nil => exact fun n => rfl
    | cons d ds ih =>
        intro n
        obtain ⟨hd, hmore⟩ := List.forall_mem_cons.mp hds
        obtain ⟨hlt, hchar⟩ := Numeral.digitChar_ofDigit hd
        have hvalue : Numeral.hexDigit? d = some (d.toNat - 48) :=
          Numeral.hexDigit?_eq_some_iff.mpr ⟨by omega, .inl hchar.symm⟩
        rw [List.foldl_cons, hvalue, Option.getD_some, ih hmore, Nat.ofDigitChars_cons]
        rfl
  exact hfold 0

end Digits

section Decimal

variable (n : Nat) {rest : List Char}

theorem exists_head_decimal : ∃ d ds, Numeral.decimal n = d :: ds ∧ d.isDigit = true
    ∧ (d = '0' → ds = []) := by
  obtain ⟨d, ds, hds⟩ := List.exists_cons_of_ne_nil (Numeral.decimal_ne_nil n)
  refine ⟨d, ds, hds, Numeral.isDigit_of_mem_decimal (hds ▸ List.mem_cons_self), ?_⟩
  rintro rfl
  by_cases hn : n = 0
  · subst hn
    cases hds
    rfl
  · have hhead := Numeral.head?_decimal hn
    rw [hds] at hhead
    exact absurd rfl hhead

theorem wholeDigits_decimal (hrest : Ends rest) :
    wholeDigits (Numeral.decimal n ++ rest) = some (Numeral.decimal n, rest) := by
  have hall : ∀ c ∈ Numeral.decimal n, c.isDigit = true := fun _ => Numeral.isDigit_of_mem_decimal
  obtain ⟨d, ds, hds, hd, hzero⟩ := exists_head_decimal n
  rw [hds] at hall ⊢
  by_cases h : d = '0'
  · obtain rfl := hzero h
    subst h
    rfl
  · have hmore := moreDigits_append (List.forall_mem_cons.mp hall).2 hrest
    rw [List.cons_append, wholeDigits]
    · simp [digitRun, hd, hmore]
    · exact fun cs heq => h (List.cons.inj heq).1

theorem sign_decimal (rest : List Char) :
    sign (Numeral.decimal n ++ rest) = (false, Numeral.decimal n ++ rest) := by
  obtain ⟨d, ds, hds, hd, -⟩ := exists_head_decimal n
  rw [hds, List.cons_append, sign]
  · exact fun cs heq => Text.ne_of_kind hd rfl (List.cons.inj heq).1
  · exact fun cs heq => Text.ne_of_kind hd rfl (List.cons.inj heq).1

theorem decimalFloat_decimal (hrest : Ends rest) :
    decimalFloat (Numeral.decimal n ++ rest) = none := by
  have hwhole := wholeDigits_decimal n hrest
  simp only [decimalFloat, sign_decimal, hwhole]
  cases hrest <;> rfl

theorem specialFloat_decimal (rest : List Char) :
    specialFloat (Numeral.decimal n ++ rest) = none := by
  obtain ⟨d, ds, hds, hd, -⟩ := exists_head_decimal n
  have hi : 'i' ≠ d := (Text.ne_of_kind hd rfl).symm
  have hn : 'n' ≠ d := (Text.ne_of_kind hd rfl).symm
  simp only [specialFloat, sign_decimal]
  rw [hds]
  simp [word, hi, hn]

theorem integer_decimal {n : Nat} (hn : n < 0x8000000000000000) (hrest : Ends rest) :
    integer (Numeral.decimal n ++ rest) = some (.integer n, rest) := by
  have hvalue : digitsValue 10 (Numeral.decimal n) = n := by
    rw [digitsValue_eq fun _ => Numeral.isDigit_of_mem_decimal]
    exact Nat.ofDigitChars_ten_toDigits
  have hrange : inRange n = true := by
    simp [inRange]
    omega
  -- a zero stands alone, so it begins no other base
  have hbase : ∀ c cs, c.isDigit = false → c ≠ ',' → c ≠ '}' →
      Numeral.decimal n ++ rest ≠ '0' :: c :: cs := by
    intro c cs hc hcomma hclose h
    obtain ⟨d, ds, hds, hd, hzero⟩ := exists_head_decimal n
    rw [hds] at h
    obtain ⟨hd, htail⟩ := List.cons.inj h
    obtain rfl := hzero hd
    obtain rfl : rest = c :: cs := htail
    cases hrest
    · exact hcomma rfl
    · exact hclose rfl
  rw [integer]
  · simp [sign_decimal, wholeDigits_decimal n hrest, hvalue, hrange]
  · exact fun cs => hbase _ cs rfl (by decide) (by decide)
  · exact fun cs => hbase _ cs rfl (by decide) (by decide)
  · exact fun cs => hbase _ cs rfl (by decide) (by decide)

end Decimal

def Value.nat (n : Nat) : Value := .integer n

theorem Reads.nat (levels : Nat) {n : Nat} (hn : n < 0x8000000000000000) :
    Reads levels (Numeral.decimal n) (.nat n) where
  begins rest := by
    obtain ⟨d, ds, hds, hd, -⟩ := exists_head_decimal n
    rw [hds]
    exact skipSpace_of_kind hd rfl rfl _
  read fuel rest _ hrest := by
    have hdate : dateTime (Numeral.decimal n ++ rest) = none :=
      dateTime_append (fun _ => Numeral.isDigit_of_mem_decimal) hrest
    have hfloat := decimalFloat_decimal n hrest
    have hspecial := specialFloat_decimal n rest
    have hinteger := integer_decimal hn hrest
    obtain ⟨d, ds, hds, hd, -⟩ := exists_head_decimal n
    have hother {c : Char} (hc : c.isDigit = false) : d ≠ c := Text.ne_of_kind hd hc
    have hquotes : ¬ (d = '"' ∨ d = '\'') := not_or.mpr ⟨hother rfl, hother rfl⟩
    rw [hds, List.cons_append] at hdate hfloat hspecial hinteger ⊢
    rw [value.eq_def]
    dsimp only
    rw [if_neg hquotes, if_neg (hother rfl), if_neg (hother rfl), if_neg (hother rfl),
      if_neg (hother rfl), hdate, hfloat, hspecial]
    exact hinteger

/-! ## Tables -/

/-- A field of a table, with the text of its value. -/
structure Field where
  name : String
  value : Value
  text : List Char

/-- The name needs no quotes. -/
def IsBareName (name : String) : Prop := name ≠ "" ∧ ∀ c ∈ name.toList, isBare c = true

instance (name : String) : Decidable (IsBareName name) :=
  decidable_of_iff (name ≠ "" ∧ name.toList.all isBare = true) (and_congr_right' List.all_eq_true)

/-- The field can be written as it is. -/
structure Field.Written (levels : Nat) (f : Field) : Prop where
  bare : IsBareName f.name
  reads : Reads levels f.text f.value

def Field.entry (f : Field) : String × Value := (f.name, f.value)

def Field.node (f : Field) : String × Node := (f.name, .value f.value)

def Field.line (f : Field) : List Char := f.name.toList ++ ' ' :: '=' :: ' ' :: f.text

/-- The other fields of a table, and its end. -/
def afterField : List Field → List Char
  | [] => ['\x7d']
  | f :: fs => ',' :: ' ' :: f.line ++ afterField fs

def tableText (f : Field) (fs : List Field) : List Char := '\x7b' :: f.line ++ afterField fs

section Fields

variable {levels : Nat} {f : Field}

theorem Field.Written.exists_head (hf : f.Written levels) :
    ∃ c cs, f.name.toList = c :: cs ∧ isBare c = true := by
  have hne : f.name.toList ≠ [] := fun h => hf.bare.1 (String.toList_eq_nil_iff.mp h)
  obtain ⟨c, cs, hcs⟩ := List.exists_cons_of_ne_nil hne
  exact ⟨c, cs, hcs, hf.bare.2 c (hcs ▸ List.mem_cons_self)⟩

theorem skipSpace_line (hf : f.Written levels) (rest : List Char) :
    skipSpace (f.line ++ rest) = f.line ++ rest := by
  obtain ⟨c, cs, hcs, hc⟩ := hf.exists_head
  rw [Field.line, hcs]
  exact skipSpace_of_kind hc rfl rfl _

/-- A field does not begin like anything else that may stand in its place. -/
theorem line_ne (hf : f.Written levels) {c : Char} (hc : isBare c = false)
    (rest cs : List Char) : f.line ++ rest ≠ c :: cs := by
  obtain ⟨d, ds, hds, hd⟩ := hf.exists_head
  rw [Field.line, hds]
  exact fun h => Text.ne_of_kind hd hc (List.cons.inj h).1

theorem namePart_append (hf : f.Written levels) (rest : List Char) :
    namePart (f.name.toList ++ ' ' :: rest) = some (f.name, ' ' :: rest) := by
  have htake : (f.name.toList ++ ' ' :: rest).takeWhile isBare = f.name.toList := by
    rw [List.takeWhile_append_of_pos hf.bare.2]
    simp [isBare]
  obtain ⟨c, cs, hcs, hc⟩ := hf.exists_head
  rw [namePart]
  · simp [htake, hf.bare.1]
  · rw [hcs]
    exact fun _ h => Text.ne_of_kind hc rfl (List.cons.inj h).1
  · rw [hcs]
    exact fun _ h => Text.ne_of_kind hc rfl (List.cons.inj h).1

theorem name_line (hf : f.Written levels) (rest : List Char) :
    name (f.line ++ rest) = some (([], f.name), '=' :: ' ' :: f.text ++ rest) := by
  have hpart := namePart_append hf ('=' :: ' ' :: f.text ++ rest)
  have hline : f.line ++ rest = f.name.toList ++ ' ' :: ('=' :: ' ' :: f.text ++ rest) := by
    simp [Field.line]
  have hparts : nameParts nameLimit (f.line ++ rest) =
      some ([f.name], '=' :: ' ' :: f.text ++ rest) := by
    rw [nameLimit, nameParts, skipSpace_line hf, hline, hpart]
    rfl
  rw [name, hparts]
  rfl

theorem addDotted_new {entries : Entries} {name : String} (hnew : entries.lookup name = none)
    (v : Value) :
    entries.addDotted [] name v .declared = some (entries ++ [(name, .value v)]) := by
  simp [Entries.addDotted, Entries.modifyAt, Entries.addNew, hnew]

/-- A field on one line is taken up; what stands behind it decides how it goes on. -/
theorem inlineFields_line (hf : f.Written levels) {fuel : Nat} (hfuel : f.text.length ≤ fuel)
    (k : Nat) {entries : Entries} (hnew : entries.lookup f.name = none) (rest : List Char) :
    inlineFields (value fuel levels) (k + 1) entries (f.line ++ ',' :: rest) =
        inlineFields (value fuel levels) k (entries ++ [f.node]) rest
      ∧ inlineFields (value fuel levels) (k + 1) entries (f.line ++ '\x7d' :: rest) =
        some (.table (Node.entryValues (entries ++ [f.node])), rest) := by
  have hvalue {tail : List Char} (htail : Ends tail) := hf.reads.read fuel tail hfuel htail
  have hspace (tail : List Char) : skipSpace (' ' :: f.text ++ tail) = f.text ++ tail :=
    hf.reads.begins tail
  have hmark (tail : List Char) :
      mark '=' ('=' :: ' ' :: f.text ++ tail) = some ((), ' ' :: f.text ++ tail) := rfl
  constructor
  · simp only [inlineFields, name_line hf, Option.bind_eq_bind, Option.bind_some, hmark, hspace,
      hvalue (.comma rest), addDotted_new hnew]
    rfl
  · simp only [inlineFields, name_line hf, Option.bind_eq_bind, Option.bind_some, hmark, hspace,
      hvalue (.close rest), addDotted_new hnew]
    rfl

theorem inlineFields_space (read : Reader Value) (k : Nat) (entries : Entries) (cs : List Char) :
    inlineFields read k entries (' ' :: cs) = inlineFields read k entries cs := by
  cases k <;> rfl

/-- Fields of different names are taken up one after another, up to the closing brace. -/
theorem inlineFields_afterField {fs : List Field} (hwritten : ∀ g ∈ f :: fs, g.Written levels)
    (hnodup : ((f :: fs).map Field.name).Nodup) {fuel : Nat}
    (hfuel : ∀ g ∈ f :: fs, g.text.length ≤ fuel) {k : Nat} (hk : fs.length < k)
    {entries : Entries} (hnew : ∀ g ∈ f :: fs, entries.lookup g.name = none) (rest : List Char) :
    inlineFields (value fuel levels) k entries (f.line ++ (afterField fs ++ rest)) =
      some (.table (Node.entryValues (entries ++ (f :: fs).map Field.node)), rest) := by
  induction fs generalizing f k entries with
  | nil =>
      obtain ⟨k, rfl⟩ := Nat.exists_eq_add_one_of_ne_zero (Nat.ne_zero_of_lt hk)
      have hself : f ∈ [f] := List.mem_cons_self
      exact (inlineFields_line (hwritten f hself) (hfuel f hself) k (hnew f hself) rest).2
  | cons g fs ih =>
      obtain ⟨k, rfl⟩ := Nat.exists_eq_add_one_of_ne_zero (Nat.ne_zero_of_lt hk)
      obtain ⟨hf, hwritten'⟩ := List.forall_mem_cons.mp hwritten
      obtain ⟨hlength, hfuel'⟩ := List.forall_mem_cons.mp hfuel
      obtain ⟨hfresh, hlater⟩ := List.forall_mem_cons.mp hnew
      obtain ⟨hname, hnodup'⟩ := List.nodup_cons.mp hnodup
      have hnew' : ∀ h ∈ g :: fs, (entries ++ [f.node]).lookup h.name = none := by
        intro h hh
        have hne : h.name ≠ f.name := fun heq => hname (List.mem_map.mpr ⟨h, hh, heq⟩)
        rw [List.lookup_append, hlater h hh, Field.node, List.lookup_cons, beq_false_of_ne hne]
        rfl
      have hline := (inlineFields_line hf hlength k hfresh
        (' ' :: (g.line ++ (afterField fs ++ rest)))).1
      have hmore := ih hwritten' hnodup' hfuel' (Nat.lt_of_succ_lt_succ hk) hnew'
      rw [afterField]
      simp only [List.cons_append, List.append_assoc]
      rw [hline, inlineFields_space, hmore, List.append_assoc]
      rfl

theorem entryValues_node (fs : List Field) :
    Node.entryValues (fs.map Field.node) = fs.map Field.entry := by
  induction fs with
  | nil => rfl
  | cons f fs ih => rw [List.map_cons, List.map_cons, ← ih]; rfl

theorem length_afterField (fs : List Field) :
    fs.length < (afterField fs).length ∧ ∀ g ∈ fs, g.text.length ≤ (afterField fs).length := by
  induction fs with
  | nil => simp [afterField]
  | cons f fs ih =>
      simp only [afterField, Field.line, List.length_cons, List.length_append,
        List.forall_mem_cons]
      obtain ⟨hlength, htexts⟩ := ih
      refine ⟨by omega, by omega, fun g hg => ?_⟩
      have := htexts g hg
      omega

theorem Reads.table {fs : List Field} (hwritten : ∀ g ∈ f :: fs, g.Written levels)
    (hnodup : ((f :: fs).map Field.name).Nodup) :
    Reads (levels + 1) (tableText f fs) (.table ((f :: fs).map Field.entry)) where
  begins rest := rfl
  read fuel rest hfuel _ := by
    have hf := hwritten f List.mem_cons_self
    obtain ⟨hlength, htexts⟩ := length_afterField fs
    simp only [tableText, Field.line, List.length_cons, List.length_append, List.cons_append,
      List.append_assoc] at hfuel
    have hfuels : ∀ g ∈ f :: fs, g.text.length ≤ fuel := by
      refine List.forall_mem_cons.mpr ⟨by omega, fun g hg => ?_⟩
      have := htexts g hg
      omega
    have hnone : ∀ g ∈ f :: fs, ([] : Entries).lookup g.name = none := fun _ _ => rfl
    have hfields := inlineFields_afterField hwritten hnodup hfuels
      (show fs.length < fuel by omega) hnone rest
    have htext : tableText f fs ++ rest = '\x7b' :: (f.line ++ (afterField fs ++ rest)) := by
      simp [tableText]
    rw [List.nil_append, entryValues_node] at hfields
    rw [htext, value.eq_def]
    simp only [Char.reduceEq, or_self, if_false, if_true]
    rw [skipSpace_line hf]
    split
    next h => exact absurd h (line_ne hf rfl _ _)
    next => exact hfields

/-! ## Documents -/

theorem assignmentLine_line (hf : f.Written nestingLimit) {fuel : Nat}
    (hfuel : f.text.length ≤ fuel) :
    assignmentLine fuel {} f.line = some (⟨[f.node], []⟩, []) := by
  have hname := name_line hf []
  have hvalue := hf.reads.read fuel [] hfuel .nothing
  have hspace : skipSpace (' ' :: f.text ++ []) = f.text ++ [] := hf.reads.begins []
  have hmark : mark '=' ('=' :: ' ' :: f.text ++ []) = some ((), ' ' :: f.text ++ []) := rfl
  have hassign : ({} : Draft).assign [] f.name f.value = some ⟨[f.node], []⟩ := by
    have hnew := addDotted_new (show ([] : Entries).lookup f.name = none from rfl) f.value
    simp [Draft.assign, Entries.modifyAt, hnew, Field.node]
  rw [List.append_nil] at hname
  simp only [assignmentLine, hname, Option.bind_eq_bind, Option.bind_some, hmark, hspace, hvalue]
  simp [restOfLine, skipSpace, skipComment, hassign]

/-- A document of one line is read as the table of its field. -/
theorem read?_line (hf : f.Written nestingLimit) :
    read? (String.ofList f.line) = some [f.entry] := by
  have hne (c : Char) (hc : isBare c = false) (cs : List Char) : f.line ≠ c :: cs := by
    simpa using line_ne hf hc [] cs
  have hspace : skipSpace f.line = f.line := by simpa using skipSpace_line hf []
  have hmark : skipByteOrderMark f.line = f.line := by
    unfold skipByteOrderMark
    split
    next h => exact absurd h (hne _ (by decide) _)
    · rfl
  obtain ⟨n, hn⟩ : ∃ n, f.line.length = n + 1 :=
    Nat.exists_eq_add_one_of_ne_zero (by simp [Field.line])
  have hassignment := assignmentLine_line hf (show f.text.length ≤ f.line.length by
    simp [Field.line]; omega)
  have hlines : lines (f.line.length + 1) {} f.line = some ⟨[f.node], []⟩ := by
    rw [lines, hspace]
    split
    next h => rw [h] at hn; cases hn
    next h => exact absurd h (hne _ rfl _)
    next h => exact absurd h (hne _ rfl _)
    next c rest _ _ h =>
      have hline : ¬ (c = '#' ∨ c = '\n' ∨ c = '\r') := by
        rintro (rfl | rfl | rfl) <;> exact hne _ rfl _ h
      rw [if_neg hline, ← h, hassignment, hn]
      rfl
  simp only [read?, String.toList_ofList, hmark, hlines, Option.map_some]
  rfl

end Fields

/-! ## What can be written -/

/-- Some text stands for the value. -/
def IsWritable (levels : Nat) (v : Value) : Prop := ∃ cs, Reads levels cs v

variable {levels : Nat}

theorem exists_fields {entries : List (String × Value)}
    (hentries : ∀ e ∈ entries, IsBareName e.1 ∧ IsWritable levels e.2) :
    ∃ fs : List Field, fs.map Field.entry = entries ∧ ∀ g ∈ fs, g.Written levels := by
  induction entries with
  | nil => exact ⟨[], rfl, by simp⟩
  | cons e entries ih =>
      obtain ⟨⟨hbare, cs, hreads⟩, hothers⟩ := List.forall_mem_cons.mp hentries
      obtain ⟨fs, rfl, hwritten⟩ := ih hothers
      exact ⟨⟨e.1, e.2, cs⟩ :: fs, rfl, List.forall_mem_cons.mpr ⟨⟨hbare, hreads⟩, hwritten⟩⟩

theorem IsWritable.table {entries : List (String × Value)} (hne : entries ≠ [])
    (hnodup : (entries.map Prod.fst).Nodup)
    (hentries : ∀ e ∈ entries, IsBareName e.1 ∧ IsWritable levels e.2) :
    IsWritable (levels + 1) (.table entries) := by
  obtain ⟨fs, rfl, hwritten⟩ := exists_fields hentries
  cases fs with
  | nil => exact absurd rfl hne
  | cons f fs =>
      rw [List.map_map] at hnodup
      exact ⟨_, .table hwritten hnodup⟩

/-- A value that can be written has a document of its own, under any name that needs no quotes. -/
theorem exists_document {name : String} (hbare : IsBareName name) {v : Value}
    (h : IsWritable nestingLimit v) : ∃ document, read? document = some [(name, v)] := by
  obtain ⟨cs, hreads⟩ := h
  have hwritten : Field.Written nestingLimit ⟨name, v, cs⟩ := ⟨hbare, hreads⟩
  exact ⟨_, read?_line hwritten⟩

end SocksMonitor.Toml
