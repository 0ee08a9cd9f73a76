import Mathlib.Algebra.Group.Nat.Defs
import Mathlib.Data.List.Induction
import SocksMonitor.Net.Endpoint

/-!
# IP literals

Which texts are IP literals, and of which addresses. An IPv4 address has one literal, its text. An
IPv6 address has many, since groups may have leading zeros and letters of either case, any run of
zero groups may be left out, and the last two groups may be written as an IPv4 address; `Spells` is
their grammar.

- `Ipv4.read?_eq_some_iff`, `Ipv6.read?_eq_some_iff`: the readers accept literals and nothing else.
- `Ipv6.spells_text`: the text that is printed for an IPv6 address is one of its literals.
- `Ipv4.octets_injective`, `Ipv6.octets_injective`, `Ipv6.toMapped?_eq_some_iff`: octets say which
  address it is, and whether it carries an IPv4 address.
-/

namespace SocksMonitor

namespace Text

/-! ## Kinds of characters -/

section Kinds

variable {kind : Char → Bool} {c : Char}

theorem ne_of_kind {d : Char} (hd : kind d = true) (hc : kind c = false) : d ≠ c := by
  rintro rfl
  rw [hd] at hc
  cases hc

theorem not_mem_of_kind {cs : List Char} (hcs : ∀ d ∈ cs, kind d = true)
    (hc : kind c = false) : c ∉ cs :=
  fun hmem => ne_of_kind (hcs c hmem) hc rfl

end Kinds

end Text

namespace Numeral

/-! ## Hexadecimal digits -/

/-- A hexadecimal digit of either case, and its value. -/
def IsHexDigit (c : Char) (d : Nat) : Prop :=
  d < 16 ∧ (c = Nat.digitChar d ∨ c = (Nat.digitChar d).toUpper)

/-- Hexadecimal digits, and the number that they stand for. -/
inductive SpellsHex : List Char → Nat → Prop where
  | nil : SpellsHex [] 0
  | snoc {cs : List Char} {n : Nat} {c : Char} {d : Nat} (hfront : SpellsHex cs n)
      (hdigit : IsHexDigit c d) : SpellsHex (cs ++ [c]) (16 * n + d)

theorem hexDigit?_eq_some_iff {c : Char} {d : Nat} :
    hexDigit? c = some d ↔ IsHexDigit c d := by
  constructor
  · intro h
    have hascii : c.toNat < 128 := by
      unfold hexDigit? at h
      simp only [Bool.and_eq_true, decide_eq_true_eq] at h
      grind
    have hall : ∀ n < 128, ∀ d ∈ hexDigit? (Char.ofNat n), d < 16
        ∧ (Char.ofNat n = Nat.digitChar d ∨ Char.ofNat n = (Nat.digitChar d).toUpper) := by
      decide
    simpa [IsHexDigit] using hall c.toNat hascii d (by simpa using h)
  · rintro ⟨hd, hc⟩
    have hall : ∀ d < 16, hexDigit? (Nat.digitChar d) = some d
        ∧ hexDigit? (Nat.digitChar d).toUpper = some d := by
      decide
    rcases hc with rfl | rfl
    · exact (hall d hd).1
    · exact (hall d hd).2

theorem readHexFrom?_append (n : Nat) (cs ds : List Char) :
    readHexFrom? n (cs ++ ds) = (readHexFrom? n cs).bind fun m => readHexFrom? m ds := by
  induction cs generalizing n with
  | nil => rfl
  | cons c cs ih =>
      rw [List.cons_append, readHexFrom?, readHexFrom?]
      cases hexDigit? c with
      | none => rfl
      | some d => exact ih (16 * n + d)

theorem readHexFrom?_eq_some_iff {cs : List Char} {n : Nat} :
    readHexFrom? 0 cs = some n ↔ SpellsHex cs n := by
  constructor
  · intro h
    induction cs using List.reverseRecOn generalizing n with
    | nil =>
        cases h
        exact .nil
    | append_singleton cs c ih =>
        rw [readHexFrom?_append, Option.bind_eq_some_iff] at h
        obtain ⟨m, hm, hc⟩ := h
        rw [readHexFrom?, Option.bind_eq_some_iff] at hc
        obtain ⟨d, hd, hn⟩ := hc
        cases hn
        exact .snoc (ih hm) (hexDigit?_eq_some_iff.mp hd)
  · intro h
    induction h with
    | nil => rfl
    | snoc _ hdigit ih =>
        rw [readHexFrom?_append, ih, Option.bind_some, readHexFrom?,
          hexDigit?_eq_some_iff.mpr hdigit]
        rfl

theorem SpellsHex.lt {cs : List Char} {n : Nat} (h : SpellsHex cs n) : n < 16 ^ cs.length := by
  induction h with
  | nil => simp
  | snoc _ hdigit ih =>
      have := hdigit.1
      rw [List.length_append, List.length_singleton, Nat.pow_succ]
      omega

theorem spellsHex_hexadecimal (n : Nat) : SpellsHex (hexadecimal n) n := by
  induction n using Nat.strongRecOn with
  | ind n ih =>
      by_cases hn : n < 16
      · have hone := SpellsHex.snoc .nil (show IsHexDigit (Nat.digitChar n) n from ⟨hn, .inl rfl⟩)
        rw [hexadecimal, Nat.toDigits_of_lt_base hn]
        simpa using hone
      · have hlast : IsHexDigit (Nat.digitChar (n % 16)) (n % 16) :=
          ⟨Nat.mod_lt n (by decide), .inl rfl⟩
        have hmore := SpellsHex.snoc (ih (n / 16) (by omega)) hlast
        rw [hexadecimal, Nat.toDigits_of_base_le (by decide) (Nat.not_lt.mp hn)]
        rwa [Nat.div_add_mod n 16] at hmore

/-- No digit is one of the marks that separate the parts of an address. -/
theorem SpellsHex.mark_not_mem {cs : List Char} {n : Nat} (h : SpellsHex cs n) {mark : Char}
    (hmark : hexDigit? mark = none) : mark ∉ cs := by
  induction h with
  | nil => exact List.not_mem_nil
  | snoc _ hdigit ih =>
      rw [List.mem_append, List.mem_singleton]
      rintro (hmem | rfl)
      · exact ih hmem
      · rw [hexDigit?_eq_some_iff.mpr hdigit] at hmark
        cases hmark

/-! ## Decimal digits -/

theorem not_mem_decimal {c : Char} (hc : c.isDigit = false) (n : Nat) : c ∉ decimal n :=
  Text.not_mem_of_kind (fun _ => isDigit_of_mem_decimal) hc

theorem dropPlus_eq_iff {cs digits : List Char} (hdigits : '+' ∉ digits) :
    dropPlus cs = digits ↔ cs = digits ∨ cs = '+' :: digits := by
  unfold dropPlus
  split
  next rest =>
    have hne : '+' :: rest ≠ digits := by
      rintro rfl
      exact hdigits List.mem_cons_self
    simp [hne]
  next hno =>
    have hne : cs ≠ '+' :: digits := hno digits
    simp [hne]

end Numeral

namespace Net

/-! ## IPv4 -/

namespace Ipv4

/-- A part of the dotted text is the decimal text of its number. -/
theorem readPart?_eq_some_iff {cs : List Char} {b : UInt8} :
    readPart? cs = some b ↔ cs = Numeral.decimal b.toNat := by
  constructor
  · intro h
    unfold readPart? at h
    split at h
    · cases h
    next hzero =>
    obtain ⟨n, hread, hn⟩ := Option.bind_eq_some_iff.mp h
    split at hn
    next hlt =>
      obtain rfl := Option.some.inj hn
      obtain ⟨hne, hdigits, rfl⟩ := Numeral.readDecimal?_eq_some_iff.mp hread
      have hcs := Numeral.decimal_ofDigitChars hne hdigits fun hhead => by
        simpa [hhead] using hzero
      rw [UInt8.toNat_ofNat', Nat.mod_eq_of_lt hlt, hcs]
    · cases hn
  · rintro rfl
    have hb := b.toNat_lt
    have hzero : ¬ ((Numeral.decimal b.toNat).head? = some '0'
        && (Numeral.decimal b.toNat).length ≠ 1) = true := by
      by_cases h : b.toNat = 0
      · rw [h]
        decide
      · simp [Numeral.head?_decimal h]
    rw [readPart?, if_neg hzero, Numeral.readDecimal?_decimal, Option.bind_some, if_pos hb,
      UInt8.ofNat_toNat]

theorem text_eq_intercalate (ip : Ipv4) :
    ip.text = ['.'].intercalate [Numeral.decimal ip.a.toNat, Numeral.decimal ip.b.toNat,
      Numeral.decimal ip.c.toNat, Numeral.decimal ip.d.toNat] := by
  simp [text, List.intercalate_cons_cons]

/-- An IPv4 address has a single literal. -/
theorem read?_eq_some_iff {cs : List Char} {ip : Ipv4} : read? cs = some ip ↔ cs = ip.text := by
  constructor
  · intro h
    unfold read? at h
    split at h
    next p q r s hparts =>
      simp only [Option.bind_eq_bind, Option.bind_eq_some_iff, readPart?_eq_some_iff] at h
      obtain ⟨a, rfl, b, rfl, c, rfl, d, rfl, hip⟩ := h
      obtain rfl := Option.some.inj hip
      rw [← Text.intercalate_splitAll '.' cs, hparts, text_eq_intercalate]
    · cases h
  · rintro rfl
    have hdots : ∀ part ∈ [Numeral.decimal ip.a.toNat, Numeral.decimal ip.b.toNat,
        Numeral.decimal ip.c.toNat, Numeral.decimal ip.d.toNat], '.' ∉ part := by
      simp [Numeral.not_mem_decimal]
    have hread (b : UInt8) : readPart? (Numeral.decimal b.toNat) = some b :=
      readPart?_eq_some_iff.mpr rfl
    rw [read?, text_eq_intercalate, Text.splitAll_intercalate (List.cons_ne_nil _ _) hdots]
    simp [hread]

/-- The characters of the dotted text are digits and dots. -/
theorem mark_not_mem_text (ip : Ipv4) {mark : Char} (hhex : Numeral.hexDigit? mark = none)
    (hdot : mark ≠ '.') : mark ∉ ip.text := by
  have hdigit : mark.isDigit = false := by
    rw [← Bool.not_eq_true]
    intro hdigit
    obtain ⟨hlt, hchar⟩ := Numeral.digitChar_ofDigit hdigit
    have hvalue : Numeral.IsHexDigit mark (mark.toNat - 48) := ⟨by omega, .inl hchar.symm⟩
    rw [Numeral.hexDigit?_eq_some_iff.mpr hvalue] at hhex
    cases hhex
  simp [text, Numeral.not_mem_decimal hdigit, hdot]

theorem colon_not_mem_text (ip : Ipv4) : ':' ∉ ip.text :=
  ip.mark_not_mem_text rfl (by decide)

theorem text_ne_nil (ip : Ipv4) : ip.text ≠ [] := by
  simp [text]

theorem octets_injective {ip ip' : Ipv4} (h : ip.octets = ip'.octets) : ip = ip' := by
  obtain ⟨a, b, c, d⟩ := ip
  obtain ⟨a', b', c', d'⟩ := ip'
  cases h
  rfl

end Ipv4

/-! ## IPv6 -/

namespace Ipv6

/-- One to four hexadecimal digits, with the value of the group. -/
structure SpellsGroup (cs : List Char) (g : UInt16) : Prop where
  length : 1 ≤ cs.length ∧ cs.length ≤ 4
  value : Numeral.SpellsHex cs g.toNat

/-- Parts between colons, and the groups that they stand for. If `dotted` holds, the last part may
be an IPv4 address. -/
inductive SpellsParts (dotted : Bool) : List (List Char) → List UInt16 → Prop where
  | group {part : List Char} {g : UInt16} (hgroup : SpellsGroup part g) :
      SpellsParts dotted [part] [g]
  | ipv4 (hdotted : dotted = true) (ip : Ipv4) : SpellsParts dotted [ip.text] (embed ip)
  | cons {part : List Char} {g : UInt16} {parts : List (List Char)} {groups : List UInt16}
      (hgroup : SpellsGroup part g) (hparts : SpellsParts dotted parts groups) :
      SpellsParts dotted (part :: parts) (g :: groups)

/-- One side of `::`, which may be empty. -/
inductive SpellsSide (dotted : Bool) : List Char → List UInt16 → Prop where
  | empty : SpellsSide dotted [] []
  | parts {cs : List Char} {parts : List (List Char)} {groups : List UInt16}
      (hparts : SpellsParts dotted parts groups) (hcs : cs = [':'].intercalate parts) :
      SpellsSide dotted cs groups

/-- The literals of an address: all of its groups, or `::` in place of one or more groups that are
zero. An IPv4 address may stand at the end only. -/
inductive Spells : List Char → Ipv6 → Prop where
  | full {parts : List (List Char)} {ip : Ipv6} (hparts : SpellsParts true parts ip.groups) :
      Spells ([':'].intercalate parts) ip
  | gap {before after : List Char} {front back : List UInt16} {zeros : Nat} {ip : Ipv6}
      (hbefore : SpellsSide false before front) (hafter : SpellsSide true after back)
      (hzeros : 1 ≤ zeros) (hgroups : ip.groups = front ++ List.replicate zeros 0 ++ back) :
      Spells (before ++ ':' :: ':' :: after) ip

theorem readGroup?_eq_some_iff {cs : List Char} {g : UInt16} :
    readGroup? cs = some g ↔ SpellsGroup cs g := by
  have hread : Numeral.readHex? cs = if cs = [] then none else Numeral.readHexFrom? 0 cs := by
    simp [Numeral.readHex?]
  constructor
  · intro h
    unfold readGroup? at h
    split at h
    next hlength =>
      obtain ⟨n, hn, rfl⟩ := Option.map_eq_some_iff.mp h
      rw [hread] at hn
      split at hn
      · cases hn
      next hne =>
      have hvalue := Numeral.readHexFrom?_eq_some_iff.mp hn
      have hlt : n < UInt16.size :=
        Nat.lt_of_lt_of_le hvalue.lt (Nat.pow_le_pow_right (by decide) hlength)
      refine ⟨⟨List.length_pos_iff.mpr hne, hlength⟩, ?_⟩
      rwa [UInt16.toNat_ofNat_of_lt' hlt]
    · cases h
  · rintro ⟨⟨hpos, hlength⟩, hvalue⟩
    rw [readGroup?, if_pos hlength, hread, if_neg (List.length_pos_iff.mp hpos),
      Numeral.readHexFrom?_eq_some_iff.mpr hvalue, Option.map_some, UInt16.ofNat_toNat]

/-- What is written for a group. -/
theorem spellsGroup_hexadecimal (g : UInt16) : SpellsGroup (Numeral.hexadecimal g.toNat) g := by
  have hshort : (Numeral.hexadecimal g.toNat).length ≤ 4 :=
    (Nat.length_toDigits_le_iff (by decide) (by decide)).mpr g.toNat_lt
  exact ⟨⟨Nat.length_toDigits_pos, hshort⟩, Numeral.spellsHex_hexadecimal g.toNat⟩

theorem SpellsGroup.ne_nil {cs : List Char} {g : UInt16} (h : SpellsGroup cs g) : cs ≠ [] :=
  List.length_pos_iff.mp h.length.1

theorem SpellsGroup.colon_not_mem {cs : List Char} {g : UInt16} (h : SpellsGroup cs g) :
    ':' ∉ cs :=
  h.value.mark_not_mem rfl

/-- An IPv4 address is no group, for it has dots. -/
theorem SpellsGroup.ne_text {cs : List Char} {g : UInt16} (h : SpellsGroup cs g) (ip : Ipv4) :
    cs ≠ ip.text := by
  rintro rfl
  have hdot : '.' ∉ ip.text := h.value.mark_not_mem rfl
  exact hdot (by simp [Ipv4.text])

/-! ### Parts -/

theorem SpellsParts.ne_nil {dotted : Bool} {parts : List (List Char)} {groups : List UInt16}
    (h : SpellsParts dotted parts groups) : parts ≠ [] := by
  cases h <;> exact List.cons_ne_nil _ _

/-- The last part by itself: an IPv4 address is looked for first. -/
theorem readParts?_singleton (dotted : Bool) (part : List Char) {groups : List UInt16} :
    readParts? dotted [part] = some groups ↔ SpellsParts dotted [part] groups := by
  constructor
  · intro h
    simp only [readParts?] at h
    split at h
    next ip hip =>
      obtain rfl := Option.some.inj h
      split at hip
      next hdotted =>
        obtain rfl := Ipv4.read?_eq_some_iff.mp hip
        exact .ipv4 hdotted ip
      · cases hip
    next hip =>
      obtain ⟨g, hg, rfl⟩ := Option.map_eq_some_iff.mp h
      exact .group (readGroup?_eq_some_iff.mp hg)
  · intro h
    cases h with
    | group hgroup =>
        have hno : Ipv4.read? part = none :=
          Option.eq_none_iff_forall_ne_some.mpr fun ip hip =>
            hgroup.ne_text ip (Ipv4.read?_eq_some_iff.mp hip)
        simp [readParts?, hno, readGroup?_eq_some_iff.mpr hgroup]
    | ipv4 hdotted ip => simp [readParts?, hdotted, Ipv4.read?_eq_some_iff.mpr rfl]
    | cons _ hparts => exact absurd rfl hparts.ne_nil

theorem readParts?_eq_some_iff {dotted : Bool} {parts : List (List Char)}
    {groups : List UInt16} (hne : parts ≠ []) :
    readParts? dotted parts = some groups ↔ SpellsParts dotted parts groups := by
  induction parts generalizing groups with
  | nil => exact absurd rfl hne
  | cons part parts ih =>
      cases parts with
      | nil => exact readParts?_singleton dotted part
      | cons next parts =>
          simp only [readParts?, Option.bind_eq_bind, Option.bind_eq_some_iff,
            readGroup?_eq_some_iff, ih (List.cons_ne_nil _ _)]
          constructor
          · rintro ⟨g, hgroup, gs, hparts, ⟨⟩⟩
            exact .cons hgroup hparts
          · intro h
            cases h with
            | cons hgroup hparts => exact ⟨_, hgroup, _, hparts, rfl⟩

theorem SpellsParts.part {dotted : Bool} {parts : List (List Char)} {groups : List UInt16}
    (h : SpellsParts dotted parts groups) : ∀ part ∈ parts, part ≠ [] ∧ ':' ∉ part := by
  induction h with
  | group hgroup => simp [hgroup.ne_nil, hgroup.colon_not_mem]
  | ipv4 _ ip => simp [ip.text_ne_nil, ip.colon_not_mem_text]
  | cons hgroup _ ih =>
      rw [List.forall_mem_cons]
      exact ⟨⟨hgroup.ne_nil, hgroup.colon_not_mem⟩, ih⟩

/-- A text that is split at its colons. -/
theorem readParts?_splitAll {dotted : Bool} {cs : List Char} {groups : List UInt16} :
    readParts? dotted (Text.splitAll ':' cs) = some groups ↔
      ∃ parts, SpellsParts dotted parts groups ∧ cs = [':'].intercalate parts := by
  rw [readParts?_eq_some_iff (Text.splitAll_ne_nil ':' cs)]
  constructor
  · exact fun h => ⟨_, h, (Text.intercalate_splitAll ':' cs).symm⟩
  · rintro ⟨parts, hparts, rfl⟩
    rwa [Text.splitAll_intercalate hparts.ne_nil fun part hpart => (hparts.part part hpart).2]

theorem SpellsParts.intercalate_ne_nil {dotted : Bool} {parts : List (List Char)}
    {groups : List UInt16} (h : SpellsParts dotted parts groups) :
    [':'].intercalate parts ≠ [] := by
  obtain ⟨part, others, rfl⟩ := List.exists_cons_of_ne_nil h.ne_nil
  have hpart := (h.part part List.mem_cons_self).1
  cases others <;> simp [List.intercalate_cons_cons, hpart]

theorem readSide?_eq_some_iff {dotted : Bool} {cs : List Char} {groups : List UInt16} :
    readSide? dotted cs = some groups ↔ SpellsSide dotted cs groups := by
  by_cases hcs : cs = []
  · subst hcs
    constructor
    · rintro ⟨⟩
      exact .empty
    · rintro (_ | ⟨hparts, hnil⟩)
      · rfl
      · exact absurd hnil.symm hparts.intercalate_ne_nil
  · have hread : readSide? dotted cs = readParts? dotted (Text.splitAll ':' cs) := by
      simp [readSide?, hcs]
    rw [hread, readParts?_splitAll]
    constructor
    · rintro ⟨parts, hparts, heq⟩
      exact .parts hparts heq
    · rintro (_ | ⟨hparts, heq⟩)
      · exact absurd rfl hcs
      · exact ⟨_, hparts, heq⟩

/-- Where there are more groups than the last part can stand for, there is a colon. -/
theorem SpellsParts.colon_mem {dotted : Bool} {parts : List (List Char)} {groups : List UInt16}
    (h : SpellsParts dotted parts groups) (hmany : 2 < groups.length) :
    ':' ∈ [':'].intercalate parts := by
  cases h with
  | group => simp at hmany
  | ipv4 => simp [embed] at hmany
  | cons _ hparts =>
      obtain ⟨next, others, rfl⟩ := List.exists_cons_of_ne_nil hparts.ne_nil
      simp [List.intercalate_cons_cons]

/-- The characters of the parts are digits and dots. -/
theorem SpellsParts.mark_not_mem {dotted : Bool} {parts : List (List Char)}
    {groups : List UInt16} (h : SpellsParts dotted parts groups) {mark : Char}
    (hhex : Numeral.hexDigit? mark = none) (hdot : mark ≠ '.') : ∀ part ∈ parts, mark ∉ part := by
  induction h with
  | group hgroup => simpa using hgroup.value.mark_not_mem hhex
  | ipv4 _ ip => simpa using ip.mark_not_mem_text hhex hdot
  | cons hgroup _ ih => exact List.forall_mem_cons.mpr ⟨hgroup.value.mark_not_mem hhex, ih⟩

theorem not_mem_intercalate {sep mark : Char} (hsep : mark ≠ sep) {parts : List (List Char)}
    (hparts : ∀ part ∈ parts, mark ∉ part) : mark ∉ [sep].intercalate parts := by
  induction parts with
  | nil => exact List.not_mem_nil
  | cons part parts ih =>
      obtain ⟨hpart, hothers⟩ := List.forall_mem_cons.mp hparts
      cases parts with
      | nil => simpa using hpart
      | cons next parts => simp [List.intercalate_cons_cons, hpart, hsep, ih hothers]

theorem SpellsSide.mark_not_mem {dotted : Bool} {cs : List Char} {groups : List UInt16}
    (h : SpellsSide dotted cs groups) {mark : Char} (hhex : Numeral.hexDigit? mark = none)
    (hdot : mark ≠ '.') (hcolon : mark ≠ ':') : mark ∉ cs := by
  cases h with
  | empty => exact List.not_mem_nil
  | parts hparts hcs =>
      rw [hcs]
      exact not_mem_intercalate hcolon (hparts.mark_not_mem hhex hdot)

/-! ### The gap -/

theorem eq_of_splitGap? {cs before after : List Char} (h : splitGap? cs = some (before, after)) :
    cs = before ++ ':' :: ':' :: after := by
  fun_induction splitGap? cs generalizing before after with
  | case1 cs =>
      cases h
      rfl
  | case2 c cs _ ih =>
      obtain ⟨⟨a, b⟩, hab, heq⟩ := Option.map_eq_some_iff.mp h
      cases heq
      rw [ih hab, List.cons_append]
  | case3 => cases h

/-- A gap is looked for behind text that has no colon. -/
theorem splitGap?_append {part : List Char} (hpart : ':' ∉ part) (rest : List Char) :
    splitGap? (part ++ rest) = (splitGap? rest).map fun (a, b) => (part ++ a, b) := by
  induction part with
  | nil => simp
  | cons c part ih =>
      have hc : c ≠ ':' := (List.ne_of_not_mem_cons hpart).symm
      have hstep : splitGap? (c :: (part ++ rest)) =
          (splitGap? (part ++ rest)).map fun (a, b) => (c :: a, b) := by
        rw [splitGap?]
        rintro _ rfl -
        exact hc rfl
      rw [List.cons_append, hstep, ih (List.not_mem_of_not_mem_cons hpart), Option.map_map]
      rfl

/-- A single colon is no gap. -/
theorem splitGap?_colon {cs : List Char} (hcs : cs.head? ≠ some ':') :
    splitGap? (':' :: cs) = (splitGap? cs).map fun (a, b) => (':' :: a, b) := by
  rw [splitGap?]
  rintro rest - rfl
  exact hcs rfl

/-- No gap is within the parts between colons. -/
theorem splitGap?_intercalate {parts : List (List Char)} (hne : parts ≠ [])
    (hparts : ∀ part ∈ parts, part ≠ [] ∧ ':' ∉ part) (rest : List Char) :
    splitGap? ([':'].intercalate parts ++ rest) =
      (splitGap? rest).map fun (a, b) => ([':'].intercalate parts ++ a, b) := by
  induction parts with
  | nil => exact absurd rfl hne
  | cons part parts ih =>
      obtain ⟨⟨-, hpart⟩, hothers⟩ := List.forall_mem_cons.mp hparts
      cases parts with
      | nil => simpa using splitGap?_append hpart rest
      | cons next parts =>
          have hhead : ([':'].intercalate (next :: parts) ++ rest).head? ≠ some ':' := by
            obtain ⟨⟨hnonempty, hnext⟩, -⟩ := List.forall_mem_cons.mp hothers
            obtain ⟨c, cs, rfl⟩ := List.exists_cons_of_ne_nil hnonempty
            have hc : c ≠ ':' := (List.ne_of_not_mem_cons hnext).symm
            cases parts <;> simpa [List.intercalate_cons_cons] using hc
          rw [List.intercalate_cons_cons, List.append_assoc, List.append_assoc,
            List.singleton_append, splitGap?_append hpart, splitGap?_colon hhead,
            ih (List.cons_ne_nil _ _) hothers, Option.map_map, Option.map_map]
          congr 1
          funext ⟨a, b⟩
          simp

theorem SpellsParts.splitGap?_eq_none {dotted : Bool} {parts : List (List Char)}
    {groups : List UInt16} (h : SpellsParts dotted parts groups) :
    splitGap? ([':'].intercalate parts) = none := by
  have hnone := splitGap?_intercalate h.ne_nil h.part []
  rwa [List.append_nil] at hnone

theorem SpellsSide.splitGap? {dotted : Bool} {before : List Char} {groups : List UInt16}
    (h : SpellsSide dotted before groups) (after : List Char) :
    splitGap? (before ++ ':' :: ':' :: after) = some (before, after) := by
  cases h with
  | empty => rfl
  | parts hparts hcs =>
      rw [hcs, splitGap?_intercalate hparts.ne_nil hparts.part]
      simp [Ipv6.splitGap?]

/-! ### Literals -/

theorem ofGroups?_eq_some_iff {groups : List UInt16} {ip : Ipv6} :
    ofGroups? groups = some ip ↔ ip.groups = groups := by
  obtain ⟨groups', hlength⟩ := ip
  unfold ofGroups?
  constructor
  · intro h
    split at h
    · cases h
      rfl
    · cases h
  · rintro rfl
    rw [dif_pos hlength]

/-- The reader of IPv6 addresses accepts their literals and nothing else. -/
theorem read?_eq_some_iff {cs : List Char} {ip : Ipv6} : read? cs = some ip ↔ Spells cs ip := by
  constructor
  · intro h
    unfold read? at h
    split at h
    · obtain ⟨groups, hgroups, hip⟩ := Option.bind_eq_some_iff.mp h
      obtain ⟨parts, hparts, rfl⟩ := readParts?_splitAll.mp hgroups
      obtain rfl := ofGroups?_eq_some_iff.mp hip
      exact .full hparts
    next before after hgap =>
      simp only [Option.bind_eq_bind, Option.bind_eq_some_iff, readSide?_eq_some_iff] at h
      obtain ⟨front, hfront, back, hback, hip⟩ := h
      split at hip
      next hlength =>
        rw [eq_of_splitGap? hgap]
        exact .gap hfront hback (by omega) (ofGroups?_eq_some_iff.mp hip)
      · cases hip
  · rintro (hparts | ⟨hbefore, hafter, hzeros, hgroups⟩)
    · rw [read?, hparts.splitGap?_eq_none]
      show (readParts? true _).bind ofGroups? = some ip
      rw [readParts?_splitAll.mpr ⟨_, hparts, rfl⟩]
      exact ofGroups?_eq_some_iff.mpr rfl
    next before after front back zeros =>
      have hlength := congrArg List.length hgroups
      simp only [ip.length_groups, List.length_append, List.length_replicate] at hlength
      have hfew : front.length + back.length ≤ 7 := by omega
      have hrest : 8 - front.length - back.length = zeros := by omega
      rw [read?, hbefore.splitGap?]
      simp only [readSide?_eq_some_iff.mpr hbefore, readSide?_eq_some_iff.mpr hafter,
        Option.bind_eq_bind, Option.bind_some, if_pos hfew, hrest]
      exact ofGroups?_eq_some_iff.mpr hgroups

/-- A literal stands for one address only. -/
theorem Spells.unique {cs : List Char} {ip ip' : Ipv6} (h : Spells cs ip) (h' : Spells cs ip') :
    ip = ip' :=
  Option.some.inj ((read?_eq_some_iff.mpr h).symm.trans (read?_eq_some_iff.mpr h'))

theorem Spells.colon_mem {cs : List Char} {ip : Ipv6} (h : Spells cs ip) : ':' ∈ cs := by
  cases h with
  | full hparts => exact hparts.colon_mem (by simp [ip.length_groups])
  | gap => simp

theorem Spells.mark_not_mem {cs : List Char} {ip : Ipv6} (h : Spells cs ip) {mark : Char}
    (hhex : Numeral.hexDigit? mark = none) (hdot : mark ≠ '.') (hcolon : mark ≠ ':') :
    mark ∉ cs := by
  cases h with
  | full hparts => exact not_mem_intercalate hcolon (hparts.mark_not_mem hhex hdot)
  | gap hbefore hafter =>
      simp [hbefore.mark_not_mem hhex hdot hcolon, hafter.mark_not_mem hhex hdot hcolon, hcolon]

/-! ### Octets -/

theorem flatMap_groupOctets_injective {gs gs' : List UInt16}
    (h : gs.flatMap groupOctets = gs'.flatMap groupOctets) : gs = gs' := by
  induction gs generalizing gs' with
  | nil =>
      cases gs' with
      | nil => rfl
      | cons g' gs' => cases h
  | cons g gs ih =>
      cases gs' with
      | nil => cases h
      | cons g' gs' =>
          simp only [List.flatMap_cons, groupOctets, List.cons_append, List.nil_append,
            List.cons.injEq] at h
          obtain ⟨hhigh, hlow, hothers⟩ := h
          rw [← groupOf_octets g, hhigh, hlow, groupOf_octets, ih hothers]

theorem octets_injective {ip ip' : Ipv6} (h : ip.octets = ip'.octets) : ip = ip' := by
  obtain ⟨groups, hlength⟩ := ip
  obtain ⟨groups', hlength'⟩ := ip'
  obtain rfl : groups = groups' := flatMap_groupOctets_injective h
  rfl

/-- The address is IPv4-mapped: it has the octets of an IPv4 address behind `::ffff:0:0/96`. -/
def Carries (ip : Ipv6) (v4 : Ipv4) : Prop :=
  ip.octets = List.replicate 10 0 ++ [0xFF, 0xFF] ++ v4.octets

theorem toMapped?_eq_some_iff_groups {ip : Ipv6} {v4 : Ipv4} :
    ip.toMapped? = some v4 ↔ ip.groups = [0, 0, 0, 0, 0, 0xFFFF] ++ embed v4 := by
  unfold toMapped?
  constructor
  · intro h
    split at h
    next g k hgroups =>
      obtain rfl := Option.some.inj h
      rw [hgroups, embed, groupOf_octets, groupOf_octets]
      rfl
    · cases h
  · intro h
    rw [h, embed]
    have hfirst := groupOctets_groupOf v4.a v4.b
    have hsecond := groupOctets_groupOf v4.c v4.d
    simp only [groupOctets, List.cons.injEq, and_true] at hfirst hsecond
    simp [hfirst, hsecond]

theorem toMapped?_eq_some_iff {ip : Ipv6} {v4 : Ipv4} :
    ip.toMapped? = some v4 ↔ ip.Carries v4 := by
  have hoctets : ([0, 0, 0, 0, 0, 0xFFFF] ++ embed v4).flatMap groupOctets
      = List.replicate 10 0 ++ [0xFF, 0xFF] ++ v4.octets := by
    simp only [embed, List.flatMap_append, List.flatMap_cons, List.flatMap_nil, groupOctets_groupOf]
    rfl
  rw [toMapped?_eq_some_iff_groups, Carries, octets, ← hoctets]
  exact ⟨fun h => congrArg _ h, flatMap_groupOctets_injective⟩

/-! ### The printed text -/

/-- The run that is found is a run of zero groups, if it is not empty. -/
theorem longestRun_eq (start : Nat) (best : Nat × Nat) (groups : List UInt16) :
    longestRun start best groups = best
      ∨ ∃ i, longestRun start best groups = (start + i, zeroRun (groups.drop i)) := by
  induction groups generalizing start best with
  | nil => exact .inl rfl
  | cons g groups ih =>
      rw [longestRun]
      rcases ih (start + 1) (if best.2 < zeroRun (g :: groups) then (start, zeroRun (g :: groups))
        else best) with h | ⟨i, h⟩
      · rw [h]
        split
        · exact .inr ⟨0, rfl⟩
        · exact .inl rfl
      · refine .inr ⟨i + 1, ?_⟩
        rw [h, List.drop_succ_cons]
        congr 1
        omega

theorem zeroRun_append (groups : List UInt16) :
    groups = List.replicate (zeroRun groups) 0 ++ groups.drop (zeroRun groups) := by
  induction groups with
  | nil => rfl
  | cons g groups ih =>
      by_cases hg : g = 0
      · have hrun : zeroRun (g :: groups) = zeroRun groups + 1 := by simp [zeroRun, hg]
        rw [hrun, List.replicate_succ, List.drop_succ_cons, List.cons_append, ← ih, hg]
      · have hrun : zeroRun (g :: groups) = 0 := by simp [zeroRun, hg]
        rw [hrun]
        rfl

theorem spellsParts_hexadecimal (dotted : Bool) {groups : List UInt16} (hne : groups ≠ []) :
    SpellsParts dotted (groups.map fun g => Numeral.hexadecimal g.toNat) groups := by
  induction groups with
  | nil => exact absurd rfl hne
  | cons g groups ih =>
      cases groups with
      | nil => exact .group (spellsGroup_hexadecimal g)
      | cons next groups => exact .cons (spellsGroup_hexadecimal g) (ih (List.cons_ne_nil _ _))

theorem spellsSide_groupsText (dotted : Bool) (groups : List UInt16) :
    SpellsSide dotted (groupsText groups) groups := by
  by_cases hne : groups = []
  · subst hne
    exact .empty
  · exact .parts (spellsParts_hexadecimal dotted hne) rfl

/-- What is printed for an address is one of its literals. -/
theorem spells_text (ip : Ipv6) : Spells ip.text ip := by
  unfold text
  cases hmapped : ip.toMapped? with
  | some v4 =>
      have hgroup : SpellsGroup ['f', 'f', 'f', 'f'] 0xFFFF := spellsGroup_hexadecimal 0xFFFF
      have hback : SpellsSide true (['f', 'f', 'f', 'f', ':'] ++ v4.text) (0xFFFF :: embed v4) :=
        .parts (.cons hgroup (.ipv4 rfl v4)) (by simp [List.intercalate_cons_cons])
      have hgroups : ip.groups = [] ++ List.replicate 5 0 ++ 0xFFFF :: embed v4 :=
        toMapped?_eq_some_iff_groups.mp hmapped
      exact .gap .empty hback (by decide) hgroups
  | none =>
      rcases hrun : longestRun 0 (0, 0) ip.groups with ⟨start, run⟩
      simp only
      split
      · have hne : ip.groups ≠ [] := List.ne_nil_of_length_eq_add_one ip.length_groups
        exact .full (spellsParts_hexadecimal true hne)
      next hlong =>
        rw [List.append_assoc]
        refine .gap (spellsSide_groupsText false _) (spellsSide_groupsText true _)
          (Nat.le_of_lt (Nat.not_le.mp hlong)) ?_
        rcases longestRun_eq 0 (0, 0) ip.groups with h | ⟨i, h⟩
        · rw [hrun] at h
          cases h
          exact absurd (by decide) hlong
        · obtain ⟨rfl, rfl⟩ := Prod.mk.inj (hrun.symm.trans h)
          rw [Nat.zero_add, ← List.drop_drop, List.append_assoc, ← zeroRun_append,
            List.take_append_drop]

end Ipv6

end Net

end SocksMonitor
