import Mathlib.Data.List.Pairwise
import Mathlib.Data.List.TakeWhile
import SocksMonitor.CommandLine.Command
import SocksMonitor.Proofs.Literals

/-!
# Options in their spellings

An option can be given in several ways: `OptionForm.Spells` lists them, and `Gives` is for arguments
that give options one after another. The reader goes through the arguments from left to right and
may need two of them for one option. Here one option is followed through the reader
(`readOptions_spells`), and then all of them, so that what arguments mean does not depend on how
they are spelled or in which order they come (`readOptions_gives`).

The lemmas are about any options that can be told apart (`Distinct`), as those of every command can.
-/

namespace SocksMonitor.CommandLine

/-! ## Spellings -/

/-- The text does not begin like an option. -/
def IsWord (value : String) : Prop := ∀ cs, value.toList = '-' :: cs → cs = []

/-- The option has a value, and takes this one. -/
def OptionForm.Takes (option : OptionForm) (value : String) : Prop :=
  ∃ accepts, option.kind = .value accepts ∧ accepts value = true

/-- The arguments that give an option with its value. -/
inductive OptionForm.Spells (option : OptionForm) : String → List String → Prop where
  | flag (hkind : option.kind = .flag) : Spells option "" ["--" ++ option.name]
  | joined {value : String} (htakes : option.Takes value) :
      Spells option value ["--" ++ option.name ++ "=" ++ value]
  | apart {value : String} (htakes : option.Takes value) (hword : IsWord value) :
      Spells option value ["--" ++ option.name, value]
  | letterEquals {value : String} {c : Char} (htakes : option.Takes value)
      (hletter : option.letter = some c) :
      Spells option value [String.ofList ('-' :: c :: '=' :: value.toList)]
  | letterJoined {value : String} {c d : Char} {cs : List Char} (htakes : option.Takes value)
      (hletter : option.letter = some c) (hvalue : value.toList = d :: cs) (hequals : d ≠ '=') :
      Spells option value [String.ofList ('-' :: c :: value.toList)]
  | letterApart {value : String} {c : Char} (htakes : option.Takes value)
      (hletter : option.letter = some c) (hword : IsWord value) :
      Spells option value [String.ofList ['-', c], value]

/-- Arguments that give options, and the names and values of these. A separator may end them. -/
inductive Gives (options : List OptionForm) : Given → List String → Prop where
  | none : Gives options [] []
  | separator : Gives options [] ["--"]
  | more {option : OptionForm} {value : String} {front rest : List String} {given : Given}
      (hmem : option ∈ options) (hspells : option.Spells value front)
      (hrest : Gives options given rest) :
      Gives options ((option.name, value) :: given) (front ++ rest)

/-- Neither name nor letter is common to both options. -/
def OptionForm.Apart (o o' : OptionForm) : Prop :=
  o.name ≠ o'.name ∧ (o.letter = o'.letter → o.letter = none)

instance : DecidableRel OptionForm.Apart := fun _ _ => inferInstanceAs (Decidable (_ ∧ _))

instance : Std.Symm OptionForm.Apart where
  symm _ _ h := ⟨h.1.symm, fun hletter => hletter.trans (h.2 hletter.symm)⟩

/-- Options that can be told apart, in arguments too. -/
structure Distinct (options : List OptionForm) : Prop where
  apart : options.Pairwise OptionForm.Apart
  name : ∀ o ∈ options, o.name ≠ "" ∧ '=' ∉ o.name.toList
  letter : ∀ o ∈ options, o.letter ≠ some '-'

theorem distinct_probeOptions : Distinct probeOptions where
  apart := by decide
  name := by decide
  letter := by decide

theorem readMillis?_decimalText {ms : Nat} (h : ms < UInt64.size) :
    readMillis? (Numeral.decimalText ms) = some ms := by
  have hplus : '+' ∉ Numeral.decimal ms := Numeral.not_mem_decimal rfl ms
  have hdrop := (Numeral.dropPlus_eq_iff hplus).mpr (.inl rfl)
  rw [readMillis?, Numeral.decimalText, String.toList_ofList, hdrop,
    Numeral.readDecimal?_decimal, Option.filter_some, if_pos (by simpa using h)]

/-! ## Shapes -/

theorem shape_of_isWord {value : String} (h : IsWord value) : shape value = .word := by
  unfold shape
  split
  next hvalue => cases h _ hvalue
  next hvalue => cases h _ hvalue
  next hvalue => cases h _ hvalue
  · rfl

theorem shape_letters {c : Char} (hc : c ≠ '-') (cs : List Char) :
    shape (String.ofList ('-' :: c :: cs)) = .letters (c :: cs) := by
  simp [shape, hc]

theorem splitLong_of_not_mem {name : List Char} (hname : '=' ∉ name) :
    splitLong name = .long (String.ofList name) none := by
  have htake : name.takeWhile (· != '=') = name :=
    List.takeWhile_eq_self_iff.mpr fun c hc => bne_iff_ne.mpr fun h => hname (h ▸ hc)
  have hdrop : name.dropWhile (· != '=') = [] :=
    List.dropWhile_eq_nil_iff.mpr fun c hc => bne_iff_ne.mpr fun h => hname (h ▸ hc)
  simp [splitLong, htake, hdrop]

theorem splitLong_append {name : List Char} (hname : '=' ∉ name) (value : List Char) :
    splitLong (name ++ '=' :: value) = .long (String.ofList name) (some (String.ofList value)) := by
  have hall : ∀ c ∈ name, (c != '=') = true := fun c hc => bne_iff_ne.mpr fun h => hname (h ▸ hc)
  simp [splitLong, List.takeWhile_append_of_pos hall, List.dropWhile_append_of_pos hall]

theorem shape_long {cs : List Char} (hcs : cs ≠ []) :
    shape ("--" ++ String.ofList cs) = splitLong cs := by
  obtain ⟨c, cs, rfl⟩ := List.exists_cons_of_ne_nil hcs
  simp [shape]

/-! ## Reading one option -/

section Step

variable {options : List OptionForm} {option : OptionForm} {value : String} {given : Given}

theorem find?_of_unique {p : OptionForm → Bool} (hmem : option ∈ options) (hp : p option = true)
    (hunique : ∀ o ∈ options, p o = true → o = option) : options.find? p = some option := by
  obtain ⟨found, hfound⟩ := Option.isSome_iff_exists.mp (List.find?_isSome.mpr ⟨option, hmem, hp⟩)
  rw [hfound, hunique found (List.mem_of_find?_eq_some hfound) (List.find?_some hfound)]

theorem find?_name (h : Distinct options) (hmem : option ∈ options) :
    options.find? (·.name == option.name) = some option := by
  refine find?_of_unique hmem (beq_self_eq_true _) fun o ho hname => ?_
  by_contra hne
  exact (h.apart.forall ho hmem hne).1 (beq_iff_eq.mp hname)

theorem find?_letter (h : Distinct options) (hmem : option ∈ options) {c : Char}
    (hletter : option.letter = some c) : options.find? (·.letter == some c) = some option := by
  refine find?_of_unique hmem (beq_iff_eq.mpr hletter) fun o ho hsame => ?_
  by_contra hne
  have hnone := (h.apart.forall ho hmem hne).2 ((beq_iff_eq.mp hsame).trans hletter.symm)
  rw [hnone] at hsame
  cases hsame

theorem add_of_takes (htakes : option.Takes value) (hnew : given.lookup option.name = none) :
    given.add option value = .ok ((option.name, value) :: given) := by
  obtain ⟨accepts, hkind, haccepts⟩ := htakes
  simp [Given.add, hnew, hkind, haccepts]

theorem shape_name (h : Distinct options) (hmem : option ∈ options) :
    shape ("--" ++ option.name) = .long option.name none := by
  obtain ⟨hname, hequals⟩ := h.name option hmem
  have hne : option.name.toList ≠ [] := fun h => hname (String.toList_eq_nil_iff.mp h)
  rw [← String.ofList_toList (s := option.name), shape_long hne, splitLong_of_not_mem hequals]

theorem shape_name_value (h : Distinct options) (hmem : option ∈ options) (value : String) :
    shape ("--" ++ option.name ++ "=" ++ value) = .long option.name (some value) := by
  obtain ⟨-, hequals⟩ := h.name option hmem
  have htext : "--" ++ option.name ++ "=" ++ value =
      "--" ++ String.ofList (option.name.toList ++ '=' :: value.toList) := by
    rw [← String.toList_inj]
    simp
  rw [htext, shape_long (by simp), splitLong_append hequals, String.ofList_toList,
    String.ofList_toList]

theorem shape_letter (h : Distinct options) (hmem : option ∈ options) {c : Char}
    (hletter : option.letter = some c) (cs : List Char) :
    shape (String.ofList ('-' :: c :: cs)) = .letters (c :: cs) := by
  refine shape_letters ?_ cs
  rintro rfl
  exact h.letter option hmem hletter

theorem shape_letter_ne_separator (h : Distinct options) (hmem : option ∈ options) {c : Char}
    (hletter : option.letter = some c) (cs : List Char) :
    shape (String.ofList ('-' :: c :: cs)) ≠ .separator := by
  rw [shape_letter h hmem hletter]
  nofun

theorem readArgument_letter (h : Distinct options) (hmem : option ∈ options) {c : Char}
    (hletter : option.letter = some c) (htakes : option.Takes value) (cs : List Char) :
    readArgument options given (String.ofList ('-' :: c :: cs)) =
      if cs.isEmpty then .ok (.pending option) else (given.add option (attached cs)).map .done := by
  obtain ⟨_, hkind, -⟩ := htakes
  rw [readArgument, shape_letter h hmem hletter]
  simp only [readLetters, find?_letter h hmem hletter, hkind]

/-- An argument that gives an option with its value. -/
theorem readOptions_done {arg : String} {given' : Given} (hshape : shape arg ≠ .separator)
    (hread : readArgument options given arg = .ok (.done given')) (rest : List String) :
    readOptions options given (arg :: rest) = readOptions options given' rest := by
  rw [readOptions, if_neg hshape, hread]

/-- An argument that gives an option, and one that gives the value. -/
theorem readOptions_pending {arg : String} (hshape : shape arg ≠ .separator)
    (hread : readArgument options given arg = .ok (.pending option)) (hword : IsWord value)
    (htakes : option.Takes value) (hnew : given.lookup option.name = none) (rest : List String) :
    readOptions options given (arg :: value :: rest) =
      readOptions options ((option.name, value) :: given) rest := by
  rw [readOptions, if_neg hshape, hread]
  simp only [if_pos (shape_of_isWord hword), add_of_takes htakes hnew]

/-- Whatever its spelling, an option that is new comes to be given, and the reading goes on. -/
theorem readOptions_spells (h : Distinct options) (hmem : option ∈ options) {front : List String}
    (hspells : option.Spells value front) (hnew : given.lookup option.name = none)
    (rest : List String) :
    readOptions options given (front ++ rest) =
      readOptions options ((option.name, value) :: given) rest := by
  have hfind := find?_name h hmem
  have hname := shape_name h hmem
  cases hspells with
  | flag hkind =>
      refine readOptions_done (by simp [hname]) ?_ rest
      simp [readArgument, hname, readLong, hfind, hkind, Given.add, hnew, Except.map]
  | joined htakes =>
      have hshape := shape_name_value h hmem value
      refine readOptions_done (by simp [hshape]) ?_ rest
      obtain ⟨_, hkind, -⟩ := id htakes
      simp [readArgument, hshape, readLong, hfind, hkind, add_of_takes htakes hnew, Except.map]
  | apart htakes hword =>
      refine readOptions_pending (by simp [hname]) ?_ hword htakes hnew rest
      obtain ⟨_, hkind, -⟩ := htakes
      simp [readArgument, hname, readLong, hfind, hkind]
  | letterEquals htakes hletter =>
      refine readOptions_done (shape_letter_ne_separator h hmem hletter _) ?_ rest
      rw [readArgument_letter h hmem hletter htakes, if_neg (by simp), attached,
        String.ofList_toList, add_of_takes htakes hnew]
      rfl
  | letterJoined htakes hletter hvalue hequals =>
      refine readOptions_done (shape_letter_ne_separator h hmem hletter _) ?_ rest
      have hattached : attached value.toList = value := by
        rw [attached, String.ofList_toList]
        rintro cs hcs
        rw [hvalue] at hcs
        exact hequals (List.cons.inj hcs).1
      rw [readArgument_letter h hmem hletter htakes, if_neg (by simp [hvalue]), hattached,
        add_of_takes htakes hnew]
      rfl
  | letterApart htakes hletter hword =>
      refine readOptions_pending (shape_letter_ne_separator h hmem hletter _) ?_ hword htakes hnew
        rest
      rw [readArgument_letter h hmem hletter htakes]
      rfl

end Step

/-! ## Reading all of them -/

/-- Options that are new and differ from each other are taken up one after another. -/
theorem readOptions_gives {options : List OptionForm} (h : Distinct options) {new : Given}
    {args : List String} (hgives : Gives options new args) (hnodup : (new.map Prod.fst).Nodup)
    (given : Given) (hnew : ∀ o ∈ new, given.lookup o.1 = none) :
    readOptions options given args = .ok (new.reverse ++ given) := by
  induction hgives generalizing given with
  | none => rfl
  | separator => rfl
  | @more option value front rest new hmem hspells hrest ih =>
      obtain ⟨hfresh, hothers⟩ := List.nodup_cons.mp hnodup
      obtain ⟨hfirst, hlater⟩ := List.forall_mem_cons.mp hnew
      have hnext : ∀ o ∈ new, ((option.name, value) :: given).lookup o.1 = none := by
        intro o ho
        have hne : o.1 ≠ option.name := fun h => hfresh (List.mem_map.mpr ⟨o, ho, h⟩)
        rw [List.lookup_cons, beq_false_of_ne hne]
        exact hlater o ho
      rw [readOptions_spells h hmem hspells hfirst, ih hothers _ hnext, List.reverse_cons,
        List.append_assoc, List.singleton_append]

/-- A name that occurs once has the same value from either end. -/
theorem lookup_reverse {given : Given} (hnodup : (given.map Prod.fst).Nodup) (name : String) :
    given.reverse.lookup name = given.lookup name := by
  induction given with
  | nil => rfl
  | cons o given ih =>
      obtain ⟨key, value⟩ := o
      obtain ⟨hfresh, hothers⟩ := List.nodup_cons.mp hnodup
      rw [List.reverse_cons, List.lookup_append, ih hothers]
      by_cases hname : name = key
      · have habsent : given.lookup name = none :=
          List.lookup_eq_none_iff.mpr fun p hp =>
            bne_iff_ne.mpr fun h => hfresh (List.mem_map.mpr ⟨p, hp, h.symm.trans hname⟩)
        rw [habsent, hname, List.lookup_cons_self, List.lookup_cons_self]
        rfl
      · simp [List.lookup_cons, beq_false_of_ne hname]

/-- Arguments that give each option at most once are read as these options. -/
theorem exists_readOptions {options : List OptionForm} (h : Distinct options) {new : Given}
    {args : List String} (hgives : Gives options new args) (hnodup : (new.map Prod.fst).Nodup) :
    ∃ given, readOptions options [] args = .ok given
      ∧ ∀ name, given.lookup name = new.lookup name := by
  refine ⟨new.reverse, ?_, lookup_reverse hnodup⟩
  rw [readOptions_gives h hgives hnodup [] fun _ _ => rfl, List.append_nil]

/-- Options can be given together if each of them can be given. -/
theorem exists_gives {options : List OptionForm} {new : Given}
    (h : ∀ o ∈ new, ∃ option ∈ options, option.name = o.1 ∧ ∃ args, option.Spells o.2 args) :
    ∃ args, Gives options new args := by
  induction new with
  | nil => exact ⟨[], .none⟩
  | cons o new ih =>
      obtain ⟨⟨option, hmem, hname, front, hspells⟩, hothers⟩ := List.forall_mem_cons.mp h
      obtain ⟨rest, hrest⟩ := ih hothers
      obtain ⟨name, value⟩ := o
      cases hname
      exact ⟨front ++ rest, .more hmem hspells hrest⟩

end SocksMonitor.CommandLine
