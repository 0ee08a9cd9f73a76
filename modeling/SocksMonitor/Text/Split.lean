/-!
# Splitting at a character

`host:port` texts and address literals are taken apart at single characters. Each function is
pinned down by the text that it splits: putting the parts together again gives the whole, and the
part that was passed over does not contain the character.
-/

namespace SocksMonitor.Text

/-- The parts before and after the first occurrence of a character. -/
def splitFirst? (sep : Char) : List Char → Option (List Char × List Char)
  | [] => none
  | c :: cs => if c = sep then some ([], cs) else (splitFirst? sep cs).map fun (a, b) => (c :: a, b)

/-- The parts before and after the last occurrence of a character. -/
def splitLast? (sep : Char) : List Char → Option (List Char × List Char)
  | [] => none
  | c :: cs =>
    match splitLast? sep cs with
    | some (a, b) => some (c :: a, b)
    | none => if c = sep then some ([], cs) else none

/-- All the parts between occurrences of a character; a text without it is its own single part. -/
def splitAll (sep : Char) : List Char → List (List Char)
  | [] => [[]]
  | c :: cs =>
    if c = sep then [] :: splitAll sep cs
    else
      match splitAll sep cs with
      | part :: parts => (c :: part) :: parts
      | [] => [[c]]

theorem splitFirst?_eq_some_iff {sep : Char} {cs a b : List Char} :
    splitFirst? sep cs = some (a, b) ↔ cs = a ++ sep :: b ∧ sep ∉ a := by
  induction cs generalizing a with
  | nil => simp [splitFirst?]
  | cons c cs ih =>
    by_cases h : c = sep
    · subst h
      cases a with
      | nil => simp [splitFirst?]
      | cons d a => simp only [splitFirst?, if_pos]; constructor <;> simp +contextual [eq_comm]
    · cases a with
      | nil => simp [splitFirst?, h]
      | cons d a => simp [splitFirst?, h, ih, and_assoc, eq_comm (a := sep), and_comm]; grind

theorem splitLast?_eq_none_iff {sep : Char} {cs : List Char} :
    splitLast? sep cs = none ↔ sep ∉ cs := by
  induction cs with
  | nil => simp [splitLast?]
  | cons c cs ih =>
    rw [splitLast?]
    split
    · next h =>
      have mem : sep ∈ cs := Classical.byContradiction fun no => by simp [ih.2 no] at h
      simp [mem]
    · next h =>
      by_cases hc : c = sep
      · simp [hc]
      · simp [hc, ih.1 h, Ne.symm hc]

theorem splitLast?_eq_some_iff {sep : Char} {cs a b : List Char} :
    splitLast? sep cs = some (a, b) ↔ cs = a ++ sep :: b ∧ sep ∉ b := by
  induction cs generalizing a b with
  | nil => simp [splitLast?]
  | cons c cs ih =>
    rw [splitLast?]
    split
    · next x y h =>
      obtain ⟨rfl, hy⟩ := ih.1 h
      constructor
      · rintro ⟨⟩; exact ⟨rfl, hy⟩
      · rintro ⟨e, hb⟩
        cases a with
        | nil => simp only [List.nil_append, List.cons.injEq] at e; simp [← e.2] at hb
        | cons d a =>
          simp only [List.cons_append, List.cons.injEq] at e
          have := ih.2 ⟨e.2, hb⟩
          rw [h] at this
          simp only [Option.some.injEq, Prod.mk.injEq] at this
          simp [e.1, this]
    · next h =>
      have hn := splitLast?_eq_none_iff.1 h
      by_cases hc : c = sep
      · subst hc
        cases a with
        | nil => simp; exact fun e => e ▸ hn
        | cons d a => simp; rintro rfl rfl; simp at hn
      · cases a with
        | nil => simp [hc]
        | cons d a => simp [hc]; rintro rfl rfl; simp at hn

theorem splitAll_ne_nil (sep : Char) (cs : List Char) : splitAll sep cs ≠ [] := by
  cases cs with
  | nil => simp [splitAll]
  | cons c cs =>
    rw [splitAll]
    split
    · simp
    · split <;> simp

theorem splitAll_of_not_mem {sep : Char} {cs : List Char} (h : sep ∉ cs) :
    splitAll sep cs = [cs] := by
  induction cs with
  | nil => rfl
  | cons c cs ih =>
    have hc : c ≠ sep := (List.ne_of_not_mem_cons h).symm
    rw [splitAll, if_neg hc, ih (List.not_mem_of_not_mem_cons h)]

theorem splitAll_append {sep : Char} {part : List Char} (h : sep ∉ part) (rest : List Char) :
    splitAll sep (part ++ sep :: rest) = part :: splitAll sep rest := by
  induction part with
  | nil => rw [List.nil_append, splitAll, if_pos rfl]
  | cons c part ih =>
    have hc : c ≠ sep := (List.ne_of_not_mem_cons h).symm
    rw [List.cons_append, splitAll, if_neg hc, ih (List.not_mem_of_not_mem_cons h)]

/-- The parts with the character between them are the text. -/
theorem intercalate_splitAll (sep : Char) (cs : List Char) :
    [sep].intercalate (splitAll sep cs) = cs := by
  induction cs with
  | nil => rfl
  | cons c cs ih =>
    obtain ⟨part, parts, hparts⟩ := List.exists_cons_of_ne_nil (splitAll_ne_nil sep cs)
    rw [hparts] at ih
    rw [splitAll, hparts]
    by_cases hc : c = sep
    · simp [hc, List.intercalate_cons_cons, ih]
    · cases parts with
      | nil => simpa [hc] using ih
      | cons next parts => simpa [hc, List.intercalate_cons_cons] using ih

theorem splitAll_intercalate {sep : Char} {parts : List (List Char)} (hne : parts ≠ [])
    (h : ∀ part ∈ parts, sep ∉ part) : splitAll sep ([sep].intercalate parts) = parts := by
  induction parts with
  | nil => exact absurd rfl hne
  | cons part parts ih =>
    obtain ⟨hpart, hparts⟩ := List.forall_mem_cons.mp h
    cases parts with
    | nil => simpa using splitAll_of_not_mem hpart
    | cons next parts =>
      rw [List.intercalate_cons_cons, List.append_assoc, List.singleton_append,
        splitAll_append hpart, ih (by simp) hparts]

end SocksMonitor.Text
