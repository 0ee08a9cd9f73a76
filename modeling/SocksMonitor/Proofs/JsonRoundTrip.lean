import SocksMonitor.Json.Reader
import SocksMonitor.Proofs.JsonLiterals

/-!
# Values survive their text

The values of which records are made (`Plain`) are read back from their compact form. The reader is
a machine that takes a bounded number of moves, so the argument counts them: `Leads n p q` says that
the machine gets from `p` to `q` in `n` moves or fewer. Each kind of move has its lemma, and the
bytes of a value are at least as many as the moves that take them up (`Readable`).

`Plain.read?_print` is the main statement.
-/

namespace SocksMonitor.Json

/-- A value as records have it: every string and every name is text, every number an integer of at
most 64 bits, and arrays and objects are nested at most so deep. -/
inductive Plain : Nat → Json → Prop where
  | null {d : Nat} : Plain d .null
  | bool {d : Nat} (b : Bool) : Plain d (.bool b)
  | integer {d : Nat} {n : Int} (fits : n.natAbs < UInt64.size) : Plain d (.number (.integer n))
  | text {d : Nat} (s : String) : Plain d (.text s)
  | array {d : Nat} {items : List Json} (each : ∀ v ∈ items, Plain d v) :
      Plain (d + 1) (.array items)
  | record {d : Nat} {fields : List (String × Json)} (each : ∀ f ∈ fields, Plain d f.2) :
      Plain (d + 1) (.record fields)

/-! ## Moves of the machine -/

theorem readName?_printString (name : Option String) (rest : Bytes) :
    readName? (printString name ++ 0x3A :: rest) = some (name, rest) := by
  rw [printString_eq]
  show (readString? (stringTail name ++ 0x3A :: rest)).bind _ = _
  rw [readString?_stringTail]
  rfl

/-- Where the machine stands. -/
structure Place where
  task : Task
  stack : List Frame
  bytes : Bytes

/-- The machine gets from one place to another in at most `n` moves. -/
def Leads (n : Nat) (p q : Place) : Prop :=
  ∃ cost ≤ n, ∀ moves,
    machine? (cost + moves) p.task p.stack p.bytes = machine? moves q.task q.stack q.bytes

namespace Leads

theorem trans {m n : Nat} {p q r : Place} (hpq : Leads m p q) (hqr : Leads n q r) :
    Leads (m + n) p r := by
  obtain ⟨c, hc, hmoves⟩ := hpq
  obtain ⟨c', hc', hmoves'⟩ := hqr
  refine ⟨c + c', by omega, fun moves => ?_⟩
  rw [Nat.add_assoc, hmoves, hmoves']

theorem mono {m n : Nat} {p q : Place} (h : Leads m p q) (hmn : m ≤ n) : Leads n p q := by
  obtain ⟨c, hc, hmoves⟩ := h
  exact ⟨c, Nat.le_trans hc hmn, hmoves⟩

theorem of_step {p q : Place}
    (h : ∀ moves, machine? (moves + 1) p.task p.stack p.bytes
      = machine? moves q.task q.stack q.bytes) : Leads 1 p q := by
  refine ⟨1, Nat.le_refl 1, fun moves => ?_⟩
  rw [Nat.add_comm]
  exact h moves

section Moves

variable (stack : List Frame) (rest : Bytes)

theorem scalar {b : UInt8} {tail : Bytes} {v : Json} (hspace : isSpace b = false)
    (hbracket : b ≠ 0x5B) (hbrace : b ≠ 0x7B)
    (hread : readScalar? (b :: tail ++ rest) = some (v, rest)) :
    Leads 1 ⟨.seek, stack, b :: tail ++ rest⟩ ⟨.place v, stack, rest⟩ := by
  refine of_step fun moves => ?_
  have hskip : skipSpace (b :: tail ++ rest) = b :: tail ++ rest := by
    simp [skipSpace, hspace]
  rw [machine?.eq_def]
  simp only [hskip]
  split
  · next h => exact absurd (List.cons.inj h).1 hbracket
  · next h => exact absurd (List.cons.inj h).1 hbrace
  · rw [hread]

theorem emptyItems :
    Leads 1 ⟨.seek, stack, 0x5B :: 0x5D :: rest⟩ ⟨.place (.array []), stack, rest⟩ := by
  refine of_step fun moves => ?_
  rw [machine?.eq_def]
  rfl

theorem openItems {b : UInt8} (tail : Bytes) (hspace : isSpace b = false) (hclose : b ≠ 0x5D) :
    Leads 1 ⟨.seek, stack, 0x5B :: b :: tail⟩ ⟨.seek, .items [] :: stack, b :: tail⟩ := by
  refine of_step fun moves => ?_
  have hskip : skipSpace (b :: tail) = b :: tail := by simp [skipSpace, hspace]
  have hopen : skipSpace (0x5B :: b :: tail) = 0x5B :: b :: tail := rfl
  rw [machine?.eq_def]
  simp only [hopen, hskip]
  split
  · next h => exact absurd (List.cons.inj h).1 hclose
  · rfl

theorem emptyFields :
    Leads 1 ⟨.seek, stack, 0x7B :: 0x7D :: rest⟩ ⟨.place (.object []), stack, rest⟩ := by
  refine of_step fun moves => ?_
  rw [machine?.eq_def]
  rfl

theorem nextItem (found : List Json) (v : Json) :
    Leads 1 ⟨.place v, .items found :: stack, 0x2C :: rest⟩
      ⟨.seek, .items (v :: found) :: stack, rest⟩ := by
  refine of_step fun moves => ?_
  rw [machine?.eq_def]
  rfl

theorem closeItems (found : List Json) (v : Json) :
    Leads 1 ⟨.place v, .items found :: stack, 0x5D :: rest⟩
      ⟨.place (.array (v :: found).reverse), stack, rest⟩ := by
  refine of_step fun moves => ?_
  rw [machine?.eq_def]
  rfl

theorem openFields (name : Option String) :
    Leads 1 ⟨.seek, stack, 0x7B :: (printString name ++ 0x3A :: rest)⟩
      ⟨.seek, .fields [] name :: stack, rest⟩ := by
  refine of_step fun moves => ?_
  have hread := readName?_printString name rest
  rw [printString_eq, List.cons_append] at hread ⊢
  have hopen (bytes : Bytes) : skipSpace (0x7B :: bytes) = 0x7B :: bytes := rfl
  have hname (bytes : Bytes) : skipSpace (0x22 :: bytes) = 0x22 :: bytes := rfl
  rw [machine?.eq_def]
  simp only [hopen, hname]
  split
  · next h => exact absurd (List.cons.inj h).1 (by decide)
  · simp only [hread]

theorem nextField (found : List (Option String × Json)) (name next : Option String) (v : Json) :
    Leads 1 ⟨.place v, .fields found name :: stack, 0x2C :: (printString next ++ 0x3A :: rest)⟩
      ⟨.seek, .fields ((name, v) :: found) next :: stack, rest⟩ := by
  refine of_step fun moves => ?_
  have hcomma (bytes : Bytes) : skipSpace (0x2C :: bytes) = 0x2C :: bytes := rfl
  rw [machine?.eq_def]
  simp only [hcomma, readName?_printString]

theorem closeFields (found : List (Option String × Json)) (name : Option String) (v : Json) :
    Leads 1 ⟨.place v, .fields found name :: stack, 0x7D :: rest⟩
      ⟨.place (.object ((name, v) :: found).reverse), stack, rest⟩ := by
  refine of_step fun moves => ?_
  rw [machine?.eq_def]
  rfl

end Moves

end Leads

/-! ## Values -/

/-- A value that the machine takes up in no more moves than it has bytes, whatever stands behind
it. Its first byte neither is white space nor closes an array. -/
structure Readable (v : Json) : Prop where
  head : ∃ b tail, v.print = b :: tail ∧ isSpace b = false ∧ b ≠ 0x5D
  leads : ∀ stack rest, Follows rest →
    Leads v.print.length ⟨.seek, stack, v.print ++ rest⟩ ⟨.place v, stack, rest⟩

/-- What stands behind an item. -/
def afterItem : List Json → Bytes
  | [] => [0x5D]
  | v :: vs => 0x2C :: printItems (v :: vs)

theorem printItems_cons (v : Json) (vs : List Json) :
    printItems (v :: vs) = v.print ++ afterItem vs := by
  cases vs <;> simp [printItems, afterItem]

theorem follows_afterItem (items : List Json) (rest : Bytes) :
    Follows (afterItem items ++ rest) := by
  cases items with
  | nil => exact .bracket rest
  | cons v vs => exact .comma _

/-- What stands behind the value of a field. -/
def afterField : List (Option String × Json) → Bytes
  | [] => [0x7D]
  | f :: fs => 0x2C :: printFields (f :: fs)

theorem printFields_cons (name : Option String) (v : Json) (fs : List (Option String × Json)) :
    printFields ((name, v) :: fs) = printString name ++ 0x3A :: (v.print ++ afterField fs) := by
  cases fs <;> simp [printFields, afterField]

theorem follows_afterField (fields : List (Option String × Json)) (rest : Bytes) :
    Follows (afterField fields ++ rest) := by
  cases fields with
  | nil => exact .brace rest
  | cons f fs => exact .comma _

/-- The remaining items of an array, behind one that has just been read. -/
theorem leads_afterItem {items : List Json} (hitems : ∀ v ∈ items, Readable v) (found : List Json)
    (v : Json) (stack : List Frame) (rest : Bytes) :
    Leads (afterItem items).length ⟨.place v, .items found :: stack, afterItem items ++ rest⟩
      ⟨.place (.array (found.reverse ++ v :: items)), stack, rest⟩ := by
  induction items generalizing found v with
  | nil =>
      have hclose := Leads.closeItems stack rest found v
      rwa [List.reverse_cons] at hclose
  | cons w items ih =>
      obtain ⟨hw, hothers⟩ := List.forall_mem_cons.mp hitems
      have hnext := Leads.nextItem stack (w.print ++ (afterItem items ++ rest)) found v
      have hvalue := hw.leads (.items (v :: found) :: stack) _ (follows_afterItem items rest)
      have hrest := ih hothers (v :: found) w
      have hall := (hnext.trans hvalue).trans hrest
      rw [afterItem, printItems_cons]
      simp only [List.reverse_cons, List.append_assoc, List.cons_append, List.nil_append,
        List.length_cons, List.length_append] at hall ⊢
      exact hall.mono (by omega)

/-- The remaining fields of an object, behind one that has just been read. -/
theorem leads_afterField {fields : List (Option String × Json)}
    (hfields : ∀ f ∈ fields, Readable f.2) (found : List (Option String × Json))
    (name : Option String) (v : Json) (stack : List Frame) (rest : Bytes) :
    Leads (afterField fields).length
      ⟨.place v, .fields found name :: stack, afterField fields ++ rest⟩
      ⟨.place (.object (found.reverse ++ (name, v) :: fields)), stack, rest⟩ := by
  induction fields generalizing found name v with
  | nil =>
      have hclose := Leads.closeFields stack rest found name v
      rwa [List.reverse_cons] at hclose
  | cons f fields ih =>
      obtain ⟨next, w⟩ := f
      obtain ⟨hw, hothers⟩ := List.forall_mem_cons.mp hfields
      have hnext := Leads.nextField stack (w.print ++ (afterField fields ++ rest)) found name next v
      have hvalue := hw.leads (.fields ((name, v) :: found) next :: stack) _
        (follows_afterField fields rest)
      have hrest := ih hothers ((name, v) :: found) next w
      have hall := (hnext.trans hvalue).trans hrest
      rw [afterField, printFields_cons]
      simp only [List.reverse_cons, List.append_assoc, List.cons_append, List.nil_append,
        List.length_cons, List.length_append] at hall ⊢
      exact hall.mono (by omega)

theorem not_special_of_isDigit {b : UInt8} (h : isDigit b = true) :
    isSpace b = false ∧ b ∉ [0x22, 0x74, 0x66, 0x6E, 0x5B, 0x5D, 0x7B] := by
  have hall : ∀ n < 10, isSpace (UInt8.ofNat (48 + n)) = false ∧
      UInt8.ofNat (48 + n) ∉ [0x22, 0x74, 0x66, 0x6E, 0x5B, 0x5D, 0x7B] := by
    decide
  have hbounds : 48 ≤ b.toNat ∧ b.toNat ≤ 57 := by
    simpa [isDigit, UInt8.le_iff_toNat_le] using h
  have hbyte := hall (b.toNat - 48) (by omega)
  rwa [show 48 + (b.toNat - 48) = b.toNat by omega, UInt8.ofNat_toNat] at hbyte

namespace Readable

theorem scalar {v : Json} (b : UInt8) (tail : Bytes) (hprint : v.print = b :: tail)
    (hspace : isSpace b = false) (hmarks : b ≠ 0x5B ∧ b ≠ 0x5D ∧ b ≠ 0x7B)
    (hread : ∀ rest, Follows rest → readScalar? (b :: tail ++ rest) = some (v, rest)) :
    Readable v where
  head := ⟨b, tail, hprint, hspace, hmarks.2.1⟩
  leads := by
    intro stack rest hrest
    rw [hprint]
    refine (Leads.scalar stack rest hspace hmarks.1 hmarks.2.2 (hread rest hrest)).mono ?_
    simp

theorem null : Readable .null :=
  scalar 0x6E (ascii ['u', 'l', 'l']) rfl (by decide) (by decide) fun _ _ => rfl

theorem bool (b : Bool) : Readable (.bool b) := by
  cases b with
  | false =>
      exact scalar 0x66 (ascii ['a', 'l', 's', 'e']) rfl (by decide) (by decide) fun _ _ => rfl
  | true =>
      exact scalar 0x74 (ascii ['r', 'u', 'e']) rfl (by decide) (by decide) fun _ _ => rfl

theorem string (s : Option String) : Readable (.string s) := by
  refine scalar 0x22 (stringTail s) (printString_eq s) (by decide) (by decide) fun rest _ => ?_
  show (readString? (stringTail s ++ rest)).map _ = _
  rw [readString?_stringTail]
  rfl

theorem integer {n : Int} (hn : n.natAbs < UInt64.size) : Readable (.number (.integer n)) := by
  obtain ⟨b, tail, hprint, hb⟩ := exists_head_printInt n
  have hclass : isSpace b = false ∧ b ∉ [0x22, 0x74, 0x66, 0x6E, 0x5B, 0x5D, 0x7B] := by
    rcases hb with rfl | hdigit
    · decide
    · exact not_special_of_isDigit hdigit
  obtain ⟨hspace, hspecial⟩ := hclass
  simp only [List.mem_cons, List.not_mem_nil, or_false, not_or] at hspecial
  obtain ⟨hquote, ht, hf, hn', h5b, h5d, h7b⟩ := hspecial
  refine scalar b tail hprint hspace ⟨h5b, h5d, h7b⟩ fun rest hrest => ?_
  have hnumber := readNumber?_printInt hn hrest
  rw [hprint] at hnumber
  simp only [readScalar?, List.cons_append, if_neg hquote, if_neg ht, if_neg hf, if_neg hn']
  rw [← List.cons_append, hnumber]
  rfl

theorem array {items : List Json} (hitems : ∀ v ∈ items, Readable v) : Readable (.array items) where
  head := ⟨0x5B, printItems items, rfl, by decide, by decide⟩
  leads := by
    intro stack rest _
    cases items with
    | nil => exact (Leads.emptyItems stack rest).mono (by decide)
    | cons v items =>
        obtain ⟨hv, hothers⟩ := List.forall_mem_cons.mp hitems
        obtain ⟨b, tail, hprint, hspace, hclose⟩ := hv.head
        -- the first byte of the first item is needed, since `]` here would close the array
        have hopen := Leads.openItems stack (tail ++ (afterItem items ++ rest)) hspace hclose
        rw [← List.cons_append, ← hprint] at hopen
        have hvalue := hv.leads (.items [] :: stack) _ (follows_afterItem items rest)
        have hall := (hopen.trans hvalue).trans (leads_afterItem hothers [] v stack rest)
        show Leads _ ⟨.seek, stack, 0x5B :: printItems (v :: items) ++ rest⟩ _
        rw [print, printItems_cons]
        simp only [List.cons_append, List.append_assoc, List.length_cons,
          List.length_append] at hall ⊢
        exact hall.mono (by omega)

theorem object {fields : List (Option String × Json)} (hfields : ∀ f ∈ fields, Readable f.2) :
    Readable (.object fields) where
  head := ⟨0x7B, printFields fields, rfl, by decide, by decide⟩
  leads := by
    intro stack rest _
    cases fields with
    | nil => exact (Leads.emptyFields stack rest).mono (by decide)
    | cons f fields =>
        obtain ⟨name, v⟩ := f
        obtain ⟨hv, hothers⟩ := List.forall_mem_cons.mp hfields
        have hopen := Leads.openFields stack (v.print ++ (afterField fields ++ rest)) name
        have hvalue := hv.leads (.fields [] name :: stack) _ (follows_afterField fields rest)
        have hall := (hopen.trans hvalue).trans (leads_afterField hothers [] name v stack rest)
        show Leads _ ⟨.seek, stack, 0x7B :: printFields ((name, v) :: fields) ++ rest⟩ _
        rw [print, printFields_cons]
        simp only [List.cons_append, List.append_assoc, List.length_cons,
          List.length_append] at hall ⊢
        exact hall.mono (by omega)

theorem read?_print {v : Json} (hv : Readable v) : read? v.print = some v := by
  obtain ⟨cost, hcost, hmoves⟩ := hv.leads [] [] .nothing
  -- of the moves that `read?` allows at least one is left, which hands the value out
  have hbudget : 2 * v.print.length + 2 = cost + (2 * v.print.length + 1 - cost + 1) := by omega
  have hmachine := hmoves (2 * v.print.length + 1 - cost + 1)
  rw [← hbudget, List.append_nil] at hmachine
  rw [read?, hmachine]
  rfl

end Readable

namespace Plain

variable {d : Nat} {v : Json}

theorem readable (hv : Plain d v) : Readable v := by
  induction hv with
  | null => exact .null
  | bool b => exact .bool b
  | integer fits => exact .integer fits
  | text s => exact .string (some s)
  | array _ ih => exact .array ih
  | record _ ih =>
      refine .object fun f hf => ?_
      obtain ⟨field, hfield, rfl⟩ := List.mem_map.mp hf
      exact ih field hfield

/-- Reading undoes printing. -/
theorem read?_print (hv : Plain d v) : read? v.print = some v := hv.readable.read?_print

/-! ## Values that are held on to -/

theorem isMeaningful (hv : Plain d v) : v.isMeaningful = true := by
  induction hv with
  | null => rfl
  | bool b => rfl
  | integer fits => rfl
  | text s => rfl
  | array _ ih => exact itemsMeaningful_iff.mpr ih
  | record _ ih =>
      refine fieldsMeaningful_iff.mpr fun f hf => ?_
      obtain ⟨field, hfield, rfl⟩ := List.mem_map.mp hf
      exact ⟨rfl, ih field hfield⟩

theorem depth_le (hv : Plain d v) : v.depth ≤ d := by
  induction hv with
  | null => exact Nat.zero_le _
  | bool b => exact Nat.zero_le _
  | integer fits => exact Nat.zero_le _
  | text s => exact Nat.zero_le _
  | array _ ih =>
      rw [depth, Nat.add_comm]
      exact Nat.succ_le_succ (itemsDepth_le_iff.mpr ih)
  | record _ ih =>
      rw [Json.record, depth, Nat.add_comm]
      refine Nat.succ_le_succ (fieldsDepth_le_iff.mpr fun f hf => ?_)
      obtain ⟨field, hfield, rfl⟩ := List.mem_map.mp hf
      exact ih field hfield

end Plain

end SocksMonitor.Json
