import SocksMonitor.Json.Layout
import SocksMonitor.Proofs.JsonRoundTrip
import SocksMonitor.Proofs.TimeText

/-!
# Parts survive their record

What a record is written with comes back from its object: every part is found under its name
(`Layout.slots?_of_record`), also beside fields that belong to another record, and every type of
part is read as what was written. The forms of the parts are plain values, so their texts are read
as these forms by `Plain.read?_print`. What reads a part is tagged for `simp`, so that a record
comes back by looking its parts up.
-/

namespace SocksMonitor.Json

/-! ## Fields -/

theorem lookup_cons_of_ne {α : Type} {name key : String} (h : name ≠ key) (a : α)
    (fields : List (String × α)) : ((key, a) :: fields).lookup name = fields.lookup name := by
  rw [List.lookup_cons, beq_false_of_ne h]

namespace Layout

/-- The fields of a record are found under their names, each as it was written; fields that are no
parts of the layout do not count. -/
theorem collect?_record {layout : Layout} (hopen : layout.closed = false)
    {fields : List (String × Json)} (hnodup : (fields.map Prod.fst).Nodup) (found : Slots)
    (hnew : ∀ f ∈ fields, found.lookup f.1 = none) :
    ∃ slots, layout.collect? found (fields.map fun (name, value) => (some name, value))
        = some slots ∧
      ∀ name ∈ layout.names, slots.lookup name = (fields.lookup name).or (found.lookup name) := by
  induction fields generalizing found with
  | nil => exact ⟨found, rfl, fun name _ => rfl⟩
  | cons f fields ih =>
      obtain ⟨key, value⟩ := f
      obtain ⟨hkey, hothers⟩ := List.nodup_cons.mp hnodup
      obtain ⟨hfresh, hnew'⟩ := List.forall_mem_cons.mp hnew
      have hdistinct : ∀ f ∈ fields, f.1 ≠ key := fun f hf h =>
        hkey (List.mem_map.mpr ⟨f, hf, h⟩)
      by_cases hpart : layout.names.contains key = true
      · have hnext : ∀ f ∈ fields, ((key, value) :: found).lookup f.1 = none := fun f hf =>
          (lookup_cons_of_ne (hdistinct f hf) value found).trans (hnew' f hf)
        obtain ⟨slots, hslots, hlookup⟩ := ih hothers ((key, value) :: found) hnext
        refine ⟨slots, ?_, fun name hname => ?_⟩
        · simp only [List.map_cons, collect?, if_pos hpart, hfresh]
          exact hslots
        · rw [hlookup name hname]
          by_cases hsame : name = key
          -- no later field has the name, so what was found last is what is found
          · have habsent : fields.lookup name = none :=
              List.lookup_eq_none_iff.mpr fun f hf =>
                bne_iff_ne.mpr fun h => hdistinct f hf (h.symm.trans hsame)
            rw [habsent, hsame, List.lookup_cons_self, List.lookup_cons_self]
            rfl
          · rw [lookup_cons_of_ne hsame, lookup_cons_of_ne hsame]
      · obtain ⟨slots, hslots, hlookup⟩ := ih hothers found hnew'
        refine ⟨slots, ?_, fun name hname => ?_⟩
        · simp only [List.map_cons, collect?, if_neg hpart, hopen]
          exact hslots
        · have hother : name ≠ key := fun h =>
            hpart (List.contains_iff_mem.mpr (h ▸ hname))
          rw [hlookup name hname, lookup_cons_of_ne hother]

theorem slots?_of_record (layout : Layout) (hopen : layout.closed = false)
    (names : List String) (hnodup : names.Nodup) {v : Json} {fields : List (String × Json)}
    (hv : v = record fields) (hnames : fields.map Prod.fst = names) :
    ∃ slots, layout.slots? v = some slots ∧
      ∀ name ∈ layout.names, slots.lookup name = fields.lookup name := by
  subst hv hnames
  obtain ⟨slots, hslots, hlookup⟩ := collect?_record hopen hnodup [] fun _ _ => rfl
  refine ⟨slots, hslots, fun name hname => ?_⟩
  rw [hlookup name hname]
  exact Option.or_none

end Layout

/-! ## Types of parts -/

@[simp]
theorem asText?_text (s : String) : asText? (text s) = some s := rfl

@[simp]
theorem asBool?_bool (b : Bool) : asBool? (bool b) = some b := rfl

theorem asInt?_nat {low high : Int} {n : Nat} (hlow : low ≤ n) (hhigh : n ≤ high) :
    asInt? low high (nat n) = some (n : Int) :=
  if_pos ⟨hlow, hhigh⟩

@[simp]
theorem asUInt32?_nat (n : UInt32) : asUInt32? (nat n.toNat) = some n := by
  have hn := n.toNat_lt
  have hread : asInt? 0 0xFFFFFFFF (nat n.toNat) = some (n.toNat : Int) :=
    asInt?_nat (by omega) (by omega)
  simp only [asUInt32?, hread, Option.map_some, Int.toNat_natCast, UInt32.ofNat_toNat]

@[simp]
theorem asUInt64?_nat (n : UInt64) : asUInt64? (nat n.toNat) = some n := by
  have hn := n.toNat_lt
  have hread : asInt? 0 0xFFFFFFFFFFFFFFFF (nat n.toNat) = some (n.toNat : Int) :=
    asInt?_nat (by omega) (by omega)
  simp only [asUInt64?, hread, Option.map_some, Int.toNat_natCast, UInt64.ofNat_toNat]

@[simp]
theorem asTime?_time (t : Time.Timestamp) : asTime? (time t) = some t := by
  rw [asTime?, time, asText?_text, Option.bind_some, String.toList_ofList,
    Time.Timestamp.read?_text]

theorem time_ne_null (t : Time.Timestamp) : time t ≠ null := by
  rw [time, text]
  nofun

@[simp]
theorem asList?_text (texts : List String) :
    asList? asText? (array (texts.map text)) = some texts := by
  rw [asList?]
  induction texts with
  | nil => rfl
  | cons s texts ih => rw [List.map_cons, List.mapM_cons, asText?_text, ih]; rfl

theorem maybe_optional {α : Type} {slots : Slots} {name : String} {write : α → Json}
    {read : Json → Option α} {o : Option α} (hlookup : slots.lookup name = some (optional write o))
    (hnull : ∀ a, write a ≠ null) (hread : ∀ a, read (write a) = some a) :
    Slots.maybe slots name read = some o := by
  rw [Slots.maybe, hlookup]
  cases o with
  | none => rfl
  | some a =>
      simp only [optional]
      split
      · next h => cases h
      · next h => exact absurd (Option.some.inj h) (hnull a)
      · next h => rw [← Option.some.inj h, hread a]; rfl

namespace Plain

variable {d : Nat}

theorem nat {n : Nat} (hn : n < UInt64.size) : Plain d (.nat n) := .integer (by simpa using hn)

theorem nat_uint32 (n : UInt32) : Plain d (.nat n.toNat) :=
  .nat (Nat.lt_trans n.toNat_lt (by decide))

theorem nat_uint64 (n : UInt64) : Plain d (.nat n.toNat) := .nat n.toNat_lt

theorem time (t : Time.Timestamp) : Plain d (.time t) := .text _

theorem optional {α : Type} {write : α → Json} (hwrite : ∀ a, Plain d (write a)) (o : Option α) :
    Plain d (.optional write o) := by
  cases o with
  | none => exact .null
  | some a => exact hwrite a

theorem texts (l : List String) : Plain (d + 1) (.array (l.map Json.text)) := by
  refine .array fun v hv => ?_
  obtain ⟨s, _, rfl⟩ := List.mem_map.mp hv
  exact .text s

end Plain

end SocksMonitor.Json
