/-!
# Latencies by step

A map from names to milliseconds that lists its entries in the order of the names, which is the
order of their bytes. Records of foreign daemons may hold any names, so the keys are strings.
-/

namespace SocksMonitor.Probing

/-- Entries in strictly ascending order of their names. -/
structure Latencies where
  entries : List (String × UInt64)
  sorted : entries.Pairwise fun a b => a.1 < b.1
deriving DecidableEq

namespace Latencies

instance : Repr Latencies := ⟨fun l prec => reprPrec l.entries prec⟩

def empty : Latencies := ⟨[], .nil⟩

instance : Inhabited Latencies := ⟨empty⟩

def get? (l : Latencies) (name : String) : Option UInt64 := l.entries.lookup name

def names (l : Latencies) : List String := l.entries.map Prod.fst

/-- Puts an entry into its place among sorted entries; an entry of the same name is replaced. -/
def place (name : String) (value : UInt64) : List (String × UInt64) → List (String × UInt64)
  | [] => [(name, value)]
  | entry :: rest =>
    if name < entry.1 then (name, value) :: entry :: rest
    else if entry.1 < name then entry :: place name value rest
    else (name, value) :: rest

theorem mem_place {name : String} {value : UInt64} {l : List (String × UInt64)}
    {e : String × UInt64} (h : e ∈ place name value l) : e = (name, value) ∨ e ∈ l := by
  induction l with
  | nil => simpa [place] using h
  | cons x rest ih =>
    unfold place at h
    split at h
    · simpa using h
    · split at h
      · rcases List.mem_cons.1 h with h | h
        · exact .inr (h ▸ List.mem_cons_self)
        · exact (ih h).imp_right (List.mem_cons_of_mem _)
      · rcases List.mem_cons.1 h with h | h
        · exact .inl h
        · exact .inr (List.mem_cons_of_mem _ h)

theorem sorted_place (name : String) (value : UInt64) {l : List (String × UInt64)}
    (sorted : l.Pairwise fun a b => a.1 < b.1) :
    (place name value l).Pairwise fun a b => a.1 < b.1 := by
  induction l with
  | nil => simp [place]
  | cons x rest ih =>
    rw [List.pairwise_cons] at sorted
    unfold place
    split
    · next less =>
      rw [List.pairwise_cons]
      refine ⟨fun e h => ?_, List.pairwise_cons.2 sorted⟩
      rcases List.mem_cons.1 h with h | h
      · exact h ▸ less
      · exact String.lt_trans less (sorted.1 e h)
    · next notLess =>
      split
      · next greater =>
        rw [List.pairwise_cons]
        refine ⟨fun e h => ?_, ih sorted.2⟩
        rcases mem_place h with h | h
        · exact h ▸ greater
        · exact sorted.1 e h
      · next notGreater =>
        have same : name = x.1 :=
          String.le_antisymm (String.not_lt.1 notGreater) (String.not_lt.1 notLess)
        rw [List.pairwise_cons]
        exact ⟨fun e h => same ▸ sorted.1 e h, sorted.2⟩

def insert (l : Latencies) (name : String) (value : UInt64) : Latencies :=
  ⟨place name value l.entries, sorted_place name value l.sorted⟩

theorem mem_map_place {name key : String} {value : UInt64} {l : List (String × UInt64)} :
    name ∈ (place key value l).map Prod.fst ↔ name = key ∨ name ∈ l.map Prod.fst := by
  induction l with
  | nil => simp [place]
  | cons x rest ih =>
      unfold place
      split
      · simp
      · split
        · simp only [List.map_cons, List.mem_cons, ih]
          exact or_left_comm
        · next notLess notGreater =>
          have same : key = x.1 :=
            String.le_antisymm (String.not_lt.1 notGreater) (String.not_lt.1 notLess)
          simp [same]

theorem mem_names_insert {l : Latencies} {name key : String} {value : UInt64} :
    name ∈ (l.insert key value).names ↔ name = key ∨ name ∈ l.names := mem_map_place

theorem map_place_congr {name : String} {value value' : UInt64} {l l' : List (String × UInt64)}
    (h : l.map Prod.fst = l'.map Prod.fst) :
    (place name value l).map Prod.fst = (place name value' l').map Prod.fst := by
  induction l generalizing l' with
  | nil =>
      rw [List.map_eq_nil_iff.mp h.symm]
      rfl
  | cons x rest ih =>
      obtain ⟨x', rest', rfl, hname, hrest⟩ := List.map_eq_cons_iff.mp h.symm
      simp only [place, hname]
      split
      · simpa using h
      · split
        · simp only [List.map_cons, hname, ih hrest.symm]
        · simp only [List.map_cons, hrest]

theorem names_insert_congr {l l' : Latencies} {name : String} {value value' : UInt64}
    (h : l.names = l'.names) : (l.insert name value).names = (l'.insert name value').names :=
  map_place_congr h

theorem not_mem_names_empty {name : String} : name ∉ empty.names := List.not_mem_nil

/-- The map of entries in any order; of several with one name the last counts. -/
def ofList (entries : List (String × UInt64)) : Latencies :=
  entries.foldl (fun l e => l.insert e.1 e.2) empty

theorem place_of_forall_lt {name : String} {value : UInt64} {l : List (String × UInt64)}
    (h : ∀ e ∈ l, e.1 < name) : place name value l = l ++ [(name, value)] := by
  induction l with
  | nil => rfl
  | cons x rest ih =>
    obtain ⟨less, others⟩ := List.forall_mem_cons.1 h
    rw [place, if_neg (String.lt_asymm less), if_pos less, ih others, List.cons_append]

theorem entries_foldl_insert {l : Latencies} {entries : List (String × UInt64)}
    (sorted : (l.entries ++ entries).Pairwise fun a b => a.1 < b.1) :
    (entries.foldl (fun l e => l.insert e.1 e.2) l).entries = l.entries ++ entries := by
  induction entries generalizing l with
  | nil => simp
  | cons e rest ih =>
    have before : ∀ x ∈ l.entries, x.1 < e.1 := fun x h =>
      (List.pairwise_append.1 sorted).2.2 x h e List.mem_cons_self
    have placed : (l.insert e.1 e.2).entries = l.entries ++ [e] := place_of_forall_lt before
    rw [List.foldl_cons, ih (by rwa [placed, List.append_assoc]), placed, List.append_assoc]
    rfl

theorem eq_of_entries {l l' : Latencies} (h : l.entries = l'.entries) : l = l' := by
  cases l
  cases l'
  simpa using h

theorem ofList_entries (l : Latencies) : ofList l.entries = l := by
  have sorted : (empty.entries ++ l.entries).Pairwise fun a b => a.1 < b.1 := l.sorted
  exact eq_of_entries (entries_foldl_insert sorted)

end Latencies

end SocksMonitor.Probing
