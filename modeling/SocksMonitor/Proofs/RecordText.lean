import SocksMonitor.CommandLine.StatusQuery
import SocksMonitor.Proofs.RecordParts

/-!
# Records survive their text

The status route writes records that its reader takes apart again. For every record type the form
is plain and is read as the record; `Survives` puts both together for the texts. A snapshot is read
as well where its fields stand among others, as they do in a status report.

`records_survive_text` is the main statement.
-/

namespace SocksMonitor

open Json (Layout Plain Slots)

/-! ## Probe records -/

namespace Probing

theorem AuthMethod.ofJson?_toJson (held : Bool) (m : AuthMethod) :
    ofJson? held m.toJson = some m := by
  cases m <;> rfl

theorem AuthMethod.plain {d : Nat} (m : AuthMethod) : Plain d m.toJson := .text m.name

theorem Features.ofJson?_toJson (held : Bool) (f : Features) :
    ofJson? held f.toJson = some f := by
  obtain ⟨parts, hparts, hlookup⟩ :=
    layout.slots?_of_record rfl layout.names (by decide) (v := f.toJson) rfl rfl
  have hauth : Slots.maybe parts "auth" (AuthMethod.ofJson? held) = some f.auth :=
    Json.maybe_optional (hlookup "auth" (by simp [layout, Layout.full])) (by nofun)
      (AuthMethod.ofJson?_toJson held)
  simp only [ofJson?, hparts, hauth, Option.bind_eq_bind, Option.bind_some]
  simp [Slots.need, hlookup, layout, Layout.full, List.lookup_cons]

theorem Features.plain {d : Nat} (f : Features) : Plain (d + 1) f.toJson :=
  .record (by simp [Plain.optional AuthMethod.plain, Plain.bool])

theorem Latencies.mapM_entries (entries : List (String × UInt64)) :
    ((entries.map fun (name, ms) => (name, Json.nat ms.toNat)).map fun (name, v) =>
      (some name, v)).mapM (fun (name, v) => do
        let name ← name
        let ms ← Json.asUInt64? v
        return (name, ms)) = some entries := by
  induction entries with
  | nil => rfl
  | cons e entries ih =>
      obtain ⟨name, ms⟩ := e
      simp only [List.map_cons, List.mapM_cons, ih, Json.asUInt64?_nat]
      rfl

theorem Latencies.ofJson?_toJson (l : Latencies) : ofJson? l.toJson = some l := by
  have hentries := mapM_entries l.entries
  simp only [toJson, Json.record, ofJson?]
  rw [hentries]
  simp [ofList_entries]

theorem Latencies.plain {d : Nat} (l : Latencies) : Plain (d + 1) l.toJson := by
  refine .record fun f hf => ?_
  obtain ⟨⟨name, ms⟩, _, rfl⟩ := List.mem_map.mp hf
  exact .nat_uint64 ms

theorem Summary.ofJson?_toJson (held : Bool) (s : Summary) :
    ofJson? held s.toJson = some s := by
  obtain ⟨parts, hparts, hlookup⟩ :=
    layout.slots?_of_record rfl layout.names (by decide) (v := s.toJson) rfl rfl
  have hchecked : Slots.maybe parts "last_checked" Json.asTime? = some s.lastChecked :=
    Json.maybe_optional (hlookup "last_checked" (by simp [layout, Layout.full]))
      Json.time_ne_null Json.asTime?_time
  simp only [ofJson?, hparts, Option.bind_eq_bind, Option.bind_some]
  simp [hchecked, Slots.need, hlookup, layout, Layout.full, List.lookup_cons,
    Latencies.ofJson?_toJson, Features.ofJson?_toJson]

theorem Summary.plain {d : Nat} (s : Summary) : Plain (d + 2) s.toJson :=
  .record (by simp [Plain.bool, Latencies.plain, Features.plain, Plain.texts,
    Plain.optional Plain.time])

end Probing

/-! ## Agent records -/

namespace Agent

theorem Phase.ofJson?_toJson (held : Bool) (phase : Phase) :
    ofJson? held phase.toJson = some phase :=
  ofName?_name phase

theorem Phase.plain {d : Nat} (phase : Phase) : Plain d phase.toJson := .text phase.name

theorem TunRecord.ofJson?_toJson (r : TunRecord) : ofJson? r.toJson = some r := by
  obtain ⟨parts, hparts, hlookup⟩ :=
    layout.slots?_of_record rfl layout.names (by decide) (v := r.toJson) rfl rfl
  simp only [ofJson?, hparts, Option.bind_eq_bind, Option.bind_some]
  simp [Slots.need, hlookup, layout, Layout.full, List.lookup_cons]

theorem TunRecord.plain {d : Nat} (r : TunRecord) : Plain (d + 1) r.toJson :=
  .record (by simp [Plain.text, Plain.bool, Plain.nat_uint32])

theorem RouteRecord.ofJson?_toJson (r : RouteRecord) : ofJson? r.toJson = some r := by
  obtain ⟨parts, hparts, hlookup⟩ :=
    layout.slots?_of_record rfl layout.names (by decide) (v := r.toJson) rfl rfl
  simp only [ofJson?, hparts, Option.bind_eq_bind, Option.bind_some]
  simp [Slots.need, hlookup, layout, Layout.full, List.lookup_cons]

theorem RouteRecord.plain {d : Nat} (r : RouteRecord) : Plain (d + 2) r.toJson :=
  .record (by simp [Plain.text, Plain.bool, Plain.texts])

theorem TunnelRecord.ofJson?_toJson (r : TunnelRecord) : ofJson? r.toJson = some r := by
  obtain ⟨parts, hparts, hlookup⟩ :=
    layout.slots?_of_record rfl layout.names (by decide) (v := r.toJson) rfl rfl
  simp only [ofJson?, hparts, Option.bind_eq_bind, Option.bind_some]
  simp [Slots.need, hlookup, layout, Layout.full, List.lookup_cons]

theorem TunnelRecord.plain {d : Nat} (r : TunnelRecord) : Plain (d + 1) r.toJson :=
  .record (by simp [Plain.bool, Plain.nat_uint32, Plain.nat_uint64])

/-- A snapshot is read from any record that has its fields among others. -/
theorem Snapshot.ofJson?_fields (held : Bool) (s : Snapshot) (others : List (String × Json))
    (names : List String) (hothers : others.map Prod.fst = names)
    (hnodup : (layout.names ++ names).Nodup) :
    ofJson? held (.record (s.fields ++ others)) = some s := by
  have hnames : (s.fields ++ others).map Prod.fst = layout.names ++ names := by
    rw [List.map_append, hothers]
    rfl
  obtain ⟨parts, hparts, hlookup⟩ := layout.slots?_of_record rfl _ hnodup rfl hnames
  have hstarted : Slots.maybe parts "started_at" Json.asTime? = some s.startedAt :=
    Json.maybe_optional (hlookup "started_at" (by simp [layout, Layout.full]))
      Json.time_ne_null Json.asTime?_time
  simp only [ofJson?, hparts, Option.bind_eq_bind, Option.bind_some]
  simp [hstarted, Slots.need, hlookup, layout, Layout.full, fields, List.lookup_cons,
    Phase.ofJson?_toJson, TunRecord.ofJson?_toJson, RouteRecord.ofJson?_toJson,
    TunnelRecord.ofJson?_toJson, Probing.Summary.ofJson?_toJson]

theorem Snapshot.ofJson?_toJson (held : Bool) (s : Snapshot) :
    ofJson? held s.toJson = some s := by
  have hread := s.ofJson?_fields held [] [] rfl (by decide)
  rwa [List.append_nil] at hread

/-- The snapshot of a status report is read from the report itself, since its fields stand among
those of the report. -/
theorem Snapshot.ofJson?_report (held : Bool) (r : StatusReport) :
    ofJson? held r.toJson = some r.snapshot :=
  r.snapshot.ofJson?_fields held _ StatusReport.layout.names rfl (by decide)

theorem Snapshot.plain_fields {d : Nat} (s : Snapshot) : ∀ f ∈ s.fields, Plain (d + 2) f.2 := by
  simp [fields, Phase.plain, Plain.optional Plain.time, Plain.texts, TunRecord.plain,
    RouteRecord.plain, TunnelRecord.plain, Probing.Summary.plain]

theorem Snapshot.plain {d : Nat} (s : Snapshot) : Plain (d + 3) s.toJson := .record s.plain_fields

theorem StatusReport.plain {d : Nat} (r : StatusReport) : Plain (d + 3) r.toJson := by
  refine .record fun f hf => ?_
  rcases List.mem_append.mp hf with hf | hf
  · exact r.snapshot.plain_fields f hf
  · simp only [List.mem_cons, List.not_mem_nil, or_false] at hf
    rcases hf with rfl | rfl
    · exact .nat_uint64 r.uptimeSec
    · exact .time r.generatedAt

theorem StatusReport.ofJson?_toJson (r : StatusReport) : ofJson? r.toJson = some r := by
  obtain ⟨parts, hparts, hlookup⟩ :=
    layout.slots?_of_record rfl (Snapshot.layout.names ++ layout.names) (by decide)
      (v := r.toJson) rfl rfl
  have hsnapshot : Snapshot.ofJson? true r.toJson = some r.snapshot :=
    Snapshot.ofJson?_report true r
  have hplain : Plain 3 r.toJson := r.plain
  have hheld : r.toJson.isMeaningful ∧ r.toJson.depth ≤ maxDepth :=
    ⟨hplain.isMeaningful, Nat.le_trans hplain.depth_le (by decide)⟩
  -- the reader looks at the form of the whole object before it takes the parts out
  obtain ⟨fields, hfields⟩ : ∃ fields, r.toJson = .object fields := ⟨_, rfl⟩
  rw [hfields] at hparts hsnapshot hheld ⊢
  simp only [ofJson?, hheld, hparts, hsnapshot, Option.bind_eq_bind, Option.bind_some]
  simp [Slots.need, hlookup, layout, Layout.full, Snapshot.fields, List.lookup_cons]

theorem ErrorReport.ofJson?_toJson (r : ErrorReport) : ofJson? r.toJson = some r := by
  obtain ⟨parts, hparts, hlookup⟩ :=
    layout.slots?_of_record rfl layout.names (by decide) (v := r.toJson) rfl rfl
  simp only [ofJson?, hparts, Option.bind_eq_bind, Option.bind_some]
  simp [Slots.need, hlookup, layout, Layout.full, List.lookup_cons]

theorem ErrorReport.plain {d : Nat} (r : ErrorReport) : Plain (d + 1) r.toJson :=
  .record (by simp [Plain.text, Plain.time])

end Agent

/-! ## Records as texts -/

/-- What a text is read as, by the reader of a type. -/
def reread? {α : Type} (read : Json → Option α) (bytes : Bytes) : Option α :=
  (Json.read? bytes).bind read

/-- The text that is written for what a text is read as. -/
def rewritten? {α : Type} (write : α → Json) (read : Json → Option α) (bytes : Bytes) :
    Option Bytes :=
  (reread? read bytes).map fun a => (write a).print

/-- A type whose values come back from the texts that are written for them. A text that is read
is settled by one rewriting. -/
structure Survives {α : Type} (write : α → Json) (read : Json → Option α) : Prop where
  back : ∀ a, reread? read (write a).print = some a
  settled : ∀ bytes,
    (rewritten? write read bytes).bind (rewritten? write read) = rewritten? write read bytes

theorem survives_of_plain {α : Type} {write : α → Json} {read : Json → Option α} (d : Nat)
    (hplain : ∀ a, Plain d (write a)) (hread : ∀ a, read (write a) = some a) :
    Survives write read := by
  have hback : ∀ a, reread? read (write a).print = some a := fun a => by
    rw [reread?, (hplain a).read?_print, Option.bind_some, hread a]
  refine ⟨hback, fun bytes => ?_⟩
  cases hread' : reread? read bytes with
  | none => simp only [rewritten?, hread', Option.map_none, Option.bind_none]
  | some a => simp only [rewritten?, hread', Option.map_some, Option.bind_some, hback a]

namespace Agent

open Control (Route handle)
open Probing (AuthMethod Features Summary)

theorem survives_summary (held : Bool) : Survives Summary.toJson (Summary.ofJson? held) :=
  survives_of_plain 2 Summary.plain (Summary.ofJson?_toJson held)

theorem survives_report : Survives StatusReport.toJson StatusReport.ofJson? :=
  survives_of_plain 3 StatusReport.plain StatusReport.ofJson?_toJson

/-- What the status route answers is what its reader makes of it. -/
theorem statusOf_handle_status {env : Control.Surroundings} {store : Snapshot}
    {request : Control.Request} (hpath : request.path = "/v1/status")
    (hmethod : request.method = "GET") :
    let response := (handle env store request).response
    CommandLine.statusOf response.status.code response.body = .ok (store.report env.now) := by
  rw [Control.handle_status hpath hmethod]
  show CommandLine.statusOf 200 (store.report env.now).toJson.print = _
  have hback := survives_report.back (store.report env.now)
  rw [reread?] at hback
  rw [CommandLine.statusOf, if_neg (by decide), hback]

/-- Every type of record comes back from its text, held on to before or not. -/
structure RecordsSurvive (held : Bool) : Prop where
  snapshot : Survives Snapshot.toJson (Snapshot.ofJson? held)
  report : Survives StatusReport.toJson StatusReport.ofJson?
  /-- The snapshot of a report is read from the text of the report as well. -/
  flattened : ∀ r : StatusReport,
    reread? (Snapshot.ofJson? held) r.toJson.print = some r.snapshot
  summary : Survives Summary.toJson (Summary.ofJson? held)
  features : Survives Features.toJson (Features.ofJson? held)
  tun : Survives TunRecord.toJson TunRecord.ofJson?
  routes : Survives RouteRecord.toJson RouteRecord.ofJson?
  tunnel : Survives TunnelRecord.toJson TunnelRecord.ofJson?
  error : Survives ErrorReport.toJson ErrorReport.ofJson?
  phase : Survives Phase.toJson (Phase.ofJson? held)
  auth : Survives AuthMethod.toJson (AuthMethod.ofJson? held)
  /-- The client of the status route gets the report that the route was to give. -/
  status : ∀ env store body,
    let response := (handle env store ⟨"GET", Route.status.path, body⟩).response
    CommandLine.statusOf response.status.code response.body = .ok (store.report env.now)

/-- **Every record comes back from its text**, held on to before or not, the snapshot of a status
report from the report as well. What the status route answers is what its reader makes of it. -/
theorem records_survive_text (held : Bool) : RecordsSurvive held where
  snapshot := survives_of_plain 3 Snapshot.plain (Snapshot.ofJson?_toJson held)
  report := survives_report
  flattened r := by
    have hplain : Plain 3 r.toJson := r.plain
    rw [reread?, hplain.read?_print, Option.bind_some, Snapshot.ofJson?_report]
  summary := survives_summary held
  features := survives_of_plain 1 Features.plain (Features.ofJson?_toJson held)
  tun := survives_of_plain 1 TunRecord.plain TunRecord.ofJson?_toJson
  routes := survives_of_plain 2 RouteRecord.plain RouteRecord.ofJson?_toJson
  tunnel := survives_of_plain 1 TunnelRecord.plain TunnelRecord.ofJson?_toJson
  error := survives_of_plain 1 ErrorReport.plain ErrorReport.ofJson?_toJson
  phase := survives_of_plain 0 Phase.plain (Phase.ofJson?_toJson held)
  auth := survives_of_plain 0 AuthMethod.plain (AuthMethod.ofJson?_toJson held)
  status env store body := by
    have hpath : Control.targetPath Route.status.path = "/v1/status" := by decide
    exact statusOf_handle_status hpath rfl

end Agent

end SocksMonitor
