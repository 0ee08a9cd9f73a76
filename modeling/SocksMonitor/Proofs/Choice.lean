import SocksMonitor.Proofs.GivenOptions
import SocksMonitor.Proofs.RecordParts
import SocksMonitor.Proofs.TomlText
import SocksMonitor.Settings.Document

/-!
# What a caller wants of a probe

A probe can be asked for in a request to the control plane, in the settings file and on the command
line. A `Choice` is what a caller wants, apart from how it is told. `InBody`, `InFile` and
`InArguments` say that a body, a file or arguments tell it: in any order, in any spelling that has
the values, and beside anything else that the reader passes over.

Every choice within the bounds of the readers (`IsFair`) can be told in each of the three ways
(`exists_inBody`, `exists_inFile`, `exists_inArguments`).
-/

namespace SocksMonitor.FrontEnds

open CommandLine (Given Gives probeOptions)
open Settings (ControlSettings)
open Socks (Credentials)

/-- What a caller wants of a probe; what is missing is left to the defaults. -/
structure Choice where
  server : String
  timeoutMs : Option Nat := none
  target : Option String := none
  udp : Option Bool := none
  credentials : Option Credentials := none

namespace Choice

/-- What all front ends can be told. -/
structure IsFair (c : Choice) : Prop where
  server : c.server ≠ ""
  timeoutMs : ∀ ms, c.timeoutMs = some ms → ms ≤ 0x7FFFFFFFFFFFFFFF
  credentials : ∀ pair, c.credentials = some pair → pair.username ≠ "" ∨ pair.password ≠ ""

end Choice

/-! ## Ways of telling -/

/-- Credentials in a body, or none. -/
inductive InAuth : Option Json → Option Credentials → Prop where
  | absent : InAuth none none
  | null : InAuth (some .null) none
  | given {parts : List (String × Json)} {pair : Credentials}
      (hnodup : (parts.map Prod.fst).Nodup)
      (husername : parts.lookup "username" = some (.text pair.username))
      (hpassword : parts.lookup "password" = some (.text pair.password)) :
      InAuth (some (.record parts)) (some pair)

/-- The fields of an object tell the choice. -/
structure Choice.InObject (c : Choice) (fields : List (String × Json)) : Prop where
  nodup : (fields.map Prod.fst).Nodup
  server : fields.lookup "socks_server" = some (.text c.server)
  timeoutMs : fields.lookup "timeout_ms" = c.timeoutMs.map .nat
  target : fields.lookup "connect_target" = c.target.map .text
  udp : fields.lookup "udp_test" = c.udp.map .bool
  auth : InAuth (fields.lookup "auth") c.credentials

/-- The body is a JSON object that tells the choice. -/
def Choice.InBody (c : Choice) (body : Bytes) : Prop :=
  ∃ fields, Json.read? body = some (.record fields) ∧ c.InObject fields

/-- Credentials in a file, or none. -/
inductive InCredentials : Option Toml.Value → Option Credentials → Prop where
  | absent : InCredentials none none
  | given {parts : Toml.Parts} {pair : Credentials}
      (husername : parts.lookup "username" = some (.string pair.username))
      (hpassword : parts.lookup "password" = some (.string pair.password)) :
      InCredentials (some (.table parts)) (some pair)

/-- The settings of the probe tell the choice. A time between probes may be among them. -/
structure Choice.InTable (c : Choice) (probe : Toml.Parts) : Prop where
  server : probe.lookup "server" = some (.string c.server)
  timeoutMs : probe.lookup "timeout_ms" = c.timeoutMs.map .nat
  target : probe.lookup "connect_target" = c.target.map .string
  udp : probe.lookup "udp_test" = c.udp.map .bool
  auth : InCredentials (probe.lookup "auth") c.credentials
  interval : ∃ secs : Option Nat, probe.lookup "interval_secs" = secs.map .nat

/-- The file is a TOML document whose table `probe` tells the choice. Its other settings are
readable. -/
def Choice.InFile (c : Choice) (file : Bytes) : Prop :=
  ∃ document entries probe control, Text.ofUtf8? file = some document
    ∧ Toml.read? document = some entries ∧ entries.lookup "probe" = some (.table probe)
    ∧ Toml.Parts.withDefault entries "api" {} ControlSettings.ofValue? = some control
    ∧ c.InTable probe

/-- The options that are given tell the choice. A flag is given to turn it on. -/
structure Choice.InOptions (c : Choice) (given : Given) : Prop where
  nodup : (given.map Prod.fst).Nodup
  server : given.lookup "server" = some c.server
  timeoutMs : (given.lookup "timeout-ms").bind CommandLine.readMillis? = c.timeoutMs
  target : given.lookup "target" = c.target
  udp : (given.lookup "udp").isSome = c.udp.getD false
  username : given.lookup "username" = c.credentials.map (·.username)
  password : given.lookup "password" = c.credentials.map (·.password)

/-- The arguments behind the name of the command tell the choice. -/
def Choice.InArguments (c : Choice) (args : List String) : Prop :=
  ∃ given, Gives probeOptions given args ∧ c.InOptions given

/-! ## Entries that may be missing -/

/-- The entries that are there. -/
def kept {α : Type} (entries : List (String × Option α)) : List (String × α) :=
  entries.filterMap fun (name, o) => o.map (name, ·)

section Kept

variable {α : Type} {entries : List (String × Option α)}

theorem names_kept : ((kept entries).map Prod.fst).Sublist (entries.map Prod.fst) := by
  induction entries with
  | nil => exact .slnil
  | cons e entries ih =>
      obtain ⟨name, _ | a⟩ := e
      · exact ih.cons name
      · exact ih.cons_cons name

theorem lookup_kept (hnodup : (entries.map Prod.fst).Nodup) {name : String} {o : Option α}
    (hmem : (name, o) ∈ entries) : (kept entries).lookup name = o := by
  induction entries with
  | nil => cases hmem
  | cons e entries ih =>
      obtain ⟨key, o'⟩ := e
      obtain ⟨hfresh, hothers⟩ := List.nodup_cons.mp hnodup
      rcases List.mem_cons.mp hmem with heq | hlater
      · cases heq
        cases o with
        | some a => exact List.lookup_cons_self
        | none =>
            refine List.lookup_eq_none_iff.mpr fun p hp => bne_iff_ne.mpr ?_
            rintro rfl
            exact hfresh (names_kept.subset (List.mem_map_of_mem hp))
      · have hne : name ≠ key := by
          rintro rfl
          exact hfresh (List.mem_map.mpr ⟨_, hlater, rfl⟩)
        cases o' with
        | none => exact ih hothers hlater
        | some a => exact (Json.lookup_cons_of_ne hne a _).trans (ih hothers hlater)

theorem forall_kept_cons {p : String × α → Prop} {name : String} {o : Option α} :
    (∀ e ∈ kept ((name, o) :: entries), p e) ↔
      (∀ a, o = some a → p (name, a)) ∧ ∀ e ∈ kept entries, p e := by
  cases o <;> simp [kept]

theorem forall_kept_nil {p : String × α → Prop} : ∀ e ∈ kept ([] : List (String × Option α)), p e :=
  nofun

end Kept

namespace Choice

variable (c : Choice)

/-! ## Telling in a body -/

/-- The fields of an object that tells the choice. -/
def fields : List (String × Option Json) :=
  [("socks_server", some (.text c.server)), ("timeout_ms", c.timeoutMs.map .nat),
    ("connect_target", c.target.map .text), ("udp_test", c.udp.map .bool),
    ("auth", c.credentials.map fun pair =>
      .record [("username", .text pair.username), ("password", .text pair.password)])]

theorem nodup_fields : (c.fields.map Prod.fst).Nodup := by
  simp [fields]

theorem inObject_fields : c.InObject (kept c.fields) := by
  have hlookup {name : String} {o : Option Json} (h : (name, o) ∈ c.fields) :
      (kept c.fields).lookup name = o := lookup_kept c.nodup_fields h
  constructor
  · exact c.nodup_fields.sublist names_kept
  · exact hlookup (by simp [fields])
  · exact hlookup (by simp [fields])
  · exact hlookup (by simp [fields])
  · exact hlookup (by simp [fields])
  · have hauth : ("auth", c.credentials.map fun pair =>
        Json.record [("username", .text pair.username), ("password", .text pair.password)])
          ∈ c.fields := by simp [fields]
    rw [hlookup hauth]
    cases c.credentials with
    | none => exact .absent
    | some pair => exact .given (by simp) rfl rfl

theorem plain_fields {c : Choice} (hfair : c.IsFair) : ∀ f ∈ kept c.fields, Json.Plain 1 f.2 := by
  have htimeout : ∀ ms, c.timeoutMs = some ms → Json.Plain 1 (.nat ms) := fun ms hms =>
    .nat (Nat.lt_of_le_of_lt (hfair.timeoutMs ms hms) (by decide))
  simp only [fields, forall_kept_cons, Option.map_eq_some_iff, Option.some.injEq]
  refine ⟨?_, ?_, ?_, ?_, ?_, forall_kept_nil⟩
  · rintro _ rfl
    exact .text _
  · rintro _ ⟨ms, hms, rfl⟩
    exact htimeout ms hms
  · rintro _ ⟨target, -, rfl⟩
    exact .text target
  · rintro _ ⟨udp, -, rfl⟩
    exact .bool udp
  · rintro _ ⟨pair, -, rfl⟩
    exact .record (by simp [Json.Plain.text])

theorem exists_inBody {c : Choice} (hfair : c.IsFair) : ∃ body, c.InBody body :=
  ⟨_, _, (Json.Plain.record (plain_fields hfair)).read?_print, c.inObject_fields⟩

/-! ## Telling in a file -/

/-- The settings of a table that tells the choice. -/
def entries : List (String × Option Toml.Value) :=
  [("server", some (.string c.server)), ("timeout_ms", c.timeoutMs.map .nat),
    ("connect_target", c.target.map .string), ("udp_test", c.udp.map .bool),
    ("auth", c.credentials.map fun pair =>
      .table [("username", .string pair.username), ("password", .string pair.password)]),
    ("interval_secs", none)]

theorem nodup_entries : (c.entries.map Prod.fst).Nodup := by
  simp [entries]

theorem inTable_entries : c.InTable (kept c.entries) := by
  have hlookup {name : String} {o : Option Toml.Value} (h : (name, o) ∈ c.entries) :
      (kept c.entries).lookup name = o := lookup_kept c.nodup_entries h
  constructor
  · exact hlookup (by simp [entries])
  · exact hlookup (by simp [entries])
  · exact hlookup (by simp [entries])
  · exact hlookup (by simp [entries])
  · have hauth : ("auth", c.credentials.map fun pair =>
        Toml.Value.table [("username", .string pair.username), ("password", .string pair.password)])
          ∈ c.entries := by simp [entries]
    rw [hlookup hauth]
    cases c.credentials with
    | none => exact .absent
    | some pair => exact .given rfl rfl
  · exact ⟨none, hlookup (by simp [entries])⟩

theorem isWritable_credentials (levels : Nat) (pair : Credentials) :
    Toml.IsWritable (levels + 1)
      (.table [("username", .string pair.username), ("password", .string pair.password)]) := by
  refine .table (List.cons_ne_nil _ _) (by simp) ?_
  simp only [List.forall_mem_cons, List.not_mem_nil, false_imp_iff, implies_true, and_true]
  exact ⟨⟨by decide, _, .string levels _⟩, by decide, _, .string levels _⟩

theorem isWritable_entries {c : Choice} (hfair : c.IsFair) (levels : Nat) :
    ∀ e ∈ kept c.entries, Toml.IsBareName e.1 ∧ Toml.IsWritable (levels + 1) e.2 := by
  have htimeout : ∀ ms, c.timeoutMs = some ms →
      Toml.IsWritable (levels + 1) (.nat ms) := fun ms hms =>
    ⟨_, .nat (levels + 1) (Nat.lt_of_le_of_lt (hfair.timeoutMs ms hms) (by decide))⟩
  simp only [entries, forall_kept_cons, Option.map_eq_some_iff, Option.some.injEq]
  refine ⟨?_, ?_, ?_, ?_, ?_, nofun, forall_kept_nil⟩
  · rintro _ rfl
    exact ⟨by decide, _, .string _ _⟩
  · rintro _ ⟨ms, hms, rfl⟩
    exact ⟨by decide, htimeout ms hms⟩
  · rintro _ ⟨target, -, rfl⟩
    exact ⟨by decide, _, .string _ target⟩
  · rintro _ ⟨udp, -, rfl⟩
    exact ⟨by decide, _, .bool _ udp⟩
  · rintro _ ⟨pair, -, rfl⟩
    exact ⟨by decide, isWritable_credentials levels pair⟩

theorem exists_inFile {c : Choice} (hfair : c.IsFair) : ∃ file, c.InFile file := by
  have hserver : ("server", Toml.Value.string c.server) ∈ kept c.entries := List.mem_cons_self
  have htable : Toml.IsWritable Toml.nestingLimit (.table (kept c.entries)) :=
    .table (List.ne_nil_of_mem hserver) (c.nodup_entries.sublist names_kept)
      (isWritable_entries hfair _)
  obtain ⟨document, hdocument⟩ :=
    Toml.exists_document (show Toml.IsBareName "probe" by decide) htable
  exact ⟨Text.utf8 document, document, _, _, {}, Text.ofUtf8?_utf8 document, hdocument, rfl, rfl,
    c.inTable_entries⟩

/-! ## Telling in arguments -/

/-- The options that tell the choice. -/
def options : List (String × Option String) :=
  [("server", some c.server), ("timeout-ms", c.timeoutMs.map Numeral.decimalText),
    ("target", c.target), ("udp", if c.udp.getD false then some "" else none),
    ("username", c.credentials.map (·.username)), ("password", c.credentials.map (·.password))]

theorem nodup_options : (c.options.map Prod.fst).Nodup := by
  simp [options]

theorem readMillis?_of_isFair {c : Choice} (hfair : c.IsFair) (ms : Nat)
    (hms : c.timeoutMs = some ms) :
    CommandLine.readMillis? (Numeral.decimalText ms) = some ms :=
  CommandLine.readMillis?_decimalText (Nat.lt_of_le_of_lt (hfair.timeoutMs ms hms) (by decide))

theorem inOptions_options {c : Choice} (hfair : c.IsFair) : c.InOptions (kept c.options) := by
  have hlookup {name : String} {o : Option String} (h : (name, o) ∈ c.options) :
      (kept c.options).lookup name = o := lookup_kept c.nodup_options h
  constructor
  · exact c.nodup_options.sublist names_kept
  · exact hlookup (by simp [options])
  · have htimeout : ("timeout-ms", c.timeoutMs.map Numeral.decimalText) ∈ c.options := by
      simp [options]
    rw [hlookup htimeout]
    cases hms : c.timeoutMs with
    | none => rfl
    | some ms => exact readMillis?_of_isFair hfair ms hms
  · exact hlookup (by simp [options])
  · have hudp : ("udp", if c.udp.getD false then some "" else none) ∈ c.options := by
      simp [options]
    rw [hlookup hudp]
    cases c.udp.getD false <;> rfl
  · exact hlookup (by simp [options])
  · exact hlookup (by simp [options])

theorem spells_options {c : Choice} (hfair : c.IsFair) :
    ∀ o ∈ kept c.options, ∃ option ∈ probeOptions, option.name = o.1
      ∧ ∃ args, option.Spells o.2 args := by
  have htext (name : String) (letter : Option Char)
      (hmem : ⟨name, letter, CommandLine.anyText⟩ ∈ probeOptions) (value : String) :
      ∃ option ∈ probeOptions, option.name = name ∧ ∃ args, option.Spells value args :=
    ⟨_, hmem, rfl, _, .joined ⟨_, rfl, rfl⟩⟩
  simp only [options, forall_kept_cons, Option.map_eq_some_iff, Option.some.injEq]
  refine ⟨?_, ?_, ?_, ?_, ?_, ?_, forall_kept_nil⟩
  · rintro _ rfl
    exact htext _ (some 's') (by simp [probeOptions]) _
  · rintro _ ⟨ms, hms, rfl⟩
    refine ⟨⟨"timeout-ms", none, .value fun s => (CommandLine.readMillis? s).isSome⟩,
      by simp [probeOptions], rfl, _, .joined ⟨_, rfl, ?_⟩⟩
    rw [readMillis?_of_isFair hfair ms hms]
    rfl
  · rintro target -
    exact htext _ (some 't') (by simp [probeOptions]) target
  · intro value hvalue
    obtain rfl : value = "" := by
      split at hvalue
      · exact (Option.some.inj hvalue).symm
      · cases hvalue
    exact ⟨⟨"udp", none, .flag⟩, by simp [probeOptions], rfl, _, .flag rfl⟩
  · rintro _ ⟨pair, -, rfl⟩
    exact htext _ none (by simp [probeOptions]) _
  · rintro _ ⟨pair, -, rfl⟩
    exact htext _ none (by simp [probeOptions]) _

theorem exists_inArguments {c : Choice} (hfair : c.IsFair) : ∃ args, c.InArguments args := by
  obtain ⟨args, hargs⟩ := CommandLine.exists_gives (spells_options hfair)
  exact ⟨args, kept c.options, hargs, inOptions_options hfair⟩

end Choice

end SocksMonitor.FrontEnds
