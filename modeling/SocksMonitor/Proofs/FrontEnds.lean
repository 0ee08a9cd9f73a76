import SocksMonitor.Control.Routes
import SocksMonitor.Proofs.Choice
import SocksMonitor.Proofs.Secrecy

/-!
# One probe from three front ends

Bodies, files and arguments have readers and defaults of their own. What they make of the same
`Choice` differs where something is left out: the request from a body then has zero and the empty
text, the two others have the defaults that a user is shown. Only the plan makes these the same
(`plan_request`), and a run depends on nothing but the plan (`runsLike_of_plan`).

`front_ends_agree` is the main statement.
-/

namespace SocksMonitor.FrontEnds

open CommandLine (OptionForm probeOptions readCommand)
open Control (ProbeBody)
open Probing (Dial ProbeRequest Signal Timing)
open Settings (DaemonSettings ProbeSettings)
open Socks (Credentials)

/-! ## Requests -/

namespace Choice

/-- The request of a choice, with a default for the timeout and one for the target. -/
def request (c : Choice) (timeoutMs : Nat) (target : String) : ProbeRequest where
  server := c.server
  timeoutMs := c.timeoutMs.getD timeoutMs
  auth := c.credentials
  connectTarget := c.target.getD target
  udpTest := c.udp.getD false

/-- The default for a target or a timeout that is left out may as well be left out of the
request. -/
theorem plan_request (c : Choice) :
    (c.request 0 "").plan = (c.request Probing.defaultTimeoutMs Probing.defaultTarget).plan := by
  have htarget : (c.request 0 "").targetText =
      (c.request Probing.defaultTimeoutMs Probing.defaultTarget).targetText := by
    unfold ProbeRequest.targetText request
    cases c.target with
    | none =>
        have hblank : Text.allBlank "".toList = true := by decide
        simp only [Option.getD_none, hblank, if_true, ite_self]
    | some target => rfl
  have htimeout : (if (c.request 0 "").timeoutMs = 0 then Probing.defaultTimeoutMs
        else (c.request 0 "").timeoutMs) =
      if (c.request Probing.defaultTimeoutMs Probing.defaultTarget).timeoutMs = 0
        then Probing.defaultTimeoutMs
        else (c.request Probing.defaultTimeoutMs Probing.defaultTarget).timeoutMs := by
    unfold request
    cases c.timeoutMs with
    | none => rfl
    | some ms => rfl
  unfold ProbeRequest.plan
  simp only [htarget, htimeout]
  rfl

end Choice

/-! ## Runs -/

/-- Against any peer both requests come to the same, up to the readings of the clock. -/
def RunsLike (r r' : ProbeRequest) : Prop :=
  ∀ (signal signal' : Signal) (timing timing' : Timing) (dial : Dial),
    signal.isRaised = signal'.isRaised →
      (r.run signal timing dial).Agree (r'.run signal' timing' dial)

/-- A run depends on its request only through the plan. -/
theorem runsLike_of_plan {r r' : ProbeRequest} (h : r.plan = r'.plan) : RunsLike r r' := by
  intro signal signal' timing timing' dial hsignal
  have hrun : r.run signal timing dial = r'.run signal' timing dial := by
    unfold ProbeRequest.run Signal.dial
    rw [h, hsignal]
  rw [hrun]
  exact Probing.agree_of_timing r' signal' timing timing' dial

/-! ## Requests from bodies -/

/-- A part that is told or left to its default. -/
theorem slot_getD {α : Type} {slots : Json.Slots} {name : String} {write : α → Json}
    {read : Json → Option α} {o : Option α} (hlookup : slots.lookup name = o.map write)
    (hread : ∀ a, o = some a → read (write a) = some a) (fallback : α) :
    slots.withDefault name fallback read = some (o.getD fallback) := by
  rw [Json.Slots.withDefault, hlookup]
  cases o with
  | none => rfl
  | some a => exact hread a rfl

theorem read_auth {parts : List (String × Json)} {pair : Credentials}
    (hnodup : (parts.map Prod.fst).Nodup)
    (husername : parts.lookup "username" = some (.text pair.username))
    (hpassword : parts.lookup "password" = some (.text pair.password)) :
    Control.AuthBody.ofJson? (.record parts) = some ⟨pair.username, pair.password⟩ := by
  obtain ⟨slots, hslots, hlookup⟩ := Control.AuthBody.layout.slots?_of_record rfl
    (parts.map Prod.fst) hnodup (v := .record parts) rfl rfl
  have hfirst : slots.lookup "username" = (some pair.username).map .text :=
    (hlookup _ (by decide)).trans husername
  have hsecond : slots.lookup "password" = (some pair.password).map .text :=
    (hlookup _ (by decide)).trans hpassword
  simp [Control.AuthBody.ofJson?, hslots, slot_getD hfirst fun _ _ => Json.asText?_text _,
    slot_getD hsecond fun _ _ => Json.asText?_text _]

/-- Credentials that are told are made out, unless both of their texts are empty. -/
theorem exists_auth_of_inAuth {slots : Json.Slots} {o : Option Credentials}
    (h : InAuth (slots.lookup "auth") o)
    (hfair : ∀ pair, o = some pair → pair.username ≠ "" ∨ pair.password ≠ "") :
    ∃ auth, slots.maybe "auth" Control.AuthBody.ofJson? = some auth
      ∧ auth.bind Control.AuthBody.credentials = o := by
  unfold Json.Slots.maybe
  generalize slots.lookup "auth" = field at h
  cases h with
  | absent => exact ⟨none, rfl, rfl⟩
  | null => exact ⟨none, rfl, rfl⟩
  | @given parts pair hnodup husername hpassword =>
      refine ⟨some ⟨pair.username, pair.password⟩, ?_, ?_⟩
      · exact congrArg (Option.map some) (read_auth hnodup husername hpassword)
      · have hgiven := hfair pair rfl
        rw [Option.bind_some, Control.AuthBody.credentials, if_neg]
        rwa [String.isEmpty_iff, String.isEmpty_iff, not_and_or]

theorem accept_of_inBody {c : Choice} (hfair : c.IsFair) {body : Bytes} (h : c.InBody body) :
    ProbeBody.accept body = .ok (c.request 0 "") := by
  obtain ⟨fields, hread, hobject⟩ := h
  obtain ⟨slots, hslots, hlookup⟩ := ProbeBody.layout.slots?_of_record rfl
    (fields.map Prod.fst) hobject.nodup (v := .record fields) rfl rfl
  have hserver : slots.lookup "socks_server" = (some c.server).map .text :=
    (hlookup _ (by decide)).trans hobject.server
  have htimeout : slots.lookup "timeout_ms" = c.timeoutMs.map .nat :=
    (hlookup _ (by decide)).trans hobject.timeoutMs
  have htarget : slots.lookup "connect_target" = c.target.map .text :=
    (hlookup _ (by decide)).trans hobject.target
  have hudp : slots.lookup "udp_test" = c.udp.map .bool :=
    (hlookup _ (by decide)).trans hobject.udp
  obtain ⟨auth, hauth, hcredentials⟩ := exists_auth_of_inAuth
    ((hlookup "auth" (by decide)) ▸ hobject.auth) hfair.credentials
  have hmillis : slots.withDefault "timeout_ms" 0
      (Json.asInt? (-0x8000000000000000) 0x7FFFFFFFFFFFFFFF) =
        some ((c.timeoutMs.getD 0 : Nat) : Int) := by
    rw [Json.Slots.withDefault, htimeout]
    cases hms : c.timeoutMs with
    | none => rfl
    | some ms =>
        have hle := hfair.timeoutMs ms hms
        exact Json.asInt?_nat (by omega) (Int.ofNat_le.mpr hle)
  have hbody : ProbeBody.ofJson? (.record fields) =
      some ⟨c.server, (c.timeoutMs.getD 0 : Nat), auth, c.target.getD "", c.udp.getD false⟩ := by
    simp [ProbeBody.ofJson?, hslots, hmillis, hauth,
      slot_getD hserver fun _ _ => Json.asText?_text _,
      slot_getD htarget fun _ _ => Json.asText?_text _,
      slot_getD hudp fun _ _ => Json.asBool?_bool _]
  rw [ProbeBody.accept, hread, Option.bind_some, hbody]
  simp [hfair.server, ProbeBody.request, hcredentials, Choice.request]

/-- The route makes this request of the body, if it reads the body at all. -/
theorem probe?_of_accept {request : Control.Request} {r : ProbeRequest}
    (hmethod : request.method = "POST") (hpath : request.path = "/v1/probe")
    (hlimit : request.body.length ≤ Control.bodyLimit)
    (haccept : ProbeBody.accept request.body = .ok r) : request.probe? = some r := by
  have hroute : Control.Route.ofPath? request.path = some .probe :=
    Control.Route.ofPath?_eq_some_iff.mpr hpath
  have hpost : Control.Route.probe.methods.contains request.method = true := by
    rw [hmethod]
    rfl
  rw [Control.Request.probe?, if_pos ⟨hroute, hpost, hlimit⟩, haccept]
  rfl

/-! ## Requests from files -/

/-- A setting that is told or left to its default. -/
theorem part_getD {α : Type} {parts : Toml.Parts} {name : String} {write : α → Toml.Value}
    {read : Toml.Value → Option α} {o : Option α} (hlookup : parts.lookup name = o.map write)
    (hread : ∀ a, read (write a) = some a) (fallback : α) :
    parts.withDefault name fallback read = some (o.getD fallback) := by
  rw [Toml.Parts.withDefault, hlookup]
  cases o with
  | none => rfl
  | some a => exact hread a

theorem asText?_string (s : String) : Toml.Value.asText? (.string s) = some s := rfl

theorem asBool?_bool (b : Bool) : Toml.Value.asBool? (.bool b) = some b := rfl

theorem asNat?_nat (n : Nat) : Toml.Value.asNat? (.nat n) = some n := by
  simp [Toml.Value.asNat?, Toml.Value.nat]

theorem credentials_of_inCredentials {parts : Toml.Parts} {o : Option Credentials}
    (h : InCredentials (parts.lookup "auth") o) :
    parts.maybe "auth" Settings.credentials? = some o := by
  unfold Toml.Parts.maybe Toml.Parts.withDefault
  generalize parts.lookup "auth" = entry at h
  cases h with
  | absent => rfl
  | given husername hpassword =>
      simp [Settings.credentials?, Toml.Value.parts?, Toml.Parts.need, husername, hpassword,
        Toml.Value.asText?]

/-- The settings of a choice. -/
def Choice.settings (c : Choice) (intervalSecs : Nat) : ProbeSettings where
  server := some c.server
  timeoutMs := c.timeoutMs.getD Probing.defaultTimeoutMs
  connectTarget := c.target.getD Probing.defaultTarget
  udpTest := c.udp.getD false
  intervalSecs := intervalSecs
  auth := c.credentials

theorem settings_of_inTable {c : Choice} {probe : Toml.Parts} (h : c.InTable probe) :
    ∃ secs, ProbeSettings.ofValue? (.table probe) = some (c.settings secs) := by
  obtain ⟨secs, hsecs⟩ := h.interval
  have hserver : Toml.Parts.maybe probe "server" Toml.Value.asText? = some (some c.server) := by
    simp [Toml.Parts.maybe, Toml.Parts.withDefault, h.server, asText?_string]
  refine ⟨secs.getD 0, ?_⟩
  simp only [ProbeSettings.ofValue?, Toml.Value.parts?, Option.bind_eq_bind, Option.bind_some,
    hserver, part_getD h.timeoutMs asNat?_nat, part_getD h.target asText?_string,
    part_getD h.udp asBool?_bool, part_getD hsecs asNat?_nat,
    credentials_of_inCredentials h.auth]
  rfl

theorem load_of_inFile {c : Choice} {file : Bytes} (h : c.InFile file) :
    ∃ settings, DaemonSettings.load (.ok file) = .ok settings
      ∧ settings.probe.server = some c.server
      ∧ settings.probe.request c.server =
        c.request Probing.defaultTimeoutMs Probing.defaultTarget := by
  obtain ⟨document, entries, probe, control, hutf8, hdocument, hprobe, hcontrol, htable⟩ := h
  obtain ⟨secs, hsettings⟩ := settings_of_inTable htable
  have hread : Toml.Parts.withDefault entries "probe" {} ProbeSettings.ofValue? =
      some (c.settings secs) := by
    rw [Toml.Parts.withDefault, hprobe]
    exact hsettings
  have hparts : DaemonSettings.ofParts? entries = some ⟨control, c.settings secs⟩ := by
    rw [DaemonSettings.ofParts?, hcontrol, hread]
    rfl
  refine ⟨⟨control, c.settings secs⟩, ?_, rfl, rfl⟩
  simp [DaemonSettings.load, hutf8, DaemonSettings.ofDocument?, hdocument, hparts]

/-! ## Requests from arguments -/

theorem readCommand_of_inArguments {c : Choice} {args : List String} (h : c.InArguments args) :
    readCommand ("probe" :: args) =
      .ok (.probe (c.request Probing.defaultTimeoutMs Probing.defaultTarget)) := by
  obtain ⟨given, hgives, hoptions⟩ := h
  obtain ⟨found, hfound, hlookup⟩ :=
    CommandLine.exists_readOptions CommandLine.distinct_probeOptions hgives hoptions.nodup
  have hword : CommandLine.shape "probe" = .word := by decide
  rw [readCommand, if_pos hword]
  show CommandLine.readOptions probeOptions [] args >>= CommandLine.probeCommand = _
  rw [hfound]
  show CommandLine.probeCommand found = _
  simp only [CommandLine.probeCommand, hlookup, hoptions.server, hoptions.timeoutMs,
    hoptions.target, hoptions.udp, hoptions.username, hoptions.password]
  cases hcredentials : c.credentials with
  | none => simp [Choice.request, hcredentials]
  | some pair => simp [Choice.request, hcredentials]

/-! ## All three -/

/-- Requests that the front ends have made of the same choice. -/
structure Alike (c : Choice) (posted filed typed : ProbeRequest) : Prop where
  body : posted = c.request 0 ""
  file : filed = c.request 3000 "example.com:80"
  arguments : typed = c.request 3000 "example.com:80"
  /-- If only a default that all of them have is used, they are equal. -/
  equal : c.timeoutMs.isSome → c.target.isSome → posted = filed ∧ filed = typed
  plan : posted.plan = filed.plan ∧ filed.plan = typed.plan
  runs : RunsLike posted filed ∧ RunsLike filed typed

theorem alike_request (c : Choice) :
    Alike c (c.request 0 "") (c.request Probing.defaultTimeoutMs Probing.defaultTarget)
      (c.request Probing.defaultTimeoutMs Probing.defaultTarget) where
  body := rfl
  file := rfl
  arguments := rfl
  equal htimeout htarget := by
    obtain ⟨ms, hms⟩ := Option.isSome_iff_exists.mp htimeout
    obtain ⟨target, htarget⟩ := Option.isSome_iff_exists.mp htarget
    simp [Choice.request, hms, htarget]
  plan := ⟨c.plan_request, rfl⟩
  runs := ⟨runsLike_of_plan c.plan_request, runsLike_of_plan rfl⟩

/-- **The three front ends mean the same probe.** A choice can be told to each of them. Whatever
body, file and arguments tell it, all are accepted, and what is made of them is the same probe, also
where something is left out. -/
theorem front_ends_agree {c : Choice} (hfair : c.IsFair) :
    (∃ body file args, c.InBody body ∧ c.InFile file ∧ c.InArguments args)
      ∧ ∀ body file args, c.InBody body → c.InFile file → c.InArguments args →
        ∃ posted settings typed, ProbeBody.accept body = .ok posted
          ∧ (∀ request : Control.Request, request.method = "POST" → request.path = "/v1/probe" →
            request.body = body → body.length ≤ Control.bodyLimit → request.probe? = some posted)
          ∧ DaemonSettings.load (.ok file) = .ok settings
          ∧ settings.probe.server = some c.server
          ∧ readCommand ("probe" :: args) = .ok (.probe typed)
          ∧ Alike c posted (settings.probe.request c.server) typed := by
  constructor
  · obtain ⟨body, hbody⟩ := Choice.exists_inBody hfair
    obtain ⟨file, hfile⟩ := Choice.exists_inFile hfair
    obtain ⟨args, hargs⟩ := Choice.exists_inArguments hfair
    exact ⟨body, file, args, hbody, hfile, hargs⟩
  · intro body file args hbody hfile hargs
    have haccept := accept_of_inBody hfair hbody
    obtain ⟨settings, hload, hserver, hrequest⟩ := load_of_inFile hfile
    refine ⟨_, settings, _, haccept, ?_, hload, hserver, readCommand_of_inArguments hargs, ?_⟩
    · rintro request hmethod hpath rfl hlimit
      exact probe?_of_accept hmethod hpath hlimit haccept
    · rw [hrequest]
      exact alike_request c

/-- A password without a username, with everything else left out and the options in an order of
their own. -/
theorem front_ends_agree_on_password :
    ∃ body file posted settings typed, ProbeBody.accept body = .ok posted
      ∧ DaemonSettings.load (.ok file) = .ok settings
      ∧ readCommand ["probe", "--password=é", "-sproxy:1080", "--username", ""] =
        .ok (.probe typed)
      ∧ Alike { server := "proxy:1080", credentials := some ⟨"", "é"⟩ } posted
          (settings.probe.request "proxy:1080") typed := by
  have hfair : Choice.IsFair { server := "proxy:1080", credentials := some ⟨"", "é"⟩ } := by
    refine ⟨by decide, nofun, ?_⟩
    rintro _ ⟨⟩
    exact .inr (by decide)
  have hpassword : OptionForm.Spells ⟨"password", none, CommandLine.anyText⟩ "é"
      ["--password=é"] := .joined ⟨_, rfl, rfl⟩
  have hserver : OptionForm.Spells ⟨"server", some 's', CommandLine.anyText⟩ "proxy:1080"
      ["-sproxy:1080"] := .letterJoined ⟨_, rfl, rfl⟩ rfl rfl (by decide)
  have husername : OptionForm.Spells ⟨"username", none, CommandLine.anyText⟩ ""
      ["--username", ""] := .apart ⟨_, rfl, rfl⟩ (by simp [CommandLine.IsWord])
  have hargs : Choice.InArguments { server := "proxy:1080", credentials := some ⟨"", "é"⟩ }
      ["--password=é", "-sproxy:1080", "--username", ""] := by
    refine ⟨_, .more (by simp [probeOptions]) hpassword (.more (by simp [probeOptions]) hserver
      (.more (by simp [probeOptions]) husername .none)), ?_⟩
    exact ⟨by decide, rfl, rfl, rfl, rfl, rfl, rfl⟩
  obtain ⟨⟨body, file, -, hbody, hfile, -⟩, hagree⟩ := front_ends_agree hfair
  obtain ⟨posted, settings, typed, haccept, -, hload, -, hread, halike⟩ :=
    hagree body file _ hbody hfile hargs
  exact ⟨body, file, posted, settings, typed, haccept, hload, hread, halike⟩

end SocksMonitor.FrontEnds
