import SocksMonitor.Proofs.RecordText

/-!
# The shape of failures

A failure tells its reason as a JSON record of a text and a time (`Reports`), whether it comes from
the path, the method, the body or the probe. The one exception is a body beyond the limit
(`Overlong`), which is turned away before its route sees it, with a plain text.

`failure_reported_iff` says so for every request whose answer has a body.
-/

namespace SocksMonitor.Control

open Agent (ErrorReport Snapshot)

/-- The response is the JSON record of a failure, and is read as that record. -/
structure Reports (response : Response) (report : ErrorReport) : Prop where
  mediaType : response.content.mediaType = "application/json"
  body : response.body = report.toJson.print
  read : reread? ErrorReport.ofJson? response.body = some report

/-- The body of the request is longer than the routes that read it allow. -/
structure Overlong (request : Request) : Prop where
  method : request.method = "POST"
  path : request.path ∈ ["/v1/probe", "/v1/start", "/v1/stop"]
  size : 2097152 < request.body.length

theorem reports_of_content {response : Response} {report : ErrorReport}
    (hcontent : response.content = .record report.toJson) (hwhole : response.headOnly = false) :
    Reports response report := by
  have hbody : response.body = report.toJson.print := by
    simp [Response.body, hwhole, hcontent, Content.bytes]
  refine ⟨by rw [hcontent]; rfl, hbody, ?_⟩
  have hsurvives := survives_of_plain 1 ErrorReport.plain ErrorReport.ofJson?_toJson
  rw [hbody]
  exact hsurvives.back report

section Requests

variable {env : Surroundings} {store : Snapshot} {request : Request}

/-! ## Routes -/

theorem content_probeResponse {now : Time.Timestamp} {report : Probing.Report}
    (hfail : (probeResponse now report).status ≠ .ok) :
    ∃ text, (probeResponse now report).content = .record (ErrorReport.toJson ⟨text, now⟩) := by
  unfold probeResponse at hfail ⊢
  split at hfail
  · exact absurd rfl hfail
  · exact ⟨_, rfl⟩

/-- What a route does not do, it reports. -/
theorem content_serve {route : Route} {body : Bytes}
    (hfail : (route.serve env store body).response.status ≠ .ok) :
    ∃ text, (route.serve env store body).response.content
      = .record (ErrorReport.toJson ⟨text, env.now⟩) := by
  cases route with
  | health | status => exact absurd rfl hfail
  | probe =>
      simp only [Route.serve] at hfail ⊢
      cases haccept : ProbeBody.accept body with
      | error text => exact ⟨text, rfl⟩
      | ok probe =>
          simp only [haccept] at hfail
          exact content_probeResponse hfail
  | start =>
      simp only [Route.serve]
      cases StartBody.accept body with
      | error text => exact ⟨text, rfl⟩
      | ok _ => exact ⟨_, rfl⟩
  | stop =>
      simp only [Route.serve]
      cases StopBody.accept body with
      | error text => exact ⟨text, rfl⟩
      | ok _ => exact ⟨_, rfl⟩

theorem methods_of_readsBody {route : Route} (hreads : route.readsBody = true) :
    route.methods = ["POST"] ∧ route.path ∈ ["/v1/probe", "/v1/start", "/v1/stop"] := by
  cases route with
  | health | status => cases hreads
  | probe | start | stop => decide

/-! ## Requests -/

theorem mediaType_tooLarge : tooLarge.content.mediaType ≠ "application/json" := by
  decide

theorem handle_of_overlong (hoverlong : Overlong request) :
    handle env store request = .only store tooLarge := by
  obtain ⟨route, hpath, hreads⟩ :
      ∃ route : Route, request.path = route.path ∧ route.readsBody = true := by
    have hpath := hoverlong.path
    simp only [List.mem_cons, List.not_mem_nil, or_false] at hpath
    rcases hpath with hpath | hpath | hpath
    · exact ⟨.probe, hpath, rfl⟩
    · exact ⟨.start, hpath, rfl⟩
    · exact ⟨.stop, hpath, rfl⟩
  have hmethod : route.methods.contains request.method = true := by
    rw [(methods_of_readsBody hreads).1, hoverlong.method]
    rfl
  have hhead : request.method ≠ "HEAD" := by
    rw [hoverlong.method]
    decide
  rw [handle_of_route route hpath hmethod hhead, Route.answer, if_pos ⟨hreads, hoverlong.size⟩]

theorem exists_reports (hhead : request.method ≠ "HEAD")
    (hfail : (handle env store request).response.status ≠ .ok) (hfits : ¬ Overlong request) :
    ∃ text, Reports (handle env store request).response ⟨text, env.now⟩ := by
  have hwhole : (handle env store request).response.headOnly = false :=
    beq_eq_false_iff_ne.mpr hhead
  cases hroute : Route.ofPath? request.path with
  | none =>
      refine ⟨"not found", reports_of_content ?_ hwhole⟩
      simp only [handle, hroute]
      rfl
  | some route =>
      have hpath : request.path = route.path := Route.ofPath?_eq_some_iff.mp hroute
      by_cases hmethod : route.methods.contains request.method = true
      · have hlimit : ¬ (route.readsBody = true ∧ bodyLimit < request.body.length) := by
          rintro ⟨hreads, hsize⟩
          obtain ⟨hpost, hpaths⟩ := methods_of_readsBody hreads
          refine hfits ⟨?_, hpath.symm ▸ hpaths, hsize⟩
          simpa [hpost] using hmethod
        have hserve : handle env store request = route.serve env store request.body := by
          rw [handle_of_route route hpath hmethod hhead, Route.answer, if_neg hlimit]
        rw [hserve] at hfail hwhole ⊢
        obtain ⟨text, hcontent⟩ := content_serve hfail
        exact ⟨text, reports_of_content hcontent hwhole⟩
      · refine ⟨"method not allowed", reports_of_content ?_ hwhole⟩
        simp only [handle, hroute, hmethod]
        rfl

/-- A failure is reported exactly if it is not one of an overlong body. The report has the time of
the request. -/
theorem failure_reported_iff (hhead : request.method ≠ "HEAD")
    (hfail : (handle env store request).response.status.isFailure = true) :
    ((∃ report, Reports (handle env store request).response report) ↔ ¬ Overlong request) ∧
      ∀ report, Reports (handle env store request).response report →
        report.timestamp = env.now := by
  have hmissing : Overlong request → ∀ report,
      ¬ Reports (handle env store request).response report := by
    intro hoverlong report hreports
    have hmedia := hreports.mediaType
    rw [handle_of_overlong hoverlong] at hmedia
    exact mediaType_tooLarge hmedia
  have hreported : ¬ Overlong request →
      ∃ text, Reports (handle env store request).response ⟨text, env.now⟩ :=
    exists_reports hhead (Status.isFailure_iff.mp hfail)
  refine ⟨⟨?_, ?_⟩, ?_⟩
  · rintro ⟨report, hreports⟩ hoverlong
    exact hmissing hoverlong report hreports
  · intro hfits
    obtain ⟨text, hreports⟩ := hreported hfits
    exact ⟨_, hreports⟩
  · intro report hreports
    have hfits : ¬ Overlong request := fun hoverlong => hmissing hoverlong report hreports
    obtain ⟨text, hdated⟩ := hreported hfits
    have hsame := hdated.read.symm.trans hreports.read
    exact congrArg ErrorReport.timestamp (Option.some.inj hsame).symm

end Requests

/-- A body without a server is reported. -/
theorem nameless_probe_reported :
    let env : Surroundings :=
      ⟨.epoch, .channel false true, ⟨fun _ => 0, .epoch⟩, .failed .cancelled⟩
    let request : Request := ⟨"POST", "/v1/probe", [0x7B, 0x7D]⟩
    request.method ≠ "HEAD" ∧ (handle env {} request).response.status.isFailure = true
      ∧ ∃ report, Reports (handle env {} request).response report := by
  intro env request
  have hhead : request.method ≠ "HEAD" := by decide
  have hfail : (handle env {} request).response.status.isFailure = true := by decide
  have hfits : ¬ Overlong request := fun h => absurd h.size (by decide)
  exact ⟨hhead, hfail, (failure_reported_iff hhead hfail).1.mpr hfits⟩

/-- One byte beyond the limit, and the answer is no record. -/
theorem overlong_probe_unreported :
    ¬ ∀ (env : Surroundings) (store : Snapshot) (request : Request), request.method ≠ "HEAD" →
      (handle env store request).response.status.isFailure = true →
      ∃ report, Reports (handle env store request).response report := by
  intro hreported
  let env : Surroundings :=
    ⟨.epoch, .channel false true, ⟨fun _ => 0, .epoch⟩, .failed .cancelled⟩
  let request : Request := ⟨"POST", "/v1/probe", List.replicate 2097153 0x20⟩
  have hoverlong : Overlong request := by
    refine ⟨rfl, by decide, ?_⟩
    show 2097152 < (List.replicate 2097153 (0x20 : UInt8)).length
    rw [List.length_replicate]
    decide
  have hanswer : handle env {} request = .only {} tooLarge := handle_of_overlong hoverlong
  obtain ⟨report, hreports⟩ := hreported env {} request (by decide) (by rw [hanswer]; rfl)
  have hmedia := hreports.mediaType
  rw [hanswer] at hmedia
  exact mediaType_tooLarge hmedia

end SocksMonitor.Control
