import ServiceGateway.Application
import ServiceGateway.Proofs.JsonReading
import ServiceGateway.Proofs.MountPoints

/-!
# Applications and their endpoints

An application puts to its dispatcher what a site with the endpoint alone would put to it. The
health page stands in front of the endpoint and may lie below its mount point, but its path names no
service, so it takes nothing away. The page reports the mount point that both the route and the
reading of names use. An application without a dispatcher consists of the page.
-/
namespace ServiceGateway

/-! ## The health page -/

/-- An answer of the health page, with what it reports for the endpoint. -/
structure Response.Reports (response : Response) (endpoint : Text) : Prop where
  status : response.status = 200
  contentType : response.contentType = some jsonType
  body : ∃ t, response.body = .text t ∧ Json.read? t = some (.object
    [(.text "status", .scalar (.text "healthy")),
      (.text "raw_endpoint", .scalar (.text endpoint))])

theorem Site.reports_healthResponse (mount : Option Text) :
    (healthResponse mount).Reports (mount.getD "not configured") where
  status := rfl
  contentType := rfl
  body := ⟨_, rfl, Json.read?_textObject _⟩

theorem Site.takes_healthRoute_iff {mount : Option Text} {method path : Text} :
    (healthRoute mount).takes method path = true ↔ method = "GET" ∧ path = "/health" := by
  rw [Route.takes, Bool.and_eq_true, List.contains_iff_mem, and_comm]
  exact and_congr List.mem_singleton beq_iff_eq

theorem Site.not_takes_healthRoute {mount : Option Text} {method path : Text}
    (h : ¬ (method = "GET" ∧ path = "/health")) :
    (healthRoute mount).takes method path = false := by
  rw [← Bool.not_eq_true, takes_healthRoute_iff]
  exact h

/-- The health page comes first, so nothing keeps a request from it. -/
theorem Site.plan_withHealth_of_health {r : Request} (hmethod : r.method = "GET")
    (hpath : r.path = "/health") (e : Option DataEndpoint) :
    (withHealth e).plan r = answer (healthResponse (e.map (·.mount))) := by
  have taken (mount : Option Text) : (healthRoute mount).takes r.method r.path = true :=
    takes_healthRoute_iff.2 ⟨hmethod, hpath⟩
  have hfind : (withHealth e).routes.find? (Route.takes r.method r.path) =
      some (healthRoute (e.map (·.mount))) := by
    cases e <;> simp [withHealth, taken]
  rw [plan, Route.select_eq_page_of_takes hfind]
  rfl

theorem RouteForm.Valid.exists_start {f : RouteForm} (h : f.Valid) :
    ∃ c ∈ f.text, isEntityStart c = true := by
  obtain ⟨c, rest, hentity, hc, -⟩ := h.entity
  refine ⟨c, ?_, isEntityStart_iff.2 hc⟩
  rw [RouteForm.text, hentity]
  simp

/-- The path of the health page has no character with which an entity token begins, so it names no
service below any mount point. -/
theorem not_admitted_health {mount : Text} {exposeHidden : Bool} {r : Request}
    (h : r.path = "/health") {resolution : Resolution} :
    ¬ Admitted mount exposeHidden r resolution := by
  intro hr
  obtain ⟨f, hf, hpath, -⟩ := resolve_eq_ok_iff.1 (scan_eq_ok_iff.1 hr.resolves)
  obtain ⟨c, hc, hstart⟩ := hf.exists_start
  have hmem : c ∈ Request.escapedPath "/health" := by
    rw [← h, hpath]
    exact List.mem_append_right _ hc
  have letters : (Request.escapedPath "/health").all (!isEntityStart ·) = true := by decide
  have hnot := List.all_eq_true.1 letters c hmem
  rw [hstart] at hnot
  cases hnot

/-! ## The endpoint behind it -/

theorem DataEndpoint.plan_slashEnded (mount : Text) (exposeHidden : Bool) :
    plan ⟨slashEnded mount, exposeHidden⟩ = plan ⟨mount, exposeHidden⟩ := by
  funext r
  simp only [plan, slashEnded_idem]

theorem Site.plan_withHealth_of_takes {e : DataEndpoint} {r : Request}
    (hhealth : ¬ (r.method = "GET" ∧ r.path = "/health"))
    (h : (dataRoute e).takes r.method r.path = true) :
    (withHealth (some e)).plan r = e.plan r := by
  have hfind : (withHealth (some e)).routes.find? (Route.takes r.method r.path) =
      some (dataRoute e) := by
    simp [withHealth, not_takes_healthRoute hhealth, h]
  rw [plan, Route.select_eq_page_of_takes hfind]
  rfl

/-- A request that the endpoint's route does not take goes no further than the site. -/
theorem Site.exists_answer_of_not_takes {e : DataEndpoint} {r : Request}
    (h : (dataRoute e).takes r.method r.path = false) :
    ∃ reply, (withHealth (some e)).plan r = .answer reply := by
  by_cases hhealth : r.method = "GET" ∧ r.path = "/health"
  · exact ⟨_, plan_withHealth_of_health hhealth.1 hhealth.2 (some e)⟩
  · apply plan_of_not_taken
    simp [withHealth, not_takes_healthRoute hhealth, h]

/-- Request by request, the health page changes nothing in what reaches the dispatcher. -/
theorem Site.query?_withHealth (e : DataEndpoint) (r : Request) :
    ((withHealth (some e)).plan r).query? = ((ofEndpoint e).plan r).query? := by
  by_cases hhealth : r.method = "GET" ∧ r.path = "/health"
  · have none_admitted : ¬ ∃ resolution, Admitted e.mount e.exposeHidden r resolution := by
      intro hex
      obtain ⟨resolution, hr⟩ := hex
      exact not_admitted_health hhealth.2 hr
    rw [plan_withHealth_of_health hhealth.1 hhealth.2]
    exact (Admitted.query?_eq_none none_admitted).symm
  · cases htakes : (dataRoute e).takes r.method r.path with
    | true => rw [plan_withHealth_of_takes hhealth htakes, plan_ofEndpoint_of_takes htakes]
    | false =>
      have not_taken : (ofEndpoint e).routes.find? (Route.takes r.method r.path) = none := by
        simp [ofEndpoint, htakes]
      obtain ⟨reply, hreply⟩ := exists_answer_of_not_takes htakes
      obtain ⟨reply', hreply'⟩ := plan_of_not_taken not_taken
      rw [hreply, hreply']
      rfl

/-- A slash at the end of the mount point is put there anyway. -/
theorem Site.plan_ofEndpoint_slashEnded (mount : Text) (exposeHidden : Bool) (r : Request) :
    (ofEndpoint ⟨slashEnded mount, exposeHidden⟩).plan r =
      (ofEndpoint ⟨mount, exposeHidden⟩).plan r := by
  cases htakes : (dataRoute ⟨mount, exposeHidden⟩).takes r.method r.path with
  | true =>
    have htakes' : (dataRoute ⟨slashEnded mount, exposeHidden⟩).takes r.method r.path = true := by
      rw [takes_dataRoute_iff] at htakes ⊢
      rwa [slashEnded_idem]
    rw [plan_ofEndpoint_of_takes htakes, plan_ofEndpoint_of_takes htakes',
      DataEndpoint.plan_slashEnded]
  | false => exact (plan_ofEndpoint_of_not_takes (slashEnded_idem mount).symm htakes).symm

/-! ## Without an endpoint -/

/-- Slashes are taken off up to the first other character. -/
theorem dropWhile_slash_eq_iff {u t : Text} (h : t.head? ≠ some '/') :
    u.dropWhile (· = '/') = t ↔ ∃ n, u = List.replicate n '/' ++ t := by
  induction u with
  | nil =>
    constructor
    · intro ht
      exact ⟨0, ht⟩
    · intro hex
      obtain ⟨n, hn⟩ := hex
      exact (List.append_eq_nil_iff.1 hn.symm).2.symm
  | cons c rest ih =>
    by_cases hc : c = '/'
    · rw [List.dropWhile_cons_of_pos (by simpa using hc), ih, hc]
      constructor
      · intro hex
        obtain ⟨n, hn⟩ := hex
        exact ⟨n + 1, by rw [hn, List.replicate_succ, List.cons_append]⟩
      · intro hex
        obtain ⟨n, hn⟩ := hex
        cases n with
        | zero =>
          rw [List.replicate_zero, List.nil_append] at hn
          exact absurd (hn ▸ rfl) h
        | succ n => exact ⟨n, (List.cons.inj hn).2⟩
    · rw [List.dropWhile_cons_of_neg (by simpa using hc)]
      constructor
      · intro ht
        exact ⟨0, ht⟩
      · intro hex
        obtain ⟨n, hn⟩ := hex
        cases n with
        | zero => exact hn
        | succ n => exact absurd (List.cons.inj hn).1 hc

/-- The paths that are redirected to a path without a slash at its end. -/
theorem otherEnding_eq_iff {path t : Text} (h : t.getLast? ≠ some '/') :
    otherEnding path = t ↔ ∃ n, path = t ++ List.replicate (n + 1) '/' := by
  have stripped : (path.reverse.dropWhile (· = '/')).reverse = t ↔
      ∃ n, path = t ++ List.replicate n '/' := by
    rw [← List.head?_reverse] at h
    rw [List.reverse_eq_iff, dropWhile_slash_eq_iff h]
    refine exists_congr fun n => ?_
    rw [List.reverse_eq_iff, List.reverse_append, List.reverse_reverse, List.reverse_replicate]
  unfold otherEnding
  split
  · rename_i hlast
    rw [stripped]
    constructor
    · intro hex
      obtain ⟨n, hn⟩ := hex
      cases n with
      | zero =>
        rw [List.replicate_zero, List.append_nil] at hn
        exact absurd (hn ▸ hlast) h
      | succ n => exact ⟨n, hn⟩
    · intro hex
      obtain ⟨n, hn⟩ := hex
      exact ⟨n + 1, hn⟩
  · rename_i hlast
    constructor
    · intro ht
      rw [← ht, List.getLast?_concat] at h
      exact absurd rfl h
    · intro hex
      obtain ⟨n, hn⟩ := hex
      rw [hn, List.replicate_succ', ← List.append_assoc, List.getLast?_concat] at hlast
      exact absurd rfl hlast

/-- The path of the health page, with slashes behind it or not. -/
def IsHealthPath (path : Text) : Prop := ∃ n, path = "/health" ++ List.replicate n '/'

theorem isHealthPath_iff {path : Text} :
    IsHealthPath path ↔ path = "/health" ∨ otherEnding path = "/health" := by
  rw [otherEnding_eq_iff (by decide)]
  constructor
  · intro hex
    obtain ⟨n, hn⟩ := hex
    cases n with
    | zero =>
      rw [List.replicate_zero, List.append_nil] at hn
      exact .inl hn
    | succ n => exact .inr ⟨n, hn⟩
  · intro h
    rcases h with h | ⟨n, hn⟩
    · exact ⟨0, by rw [h, List.replicate_zero, List.append_nil]⟩
    · exact ⟨n + 1, hn⟩

/-- Without an endpoint the site answers every request, and finds nothing at any path but those of
the health page. -/
theorem Site.plan_withHealth_none (r : Request) :
    ∃ reply, (withHealth none).plan r = .answer reply ∧
      (reply.response.status = 404 ↔ ¬ IsHealthPath r.path) := by
  have served (path : Text) : Route.serves path (healthRoute none) = true ↔ path = "/health" :=
    beq_iff_eq
  rw [isHealthPath_iff, plan, withHealth, Route.select_singleton]
  by_cases htakes : (healthRoute none).takes r.method r.path = true
  · rw [if_pos htakes]
    have hpath := (takes_healthRoute_iff.1 htakes).2
    exact ⟨_, rfl, iff_of_false (by decide) (not_not_intro (.inl hpath))⟩
  rw [if_neg htakes]
  by_cases hserves : Route.serves r.path (healthRoute none) = true
  · rw [if_pos hserves]
    exact ⟨_, rfl, iff_of_false (by decide) (not_not_intro (.inl ((served _).1 hserves)))⟩
  rw [if_neg hserves]
  by_cases hother : Route.serves (otherEnding r.path) (healthRoute none) = true
  · -- the root path has no other ending that could be served
    have hroot : r.path ≠ ['/'] := by
      intro h
      rw [h] at hother
      cases hother
    rw [if_pos ⟨hroot, hother⟩]
    have redirected : (307 : Int) ≠ 404 := by decide
    exact ⟨_, rfl, iff_of_false redirected (not_not_intro (.inr ((served _).1 hother)))⟩
  · rw [if_neg fun h => hother h.2]
    refine ⟨_, rfl, iff_of_true rfl fun h => ?_⟩
    rw [← served, ← served] at h
    exact h.elim hserves hother

/-! ## Settings and creation -/

/-- Settings from a base path and a flag, all others being left to their defaults. -/
def baseSources (base : Text) (exposeHidden : Bool) : SettingSources :=
  ⟨[("raw_base_path", .text base), ("expose_hidden_services", .atom (.boolean exposeHidden))],
    [], []⟩

theorem arguments_baseSources (base : Text) (exposeHidden : Bool) :
    (baseSources base exposeHidden).arguments =
      [(SettingField.basePath.name, .text base),
        (SettingField.exposeHidden.name, .atom (.boolean exposeHidden))] := rfl

theorem given?_baseSources (base : Text) (exposeHidden : Bool) (f : SettingField) :
    (baseSources base exposeHidden).given? f =
      match f with
      | .appEnv | .logLevel => none
      | .basePath => some (.text base)
      | .exposeHidden => some (.atom (.boolean exposeHidden)) := by
  rw [SettingSources.given?, arguments_baseSources, SettingSources.valuesOf_named_cons,
    SettingSources.valuesOf_named_cons]
  cases f <;> rfl

theorem Settings.resolve_baseSources {base mount : Text}
    (h : checkPath (.text base) = .ok mount) (exposeHidden : Bool) :
    resolve (baseSources base exposeHidden) =
      .ok ⟨defaults.appEnv, defaults.logLevel, mount, exposeHidden⟩ := by
  simp only [resolve, given?_baseSources, chosen, h]
  rfl

/-- The default level is one that the root logger knows, so creation does not fail on it. -/
theorem Application.exists_create_of_defaultLevel {s : Settings}
    (h : s.logLevel = Settings.defaults.logLevel) (root : RootLogger) (hasDispatcher : Bool) :
    ∃ output, (create root s hasDispatcher).2 = .ok ⟨ofSettings s hasDispatcher, output⟩ := by
  have level : (root.configure s.logLevel).2 = none := by
    rw [h, RootLogger.configure]
    split <;> rfl
  unfold create
  split
  · rename_i root' fault hconfigure
    rw [hconfigure] at level
    cases level
  · exact ⟨_, rfl⟩

/-! ## Applications -/

/-- A site that does for its dispatcher what an endpoint alone does, and reports its mount point. -/
structure Site.Mirrors (s : Site) (base mount : Text) (exposeHidden : Bool) : Prop where
  received : ∀ (σ : Type) (d : Dispatcher σ) (state : σ) (rs : List Request),
    s.received d state rs = (ofEndpoint ⟨base, exposeHidden⟩).received d state rs
  dispatches : ∀ r query, (ofEndpoint ⟨base, exposeHidden⟩).plan r = .dispatch query →
    s.plan r = .dispatch query
  reports : ∀ (σ : Type) (d : Dispatcher σ) (state : σ) (r : Request),
    r.method = "GET" → r.path = "/health" → (s.exchange d state r).1.reply.response.Reports mount
  slash : mount.getLast? = some '/'
  below : ∀ r : Request,
    r.method ∈ ["GET".toList, "POST".toList, "PUT".toList, "PATCH".toList, "DELETE".toList] →
      mount <+: r.path → ¬ (r.method = "GET" ∧ r.path = "/health") →
        s.plan r = DataEndpoint.plan ⟨mount, exposeHidden⟩ r
  outside : ∀ r : Request, ¬ mount <+: r.path → ∃ reply, s.plan r = .answer reply

/-- A site that tells that there is no endpoint, and has nothing else to tell. -/
structure Site.IsVacant (s : Site) : Prop where
  reports : ∀ (σ : Type) (d : Dispatcher σ) (state : σ) (r : Request),
    r.method = "GET" → r.path = "/health" →
      (s.exchange d state r).1.reply.response.Reports "not configured"
  missing : ∀ (σ : Type) (d : Dispatcher σ) (state : σ) (r : Request),
    (s.exchange d state r).1.reply.response.status = 404 ↔
      ¬ ∃ n, r.path = "/health" ++ List.replicate n '/'

theorem Site.mirrors_withHealth {base mount : Text} (hslash : slashEnded base = mount)
    (exposeHidden : Bool) :
    (withHealth (some ⟨mount, exposeHidden⟩)).Mirrors base mount exposeHidden := by
  subst hslash
  have queries (r : Request) :
      ((withHealth (some ⟨slashEnded base, exposeHidden⟩)).plan r).query? =
        ((ofEndpoint ⟨base, exposeHidden⟩).plan r).query? := by
    rw [query?_withHealth, plan_ofEndpoint_slashEnded]
  refine ⟨fun σ d state rs => ?_, fun r query h => ?_, fun σ d state r hmethod hpath => ?_,
    getLast?_slashEnded base, fun r hmethod hbelow hhealth => ?_, fun r houtside => ?_⟩
  · rw [received_eq_filterMap, received_eq_filterMap]
    exact List.filterMap_congr fun r _ => queries r
  · rw [← Plan.query?_eq_some_iff, queries, Plan.query?_eq_some_iff, h]
  · rw [exchange_of_answer (plan_withHealth_of_health hmethod hpath _)]
    exact reports_healthResponse (some (slashEnded base))
  · apply plan_withHealth_of_takes hhealth
    rw [takes_dataRoute_iff, slashEnded_idem]
    exact ⟨hmethod, hbelow⟩
  · apply exists_answer_of_not_takes
    rw [← Bool.not_eq_true, takes_dataRoute_iff, slashEnded_idem]
    exact fun h => houtside h.2

theorem Site.isVacant_withHealth_none : (withHealth none).IsVacant := by
  refine ⟨fun σ d state r hmethod hpath => ?_, fun σ d state r => ?_⟩
  · rw [exchange_of_answer (plan_withHealth_of_health hmethod hpath _)]
    exact reports_healthResponse none
  · obtain ⟨reply, hreply, hstatus⟩ := plan_withHealth_none r
    rw [exchange_of_answer hreply]
    exact hstatus

theorem Application.site_of_create {root : RootLogger} {s : Settings} {hasDispatcher : Bool}
    {made : Creation} (h : (create root s hasDispatcher).2 = .ok made) :
    made.application = ofSettings s hasDispatcher := by
  unfold create at h
  split at h
  · cases h
  · rw [← Except.ok.inj h]

/-- Over all base paths, flags and states of the root logger: the settings are accepted, and an
application made from them with a dispatcher puts the same queries to it, in the same order, as a
site with the endpoint alone, along every run; its health page reports the mount point, below which
everything else is the endpoint's. An application made without a dispatcher, from whatever settings,
reports that there is no endpoint, and answers 404 at all paths but those of the health page. -/
theorem application_mirrors_endpoint {base mount : Text}
    (h : Settings.checkPath (.text base) = .ok mount ∧ '{' ∉ base ∧ '}' ∉ base)
    (exposeHidden : Bool) :
    ∃ s, Settings.resolve (baseSources base exposeHidden) = .ok s ∧
      (∀ root : RootLogger, ∃ made, (Application.create root s true).2 = .ok made ∧
        made.application.site.Mirrors base mount exposeHidden) ∧
      (∀ root : RootLogger, ∃ made, (Application.create root s false).2 = .ok made) ∧
      ∀ (root : RootLogger) (other : Settings) (made : Application.Creation),
        (Application.create root other false).2 = .ok made → made.application.site.IsVacant := by
  have accepted := h.1
  have hslash : slashEnded base = mount := by
    rw [Settings.checkPath_text] at accepted
    split at accepted
    · exact Except.ok.inj accepted
    · cases accepted
  let s : Settings :=
    ⟨Settings.defaults.appEnv, Settings.defaults.logLevel, mount, exposeHidden⟩
  have level : s.logLevel = Settings.defaults.logLevel := rfl
  have created := Application.exists_create_of_defaultLevel level
  refine ⟨s, Settings.resolve_baseSources accepted exposeHidden, fun root => ?_, fun root => ?_,
    fun root other made hmade => ?_⟩
  · obtain ⟨output, hcreate⟩ := created root true
    exact ⟨_, hcreate, Site.mirrors_withHealth hslash exposeHidden⟩
  · obtain ⟨output, hcreate⟩ := created root false
    exact ⟨_, hcreate⟩
  · rw [Application.site_of_create hmade]
    exact Site.isVacant_withHealth_none

/-- At the root the health page lies below the mount point, and what is asked of services is put to
them all the same. -/
theorem application_mirrors_root :
    (Settings.checkPath (.text "/") = .ok "/" ∧ '{' ∉ ("/" : Text) ∧ '}' ∉ ("/" : Text)) ∧
    ∃ s, Settings.resolve (baseSources "/" false) = .ok s ∧
      ∃ made, (Application.create .initial s true).2 = .ok made ∧
        made.application.site.received (fun n _ => (.value (.atom .null), n + 1)) 0
            [⟨"http://testserver", "GET", "/health", [], []⟩,
              ⟨"http://testserver", "GET", "/Orders", [], []⟩] =
          [⟨⟨[], "Orders"⟩, [], [], "GET", []⟩] := by
  have base : Settings.checkPath (.text "/") = .ok "/" ∧ '{' ∉ ("/" : Text) ∧ '}' ∉ ("/" : Text) :=
    ⟨rfl, by decide, by decide⟩
  obtain ⟨s, hs, served, -⟩ := application_mirrors_endpoint base false
  obtain ⟨made, hmade, mirrors⟩ := served .initial
  exact ⟨base, s, hs, made, hmade, mirrors.received _ _ _ _⟩

end ServiceGateway
