import ServiceGateway.Proofs.Dispatch

/-!
# Hidden services

A site that does not expose hidden services puts none to its dispatcher. What it answers for one is
what a site that exposes them answers when its dispatcher knows no such service, so the answer says
neither what the dispatcher would have done nor that there is a service at all. Along a run the two
sites answer alike if the exposing one gets a dispatcher that has lost its hidden services. Nothing
is said about the records: a rejected request leaves one, a service that is not found leaves none.
-/
namespace ServiceGateway

/-! ## What exposure changes -/

/-- All that can become of a request: either it is answered, and exposure plays no part, or it names
a service, which the exposing site asks for and the other one asks for unless it is hidden. -/
theorem Site.plan_ofEndpoint_cases (mount : Text) (r : Request) :
    (∃ reply, ∀ exposeHidden, (ofEndpoint ⟨mount, exposeHidden⟩).plan r = .answer reply) ∨
    ∃ query, scan (Request.escapedPath r.path) (slashEnded mount) =
        .ok (.ok ⟨query.service, query.path⟩) ∧
      (ofEndpoint ⟨mount, true⟩).plan r = .dispatch query ∧
      (ofEndpoint ⟨mount, false⟩).plan r =
        if query.service.isHidden then
          .answer ⟨DataEndpoint.missing query.service, [DataEndpoint.hiddenRecord query.service],
            none⟩
        else .dispatch query := by
  by_cases htakes : (dataRoute ⟨mount, true⟩).takes r.method r.path = true
  · have taken (e : Bool) : (ofEndpoint ⟨mount, e⟩).plan r = DataEndpoint.plan ⟨mount, e⟩ r :=
      plan_ofEndpoint_of_takes htakes
    cases hr : resolve (Request.escapedPath r.path) (slashEnded mount) with
    | error cause =>
      let path := Request.escapedPath r.path
      refine .inl ⟨⟨.failure 400 (some (DataEndpoint.unresolvedText path)),
        resolutionLog path (slashEnded mount), none⟩, fun e => ?_⟩
      exact (taken e).trans (DataEndpoint.plan_of_unresolved (e := ⟨mount, e⟩) hr)
    | ok resolution =>
      have exposed := DataEndpoint.plan_of_visible (e := ⟨mount, true⟩) hr (.inl rfl)
      refine .inr ⟨DataEndpoint.queryOf r resolution, scan_eq_ok_iff.2 hr, ?_, ?_⟩
      · exact (taken true).trans exposed
      · rw [taken]
        split
        · exact DataEndpoint.plan_of_hidden (e := ⟨mount, false⟩) hr ‹_› rfl
        · exact DataEndpoint.plan_of_visible (e := ⟨mount, false⟩) hr
            (.inr (Bool.not_eq_true _ ▸ ‹_›))
  · obtain ⟨reply, hreply⟩ : ∃ reply, (ofEndpoint ⟨mount, true⟩).plan r = .answer reply := by
      apply plan_of_not_taken
      simp [ofEndpoint, htakes]
    refine .inl ⟨reply, fun e => ?_⟩
    have refused : (dataRoute ⟨mount, true⟩).takes r.method r.path = false :=
      Bool.not_eq_true _ ▸ htakes
    have same : (ofEndpoint ⟨mount, true⟩).plan r = (ofEndpoint ⟨mount, e⟩).plan r :=
      plan_ofEndpoint_of_not_takes rfl refused
    rw [← same, hreply]

/-- The services that do not reach the dispatcher of a site that hides some. -/
theorem Site.service_of_query? {mount : Text} {r : Request} {query : DataQuery}
    (h : ((ofEndpoint ⟨mount, false⟩).plan r).query? = some query) :
    query.service.isHidden = false := by
  rw [Plan.query?_eq_some_iff] at h
  rcases plan_ofEndpoint_cases mount r with ⟨reply, hreply⟩ | ⟨asked, _, _, hblocked⟩
  · rw [hreply] at h
    cases h
  · rw [hblocked] at h
    split at h
    · cases h
    · cases h
      exact Bool.not_eq_true _ ▸ ‹_›

/-! ## A dispatcher without hidden services -/

/-- The dispatcher knows no such service: whatever it is asked of it, it finds nothing. -/
def Dispatcher.Lacks {σ : Type} (d : Dispatcher σ) (state : σ) (service : ServiceName) : Prop :=
  ∀ query, query.service = service →
    ∃ kind message, (d state query).1 = .failed (.lookup kind message)

/-- The dispatcher as if it had no hidden services. It does not see the queries to them. -/
def Dispatcher.withoutHidden {σ : Type} (d : Dispatcher σ) (kind message : Text) : Dispatcher σ :=
  fun state query =>
    if query.service.isHidden then (.failed (.lookup kind message), state) else d state query

/-- One request gets one answer, and the dispatcher goes on in one state, whether hidden services
are rejected in front of it or not found behind it. -/
theorem Site.exchange_withoutHidden {σ : Type} (mount : Text) (d : Dispatcher σ)
    (kind message : Text) (state : σ) (r : Request) :
    ((ofEndpoint ⟨mount, true⟩).exchange (d.withoutHidden kind message) state r).1.reply.response =
        ((ofEndpoint ⟨mount, false⟩).exchange d state r).1.reply.response ∧
      ((ofEndpoint ⟨mount, true⟩).exchange (d.withoutHidden kind message) state r).2 =
        ((ofEndpoint ⟨mount, false⟩).exchange d state r).2 := by
  rcases plan_ofEndpoint_cases mount r with ⟨reply, hreply⟩ | ⟨query, _, hshown, hblocked⟩
  · rw [exchange_of_answer (hreply true), exchange_of_answer (hreply false)]
    exact ⟨rfl, rfl⟩
  · rw [exchange_of_dispatch hshown, Dispatcher.withoutHidden]
    split at hblocked
    · rw [exchange_of_answer hblocked, if_pos ‹_›]
      exact ⟨rfl, rfl⟩
    · rw [exchange_of_dispatch hblocked, if_neg ‹_›]
      exact ⟨rfl, rfl⟩

/-- The answers of a whole run are the same. -/
theorem Site.serve_withoutHidden {σ : Type} (mount : Text) (d : Dispatcher σ)
    (kind message : Text) (state : σ) (rs : List Request) :
    ((ofEndpoint ⟨mount, true⟩).serve (d.withoutHidden kind message) state rs).map
        (·.reply.response) =
      ((ofEndpoint ⟨mount, false⟩).serve d state rs).map (·.reply.response) := by
  induction rs generalizing state with
  | nil => rfl
  | cons r rest ih =>
    obtain ⟨hresponse, hstate⟩ := exchange_withoutHidden mount d kind message state r
    simp only [serve, List.map_cons, hresponse, hstate, ih]

/-! ## Requests to hidden services -/

/-- A request of one of the five methods whose path resolves to a hidden service. -/
structure NamesHidden (mount : Text) (r : Request) (service : ServiceName) : Prop where
  method : r.method ∈ ["GET".toList, "POST".toList, "PUT".toList, "PATCH".toList, "DELETE".toList]
  resolves : ∃ remainder,
    scan (Request.escapedPath r.path) (slashEnded mount) = .ok (.ok ⟨service, remainder⟩)
  hidden : service.name.head? = some '_'

/-- The answer to such a request, from whichever dispatcher, is that of a site which exposes hidden
services and does not find this one. -/
theorem NamesHidden.response_eq {mount : Text} {r : Request} {service : ServiceName}
    (h : NamesHidden mount r service) {σ τ : Type} (d : Dispatcher σ) (state : σ)
    (d' : Dispatcher τ) (state' : τ) (lacks : d'.Lacks state' service) :
    ((Site.ofEndpoint ⟨mount, false⟩).exchange d state r).1.reply.response =
      ((Site.ofEndpoint ⟨mount, true⟩).exchange d' state' r).1.reply.response := by
  rcases Site.plan_ofEndpoint_cases mount r with ⟨reply, hreply⟩ | ⟨query, hscan, hshown, hblocked⟩
  · rw [Site.exchange_of_answer (hreply false), Site.exchange_of_answer (hreply true)]
  · obtain ⟨remainder, hname⟩ := h.resolves
    have hservice : query.service = service := by
      rw [hname] at hscan
      cases hscan
      rfl
    have hhidden : query.service.isHidden = true := by
      rw [hservice]
      exact decide_eq_true h.hidden
    obtain ⟨kind, message, houtcome⟩ := lacks query hservice
    rw [if_pos hhidden] at hblocked
    rw [Site.exchange_of_answer hblocked, Site.exchange_of_dispatch hshown, houtcome]
    rfl

/-- A dispatcher without any service. -/
def Dispatcher.withoutServices : Dispatcher Unit :=
  fun state _ => (.failed (.lookup "KeyError" []), state)

theorem Dispatcher.lacks_withoutServices (state : Unit) (service : ServiceName) :
    withoutServices.Lacks state service :=
  fun _ _ => ⟨"KeyError", [], rfl⟩

theorem NamesHidden.response_eq_of_hidden {mount : Text} {r : Request} {service : ServiceName}
    (h : NamesHidden mount r service) {σ τ : Type} (d : Dispatcher σ) (state : σ)
    (d' : Dispatcher τ) (state' : τ) :
    ((Site.ofEndpoint ⟨mount, false⟩).exchange d state r).1.reply.response =
      ((Site.ofEndpoint ⟨mount, false⟩).exchange d' state' r).1.reply.response := by
  have lacks := Dispatcher.lacks_withoutServices () service
  rw [h.response_eq d state _ () lacks, h.response_eq d' state' _ () lacks]

/-- Over all mount points, runs and dispatchers of a site that hides services: the dispatcher gets
no query to a hidden one; each request to one is answered as with any other dispatcher, and as by a
site that exposes hidden services to a dispatcher which lacks this one; and all answers of the run
together are those of such a site to the same dispatcher without its hidden services. -/
theorem hidden_answered_as_missing {σ : Type} (mount : Text) (d : Dispatcher σ) (state : σ)
    (rs : List Request) :
    (∀ query ∈ (Site.ofEndpoint ⟨mount, false⟩).received d state rs,
      query.service.name.head? ≠ some '_') ∧
    List.Forall₂
      (fun r x => ∀ service, NamesHidden mount r service →
        (∀ (τ : Type) (d' : Dispatcher τ) (state' : τ), x.reply.response =
          ((Site.ofEndpoint ⟨mount, false⟩).exchange d' state' r).1.reply.response) ∧
        (∀ (τ : Type) (d' : Dispatcher τ) (state' : τ), d'.Lacks state' service →
          x.reply.response =
            ((Site.ofEndpoint ⟨mount, true⟩).exchange d' state' r).1.reply.response))
      rs ((Site.ofEndpoint ⟨mount, false⟩).serve d state rs) ∧
    (∀ kind message, ((Site.ofEndpoint ⟨mount, false⟩).serve d state rs).map (·.reply.response) =
      ((Site.ofEndpoint ⟨mount, true⟩).serve (d.withoutHidden kind message) state rs).map
        (·.reply.response)) := by
  refine ⟨?_, ?_, fun kind message => ?_⟩
  · intro query hquery
    rw [Site.received_eq_filterMap] at hquery
    obtain ⟨r, _, hr⟩ := List.mem_filterMap.1 hquery
    exact ServiceName.isHidden_eq_false_iff.1 (Site.service_of_query? hr)
  · apply Site.forall₂_serve
    intro before r service h
    exact ⟨fun τ d' state' => h.response_eq_of_hidden d before d' state',
      fun τ d' state' lacks => h.response_eq d before d' state' lacks⟩
  · exact (Site.serve_withoutHidden mount d kind message state rs).symm

/-- A hidden service below a mount point without a slash at its end. -/
def auditRequest : Request := ⟨"http://testserver", "GET", "/raw/saLES/_Audit/7", [], []⟩

theorem hidden_auditRequest :
    NamesHidden "/raw" auditRequest ⟨["sales"], "_Audit"⟩ ∧
    Dispatcher.withoutServices.Lacks () ⟨["sales"], "_Audit"⟩ ∧
    ((Site.ofEndpoint ⟨"/raw", false⟩).serve (fun n _ => (.value (.atom .null), n + 1)) 0
        [auditRequest]).map (·.reply.response) =
      [((Site.ofEndpoint ⟨"/raw", true⟩).exchange Dispatcher.withoutServices ()
        auditRequest).1.reply.response] := by
  have named : NamesHidden "/raw" auditRequest ⟨["sales"], "_Audit"⟩ :=
    ⟨by decide, ⟨"/7", rfl⟩, by decide⟩
  have lacks := Dispatcher.lacks_withoutServices () ⟨["sales"], "_Audit"⟩
  have run := (hidden_answered_as_missing "/raw" (fun n _ => (.value (.atom .null), n + 1)) 0
    [auditRequest]).2.1
  have answer := ((List.forall₂_cons.1 run).1 _ named).2 Unit Dispatcher.withoutServices () lacks
  exact ⟨named, lacks, congrArg (fun response => [response]) answer⟩

end ServiceGateway
