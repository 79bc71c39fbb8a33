import Mathlib.Data.List.Forall2
import ServiceGateway.Proofs.RoutingGrammar
import ServiceGateway.Site

/-!
# What reaches the dispatcher

A site with one data endpoint puts a request to its dispatcher once or not at all. It does so
exactly if the method is one of five, the decoded path lies below the mount point, the escaped path
resolves below it and the service may be seen. The calls are counted by a dispatcher that keeps the
queries it is given, so nothing is said here about what it answers.
-/
namespace ServiceGateway

/-- The same dispatcher with the queries it has been given, in order. -/
def Dispatcher.recording {σ : Type} (d : Dispatcher σ) : Dispatcher (σ × List DataQuery) :=
  fun state query => ((d state.1 query).1, (d state.1 query).2, state.2 ++ [query])

namespace Site

/-- The queries of a dispatcher after one more request. -/
def recorded {σ : Type} (s : Site) (d : Dispatcher σ) (state : σ) (asked : List DataQuery)
    (r : Request) : List DataQuery :=
  (s.exchange d.recording (state, asked) r).2.2

theorem recorded_of_answer {s : Site} {r : Request} {reply : Reply} (h : s.plan r = .answer reply)
    {σ : Type} (d : Dispatcher σ) (state : σ) (asked : List DataQuery) :
    s.recorded d state asked r = asked := by
  rw [recorded, exchange_of_answer h]

theorem recorded_of_dispatch {s : Site} {r : Request} {query : DataQuery}
    (h : s.plan r = .dispatch query) {σ : Type} (d : Dispatcher σ) (state : σ)
    (asked : List DataQuery) : s.recorded d state asked r = asked ++ [query] := by
  rw [recorded, exchange_of_dispatch h]
  rfl

end Site

/-! ## Runs -/

/-- The query that a plan puts to the dispatcher, if any. -/
def Plan.query? : Plan → Option DataQuery
  | .answer _ => none
  | .dispatch query => some query

@[simp] theorem Plan.query?_eq_some_iff {plan : Plan} {query : DataQuery} :
    plan.query? = some query ↔ plan = .dispatch query := by
  cases plan <;> simp [query?]

namespace Site

variable {σ : Type} {s : Site} {d : Dispatcher σ}

/-- What reaches the dispatcher hangs on the requests alone, not on what it answers to them. -/
theorem received_eq_filterMap (state : σ) (rs : List Request) :
    s.received d state rs = rs.filterMap fun r => (s.plan r).query? := by
  induction rs generalizing state with
  | nil => rfl
  | cons r rest ih =>
    have step : (s.exchange d state r).1.received = (s.plan r).query? := by
      rw [exchange_received]
      cases s.plan r <;> rfl
    have tail := ih (s.exchange d state r).2
    rw [received, serve, List.filterMap_cons, List.filterMap_cons, step]
    rw [received] at tail
    rw [tail]

/-- What holds of every single exchange holds along a run. -/
theorem forall₂_serve {p : Request → Exchange → Prop}
    (step : ∀ state r, p r (s.exchange d state r).1) (state : σ) (rs : List Request) :
    List.Forall₂ p rs (s.serve d state rs) := by
  induction rs generalizing state with
  | nil => exact .nil
  | cons r rest ih => exact .cons (step state r) (ih _)

end Site

/-! ## The one route -/

theorem PathPattern.serves_below_iff {mount path : Text} :
    (PathPattern.below mount).serves path = true ↔ mount <+: path := by
  rw [serves, Option.isSome_iff_exists]
  constructor
  · intro hex
    obtain ⟨rest, h⟩ := hex
    exact ⟨rest, (below?_eq_some_iff.1 h).symm⟩
  · intro hex
    obtain ⟨rest, h⟩ := hex
    exact ⟨rest, below?_eq_some_iff.2 h.symm⟩

theorem Site.mem_dataMethods_iff {method : Text} :
    method ∈ dataMethods ↔
      method ∈ ["GET".toList, "POST".toList, "PUT".toList, "PATCH".toList, "DELETE".toList] := by
  have reordered : dataMethods.Perm
      ["GET".toList, "POST".toList, "PUT".toList, "PATCH".toList, "DELETE".toList] := by decide
  exact reordered.mem_iff

/-- The five methods are in capitals already. -/
theorem Site.capitals_of_mem_dataMethods {method : Text} (h : method ∈ dataMethods) :
    capitals method = method := by
  have table : ∀ m ∈ dataMethods, capitals m = m := by decide
  exact table method h

theorem Site.takes_dataRoute_iff {e : DataEndpoint} {method path : Text} :
    (dataRoute e).takes method path = true ↔
      method ∈ ["GET".toList, "POST".toList, "PUT".toList, "PATCH".toList, "DELETE".toList] ∧
        slashEnded e.mount <+: path := by
  rw [Route.takes, Bool.and_eq_true, List.contains_iff_mem, and_comm, ← mem_dataMethods_iff]
  exact and_congr_right fun _ => PathPattern.serves_below_iff

/-- A request that no route takes is answered by the site itself. -/
theorem Site.plan_of_not_taken {s : Site} {r : Request}
    (h : s.routes.find? (Route.takes r.method r.path) = none) :
    ∃ reply, s.plan r = .answer reply := by
  have nopage (page : Page) : Route.select s.routes r.method r.path ≠ .page page := by
    intro hpage
    obtain ⟨route, hroute, _⟩ := Route.exists_of_select_eq_page hpage
    rw [h] at hroute
    cases hroute
  unfold plan
  cases hs : Route.select s.routes r.method r.path with
  | page page => exact absurd hs (nopage page)
  | wrongMethod allowed => exact ⟨_, rfl⟩
  | elsewhere path => exact ⟨_, rfl⟩
  | nowhere => exact ⟨_, rfl⟩

theorem Site.plan_ofEndpoint_of_takes {e : DataEndpoint} {r : Request}
    (h : (dataRoute e).takes r.method r.path = true) : (ofEndpoint e).plan r = e.plan r := by
  have hfind : (ofEndpoint e).routes.find? (Route.takes r.method r.path) = some (dataRoute e) := by
    simp [ofEndpoint, h]
  rw [plan, Route.select_eq_page_of_takes hfind]
  rfl

/-- Where the route does not take a request, the endpoint counts for its mount point only. -/
theorem Site.plan_ofEndpoint_of_not_takes {e e' : DataEndpoint} {r : Request}
    (hmount : slashEnded e.mount = slashEnded e'.mount)
    (h : (dataRoute e).takes r.method r.path = false) :
    (ofEndpoint e).plan r = (ofEndpoint e').plan r := by
  have served (path : Text) : (dataRoute e).serves path = (dataRoute e').serves path := by
    rw [Route.serves, Route.serves, dataRoute, dataRoute, hmount]
  have refused : (dataRoute e').takes r.method r.path = false := by
    rw [Route.takes, ← served]
    exact h
  simp only [plan, ofEndpoint, Route.select_singleton, h, refused, served]
  rfl

/-! ## The endpoint behind it -/

theorem ServiceName.isHidden_eq_false_iff {service : ServiceName} :
    service.isHidden = false ↔ service.name.head? ≠ some '_' := by
  simp [isHidden]

theorem Response.status_failure (status : Int) (detail : Option Text) :
    (failure status detail).status = status := by
  unfold failure
  split <;> rfl

namespace DataEndpoint

theorem plan_of_unresolved {e : DataEndpoint} {r : Request} {cause : Unresolved}
    (h : resolve (Request.escapedPath r.path) (slashEnded e.mount) = .error cause) :
    e.plan r = .answer ⟨.failure 400 (some (unresolvedText (Request.escapedPath r.path))),
      resolutionLog (Request.escapedPath r.path) (slashEnded e.mount), none⟩ := by
  simp only [plan, h]

theorem plan_of_hidden {e : DataEndpoint} {r : Request} {resolution : Resolution}
    (h : resolve (Request.escapedPath r.path) (slashEnded e.mount) = .ok resolution)
    (hidden : resolution.name.isHidden = true) (hexpose : e.exposeHidden = false) :
    e.plan r = .answer ⟨missing resolution.name, [hiddenRecord resolution.name], none⟩ := by
  simp [plan, h, hidden, hexpose]

theorem plan_of_visible {e : DataEndpoint} {r : Request} {resolution : Resolution}
    (h : resolve (Request.escapedPath r.path) (slashEnded e.mount) = .ok resolution)
    (visible : e.exposeHidden = true ∨ resolution.name.isHidden = false) :
    e.plan r = .dispatch (queryOf r resolution) := by
  have hcond : (resolution.name.isHidden && !e.exposeHidden) = false := by
    rcases visible with hv | hv <;> simp [hv]
  simp only [plan, h, hcond, Bool.false_eq_true, ↓reduceIte]

end DataEndpoint

/-! ## The condition -/

/-- A request of one of the five methods below the mount point that names a service which may be
seen. -/
structure Admitted (mount : Text) (exposeHidden : Bool) (r : Request) (resolution : Resolution) :
    Prop where
  method : r.method ∈ ["GET".toList, "POST".toList, "PUT".toList, "PATCH".toList, "DELETE".toList]
  below : slashEnded mount <+: r.path
  resolves : scan (Request.escapedPath r.path) (slashEnded mount) = .ok (.ok resolution)
  visible : exposeHidden = true ∨ resolution.name.name.head? ≠ some '_'

namespace Admitted

variable {mount : Text} {exposeHidden : Bool} {r : Request} {resolution : Resolution}

/-- What is put to the dispatcher for an admitted request. -/
theorem plan_eq (h : Admitted mount exposeHidden r resolution) :
    (Site.ofEndpoint ⟨mount, exposeHidden⟩).plan r =
      .dispatch ⟨resolution.name, resolution.remainder, r.query, r.method, r.fields⟩ := by
  have visible : exposeHidden = true ∨ resolution.name.isHidden = false :=
    h.visible.imp_right ServiceName.isHidden_eq_false_iff.2
  rw [Site.plan_ofEndpoint_of_takes (Site.takes_dataRoute_iff.2 ⟨h.method, h.below⟩),
    DataEndpoint.plan_of_visible (scan_eq_ok_iff.1 h.resolves) visible, DataEndpoint.queryOf,
    Site.capitals_of_mem_dataMethods (Site.mem_dataMethods_iff.2 h.method)]

theorem exists_answer (h : ¬ ∃ resolution, Admitted mount exposeHidden r resolution) :
    ∃ reply, (Site.ofEndpoint ⟨mount, exposeHidden⟩).plan r = .answer reply := by
  by_cases htakes : (Site.dataRoute ⟨mount, exposeHidden⟩).takes r.method r.path = true
  · obtain ⟨hmethod, hbelow⟩ := Site.takes_dataRoute_iff.1 htakes
    rw [Site.plan_ofEndpoint_of_takes htakes]
    cases hr : resolve (Request.escapedPath r.path) (slashEnded mount) with
    | error cause =>
      exact ⟨_, DataEndpoint.plan_of_unresolved (e := ⟨mount, exposeHidden⟩) hr⟩
    | ok resolution =>
      have hvisible : ¬ (exposeHidden = true ∨ resolution.name.name.head? ≠ some '_') :=
        fun hv => h ⟨resolution, hmethod, hbelow, scan_eq_ok_iff.2 hr, hv⟩
      rw [not_or, ← ServiceName.isHidden_eq_false_iff, Bool.not_eq_true, Bool.not_eq_false]
        at hvisible
      obtain ⟨hexpose, hhidden⟩ := hvisible
      exact ⟨_, DataEndpoint.plan_of_hidden (e := ⟨mount, exposeHidden⟩) hr hhidden hexpose⟩
  · apply Site.plan_of_not_taken
    simp [Site.ofEndpoint, htakes]

end Admitted

/-- A request that the route takes and that names no service is a bad one. -/
theorem Site.status_of_unresolved {σ : Type} {e : DataEndpoint} {r : Request} {cause : Unresolved}
    (htakes : (dataRoute e).takes r.method r.path = true)
    (hr : resolve (Request.escapedPath r.path) (slashEnded e.mount) = .error cause)
    (d : Dispatcher σ) (state : σ) :
    ((ofEndpoint e).exchange d state r).1.reply.response.status = 400 := by
  have hplan := (plan_ofEndpoint_of_takes htakes).trans (DataEndpoint.plan_of_unresolved hr)
  rw [exchange_of_answer hplan]
  exact Response.status_failure 400 _

/-- A POST with a field sent twice, below a mount point without a slash at its end. -/
def ordersRequest : Request :=
  ⟨"http://testserver", "POST", "/raw/saLES/Orders/4?2", "$top=1",
    [("a", "1"), ("b", "2"), ("a", "3")]⟩

end ServiceGateway
