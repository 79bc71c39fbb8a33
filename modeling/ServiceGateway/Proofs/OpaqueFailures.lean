import ServiceGateway.Proofs.DispatchOutcomes
import ServiceGateway.Proofs.HiddenServices
import ServiceGateway.RaisedError

/-!
# Failures that stay opaque

Of an error that is not reported by a data service the client learns one bit: whether it descends
from the lookup errors. Its class, its text and a status of its own are not in the answer, and of
the request only the name of the service is. So a client cannot tell dispatchers apart that raise
different errors of the same sort, however long it goes on asking them.
-/
namespace ServiceGateway

/-! ## Descent -/

namespace ErrorClass

/-- A class descends from a root if it is the root or if one of its bases does. -/
inductive Descends (r : RootClass) : ErrorClass → Prop
  | root : Descends r (root r)
  | derived (name : Text) {bases : List ErrorClass} {c : ErrorClass} :
      c ∈ bases → Descends r c → Descends r (derived name bases)

mutual
theorem descends_of_descendsFrom {r : RootClass} :
    (c : ErrorClass) → c.descendsFrom r = true → Descends r c
  | .root s, h => by
    rw [descendsFrom, beq_iff_eq] at h
    exact h ▸ .root
  | .derived name bases, h => by
    rw [descendsFrom] at h
    obtain ⟨c, hc, hdescends⟩ := exists_descends_of_any bases h
    exact .derived name hc hdescends
theorem exists_descends_of_any {r : RootClass} :
    (cs : List ErrorClass) → anyDescendsFrom r cs = true → ∃ c ∈ cs, Descends r c
  | [], h => by
    rw [anyDescendsFrom] at h
    cases h
  | c :: rest, h => by
    rw [anyDescendsFrom, Bool.or_eq_true] at h
    rcases h with h | h
    · exact ⟨c, List.mem_cons_self, descends_of_descendsFrom c h⟩
    · obtain ⟨d, hd, hdescends⟩ := exists_descends_of_any rest h
      exact ⟨d, List.mem_cons_of_mem c hd, hdescends⟩
end

theorem anyDescendsFrom_of_mem {r : RootClass} {c : ErrorClass} {cs : List ErrorClass}
    (hc : c ∈ cs) (h : c.descendsFrom r = true) : anyDescendsFrom r cs = true := by
  induction hc with
  | head rest => rw [anyDescendsFrom, h, Bool.true_or]
  | tail d _ ih => rw [anyDescendsFrom, ih, Bool.or_true]

/-- The endpoint's test decides descent. -/
theorem descendsFrom_iff {r : RootClass} {c : ErrorClass} :
    c.descendsFrom r = true ↔ Descends r c := by
  refine ⟨descends_of_descendsFrom c, fun h => ?_⟩
  induction h with
  | root => exact beq_self_eq_true r
  | derived name hc _ ih => exact anyDescendsFrom_of_mem hc ih

instance (r : RootClass) (c : ErrorClass) : Decidable (Descends r c) :=
  decidable_of_iff _ descendsFrom_iff

end ErrorClass

/-! ## The clauses -/

namespace RaisedError

/-- An error that no data service reported. -/
def Unreported (e : RaisedError) : Prop := ¬ e.kind.Descends .reported

instance (e : RaisedError) : Decidable e.Unreported :=
  inferInstanceAs (Decidable (¬ e.kind.Descends .reported))

/-- An error that says that something was not found. -/
def IsLookup (e : RaisedError) : Prop := e.kind.Descends .lookup

instance (e : RaisedError) : Decidable e.IsLookup :=
  inferInstanceAs (Decidable (e.kind.Descends .lookup))

theorem failure_of_isLookup {e : RaisedError} (h : e.Unreported) (hlookup : e.IsLookup) :
    ∃ kind message, e.failure = .lookup kind message := by
  have reported : ¬ e.kind.descendsFrom .reported = true := mt ErrorClass.descendsFrom_iff.1 h
  have lookup : e.kind.descendsFrom .lookup = true := ErrorClass.descendsFrom_iff.2 hlookup
  rw [failure, if_neg reported, if_pos lookup]
  exact ⟨_, _, rfl⟩

/-- An HTTP error is as good as any other. -/
theorem failure_of_not_isLookup {e : RaisedError} (h : e.Unreported) (hlookup : ¬ e.IsLookup) :
    (∃ status detail, e.failure = .http status detail) ∨
      ∃ kind message, e.failure = .other kind message := by
  have reported : ¬ e.kind.descendsFrom .reported = true := mt ErrorClass.descendsFrom_iff.1 h
  have lookup : ¬ e.kind.descendsFrom .lookup = true := mt ErrorClass.descendsFrom_iff.1 hlookup
  rw [failure, if_neg reported, if_neg lookup]
  -- What remains is told apart by the clauses, but not by the answer.
  split
  · exact .inl ⟨_, _, rfl⟩
  · exact .inr ⟨_, _, rfl⟩

end RaisedError

namespace DataEndpoint

/-- The answer where a dispatch failed in some other way. -/
def crashed : Response := .failure 500 (some "Data request failed".toList)

theorem ofFailure_of_isLookup {e : RaisedError} (h : e.Unreported) (hlookup : e.IsLookup)
    (service : ServiceName) : ofFailure service e.failure = ⟨missing service, [], none⟩ := by
  obtain ⟨kind, message, hfailure⟩ := RaisedError.failure_of_isLookup h hlookup
  rw [hfailure]
  rfl

theorem ofFailure_of_not_isLookup {e : RaisedError} (h : e.Unreported) (hlookup : ¬ e.IsLookup)
    (service : ServiceName) :
    ofFailure service e.failure = ⟨crashed, [crashRecord service], none⟩ := by
  obtain hhttp | hother := RaisedError.failure_of_not_isLookup h hlookup
  · obtain ⟨status, detail, hfailure⟩ := hhttp
    rw [hfailure]
    rfl
  · obtain ⟨kind, message, hfailure⟩ := hother
    rw [hfailure]
    rfl

end DataEndpoint

/-! ## Answers that explain a failure -/

/-- An answer with a status and a detail, and nothing else in it. -/
structure Response.Explains (response : Response) (status : Int) (detail : Text) : Prop where
  status : response.status = status
  contentType : response.contentType = some jsonType
  body : ∃ t, response.body = .text t ∧
    Json.read? t = some (.object [(.text "detail", .scalar (.text detail))])
  location : response.location = none
  allow : response.allow = []

theorem Response.explains_failure {status : Int} (h : allowsBody status = true) (detail : Text) :
    (failure status (some detail)).Explains status detail := by
  rw [failure_of_allowsBody h]
  exact ⟨rfl, rfl, ⟨_, rfl, Json.read?_textObject _⟩, rfl, rfl⟩

/-! ## Two dispatchers -/

/-- Outcomes that differ at most in an error that no data service reported. -/
inductive Outcome.Alike : Outcome → Outcome → Prop
  | same (o : Outcome) : Alike o o
  | raised {e e' : RaisedError} : e.Unreported → e'.Unreported → (e.IsLookup ↔ e'.IsLookup) →
      Alike (.failed e.failure) (.failed e'.failure)

theorem DataEndpoint.conclude_eq_of_alike {o o' : Outcome} (h : o.Alike o') (query : DataQuery) :
    conclude query o = conclude query o' := by
  cases h with
  | same => rfl
  | @raised e e' he he' hsort =>
    -- The sort of the first error decides; the second one is of the same sort.
    change ofFailure query.service e.failure = ofFailure query.service e'.failure
    by_cases hlookup : e.IsLookup
    · rw [ofFailure_of_isLookup he hlookup, ofFailure_of_isLookup he' (hsort.1 hlookup)]
    · rw [ofFailure_of_not_isLookup he hlookup,
        ofFailure_of_not_isLookup he' (mt hsort.2 hlookup)]

/-- From related states both dispatchers give outcomes that are alike, and go on in related ones. -/
def Dispatcher.Alike {σ τ : Type} (related : σ → τ → Prop) (d : Dispatcher σ) (d' : Dispatcher τ) :
    Prop :=
  ∀ state state' query, related state state' →
    (d state query).1.Alike (d' state' query).1 ∧ related (d state query).2 (d' state' query).2

namespace Site

variable {σ τ : Type} {related : σ → τ → Prop} {d : Dispatcher σ} {d' : Dispatcher τ}

theorem exchange_of_alike (h : d.Alike related d') (s : Site) {state : σ} {state' : τ}
    (hstate : related state state') (r : Request) :
    (s.exchange d state r).1 = (s.exchange d' state' r).1 ∧
      related (s.exchange d state r).2 (s.exchange d' state' r).2 := by
  cases hplan : s.plan r with
  | answer reply =>
    rw [exchange_of_answer hplan, exchange_of_answer hplan]
    exact ⟨rfl, hstate⟩
  | dispatch query =>
    obtain ⟨houtcome, hnext⟩ := h state state' query hstate
    rw [exchange_of_dispatch hplan, exchange_of_dispatch hplan,
      DataEndpoint.conclude_eq_of_alike houtcome]
    exact ⟨rfl, hnext⟩

/-- A whole run looks the same, from outside and in the records. -/
theorem serve_of_alike (h : d.Alike related d') (s : Site) {state : σ} {state' : τ}
    (hstate : related state state') (rs : List Request) :
    s.serve d state rs = s.serve d' state' rs := by
  induction rs generalizing state state' with
  | nil => rfl
  | cons r rest ih =>
    obtain ⟨hexchange, hnext⟩ := exchange_of_alike h s hstate r
    simp only [serve, hexchange, ih hnext]

end Site

/-- Over all sites, dispatchers and requests that reach one, and all errors that no data service
reported: the answer to a lookup error is made from the name of the service alone, the answer to any
other error from nothing at all, and only the latter leaves a record, which names the service. Two
dispatchers that differ in such errors only give equal runs on all sites. -/
theorem raised_errors_opaque :
    (∀ (σ : Type) (s : Site) (d : Dispatcher σ) (state : σ) (r : Request) (query : DataQuery)
      (e : RaisedError), (s.exchange d state r).1.received = some query →
      (d state query).1 = .failed e.failure → e.Unreported →
      (e.IsLookup →
        (s.exchange d state r).1.reply = ⟨DataEndpoint.missing query.service, [], none⟩) ∧
      (¬ e.IsLookup →
        (s.exchange d state r).1.reply = ⟨DataEndpoint.crashed,
          [⟨.error, DataEndpoint.dispatchLogger,
            "Dispatch failed for '" ++ query.service.text ++ "'"⟩], none⟩)) ∧
    (∀ service : ServiceName, (DataEndpoint.missing service).Explains 404
      ("Data service '" ++ service.text ++ "' not found")) ∧
    DataEndpoint.crashed.Explains 500 "Data request failed" ∧
    ∀ (σ τ : Type) (d : Dispatcher σ) (d' : Dispatcher τ) (related : σ → τ → Prop),
      d.Alike related d' → ∀ (s : Site) (state : σ) (state' : τ) (rs : List Request),
        related state state' → s.serve d state rs = s.serve d' state' rs := by
  refine ⟨fun σ s d state r query e received raised unreported => ?_, fun service => ?_, ?_,
    fun σ τ d d' related alike s state state' rs hstate => ?_⟩
  · have reply : (s.exchange d state r).1.reply =
        DataEndpoint.ofFailure query.service e.failure := by
      rw [Site.reply_of_received received, raised]
      rfl
    rw [reply]
    exact ⟨fun hlookup => DataEndpoint.ofFailure_of_isLookup unreported hlookup query.service,
      fun hlookup => DataEndpoint.ofFailure_of_not_isLookup unreported hlookup query.service⟩
  · exact Response.explains_failure (by decide) _
  · exact Response.explains_failure (by decide) _
  · exact Site.serve_of_alike alike s hstate rs

/-- A dispatcher that raises one error whatever it is asked. -/
def Dispatcher.raising (e : RaisedError) : Dispatcher Unit :=
  fun state _ => (.failed e.failure, state)

/-- A key that was not found. -/
def missingKey : RaisedError := ⟨.ofName "KeyError", 500, some "orders:17"⟩

/-- An error that is both an HTTP error with a status and a lookup error. -/
def goneKey : RaisedError :=
  ⟨.derived "GoneError" [.root .http, .ofName "KeyError"], 410, some "gone since May"⟩

/-- An HTTP error that is no lookup error. -/
def teapot : RaisedError := ⟨.ofName "HTTPException", 418, some "short and stout"⟩

/-- The status of an HTTP error does not count, neither in a lookup error nor in another one. -/
theorem raised_errors_opaque_goneKey :
    missingKey.Unreported ∧ missingKey.IsLookup ∧ goneKey.Unreported ∧ goneKey.IsLookup ∧
    teapot.Unreported ∧ ¬ teapot.IsLookup ∧
    ((Site.ofEndpoint ⟨"/raw/", false⟩).exchange (.raising goneKey) () ordersRequest).1.reply =
      ⟨DataEndpoint.missing ⟨["sales"], "Orders"⟩, [], none⟩ ∧
    ((Site.ofEndpoint ⟨"/raw/", false⟩).exchange (.raising teapot) () ordersRequest).1.reply =
      ⟨DataEndpoint.crashed, [⟨.error, DataEndpoint.dispatchLogger,
        "Dispatch failed for 'sales/Orders'"⟩], none⟩ ∧
    (Site.ofEndpoint ⟨"/raw/", false⟩).serve (.raising goneKey) () [ordersRequest, auditRequest] =
      (Site.ofEndpoint ⟨"/raw/", false⟩).serve (.raising missingKey) ()
        [ordersRequest, auditRequest] := by
  obtain ⟨single, -, -, runs⟩ := raised_errors_opaque
  have received (e : RaisedError) : ((Site.ofEndpoint ⟨"/raw/", false⟩).exchange
      (.raising e) () ordersRequest).1.received =
        some ⟨⟨["sales"], "Orders"⟩, "/4%3F2", "$top=1", "POST", [("a", "1"), ("b", "2")]⟩ := rfl
  have key : missingKey.Unreported ∧ missingKey.IsLookup := by decide
  have gone : goneKey.Unreported ∧ goneKey.IsLookup := by decide
  have pot : teapot.Unreported ∧ ¬ teapot.IsLookup := by decide
  have alike : (Dispatcher.raising goneKey).Alike (fun _ _ => True) (.raising missingKey) :=
    fun _ _ _ _ => ⟨.raised gone.1 key.1 (iff_of_true gone.2 key.2), trivial⟩
  exact ⟨key.1, key.2, gone.1, gone.2, pot.1, pot.2,
    (single _ _ _ _ _ _ _ (received goneKey) rfl gone.1).1 gone.2,
    (single _ _ _ _ _ _ _ (received teapot) rfl pot.1).2 pot.2,
    runs _ _ _ _ _ alike _ () () _ trivial⟩

end ServiceGateway
