import ServiceGateway.Proofs.Dispatch
import ServiceGateway.Proofs.JsonReading
import ServiceGateway.Proofs.JsonTexts

/-!
# What becomes of a dispatch

Once a query has reached the dispatcher, its outcome alone decides the answer, whatever site the
request came to. A failure that a data service reports is passed on with its status and message and
leaves one record. A value is answered with what carries it, if anything does. Otherwise an error
escapes from the endpoint: the value came from a dispatcher that did not fail, so neither the record
nor the answer is the one for a failed dispatch.
-/
namespace ServiceGateway

theorem Site.reply_of_received {σ : Type} {s : Site} {d : Dispatcher σ} {state : σ} {r : Request}
    {query : DataQuery} (h : (s.exchange d state r).1.received = some query) :
    (s.exchange d state r).1.reply = DataEndpoint.conclude query (d state query).1 := by
  rw [exchange_received] at h
  split at h
  · cases h
  · rename_i hplan
    obtain rfl := Option.some.inj h
    rw [exchange_of_dispatch hplan]

/-! ## Reported failures -/

/-- Statuses of answers that consist of their head alone. -/
def Bodyless (status : Int) : Prop := status < 200 ∨ status = 204 ∨ status = 205 ∨ status = 304

theorem allowsBody_eq_false_iff {status : Int} : allowsBody status = false ↔ Bodyless status := by
  simp only [allowsBody, Bodyless, Bool.not_eq_false', Bool.or_eq_true, decide_eq_true_eq,
    beq_iff_eq, or_assoc]

/-- A reply that passes a failure on. A missing message is made up for by the reason phrase of the
status, which is empty where the status has none. -/
structure Reply.Forwards (reply : Reply) (service : ServiceName) (f : DataFailure) : Prop where
  status : reply.response.status = f.status
  escaped : reply.escaped = none
  log : reply.log = [⟨.info, DataEndpoint.dispatchLogger,
    "Data service '" ++ service.text ++ "' failed with status " ++ integerText f.status⟩]
  body : ¬ Bodyless f.status → reply.response.contentType = some Response.jsonType ∧
    ∃ t, reply.response.body = .text t ∧
      Json.read? t = some (.object
        [(.text "detail", .scalar (.text (f.message.getD (reasonPhrase f.status))))])
  noBody : Bodyless f.status → reply.response.contentType = none ∧ reply.response.body = .empty

theorem DataEndpoint.forwards_ofFailure (service : ServiceName) (f : DataFailure) :
    (ofFailure service (.data f)).Forwards service f where
  status := Response.status_failure f.status f.message
  escaped := rfl
  log := rfl
  body h := by
    rw [← allowsBody_eq_false_iff, Bool.not_eq_false] at h
    rw [ofFailure, Response.failure, if_pos h]
    exact ⟨rfl, _, rfl, Json.read?_textObject _⟩
  noBody h := by
    rw [ofFailure, Response.failure, allowsBody_eq_false_iff.2 h]
    exact ⟨rfl, rfl⟩

/-- Octets and buffers are sent as they are, everything else as its JSON text. -/
def Value.Answerable (v : Value) : Prop :=
  v.Encodable ∨ ∃ b, v = .atom (.octets b) ∨ v = .atom (.buffer b)

/-- The answers that carry a value. -/
inductive Response.Carries : Response → Value → Prop
  | nothing : Carries (bare 204) (.atom .null)
  | octets (b : Octets) : Carries (withOctets b) (.atom (.octets b))
  | buffer (b : Octets) : Carries (withOctets b) (.atom (.buffer b))
  | text (t : Text) : Carries (withText 200 plainText t) (.text t)
  | json {v : Value} {t : Text} (h : v.jsonText = .ok t) : Carries (withText 200 jsonType t) v

namespace DataEndpoint

theorem carries_of_answerable {v : Value} (h : v.Answerable) :
    ∃ response, ofValue v = ⟨response, [], none⟩ ∧ response.Carries v := by
  unfold ofValue
  split
  · exact ⟨_, rfl, .nothing⟩
  · exact ⟨_, rfl, .octets _⟩
  · exact ⟨_, rfl, .buffer _⟩
  · exact ⟨_, rfl, .text _⟩
  · rename_i hoctets hbuffer _
    rcases h with h | ⟨b, rfl | rfl⟩
    · obtain ⟨t, ht⟩ := Value.exists_jsonText_iff.2 h
      rw [ht]
      exact ⟨_, rfl, .json ht⟩
    · exact absurd rfl (hoctets b)
    · exact absurd rfl (hbuffer b)

theorem escapes_of_not_answerable {v : Value} (h : ¬ v.Answerable) :
    ∃ fault, ofValue v = ⟨serverError, [], some fault⟩ := by
  unfold ofValue
  split
  · exact absurd (.inl (Value.exists_jsonText_iff.1 ⟨_, rfl⟩)) h
  · exact absurd (.inr ⟨_, .inl rfl⟩) h
  · exact absurd (.inr ⟨_, .inr rfl⟩) h
  · exact absurd (.inl (Value.exists_jsonText_iff.1 ⟨_, rfl⟩)) h
  · cases ht : v.jsonText with
    | ok t => exact absurd (.inl (Value.exists_jsonText_iff.1 ⟨t, ht⟩)) h
    | error fault => exact ⟨fault, rfl⟩

end DataEndpoint

/-- Over all sites, dispatchers and requests: a value that can be sent is answered with and leaves
no record, at any depth of its parts; for every other value an error escapes, without a record and
with the answer to a request that an unexpected error ended. -/
theorem value_answered_or_escapes {σ : Type} (s : Site) (d : Dispatcher σ) (state : σ) (r : Request)
    {query : DataQuery} {v : Value} (received : (s.exchange d state r).1.received = some query)
    (returned : (d state query).1 = .value v) :
    ((s.exchange d state r).1.reply.escaped = none ↔ v.Answerable) ∧
    (v.Answerable → ∃ response, (s.exchange d state r).1.reply = ⟨response, [], none⟩ ∧
      response.Carries v) ∧
    (¬ v.Answerable → ∃ fault, (s.exchange d state r).1.reply =
      ⟨.withText 500 Response.plainText "Internal Server Error", [], some fault⟩) := by
  have reply : (s.exchange d state r).1.reply = DataEndpoint.ofValue v := by
    rw [Site.reply_of_received received, returned]
    rfl
  rw [reply]
  refine ⟨⟨fun h => ?_, fun h => ?_⟩, DataEndpoint.carries_of_answerable,
    DataEndpoint.escapes_of_not_answerable⟩
  · by_contra hnot
    obtain ⟨fault, hfault⟩ := DataEndpoint.escapes_of_not_answerable hnot
    rw [hfault] at h
    cases h
  · obtain ⟨response, hresponse, _⟩ := DataEndpoint.carries_of_answerable h
    rw [hresponse]

/-- A currency and an amount, one level down. -/
def orderTotal (amount : Binary64) : Value :=
  .mapping .plain [(.text "total", .sequence .list [.text "EUR", .atom (.double amount)])]

theorem answerable_orderTotal_iff {amount : Binary64} :
    (orderTotal amount).Answerable ↔ amount.IsFinite := by
  have document : Json.ofValue (orderTotal amount) =
      .ok (.object [(.text "total", .array [.text "EUR", .scalar (.double amount)])]) := rfl
  have encodable : (orderTotal amount).Encodable ↔ amount.IsFinite := by
    rw [Value.Encodable, document]
    simp [orderTotal, Value.text, Json.text, Atom.HasDocument, Atom.IsScalar, Scalar.Writable]
  rw [Value.Answerable, encodable]
  simp [orderTotal]

theorem answered_or_escapes_orderTotal :
    ((Site.ofEndpoint ⟨"/raw/", false⟩).exchange
        (fun n _ => (.value (orderTotal (.finite false 0)), n + 1)) 0
        ordersRequest).1.reply.escaped = none ∧
    ∃ fault, ((Site.ofEndpoint ⟨"/raw/", false⟩).exchange
        (fun n _ => (.value (orderTotal .nan), n + 1)) 0 ordersRequest).1.reply =
      ⟨.withText 500 Response.plainText "Internal Server Error", [], some fault⟩ := by
  have received (amount : Binary64) : ((Site.ofEndpoint ⟨"/raw/", false⟩).exchange
      (fun n _ => (.value (orderTotal amount), n + 1)) 0 ordersRequest).1.received =
        some ⟨⟨["sales"], "Orders"⟩, "/4%3F2", "$top=1", "POST", [("a", "1"), ("b", "2")]⟩ := rfl
  have zero : (orderTotal (.finite false 0)).Answerable :=
    answerable_orderTotal_iff.2 ⟨false, 0, rfl⟩
  have nan : ¬ (orderTotal .nan).Answerable := by
    simp [answerable_orderTotal_iff, Binary64.IsFinite]
  exact ⟨(value_answered_or_escapes _ _ 0 ordersRequest (received _) rfl).1.2 zero,
    (value_answered_or_escapes _ _ 0 ordersRequest (received _) rfl).2.2 nan⟩

/-- No number at all has no JSON text, so the endpoint lets an error escape and leaves no record;
for a dispatcher that fails with the same error it would have done neither. -/
theorem nan_total_escapes :
    let site := Site.ofEndpoint ⟨"/raw/", false⟩
    let returning : Dispatcher Nat := fun n _ => (.value (orderTotal .nan), n + 1)
    let failing : Dispatcher Nat := fun n _ => (.failed (.other "ValueError" "nan"), n + 1)
    (site.exchange returning 0 ordersRequest).1.reply =
        ⟨.withText 500 Response.plainText "Internal Server Error", [], some .notFinite⟩ ∧
      (site.exchange failing 0 ordersRequest).1.reply =
        ⟨.failure 500 (some "Data request failed".toList),
          [DataEndpoint.crashRecord ⟨["sales"], "Orders"⟩], none⟩ :=
  ⟨rfl, rfl⟩

end ServiceGateway
