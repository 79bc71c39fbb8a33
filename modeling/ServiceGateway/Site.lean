import ServiceGateway.DataEndpoint
import ServiceGateway.HttpRoute

/-!
# Sites

A site is a list of routes to a health page and to data endpoints. Serving a request asks the
dispatcher at most once; the dispatcher may change its state with every query. The health page
tells where the data endpoint is mounted.
-/
namespace ServiceGateway

inductive Page where
  | health (mount : Option Text)
  | data (e : DataEndpoint)
  deriving DecidableEq, Repr

/-- A dispatcher answers queries and goes on in a new state. -/
abbrev Dispatcher (σ : Type) := σ → DataQuery → Outcome × σ

/-- One request as seen from outside and from the dispatcher. -/
structure Exchange where
  reply : Reply
  received : Option DataQuery
  deriving DecidableEq, Repr

structure Site where
  routes : List (Route Page)
  deriving DecidableEq, Repr

namespace Site

def dataMethods : List Text :=
  ["DELETE".toList, "GET".toList, "PATCH".toList, "POST".toList, "PUT".toList]

def dataRoute (e : DataEndpoint) : Route Page :=
  ⟨.below (slashEnded e.mount), dataMethods, .data e⟩

def healthPath : Text := "/health"

def healthRoute (mount : Option Text) : Route Page :=
  ⟨.exactly healthPath, ["GET".toList], .health mount⟩

/-- A data endpoint and nothing else. -/
def ofEndpoint (e : DataEndpoint) : Site := ⟨[dataRoute e]⟩

/-- A health page, and a data endpoint if there is one. -/
def withHealth : Option DataEndpoint → Site
  | some e => ⟨[healthRoute (some e.mount), dataRoute e]⟩
  | none => ⟨[healthRoute none]⟩

def healthText (mount : Option Text) : Text :=
  Json.textObject [("status", "healthy"), ("raw_endpoint", mount.getD "not configured")]

def healthResponse (mount : Option Text) : Response :=
  .withText 200 Response.jsonType (healthText mount)

def answer (response : Response) : Plan := .answer ⟨response, [], none⟩

def plan (s : Site) (r : Request) : Plan :=
  match Route.select s.routes r.method r.path with
  | .page (.health mount) => answer (healthResponse mount)
  | .page (.data e) => e.plan r
  | .wrongMethod allowed =>
    answer { Response.failure 405 none with allow := allowed }
  | .elsewhere path =>
    answer { Response.bare 307 with location := some (redirectLocation r path) }
  | .nowhere => answer (.failure 404 none)

def exchange {σ : Type} (s : Site) (d : Dispatcher σ) (state : σ) (r : Request) : Exchange × σ :=
  match s.plan r with
  | .answer reply => (⟨reply, none⟩, state)
  | .dispatch query =>
    let (outcome, next) := d state query
    (⟨DataEndpoint.conclude query outcome, some query⟩, next)

theorem exchange_of_answer {s : Site} {r : Request} {reply : Reply} (h : s.plan r = .answer reply)
    {σ : Type} (d : Dispatcher σ) (state : σ) : s.exchange d state r = (⟨reply, none⟩, state) := by
  simp [exchange, h]

theorem exchange_of_dispatch {s : Site} {r : Request} {query : DataQuery}
    (h : s.plan r = .dispatch query) {σ : Type} (d : Dispatcher σ) (state : σ) :
    s.exchange d state r =
      (⟨DataEndpoint.conclude query (d state query).1, some query⟩, (d state query).2) := by
  simp [exchange, h]

/-- Serves requests one after the other. -/
def serve {σ : Type} (s : Site) (d : Dispatcher σ) : σ → List Request → List Exchange
  | _, [] => []
  | state, r :: rest =>
    let (x, next) := s.exchange d state r
    x :: serve s d next rest

/-- The queries that reach the dispatcher, in order. -/
def received {σ : Type} (s : Site) (d : Dispatcher σ) (state : σ) (rs : List Request) :
    List DataQuery :=
  (s.serve d state rs).filterMap (·.received)

theorem exchange_received {σ : Type} (s : Site) (d : Dispatcher σ) (state : σ) (r : Request) :
    (s.exchange d state r).1.received =
      match s.plan r with
      | .answer _ => none
      | .dispatch query => some query := by
  unfold exchange
  split <;> rfl

end Site

end ServiceGateway
