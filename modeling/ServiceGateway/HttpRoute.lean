import ServiceGateway.HttpMessage

/-!
# Routes

A route serves one path, or every path below a mount point, for some methods. The first route that
serves path and method is taken. Otherwise the first that serves the path tells which methods it
takes, and where no route serves the path, a route for the path with its final slashes changed is
redirected to. Methods are compared letter by letter.
-/
namespace ServiceGateway

inductive PathPattern where
  | exactly (path : Text)
  | below (mount : Text)
  deriving DecidableEq, Repr

def PathPattern.serves (p : PathPattern) (path : Text) : Bool :=
  match p with
  | exactly q => path == q
  | below mount => (below? mount path).isSome

structure Route (α : Type) where
  pattern : PathPattern
  methods : List Text
  page : α
  deriving DecidableEq, Repr

inductive Selection (α : Type) where
  | page (a : α)
  | wrongMethod (allowed : List Text)
  | elsewhere (path : Text)
  | nowhere
  deriving DecidableEq, Repr

/-- The path without its final slashes, or with one if it has none. -/
def otherEnding (path : Text) : Text :=
  if path.getLast? = some '/' then (path.reverse.dropWhile (· = '/')).reverse else path ++ ['/']

namespace Route

variable {α : Type}

def serves (path : Text) (r : Route α) : Bool := r.pattern.serves path

def takes (method path : Text) (r : Route α) : Bool := r.serves path && r.methods.contains method

def select (routes : List (Route α)) (method path : Text) : Selection α :=
  match routes.find? (takes method path), routes.find? (serves path) with
  | some r, _ => .page r.page
  | none, some r => .wrongMethod r.methods
  | none, none =>
    if path ≠ ['/'] ∧ routes.any (serves (otherEnding path)) then .elsewhere (otherEnding path)
    else .nowhere

theorem select_eq_page_of_takes {routes : List (Route α)} {method path : Text} {r : Route α}
    (h : routes.find? (takes method path) = some r) : select routes method path = .page r.page := by
  simp [select, h]

theorem exists_of_select_eq_page {routes : List (Route α)} {method path : Text} {a : α}
    (h : select routes method path = .page a) :
    ∃ r, routes.find? (takes method path) = some r ∧ r.page = a := by
  unfold select at h
  split at h
  · rename_i r hr
    exact ⟨r, hr, Selection.page.inj h⟩
  · simp at h
  · split at h <;> simp at h

/-- What becomes of a request where there is one route. -/
theorem select_singleton (r : Route α) (method path : Text) :
    select [r] method path =
      if r.takes method path then .page r.page
      else if r.serves path then .wrongMethod r.methods
      else if path ≠ ['/'] ∧ r.serves (otherEnding path) then .elsewhere (otherEnding path)
      else .nowhere := by
  simp only [select, List.find?_cons, List.find?_nil, List.any_cons, List.any_nil, Bool.or_false]
  cases r.takes method path with
  | true => rfl
  | false => cases r.serves path <;> rfl

end Route

/-- The address of another path at the same origin, with the same query. -/
def redirectLocation (r : Request) (path : Text) : Text :=
  percentEncoded (r.origin ++ Request.escapedPath path ++
    if r.query = [] then [] else '?' :: r.query)

end ServiceGateway
