import ServiceGateway.LogRecord
import ServiceGateway.ServiceName

/-!
# Routing paths

The routing path is the part of a request path below the mount point. Its segments are read from
the left: those before the first entity token are the namespace and are lower-cased, the token is
the entity name, and the rest is the path below the service. An empty segment before the token ends
the reading, as does a path without a token. Nothing is decoded here. The reading is written twice:
as a scan that keeps the namespace and has the name checked at its end, and from the inside out
without the checks, which never refuse anything.
-/
namespace ServiceGateway

def isEntityStart (c : Char) : Bool := c.isUpper || c == '_'

def isEntityRest (c : Char) : Bool := c.isAlphanum || c == '_' || c == '-'

/-- Entity tokens begin with an ASCII capital or an underscore and go on with ASCII letters, digits,
underscores and hyphens. -/
def isEntityName : Text → Bool
  | [] => false
  | c :: rest => isEntityStart c && rest.all isEntityRest

theorem isEntityName_ne_nil {t : Text} (h : isEntityName t = true) : t ≠ [] := by
  rintro rfl
  cases h

theorem isEntityName_cons {c : Char} {rest : Text} :
    isEntityName (c :: rest) = true ↔
      isEntityStart c = true ∧ ∀ d ∈ rest, isEntityRest d = true := by
  simp [isEntityName]

/-- Why a path names no service. -/
inductive Unresolved where
  | outsideMount
  | emptySegment
  | noEntityName
  deriving DecidableEq, Repr

/-- A service and the path below it, which is empty or begins with a slash. -/
structure Resolution where
  name : ServiceName
  remainder : Text
  deriving DecidableEq, Repr

/-- The same resolution one namespace segment further out. -/
def Resolution.within (segment : Text) (r : Resolution) : Resolution :=
  { r with name := { r.name with scope := segment :: r.name.scope } }

/-- The segments behind an entity, joined, with a slash put in front of a text without one. -/
def remainderOf (rest : List Text) : Text :=
  match joinSegments rest with
  | [] => []
  | c :: cs => if c = '/' then c :: cs else '/' :: c :: cs

theorem remainderOf_head? (rest : List Text) :
    remainderOf rest = [] ∨ (remainderOf rest).head? = some '/' := by
  unfold remainderOf
  split
  · exact .inl rfl
  · split
    · exact .inr (by simp_all)
    · exact .inr rfl

def resolveSegments : List Text → Except Unresolved Resolution
  | [] => .error .noEntityName
  | token :: rest =>
    if token = [] then .error .emptySegment
    else if isEntityName token then .ok ⟨⟨[], token⟩, remainderOf rest⟩
    else (resolveSegments rest).map (·.within (lowerCase token))

theorem resolveSegments_entity {token : Text} (h : isEntityName token = true) (rest : List Text) :
    resolveSegments (token :: rest) = .ok ⟨⟨[], token⟩, remainderOf rest⟩ := by
  simp [resolveSegments, isEntityName_ne_nil h, h]

theorem resolveSegments_scope {token : Text} (hne : token ≠ []) (h : isEntityName token = false)
    (rest : List Text) :
    resolveSegments (token :: rest) =
      (resolveSegments rest).map (·.within (lowerCase token)) := by
  simp [resolveSegments, hne, h]

/-- Reads segments behind the namespace found so far. The name is made from its parts when the
entity is reached, and whatever the name's own checks refuse comes out as a fault. -/
def scanSegments (scope : List Text) : List Text → Except NameFault (Except Unresolved Resolution)
  | [] => .ok (.error .noEntityName)
  | token :: rest =>
    if token = [] then .ok (.error .emptySegment)
    else if isEntityName token then
      (ServiceName.ofParts scope token).map fun name => .ok ⟨name, remainderOf rest⟩
    else scanSegments (scope ++ [lowerCase token]) rest

/-- Reads a request path from the left below a mount point, with the checks of the name. -/
def scan (path mount : Text) : Except NameFault (Except Unresolved Resolution) :=
  match below? (slashEnded mount) path with
  | none => .ok (.error .outsideMount)
  | some routingPath => scanSegments [] (segments routingPath)

/-- Resolves a request path below a mount point, which counts as ending in a slash. -/
def resolve (path mount : Text) : Except Unresolved Resolution :=
  match below? (slashEnded mount) path with
  | none => .error .outsideMount
  | some routingPath => resolveSegments (segments routingPath)

def resolve? (path mount : Text) : Option Resolution := (resolve path mount).toOption

def resolveName? (path mount : Text) : Option ServiceName := (resolve? path mount).map (·.name)

/-- The text of the name that a path resolves to. -/
def canonicalName? (path mount : Text) : Option Text := (resolveName? path mount).map (·.text)

def resolverLogger : Text := "dataroute.core.naming"

/-- The path below the mount point, or nothing for a path outside of it. -/
def routingPathOf (path mount : Text) : Text := (below? (slashEnded mount) path).getD []

def Unresolved.message (path mount : Text) : Unresolved → Text
  | outsideMount => "Path " ++ quoted path ++ " is not below mount prefix " ++ quoted mount
  | emptySegment => "Empty segment in routing path " ++ quoted (routingPathOf path mount)
  | noEntityName => "No entity segment in routing path " ++ quoted (routingPathOf path mount)

theorem resolve_below (mount routingPath : Text) :
    resolve (slashEnded mount ++ routingPath) mount = resolveSegments (segments routingPath) := by
  simp [resolve]

theorem resolve_slashEnded (path mount : Text) :
    resolve path (slashEnded mount) = resolve path mount := by
  simp [resolve]

/-- The record of a path that names no service. -/
def unresolvedRecord (path mount : Text) (cause : Unresolved) : LogRecord :=
  ⟨.debug, resolverLogger, cause.message path mount⟩

/-- A path that resolves is not logged; one that does not leaves one record. -/
def resolutionLog (path mount : Text) : List LogRecord :=
  match resolve path mount with
  | .ok _ => []
  | .error cause => [unresolvedRecord path mount cause]

end ServiceGateway
