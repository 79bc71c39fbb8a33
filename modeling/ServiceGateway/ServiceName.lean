import ServiceGateway.LowerCase
import ServiceGateway.QuotedText

/-!
# Qualified names

A qualified name identifies one data service: lower-case namespace segments, outermost first, and
an entity name whose case is kept. Its text joins them with slashes. The checks look at emptiness
and case only, so a segment made from parts may itself hold a slash; such a name is well formed,
but reading its text back cuts it elsewhere.
-/
namespace ServiceGateway

structure ServiceName where
  scope : List Text
  name : Text
  deriving DecidableEq, Repr

/-- Why parts do not make a qualified name. -/
inductive NameFault where
  | emptyName
  | emptySegment (scope : List Text)
  | notLowerCase (segment : Text)
  deriving DecidableEq, Repr

def NameFault.message : NameFault → Text
  | emptyName => "Qualified name requires a non-empty entity name"
  | emptySegment scope => "Empty namespace segment in " ++ quotedList scope
  | notLowerCase segment => "Namespace segment '" ++ segment ++ "' must be lower-case"

namespace ServiceName

def WellFormed (q : ServiceName) : Prop :=
  q.name ≠ [] ∧ ∀ s ∈ q.scope, s ≠ [] ∧ lowerCase s = s

instance (q : ServiceName) : Decidable q.WellFormed := by
  unfold WellFormed
  infer_instance

/-- What is wrong with a segment of the given namespace, if anything is. -/
def segmentFault? (scope : List Text) (s : Text) : Option NameFault :=
  if s = [] then some (.emptySegment scope)
  else if lowerCase s = s then none
  else some (.notLowerCase s)

theorem segmentFault?_eq_none_iff {scope : List Text} {s : Text} :
    segmentFault? scope s = none ↔ s ≠ [] ∧ lowerCase s = s := by
  unfold segmentFault?
  split
  · simp_all
  · split <;> simp_all

/-- Checks the entity name first and then the segments in order. -/
def ofParts (scope : List Text) (name : Text) : Except NameFault ServiceName :=
  if name = [] then .error .emptyName
  else match scope.findSome? (segmentFault? scope) with
    | some e => .error e
    | none => .ok ⟨scope, name⟩

theorem ofParts_eq_ok_iff {scope : List Text} {name : Text} {q : ServiceName} :
    ofParts scope name = .ok q ↔ q = ⟨scope, name⟩ ∧ q.WellFormed := by
  unfold ofParts
  by_cases hn : name = []
  · simp only [hn, ↓reduceIte, reduceCtorEq, false_iff, not_and]
    rintro rfl h
    exact h.1 rfl
  · simp only [hn, ↓reduceIte]
    cases hf : scope.findSome? (segmentFault? scope) with
    | some e =>
      obtain ⟨s, hs, he⟩ := List.exists_of_findSome?_eq_some hf
      simp only [reduceCtorEq, false_iff, not_and]
      rintro rfl h
      rw [segmentFault?_eq_none_iff.2 (h.2 s hs)] at he
      cases he
    | none =>
      have hs : ∀ s ∈ scope, s ≠ [] ∧ lowerCase s = s := fun s hs =>
        segmentFault?_eq_none_iff.1 (List.findSome?_eq_none_iff.1 hf s hs)
      simp only [Except.ok.injEq]
      constructor
      · rintro rfl
        exact ⟨rfl, hn, hs⟩
      · rintro ⟨rfl, _⟩
        rfl

def text (q : ServiceName) : Text := joinSegments (q.scope ++ [q.name])

/-- Reads a name from its text: the last segment is the entity name. -/
def parse (t : Text) : Except NameFault ServiceName :=
  let parts := segments t
  ofParts parts.dropLast (parts.getLast?.getD [])

/-- Services whose entity name begins with an underscore are hidden. -/
def isHidden (q : ServiceName) : Bool := q.name.head? = some '_'

end ServiceName

end ServiceGateway
