import ServiceGateway.Members
import ServiceGateway.NameForm
import ServiceGateway.ShortestDecimal

/-!
# Dynamic values

What a caller hands over as a key or a setting, and what a data service returns, is any value at
all: an atom, a sequence, a mapping, or a ready-made key part or key. Values whose content can
change do not serve as names, nor does the signalling form of no number.
-/
namespace ServiceGateway

inductive SequenceKind where
  | list | tuple | set | fixedSet
  deriving DecidableEq, Repr

inductive MappingKind where
  | plain | ordered | readOnly
  deriving DecidableEq, Repr

inductive Value where
  | atom (a : Atom)
  | sequence (kind : SequenceKind) (items : List Value)
  | mapping (kind : MappingKind) (members : List (Value × Value))
  | part (p : KeyPart)
  | key (k : EntityKey)
  deriving Repr

def SequenceKind.typeName : SequenceKind → Text
  | list => "builtins.list"
  | tuple => "builtins.tuple"
  | set => "builtins.set"
  | fixedSet => "builtins.frozenset"

def MappingKind.typeName : MappingKind → Text
  | plain => "builtins.dict"
  | ordered => "collections.OrderedDict"
  | readOnly => "builtins.mappingproxy"

def KeyPart.typeName : KeyPart → Text
  | text _ => "dataroute.core.keys.TextKey"
  | integer _ => "dataroute.core.keys.IntegerKey"
  | date _ => "dataroute.core.keys.DateKey"

def EntityKey.typeName : EntityKey → Text
  | single _ => "dataroute.core.keys.SingleKey"
  | composite _ => "dataroute.core.keys.CompositeKey"

/-- Why a value does not serve as a name. -/
inductive NameRefusal where
  | changeable (typeName : Text)
  | signallingNan
  deriving DecidableEq, Repr

def NameRefusal.message : NameRefusal → Text
  | changeable typeName =>
    "unhashable type: '" ++ (below? "builtins." typeName).getD typeName ++ "'"
  | signallingNan => "Cannot hash a signaling NaN value"

namespace Value

def text (t : Text) : Value := atom (.text t)

def typeName : Value → Text
  | atom a => a.typeName
  | sequence kind _ => kind.typeName
  | mapping kind _ => kind.typeName
  | part p => p.typeName
  | key k => k.typeName

/-- What holds of all values without parts, and of a value if it holds of its parts, holds of all
values. -/
theorem induction {p : Value → Prop} (atom : ∀ a, p (.atom a))
    (sequence : ∀ kind items, (∀ v ∈ items, p v) → p (.sequence kind items))
    (mapping : ∀ kind members, (∀ m ∈ members, p m.1 ∧ p m.2) → p (.mapping kind members))
    (part : ∀ q, p (.part q)) (key : ∀ k, p (.key k)) : (v : Value) → p v
  | .atom a => atom a
  | .sequence kind items =>
    sequence kind items fun v _ => Value.induction atom sequence mapping part key v
  | .mapping kind members =>
    mapping kind members fun m hm =>
      have _ := sizeOf_lt_of_mem hm
      ⟨Value.induction atom sequence mapping part key m.1,
        Value.induction atom sequence mapping part key m.2⟩
  | .part q => part q
  | .key k => key k

mutual
/-- What the value stands for as a name. -/
def form : Value → NameForm
  | atom a => a.form
  | sequence .tuple items => .tuple (forms items)
  | sequence .fixedSet items => .fixedSet (forms items)
  | sequence .list _ | sequence .set _ | mapping _ _ => .nothing
  | part p => .part p
  | key k => .key k
def forms : List Value → List NameForm
  | [] => []
  | v :: rest => v.form :: forms rest
end

mutual
/-- What keeps a value from serving as a name; a tuple is kept by the first of its items. -/
def refusal? : Value → Option NameRefusal
  | atom (.buffer b) => some (.changeable (Atom.buffer b).typeName)
  | atom (.decimal (.nan true)) => some .signallingNan
  | sequence .list _ => some (.changeable SequenceKind.list.typeName)
  | sequence .set _ => some (.changeable SequenceKind.set.typeName)
  | sequence .tuple items => firstRefusal? items
  | mapping kind _ => some (.changeable kind.typeName)
  | _ => none
def firstRefusal? : List Value → Option NameRefusal
  | [] => none
  | x :: xs => (refusal? x).or (firstRefusal? xs)
end

/-- Members in ascending order if all are in order with the first, else as they came. -/
def ascending (members : List (NameForm × Value)) : List (NameForm × Value) :=
  if members.all fun m => members.head?.all fun first => (first.1.order? m.1).isSome then
    members.mergeSort fun a b => a.1.order? b.1 ≠ some .gt
  else members

theorem ascending_perm (members : List (NameForm × Value)) :
    (ascending members).Perm members := by
  unfold ascending
  split
  · exact List.mergeSort_perm _ _
  · exact .refl _

/-- The members of a set, in ascending order where they have one. -/
def setMembers (items : List Value) : List Value :=
  (ascending (distinctItems (fun a b => a.1.same b.1) (items.map fun v => (v.form, v)))).map (·.2)

theorem mem_of_mem_setMembers {items : List Value} {v : Value} (h : v ∈ setMembers items) :
    v ∈ items := by
  obtain ⟨m, hm, rfl⟩ := List.mem_map.1 h
  have hdistinct := (ascending_perm _).mem_iff.1 hm
  obtain ⟨w, hw, rfl⟩ := List.mem_map.1 ((distinctItems_sublist _ _).subset hdistinct)
  exact hw

end Value

end ServiceGateway
