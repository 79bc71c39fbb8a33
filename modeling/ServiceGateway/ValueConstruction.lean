import ServiceGateway.KeyClassification
import ServiceGateway.Literal

/-!
# Construction of values

A construction tells how a value is put together from atoms and literals, with ready-made key parts
and keys made by their constructors. It is carried out from the inside to the outside and from the
left to the right, and the first refusal ends it. A set takes its items, and a mapping its members,
one after the other, each before the next one is built. A mapping keeps the first of equal names,
with the last value.
-/
namespace ServiceGateway

inductive Construction where
  | atom (a : Atom)
  | literal (l : Literal)
  | sequence (kind : SequenceKind) (items : List Construction)
  | mapping (kind : MappingKind) (members : List (Construction × Construction))
  | textPart (argument : Construction)
  | integerPart (argument : Construction)
  | datePart (argument : Construction)
  | singleKey (argument : Construction)
  | compositeKey (entries : List (Construction × Construction))
  | anyKey (argument : Construction)
  deriving Repr

inductive ConstructionFault where
  | literal (e : LiteralFault)
  | key (e : KeyFault)
  | name (e : NameRefusal)
  deriving DecidableEq, Repr

def ConstructionFault.message : ConstructionFault → Text
  | literal e => e.message
  | key e => e.message
  | name e => e.message

namespace SequenceKind

/-- Items of sets are held to the same rule as names. -/
def takesNames : SequenceKind → Bool
  | set | fixedSet => true
  | list | tuple => false

end SequenceKind

namespace Construction

def keyed {α : Type} (r : Except KeyFault α) (f : α → Value) : Except ConstructionFault Value :=
  match r with
  | .ok a => .ok (f a)
  | .error e => .error (.key e)

/-- The value as a name, if it serves as one. -/
def named (v : Value) : Except ConstructionFault Value :=
  match v.refusal? with
  | some e => .error (.name e)
  | none => .ok v

theorem named_eq_ok_iff {v w : Value} : named v = .ok w ↔ v.refusal? = none ∧ v = w := by
  unfold named
  split <;> simp_all

def sequenceOf (kind : SequenceKind) (items : List Value) : Value :=
  .sequence kind (if kind.takesNames then Value.setMembers items else items)

mutual
def build : Construction → Except ConstructionFault Value
  | atom a => .ok (.atom a)
  | literal l => (l.read.map Value.atom).mapError .literal
  | sequence kind items => do .ok (sequenceOf kind (← buildAll kind.takesNames items))
  | mapping kind members => do
    .ok (.mapping kind (tableBy Value.form NameForm.same (← buildMembers true members)))
  | textPart argument => do keyed (KeyPart.ofText (← build argument)) .part
  | integerPart argument => do keyed (KeyPart.ofInteger (← build argument)) .part
  | datePart argument => do keyed (KeyPart.ofDate (← build argument)) .part
  | singleKey argument => do keyed (EntityKey.ofPart (← build argument)) .key
  | compositeKey entries => do keyed (EntityKey.ofEntries (← buildMembers false entries)) .key
  | anyKey argument => do keyed (EntityKey.ofValue (← build argument)) .key
/-- The items in order; `asNames` tells whether they have to serve as names. -/
def buildAll (asNames : Bool) : List Construction → Except ConstructionFault (List Value)
  | [] => .ok []
  | c :: rest => do
    let v ← build c
    let v ← if asNames then named v else .ok v
    let vs ← buildAll asNames rest
    .ok (v :: vs)
/-- The members in order, in each the name before the value; a name is refused behind its value. -/
def buildMembers (asNames : Bool) : List (Construction × Construction) →
    Except ConstructionFault (List (Value × Value))
  | [] => .ok []
  | (k, v) :: rest => do
    let name ← build k
    let value ← build v
    let name ← if asNames then named name else .ok name
    let members ← buildMembers asNames rest
    .ok ((name, value) :: members)
end

end Construction

end ServiceGateway
