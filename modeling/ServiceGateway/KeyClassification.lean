import ServiceGateway.Value

/-!
# Classification of key parts and keys

Three constructors each accept values of one kind, and the classification of a value picks among
the kinds; the two are defined apart. Truth values are not integers here and moments are not dates.
A mapping becomes a composite key, any other value a single one; a ready-made key stays as it is.
Of several faults in a mapping the first bad entry decides, and in it the name before the value.
-/
namespace ServiceGateway

namespace KeyPart

def ofText : Value → Except KeyFault KeyPart
  | .atom (.text t) => .ok (text t)
  | v => .error (.unsupportedValue v.typeName)

def ofInteger : Value → Except KeyFault KeyPart
  | .atom (.integer n) =>
    if InRange n then .ok (integer n)
    else if HasText n then .error (.outOfRange n)
    else .error .tooManyDigits
  | v => .error (.unsupportedValue v.typeName)

def ofDate : Value → Except KeyFault KeyPart
  | .atom (.date d) => .ok (date d)
  | v => .error (.unsupportedValue v.typeName)

/-- A ready-made part stands for itself. -/
def classify (v : Value) : Except KeyFault KeyPart :=
  match v with
  | .part p => .ok p
  | .atom (.text _) => ofText v
  | .atom (.integer _) => ofInteger v
  | .atom (.date _) => ofDate v
  | _ => .error (.unsupportedValue v.typeName)

@[simp] theorem classify_part (p : KeyPart) : classify (.part p) = .ok p := rfl

theorem classify_integer (n : Int) :
    classify (.atom (.integer n)) =
      if InRange n then .ok (integer n)
      else if HasText n then .error (.outOfRange n)
      else .error .tooManyDigits :=
  rfl

end KeyPart

namespace EntityKey

def ofPart (v : Value) : Except KeyFault EntityKey := (KeyPart.classify v).map single

/-- An entry's name is checked before its value. -/
def checkEntry (entry : Value × Value) : Except KeyFault (Text × KeyPart) :=
  match entry.1 with
  | .atom (.text name) => (KeyPart.classify entry.2).map (name, ·)
  | name => .error (.unsupportedName name.typeName)

def ofEntries (entries : List (Value × Value)) : Except KeyFault EntityKey :=
  if entries.isEmpty then .error .noEntries
  else (entries.mapM checkEntry).map composite

def ofValue : Value → Except KeyFault EntityKey
  | .key k => .ok k
  | .mapping _ members => ofEntries members
  | v => ofPart v

@[simp] theorem ofValue_key (k : EntityKey) : ofValue (.key k) = .ok k := rfl

theorem ofEntries_nil : ofEntries [] = .error .noEntries := rfl

end EntityKey

end ServiceGateway
