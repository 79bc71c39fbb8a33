import ServiceGateway.Json

/-!
# Values as JSON

The document for a value. Sequences of every kind are arrays, dates and times their ISO texts,
octets the text they are in UTF-8, durations their seconds. Members of a mapping whose name is a
text that begins with the reserved mark are left out, at every depth; names that come out equal are
merged as in any mapping. A key part or key is the object of its parts. A bare object, a complex
number, a buffer with content and the signalling form of no number have no form.
-/
namespace ServiceGateway

/-- Members with names that begin so are internal to the data service. -/
def reservedMark : Text := "_sa"

def isReserved : Value → Bool
  | .atom (.text t) => (below? reservedMark t).isSome
  | _ => false

namespace Json

def text (t : Text) : Json := scalar (.text t)

/-- A decimal number with digits only before its point is an integer. -/
def ofDecimal (d : Decimal) : Except EncodingFault Json :=
  match d with
  | .finite n =>
    if n.exponent < 0 then .ok (scalar (.double (Binary64.ofNumeral n)))
    else .ok (scalar (.whole n))
  | .nan true => .error .noForm
  | d => .ok (scalar (.double (Binary64.ofDecimal d)))

def ofAtom : Atom → Except EncodingFault Json
  | .null => .ok (scalar .null)
  | .boolean b => .ok (scalar (.boolean b))
  | .integer n => .ok (scalar (.integer n))
  | .double x => .ok (scalar (.double x))
  | .complex _ => .error .noForm
  | .decimal d => ofDecimal d
  | .text t => .ok (text t)
  | .octets b =>
    match ofUtf8? b with
    | some t => .ok (text t)
    | none => .error .notUtf8
  | .buffer b => if b.isEmpty then .ok (object []) else .error .noForm
  | .date d => .ok (text d.text)
  | .moment m => .ok (text m.text)
  | .dayTime c => .ok (text c.text)
  | .duration d => .ok (scalar (.double d.seconds))
  | .object => .error .noForm

def ofKeyPart : KeyPart → Json
  | .text t => object [(.text "value", text t)]
  | .integer n => object [(.text "value", scalar (.integer n))]
  | .date d => object [(.text "value", text d.text)]

def ofEntityKey : EntityKey → Json
  | .single p => object [(.text "value", ofKeyPart p)]
  | .composite entries =>
    object [(.text "entries", array (entries.map fun e => array [text e.1, ofKeyPart e.2]))]

mutual
def ofValue : Value → Except EncodingFault Json
  | .atom a => ofAtom a
  | .sequence _ items => do .ok (array (← ofValues items))
  | .mapping _ members => do .ok (object (tableBy Scalar.form NameForm.same (← ofMembers members)))
  | .part p => .ok (ofKeyPart p)
  | .key k => .ok (ofEntityKey k)
def ofValues : List Value → Except EncodingFault (List Json)
  | [] => .ok []
  | v :: rest => do
    let j ← ofValue v
    let js ← ofValues rest
    .ok (j :: js)
def ofMembers : List (Value × Value) → Except EncodingFault (List (Scalar × Json))
  | [] => .ok []
  | (k, v) :: rest =>
    if isReserved k then ofMembers rest
    else do
      let name ← ofValue k
      let value ← ofValue v
      match name with
      | scalar s => do
        let members ← ofMembers rest
        .ok ((s, value) :: members)
      | _ => .error .compoundName
end

def ofMember (m : Value × Value) : Except EncodingFault (Scalar × Json) := do
  let name ← ofValue m.1
  let value ← ofValue m.2
  match name with
  | scalar s => .ok (s, value)
  | _ => .error .compoundName

theorem ofValues_eq_mapM (items : List Value) : ofValues items = items.mapM ofValue := by
  induction items with
  | nil => rw [ofValues, List.mapM_nil]; rfl
  | cons v rest ih => rw [ofValues, List.mapM_cons, ih]; rfl

theorem ofMembers_eq_mapM (members : List (Value × Value)) :
    ofMembers members = (members.filter fun m => !isReserved m.1).mapM ofMember := by
  induction members with
  | nil => rw [ofMembers, List.filter_nil, List.mapM_nil]; rfl
  | cons m rest ih =>
    obtain ⟨k, v⟩ := m
    rw [ofMembers, List.filter_cons]
    cases isReserved k with
    | true => simp [ih]
    | false =>
      simp only [Bool.not_false, Bool.false_eq_true, ↓reduceIte, List.mapM_cons, ih, ofMember,
        bind_assoc]
      cases ofValue k with
      | error e => rfl
      | ok name =>
        cases ofValue v with
        | error e => rfl
        | ok value => cases name <;> rfl

end Json

/-- The JSON text of a value. -/
def Value.jsonText (v : Value) : Except EncodingFault Text := do (← Json.ofValue v).write

end ServiceGateway
