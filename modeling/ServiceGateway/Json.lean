import ServiceGateway.Value

/-!
# JSON documents

A document is a scalar, an array or an object. The name of a member may be any scalar; it is
written as the text of that scalar, so two members can come out under equal names. The written form
is compact and keeps characters outside ASCII. Numbers that are no number or infinite have no
written form, nor have integers beyond a fixed number of digits. An integer may be kept as a decimal
numeral, however long it would be in writing.
-/
namespace ServiceGateway

inductive Scalar where
  | null
  | boolean (b : Bool)
  | integer (n : Int)
  | whole (n : DecimalNumeral)
  | double (x : Binary64)
  | text (t : Text)
  deriving DecidableEq, Repr

inductive Json where
  | scalar (s : Scalar)
  | array (items : List Json)
  | object (members : List (Scalar × Json))
  deriving Repr

/-- Why a value has no JSON text. -/
inductive EncodingFault where
  | noForm
  | notUtf8
  | compoundName
  | notFinite
  | tooManyDigits
  deriving DecidableEq, Repr

namespace Scalar

def toAtom : Scalar → Atom
  | null => .null
  | boolean b => .boolean b
  | integer n => .integer n
  | whole n => .decimal (.finite n)
  | double x => .double x
  | text t => .text t

/-- What the scalar stands for as a name: a text for its characters, a number for its denotation. -/
def form (s : Scalar) : NameForm := s.toAtom.form

end Scalar

namespace Json

/-- What holds of scalars, and of a document if it holds of its parts, holds of all documents. -/
theorem induction {p : Json → Prop} (scalar : ∀ s, p (.scalar s))
    (array : ∀ items, (∀ j ∈ items, p j) → p (.array items))
    (object : ∀ members, (∀ m ∈ members, p m.2) → p (.object members)) : (j : Json) → p j
  | .scalar s => scalar s
  | .array items => array items fun j _ => Json.induction scalar array object j
  | .object members => object members fun m hm =>
    have _ := sizeOf_lt_of_mem hm
    Json.induction scalar array object m.2

/-- The escape of a character inside a string, or the character. -/
def stringChar (c : Char) : Text :=
  if c = '"' then ['\\', '"']
  else if c = '\\' then ['\\', '\\']
  else if c = '\n' then ['\\', 'n']
  else if c = '\r' then ['\\', 'r']
  else if c = '\t' then ['\\', 't']
  else if c = '\x0c' then ['\\', 'f']
  else if c = '\x08' then ['\\', 'b']
  else if c.toNat < 0x20 then '\\' :: 'u' :: hexDigits 'a' 4 c.toNat
  else [c]

def stringText (t : Text) : Text := '"' :: t.flatMap stringChar ++ ['"']

def scalarText : Scalar → Except EncodingFault Text
  | .null => .ok "null"
  | .boolean b => .ok (if b then "true" else "false")
  | .integer n => if HasText n then .ok (integerText n) else .error .tooManyDigits
  | .whole n => if n.wholeLength ≤ maxDigits then .ok n.wholeText else .error .tooManyDigits
  | .double x =>
    match x.text? with
    | some t => .ok t
    | none => .error .notFinite
  | .text t => .ok (stringText t)

def nameText : Scalar → Except EncodingFault Text
  | .text t => .ok (stringText t)
  | s => (scalarText s).map fun t => '"' :: t ++ ['"']

mutual
def write : Json → Except EncodingFault Text
  | scalar s => scalarText s
  | array items => do
    let texts ← writeAll items
    .ok ('[' :: joinWith [','] texts ++ [']'])
  | object members => do
    let texts ← writeMembers members
    .ok ('{' :: joinWith [','] texts ++ ['}'])
def writeAll : List Json → Except EncodingFault (List Text)
  | [] => .ok []
  | j :: rest => do
    let t ← write j
    let ts ← writeAll rest
    .ok (t :: ts)
def writeMembers : List (Scalar × Json) → Except EncodingFault (List Text)
  | [] => .ok []
  | (name, j) :: rest => do
    let n ← nameText name
    let t ← write j
    let ts ← writeMembers rest
    .ok ((n ++ ':' :: t) :: ts)
end

def writeMember (m : Scalar × Json) : Except EncodingFault Text := do
  let n ← nameText m.1
  let t ← write m.2
  .ok (n ++ ':' :: t)

theorem writeAll_eq_mapM (items : List Json) : writeAll items = items.mapM write := by
  induction items with
  | nil => rw [writeAll, List.mapM_nil]; rfl
  | cons j rest ih => rw [writeAll, List.mapM_cons, ih]; rfl

theorem writeMembers_eq_mapM (members : List (Scalar × Json)) :
    writeMembers members = members.mapM writeMember := by
  induction members with
  | nil => rw [writeMembers, List.mapM_nil]; rfl
  | cons m rest ih => simp only [writeMembers, List.mapM_cons, ih, writeMember, bind_assoc]; rfl

/-- An object of texts, in its written form. -/
def textObject (members : List (Text × Text)) : Text :=
  '{' :: joinWith [','] (members.map fun m => stringText m.1 ++ ':' :: stringText m.2) ++ ['}']

end Json

end ServiceGateway
