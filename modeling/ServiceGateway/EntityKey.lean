import ServiceGateway.Calendar
import ServiceGateway.QuotedText

/-!
# Keys

A key part is a text, an integer or a date. The key of an entity is one part, or several parts with
names. The written form of a text is the text between single quotes as it is: a quote inside is not
doubled, so the written form of a composite key need not tell where a text ends.
-/
namespace ServiceGateway

inductive KeyPart where
  | text (t : Text)
  | integer (n : Int)
  | date (d : Date)
  deriving DecidableEq, Repr

inductive EntityKey where
  | single (p : KeyPart)
  | composite (entries : List (Text × KeyPart))
  deriving DecidableEq, Repr

/-- Why something is no key part, no key, or cannot be written. The name of a type is kept as
it appears in the message. An integer out of range is told in the message, unless it has too many
digits for that; then these are what the error is about. -/
inductive KeyFault where
  | unsupportedValue (received : Text)
  | outOfRange (n : Int)
  | tooManyDigits
  | unsupportedName (received : Text)
  | noEntries
  | missingName
  deriving DecidableEq, Repr

namespace KeyFault

/-- The type name of integers. -/
def integerType : Text := "builtins.int"

/-- The type that an error complains about. -/
def received? : KeyFault → Option Text
  | unsupportedValue received => some received
  | outOfRange _ => some integerType
  | tooManyDigits => none
  | unsupportedName received => some received
  | noEntries => none
  | missingName => none

def valueMessage (received : Text) : Text :=
  "Expecting either type str, int or date as key, but received " ++ received

def message : KeyFault → Text
  | unsupportedValue received => valueMessage received
  | outOfRange n =>
    valueMessage integerType ++ ": " ++ integerText n ++ " is outside the signed 64-bit range"
  | tooManyDigits => noTextMessage
  | unsupportedName received => "Expecting type str as key name, but received " ++ received
  | noEntries => "Multi-part keys require at least one key property"
  | missingName => "For multi-part keys the full key predicate is required."

end KeyFault

namespace KeyPart

/-- Integers of 64 bits with a sign. -/
def InRange (n : Int) : Prop := -0x8000000000000000 ≤ n ∧ n ≤ 0x7fffffffffffffff

instance (n : Int) : Decidable (InRange n) := by
  unfold InRange
  infer_instance

theorem not_inRange_iff {n : Int} :
    ¬ InRange n ↔ n < -0x8000000000000000 ∨ 0x7fffffffffffffff < n := by
  unfold InRange
  omega

/-- Integers in their range are far shorter than what is put into text. -/
theorem InRange.hasText {n : Int} (h : InRange n) : HasText n := by
  have digits : 19 ≤ maxDigits := by decide
  refine hasText_of_lt digits ?_
  have bound : n.natAbs ≤ 0x8000000000000000 := by
    unfold InRange at h
    omega
  exact Nat.lt_of_le_of_lt bound (by decide)

def WellFormed : KeyPart → Prop
  | integer n => InRange n
  | _ => True

/-- The form inside an address. -/
def written : KeyPart → Text
  | text t => '\'' :: t ++ ['\'']
  | integer n => integerText n
  | date d => d.text

/-- The form in a description. -/
def described : KeyPart → Text
  | text t => "TextKey(value=" ++ quoted t ++ ")"
  | integer n => "IntegerKey(value=" ++ integerText n ++ ")"
  | date d =>
    "DateKey(value=datetime.date(" ++ naturalText d.year ++ ", " ++ naturalText d.month ++ ", " ++
      naturalText d.day ++ "))"

end KeyPart

namespace EntityKey

/-- Parts in range, and at least one of them. -/
def WellFormed : EntityKey → Prop
  | single p => p.WellFormed
  | composite entries => entries ≠ [] ∧ ∀ e ∈ entries, e.2.WellFormed

def writtenEntry (entry : Text × KeyPart) : Text := entry.1 ++ '=' :: entry.2.written

/-- Empty names show only here. -/
def written : EntityKey → Except KeyFault Text
  | single p => .ok p.written
  | composite entries =>
    if entries.any (·.1.isEmpty) then .error .missingName
    else .ok (joinWith [','] (entries.map writtenEntry))

@[simp] theorem written_single (p : KeyPart) : (single p).written = .ok p.written := rfl

theorem written_composite_eq_error_iff {entries : List (Text × KeyPart)} {e : KeyFault} :
    (composite entries).written = .error e ↔
      e = .missingName ∧ ∃ entry ∈ entries, entry.1 = [] := by
  by_cases h : entries.any (·.1.isEmpty) = true
  · have hx : ∃ entry ∈ entries, entry.1 = [] := by simpa using h
    simp only [written, h, ↓reduceIte, Except.error.injEq]
    exact ⟨fun he => ⟨he.symm, hx⟩, fun he => he.1.symm⟩
  · have hx : ¬∃ entry ∈ entries, entry.1 = [] := by simpa using h
    simp only [written, h, Bool.false_eq_true, ↓reduceIte, reduceCtorEq, false_iff]
    exact fun he => hx he.2

def describedEntry (entry : Text × KeyPart) : Text :=
  '(' :: quoted entry.1 ++ ", " ++ entry.2.described ++ [')']

def described : EntityKey → Text
  | single p => "SingleKey(value=" ++ p.described ++ ")"
  | composite entries =>
    "CompositeKey(entries=" ++ parenthesized (entries.map describedEntry) ++ ")"

end EntityKey

end ServiceGateway
