import ServiceGateway.KeyClassification

/-!
# Entity addresses

An address names a metadata document, a count, or an entity with an optional key and property, in
this order of precedence. It is set up step by step: the two marks stay once set, key and property
are replaced, and a key that is refused leaves the address as it was. Writing an address changes
nothing. Nothing written into it is escaped.
-/
namespace ServiceGateway

/-- The parts around the last occurrence of a character. -/
def splitLast? (c : Char) : Text → Option (Text × Text)
  | [] => none
  | a :: rest =>
    match splitLast? c rest with
    | some (before, after) => some (a :: before, after)
    | none => if a = c then some ([], rest) else none

theorem splitLast?_eq_none_iff {c : Char} {t : Text} : splitLast? c t = none ↔ c ∉ t := by
  induction t with
  | nil => simp [splitLast?]
  | cons a rest ih =>
    simp only [splitLast?]
    cases h : splitLast? c rest with
    | some p => simp_all
    | none =>
      have hc := ih.1 h
      by_cases hac : a = c
      · simp [hac]
      · have hca : c ≠ a := Ne.symm hac
        simp [hac, hca, hc]

theorem splitLast?_append {c : Char} {after : Text} (h : c ∉ after) (before : Text) :
    splitLast? c (before ++ c :: after) = some (before, after) := by
  induction before with
  | nil => simp [splitLast?, splitLast?_eq_none_iff.2 h]
  | cons a before ih => rw [List.cons_append, splitLast?, ih]

theorem splitLast?_eq_some_iff {c : Char} {t before after : Text} :
    splitLast? c t = some (before, after) ↔ t = before ++ c :: after ∧ c ∉ after := by
  constructor
  · intro h
    induction t generalizing before with
    | nil => cases h
    | cons a rest ih =>
      rw [splitLast?] at h
      cases hrest : splitLast? c rest with
      | some p =>
        rw [hrest] at h
        cases h
        obtain ⟨htext, hafter⟩ := ih hrest
        exact ⟨congrArg (a :: ·) htext, hafter⟩
      | none =>
        rw [hrest] at h
        dsimp only at h
        split at h
        · rename_i hac
          cases h
          exact ⟨congrArg (· :: after) hac, splitLast?_eq_none_iff.1 hrest⟩
        · cases h
  · rintro ⟨rfl, hafter⟩
    exact splitLast?_append hafter before

structure EntityAddress where
  serviceRoot : Text
  entityName : Text
  metadata : Bool
  count : Bool
  key : Option EntityKey
  property : Option Text
  deriving DecidableEq, Repr

inductive AddressStep where
  | markMetadata
  | markCount
  | chooseKey (v : Value)
  | chooseProperty (name : Option Text)
  | writeUri
  | writeText
  | describe
  deriving Repr

/-- What a step gives back: the address itself, an error, or a text. -/
inductive StepResult where
  | address
  | refused (e : KeyFault)
  | text (t : Text)
  deriving DecidableEq, Repr

/-- A type name without a dot, or with nothing on one side of its last dot. -/
inductive TypeNameFault where
  | notQualified (name : Text)
  deriving DecidableEq, Repr

def TypeNameFault.message : TypeNameFault → Text
  | notQualified name => "Expected '<namespace>.<name>', got '" ++ name ++ "'"

namespace EntityAddress

def new (serviceRoot entityName : Text) : EntityAddress :=
  ⟨serviceRoot, entityName, false, false, none, none⟩

/-- The service root is what stands before the last dot of a type name. -/
def ofTypeName (name : Text) : Except TypeNameFault EntityAddress :=
  match splitLast? '.' name with
  | some (root, entity) =>
    if root = [] ∨ entity = [] then .error (.notQualified name) else .ok (new root entity)
  | none => .error (.notQualified name)

def entityPath (a : EntityAddress) : Text := a.serviceRoot ++ '/' :: a.entityName

def keyPart : Option EntityKey → Except KeyFault Text
  | none => .ok []
  | some k => k.written.map fun t => '(' :: t ++ [')']

def propertyPart : Option Text → Text
  | none => []
  | some name => '/' :: name

def uri (a : EntityAddress) : Except KeyFault Text :=
  if a.metadata then .ok (a.serviceRoot ++ "/$metadata")
  else if a.count then .ok (a.entityPath ++ "/$count")
  else (keyPart a.key).map fun key => a.entityPath ++ key ++ propertyPart a.property

def truthText (b : Bool) : Text := if b then "True" else "False"

/-- The description of a part that may be missing. -/
def partText {α : Type} (f : α → Text) : Option α → Text
  | none => "None"
  | some a => f a

def described (a : EntityAddress) : Text :=
  "ResourceAddress(service_root=" ++ quoted a.serviceRoot ++ ", entity_name=" ++
    quoted a.entityName ++ ", metadata=" ++ truthText a.metadata ++ ", count=" ++
    truthText a.count ++ ", key=" ++ partText EntityKey.described a.key ++ ", property=" ++
    partText quoted a.property ++ ")"

def uriResult (a : EntityAddress) : StepResult :=
  match a.uri with
  | .ok t => .text t
  | .error e => .refused e

def step (a : EntityAddress) : AddressStep → EntityAddress × StepResult
  | .markMetadata => ({ a with metadata := true }, .address)
  | .markCount => ({ a with count := true }, .address)
  | .chooseKey v =>
    match EntityKey.ofValue v with
    | .ok k => ({ a with key := some k }, .address)
    | .error e => (a, .refused e)
  | .chooseProperty name => ({ a with property := name }, .address)
  | .writeUri => (a, a.uriResult)
  | .writeText => (a, a.uriResult)
  | .describe => (a, .text a.described)

/-- The address after a sequence of steps. -/
def run (a : EntityAddress) (steps : List AddressStep) : EntityAddress :=
  steps.foldl (fun a s => (a.step s).1) a

theorem run_append (a : EntityAddress) (s t : List AddressStep) :
    a.run (s ++ t) = (a.run s).run t := by
  simp [run]

/-- A refused key leaves the address alone. -/
theorem step_chooseKey_of_error {v : Value} {e : KeyFault} (h : EntityKey.ofValue v = .error e)
    (a : EntityAddress) : a.step (.chooseKey v) = (a, .refused e) := by
  simp [step, h]

end EntityAddress

end ServiceGateway
