import Mathlib.Data.List.Induction
import ServiceGateway.EntityAddress

/-!
# The history of an address

An address is set up by steps in any order, some of which are refused or only look. What is written
in the end is read off the steps themselves: whether a mark for the metadata or the count is among
them, which key was the last not to be refused, and which property was chosen last. Writing fails
for one reason only, which a later mark or a later key takes away again.
-/
namespace ServiceGateway

namespace AddressStep

/-- The key that a step puts in place. -/
def acceptedKey? : AddressStep → Option EntityKey
  | chooseKey v => (EntityKey.ofValue v).toOption
  | _ => none

/-- The property that a step puts in place, which may be none. -/
def chosenProperty? : AddressStep → Option (Option Text)
  | chooseProperty name => some name
  | _ => none

/-- The key of the last step that chose one and was not refused. -/
def lastKey? (steps : List AddressStep) : Option EntityKey :=
  (steps.filterMap acceptedKey?).getLast?

/-- The property of the last step that chose one, if it chose one and not none. -/
def lastProperty? (steps : List AddressStep) : Option Text :=
  ((steps.filterMap chosenProperty?).getLast?).join

theorem getLast?_filterMap_concat {α β : Type} (f : α → Option β) (xs : List α) (x : α) :
    ((xs ++ [x]).filterMap f).getLast? = (f x).or (xs.filterMap f).getLast? := by
  have single : ([x].filterMap f).getLast? = f x := by
    cases h : f x <;> simp [h]
  rw [List.filterMap_append, List.getLast?_append, single]

theorem lastKey?_concat (steps : List AddressStep) (s : AddressStep) :
    lastKey? (steps ++ [s]) = s.acceptedKey?.or (lastKey? steps) :=
  getLast?_filterMap_concat acceptedKey? steps s

theorem lastProperty?_concat (steps : List AddressStep) (s : AddressStep) :
    lastProperty? (steps ++ [s]) = s.chosenProperty?.getD (lastProperty? steps) := by
  rw [lastProperty?, getLast?_filterMap_concat]
  cases s.chosenProperty? <;> rfl

end AddressStep

namespace EntityAddress

open AddressStep

/-- The address holds what its steps say. -/
structure Follows (root entity : Text) (steps : List AddressStep) (a : EntityAddress) : Prop where
  serviceRoot : a.serviceRoot = root
  entityName : a.entityName = entity
  metadata : a.metadata = true ↔ .markMetadata ∈ steps
  count : a.count = true ↔ .markCount ∈ steps
  key : a.key = lastKey? steps
  property : a.property = lastProperty? steps

theorem follows_new (root entity : Text) : Follows root entity [] (new root entity) where
  serviceRoot := rfl
  entityName := rfl
  metadata := by simp [new]
  count := by simp [new]
  key := rfl
  property := rfl

/-- What one step changes, all at once: a mark if it sets one, the key if it is not refused, the
property if it chooses one. -/
theorem step_fields (a : EntityAddress) (s : AddressStep) :
    (a.step s).1 =
      { a with
        metadata := a.metadata || s matches .markMetadata
        count := a.count || s matches .markCount
        key := s.acceptedKey?.or a.key
        property := s.chosenProperty?.getD a.property } := by
  cases s with
  | chooseKey v =>
    cases h : EntityKey.ofValue v <;> simp [step, h, acceptedKey?, chosenProperty?, Except.toOption]
  | _ => simp [step, acceptedKey?, chosenProperty?]

theorem Follows.step {root entity : Text} {steps : List AddressStep} {a : EntityAddress}
    (h : Follows root entity steps a) (s : AddressStep) :
    Follows root entity (steps ++ [s]) (a.step s).1 := by
  rw [step_fields]
  refine ⟨h.serviceRoot, h.entityName, ?_, ?_, ?_, ?_⟩
  · simp only [Bool.or_eq_true, h.metadata, List.mem_append, List.mem_singleton]
    cases s <;> simp
  · simp only [Bool.or_eq_true, h.count, List.mem_append, List.mem_singleton]
    cases s <;> simp
  · rw [lastKey?_concat, h.key]
  · rw [lastProperty?_concat, h.property]

theorem follows_run (root entity : Text) (steps : List AddressStep) :
    Follows root entity steps ((new root entity).run steps) := by
  induction steps using List.reverseRecOn with
  | nil => exact follows_new root entity
  | append_singleton steps s ih =>
    rw [run_append]
    exact ih.step s

/-! ## What is written -/

theorem uri_of_metadata {a : EntityAddress} (h : a.metadata = true) :
    a.uri = .ok (a.serviceRoot ++ "/$metadata") := by
  rw [uri, if_pos h]

theorem uri_of_count {a : EntityAddress} (hm : ¬ a.metadata = true) (h : a.count = true) :
    a.uri = .ok (a.entityPath ++ "/$count") := by
  rw [uri, if_neg hm, if_pos h]

theorem uri_of_normal {a : EntityAddress} (hm : ¬ a.metadata = true) (hc : ¬ a.count = true) :
    a.uri = (keyPart a.key).map fun key => a.entityPath ++ key ++ propertyPart a.property := by
  rw [uri, if_neg hm, if_neg hc]

theorem keyPart_eq_error_iff {key : Option EntityKey} {e : KeyFault} :
    keyPart key = .error e ↔
      e = .missingName ∧ ∃ entries, key = some (.composite entries) ∧
        ∃ entry ∈ entries, entry.1 = [] := by
  cases key with
  | none => simp [keyPart]
  | some k =>
    have fault : keyPart (some k) = .error e ↔ k.written = .error e := by
      rw [keyPart]
      cases k.written <;> simp [Except.map]
    rw [fault]
    cases k with
    | single p => simp
    | composite entries =>
      rw [EntityKey.written_composite_eq_error_iff]
      simp

/-- Writing is refused for one reason, and only where no mark is set. -/
theorem uri_eq_error_iff {a : EntityAddress} {e : KeyFault} :
    a.uri = .error e ↔
      e = .missingName ∧ ¬ a.metadata = true ∧ ¬ a.count = true ∧
        ∃ entries, a.key = some (.composite entries) ∧ ∃ entry ∈ entries, entry.1 = [] := by
  by_cases hm : a.metadata = true
  · simp [uri_of_metadata hm, hm]
  by_cases hc : a.count = true
  · simp [uri_of_count hm hc, hc]
  have fault : a.uri = .error e ↔ keyPart a.key = .error e := by
    rw [uri_of_normal hm hc]
    cases keyPart a.key <;> simp [Except.map]
  rw [fault, keyPart_eq_error_iff, and_iff_right hm, and_iff_right hc]

/-- Both ways of writing give the same back. -/
theorem step_of_uriResult {a : EntityAddress} {result : StepResult} (h : a.uriResult = result) :
    a.step .writeUri = (a, result) ∧ a.step .writeText = (a, result) := by
  rw [← h]
  exact ⟨rfl, rfl⟩

theorem truthText_eq (b : Bool) :
    truthText b = if b = true then "True".toList else "False".toList :=
  rfl

theorem partText_eq {α : Type} (f : α → Text) (part : Option α) :
    partText f part = part.elim "None".toList f := by
  cases part <;> rfl

/-- The description tells what the steps have put in place. -/
theorem Follows.described {root entity : Text} {steps : List AddressStep} {a : EntityAddress}
    (h : Follows root entity steps a) :
    a.described = "ResourceAddress(service_root=" ++ quoted root ++
      ", entity_name=" ++ quoted entity ++
      ", metadata=" ++ (if a.metadata = true then "True".toList else "False".toList) ++
      ", count=" ++ (if a.count = true then "True".toList else "False".toList) ++
      ", key=" ++ (lastKey? steps).elim "None".toList EntityKey.described ++
      ", property=" ++ (lastProperty? steps).elim "None".toList quoted ++ ")" := by
  unfold EntityAddress.described
  simp only [truthText_eq, partText_eq, h.serviceRoot, h.entityName, h.key, h.property]

/-- Over all steps in any order: root and entity stay; what is written goes by the marks among the
steps, then by the last key that was not refused and the last property; it is refused exactly if
there is no mark and that key has an entry without a name; and neither a refused key nor writing and
describing changes anything. Writing gives the text or the refusal back, and a description tells
what the steps have put in place. -/
theorem run_reads_history (root entity : Text) (steps : List AddressStep) :
    let a := (new root entity).run steps
    let path := root ++ '/' :: entity
    let property := (lastProperty? steps).elim [] fun name => '/' :: name
    (a.serviceRoot = root ∧ a.entityName = entity) ∧
    (.markMetadata ∈ steps → a.uri = .ok (root ++ "/$metadata")) ∧
    (.markMetadata ∉ steps → .markCount ∈ steps → a.uri = .ok (path ++ "/$count")) ∧
    (.markMetadata ∉ steps → .markCount ∉ steps →
      (lastKey? steps = none → a.uri = .ok (path ++ property)) ∧
      ∀ k t, lastKey? steps = some k → k.written = .ok t →
        a.uri = .ok (path ++ '(' :: t ++ [')'] ++ property)) ∧
    (∀ e, a.uri = .error e ↔
      e = .missingName ∧ .markMetadata ∉ steps ∧ .markCount ∉ steps ∧
        ∃ entries, lastKey? steps = some (.composite entries) ∧ ∃ entry ∈ entries, entry.1 = []) ∧
    (∀ v e, EntityKey.ofValue v = .error e → a.step (.chooseKey v) = (a, .refused e)) ∧
    (∀ t, a.uri = .ok t → a.step .writeUri = (a, .text t) ∧ a.step .writeText = (a, .text t)) ∧
    (∀ e, a.uri = .error e →
      a.step .writeUri = (a, .refused e) ∧ a.step .writeText = (a, .refused e)) ∧
    ∃ metadata count : Bool,
      (metadata = true ↔ .markMetadata ∈ steps) ∧ (count = true ↔ .markCount ∈ steps) ∧
      a.step .describe = (a, .text ("ResourceAddress(service_root=" ++ quoted root ++
        ", entity_name=" ++ quoted entity ++
        ", metadata=" ++ (if metadata = true then "True".toList else "False".toList) ++
        ", count=" ++ (if count = true then "True".toList else "False".toList) ++
        ", key=" ++ (lastKey? steps).elim "None".toList EntityKey.described ++
        ", property=" ++ (lastProperty? steps).elim "None".toList quoted ++ ")")) := by
  intro a path property
  have h : Follows root entity steps a := follows_run root entity steps
  have hpath : a.entityPath = path := by
    rw [entityPath, h.serviceRoot, h.entityName]
  have hproperty : propertyPart a.property = property := by
    rw [h.property]
    change propertyPart _ = Option.elim _ _ _
    cases lastProperty? steps <;> rfl
  have normal (hm : .markMetadata ∉ steps) (hc : .markCount ∉ steps) : a.uri =
      (keyPart (lastKey? steps)).map fun key => path ++ key ++ property := by
    rw [uri_of_normal (mt h.metadata.1 hm) (mt h.count.1 hc), h.key, hpath, hproperty]
  refine ⟨⟨h.serviceRoot, h.entityName⟩, fun hm => ?_, fun hm hc => ?_,
    fun hm hc => ⟨fun hkey => ?_, fun k t hkey ht => ?_⟩,
    fun e => ?_, fun v e hv => step_chooseKey_of_error hv a,
    fun t ht => step_of_uriResult (by rw [uriResult, ht]),
    fun e he => step_of_uriResult (by rw [uriResult, he]),
    a.metadata, a.count, h.metadata, h.count, congrArg (a, StepResult.text ·) h.described⟩
  · rw [uri_of_metadata (h.metadata.2 hm), h.serviceRoot]
  · rw [uri_of_count (mt h.metadata.1 hm) (h.count.2 hc), hpath]
  · rw [normal hm hc, hkey]
    simp [keyPart, Except.map]
  · rw [normal hm hc, hkey]
    simp [keyPart, ht, Except.map]
  · rw [uri_eq_error_iff, h.metadata, h.count, h.key]

/-- A key that cannot be written, one in its place, and one that is refused. -/
def orderSteps : List AddressStep :=
  [.chooseKey (.mapping .plain [(.text "day", .atom (.integer 1)), (.text [], .text "x")]),
    .writeUri, .chooseProperty (some "Total"), .chooseKey (.text "0123"),
    .chooseKey (.atom (.boolean true)), .describe]

theorem run_orderSteps :
    .markMetadata ∉ orderSteps ∧ .markCount ∉ orderSteps ∧
    lastKey? orderSteps = some (.single (.text "0123")) ∧
    (EntityKey.single (.text "0123")).written = .ok "'0123'" ∧
    ((new "sales" "Orders").run orderSteps).uri = .ok "sales/Orders('0123')/Total" := by
  have hm : .markMetadata ∉ orderSteps := by simp [orderSteps]
  have hc : .markCount ∉ orderSteps := by simp [orderSteps]
  have normal := (run_reads_history "sales" "Orders" orderSteps).2.2.2.1 hm hc
  exact ⟨hm, hc, rfl, rfl, normal.2 (.single (.text "0123")) "'0123'" rfl rfl⟩

end EntityAddress

end ServiceGateway
