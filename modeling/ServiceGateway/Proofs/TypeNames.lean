import Mathlib.Data.Set.Subsingleton
import ServiceGateway.EntityAddress

/-!
# Type names

A type name is a service root, a dot and an entity name. The root may hold any number of dots
anywhere, the entity name holds none, and neither of them is empty. There is one way at most to take
a text apart like this, and it decides the address that is made from the text. Any other text is
refused.
-/
namespace ServiceGateway

/-- A type name, taken apart. -/
structure TypeName where
  root : Text
  entity : Text
  deriving DecidableEq, Repr

namespace TypeName

def text (n : TypeName) : Text := n.root ++ '.' :: n.entity

structure Valid (n : TypeName) : Prop where
  root : n.root ≠ []
  entity : n.entity ≠ []
  dotless : '.' ∉ n.entity

/-- The dot between the parts is the last one, wherever the root has its own. -/
theorem Valid.splitLast?_text {n : TypeName} (h : n.Valid) :
    splitLast? '.' n.text = some (n.root, n.entity) :=
  splitLast?_append h.dotless n.root

theorem Valid.eq_of_text_eq {m n : TypeName} (hm : m.Valid) (hn : n.Valid)
    (h : m.text = n.text) : m = n := by
  have parts : some (m.root, m.entity) = some (n.root, n.entity) := by
    rw [← hm.splitLast?_text, h, hn.splitLast?_text]
  obtain ⟨hroot, hentity⟩ := Prod.mk.inj (Option.some.inj parts)
  cases m
  cases n
  exact congrArg₂ TypeName.mk hroot hentity

theorem subsingleton_valid (t : Text) : {n : TypeName | n.Valid ∧ n.text = t}.Subsingleton := by
  intro m hm n hn
  exact hm.1.eq_of_text_eq hn.1 (hm.2.trans hn.2.symm)

end TypeName

namespace EntityAddress

theorem ofTypeName_text {n : TypeName} (h : n.Valid) :
    ofTypeName n.text = .ok (new n.root n.entity) := by
  rw [ofTypeName, h.splitLast?_text]
  exact if_neg (not_or.2 ⟨h.root, h.entity⟩)

/-- A text that is no type name lacks a dot, or has nothing on one side of the last one. -/
theorem ofTypeName_cases (t : Text) :
    (∃ n : TypeName, n.Valid ∧ n.text = t) ∨ ofTypeName t = .error (.notQualified t) := by
  rw [ofTypeName]
  cases hsplit : splitLast? '.' t with
  | none => exact .inr rfl
  | some parts =>
    obtain ⟨root, entity⟩ := parts
    obtain ⟨htext, hdotless⟩ := splitLast?_eq_some_iff.1 hsplit
    by_cases hempty : root = [] ∨ entity = []
    · exact .inr (if_pos hempty)
    · obtain ⟨hroot, hentity⟩ := not_or.1 hempty
      exact .inl ⟨⟨root, entity⟩, ⟨hroot, hentity, hdotless⟩, htext.symm⟩

theorem ofTypeName_eq_ok_iff {t : Text} {a : EntityAddress} :
    ofTypeName t = .ok a ↔
      ∃ n : TypeName, n.Valid ∧ n.text = t ∧ a = new n.root n.entity := by
  constructor
  · intro h
    rcases ofTypeName_cases t with ⟨n, hn, rfl⟩ | refused
    · rw [ofTypeName_text hn] at h
      exact ⟨n, hn, rfl, (Except.ok.inj h).symm⟩
    · rw [refused] at h
      cases h
  · intro hex
    obtain ⟨n, hn, rfl, rfl⟩ := hex
    exact ofTypeName_text hn

theorem ofTypeName_eq_error_iff {t : Text} {fault : TypeNameFault} :
    ofTypeName t = .error fault ↔
      fault = .notQualified t ∧ ¬ ∃ n : TypeName, n.Valid ∧ n.text = t := by
  constructor
  · intro h
    have unnamed : ¬ ∃ n : TypeName, n.Valid ∧ n.text = t := by
      intro hex
      obtain ⟨n, hn, rfl⟩ := hex
      rw [ofTypeName_text hn] at h
      cases h
    rw [(ofTypeName_cases t).resolve_left unnamed] at h
    exact ⟨(Except.error.inj h).symm, unnamed⟩
  · intro h
    obtain ⟨rfl, unnamed⟩ := h
    exact (ofTypeName_cases t).resolve_left unnamed

/-- A new address has neither marks nor a key nor a property. -/
theorem uri_new (root entity : Text) : (new root entity).uri = .ok (root ++ '/' :: entity) := by
  have path : root ++ '/' :: entity ++ [] ++ [] = root ++ '/' :: entity := by
    rw [List.append_nil, List.append_nil]
  exact congrArg Except.ok path

/-- Over all texts and type names: an address is made from a text exactly if the text is a type
name, of which it has the parts; a text is one type name at most; every other text is refused; and
every type name is read back from its text, with the address written as root, slash and entity
name. -/
theorem typeName_iff_address (t : Text) :
    (∀ a, ofTypeName t = .ok a ↔
      ∃ n : TypeName, n.Valid ∧ n.text = t ∧ a = new n.root n.entity) ∧
    {n : TypeName | n.Valid ∧ n.text = t}.Subsingleton ∧
    (∀ fault, ofTypeName t = .error fault ↔
      fault = .notQualified t ∧ ¬ ∃ n : TypeName, n.Valid ∧ n.text = t) ∧
    ∀ n : TypeName, n.Valid → ∃ a, ofTypeName n.text = .ok a ∧
      (a.serviceRoot = n.root ∧ a.entityName = n.entity) ∧
      a.serviceRoot ++ '.' :: a.entityName = n.text ∧
      a.uri = .ok (n.root ++ '/' :: n.entity) :=
  ⟨fun _ => ofTypeName_eq_ok_iff, TypeName.subsingleton_valid t,
    fun _ => ofTypeName_eq_error_iff, fun n hn =>
      ⟨_, ofTypeName_text hn, ⟨rfl, rfl⟩, rfl, uri_new n.root n.entity⟩⟩

/-- A root with dots at both ends and two in a row. -/
theorem typeName_address_dotted :
    (⟨".sales..eu.", "Orders"⟩ : TypeName).Valid ∧
    (⟨".sales..eu.", "Orders"⟩ : TypeName).text = ".sales..eu..Orders" ∧
    ∃ a, ofTypeName ".sales..eu..Orders" = .ok a ∧
      (a.serviceRoot = ".sales..eu." ∧ a.entityName = "Orders") ∧
      a.serviceRoot ++ '.' :: a.entityName = (".sales..eu..Orders" : Text) ∧
      a.uri = .ok ".sales..eu./Orders" := by
  have valid : (⟨".sales..eu.", "Orders"⟩ : TypeName).Valid := by
    refine ⟨?_, ?_, ?_⟩ <;> decide
  exact ⟨valid, rfl, (typeName_iff_address ".sales..eu..Orders").2.2.2 _ valid⟩

/-- Nothing is left of the first dot, or right of the last one. -/
example : ofTypeName ".Orders" = .error (.notQualified ".Orders") ∧
    ofTypeName "sales.Orders." = .error (.notQualified "sales.Orders.") := by
  decide

end EntityAddress

end ServiceGateway
