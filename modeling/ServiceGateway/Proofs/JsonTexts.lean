import ServiceGateway.JsonEncoding
import ServiceGateway.Proofs.Refusals

/-!
# Which values have a JSON text

A value gets its text in two steps and can be refused at either. First it must have a document,
which a bare object, a complex number and a few other atoms have not, wherever they stand in it.
Then all the numbers of the document must be writable. Nothing else is asked, however deep a value
is nested. The two conditions do not fold into one: what stands behind a reserved name does not
count at all, and of two members whose names come out equal the first must have a document but is
not written.
-/
namespace ServiceGateway

/-! ## Documents that can be written -/

def Binary64.IsFinite (x : Binary64) : Prop := ∃ negative steps, x = finite negative steps

theorem Binary64.exists_text?_iff {x : Binary64} : (∃ t, x.text? = some t) ↔ x.IsFinite := by
  cases x <;> simp [text?, IsFinite]

namespace Scalar

/-- Finite numbers, and integers that are not too long. -/
def Writable : Scalar → Prop
  | integer n => HasText n
  | whole n => n.wholeLength ≤ maxDigits
  | double x => x.IsFinite
  | null | boolean _ | text _ => True

theorem exists_scalarText_iff {s : Scalar} : (∃ t, Json.scalarText s = .ok t) ↔ s.Writable := by
  cases s with
  | integer n =>
    by_cases h : HasText n <;> simp [Json.scalarText, Writable, h]
  | whole n =>
    by_cases h : n.wholeLength ≤ maxDigits <;> simp [Json.scalarText, Writable, h]
  | double x =>
    rw [Writable, ← Binary64.exists_text?_iff, Json.scalarText]
    cases x.text? <;> simp
  | null | boolean _ | text _ => simp [Json.scalarText, Writable]

theorem exists_nameText_iff {s : Scalar} : (∃ t, Json.nameText s = .ok t) ↔ s.Writable := by
  rw [← exists_scalarText_iff]
  cases s <;> simp [Json.nameText, Json.scalarText, map_eq_ok_iff]

end Scalar

namespace Json

inductive Writable : Json → Prop
  | scalar {s : Scalar} (hs : s.Writable) : Writable (scalar s)
  | array {items : List Json} (hitems : ∀ j ∈ items, Writable j) : Writable (array items)
  | object {members : List (Scalar × Json)} (hnames : ∀ m ∈ members, m.1.Writable)
      (hvalues : ∀ m ∈ members, Writable m.2) : Writable (object members)

@[simp] theorem writable_scalar_iff {s : Scalar} : (scalar s).Writable ↔ s.Writable :=
  ⟨fun h => by cases h; assumption, .scalar⟩

@[simp] theorem writable_array_iff {items : List Json} :
    (array items).Writable ↔ ∀ j ∈ items, j.Writable :=
  ⟨fun h => by cases h; assumption, .array⟩

@[simp] theorem writable_object_iff {members : List (Scalar × Json)} :
    (object members).Writable ↔ ∀ m ∈ members, m.1.Writable ∧ m.2.Writable := by
  constructor
  · intro h m hm
    cases h with
    | object hnames hvalues => exact ⟨hnames m hm, hvalues m hm⟩
  · exact fun h => .object (fun m hm => (h m hm).1) fun m hm => (h m hm).2

theorem exists_writeMember_iff {m : Scalar × Json} :
    (∃ t, writeMember m = .ok t) ↔ m.1.Writable ∧ ∃ t, write m.2 = .ok t := by
  rw [← Scalar.exists_nameText_iff]
  simp [writeMember, bind_eq_ok_iff]

theorem exists_write_iff (j : Json) : (∃ t, write j = .ok t) ↔ j.Writable := by
  induction j using Json.induction with
  | scalar s => rw [write, Scalar.exists_scalarText_iff, writable_scalar_iff]
  | array items ih =>
    have parts : (∃ t, write (array items) = .ok t) ↔ ∀ j ∈ items, ∃ t, write j = .ok t := by
      simp [write, writeAll_eq_mapM, bind_eq_ok_iff, ← exists_mapM_eq_ok_iff]
    rw [parts, writable_array_iff]
    exact forall₂_congr ih
  | object members ih =>
    have parts : (∃ t, write (object members) = .ok t) ↔
        ∀ m ∈ members, ∃ t, writeMember m = .ok t := by
      simp [write, writeMembers_eq_mapM, bind_eq_ok_iff, ← exists_mapM_eq_ok_iff]
    rw [parts, writable_object_iff]
    exact forall₂_congr fun m hm => exists_writeMember_iff.trans (and_congr_right' (ih m hm))

end Json

/-! ## Values that have a document -/

namespace Atom

/-- Atoms with a scalar for their document. Octets must be those of a text. -/
def IsScalar : Atom → Prop
  | complex _ | object | buffer _ => False
  | decimal d => d ≠ .nan true
  | octets b => ∃ t, utf8 t = b
  | _ => True

/-- An empty buffer is taken for an object without members. -/
def HasDocument (a : Atom) : Prop := a.IsScalar ∨ a = buffer []

theorem exists_ofAtom_scalar_iff {a : Atom} :
    (∃ s, Json.ofAtom a = .ok (.scalar s)) ↔ a.IsScalar := by
  cases a with
  | decimal d =>
    rcases d with n | _ | _ | _
    · by_cases h : n.exponent < 0 <;> simp [Json.ofAtom, Json.ofDecimal, IsScalar, h]
    all_goals simp [Json.ofAtom, Json.ofDecimal, IsScalar]
  | octets b =>
    simp only [Json.ofAtom, IsScalar, ← ofUtf8?_eq_some_iff]
    cases ofUtf8? b <;> simp [Json.text]
  | buffer b => by_cases h : b = [] <;> simp [Json.ofAtom, IsScalar, h]
  | _ => simp [Json.ofAtom, IsScalar, Json.text]

theorem exists_ofAtom_iff {a : Atom} : (∃ j, Json.ofAtom a = .ok j) ↔ a.HasDocument := by
  rw [HasDocument, ← exists_ofAtom_scalar_iff]
  cases a with
  | decimal d =>
    rcases d with n | _ | _ | _
    · by_cases h : n.exponent < 0 <;> simp [Json.ofAtom, Json.ofDecimal, h]
    all_goals simp [Json.ofAtom, Json.ofDecimal]
  | octets b => cases h : ofUtf8? b <;> simp [Json.ofAtom, Json.text, h]
  | buffer b => by_cases h : b = [] <;> simp [Json.ofAtom, h]
  | _ => simp [Json.ofAtom, Json.text]

end Atom

namespace Value

/-- Only scalars serve as names. Members with reserved names may be anything. -/
inductive HasDocument : Value → Prop
  | atom {a : Atom} (ha : a.HasDocument) : HasDocument (atom a)
  | sequence {kind : SequenceKind} {items : List Value} (hitems : ∀ v ∈ items, HasDocument v) :
      HasDocument (sequence kind items)
  | mapping {kind : MappingKind} {members : List (Value × Value)}
      (hnames : ∀ m ∈ members, isReserved m.1 = false → ∃ a, m.1 = .atom a ∧ a.IsScalar)
      (hvalues : ∀ m ∈ members, isReserved m.1 = false → HasDocument m.2) :
      HasDocument (mapping kind members)
  | part (p : KeyPart) : HasDocument (part p)
  | key (k : EntityKey) : HasDocument (key k)

@[simp] theorem hasDocument_atom_iff {a : Atom} : (atom a).HasDocument ↔ a.HasDocument :=
  ⟨fun h => by cases h; assumption, .atom⟩

@[simp] theorem hasDocument_sequence_iff {kind : SequenceKind} {items : List Value} :
    (sequence kind items).HasDocument ↔ ∀ v ∈ items, v.HasDocument :=
  ⟨fun h => by cases h; assumption, .sequence⟩

@[simp] theorem hasDocument_mapping_iff {kind : MappingKind} {members : List (Value × Value)} :
    (mapping kind members).HasDocument ↔ ∀ m ∈ members, isReserved m.1 = false →
      (∃ a, m.1 = .atom a ∧ a.IsScalar) ∧ m.2.HasDocument := by
  constructor
  · intro h m hm hr
    cases h with
    | mapping hnames hvalues => exact ⟨hnames m hm hr, hvalues m hm hr⟩
  · exact fun h => .mapping (fun m hm hr => (h m hm hr).1) fun m hm hr => (h m hm hr).2

theorem exists_ofValue_scalar_iff {v : Value} :
    (∃ s, Json.ofValue v = .ok (.scalar s)) ↔ ∃ a, v = .atom a ∧ a.IsScalar := by
  cases v with
  | atom a => simp [Json.ofValue, Atom.exists_ofAtom_scalar_iff]
  | sequence kind items => simp [Json.ofValue, bind_eq_ok_iff]
  | mapping kind members => simp [Json.ofValue, bind_eq_ok_iff]
  | part p => cases p <;> simp [Json.ofValue, Json.ofKeyPart]
  | key k => cases k <;> simp [Json.ofValue, Json.ofEntityKey]

theorem exists_ofMember_iff {m : Value × Value} :
    (∃ n, Json.ofMember m = .ok n) ↔
      (∃ a, m.1 = .atom a ∧ a.IsScalar) ∧ ∃ j, Json.ofValue m.2 = .ok j := by
  rw [← exists_ofValue_scalar_iff]
  simp only [Json.ofMember, bind_eq_ok_iff]
  constructor
  · rintro ⟨n, name, hname, value, hvalue, hn⟩
    cases name with
    | scalar s => exact ⟨⟨s, hname⟩, value, hvalue⟩
    | array _ | object _ => cases hn
  · rintro ⟨⟨s, hname⟩, value, hvalue⟩
    exact ⟨_, _, hname, value, hvalue, rfl⟩

theorem exists_ofValue_iff (v : Value) : (∃ j, Json.ofValue v = .ok j) ↔ v.HasDocument := by
  induction v using Value.induction with
  | atom a => rw [Json.ofValue, Atom.exists_ofAtom_iff, hasDocument_atom_iff]
  | sequence kind items ih =>
    have parts : (∃ j, Json.ofValue (sequence kind items) = .ok j) ↔
        ∀ v ∈ items, ∃ j, Json.ofValue v = .ok j := by
      simp [Json.ofValue, Json.ofValues_eq_mapM, bind_eq_ok_iff, ← exists_mapM_eq_ok_iff]
    rw [parts, hasDocument_sequence_iff]
    exact forall₂_congr ih
  | mapping kind members ih =>
    have parts : (∃ j, Json.ofValue (mapping kind members) = .ok j) ↔
        ∀ m ∈ members, isReserved m.1 = false → ∃ n, Json.ofMember m = .ok n := by
      -- merging equal names cannot fail, so only the members that are kept are asked
      have kept : (∃ j, Json.ofValue (mapping kind members) = .ok j) ↔
          ∃ ms, (members.filter fun m => !isReserved m.1).mapM Json.ofMember = .ok ms := by
        simp [Json.ofValue, Json.ofMembers_eq_mapM, bind_eq_ok_iff]
      rw [kept, exists_mapM_eq_ok_iff]
      simp
    rw [parts, hasDocument_mapping_iff]
    exact forall₂_congr fun m hm => imp_congr_right fun _ =>
      exists_ofMember_iff.trans (and_congr_right' (ih m hm).2)
  | part p => exact ⟨fun _ => .part p, fun _ => ⟨_, rfl⟩⟩
  | key k => exact ⟨fun _ => .key k, fun _ => ⟨_, rfl⟩⟩

/-- Values that have a document, and one that can be written. -/
def Encodable (v : Value) : Prop :=
  v.HasDocument ∧ ∀ j, Json.ofValue v = .ok j → j.Writable

theorem exists_jsonText_iff {v : Value} : (∃ t, v.jsonText = .ok t) ↔ v.Encodable := by
  simp only [jsonText, bind_eq_ok_iff, Encodable, ← exists_ofValue_iff, ← Json.exists_write_iff]
  constructor
  · rintro ⟨t, j, hj, ht⟩
    exact ⟨⟨j, hj⟩, fun k hk => ⟨t, by rw [← ht, Except.ok.inj (hj.symm.trans hk)]⟩⟩
  · rintro ⟨⟨j, hj⟩, h⟩
    obtain ⟨t, ht⟩ := h j hj
    exact ⟨t, j, hj, ht⟩

end Value

end ServiceGateway
