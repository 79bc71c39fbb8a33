import ServiceGateway.Proofs.ObtainableKeys
import ServiceGateway.Proofs.WrittenParts

/-!
# Kinds of key parts

There are three kinds of key parts, and each has a constructor, which accepts the plain values of
its kind and nothing else. So no value is accepted by two of them, and the classification, which is
defined apart, finds the one that accepts a value, if any. A ready-made part stands for itself
there, although no constructor takes it. A value that is refused is named by its type in the error,
but for an integer that has too many digits to be told: its error is about the digits alone. What is
written for a key of one part gives the part back.
-/
namespace ServiceGateway

inductive PartKind where
  | text | integer | date
  deriving DecidableEq, Repr

def KeyPart.kind : KeyPart → PartKind
  | text _ => .text
  | integer _ => .integer
  | date _ => .date

/-- The constructor of the kind. -/
def PartKind.make : PartKind → Value → Except KeyFault KeyPart
  | text => KeyPart.ofText
  | integer => KeyPart.ofInteger
  | date => KeyPart.ofDate

/-! ## Constructors -/

namespace KeyPart

theorem plain_injective {p q : KeyPart} (h : p.plain = q.plain) : p = q := by
  cases p <;> cases q <;> cases h <;> rfl

theorem kind_of_ofText {v : Value} {p : KeyPart} (h : ofText v = .ok p) :
    p.kind = .text ∧ v = p.plain := by
  unfold ofText at h
  split at h
  · cases h
    exact ⟨rfl, rfl⟩
  · cases h

theorem kind_of_ofInteger {v : Value} {p : KeyPart} (h : ofInteger v = .ok p) :
    p.kind = .integer ∧ v = p.plain := by
  unfold ofInteger at h
  split at h
  · split at h
    · cases h
      exact ⟨rfl, rfl⟩
    · split at h <;> cases h
  · cases h

theorem kind_of_ofDate {v : Value} {p : KeyPart} (h : ofDate v = .ok p) :
    p.kind = .date ∧ v = p.plain := by
  unfold ofDate at h
  split at h
  · cases h
    exact ⟨rfl, rfl⟩
  · cases h

end KeyPart

namespace PartKind

theorem make_kind_plain {p : KeyPart} (h : p.WellFormed) : p.kind.make p.plain = .ok p := by
  cases p with
  | text t => rfl
  | integer n => exact if_pos h
  | date d => rfl

theorem kind_of_make {k : PartKind} {v : Value} {p : KeyPart} (h : k.make v = .ok p) :
    p.kind = k ∧ v = p.plain := by
  cases k with
  | text => exact KeyPart.kind_of_ofText h
  | integer => exact KeyPart.kind_of_ofInteger h
  | date => exact KeyPart.kind_of_ofDate h

theorem wellFormed_of_make {k : PartKind} {v : Value} {p : KeyPart} (h : k.make v = .ok p) :
    p.WellFormed := by
  cases k with
  | text => exact KeyPart.wellFormed_of_ofText h
  | integer => exact KeyPart.wellFormed_of_ofInteger h
  | date => exact KeyPart.wellFormed_of_ofDate h

/-- A constructor accepts the plain values of its kind, and integers only in their range. -/
theorem make_eq_ok_iff {k : PartKind} {v : Value} {p : KeyPart} :
    k.make v = .ok p ↔ p.kind = k ∧ p.WellFormed ∧ v = p.plain := by
  constructor
  · intro h
    obtain ⟨hkind, hv⟩ := kind_of_make h
    exact ⟨hkind, wellFormed_of_make h, hv⟩
  · rintro ⟨rfl, hp, rfl⟩
    exact make_kind_plain hp

theorem eq_of_make {k l : PartKind} {v : Value} {p q : KeyPart} (hp : k.make v = .ok p)
    (hq : l.make v = .ok q) : k = l := by
  obtain ⟨rfl, -, hv⟩ := make_eq_ok_iff.1 hp
  obtain ⟨rfl, -, hw⟩ := make_eq_ok_iff.1 hq
  rw [KeyPart.plain_injective (hv.symm.trans hw)]

/-- A ready-made part is no text, integer or date. -/
theorem make_part (k : PartKind) (p : KeyPart) :
    k.make (.part p) = .error (.unsupportedValue p.typeName) := by
  cases k <;> rfl

end PartKind

/-! ## Classification -/

namespace KeyPart

theorem classify_eq_ok_iff {v : Value} {p : KeyPart} :
    classify v = .ok p ↔ v = .part p ∨ ∃ k : PartKind, k.make v = .ok p := by
  constructor
  · intro h
    unfold classify at h
    split at h
    -- A ready-made part, a text, an integer, a date, and all else.
    · exact .inl (congrArg Value.part (Except.ok.inj h))
    · exact .inr ⟨.text, h⟩
    · exact .inr ⟨.integer, h⟩
    · exact .inr ⟨.date, h⟩
    · cases h
  · rintro (rfl | ⟨k, hk⟩)
    · exact classify_part p
    · obtain ⟨-, hp, rfl⟩ := PartKind.make_eq_ok_iff.1 hk
      exact classify_plain hp

/-- What is said of a value that is no part: its type, or that it is an integer out of range, or
that it has too many digits for this to be said. -/
inductive Unfit : Value → KeyFault → Prop
  | outOfRange {n : Int} : ¬ InRange n → HasText n → Unfit (.atom (.integer n)) (.outOfRange n)
  | tooManyDigits {n : Int} : ¬ HasText n → Unfit (.atom (.integer n)) .tooManyDigits
  | unsupported {v : Value} : (∀ n, v ≠ .atom (.integer n)) →
      Unfit v (.unsupportedValue v.typeName)

theorem unfit_of_classify {v : Value} {e : KeyFault} (h : classify v = .error e) : Unfit v e := by
  unfold classify at h
  split at h
  · cases h
  · cases h
  · rename_i n
    rw [ofInteger] at h
    split at h
    · cases h
    · split at h
      · cases h
        exact .outOfRange ‹_› ‹_›
      · cases h
        exact .tooManyDigits ‹_›
  · cases h
  · rename_i hinteger _
    cases h
    exact .unsupported hinteger

namespace Unfit

variable {v : Value} {e : KeyFault}

/-- The type of the value is told unless the value is an integer without a text. -/
theorem received?_eq_iff (h : Unfit v e) :
    e.received? = some v.typeName ↔ ∀ n, v = .atom (.integer n) → HasText n := by
  cases h with
  | outOfRange _ short =>
    refine iff_of_true rfl fun n hn => ?_
    cases hn
    exact short
  | tooManyDigits long => exact iff_of_false nofun fun short => long (short _ rfl)
  | unsupported hv => exact iff_of_true rfl fun n hn => absurd hn (hv n)

theorem eq_outOfRange_iff (h : Unfit v e) (n : Int) :
    e = .outOfRange n ↔ v = .atom (.integer n) ∧
      (n < -0x8000000000000000 ∨ 0x7fffffffffffffff < n) ∧ HasText n := by
  rw [← not_inRange_iff]
  cases h with
  | outOfRange hm short =>
    constructor
    · intro hn
      cases hn
      exact ⟨rfl, hm, short⟩
    · intro hn
      cases hn.1
      rfl
  | tooManyDigits long =>
    refine iff_of_false nofun fun hn => ?_
    obtain ⟨⟨⟩, -, short⟩ := hn
    exact long short
  | unsupported hv => exact iff_of_false nofun fun hn => hv n hn.1

theorem eq_tooManyDigits_iff (h : Unfit v e) :
    e = .tooManyDigits ↔ ∃ n, v = .atom (.integer n) ∧ powerOfTen maxDigits ≤ n.natAbs := by
  simp only [← not_hasText_iff]
  cases h with
  | outOfRange _ short =>
    refine iff_of_false nofun fun hn => ?_
    obtain ⟨n, ⟨⟩, long⟩ := hn
    exact long short
  | tooManyDigits long => exact iff_of_true rfl ⟨_, rfl, long⟩
  | unsupported hv =>
    refine iff_of_false nofun fun hn => ?_
    obtain ⟨n, hn, -⟩ := hn
    exact hv n hn

theorem cases_fault (h : Unfit v e) :
    e = .unsupportedValue v.typeName ∨ (∃ n, e = .outOfRange n) ∨ e = .tooManyDigits := by
  cases h with
  | outOfRange _ _ => exact .inr (.inl ⟨_, rfl⟩)
  | tooManyDigits _ => exact .inr (.inr rfl)
  | unsupported _ => exact .inl rfl

end Unfit

end KeyPart

/-- Over all values: one that is no ready-made part is accepted by one constructor at most. It is
classified as what that one makes of it, or refused where there is none. The error tells its type
unless it is an integer without a text, whose error is about its digits only; and the error tells
that it is out of range exactly if it is an integer out of its range with a text. A ready-made part
is classified as itself and refused by all constructors, so classifying twice is classifying once. A
value that is neither a mapping nor a key gives the same part, or fails in the same way, whether it
is classified, put into a single key or made into a key. -/
theorem classification_agrees (v : Value) :
    ((∀ p, v ≠ .part p) →
      (∀ (k l : PartKind) p q, k.make v = .ok p → l.make v = .ok q → k = l) ∧
      (∀ p, KeyPart.classify v = .ok p ↔ ∃ k : PartKind, k.make v = .ok p) ∧
      ((∃ e, KeyPart.classify v = .error e) ↔ ∀ (k : PartKind) p, k.make v ≠ .ok p) ∧
      ∀ e, KeyPart.classify v = .error e →
        (e.received? = some v.typeName ↔
          ∀ n, v = .atom (.integer n) → n.natAbs < powerOfTen 4300) ∧
        (e = .unsupportedValue v.typeName ∨ (∃ n, e = .outOfRange n) ∨ e = .tooManyDigits) ∧
        (∀ n, e = .outOfRange n ↔ v = .atom (.integer n) ∧
          (n < -0x8000000000000000 ∨ 0x7fffffffffffffff < n) ∧ n.natAbs < powerOfTen 4300) ∧
        (∀ n, e = .outOfRange n → e.message =
          ("Expecting either type str, int or date as key, but received " : Text) ++
            "builtins.int" ++ ": " ++ integerText n ++ " is outside the signed 64-bit range") ∧
        (e = .tooManyDigits ↔ ∃ n, v = .atom (.integer n) ∧ powerOfTen 4300 ≤ n.natAbs)) ∧
    (∀ p, v = .part p → KeyPart.classify v = .ok p ∧
      ∀ k : PartKind, k.make v = .error (.unsupportedValue p.typeName)) ∧
    (KeyPart.classify v >>= fun p => KeyPart.classify (.part p)) = KeyPart.classify v ∧
    ((∀ kind members, v ≠ .mapping kind members) → (∀ k, v ≠ .key k) →
      EntityKey.ofPart v = (KeyPart.classify v).map .single ∧
        EntityKey.ofValue v = (KeyPart.classify v).map .single) := by
  refine ⟨fun hv => ?_, fun p hp => ?_, ?_, fun hmapping hkey => ⟨rfl, ?_⟩⟩
  · have accepted (p : KeyPart) :
        KeyPart.classify v = .ok p ↔ ∃ k : PartKind, k.make v = .ok p := by
      rw [KeyPart.classify_eq_ok_iff]
      exact or_iff_right (hv p)
    refine ⟨fun k l p q => PartKind.eq_of_make, accepted, ?_, fun e he => ?_⟩
    · cases hc : KeyPart.classify v with
      | ok p =>
        obtain ⟨k, hk⟩ := (accepted p).1 hc
        exact iff_of_false nofun fun hnone => hnone k p hk
      | error e =>
        refine iff_of_true ⟨e, rfl⟩ fun k p hk => ?_
        have hp := (accepted p).2 ⟨k, hk⟩
        rw [hc] at hp
        cases hp
    · have unfit := KeyPart.unfit_of_classify he
      refine ⟨unfit.received?_eq_iff, unfit.cases_fault, unfit.eq_outOfRange_iff, fun n hn => ?_,
        unfit.eq_tooManyDigits_iff⟩
      rw [hn]
      rfl
  · rw [hp]
    exact ⟨KeyPart.classify_part p, fun k => PartKind.make_part k p⟩
  · cases hc : KeyPart.classify v with
    | ok p => exact KeyPart.classify_part p
    | error e => rfl
  · cases v with
    | mapping kind members => exact absurd rfl (hmapping kind members)
    | key k => exact absurd rfl (hkey k)
    | atom a | sequence kind items | part p => rfl

/-- The shortest integer without a text is no part and in no range, but neither its type nor its
range is told. -/
theorem longInteger_untold :
    let v : Value := .atom (.integer (powerOfTen 4300))
    (∀ p, v ≠ .part p) ∧ ¬ KeyPart.InRange (powerOfTen 4300) ∧
      (∀ (k : PartKind) p, k.make v ≠ .ok p) ∧
      KeyPart.classify v = .error .tooManyDigits ∧
      PartKind.integer.make v = .error .tooManyDigits ∧
      KeyFault.tooManyDigits.received? ≠ some v.typeName ∧
      ∀ n, KeyFault.tooManyDigits ≠ .outOfRange n := by
  intro v
  have long : ¬ HasText (powerOfTen 4300) :=
    not_hasText_iff.2 (Nat.le_of_eq (Int.natAbs_natCast (powerOfTen 4300)).symm)
  have outside : ¬ KeyPart.InRange (powerOfTen 4300) := mt KeyPart.InRange.hasText long
  have refused : KeyPart.classify v = .error .tooManyDigits := by
    rw [KeyPart.classify_integer, if_neg outside, if_neg long]
  refine ⟨nofun, outside, fun k p hk => ?_, refused, refused, nofun, nofun⟩
  have accepted : KeyPart.classify v = .ok p := KeyPart.classify_eq_ok_iff.2 (.inr ⟨k, hk⟩)
  exact nomatch accepted.symm.trans refused

/-- The first integer behind the range, a truth value, a ready-made part alone and in a list. -/
theorem classification_agrees_behindRange :
    (∀ p, Value.atom (.integer 0x8000000000000000) ≠ .part p) ∧
    (∀ (k : PartKind) p, k.make (.atom (.integer 0x8000000000000000)) ≠ .ok p) ∧
    (KeyFault.outOfRange 0x8000000000000000).received? =
      some (Value.atom (.integer 0x8000000000000000)).typeName ∧
    (∀ p, Value.atom (.boolean true) ≠ .part p) ∧
    (∀ n, KeyFault.unsupportedValue "builtins.bool" ≠ .outOfRange n) ∧
    KeyPart.classify (.part (.text "7")) = .ok (.text "7") ∧
    (∀ kind members, Value.sequence .list [.part (.text "7")] ≠ .mapping kind members) ∧
    (∀ k, Value.sequence .list [.part (.text "7")] ≠ .key k) ∧
    EntityKey.ofValue (.sequence .list [.part (.text "7")]) =
      .error (.unsupportedValue "builtins.list") := by
  have integer (p : KeyPart) : Value.atom (.integer 0x8000000000000000) ≠ .part p := nofun
  have boolean (p : KeyPart) : Value.atom (.boolean true) ≠ .part p := nofun
  have digits : 19 ≤ maxDigits := by decide
  have short : HasText 0x8000000000000000 := hasText_of_lt digits (by decide)
  have refused : KeyPart.classify (.atom (.integer 0x8000000000000000)) =
      .error (.outOfRange 0x8000000000000000) := by
    rw [KeyPart.classify_integer, if_neg (by decide), if_pos short]
  have hmapping (kind : MappingKind) (members : List (Value × Value)) :
      Value.sequence .list [.part (.text "7")] ≠ .mapping kind members := nofun
  have hkey (k : EntityKey) : Value.sequence .list [.part (.text "7")] ≠ .key k := nofun
  obtain ⟨-, -, unmade, faults⟩ := (classification_agrees _).1 integer
  obtain ⟨told, -⟩ := faults _ refused
  obtain ⟨-, -, untold, -⟩ := ((classification_agrees _).1 boolean).2.2.2 _ rfl
  have ready := (classification_agrees (.part (.text "7"))).2.1 _ rfl
  have listed := (classification_agrees (.sequence .list [.part (.text "7")])).2.2.2 hmapping hkey
  refine ⟨integer, unmade.1 ⟨_, refused⟩, told.2 fun n hn => ?_, boolean, fun n hn => ?_, ready.1,
    hmapping, hkey, listed.2⟩
  · cases hn
    exact short
  · exact absurd ((untold n).1 hn).1 nofun

/-! ## Keys of one part -/

/-- What is written for a key that is made from one value. -/
def writtenSingle (v : Value) : Except KeyFault Text := EntityKey.ofPart v >>= EntityKey.written

theorem writtenSingle_eq (v : Value) :
    writtenSingle v = (KeyPart.classify v).map KeyPart.written := by
  rw [writtenSingle, EntityKey.ofPart]
  cases KeyPart.classify v <;> rfl

theorem map_written_eq_iff {x y : Except KeyFault KeyPart} :
    x.map KeyPart.written = y.map KeyPart.written ↔ x = y := by
  constructor
  · intro h
    cases x with
    | error e =>
      exact (map_eq_error_iff.1 (h.symm.trans rfl)).symm
    | ok p =>
      obtain ⟨q, rfl, hq⟩ := map_eq_ok_iff.1 (h.symm.trans rfl)
      rw [KeyPart.written_injective hq]
  · exact congrArg _

/-- Over all values: two single keys are written alike, or fail alike, exactly if their values are
classified alike. Every key part makes a single key that can be written, and the part is given back
by it, with its kind: not even the text that reads like another part is written like it, and no
integer is written like a date, whatever its digits are. -/
theorem single_key_identifies :
    (∀ v w, writtenSingle v = writtenSingle w ↔ KeyPart.classify v = KeyPart.classify w) ∧
    (∀ p : KeyPart, ∃ t, writtenSingle (.part p) = .ok t) ∧
    (∀ p q : KeyPart, writtenSingle (.part p) = writtenSingle (.part q) ↔
      p = q ∧ p.kind = q.kind) ∧
    (∀ p : KeyPart, writtenSingle (.part (.text p.written)) ≠ writtenSingle (.part p)) ∧
    ∀ (n : Int) (d : Date),
      writtenSingle (.part (.integer n)) ≠ writtenSingle (.part (.date d)) := by
  have alike (v w : Value) :
      writtenSingle v = writtenSingle w ↔ KeyPart.classify v = KeyPart.classify w := by
    rw [writtenSingle_eq, writtenSingle_eq]
    exact map_written_eq_iff
  have parts (p q : KeyPart) : writtenSingle (.part p) = writtenSingle (.part q) ↔ p = q := by
    rw [alike, KeyPart.classify_part, KeyPart.classify_part, Except.ok.injEq]
  refine ⟨alike, fun p => ⟨p.written, writtenSingle_eq _⟩, fun p q => ?_, fun p h => ?_,
    fun n d h => ?_⟩
  · rw [parts]
    exact ⟨fun h => ⟨h, congrArg _ h⟩, fun h => h.1⟩
  · -- The text in quotes is longer than what stands between them.
    have hquoted : '\'' :: p.written ++ ['\''] = p.written :=
      congrArg KeyPart.written ((parts _ _).1 h)
    have hlength := congrArg List.length hquoted
    simp at hlength
    omega
  · exact nomatch (parts _ _).1 h

end ServiceGateway
