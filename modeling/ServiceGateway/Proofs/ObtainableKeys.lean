import ServiceGateway.Proofs.Refusals
import ServiceGateway.ValueConstruction

/-!
# Keys that can be obtained

A key is made from any value: a ready-made key stays as it is, a mapping gives a composite key, and
every other value a single one or the reason why it is none. Of several bad entries of a mapping the
first decides, and in it the name before the value. However the constructors are nested, the keys
that come out are the well-formed ones and no others: their integers are in range, and a composite
key has an entry at least. That names are texts and that no key stands inside another one is part of
the type; here it shows in what is refused.
-/
namespace ServiceGateway

/-! ## Parts -/

namespace KeyPart

/-- The value without a tag that a part is made from. -/
def plain : KeyPart → Value
  | text t => .atom (.text t)
  | integer n => .atom (.integer n)
  | date d => .atom (.date d)

theorem wellFormed_of_ofText {v : Value} {p : KeyPart} (h : ofText v = .ok p) :
    p.WellFormed := by
  unfold ofText at h
  split at h
  · cases h
    trivial
  · cases h

theorem wellFormed_of_ofInteger {v : Value} {p : KeyPart} (h : ofInteger v = .ok p) :
    p.WellFormed := by
  unfold ofInteger at h
  split at h
  · split at h
    · cases h
      assumption
    · split at h <;> cases h
  · cases h

theorem wellFormed_of_ofDate {v : Value} {p : KeyPart} (h : ofDate v = .ok p) :
    p.WellFormed := by
  unfold ofDate at h
  split at h
  · cases h
    trivial
  · cases h

theorem classify_plain {p : KeyPart} (h : p.WellFormed) : classify p.plain = .ok p := by
  cases p with
  | integer n => exact if_pos h
  | text t => rfl
  | date d => rfl

/-- What is classified is a ready-made part, or passes the check of its kind. -/
theorem eq_part_or_wellFormed_of_classify {v : Value} {p : KeyPart} (h : classify v = .ok p) :
    v = .part p ∨ p.WellFormed := by
  unfold classify at h
  split at h
  · exact .inl (congrArg Value.part (Except.ok.inj h))
  · exact .inr (wellFormed_of_ofText h)
  · exact .inr (wellFormed_of_ofInteger h)
  · exact .inr (wellFormed_of_ofDate h)
  · cases h

end KeyPart

/-! ## Entries -/

/-- What becomes of an entry whose name is a text and whose value is a part. -/
def Accepts (entry : Value × Value) (named : Text × KeyPart) : Prop :=
  entry.1 = .atom (.text named.1) ∧ KeyPart.classify entry.2 = .ok named.2

/-- An entry is refused for its name if that is no text, whatever its value is, and for its value
otherwise. -/
def Refuses (entry : Value × Value) (e : KeyFault) : Prop :=
  ((∀ t, entry.1 ≠ .atom (.text t)) ∧ e = .unsupportedName entry.1.typeName) ∨
    ((∃ t, entry.1 = .atom (.text t)) ∧ KeyPart.classify entry.2 = .error e)

namespace EntityKey

theorem checkEntry_eq_ok_iff {entry : Value × Value} {named : Text × KeyPart} :
    checkEntry entry = .ok named ↔ Accepts entry named := by
  obtain ⟨name, part⟩ := named
  unfold checkEntry Accepts
  split
  · rename_i t ht
    rw [map_eq_ok_iff, ht]
    simp [and_comm]
  · rename_i hname
    simp only [reduceCtorEq, false_iff, not_and]
    exact fun h => absurd h (hname name)

theorem checkEntry_eq_error_iff {entry : Value × Value} {e : KeyFault} :
    checkEntry entry = .error e ↔ Refuses entry e := by
  unfold checkEntry Refuses
  split
  · rename_i t ht
    rw [map_eq_error_iff, ht]
    simp
  · rename_i hname
    have hnone : ¬ ∃ t, entry.1 = .atom (.text t) := fun ⟨t, ht⟩ => hname t ht
    simp only [Except.error.injEq, hnone, false_and, or_false]
    exact ⟨fun h => ⟨hname, h.symm⟩, fun h => h.2.symm⟩

theorem ofEntries_eq_ok_iff {members : List (Value × Value)} {k : EntityKey} :
    ofEntries members = .ok k ↔
      members ≠ [] ∧ ∃ entries, List.Forall₂ Accepts members entries ∧ k = composite entries := by
  cases members with
  | nil => simp [ofEntries_nil]
  | cons m rest =>
    rw [ofEntries, List.isEmpty_cons, if_neg Bool.false_ne_true, map_eq_ok_iff]
    simp only [mapM_eq_ok_iff, checkEntry_eq_ok_iff, eq_comm (b := k), ne_eq, reduceCtorEq,
      not_false_eq_true, true_and]

theorem ofEntries_eq_error_iff {members : List (Value × Value)} {e : KeyFault} :
    ofEntries members = .error e ↔
      (members = [] ∧ e = .noEntries) ∨
        ∃ before entry after, members = before ++ entry :: after ∧
          (∀ m ∈ before, ∃ named, Accepts m named) ∧ Refuses entry e := by
  cases members with
  | nil => simp [ofEntries_nil, eq_comm]
  | cons m rest =>
    rw [ofEntries, List.isEmpty_cons, if_neg Bool.false_ne_true, map_eq_error_iff,
      mapM_eq_error_iff]
    simp only [FirstRefused, checkEntry_eq_ok_iff, checkEntry_eq_error_iff, reduceCtorEq, false_and,
      false_or]

theorem ofPart_eq_ok_iff {v : Value} {k : EntityKey} :
    ofPart v = .ok k ↔ ∃ p, KeyPart.classify v = .ok p ∧ single p = k :=
  map_eq_ok_iff

end EntityKey

/-! ## Nestings of the constructors -/

/-- The values that are put together from atoms, sequences and mappings with the constructors of
parts and keys, in any order and to any depth. -/
inductive Value.Obtainable : Value → Prop
  | atom (a : Atom) : Obtainable (.atom a)
  | sequence (kind : SequenceKind) {items : List Value} :
      (∀ v ∈ items, Obtainable v) → Obtainable (.sequence kind items)
  | mapping (kind : MappingKind) {members : List (Value × Value)} :
      (∀ m ∈ members, Obtainable m.1) → (∀ m ∈ members, Obtainable m.2) →
      Obtainable (.mapping kind members)
  | textPart {v : Value} {p : KeyPart} :
      Obtainable v → KeyPart.ofText v = .ok p → Obtainable (.part p)
  | integerPart {v : Value} {p : KeyPart} :
      Obtainable v → KeyPart.ofInteger v = .ok p → Obtainable (.part p)
  | datePart {v : Value} {p : KeyPart} :
      Obtainable v → KeyPart.ofDate v = .ok p → Obtainable (.part p)
  | singleKey {v : Value} {k : EntityKey} :
      Obtainable v → EntityKey.ofPart v = .ok k → Obtainable (.key k)
  | compositeKey {entries : List (Value × Value)} {k : EntityKey} :
      (∀ m ∈ entries, Obtainable m.1) → (∀ m ∈ entries, Obtainable m.2) →
      EntityKey.ofEntries entries = .ok k → Obtainable (.key k)
  | mappingKey {kind : MappingKind} {members : List (Value × Value)} {k : EntityKey} :
      Obtainable (.mapping kind members) → EntityKey.ofEntries members = .ok k → Obtainable (.key k)
  | anyKey {v : Value} {k : EntityKey} :
      Obtainable v → EntityKey.ofValue v = .ok k → Obtainable (.key k)

/-- What comes out when the value is taken as a part or as a key is well formed. -/
structure Value.Sound (v : Value) : Prop where
  part : ∀ p, KeyPart.classify v = .ok p → p.WellFormed
  key : ∀ k, EntityKey.ofValue v = .ok k → k.WellFormed

namespace EntityKey

theorem wellFormed_of_ofPart {v : Value} {k : EntityKey}
    (hv : ∀ p, KeyPart.classify v = .ok p → p.WellFormed) (h : ofPart v = .ok k) :
    k.WellFormed := by
  obtain ⟨p, hp, rfl⟩ := ofPart_eq_ok_iff.1 h
  exact hv p hp

theorem wellFormed_of_ofEntries {members : List (Value × Value)} {k : EntityKey}
    (hv : ∀ m ∈ members, ∀ p, KeyPart.classify m.2 = .ok p → p.WellFormed)
    (h : ofEntries members = .ok k) : k.WellFormed := by
  obtain ⟨hne, entries, hentries, rfl⟩ := ofEntries_eq_ok_iff.1 h
  refine ⟨?_, fun named hnamed => ?_⟩
  · rintro rfl
    exact hne (List.forall₂_nil_right_iff.1 hentries)
  · obtain ⟨m, hm, haccepts⟩ := exists_of_forall₂_right hentries hnamed
    exact hv m hm named.2 haccepts.2

end EntityKey

namespace Value

theorem sound_part {p : KeyPart} (h : p.WellFormed) : Sound (.part p) where
  part _ hq := Except.ok.inj hq ▸ h
  key _ hk := Except.ok.inj hk ▸ h

theorem sound_key {k : EntityKey} (h : k.WellFormed) : Sound (.key k) where
  part _ hq := nomatch hq
  key _ hk := Except.ok.inj hk ▸ h

theorem Obtainable.sound {v : Value} (h : v.Obtainable) : v.Sound := by
  induction h with
  | atom a =>
    have part (p : KeyPart) (hp : KeyPart.classify (.atom a) = .ok p) : p.WellFormed :=
      (KeyPart.eq_part_or_wellFormed_of_classify hp).resolve_left (fun e => nomatch e)
    exact ⟨part, fun k hk => EntityKey.wellFormed_of_ofPart part hk⟩
  | sequence kind _ _ => exact ⟨fun _ hp => (nomatch hp), fun _ hk => (nomatch hk)⟩
  | mapping kind _ _ _ ih =>
    exact ⟨fun _ hp => (nomatch hp),
      fun k hk => EntityKey.wellFormed_of_ofEntries (fun m hm => (ih m hm).part) hk⟩
  | textPart _ hp _ => exact sound_part (KeyPart.wellFormed_of_ofText hp)
  | integerPart _ hp _ => exact sound_part (KeyPart.wellFormed_of_ofInteger hp)
  | datePart _ hp _ => exact sound_part (KeyPart.wellFormed_of_ofDate hp)
  | singleKey _ hk ih => exact sound_key (EntityKey.wellFormed_of_ofPart ih.part hk)
  | compositeKey _ _ hk _ ih =>
    exact sound_key (EntityKey.wellFormed_of_ofEntries (fun m hm => (ih m hm).part) hk)
  | mappingKey _ hk ih => exact sound_key (ih.key _ hk)
  | anyKey _ hk ih => exact sound_key (ih.key _ hk)

theorem Obtainable.plain (p : KeyPart) : Obtainable p.plain := by
  cases p <;> exact .atom _

/-- A well-formed key is made in one step, from plain values. -/
theorem Obtainable.of_wellFormed {k : EntityKey} (h : k.WellFormed) : Obtainable (.key k) := by
  cases k with
  | single p =>
    refine .singleKey (.plain p) (EntityKey.ofPart_eq_ok_iff.2 ⟨p, ?_, rfl⟩)
    exact KeyPart.classify_plain h
  | composite entries =>
    obtain ⟨hne, hparts⟩ := h
    let plain (named : Text × KeyPart) : Value × Value := (.atom (.text named.1), named.2.plain)
    have accepted : List.Forall₂ Accepts (entries.map plain) entries := by
      rw [List.forall₂_map_left_iff, List.forall₂_same]
      exact fun named hnamed => ⟨rfl, KeyPart.classify_plain (hparts named hnamed)⟩
    have made : EntityKey.ofEntries (entries.map plain) = .ok (.composite entries) :=
      EntityKey.ofEntries_eq_ok_iff.2 ⟨mt List.map_eq_nil_iff.1 hne, entries, accepted, rfl⟩
    refine .compositeKey ?_ ?_ made
    · exact List.forall_mem_map.2 fun named _ => .atom (.text named.1)
    · exact List.forall_mem_map.2 fun named _ => .plain named.2

theorem obtainable_key_iff {k : EntityKey} : Obtainable (.key k) ↔ k.WellFormed :=
  ⟨fun h => h.sound.key k rfl, .of_wellFormed⟩

end Value

/-! ## Constructions -/

namespace Construction

theorem keyed_eq_ok_iff {α : Type} {r : Except KeyFault α} {f : α → Value} {v : Value} :
    keyed r f = .ok v ↔ ∃ a, r = .ok a ∧ v = f a := by
  cases r <;> simp [keyed, eq_comm]

theorem buildAll_cons_eq_ok_iff {asNames : Bool} {c : Construction} {rest : List Construction}
    {vs : List Value} :
    buildAll asNames (c :: rest) = .ok vs ↔
      ∃ v, build c = .ok v ∧ (asNames = true → v.refusal? = none) ∧
        ∃ ws, buildAll asNames rest = .ok ws ∧ v :: ws = vs := by
  rw [buildAll, bind_eq_ok_iff]
  refine exists_congr fun v => and_congr_right fun _ => ?_
  cases asNames with
  | true => simp [bind_eq_ok_iff, named_eq_ok_iff]
  | false =>
    change (buildAll false rest >>= fun ws => Except.ok (v :: ws)) = .ok vs ↔ _
    simp [bind_eq_ok_iff]

theorem buildMembers_cons_eq_ok_iff {asNames : Bool} {k c : Construction}
    {rest : List (Construction × Construction)} {ms : List (Value × Value)} :
    buildMembers asNames ((k, c) :: rest) = .ok ms ↔
      ∃ name, build k = .ok name ∧ ∃ value, build c = .ok value ∧
        (asNames = true → name.refusal? = none) ∧
          ∃ others, buildMembers asNames rest = .ok others ∧ (name, value) :: others = ms := by
  rw [buildMembers, bind_eq_ok_iff]
  refine exists_congr fun name => and_congr_right fun _ => ?_
  rw [bind_eq_ok_iff]
  refine exists_congr fun value => and_congr_right fun _ => ?_
  cases asNames with
  | true => simp [bind_eq_ok_iff, named_eq_ok_iff]
  | false =>
    change (buildMembers false rest >>= fun others => Except.ok ((name, value) :: others)) =
      .ok ms ↔ _
    simp [bind_eq_ok_iff]

mutual
/-- Carrying out a construction nests the constructors. -/
theorem obtainable_of_build : (c : Construction) → ∀ {v}, c.build = .ok v → v.Obtainable
  | atom a, v, h => by
    rw [build] at h
    exact Except.ok.inj h ▸ .atom a
  | literal l, v, h => by
    rw [build] at h
    cases hl : l.read with
    | error e => simp [hl, Except.map, Except.mapError] at h
    | ok a =>
      simp only [hl, Except.map, Except.mapError, Except.ok.injEq] at h
      exact h ▸ .atom a
  | sequence kind items, v, h => by
    rw [build] at h
    obtain ⟨vs, hvs, h⟩ := bind_eq_ok_iff.1 h
    have hitems := obtainable_of_buildAll items hvs
    obtain rfl := Except.ok.inj h
    refine .sequence kind fun w hw => hitems w ?_
    split at hw
    · exact Value.mem_of_mem_setMembers hw
    · exact hw
  | mapping kind members, v, h => by
    rw [build] at h
    obtain ⟨ms, hms, h⟩ := bind_eq_ok_iff.1 h
    obtain rfl := Except.ok.inj h
    rw [tableBy_eq]
    have hmembers := obtainable_of_buildMembers members hms
    exact .mapping kind (fun m hm => (forall_mem_tableOf hmembers m hm).1)
      (fun m hm => (forall_mem_tableOf hmembers m hm).2)
  | textPart argument, v, h => by
    rw [build] at h
    obtain ⟨w, hw, h⟩ := bind_eq_ok_iff.1 h
    obtain ⟨p, hp, rfl⟩ := keyed_eq_ok_iff.1 h
    exact .textPart (obtainable_of_build argument hw) hp
  | integerPart argument, v, h => by
    rw [build] at h
    obtain ⟨w, hw, h⟩ := bind_eq_ok_iff.1 h
    obtain ⟨p, hp, rfl⟩ := keyed_eq_ok_iff.1 h
    exact .integerPart (obtainable_of_build argument hw) hp
  | datePart argument, v, h => by
    rw [build] at h
    obtain ⟨w, hw, h⟩ := bind_eq_ok_iff.1 h
    obtain ⟨p, hp, rfl⟩ := keyed_eq_ok_iff.1 h
    exact .datePart (obtainable_of_build argument hw) hp
  | singleKey argument, v, h => by
    rw [build] at h
    obtain ⟨w, hw, h⟩ := bind_eq_ok_iff.1 h
    obtain ⟨k, hk, rfl⟩ := keyed_eq_ok_iff.1 h
    exact .singleKey (obtainable_of_build argument hw) hk
  | compositeKey entries, v, h => by
    rw [build] at h
    obtain ⟨ms, hms, h⟩ := bind_eq_ok_iff.1 h
    obtain ⟨k, hk, rfl⟩ := keyed_eq_ok_iff.1 h
    have hmembers := obtainable_of_buildMembers entries hms
    exact .compositeKey (fun m hm => (hmembers m hm).1) (fun m hm => (hmembers m hm).2) hk
  | anyKey argument, v, h => by
    rw [build] at h
    obtain ⟨w, hw, h⟩ := bind_eq_ok_iff.1 h
    obtain ⟨k, hk, rfl⟩ := keyed_eq_ok_iff.1 h
    exact .anyKey (obtainable_of_build argument hw) hk
theorem obtainable_of_buildAll {asNames : Bool} : (cs : List Construction) →
    ∀ {vs}, buildAll asNames cs = .ok vs → ∀ v ∈ vs, v.Obtainable
  | [], vs, h => by
    rw [buildAll] at h
    obtain rfl := Except.ok.inj h
    simp
  | c :: rest, vs, h => by
    obtain ⟨v, hv, _, ws, hws, rfl⟩ := buildAll_cons_eq_ok_iff.1 h
    exact List.forall_mem_cons.2 ⟨obtainable_of_build c hv, obtainable_of_buildAll rest hws⟩
theorem obtainable_of_buildMembers {asNames : Bool} : (cs : List (Construction × Construction)) →
    ∀ {ms}, buildMembers asNames cs = .ok ms → ∀ m ∈ ms, m.1.Obtainable ∧ m.2.Obtainable
  | [], ms, h => by
    rw [buildMembers] at h
    obtain rfl := Except.ok.inj h
    simp
  | (k, c) :: rest, ms, h => by
    obtain ⟨name, hname, value, hvalue, _, others, hothers, rfl⟩ := buildMembers_cons_eq_ok_iff.1 h
    exact List.forall_mem_cons.2 ⟨⟨obtainable_of_build k hname, obtainable_of_build c hvalue⟩,
      obtainable_of_buildMembers rest hothers⟩
end

end Construction

/-! ## Making a key -/

/-- Over all values: a key stays as it is; a mapping is refused if it is empty, and otherwise for
its first bad entry alone, or gives its entries in order; any other value is classified. A key is no
part, so none gets inside another. All that constructions make is obtainable, and the obtainable
keys are the well-formed ones. -/
theorem key_made_or_refused :
    (∀ k, EntityKey.ofValue (.key k) = .ok k) ∧
    (∀ kind members,
      (∀ e, EntityKey.ofValue (.mapping kind members) = .error e ↔
        (members = [] ∧ e = .noEntries) ∨
          ∃ before entry after, members = before ++ entry :: after ∧
            (∀ m ∈ before, ∃ named, Accepts m named) ∧ Refuses entry e) ∧
      ∀ k, EntityKey.ofValue (.mapping kind members) = .ok k ↔
        members ≠ [] ∧ ∃ entries, List.Forall₂ Accepts members entries ∧ k = .composite entries) ∧
    (∀ v, (∀ k, v ≠ .key k) → (∀ kind members, v ≠ .mapping kind members) →
      EntityKey.ofValue v = (KeyPart.classify v).map .single) ∧
    (∀ k, KeyPart.classify (.key k) = .error (.unsupportedValue k.typeName)) ∧
    (∀ c v, Construction.build c = .ok v → v.Obtainable) ∧
    ∀ k, Value.Obtainable (.key k) ↔ k.WellFormed := by
  refine ⟨EntityKey.ofValue_key, fun kind members => ⟨fun e => ?_, fun k => ?_⟩,
    fun v hkey hmapping => ?_, fun k => rfl, fun c v h => Construction.obtainable_of_build c h,
    fun k => Value.obtainable_key_iff⟩
  · exact EntityKey.ofEntries_eq_error_iff
  · exact EntityKey.ofEntries_eq_ok_iff
  · cases v with
    | key k => exact absurd rfl (hkey k)
    | mapping kind members => exact absurd rfl (hmapping kind members)
    | atom a | sequence kind items | part p => rfl

/-- A mapping with two bad entries, a plain date, and a key inside a tuple. -/
theorem key_made_orderLine :
    EntityKey.ofValue (.mapping .ordered [(.text "id", .atom (.integer 7)),
        (.atom (.integer 3), .atom (.boolean true)), (.text "at", .atom .object)]) =
      .error (.unsupportedName "builtins.int") ∧
    (∀ k, Value.text "7" ≠ .key k) ∧ (∀ kind members, Value.text "7" ≠ .mapping kind members) ∧
    EntityKey.ofValue (.text "7") = .ok (.single (.text "7")) ∧
    Construction.build (.sequence .tuple [.singleKey (.textPart (.atom (.text "7")))]) =
      .ok (.sequence .tuple [.key (.single (.text "7"))]) ∧
    (Value.sequence .tuple [.key (.single (.text "7"))]).Obtainable := by
  obtain ⟨_, mapping, other, _, built, _⟩ := key_made_or_refused
  have hkey (k : EntityKey) : Value.text "7" ≠ .key k := nofun
  have hmapping (kind : MappingKind) (members : List (Value × Value)) :
      Value.text "7" ≠ .mapping kind members := nofun
  have hbuild : Construction.build (.sequence .tuple [.singleKey (.textPart (.atom (.text "7")))]) =
      .ok (.sequence .tuple [.key (.single (.text "7"))]) := rfl
  refine ⟨((mapping .ordered _).1 _).2 (.inr ⟨[_], _, _, rfl, ?_, .inl ⟨nofun, rfl⟩⟩), hkey,
    hmapping, other _ hkey hmapping, hbuild, built _ _ hbuild⟩
  exact List.forall_mem_singleton.2 ⟨("id", .integer 7), rfl, rfl⟩

end ServiceGateway
