import ServiceGateway.Proofs.AddressHistory
import ServiceGateway.Proofs.LegibleKeys
import ServiceGateway.Proofs.ObtainableKeys

/-!
# What an address tells apart

Two addresses of one entity that are written alike agree in whether they have a key, and with the
same key also in the property. They agree in the key as well if both keys are legible; since nothing
is escaped, a key that is not may be taken for another one, or for a key with a property.
-/
namespace ServiceGateway

/-! ## Addresses without marks -/

namespace AddressStep

/-- The values that the steps hand over as keys can be built. -/
def KeysBuilt (steps : List AddressStep) : Prop :=
  ∀ v, chooseKey v ∈ steps → ∃ c : Construction, c.build = .ok v

theorem lastKey?_wellFormed {steps : List AddressStep} (h : KeysBuilt steps) {k : EntityKey}
    (hk : lastKey? steps = some k) : k.WellFormed := by
  obtain ⟨s, hs, hk⟩ := List.mem_filterMap.1 (List.mem_of_getLast? hk)
  cases s with
  | chooseKey v =>
    obtain ⟨c, hc⟩ := h v hs
    have accepted : EntityKey.ofValue v = .ok k := by
      cases hv : EntityKey.ofValue v <;> simp_all [acceptedKey?, Except.toOption]
    exact (Construction.obtainable_of_build c hc).sound.key k accepted
  | _ => cases hk

end AddressStep

namespace EntityAddress

open AddressStep

/-- An address of an entity that some steps lead to and that has neither mark. -/
structure IsNormal (root entity : Text) (a : EntityAddress) : Prop where
  reached : ∃ steps, KeysBuilt steps ∧ a = (new root entity).run steps
  metadata : ¬ a.metadata = true
  count : ¬ a.count = true

theorem IsNormal.entityPath {root entity : Text} {a : EntityAddress} (h : IsNormal root entity a) :
    a.entityPath = root ++ '/' :: entity := by
  obtain ⟨steps, -, rfl⟩ := h.reached
  rw [EntityAddress.entityPath, (follows_run root entity steps).serviceRoot,
    (follows_run root entity steps).entityName]

theorem IsNormal.key_wellFormed {root entity : Text} {a : EntityAddress}
    (h : IsNormal root entity a) : ∀ k ∈ a.key, k.WellFormed := by
  obtain ⟨steps, hbuilt, rfl⟩ := h.reached
  rw [(follows_run root entity steps).key]
  exact fun k => lastKey?_wellFormed hbuilt

theorem keyPart_eq_ok_iff {key : Option EntityKey} {t : Text} :
    keyPart key = .ok t ↔
      key = none ∧ t = [] ∨ ∃ k u, key = some k ∧ k.written = .ok u ∧ t = '(' :: u ++ [')'] := by
  cases key with
  | none => simp [keyPart, eq_comm]
  | some k => cases hk : k.written <;> simp [keyPart, hk, Except.map, eq_comm]

/-- What stands behind the entity. -/
theorem IsNormal.exists_keyPart {root entity : Text} {a : EntityAddress} {t : Text}
    (h : IsNormal root entity a) (ht : a.uri = .ok t) :
    ∃ key, keyPart a.key = .ok key ∧
      t = root ++ '/' :: entity ++ (key ++ propertyPart a.property) := by
  rw [uri_of_normal h.metadata h.count, h.entityPath] at ht
  cases hkey : keyPart a.key with
  | error e =>
    rw [hkey] at ht
    cases ht
  | ok key =>
    rw [hkey] at ht
    have hwritten : root ++ '/' :: entity ++ key ++ propertyPart a.property = t := Except.ok.inj ht
    exact ⟨key, rfl, by rw [← hwritten, List.append_assoc]⟩

theorem propertyPart_injective {x y : Option Text} (h : propertyPart x = propertyPart y) :
    x = y := by
  cases x with
  | none =>
    cases y with
    | none => rfl
    | some u => cases h
  | some t =>
    cases y with
    | none => cases h
    | some u => rw [(List.cons.inj h).2]

theorem parenthesis_ne_propertyPart (t : Text) (property : Option Text) :
    '(' :: t ≠ propertyPart property := by
  cases property <;> simp [propertyPart]

theorem closes_propertyPart (property : Option Text) :
    PartPlace.alone.Closes (')' :: propertyPart property) := by
  cases property with
  | none => exact .inl rfl
  | some t => exact .inr ⟨")/", List.mem_singleton.2 rfl, t, rfl⟩

/-- A written key begins with a parenthesis and a property with a slash. -/
theorem keyPart_append_eq_none {x y : Option EntityKey} {p q : Option Text} {t u : Text}
    (hx : keyPart x = .ok t) (hy : keyPart y = .ok u)
    (h : t ++ propertyPart p = u ++ propertyPart q) (hnone : x = none) : y = none := by
  rcases keyPart_eq_ok_iff.1 hx with ⟨-, rfl⟩ | ⟨k, w, rfl, -⟩
  · rcases keyPart_eq_ok_iff.1 hy with ⟨rfl, -⟩ | ⟨k, w, -, -, rfl⟩
    · rfl
    · exact absurd h.symm (parenthesis_ne_propertyPart _ p)
  · cases hnone

theorem keyPart_append_inj {x y : Option EntityKey} {p q : Option Text} {t u : Text}
    (hx : keyPart x = .ok t) (hy : keyPart y = .ok u) (hxw : ∀ k ∈ x, k.WellFormed)
    (hyw : ∀ k ∈ y, k.WellFormed) (hxl : ∀ k ∈ x, k.Legible) (hyl : ∀ k ∈ y, k.Legible)
    (h : t ++ propertyPart p = u ++ propertyPart q) : x = y := by
  rcases keyPart_eq_ok_iff.1 hx with ⟨rfl, -⟩ | ⟨k, w, rfl, hk, rfl⟩
  · rw [keyPart_append_eq_none hx hy h rfl]
  rcases keyPart_eq_ok_iff.1 hy with ⟨rfl, rfl⟩ | ⟨l, v, rfl, hl, rfl⟩
  · exact absurd h (parenthesis_ne_propertyPart _ q)
  have hwv : w ++ ')' :: propertyPart p = v ++ ')' :: propertyPart q := by simpa using h
  obtain ⟨rfl, -⟩ := EntityKey.written_append_inj (hxw k rfl) (hyw l rfl) (hxl k rfl) (hyl l rfl)
    hk hl (closes_propertyPart p) (closes_propertyPart q) hwv
  rfl

/-- Two addresses of one entity that are written alike have both a key or both none, and with the
same key they have the same property; if their keys are legible, both are the same. -/
theorem uri_identifies {root entity t : Text} {a b : EntityAddress} (ha : IsNormal root entity a)
    (hb : IsNormal root entity b) (hat : a.uri = .ok t) (hbt : b.uri = .ok t) :
    (a.key = none ↔ b.key = none) ∧ (a.key = b.key → a.property = b.property) ∧
      ((∀ k ∈ a.key, k.Legible) → (∀ k ∈ b.key, k.Legible) →
        a.key = b.key ∧ a.property = b.property) := by
  obtain ⟨x, hx, hxt⟩ := ha.exists_keyPart hat
  obtain ⟨y, hy, hyt⟩ := hb.exists_keyPart hbt
  have hxy : x ++ propertyPart a.property = y ++ propertyPart b.property :=
    List.append_cancel_left (hxt.symm.trans hyt)
  have same_property (hkey : a.key = b.key) : a.property = b.property := by
    rw [hkey, hy] at hx
    obtain rfl := Except.ok.inj hx
    exact propertyPart_injective (List.append_cancel_left hxy)
  refine ⟨⟨keyPart_append_eq_none hx hy hxy, keyPart_append_eq_none hy hx hxy.symm⟩,
    same_property, fun hal hbl => ?_⟩
  have hkey := keyPart_append_inj hx hy ha.key_wellFormed hb.key_wellFormed hal hbl hxy
  exact ⟨hkey, same_property hkey⟩

/-! ## Addresses of a key and a property -/

/-- A key that is built, if it can be, and then a property. -/
def choices (c : Construction) (property : Option Text) : List AddressStep :=
  (c.build.toOption.map .chooseKey).toList ++ [.chooseProperty property]

def orders (c : Construction) (property : Option Text) : EntityAddress :=
  (new "sales" "Orders").run (choices c property)

theorem isNormal_orders (c : Construction) (property : Option Text) :
    IsNormal "sales" "Orders" (orders c property) := by
  have h := follows_run "sales" "Orders" (choices c property)
  refine ⟨⟨choices c property, fun v hv => ⟨c, ?_⟩, rfl⟩, ?_, ?_⟩
  · cases hc : c.build <;> simp_all [choices, Except.toOption]
  · rw [orders, h.metadata]
    simp [choices]
  · rw [orders, h.count]
    simp [choices]

/-- A mapping from names to atoms. -/
def atomMapping (entries : List (Text × Atom)) : Construction :=
  .mapping .plain (entries.map fun entry => (.atom (.text entry.1), .atom entry.2))

/-- Quotes, commas, slashes and equals signs where they do no harm. -/
def harmlessMapping : Construction :=
  atomMapping [("id", .text "O'Brien, a)/b"), ("a=b", .date ⟨2020, 2, 22, by decide⟩)]

def harmlessKey : EntityKey :=
  .composite [("id", .text "O'Brien, a)/b"), ("a=b", .date ⟨2020, 2, 22, by decide⟩)]

theorem legible_harmlessKey : harmlessKey.Legible := by
  refine ⟨?_, ?_⟩
  · rintro entry ⟨⟩
    exact PartPlace.not_opens_cons (by decide)
  · intro entry hentry
    rcases List.mem_cons.1 hentry with rfl | hentry
    · refine ⟨fun rest hrest => ?_, by decide⟩
      exact absurd (hrest.mem List.mem_cons_self) (by decide)
    · rw [List.mem_singleton.1 hentry]
      refine ⟨fun rest hrest => ?_, trivial⟩
      have hb : rest = "b" := by simpa [List.suffix_cons_iff] using hrest
      rw [hb]
      exact PartPlace.not_opens_cons (by decide)

theorem uri_identifies_harmlessKey :
    let a := orders harmlessMapping (some "Name")
    let b := orders (.anyKey harmlessMapping) (some "Name")
    let t : Text := "sales/Orders(id='O'Brien, a)/b',a=b=2020-02-22)/Name"
    IsNormal "sales" "Orders" a ∧ IsNormal "sales" "Orders" b ∧ a.uri = .ok t ∧ b.uri = .ok t ∧
      (∀ k ∈ a.key, k.Legible) ∧ (∀ k ∈ b.key, k.Legible) ∧
        a.key = b.key ∧ a.property = b.property := by
  intro a b t
  have ha : IsNormal "sales" "Orders" a := isNormal_orders _ _
  have hb : IsNormal "sales" "Orders" b := isNormal_orders _ _
  have hat : a.uri = .ok t := rfl
  have hbt : b.uri = .ok t := rfl
  have hal : ∀ k ∈ a.key, k.Legible := by
    rintro k ⟨⟩
    exact legible_harmlessKey
  have hbl : ∀ k ∈ b.key, k.Legible := by
    rintro k ⟨⟩
    exact legible_harmlessKey
  exact ⟨ha, hb, hat, hbt, hal, hbl, (uri_identifies ha hb hat hbt).2.2 hal hbl⟩

/-- Two addresses of one entity are written alike though their keys differ. -/
def Mistaken (a b : EntityAddress) : Prop :=
  IsNormal "sales" "Orders" a ∧ IsNormal "sales" "Orders" b ∧
    (∃ t, a.uri = .ok t ∧ b.uri = .ok t) ∧ a.key ≠ b.key

theorem mistaken_orders {c d : Construction} {p q : Option Text} {t : Text}
    (hc : (orders c p).uri = .ok t) (hd : (orders d q).uri = .ok t)
    (hne : (orders c p).key ≠ (orders d q).key) : Mistaken (orders c p) (orders d q) :=
  ⟨isNormal_orders c p, isNormal_orders d q, ⟨t, hc, hd⟩, hne⟩

/-- Whatever a legible key is free of does mislead: in a text a quote with a comma or with `)/`
behind it, in a name a part behind an equals sign, or at the beginning of the key. -/
theorem uri_mistakes_keys :
    Mistaken (orders (atomMapping [("a", .text "1',b='2")]) none)
      (orders (atomMapping [("a", .text "1"), ("b", .text "2")]) none) ∧
    Mistaken (orders (.atom (.text "1')/x")) none) (orders (.atom (.text "1")) (some "x')")) ∧
    Mistaken (orders (atomMapping [("a", .text "1')/x")]) none)
      (orders (atomMapping [("a", .text "1")]) (some "x')")) ∧
    Mistaken (orders (atomMapping [("a=1,b", .integer 2)]) none)
      (orders (atomMapping [("a", .integer 1), ("b", .integer 2)]) none) ∧
    Mistaken (orders (atomMapping [("a=1)/x", .integer 2)]) none)
      (orders (atomMapping [("a", .integer 1)]) (some "x=2)")) ∧
    Mistaken (orders (atomMapping [("a='x", .text "y")]) none)
      (orders (atomMapping [("a", .text "x='y")]) none) ∧
    Mistaken (orders (atomMapping [("1)/x", .text "y")]) none)
      (orders (.atom (.integer 1)) (some "x='y')")) ∧
    Mistaken (orders (atomMapping [("'x", .text "y")]) none)
      (orders (.atom (.text "x='y")) none) := by
  refine ⟨mistaken_orders rfl rfl ?_, mistaken_orders rfl rfl ?_, mistaken_orders rfl rfl ?_,
    mistaken_orders rfl rfl ?_, mistaken_orders rfl rfl ?_, mistaken_orders rfl rfl ?_,
    mistaken_orders rfl rfl ?_, mistaken_orders rfl rfl ?_⟩ <;> decide

end EntityAddress

end ServiceGateway
