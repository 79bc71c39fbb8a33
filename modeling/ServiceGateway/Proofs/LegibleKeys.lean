import Mathlib.Data.List.Infix
import ServiceGateway.Proofs.WrittenParts

/-!
# Keys that are read back

Texts and names stand in a written key as they are, so a key can be read in two ways if a text holds
a quote with an end mark behind it, or a name something that looks like a part of its own. Those are
the only doubts: two keys that are free of them and begin one text, each with the closing
parenthesis behind it, are the same key.
-/
namespace ServiceGateway

/-! ## Where a part ends -/

/-- A part is the whole key or stands in an entry. -/
inductive PartPlace where
  | alone
  | inEntry

namespace PartPlace

/-- What stands behind a part that does not end the address: a property, or in an entry the next
entry as well. -/
def ends : PartPlace → List Text
  | alone => [")/"]
  | inEntry => [",", ")/"]

/-- What follows a part: one of the ends, or the closing parenthesis and nothing else. -/
def Closes (place : PartPlace) (r : Text) : Prop := r = ")" ∨ ∃ m ∈ place.ends, m <+: r

/-- The text begins like a part: with a quote, or with a written part that has an end behind it. The
part is one that keys have, so a number out of range does not count. -/
def Opens (place : PartPlace) (r : Text) : Prop :=
  ['\''] <+: r ∨ ∃ p : KeyPart, p.WellFormed ∧ ∃ m ∈ place.ends, p.written ++ m <+: r

theorem closes_inEntry {r : Text} (h : alone.Closes r) : inEntry.Closes r := by
  rcases h with h | ⟨m, hm, h⟩
  · exact .inl h
  · exact .inr ⟨m, List.mem_cons_of_mem _ hm, h⟩

theorem Closes.exists_cons {place : PartPlace} {r : Text} (h : place.Closes r) :
    ∃ c rest, r = c :: rest ∧ (c = ',' ∨ c = ')') := by
  rcases h with rfl | ⟨m, hm, rest, rfl⟩
  · exact ⟨')', [], rfl, .inr rfl⟩
  · cases place with
    | alone =>
      rw [List.mem_singleton.1 hm]
      exact ⟨')', '/' :: rest, rfl, .inr rfl⟩
    | inEntry =>
      rcases List.mem_cons.1 hm with rfl | hm
      · exact ⟨',', rest, rfl, .inl rfl⟩
      · rw [List.mem_singleton.1 hm]
        exact ⟨')', '/' :: rest, rfl, .inr rfl⟩

/-- A text that begins with another character than a part does not begin like one. -/
theorem not_opens_cons {place : PartPlace} {c : Char} {rest : Text}
    (hc : ¬ (c = '\'' ∨ isNumeral c = true)) : ¬ place.Opens (c :: rest) := by
  rintro (⟨u, hu⟩ | ⟨p, -, m, -, u, hu⟩)
  · exact hc (.inl (List.cons.inj hu).1.symm)
  · obtain ⟨d, written, hd⟩ := List.exists_cons_of_ne_nil p.written_ne_nil
    rw [hd] at hu
    obtain rfl := (List.cons.inj hu).1
    rcases p.written_cases with ⟨t, -, ht⟩ | hp
    · exact hc (.inl (List.cons.inj (hd.symm.trans ht)).1)
    · rw [hd] at hp
      exact hc (.inr (hp d List.mem_cons_self))

theorem notMem_of_mem_ends {place : PartPlace} {c : Char} (hc : c = '\'' ∨ c = '=') :
    ∀ m ∈ place.ends, c ∉ m := by
  rcases hc with rfl | rfl <;> cases place <;> decide

theorem prefix_of_prefix_append_cons {c : Char} {m x r : Text} (hc : c ∉ m)
    (h : m <+: x ++ c :: r) : m <+: x := by
  obtain ⟨s, hs⟩ := h
  rcases List.append_eq_append_iff.1 hs with ⟨y, hx, -⟩ | ⟨y, hm, hy⟩
  · exact ⟨y, hx.symm⟩
  · cases y with
    | nil =>
      rw [hm, List.append_nil]
    | cons d y =>
      rw [hm, (List.cons.inj hy).1] at hc
      exact absurd (List.mem_append_right x List.mem_cons_self) hc

/-- Where a quote or an equals sign follows, the end stands in front of it. -/
theorem Closes.exists_prefix {place : PartPlace} {c : Char} {x r : Text}
    (h : place.Closes (x ++ c :: r)) (hc : c = '\'' ∨ c = '=') : ∃ m ∈ place.ends, m <+: x := by
  rcases h with h | ⟨m, hm, h⟩
  · have hmem : c ∈ (")" : Text) := by
      rw [← h]
      exact List.mem_append_right x List.mem_cons_self
    rcases hc with rfl | rfl <;> exact absurd hmem (by decide)
  · exact ⟨m, hm, prefix_of_prefix_append_cons (notMem_of_mem_ends hc m hm) h⟩

end PartPlace

open PartPlace

/-! ## Parts -/

/-- A character parts a text in one place, or one of the two leading parts is the longer one. -/
theorem append_cons_cases {c : Char} {t u r s : Text} (h : t ++ c :: r = u ++ c :: s) :
    (t = u ∧ r = s) ∨ (∃ x, u = t ++ c :: x ∧ r = x ++ c :: s) ∨
      ∃ x, t = u ++ c :: x ∧ s = x ++ c :: r := by
  rcases List.append_eq_append_iff.1 h with ⟨y, hu, hr⟩ | ⟨y, ht, hs⟩
  · cases y with
    | nil => exact .inl ⟨by rw [hu, List.append_nil], (List.cons.inj hr).2⟩
    | cons d y =>
      obtain ⟨rfl, hr'⟩ := List.cons.inj hr
      exact .inr (.inl ⟨y, hu, hr'⟩)
  · cases y with
    | nil => exact .inl ⟨by rw [ht, List.append_nil], (List.cons.inj hs).2.symm⟩
    | cons d y =>
      obtain ⟨rfl, hs'⟩ := List.cons.inj hs
      exact .inr (.inr ⟨y, ht, hs'⟩)

namespace KeyPart

/-- No end stands directly behind a quote in the text. -/
def Legible (place : PartPlace) : KeyPart → Prop
  | text t => ∀ m ∈ place.ends, ¬ '\'' :: m <:+: t
  | _ => True

instance (place : PartPlace) : (p : KeyPart) → Decidable (p.Legible place)
  | text t => inferInstanceAs (Decidable (∀ m ∈ place.ends, ¬ '\'' :: m <:+: t))
  | integer _ => inferInstanceAs (Decidable True)
  | date _ => inferInstanceAs (Decidable True)

/-- The text does not go on behind a quote that ends it. -/
theorem Legible.not_closes {place : PartPlace} {t x r : Text}
    (h : (text (t ++ '\'' :: x)).Legible place) : ¬ place.Closes (x ++ '\'' :: r) := by
  intro hr
  obtain ⟨m, hm, y, rfl⟩ := hr.exists_prefix (.inl rfl)
  exact h m hm ⟨t, y, by simp⟩

theorem written_append_inj {place : PartPlace} {p q : KeyPart} {r s : Text}
    (hp : p.Legible place) (hq : q.Legible place) (hr : place.Closes r) (hs : place.Closes s)
    (h : p.written ++ r = q.written ++ s) : p = q ∧ r = s := by
  have quoted_ne (t u : Text) (v : KeyPart) (hv : ∀ c ∈ v.written, isNumeral c = true) :
      '\'' :: t ≠ v.written ++ u := by
    obtain ⟨c, rest, hc⟩ := List.exists_cons_of_ne_nil v.written_ne_nil
    rw [hc] at hv ⊢
    intro h
    have hquote := hv c List.mem_cons_self
    rw [← (List.cons.inj h).1] at hquote
    cases hquote
  have closed (u : Text) (hu : place.Closes u) : ∀ c ∈ u.head?, isNumeral c = false := by
    obtain ⟨c, rest, rfl, hc⟩ := hu.exists_cons
    intro d hd
    rw [← Option.some.inj hd]
    rcases hc with rfl | rfl <;> decide
  rcases p.written_cases with ⟨t, rfl, ht⟩ | hp' <;>
    rcases q.written_cases with ⟨u, rfl, hu⟩ | hq'
  · have htu : t ++ '\'' :: r = u ++ '\'' :: s := by simpa [written] using h
    rcases append_cons_cases htu with ⟨rfl, hrs⟩ | ⟨x, rfl, rfl⟩ | ⟨x, rfl, rfl⟩
    · exact ⟨rfl, hrs⟩
    · exact absurd hr hq.not_closes
    · exact absurd hs hp.not_closes
  · rw [ht] at h
    exact absurd h (quoted_ne _ s q hq')
  · rw [hu] at h
    exact absurd h.symm (quoted_ne _ r p hp')
  · obtain ⟨hpq, hrs⟩ := append_inj_of_kind hp' hq' (closed r hr) (closed s hs) h
    exact ⟨written_injective hpq, hrs⟩

/-- A part with its end, read as text in front of an equals sign, makes that text begin like a
part. -/
theorem WellFormed.opens {place : PartPlace} {p : KeyPart} {r x y : Text} (hp : p.WellFormed)
    (hr : place.Closes r) (h : p.written ++ r = x ++ '=' :: y) : place.Opens x := by
  rcases p.written_cases with ⟨t, rfl, ht⟩ | numeral
  · rw [ht] at h
    cases x with
    | nil => cases (List.cons.inj h).1
    | cons c x =>
      rw [← (List.cons.inj h).1]
      exact .inl ⟨x, rfl⟩
  · have number (z : Text) (hx : x = p.written ++ z) (hz : r = z ++ '=' :: y) :
        place.Opens x := by
      rw [hz] at hr
      obtain ⟨m, hm, hmz⟩ := hr.exists_prefix (.inr rfl)
      rw [hx]
      exact .inr ⟨p, hp, m, hm, (List.prefix_append_right_inj _).2 hmz⟩
    rcases List.append_eq_append_iff.1 h with ⟨z, hx, hz⟩ | ⟨z, hp', hz⟩
    · exact number z hx hz
    · cases z with
      | nil => exact number [] (by rw [hp', List.append_nil, List.append_nil]) hz.symm
      | cons c z =>
        have hc : isNumeral '=' = true := by
          apply numeral
          rw [hp', (List.cons.inj hz).1]
          exact List.mem_append_right x List.mem_cons_self
        cases hc

end KeyPart

/-! ## Keys -/

namespace EntityKey

/-- Behind no equals sign in the name stands what looks like a part, and the part is legible. -/
def EntryLegible (entry : Text × KeyPart) : Prop :=
  (∀ rest, '=' :: rest <:+ entry.1 → ¬ inEntry.Opens rest) ∧ entry.2.Legible inEntry

/-- The parts and names are legible, and the key does not begin like a part of its own. -/
def Legible : EntityKey → Prop
  | single p => p.Legible alone
  | composite entries =>
    (∀ entry ∈ entries.head?, ¬ alone.Opens entry.1) ∧ ∀ entry ∈ entries, EntryLegible entry

/-- A legible entry whose part is one that keys have. -/
structure Readable (entry : Text × KeyPart) : Prop where
  legible : EntryLegible entry
  wellFormed : entry.2.WellFormed

theorem EntryLegible.ne_append {entry : Text × KeyPart} (h : EntryLegible entry) {p : KeyPart}
    (hp : p.WellFormed) {name x r y : Text} (hr : inEntry.Closes r)
    (hx : entry.1 = name ++ '=' :: x) : p.written ++ r ≠ x ++ '=' :: y := by
  intro hpart
  exact h.1 x ⟨name, hx.symm⟩ (hp.opens hr hpart)

theorem writtenEntry_append_inj {e f : Text × KeyPart} {r s : Text} (he : Readable e)
    (hf : Readable f) (hr : inEntry.Closes r) (hs : inEntry.Closes s)
    (h : writtenEntry e ++ r = writtenEntry f ++ s) : e = f ∧ r = s := by
  have hef : e.1 ++ '=' :: (e.2.written ++ r) = f.1 ++ '=' :: (f.2.written ++ s) := by
    simpa [writtenEntry] using h
  rcases append_cons_cases hef with ⟨hname, hpart⟩ | ⟨x, hx, hpart⟩ | ⟨x, hx, hpart⟩
  · obtain ⟨hvalue, hrs⟩ := KeyPart.written_append_inj he.legible.2 hf.legible.2 hr hs hpart
    exact ⟨Prod.ext hname hvalue, hrs⟩
  · exact absurd hpart (hf.legible.ne_append he.wellFormed hr hx)
  · exact absurd hpart (he.legible.ne_append hf.wellFormed hs hx)

/-- The entries behind the first one. -/
def furtherEntries (entries : List (Text × KeyPart)) : Text :=
  entries.flatMap fun entry => ',' :: writtenEntry entry

theorem joinWith_writtenEntry (e : Text × KeyPart) (entries : List (Text × KeyPart)) :
    joinWith [','] ((e :: entries).map writtenEntry) =
      writtenEntry e ++ furtherEntries entries := by
  induction entries generalizing e with
  | nil => simp [furtherEntries]
  | cons f entries ih =>
    have hf := ih f
    simp only [List.map_cons] at hf ⊢
    rw [joinWith_cons_cons, hf]
    simp [furtherEntries]

theorem closes_furtherEntries (entries : List (Text × KeyPart)) {r : Text} (hr : alone.Closes r) :
    inEntry.Closes (furtherEntries entries ++ r) := by
  cases entries with
  | nil => exact closes_inEntry hr
  | cons e entries =>
    refine .inr ⟨",", List.mem_cons_self, writtenEntry e ++ (furtherEntries entries ++ r), ?_⟩
    simp [furtherEntries]

theorem furtherEntries_append_inj {es fs : List (Text × KeyPart)} {r s : Text}
    (hes : ∀ e ∈ es, Readable e) (hfs : ∀ f ∈ fs, Readable f) (hr : alone.Closes r)
    (hs : alone.Closes s) (h : furtherEntries es ++ r = furtherEntries fs ++ s) :
    es = fs ∧ r = s := by
  -- A comma goes on with an entry, the closing parenthesis does not.
  have comma_ne (e : Text × KeyPart) (rest : List (Text × KeyPart)) (t u : Text)
      (hu : alone.Closes u) : furtherEntries (e :: rest) ++ t ≠ u := by
    rintro rfl
    rcases hu with hu | ⟨m, hm, hu⟩
    · simp [furtherEntries] at hu
    · rw [List.mem_singleton.1 hm] at hu
      simp [furtherEntries] at hu
  induction es generalizing fs with
  | nil =>
    cases fs with
    | nil => exact ⟨rfl, h⟩
    | cons f fs => exact absurd h.symm (comma_ne f fs s r hr)
  | cons e es ih =>
    cases fs with
    | nil => exact absurd h (comma_ne e es r s hs)
    | cons f fs =>
      have hef : writtenEntry e ++ (furtherEntries es ++ r) =
          writtenEntry f ++ (furtherEntries fs ++ s) := by
        simpa [furtherEntries] using h
      obtain ⟨he, hes'⟩ := List.forall_mem_cons.1 hes
      obtain ⟨hf, hfs'⟩ := List.forall_mem_cons.1 hfs
      obtain ⟨rfl, hrest⟩ := writtenEntry_append_inj he hf (closes_furtherEntries es hr)
        (closes_furtherEntries fs hs) hef
      obtain ⟨rfl, hrs⟩ := ih hes' hfs' hrest
      exact ⟨rfl, hrs⟩

theorem written_composite_cons {e : Text × KeyPart} {entries : List (Text × KeyPart)} {t : Text}
    (h : (composite (e :: entries)).written = .ok t) :
    t = writtenEntry e ++ furtherEntries entries := by
  rw [← joinWith_writtenEntry]
  simp only [written] at h
  split at h
  · cases h
  · exact (Except.ok.inj h).symm

/-- A key that does not begin like a part is no single one. -/
theorem written_single_ne {p : KeyPart} {e : Text × KeyPart} {r s : Text} (hp : p.WellFormed)
    (he : ¬ alone.Opens e.1) (hr : alone.Closes r) : p.written ++ r ≠ writtenEntry e ++ s := by
  intro h
  have hname : p.written ++ r = e.1 ++ '=' :: (e.2.written ++ s) := by
    simpa [writtenEntry] using h
  exact he (hp.opens hr hname)

theorem readable_of_composite {entries : List (Text × KeyPart)}
    (hk : (composite entries).WellFormed) (legible : (composite entries).Legible) :
    ∀ e ∈ entries, Readable e :=
  fun e he => ⟨legible.2 e he, hk.2 e he⟩

theorem written_append_inj {k l : EntityKey} {t u r s : Text} (hk : k.WellFormed)
    (hl : l.WellFormed) (hkl : k.Legible) (hll : l.Legible) (hkt : k.written = .ok t)
    (hlu : l.written = .ok u) (hr : alone.Closes r) (hs : alone.Closes s)
    (h : t ++ r = u ++ s) : k = l ∧ r = s := by
  cases k with
  | single p =>
    obtain rfl := Except.ok.inj hkt
    cases l with
    | single q =>
      obtain rfl := Except.ok.inj hlu
      obtain ⟨rfl, hrs⟩ := KeyPart.written_append_inj hkl hll hr hs h
      exact ⟨rfl, hrs⟩
    | composite fs =>
      obtain ⟨f, fs, rfl⟩ := List.exists_cons_of_ne_nil hl.1
      rw [written_composite_cons hlu, List.append_assoc] at h
      exact absurd h (written_single_ne hk (hll.1 f rfl) hr)
  | composite es =>
    obtain ⟨e, es, rfl⟩ := List.exists_cons_of_ne_nil hk.1
    rw [written_composite_cons hkt, List.append_assoc] at h
    cases l with
    | single q =>
      obtain rfl := Except.ok.inj hlu
      exact absurd h.symm (written_single_ne hl (hkl.1 e rfl) hs)
    | composite fs =>
      obtain ⟨f, fs, rfl⟩ := List.exists_cons_of_ne_nil hl.1
      rw [written_composite_cons hlu, List.append_assoc] at h
      obtain ⟨he, hes⟩ := List.forall_mem_cons.1 (readable_of_composite hk hkl)
      obtain ⟨hf, hfs⟩ := List.forall_mem_cons.1 (readable_of_composite hl hll)
      obtain ⟨rfl, hrest⟩ := writtenEntry_append_inj he hf (closes_furtherEntries es hr)
        (closes_furtherEntries fs hs) h
      obtain ⟨rfl, hrs⟩ := furtherEntries_append_inj hes hfs hr hs hrest
      exact ⟨rfl, hrs⟩

end EntityKey

end ServiceGateway
