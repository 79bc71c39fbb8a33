import ServiceGateway.Proofs.NameText

/-!
# Canonical names

A scan ends in a well-formed name or in none. The text of such a name is not always read as the same
name again: a namespace segment may look like an entity once it is in small letters. The segments
that do are known exactly. They begin with an underscore and would be entity tokens but for Kelvin
signs, whose small form is the ASCII letter. The names that are found again from an address put
together of them and a remainder are described for any parts, scanned or not.
-/
namespace ServiceGateway

/-! ## Well-formed results -/

/-- Over all paths and mount points: no scan ends in a refused name, and the parts of the names that
it finds are as the grammar of names has them. -/
theorem scan_ok_wellFormed (path mount : Text) :
    ∃ outcome, scan path mount = .ok outcome ∧ ∀ r, outcome = .ok r →
      ServiceName.ofParts r.name.scope r.name.name = .ok r.name ∧
      (∀ s ∈ r.name.scope, s ≠ [] ∧ '/' ∉ s ∧ lowerCase s = s) ∧
      IsEntityToken r.name.name ∧ (r.remainder = [] ∨ r.remainder.head? = some '/') := by
  refine ⟨resolve path mount, scan_eq path mount, ?_⟩
  intro r hr
  obtain ⟨f, hf, _, rfl⟩ := resolve_eq_ok_iff.1 hr
  have hscope : ∀ s ∈ f.resolution.name.scope, s ≠ [] ∧ '/' ∉ s ∧ lowerCase s = s := by
    intro s hs
    obtain ⟨t, ht, rfl⟩ := List.mem_map.1 hs
    obtain ⟨hne, hslash, _⟩ := hf.scope t ht
    exact ⟨fun e => hne (lowerCase_eq_nil.1 e), slash_notMem_lowerCase hslash,
      lowerCase_lowerCase t⟩
  refine ⟨?_, hscope, hf.entity, ?_⟩
  · exact ServiceName.ofParts_eq_ok_iff.2
      ⟨rfl, hf.entity.ne_nil, fun s hs => ⟨(hscope s hs).1, (hscope s hs).2.2⟩⟩
  · obtain ⟨rest, _, htail⟩ := hf.segments_text
    change f.remainder = [] ∨ f.remainder.head? = some '/'
    rw [RouteForm.remainder_eq htail]
    exact remainderOf_head? rest

/-! ## Segments that turn into entity tokens -/

theorem isEntityRest_iff_toNat {c : Char} :
    isEntityRest c = true ↔ (0x41 ≤ c.toNat ∧ c.toNat ≤ 0x5A) ∨ (0x61 ≤ c.toNat ∧ c.toNat ≤ 0x7A) ∨
      (0x30 ≤ c.toNat ∧ c.toNat ≤ 0x39) ∨ c.toNat = 0x5F ∨ c.toNat = 0x2D := by
  have eq_iff (d : Char) : c = d ↔ c.toNat = d.toNat := by
    rw [← Char.toNat_inj]
  rw [isEntityRest_iff, eq_iff, eq_iff]
  simp only [Char.le_def, UInt32.le_iff_toNat_le]
  rfl

/-- The Kelvin sign is the only character that turns into one of an entity token without being
one. -/
theorem isEntityRest_lowerChar_iff {c : Char} :
    (∀ d ∈ lowerChar c, isEntityRest d = true) ↔ c = '\u212A' ∨ isEntityRest c = true := by
  rcases lowerChar_cases c with ⟨rfl, e⟩ | ⟨m, hm, e⟩ | ⟨hc, e⟩ <;> rw [e]
  · rw [List.forall_mem_cons, List.forall_mem_singleton]
    decide
  · obtain ⟨_, _, hvalid⟩ := smallForm?_bounds hm
    have hkelvin : c = '\u212A' ↔ c.toNat = 0x212A := by
      rw [← Char.toNat_inj]
      rfl
    simp only [List.mem_singleton, forall_eq, isEntityRest_iff_toNat, hkelvin,
      toNat_ofNat_of_isValidChar hvalid]
    have hk (e : c.toNat = 0x212A) : m = 0x6B := by
      rw [e, smallForm?_kelvin] at hm
      exact (Option.some.inj hm).symm
    have hascii := smallForm?_ascii hm
    omega
  · have hkelvin : c ≠ '\u212A' := by
      rintro rfl
      revert hc
      decide +kernel
    simp [hkelvin]

theorem isEntityRest_lowerAfter_iff {b : Bool} {t : Text} :
    (∀ d ∈ lowerAfter b t, isEntityRest d = true) ↔
      ∀ c ∈ t, c = '\u212A' ∨ isEntityRest c = true := by
  induction t generalizing b with
  | nil => simp [lowerAfter]
  | cons c rest ih =>
    rw [lowerAfter, List.forall_mem_append, List.forall_mem_cons, ih]
    refine and_congr_left fun _ => ?_
    split
    · rename_i hc
      subst hc
      split <;> rw [List.forall_mem_singleton] <;> decide
    · exact isEntityRest_lowerChar_iff

/-- An underscore and then characters of entity tokens and Kelvin signs, with one of these at
least. -/
def IsKelvinToken (s : Text) : Prop :=
  ∃ rest, s = '_' :: rest ∧ '\u212A' ∈ rest ∧ ∀ c ∈ rest, c = '\u212A' ∨ isEntityRest c = true

/-- Lower-casing makes the beginning of an entity token from an underscore only. -/
theorem eq_underscore_of_isEntityToken {c : Char} {rest : Text}
    (h : IsEntityToken (lowerCase (c :: rest))) : c = '_' := by
  obtain ⟨d, image, e, hd, _⟩ := h
  have hsmall : IsSmall d := by
    apply isSmall_of_mem_lowerAfter (b := false) (t := c :: rest)
    rw [← lowerCase, e]
    exact List.mem_cons_self
  obtain rfl : d = '_' := by
    rcases hd with ⟨hA, hZ⟩ | rfl
    · exact absurd hsmall (not_isSmall_of_capital hA hZ)
    · rfl
  rw [lowerCase, lowerAfter] at e
  split at e
  · split at e <;> cases e
  · obtain ⟨x, xs, hx⟩ := List.exists_cons_of_ne_nil (lowerChar_ne_nil c)
    rw [hx, List.cons_append] at e
    obtain ⟨rfl, _⟩ := List.cons.inj e
    exact (eq_of_mem_lowerChar (hx ▸ List.mem_cons_self) (by decide)).symm

theorem lowerCase_underscore (rest : Text) :
    lowerCase ('_' :: rest) = '_' :: lowerAfter false rest := by
  have h : lowerChar '_' = ['_'] ∧
      (if isCaseIgnorable '_' then false else isCased '_') = false := by decide +kernel
  rw [lowerCase, lowerAfter, if_neg (by decide), h.1, h.2]
  rfl

theorem isEntityToken_underscore {rest : Text} :
    IsEntityToken ('_' :: rest) ↔ ∀ d ∈ rest, isEntityRest d = true := by
  rw [← isEntityName_iff, isEntityName_cons]
  exact and_iff_right (by decide)

/-- Which segments of a namespace turn into entity tokens. -/
theorem isEntityToken_lowerCase_iff {s : Text} (h : ¬ IsEntityToken s) :
    IsEntityToken (lowerCase s) ↔ IsKelvinToken s := by
  constructor
  · intro ht
    cases s with
    | nil => exact absurd rfl ht.ne_nil
    | cons c rest =>
      obtain rfl := eq_underscore_of_isEntityToken ht
      rw [lowerCase_underscore, isEntityToken_underscore, isEntityRest_lowerAfter_iff] at ht
      rw [isEntityToken_underscore] at h
      refine ⟨rest, rfl, ?_, ht⟩
      by_contra hkelvin
      exact h fun d hd => (ht d hd).resolve_left fun e => hkelvin (e ▸ hd)
  · intro hex
    obtain ⟨rest, rfl, _, hrest⟩ := hex
    rw [lowerCase_underscore, isEntityToken_underscore, isEntityRest_lowerAfter_iff]
    exact hrest

/-! ## Reading a canonical name again -/

theorem RouteForm.Valid.segments_name_text {f : RouteForm} (h : f.Valid) :
    segments f.resolution.name.text = f.scope.map lowerCase ++ [f.entity] :=
  ServiceName.segments_text h.slashFree_name

/-- Segments are read as a name that ends where its own segments end exactly if none of its
namespace stops the reading or changes in it. -/
theorem resolveSegments_name_iff {q : ServiceName} {rest : List Text} {remainder : Text} :
    resolveSegments (q.scope ++ q.name :: rest) = .ok ⟨q, remainder⟩ ↔
      (IsEntityToken q.name ∧ ∀ s ∈ q.scope, IsScopeToken s ∧ lowerCase s = s) ∧
        remainderOf rest = remainder := by
  constructor
  · intro h
    obtain ⟨scope, entity, behind, hsplit, hentity, hscope, hr⟩ := resolveSegments_eq_ok_iff.1 h
    have hlower : q.scope = scope.map lowerCase :=
      congrArg (fun r : Resolution => r.name.scope) hr
    have hremainder : remainder = remainderOf behind := congrArg Resolution.remainder hr
    -- the namespace that was read has as many segments as it had before
    have hlength : q.scope.length = scope.length := by rw [hlower, List.length_map]
    obtain ⟨hsame, htail⟩ := List.append_inj hsplit hlength
    obtain ⟨hname, rfl⟩ := List.cons.inj htail
    have hfixed : scope.map lowerCase = scope.map id := by rw [← hlower, hsame, List.map_id]
    refine ⟨⟨hname ▸ hentity, fun s hs => ?_⟩, hremainder.symm⟩
    rw [hsame] at hs
    exact ⟨hscope s hs, List.map_inj_left.1 hfixed s hs⟩
  · intro h
    obtain ⟨⟨hentity, hscope⟩, rfl⟩ := h
    have hfixed : q.scope.map lowerCase = q.scope.map id :=
      List.map_inj_left.2 fun s hs => (hscope s hs).2
    rw [resolveSegments_of_entity (fun s hs => (hscope s hs).1) hentity, hfixed, List.map_id]

/-- The segments of a canonical name give the name back if none of them has turned into an entity
token. Otherwise the first that has ends the reading, and the namespace comes out shorter. -/
theorem RouteForm.Valid.resolveSegments_name_iff {f : RouteForm} (h : f.Valid) :
    resolveSegments (f.scope.map lowerCase ++ [f.entity]) = .ok ⟨f.resolution.name, []⟩ ↔
      ∀ s ∈ f.scope, ¬ IsEntityToken (lowerCase s) := by
  refine (ServiceGateway.resolveSegments_name_iff (q := f.resolution.name)).trans
    ⟨fun hr s hs => ?_, fun hs => ?_⟩
  · exact (hr.1.2 (lowerCase s) (List.mem_map_of_mem hs)).1.2
  · refine ⟨⟨h.entity, List.forall_mem_map.2 fun s hmem => ?_⟩, rfl⟩
    exact ⟨⟨fun e => (h.scope s hmem).1 (lowerCase_eq_nil.1 e), hs s hmem⟩, lowerCase_lowerCase s⟩

/-- A canonical name is read as itself and nothing else exactly if no segment of the namespace in
the path it came from is an entity token but for Kelvin signs. -/
theorem scan_canonicalName_iff {path mount : Text} {r : Resolution}
    (h : scan path mount = .ok (.ok r)) :
    scan (slashEnded mount ++ r.name.text) mount = .ok (.ok ⟨r.name, []⟩) ↔
      ∃ f : RouteForm, f.Valid ∧ path = slashEnded mount ++ f.text ∧
        ∀ s ∈ f.scope, ¬ IsKelvinToken s := by
  obtain ⟨f, hf, rfl, rfl⟩ := resolve_eq_ok_iff.1 (scan_eq_ok_iff.1 h)
  have kelvin : (∀ s ∈ f.scope, ¬ IsEntityToken (lowerCase s)) ↔
      ∀ s ∈ f.scope, ¬ IsKelvinToken s :=
    forall₂_congr fun s hs => not_congr (isEntityToken_lowerCase_iff (hf.scope s hs).2.2)
  rw [scan_eq_ok_iff, resolve_below, hf.segments_name_text,
    hf.resolveSegments_name_iff, kelvin]
  constructor
  · exact fun hs => ⟨f, hf, rfl, hs⟩
  · intro hex
    obtain ⟨g, hg, hpath, hs⟩ := hex
    obtain rfl := hf.eq_of_text_eq hg (List.append_cancel_left hpath)
    exact hs

/-- Capitals in a namespace do no harm. -/
theorem scan_canonicalName_sales :
    scan "/raw/saLES/eu/Orders/42" "/raw" = .ok (.ok ⟨⟨["sales", "eu"], "Orders"⟩, "/42"⟩) ∧
    (scan (slashEnded "/raw" ++ (⟨["sales", "eu"], "Orders"⟩ : ServiceName).text) "/raw" =
        .ok (.ok ⟨⟨["sales", "eu"], "Orders"⟩, []⟩) ↔
      ∃ f : RouteForm, f.Valid ∧ ("/raw/saLES/eu/Orders/42" : Text) = slashEnded "/raw" ++ f.text ∧
        ∀ s ∈ f.scope, ¬ IsKelvinToken s) :=
  ⟨rfl, scan_canonicalName_iff (r := ⟨⟨["sales", "eu"], "Orders"⟩, "/42"⟩) rfl⟩

/-- A Kelvin sign behind an underscore does: the name is read as another one, which is hidden. -/
theorem scan_kelvin_reads_another :
    scan "/raw/_\u212A/Orders" "/raw/" = .ok (.ok ⟨⟨["_k"], "Orders"⟩, []⟩) ∧
    scan (slashEnded "/raw/" ++ (⟨["_k"], "Orders"⟩ : ServiceName).text) "/raw/" =
      .ok (.ok ⟨⟨[], "_k"⟩, "/Orders"⟩) ∧
    scan (slashEnded "/raw/" ++ (⟨["_k"], "Orders"⟩ : ServiceName).text) "/raw/" ≠
      .ok (.ok ⟨⟨["_k"], "Orders"⟩, []⟩) := by
  have reread : scan (slashEnded "/raw/" ++ (⟨["_k"], "Orders"⟩ : ServiceName).text) "/raw/" =
      .ok (.ok ⟨⟨[], "_k"⟩, "/Orders"⟩) := rfl
  refine ⟨by decide +kernel, reread, ?_⟩
  rw [reread]
  intro h
  have hname := congrArg (fun r : Resolution => r.name.scope) (Except.ok.inj (Except.ok.inj h))
  cases hname

/-! ## Addressing a name -/

theorem remainderOf_segments_eq_iff {t : Text} :
    remainderOf (segments t) = t ↔ t = [] ∨ t.head? = some '/' := by
  rw [remainderOf, joinSegments_segments]
  cases t with
  | nil => simp
  | cons c rest => by_cases hc : c = '/' <;> simp [hc]

theorem ServiceName.SlashFree.segments_text_append {q : ServiceName} (h : q.SlashFree)
    (behind : Text) :
    segments (q.text ++ '/' :: behind) = q.scope ++ q.name :: segments behind := by
  have joined : q.text ++ '/' :: behind = joinSegments (q.scope ++ q.name :: segments behind) := by
    rw [joinSegments_append_cons, q.text_eq]
    cases hs : segments behind with
    | nil => exact absurd hs (List.splitOn_ne_nil '/' behind)
    | cons s rest => rw [tailOf, ← hs, joinSegments_segments]
  rw [joined]
  refine segments_joinSegments (fun s hs => ?_) (by simp)
  rw [List.append_cons, List.mem_append] at hs
  exact hs.elim (h s) slash_notMem_of_mem_segments

/-- A name that the checks accept, whose parts are told apart by the grammar of paths: the entity is
an entity token, and no segment of the namespace is one or holds a slash. -/
structure ServiceName.Addressable (q : ServiceName) : Prop where
  accepted : ofParts q.scope q.name = .ok q
  entity : IsEntityToken q.name
  scope : ∀ s ∈ q.scope, '/' ∉ s ∧ ¬ IsEntityToken s

theorem ServiceName.Addressable.slashFree {q : ServiceName} (h : q.Addressable) : q.SlashFree :=
  slashFree_iff.2 ⟨h.entity.slash_notMem, fun s hs => (h.scope s hs).1⟩

/-- Over all mount points, names and remainders: the text of the name below the mount point, a slash
and the remainder are read as this name with this remainder exactly if the name is addressable and
the remainder is empty or begins with a slash. What else the remainder holds does not matter. -/
theorem scan_address_iff (mount : Text) (q : ServiceName) (remainder : Text) :
    scan (slashEnded mount ++ q.text ++ '/' :: remainder) mount = .ok (.ok ⟨q, remainder⟩) ↔
      q.Addressable ∧ (remainder = [] ∨ remainder.head? = some '/') := by
  rw [scan_eq_ok_iff, List.append_assoc, ← remainderOf_segments_eq_iff]
  constructor
  · intro h
    obtain ⟨f, hf, -, hr⟩ := resolve_eq_ok_iff.1 h
    obtain rfl : q = f.resolution.name := congrArg Resolution.name hr
    rw [resolve_below, hf.slashFree_name.segments_text_append, resolveSegments_name_iff] at h
    obtain ⟨⟨hentity, hscope⟩, hremainder⟩ := h
    have hslash := (ServiceName.slashFree_iff.1 hf.slashFree_name).2
    exact ⟨⟨ServiceName.ofParts_eq_ok_iff.2 ⟨rfl, hf.wellFormed_name⟩, hentity,
      fun s hs => ⟨hslash s hs, (hscope s hs).1.2⟩⟩, hremainder⟩
  · intro h
    obtain ⟨hq, hremainder⟩ := h
    have hw := (ServiceName.ofParts_eq_ok_iff.1 hq.accepted).2
    rw [resolve_below, hq.slashFree.segments_text_append, resolveSegments_name_iff]
    exact ⟨⟨hq.entity, fun s hs => ⟨⟨(hw.2 s hs).1, (hq.scope s hs).2⟩, (hw.2 s hs).2⟩⟩, hremainder⟩

end ServiceGateway
