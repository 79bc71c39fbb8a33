import ServiceGateway.Proofs.RoutingGrammar

/-!
# Names and their texts

A name is read from its text exactly if none of its parts holds a slash and the checks of names
accept them, and nothing else is read from any text. Both are so for every name that a path resolves
to: its segments are pieces of the path between slashes, and lower-casing brings in no slash, leaves
nothing empty and changes nothing a second time. So a resolved name and its text say the same.
-/
namespace ServiceGateway

namespace ServiceName

/-- No part of the name is cut where its text is. -/
def SlashFree (q : ServiceName) : Prop := ∀ s ∈ q.scope ++ [q.name], '/' ∉ s

theorem segments_text {q : ServiceName} (h : q.SlashFree) :
    segments q.text = q.scope ++ [q.name] :=
  segments_joinSegments h (by simp)

theorem parse_text {q : ServiceName} (hw : q.WellFormed) (hs : q.SlashFree) :
    parse q.text = .ok q := by
  have parts : (segments q.text).dropLast = q.scope ∧
      (segments q.text).getLast?.getD [] = q.name := by
    rw [segments_text hs]
    simp
  rw [parse, parts.1, parts.2]
  exact ofParts_eq_ok_iff.2 ⟨rfl, hw⟩

/-- What is read from a text is made of its segments, so nothing in it is cut, and joining them
gives the text back. Well-formed names are not all read from their texts: a slash inside a part
becomes one between parts. -/
theorem parse_eq_ok_iff {t : Text} {q : ServiceName} :
    parse t = .ok q ↔ q.WellFormed ∧ q.SlashFree ∧ q.text = t := by
  constructor
  · intro h
    obtain ⟨rfl, hw⟩ := ofParts_eq_ok_iff.1 h
    have parts : (segments t).dropLast ++ [(segments t).getLast?.getD []] = segments t := by
      have hne : segments t ≠ [] := List.splitOn_ne_nil '/' t
      rw [List.getLast?_eq_some_getLast hne, Option.getD_some, List.dropLast_concat_getLast hne]
    refine ⟨hw, fun s hs => ?_, ?_⟩
    · exact slash_notMem_of_mem_segments (parts ▸ hs)
    · rw [text, parts, joinSegments_segments]
  · rintro ⟨hw, hs, rfl⟩
    exact parse_text hw hs

theorem parse_text_eq_ok_iff {q : ServiceName} (h : q.WellFormed) :
    parse q.text = .ok q ↔ q.SlashFree := by
  rw [parse_eq_ok_iff]
  exact ⟨fun hq => hq.2.1, fun hs => ⟨h, hs, rfl⟩⟩

theorem slashFree_iff {q : ServiceName} : q.SlashFree ↔ '/' ∉ q.name ∧ ∀ s ∈ q.scope, '/' ∉ s := by
  rw [SlashFree, List.forall_mem_append, List.forall_mem_singleton, and_comm]

theorem text_eq (q : ServiceName) : q.text = q.scope.flatMap (· ++ ['/']) ++ q.name := by
  rw [text, joinSegments_append_cons, tailOf, List.append_nil]

/-- The texts that are read as some name. -/
theorem exists_parse_eq_ok_iff {t : Text} :
    (∃ q, parse t = .ok q) ↔
      ∃ (scope : List Text) (name : Text),
        t = scope.flatMap (· ++ ['/']) ++ name ∧ (name ≠ [] ∧ '/' ∉ name) ∧
          ∀ s ∈ scope, (s ≠ [] ∧ '/' ∉ s) ∧ lowerCase s = s := by
  simp only [parse_eq_ok_iff, slashFree_iff]
  constructor
  · rintro ⟨q, ⟨hname, hscope⟩, ⟨hslash, hscope'⟩, rfl⟩
    exact ⟨q.scope, q.name, text_eq q, ⟨hname, hslash⟩,
      fun s hs => ⟨⟨(hscope s hs).1, hscope' s hs⟩, (hscope s hs).2⟩⟩
  · rintro ⟨scope, name, rfl, ⟨hname, hslash⟩, hscope⟩
    exact ⟨⟨scope, name⟩, ⟨hname, fun s hs => ⟨(hscope s hs).1.1, (hscope s hs).2⟩⟩,
      ⟨hslash, fun s hs => (hscope s hs).1.2⟩, text_eq ⟨scope, name⟩⟩

/-- Where reading the text of a name does not give the name, it is refused or gives another one. -/
theorem parse_text_cases (q : ServiceName) :
    parse q.text = .ok q ∨ (∃ fault, parse q.text = .error fault) ∨
      ∃ other, other ≠ q ∧ parse q.text = .ok other := by
  cases parse q.text with
  | error fault => exact .inr (.inl ⟨fault, rfl⟩)
  | ok other =>
    by_cases h : other = q
    · exact .inl (h ▸ rfl)
    · exact .inr (.inr ⟨other, h, rfl⟩)

end ServiceName

/-- Over all texts and names. A text is read exactly if it is segments in small letters with a slash
behind each and an entity name, none of them empty; what is read has it for its text. A name that
the checks accept is read from its text exactly if no part of it holds a slash, and then no other
name of this kind has the same text. Otherwise reading is refused or gives another name. -/
theorem name_read_iff_slashFree :
    (∀ t : Text, (∃ q, ServiceName.parse t = .ok q) ↔
      ∃ (scope : List Text) (name : Text),
        t = scope.flatMap (· ++ ['/']) ++ name ∧ (name ≠ [] ∧ '/' ∉ name) ∧
          ∀ s ∈ scope, (s ≠ [] ∧ '/' ∉ s) ∧ lowerCase s = s) ∧
    (∀ t q, ServiceName.parse t = .ok q → q.text = t) ∧
    ∀ scope name q, ServiceName.ofParts scope name = .ok q →
      (ServiceName.parse q.text = .ok q ↔ '/' ∉ name ∧ ∀ s ∈ scope, '/' ∉ s) ∧
      ('/' ∉ name ∧ (∀ s ∈ scope, '/' ∉ s) → ∀ other : ServiceName, other.WellFormed →
        other.SlashFree → other.text = q.text → other = q) ∧
      ('/' ∈ name ∨ (∃ s ∈ scope, '/' ∈ s) →
        (∃ fault, ServiceName.parse q.text = .error fault) ∨
          ∃ other, other ≠ q ∧ ServiceName.parse q.text = .ok other) := by
  refine ⟨fun t => ServiceName.exists_parse_eq_ok_iff,
    fun t q h => (ServiceName.parse_eq_ok_iff.1 h).2.2, fun scope name q h => ?_⟩
  obtain ⟨rfl, hw⟩ := ServiceName.ofParts_eq_ok_iff.1 h
  have read_iff := (ServiceName.parse_text_eq_ok_iff hw).trans ServiceName.slashFree_iff
  refine ⟨read_iff, fun hs other hother hfree htext => ?_, fun hslash => ?_⟩
  · have read := ServiceName.parse_text hother hfree
    rw [htext, read_iff.2 hs] at read
    exact (Except.ok.inj read).symm
  · refine (ServiceName.parse_text_cases _).resolve_left fun read => ?_
    obtain ⟨hname, hscope⟩ := read_iff.1 read
    rcases hslash with hs | ⟨s, hs, hs'⟩
    · exact hname hs
    · exact hscope s hs hs'

/-- A name with a slash in its namespace is read as another one with the same text, which is read as
itself. -/
theorem name_read_sales :
    ServiceName.parse "sales/eu/Orders" = .ok ⟨["sales", "eu"], "Orders"⟩ ∧
    (⟨["sales", "eu"], "Orders"⟩ : ServiceName).text = "sales/eu/Orders" ∧
    ServiceName.ofParts ["sales/eu"] "Orders" = .ok ⟨["sales/eu"], "Orders"⟩ ∧
    ((∃ fault, ServiceName.parse (⟨["sales/eu"], "Orders"⟩ : ServiceName).text = .error fault) ∨
      ∃ other, other ≠ ⟨["sales/eu"], "Orders"⟩ ∧
        ServiceName.parse (⟨["sales/eu"], "Orders"⟩ : ServiceName).text = .ok other) := by
  have accepted : ServiceName.ofParts ["sales/eu"] "Orders" = .ok ⟨["sales/eu"], "Orders"⟩ := by
    decide +kernel
  have read : ServiceName.parse "sales/eu/Orders" = .ok ⟨["sales", "eu"], "Orders"⟩ := by
    decide +kernel
  exact ⟨read, name_read_iff_slashFree.2.1 _ _ read, accepted,
    (name_read_iff_slashFree.2.2 _ _ _ accepted).2.2 (.inr ⟨_, List.mem_cons_self, by decide⟩)⟩

/-! ## Resolved names -/

namespace RouteForm.Valid

variable {f : RouteForm}

theorem slashFree_name (h : f.Valid) : f.resolution.name.SlashFree := by
  intro s hs
  rcases List.mem_append.1 hs with hs | hs
  · obtain ⟨t, ht, rfl⟩ := List.mem_map.1 hs
    exact slash_notMem_lowerCase (h.scope t ht).2.1
  · rw [List.mem_singleton.1 hs]
    exact h.entity.slash_notMem

theorem wellFormed_name (h : f.Valid) : f.resolution.name.WellFormed := by
  refine ⟨h.entity.ne_nil, fun s hs => ?_⟩
  obtain ⟨t, ht, rfl⟩ := List.mem_map.1 hs
  exact ⟨fun e => (h.scope t ht).1 (lowerCase_eq_nil.1 e), lowerCase_lowerCase t⟩

theorem parse_text_name (h : f.Valid) :
    ServiceName.parse f.resolution.name.text = .ok f.resolution.name :=
  ServiceName.parse_text h.wellFormed_name h.slashFree_name

end RouteForm.Valid

/-- What the resolver finds is the name that the scan with its checks ends in. -/
theorem resolveName?_eq_some_iff {path mount : Text} {q : ServiceName} :
    resolveName? path mount = some q ↔ ∃ remainder, scan path mount = .ok (.ok ⟨q, remainder⟩) := by
  simp only [scan_eq_ok_iff]
  rw [resolveName?, resolve?]
  cases resolve path mount with
  | error cause => simp [Except.toOption]
  | ok r =>
    simp only [Except.toOption, Option.map_some, Option.some.injEq, Except.ok.injEq]
    constructor
    · rintro rfl
      exact ⟨r.remainder, rfl⟩
    · rintro ⟨remainder, rfl⟩
      rfl

theorem parse_text_of_resolveName? {path mount : Text} {q : ServiceName}
    (h : resolveName? path mount = some q) : ServiceName.parse q.text = .ok q := by
  obtain ⟨remainder, hscan⟩ := resolveName?_eq_some_iff.1 h
  obtain ⟨f, hf, -, hr⟩ := resolve_eq_ok_iff.1 (scan_eq_ok_iff.1 hscan)
  obtain rfl : q = f.resolution.name := congrArg Resolution.name hr
  exact hf.parse_text_name

theorem canonicalName?_eq_some_iff {path mount t : Text} :
    canonicalName? path mount = some t ↔ ∃ q, resolveName? path mount = some q ∧ q.text = t :=
  Option.map_eq_some_iff

/-- Two paths have one canonical text exactly if they resolve to one name. -/
theorem canonicalName?_eq_iff {path mount other otherMount : Text} :
    canonicalName? path mount = canonicalName? other otherMount ↔
      resolveName? path mount = resolveName? other otherMount := by
  constructor
  · intro h
    unfold canonicalName? at h
    cases hp : resolveName? path mount with
    | none =>
      rw [hp, Option.map_none, eq_comm, Option.map_eq_none_iff] at h
      exact h.symm
    | some q =>
      rw [hp, Option.map_some, eq_comm, Option.map_eq_some_iff] at h
      obtain ⟨r, hr, htext⟩ := h
      have hq := parse_text_of_resolveName? hp
      rw [← htext, parse_text_of_resolveName? hr] at hq
      rw [hr, Except.ok.inj hq]
  · intro h
    rw [canonicalName?, canonicalName?, h]

/-- Over all paths and mount points: there is a canonical text exactly if the path resolves, which
never fails in the checks of the name; the text is read as the name it came from; and two paths have
one text exactly if they have one name, and then both services are hidden or neither is. -/
theorem canonicalName_identifies (path mount : Text) :
    (∃ outcome, scan path mount = .ok outcome ∧
      resolveName? path mount = outcome.toOption.map (·.name)) ∧
    (canonicalName? path mount = none ↔ resolveName? path mount = none) ∧
    (∀ t, canonicalName? path mount = some t →
      ∃ q, ServiceName.parse t = .ok q ∧ resolveName? path mount = some q) ∧
    ∀ other otherMount,
      (canonicalName? path mount = canonicalName? other otherMount ↔
        resolveName? path mount = resolveName? other otherMount) ∧
      (canonicalName? path mount = canonicalName? other otherMount →
        (resolveName? path mount).map (·.isHidden) =
          (resolveName? other otherMount).map (·.isHidden)) := by
  refine ⟨⟨resolve path mount, scan_eq path mount, rfl⟩, Option.map_eq_none_iff, fun t ht => ?_,
    fun other otherMount => ⟨canonicalName?_eq_iff, fun h => ?_⟩⟩
  · obtain ⟨q, hq, rfl⟩ := canonicalName?_eq_some_iff.1 ht
    exact ⟨q, parse_text_of_resolveName? hq, hq⟩
  · rw [canonicalName?_eq_iff.1 h]

/-- A capital whose small form is two characters. -/
theorem canonicalName_identifies_dotted :
    canonicalName? "/raw/\u0130LCE/Orders/7" "/raw" = some "i\u0307lce/Orders".toList ∧
    ∃ q, ServiceName.parse "i\u0307lce/Orders" = .ok q ∧
      resolveName? "/raw/\u0130LCE/Orders/7" "/raw" = some q := by
  have text : canonicalName? "/raw/\u0130LCE/Orders/7" "/raw" =
      some "i\u0307lce/Orders".toList := by
    decide +kernel
  exact ⟨text, (canonicalName_identifies "/raw/\u0130LCE/Orders/7" "/raw").2.2.1 _ text⟩

end ServiceGateway
