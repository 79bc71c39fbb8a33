import ServiceGateway.Proofs.NameText

/-!
# Folding a namespace

Only a capital sigma looks at what stands around it, and nothing looks across a slash, which is
neither cased nor case-ignorable. So a text with slashes is lower-cased segment by segment, and the
slashes stay where they are: no other character turns into one. The namespace of a resolved name,
whose segments are lower-cased one by one, is therefore the text in front of the entity lower-cased
at once.
-/
namespace ServiceGateway

/-! ## Lower-casing around a slash -/

theorem lowerChar_slash : lowerChar '/' = ['/'] := by decide +kernel

theorem beginsCased_slash (rest : Text) : beginsCased ('/' :: rest) = false := by
  rw [beginsCased, slash_caseless.2, slash_caseless.1]
  rfl

theorem beginsCased_append_slash (t rest : Text) :
    beginsCased (t ++ '/' :: rest) = beginsCased t := by
  induction t with
  | nil => exact beginsCased_slash rest
  | cons c t ih => rw [List.cons_append, beginsCased, beginsCased, ih]

theorem lowerAfter_slash (b : Bool) (rest : Text) :
    lowerAfter b ('/' :: rest) = '/' :: lowerAfter false rest := by
  rw [lowerAfter, slash_caseless.1, slash_caseless.2, if_neg (by decide), lowerChar_slash]
  rfl

/-- In front of a slash a text is lower-cased as if it ended there, and behind it as if it began. -/
theorem lowerAfter_append_slash (b : Bool) (t rest : Text) :
    lowerAfter b (t ++ '/' :: rest) = lowerAfter b t ++ '/' :: lowerAfter false rest := by
  induction t generalizing b with
  | nil => exact lowerAfter_slash b rest
  | cons c t ih =>
    rw [List.cons_append, lowerAfter, lowerAfter, beginsCased_append_slash, ih, List.append_assoc]

theorem lowerCase_append_slash (t rest : Text) :
    lowerCase (t ++ '/' :: rest) = lowerCase t ++ '/' :: lowerCase rest :=
  lowerAfter_append_slash false t rest

/-! ## Segments and slashes -/

theorem lowerCase_joinSegments (ts : List Text) :
    lowerCase (joinSegments ts) = joinSegments (ts.map lowerCase) := by
  induction ts with
  | nil => rfl
  | cons t ts ih =>
    rw [joinSegments_cons, List.map_cons, joinSegments_cons]
    cases ts with
    | nil => rw [List.map_nil, tailOf, List.append_nil, List.append_nil]
    | cons u ts => rw [tailOf, lowerCase_append_slash, ih, List.map_cons, tailOf]

theorem segments_lowerCase (t : Text) : segments (lowerCase t) = (segments t).map lowerCase := by
  have pieces : ∀ s ∈ (segments t).map lowerCase, '/' ∉ s := by
    intro s hs
    obtain ⟨u, hu, rfl⟩ := List.mem_map.1 hs
    exact slash_notMem_lowerCase (slash_notMem_of_mem_segments hu)
  have nonempty : (segments t).map lowerCase ≠ [] := by
    rw [Ne, List.map_eq_nil_iff]
    exact List.splitOn_ne_nil '/' t
  rw [← segments_joinSegments pieces nonempty, ← lowerCase_joinSegments, joinSegments_segments]

theorem count_slash_lowerAfter (b : Bool) (t : Text) :
    (lowerAfter b t).count '/' = t.count '/' := by
  induction t generalizing b with
  | nil => rfl
  | cons c t ih =>
    by_cases hc : c = '/'
    · rw [hc, lowerAfter_slash, List.count_cons_self, List.count_cons_self, ih]
    · -- no image of another character holds a slash, nor does one of the small sigmas
      have image : '/' ∉ if c = 'Σ' then [if b && !beginsCased t then 'ς' else 'σ']
          else lowerChar c := by
        split
        · split <;> decide
        · exact fun hslash => hc (eq_of_mem_lowerChar hslash (by decide)).symm
      rw [lowerAfter, List.count_append, List.count_eq_zero.2 image, ih, Nat.zero_add,
        List.count_cons_of_ne hc]

/-! ## Namespaces -/

/-- Texts with a slash behind each are segments, with an empty one at the end. -/
theorem flatMap_slash_eq (ts : List Text) :
    ts.flatMap (· ++ ['/']) = joinSegments (ts ++ [[]]) := by
  rw [joinSegments_append_cons, tailOf, List.append_nil, List.append_nil]

theorem lowerCase_flatMap_slash (ts : List Text) :
    lowerCase (ts.flatMap (· ++ ['/'])) = (ts.map lowerCase).flatMap (· ++ ['/']) := by
  rw [flatMap_slash_eq, lowerCase_joinSegments, List.map_append, flatMap_slash_eq]
  rfl

namespace RouteForm

/-- The text in front of the entity. -/
def scopeText (f : RouteForm) : Text := f.scope.flatMap (· ++ ['/'])

theorem scopeText_ends (f : RouteForm) :
    f.scopeText = [] ∨ f.scopeText.getLast? = some '/' := by
  rw [scopeText]
  rcases List.eq_nil_or_concat f.scope with hscope | ⟨scope, s, hscope⟩
  · exact .inl (hscope ▸ rfl)
  · rw [hscope, List.concat_eq_append, List.flatMap_append, List.flatMap_singleton,
      ← List.append_assoc]
    exact .inr List.getLast?_concat

theorem text_name (f : RouteForm) :
    f.resolution.name.text = lowerCase f.scopeText ++ f.entity := by
  rw [ServiceName.text_eq, scopeText, lowerCase_flatMap_slash]
  rfl

end RouteForm

theorem canonicalName?_eq_some_iff_form {path mount t : Text} :
    canonicalName? path mount = some t ↔
      ∃ f : RouteForm, f.Valid ∧ path = slashEnded mount ++ f.text ∧
        t = lowerCase f.scopeText ++ f.entity := by
  rw [canonicalName?_eq_some_iff]
  simp only [resolveName?_eq_some_iff, scan_eq_ok_iff, resolve_eq_ok_iff]
  constructor
  · intro hex
    obtain ⟨q, ⟨remainder, f, hf, hpath, hr⟩, rfl⟩ := hex
    obtain rfl : q = f.resolution.name := congrArg Resolution.name hr
    exact ⟨f, hf, hpath, f.text_name⟩
  · intro hex
    obtain ⟨f, hf, hpath, rfl⟩ := hex
    exact ⟨f.resolution.name, ⟨f.remainder, f, hf, hpath, rfl⟩, f.text_name⟩

/-- Over all paths and mount points. A path has a canonical name exactly if the scan, which
lower-cases segment by segment, ends in a name. The canonical name is then the text in front of the
entity, lower-cased at once, and the entity as it is. In any text lower-casing keeps the number of
slashes and the segments between them in their places. -/
theorem canonicalName_folds_at_once (path mount : Text) :
    (∃ outcome, scan path mount = .ok outcome ∧
      canonicalName? path mount = outcome.toOption.map (·.name.text)) ∧
    (∀ t, canonicalName? path mount = some t ↔
      ∃ f : RouteForm, f.Valid ∧
        path = slashEnded mount ++ (f.scopeText ++ f.entity ++ f.tail) ∧
        t = lowerCase f.scopeText ++ f.entity) ∧
    {f : RouteForm | f.Valid ∧
      path = slashEnded mount ++ (f.scopeText ++ f.entity ++ f.tail)}.Subsingleton ∧
    (∀ f : RouteForm, (f.scopeText = [] ∨ f.scopeText.getLast? = some '/') ∧
      lowerCase f.scopeText = (f.scope.map lowerCase).flatMap (· ++ ['/'])) ∧
    ∀ t : Text, lowerCase t = joinSegments ((segments t).map lowerCase) ∧
      segments (lowerCase t) = (segments t).map lowerCase ∧
      (lowerCase t).count '/' = t.count '/' := by
  refine ⟨⟨resolve path mount, scan_eq path mount, ?_⟩, fun t => canonicalName?_eq_some_iff_form,
    subsingleton_form path mount, fun f => ⟨f.scopeText_ends, lowerCase_flatMap_slash f.scope⟩,
    fun t => ⟨?_, segments_lowerCase t, count_slash_lowerAfter false t⟩⟩
  · rw [canonicalName?, resolveName?, Option.map_map]
    rfl
  · rw [← lowerCase_joinSegments, joinSegments_segments]

/-- A sigma in front of a slash is final whatever comes behind the slash, one behind it is not. -/
example : canonicalName? "/raw/\u039f\u03a3/\u03a3\u039f\u03a3/Orders/7" "/raw" =
    some "\u03bf\u03c2/\u03c3\u03bf\u03c2/Orders".toList := by
  decide +kernel

end ServiceGateway
