import Mathlib.Data.Set.Subsingleton
import ServiceGateway.Proofs.SmallForms
import ServiceGateway.RoutingPath

/-!
# The grammar of routing paths

A path resolves below a mount point exactly if it is the mount point, namespace segments with a
slash behind each, an entity token and a tail that is empty or begins with a slash. There is one way
at most to take a path apart like this, and it decides the resolution. Any other path is logged
once, for the first thing that is wrong with it from the left. The scan, which has the name checked
at its end, never meets a name that is refused: lower-cased segments stay as they are.
-/
namespace ServiceGateway

/-! ## Tokens -/

/-- An ASCII capital or an underscore, followed by ASCII letters, digits, underscores and
hyphens. -/
def IsEntityToken (t : Text) : Prop :=
  ∃ c rest, t = c :: rest ∧ (('A' ≤ c ∧ c ≤ 'Z') ∨ c = '_') ∧
    ∀ d ∈ rest, ('A' ≤ d ∧ d ≤ 'Z') ∨ ('a' ≤ d ∧ d ≤ 'z') ∨ ('0' ≤ d ∧ d ≤ '9') ∨
      d = '_' ∨ d = '-'

theorem isUpper_iff {c : Char} : c.isUpper = true ↔ 'A' ≤ c ∧ c ≤ 'Z' := decide_eq_true_iff

theorem isLower_iff {c : Char} : c.isLower = true ↔ 'a' ≤ c ∧ c ≤ 'z' := by
  change (decide ('a' ≤ c) && decide (c ≤ 'z')) = true ↔ _
  rw [Bool.and_eq_true, decide_eq_true_iff, decide_eq_true_iff]

theorem isDigit_iff {c : Char} : c.isDigit = true ↔ '0' ≤ c ∧ c ≤ '9' :=
  Char.isDigit_iff_toNat

theorem isEntityStart_iff {c : Char} :
    isEntityStart c = true ↔ ('A' ≤ c ∧ c ≤ 'Z') ∨ c = '_' := by
  rw [isEntityStart, Bool.or_eq_true, isUpper_iff, beq_iff_eq]

theorem isEntityRest_iff {c : Char} :
    isEntityRest c = true ↔ ('A' ≤ c ∧ c ≤ 'Z') ∨ ('a' ≤ c ∧ c ≤ 'z') ∨ ('0' ≤ c ∧ c ≤ '9') ∨
      c = '_' ∨ c = '-' := by
  have alphanumeric : c.isAlphanum = true ↔
      (c.isUpper = true ∨ c.isLower = true) ∨ c.isDigit = true := by
    change ((c.isUpper || c.isLower) || c.isDigit) = true ↔ _
    rw [Bool.or_eq_true, Bool.or_eq_true]
  simp only [isEntityRest, Bool.or_eq_true, alphanumeric, isUpper_iff, isLower_iff,
    isDigit_iff, beq_iff_eq, or_assoc]

theorem isEntityName_iff {t : Text} : isEntityName t = true ↔ IsEntityToken t := by
  cases t with
  | nil => simp [isEntityName, IsEntityToken]
  | cons c rest =>
    simp only [isEntityName_cons, isEntityStart_iff, isEntityRest_iff, IsEntityToken,
      List.cons.injEq]
    constructor
    · exact fun h => ⟨c, rest, ⟨rfl, rfl⟩, h⟩
    · intro hex
      obtain ⟨_, _, ⟨rfl, rfl⟩, h⟩ := hex
      exact h

instance (t : Text) : Decidable (IsEntityToken t) := decidable_of_iff _ isEntityName_iff

theorem IsEntityToken.ne_nil {t : Text} (h : IsEntityToken t) : t ≠ [] :=
  isEntityName_ne_nil (isEntityName_iff.2 h)

theorem IsEntityToken.slash_notMem {t : Text} (h : IsEntityToken t) : '/' ∉ t := by
  obtain ⟨c, rest, rfl, hc, hrest⟩ := h
  intro hs
  rcases List.mem_cons.1 hs with rfl | hs
  · revert hc
    decide
  · have := hrest '/' hs
    revert this
    decide

/-- What is passed over on the way to the entity. -/
def IsScopeToken (t : Text) : Prop := t ≠ [] ∧ ¬ IsEntityToken t

instance (t : Text) : Decidable (IsScopeToken t) := by
  unfold IsScopeToken
  infer_instance

/-! ## Segments -/

theorem slash_notMem_of_mem_segments {t s : Text} (h : s ∈ segments t) : '/' ∉ s := by
  unfold segments at h
  induction t generalizing s with
  | nil =>
    rw [List.splitOn_nil, List.mem_singleton] at h
    simp [h]
  | cons c rest ih =>
    rw [List.splitOn_cons_eq_if_modifyHead] at h
    cases hr : rest.splitOn '/' with
    | nil => exact absurd hr (List.splitOn_ne_nil '/' rest)
    | cons head others =>
      rw [hr] at h ih
      split at h
      · rcases List.mem_cons.1 h with rfl | h
        · exact List.not_mem_nil
        · exact ih h
      · rename_i hc
        rcases List.mem_cons.1 h with rfl | h
        · simpa [eq_comm] using And.intro (by simpa using hc) (ih List.mem_cons_self)
        · exact ih (List.mem_cons_of_mem head h)

/-- The text of the segments behind another one. -/
def tailOf : List Text → Text
  | [] => []
  | s :: rest => '/' :: joinSegments (s :: rest)

theorem joinSegments_cons (s : Text) (rest : List Text) :
    joinSegments (s :: rest) = s ++ tailOf rest := by
  cases rest with
  | nil => simp [joinSegments, tailOf]
  | cons u rest => simp [joinSegments, tailOf, List.intercalate_cons_cons]

theorem joinSegments_append_cons (scope : List Text) (s : Text) (rest : List Text) :
    joinSegments (scope ++ s :: rest) = scope.flatMap (· ++ ['/']) ++ s ++ tailOf rest := by
  induction scope with
  | nil => exact joinSegments_cons s rest
  | cons u scope ih =>
    have hne : scope ++ s :: rest ≠ [] := by simp
    obtain ⟨v, others, hv⟩ := List.exists_cons_of_ne_nil hne
    rw [List.cons_append, joinSegments_cons, hv, tailOf, ← hv, ih]
    simp

theorem exists_tailOf {tail : Text} (h : tail = [] ∨ tail.head? = some '/') :
    ∃ rest, tail = tailOf rest ∧ ∀ s ∈ rest, '/' ∉ s := by
  rcases h with rfl | h
  · exact ⟨[], rfl, by simp⟩
  · obtain ⟨t, rfl⟩ : ∃ t, tail = '/' :: t := by
      cases tail with
      | nil => cases h
      | cons c t => exact ⟨t, by simp_all⟩
    refine ⟨segments t, ?_, fun s hs => slash_notMem_of_mem_segments hs⟩
    cases hs : segments t with
    | nil => exact absurd hs (List.splitOn_ne_nil '/' t)
    | cons u others => rw [tailOf, ← hs, joinSegments_segments]

/-! ## The forms of paths that resolve -/

/-- A path below a mount point, taken apart. -/
structure RouteForm where
  scope : List Text
  entity : Text
  tail : Text
  deriving DecidableEq, Repr

namespace RouteForm

def text (f : RouteForm) : Text := f.scope.flatMap (· ++ ['/']) ++ f.entity ++ f.tail

structure Valid (f : RouteForm) : Prop where
  scope : ∀ s ∈ f.scope, s ≠ [] ∧ '/' ∉ s ∧ ¬ IsEntityToken s
  entity : IsEntityToken f.entity
  tail : f.tail = [] ∨ f.tail.head? = some '/'

/-- The slash behind the entity goes if nothing follows it or if another slash does. -/
def remainder (f : RouteForm) : Text :=
  match f.tail with
  | ['/'] => []
  | '/' :: '/' :: rest => '/' :: rest
  | tail => tail

def resolution (f : RouteForm) : Resolution :=
  ⟨⟨f.scope.map lowerCase, f.entity⟩, f.remainder⟩

theorem remainder_eq {f : RouteForm} {rest : List Text} (h : f.tail = tailOf rest) :
    f.remainder = remainderOf rest := by
  unfold remainder remainderOf
  rw [h]
  cases rest with
  | nil => rfl
  | cons s others =>
    rw [tailOf]
    cases hj : joinSegments (s :: others) with
    | nil => rfl
    | cons c cs =>
      by_cases hc : c = '/'
      · subst hc
        rfl
      · simp only [hc, ↓reduceIte]
        split
        · simp_all
        · simp_all
        · rfl

/-- The segments of a valid form: none of its parts is cut in the middle. -/
theorem Valid.segments_text {f : RouteForm} (h : f.Valid) :
    ∃ rest, segments f.text = f.scope ++ f.entity :: rest ∧ f.tail = tailOf rest := by
  obtain ⟨rest, htail, hrest⟩ := exists_tailOf h.tail
  refine ⟨rest, ?_, htail⟩
  rw [text, htail, ← joinSegments_append_cons]
  refine segments_joinSegments ?_ (by simp)
  intro s hs
  rcases List.mem_append.1 hs with hs | hs
  · exact (h.scope s hs).2.1
  · rcases List.mem_cons.1 hs with rfl | hs
    · exact h.entity.slash_notMem
    · exact hrest s hs

theorem Valid.isScopeToken {f : RouteForm} (h : f.Valid) : ∀ s ∈ f.scope, IsScopeToken s :=
  fun s hs => ⟨(h.scope s hs).1, (h.scope s hs).2.2⟩

/-- The form of a path whose segments reach an entity. -/
theorem exists_valid {t entity : Text} {scope rest : List Text}
    (ht : segments t = scope ++ entity :: rest) (hscope : ∀ s ∈ scope, IsScopeToken s)
    (hentity : IsEntityToken entity) :
    (⟨scope, entity, tailOf rest⟩ : RouteForm).Valid ∧
      t = (⟨scope, entity, tailOf rest⟩ : RouteForm).text := by
  refine ⟨⟨fun s hs => ?_, hentity, ?_⟩, ?_⟩
  · have hmem : s ∈ segments t := by
      rw [ht]
      exact List.mem_append_left _ hs
    exact ⟨(hscope s hs).1, slash_notMem_of_mem_segments hmem, (hscope s hs).2⟩
  · cases rest with
    | nil => exact .inl rfl
    | cons s rest => exact .inr rfl
  · rw [text, ← joinSegments_append_cons, ← ht, joinSegments_segments]

end RouteForm

/-! ## The reading -/

/-- Any list of segments stops the reading at an entity, at an empty segment or not at all. -/
theorem stop_cases (ts : List Text) :
    (∀ s ∈ ts, IsScopeToken s) ∨
      (∃ scope rest, ts = scope ++ [] :: rest ∧ ∀ s ∈ scope, IsScopeToken s) ∨
      (∃ scope entity rest, ts = scope ++ entity :: rest ∧ IsEntityToken entity ∧
        ∀ s ∈ scope, IsScopeToken s) := by
  induction ts with
  | nil => exact .inl (by simp)
  | cons t ts ih =>
    by_cases hnil : t = []
    · exact .inr (.inl ⟨[], ts, by rw [hnil]; rfl, by simp⟩)
    by_cases hentity : IsEntityToken t
    · exact .inr (.inr ⟨[], t, ts, rfl, hentity, by simp⟩)
    have ht : IsScopeToken t := ⟨hnil, hentity⟩
    rcases ih with h | ⟨scope, rest, rfl, h⟩ | ⟨scope, entity, rest, rfl, he, h⟩
    · exact .inl (List.forall_mem_cons.2 ⟨ht, h⟩)
    · exact .inr (.inl ⟨t :: scope, rest, rfl, List.forall_mem_cons.2 ⟨ht, h⟩⟩)
    · exact .inr (.inr ⟨t :: scope, entity, rest, rfl, he, List.forall_mem_cons.2 ⟨ht, h⟩⟩)

/-- The same resolution inside a namespace. -/
def Resolution.inside (scope : List Text) (r : Resolution) : Resolution :=
  ⟨⟨scope ++ r.name.scope, r.name.name⟩, r.remainder⟩

theorem resolveSegments_scope_append {scope : List Text} (h : ∀ s ∈ scope, IsScopeToken s)
    (ts : List Text) :
    resolveSegments (scope ++ ts) =
      (resolveSegments ts).map (Resolution.inside (scope.map lowerCase)) := by
  induction scope with
  | nil => cases hr : resolveSegments ts <;> simp [hr, Except.map, Resolution.inside]
  | cons s scope ih =>
    obtain ⟨hs, hscope⟩ := List.forall_mem_cons.1 h
    have hname : isEntityName s = false := by
      rw [← Bool.not_eq_true, isEntityName_iff]
      exact hs.2
    rw [List.cons_append, resolveSegments_scope hs.1 hname, ih hscope]
    cases resolveSegments ts <;> rfl

theorem resolveSegments_of_scope {ts : List Text} (h : ∀ s ∈ ts, IsScopeToken s) :
    resolveSegments ts = .error .noEntityName := by
  have := resolveSegments_scope_append h []
  rwa [List.append_nil] at this

theorem resolveSegments_of_empty {scope : List Text} (h : ∀ s ∈ scope, IsScopeToken s)
    (rest : List Text) : resolveSegments (scope ++ [] :: rest) = .error .emptySegment := by
  rw [resolveSegments_scope_append h]
  rfl

theorem resolveSegments_of_entity {scope : List Text} (h : ∀ s ∈ scope, IsScopeToken s)
    {entity : Text} (he : IsEntityToken entity) (rest : List Text) :
    resolveSegments (scope ++ entity :: rest) =
      .ok ⟨⟨scope.map lowerCase, entity⟩, remainderOf rest⟩ := by
  rw [resolveSegments_scope_append h, resolveSegments_entity (isEntityName_iff.2 he)]
  simp [Except.map, Resolution.inside]

theorem resolveSegments_eq_ok_iff {ts : List Text} {r : Resolution} :
    resolveSegments ts = .ok r ↔
      ∃ scope entity rest, ts = scope ++ entity :: rest ∧ IsEntityToken entity ∧
        (∀ s ∈ scope, IsScopeToken s) ∧
        r = ⟨⟨scope.map lowerCase, entity⟩, remainderOf rest⟩ := by
  constructor
  · intro hr
    rcases stop_cases ts with h | ⟨scope, rest, rfl, h⟩ | ⟨scope, entity, rest, rfl, he, h⟩
    · rw [resolveSegments_of_scope h] at hr
      cases hr
    · rw [resolveSegments_of_empty h] at hr
      cases hr
    · rw [resolveSegments_of_entity h he] at hr
      exact ⟨scope, entity, rest, rfl, he, h, (Except.ok.inj hr).symm⟩
  · intro hex
    obtain ⟨scope, entity, rest, rfl, he, h, rfl⟩ := hex
    exact resolveSegments_of_entity h he rest

theorem resolveSegments_eq_emptySegment_iff {ts : List Text} :
    resolveSegments ts = .error .emptySegment ↔
      ∃ scope rest, ts = scope ++ [] :: rest ∧ ∀ s ∈ scope, IsScopeToken s := by
  constructor
  · intro hr
    rcases stop_cases ts with h | h | ⟨scope, entity, rest, rfl, he, h⟩
    · rw [resolveSegments_of_scope h] at hr
      cases hr
    · exact h
    · rw [resolveSegments_of_entity h he] at hr
      cases hr
  · intro hex
    obtain ⟨scope, rest, rfl, h⟩ := hex
    exact resolveSegments_of_empty h rest

theorem resolveSegments_eq_noEntityName_iff {ts : List Text} :
    resolveSegments ts = .error .noEntityName ↔ ∀ s ∈ ts, IsScopeToken s := by
  constructor
  · intro hr
    rcases stop_cases ts with h | ⟨scope, rest, rfl, h⟩ | ⟨scope, entity, rest, rfl, he, h⟩
    · exact h
    · rw [resolveSegments_of_empty h] at hr
      cases hr
    · rw [resolveSegments_of_entity h he] at hr
      cases hr
  · exact resolveSegments_of_scope

/-! ## The scan with the checks of the name -/

/-- The name at the end of a scan passes its checks if the namespace so far does. -/
theorem scanSegments_eq {scope : List Text} (h : ∀ s ∈ scope, s ≠ [] ∧ lowerCase s = s)
    (ts : List Text) :
    scanSegments scope ts = .ok ((resolveSegments ts).map (Resolution.inside scope)) := by
  induction ts generalizing scope with
  | nil => rfl
  | cons t ts ih =>
    by_cases hnil : t = []
    · simp [scanSegments, resolveSegments, hnil, Except.map]
    by_cases hentity : isEntityName t = true
    · have hname : ServiceName.ofParts scope t = .ok ⟨scope, t⟩ :=
        ServiceName.ofParts_eq_ok_iff.2 ⟨rfl, hnil, h⟩
      rw [resolveSegments_entity hentity]
      simp [scanSegments, hnil, hentity, hname, Except.map, Resolution.inside]
    · have hlower : ∀ s ∈ scope ++ [lowerCase t], s ≠ [] ∧ lowerCase s = s := by
        intro s hs
        rcases List.mem_append.1 hs with hs | hs
        · exact h s hs
        · rw [List.mem_singleton.1 hs]
          exact ⟨fun e => hnil (lowerCase_eq_nil.1 e), lowerCase_lowerCase t⟩
      rw [resolveSegments_scope hnil (Bool.not_eq_true _ ▸ hentity)]
      simp only [scanSegments, hnil, ↓reduceIte, hentity, Bool.false_eq_true, ih hlower]
      cases resolveSegments ts <;> simp [Except.map, Resolution.inside, Resolution.within]

/-- The checks of the name refuse nothing that a scan comes to. -/
theorem scan_eq (path mount : Text) : scan path mount = .ok (resolve path mount) := by
  unfold scan resolve
  cases below? (slashEnded mount) path with
  | none => rfl
  | some p =>
    have hstart : ∀ s ∈ ([] : List Text), s ≠ [] ∧ lowerCase s = s := by simp
    simp only [scanSegments_eq hstart]
    cases resolveSegments (segments p) <;> simp [Except.map, Resolution.inside]

theorem scan_eq_ok_iff {path mount : Text} {outcome : Except Unresolved Resolution} :
    scan path mount = .ok outcome ↔ resolve path mount = outcome := by
  rw [scan_eq, Except.ok.injEq]

/-! ## Request paths -/

theorem resolve_cases (path mount : Text) :
    (¬ slashEnded mount <+: path ∧ resolve path mount = .error .outsideMount) ∨
      ∃ p, path = slashEnded mount ++ p ∧ resolve path mount = resolveSegments (segments p) := by
  cases h : below? (slashEnded mount) path with
  | none =>
    refine .inl ⟨?_, by simp [resolve, h]⟩
    intro hex
    obtain ⟨p, rfl⟩ := hex
    rw [below?_append] at h
    cases h
  | some p => exact .inr ⟨p, below?_eq_some_iff.1 h, by simp [resolve, h]⟩

theorem resolveSegments_ne_outsideMount (ts : List Text) :
    resolveSegments ts ≠ .error .outsideMount := by
  rcases stop_cases ts with h | ⟨scope, rest, rfl, h⟩ | ⟨scope, entity, rest, rfl, he, h⟩
  · simp [resolveSegments_of_scope h]
  · simp [resolveSegments_of_empty h]
  · simp [resolveSegments_of_entity h he]

theorem resolve_eq_outsideMount_iff {path mount : Text} :
    resolve path mount = .error .outsideMount ↔ ¬ slashEnded mount <+: path := by
  rcases resolve_cases path mount with ⟨hp, hr⟩ | ⟨p, rfl, hr⟩
  · exact iff_of_true hr hp
  · rw [hr]
    exact iff_of_false (resolveSegments_ne_outsideMount _) fun h => h (List.prefix_append _ _)

/-- A cause that lies below the mount point is one of the segments there. -/
theorem resolve_eq_error_iff {path mount : Text} {cause : Unresolved}
    (hc : cause ≠ .outsideMount) :
    resolve path mount = .error cause ↔
      ∃ p, path = slashEnded mount ++ p ∧ resolveSegments (segments p) = .error cause := by
  constructor
  · intro h
    rcases resolve_cases path mount with ⟨_, hr⟩ | ⟨p, hp, hr⟩
    · rw [hr] at h
      cases h
      exact absurd rfl hc
    · exact ⟨p, hp, hr ▸ h⟩
  · intro hex
    obtain ⟨p, rfl, h⟩ := hex
    rw [resolve_below, h]

theorem resolve_eq_ok_iff {path mount : Text} {r : Resolution} :
    resolve path mount = .ok r ↔
      ∃ f : RouteForm, f.Valid ∧ path = slashEnded mount ++ f.text ∧ r = f.resolution := by
  constructor
  · intro h
    rcases resolve_cases path mount with ⟨_, hr⟩ | ⟨p, rfl, hr⟩
    · rw [hr] at h
      cases h
    · rw [hr] at h
      obtain ⟨scope, entity, rest, hp, he, hscope, rfl⟩ := resolveSegments_eq_ok_iff.1 h
      obtain ⟨hf, ht⟩ := RouteForm.exists_valid hp hscope he
      refine ⟨_, hf, by rw [ht], ?_⟩
      rw [RouteForm.resolution, RouteForm.remainder_eq rfl]
  · intro hex
    obtain ⟨f, hf, rfl, rfl⟩ := hex
    obtain ⟨rest, hsegments, htail⟩ := hf.segments_text
    rw [resolve_below, hsegments, resolveSegments_of_entity hf.isScopeToken hf.entity,
      RouteForm.resolution, RouteForm.remainder_eq htail]

/-- The scope of a form is what stands before the first entity token. -/
theorem RouteForm.Valid.takeWhile_segments {f : RouteForm} (h : f.Valid) :
    (segments f.text).takeWhile (fun s => !isEntityName s) = f.scope := by
  obtain ⟨rest, hsegments, _⟩ := h.segments_text
  have hscope : ∀ s ∈ f.scope, (!isEntityName s) = true := by
    intro s hs
    rw [Bool.not_eq_true', ← Bool.not_eq_true, isEntityName_iff]
    exact (h.scope s hs).2.2
  rw [hsegments, List.takeWhile_append_of_pos hscope, List.takeWhile_cons_of_neg, List.append_nil]
  simp [isEntityName_iff.2 h.entity]

theorem RouteForm.Valid.eq_of_text_eq {f g : RouteForm} (hf : f.Valid) (hg : g.Valid)
    (h : f.text = g.text) : f = g := by
  have hscope : f.scope = g.scope := by
    rw [← hf.takeWhile_segments, h, hg.takeWhile_segments]
  obtain ⟨rest, hfs, hft⟩ := hf.segments_text
  obtain ⟨rest', hgs, hgt⟩ := hg.segments_text
  have hs : f.entity :: rest = g.entity :: rest' := by
    rw [h, hgs, ← hscope] at hfs
    exact (List.append_cancel_left hfs).symm
  obtain ⟨hentity, rfl⟩ := List.cons.inj hs
  have htail : f.tail = g.tail := hft.trans hgt.symm
  cases f
  cases g
  simp_all

/-! ## Records -/

/-- The letter that tells the messages apart. -/
def Unresolved.initial : Unresolved → Char
  | outsideMount => 'P'
  | emptySegment => 'E'
  | noEntityName => 'N'

theorem Unresolved.head?_message (path mount : Text) (cause : Unresolved) :
    (cause.message path mount).head? = some cause.initial := by
  cases cause <;> rfl

theorem Unresolved.message_injective (path mount : Text) {a b : Unresolved}
    (h : a.message path mount = b.message path mount) : a = b := by
  have head : a.initial = b.initial := by
    rw [← Option.some.injEq, ← head?_message path mount, h, head?_message]
  cases a <;> cases b <;> first | rfl | (revert head; decide)

theorem resolutionLog_eq_nil_iff {path mount : Text} :
    resolutionLog path mount = [] ↔ ∃ r, resolve path mount = .ok r := by
  unfold resolutionLog
  cases resolve path mount <;> simp

theorem resolutionLog_eq_record_iff {path mount : Text} {cause : Unresolved} :
    resolutionLog path mount = [unresolvedRecord path mount cause] ↔
      resolve path mount = .error cause := by
  unfold resolutionLog
  cases hr : resolve path mount with
  | ok r => simp
  | error other =>
    simp only [List.cons.injEq, and_true, Except.error.injEq, unresolvedRecord,
      LogRecord.mk.injEq, true_and]
    exact ⟨fun h => Unresolved.message_injective path mount h, fun h => by rw [h]⟩

/-- The paths that leave no record. -/
theorem resolutionLog_eq_nil_iff_form {path mount : Text} :
    resolutionLog path mount = [] ↔
      ∃ f : RouteForm, f.Valid ∧ path = slashEnded mount ++ f.text := by
  rw [resolutionLog_eq_nil_iff]
  constructor
  · intro hex
    obtain ⟨r, hr⟩ := hex
    obtain ⟨f, hf, hpath, _⟩ := resolve_eq_ok_iff.1 hr
    exact ⟨f, hf, hpath⟩
  · intro hex
    obtain ⟨f, hf, hpath⟩ := hex
    exact ⟨f.resolution, resolve_eq_ok_iff.2 ⟨f, hf, hpath, rfl⟩⟩

theorem subsingleton_form (path mount : Text) :
    {f : RouteForm | f.Valid ∧ path = slashEnded mount ++ f.text}.Subsingleton := by
  intro f hf g hg
  obtain ⟨hf, hpath⟩ := hf
  obtain ⟨hg, hpath'⟩ := hg
  have htext : f.text = g.text := List.append_cancel_left (hpath ▸ hpath')
  exact hf.eq_of_text_eq hg htext

/-- Every other path leaves one record. -/
theorem exists_record_of_no_form {path mount : Text}
    (h : ¬ ∃ f : RouteForm, f.Valid ∧ path = slashEnded mount ++ f.text) :
    ∃ cause, resolve path mount = .error cause ∧
      resolutionLog path mount = [unresolvedRecord path mount cause] := by
  cases hr : resolve path mount with
  | ok r =>
    obtain ⟨f, hf, hpath, _⟩ := resolve_eq_ok_iff.1 hr
    exact absurd ⟨f, hf, hpath⟩ h
  | error cause => exact ⟨cause, rfl, resolutionLog_eq_record_iff.2 hr⟩

theorem resolve_eq_emptySegment_iff {path mount : Text} :
    resolve path mount = .error .emptySegment ↔
      ∃ p scope rest, path = slashEnded mount ++ p ∧ segments p = scope ++ [] :: rest ∧
        ∀ s ∈ scope, IsScopeToken s := by
  rw [resolve_eq_error_iff (by decide)]
  simp only [resolveSegments_eq_emptySegment_iff]
  constructor
  · intro hex
    obtain ⟨p, hp, scope, rest, h⟩ := hex
    exact ⟨p, scope, rest, hp, h⟩
  · intro hex
    obtain ⟨p, scope, rest, hp, h⟩ := hex
    exact ⟨p, hp, scope, rest, h⟩

theorem resolve_eq_noEntityName_iff {path mount : Text} :
    resolve path mount = .error .noEntityName ↔
      ∃ p, path = slashEnded mount ++ p ∧ ∀ s ∈ segments p, IsScopeToken s := by
  rw [resolve_eq_error_iff (by decide)]
  simp only [resolveSegments_eq_noEntityName_iff]

/-- What a path says, over all paths and mount points: which ones resolve and to what, that the
parts of such a path are its own, and which of three records any other path leaves. -/
theorem scan_iff_form (path mount : Text) :
    (∀ r, scan path mount = .ok (.ok r) ↔
      ∃ f : RouteForm, f.Valid ∧ path = slashEnded mount ++ f.text ∧ r = f.resolution) ∧
    {f : RouteForm | f.Valid ∧ path = slashEnded mount ++ f.text}.Subsingleton ∧
    (resolutionLog path mount = [] ↔
      ∃ f : RouteForm, f.Valid ∧ path = slashEnded mount ++ f.text) ∧
    ((¬ ∃ f : RouteForm, f.Valid ∧ path = slashEnded mount ++ f.text) →
      (∃ cause, scan path mount = .ok (.error cause)) ∧
        ∃ message, resolutionLog path mount = [⟨.debug, resolverLogger, message⟩]) ∧
    (resolutionLog path mount = [⟨.debug, resolverLogger,
        "Path " ++ quoted path ++ " is not below mount prefix " ++ quoted mount⟩] ↔
      ¬ slashEnded mount <+: path) ∧
    (resolutionLog path mount = [⟨.debug, resolverLogger,
        "Empty segment in routing path " ++ quoted (routingPathOf path mount)⟩] ↔
      ∃ p scope rest, path = slashEnded mount ++ p ∧ segments p = scope ++ [] :: rest ∧
        ∀ s ∈ scope, IsScopeToken s) ∧
    (resolutionLog path mount = [⟨.debug, resolverLogger,
        "No entity segment in routing path " ++ quoted (routingPathOf path mount)⟩] ↔
      ∃ p, path = slashEnded mount ++ p ∧ ∀ s ∈ segments p, IsScopeToken s) := by
  refine ⟨fun r => ?_, subsingleton_form path mount, resolutionLog_eq_nil_iff_form, ?_, ?_, ?_, ?_⟩
  · rw [scan_eq_ok_iff, resolve_eq_ok_iff]
  · intro hnone
    obtain ⟨cause, hr, hlog⟩ := exists_record_of_no_form hnone
    exact ⟨⟨cause, scan_eq_ok_iff.2 hr⟩, cause.message path mount, hlog⟩
  · exact resolutionLog_eq_record_iff.trans resolve_eq_outsideMount_iff
  · exact resolutionLog_eq_record_iff.trans resolve_eq_emptySegment_iff
  · exact resolutionLog_eq_record_iff.trans resolve_eq_noEntityName_iff

end ServiceGateway
