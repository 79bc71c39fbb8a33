import ServiceGateway.Proofs.Dispatch
import ServiceGateway.Settings

/-!
# Mount points

A mount point is looked for twice: by the route, in the path as it came, and by the reading of the
name, in the escaped path. Both find it if it holds no character that escaping changes. Then what
reaches the dispatcher depends on the routing path below the mount point and not on the mount point.
Otherwise the reading never finds it, and no request reaches the dispatcher at all. Settings accept
both kinds as a base path.
-/
namespace ServiceGateway

/-! ## Base paths -/

/-- The mount points that a base path in the settings can come to. Those with braces, which a route
takes for the names of parameters, are left out. -/
structure IsBasePath (mount : Text) : Prop where
  accepted : ∃ base, Settings.checkPath (.text base) = .ok mount
  braceless : '{' ∉ mount ∧ '}' ∉ mount

/-- Settings look at the two ends of a base path only, and put a slash at the second. -/
theorem isBasePath_iff {mount : Text} :
    IsBasePath mount ↔
      (mount.head? = some '/' ∧ slashEnded mount = mount) ∧ '{' ∉ mount ∧ '}' ∉ mount := by
  constructor
  · intro h
    refine ⟨?_, h.braceless⟩
    obtain ⟨base, hbase⟩ := h.accepted
    rw [Settings.checkPath_text] at hbase
    split at hbase
    · obtain rfl := Except.ok.inj hbase
      refine ⟨?_, slashEnded_idem base⟩
      rcases slashEnded_eq base with ⟨_, e⟩ | ⟨_, e⟩
      · rwa [e]
      · rw [e, List.head?_append, ‹base.head? = some '/'›]
        rfl
    · cases hbase
  · rintro ⟨⟨hhead, hlast⟩, hbraces⟩
    refine ⟨⟨mount, ?_⟩, hbraces⟩
    rw [Settings.checkPath_text, if_pos hhead, hlast]

/-! ## Escaping -/

/-- A text without the three characters that are escaped. -/
def Unescaped (t : Text) : Prop := ∀ c ∈ t, c ≠ '?' ∧ c ≠ '#' ∧ c ≠ '\\'

instance (t : Text) : Decidable (Unescaped t) := List.decidableBAll _ t

namespace Request

theorem escapedPath_append (s t : Text) :
    escapedPath (s ++ t) = escapedPath s ++ escapedPath t := List.flatMap_append

theorem escapedPath_cons_of_kept {c : Char} (h : c ≠ '?' ∧ c ≠ '#' ∧ c ≠ '\\') (rest : Text) :
    escapedPath (c :: rest) = c :: escapedPath rest := by
  simp [escapedPath, h]

theorem escapedPath_cons_of_escaped {c : Char} (h : ¬ (c ≠ '?' ∧ c ≠ '#' ∧ c ≠ '\\'))
    (rest : Text) : (escapedPath (c :: rest)).head? = some '%' := by
  have hc : c = '?' ∨ c = '#' ∨ c = '\\' := by tauto
  rcases hc with rfl | rfl | rfl <;> rfl

theorem escapedPath_of_unescaped {t : Text} (h : Unescaped t) : escapedPath t = t := by
  induction t with
  | nil => rfl
  | cons c rest ih =>
    obtain ⟨hc, hrest⟩ := List.forall_mem_cons.1 h
    rw [escapedPath_cons_of_kept hc, ih hrest]

/-- The first character that is escaped keeps a text from standing in front of its escaped form,
whatever follows. -/
theorem prefix_escapedPath_append_iff {mount rest : Text} :
    mount <+: escapedPath mount ++ rest ↔ Unescaped mount := by
  constructor
  · intro h
    induction mount with
    | nil => exact List.forall_mem_nil _
    | cons c mount ih =>
      by_cases hc : c ≠ '?' ∧ c ≠ '#' ∧ c ≠ '\\'
      · rw [escapedPath_cons_of_kept hc, List.cons_append, List.cons_prefix_cons] at h
        exact List.forall_mem_cons.2 ⟨hc, ih h.2⟩
      · have hpercent := escapedPath_cons_of_escaped hc mount
        obtain ⟨tail, htail⟩ := List.head?_eq_some_iff.1 hpercent
        rw [htail, List.cons_append, List.cons_prefix_cons] at h
        rw [h.1] at hc
        exact absurd (by decide) hc
  · intro h
    rw [escapedPath_of_unescaped h]
    exact List.prefix_append mount rest

/-- The request with its path, taken for a routing path, put below a mount point. -/
def below (mount : Text) (r : Request) : Request := { r with path := mount ++ r.path }

end Request

/-! ## What reaches the dispatcher below a mount point -/

/-- Below a mount point without escaped characters it is the routing path that decides. -/
theorem admitted_below_iff {mount : Text} (hslash : slashEnded mount = mount)
    (h : Unescaped mount) {exposeHidden : Bool} {r : Request} {resolution : Resolution} :
    Admitted mount exposeHidden (r.below mount) resolution ↔
      r.method ∈ ["GET".toList, "POST".toList, "PUT".toList, "PATCH".toList, "DELETE".toList] ∧
        resolveSegments (segments (Request.escapedPath r.path)) = .ok resolution ∧
        (exposeHidden = true ∨ resolution.name.name.head? ≠ some '_') := by
  have hresolve : resolve (Request.escapedPath (r.below mount).path) (slashEnded mount) =
      resolveSegments (segments (Request.escapedPath r.path)) := by
    rw [resolve_slashEnded, ← resolve_below mount, hslash, Request.below,
      Request.escapedPath_append, Request.escapedPath_of_unescaped h]
  constructor
  · intro hr
    exact ⟨hr.method, hresolve ▸ scan_eq_ok_iff.1 hr.resolves, hr.visible⟩
  · rintro ⟨hmethod, hsegments, hvisible⟩
    refine ⟨hmethod, ?_, scan_eq_ok_iff.2 (hresolve.trans hsegments), hvisible⟩
    rw [hslash]
    exact List.prefix_append mount r.path

/-- Nothing is admitted below a mount point with an escaped character. -/
theorem not_admitted_of_escaped {mount : Text} (hslash : slashEnded mount = mount)
    (h : ¬ Unescaped mount) {exposeHidden : Bool} {r : Request} {resolution : Resolution} :
    ¬ Admitted mount exposeHidden r resolution := by
  intro hr
  obtain ⟨p, hp⟩ := hr.below
  have hprefix : mount <+: Request.escapedPath mount ++ Request.escapedPath p := by
    by_contra hnot
    have houtside : resolve (Request.escapedPath r.path) (slashEnded mount) =
        .error .outsideMount := by
      rw [resolve_eq_outsideMount_iff, slashEnded_idem, hslash, ← hp, hslash,
        Request.escapedPath_append]
      exact hnot
    rw [scan_eq_ok_iff.1 hr.resolves] at houtside
    cases houtside
  exact h (Request.prefix_escapedPath_append_iff.1 hprefix)

theorem Admitted.query?_eq {mount : Text} {exposeHidden : Bool} {r : Request}
    {resolution : Resolution} (h : Admitted mount exposeHidden r resolution) :
    ((Site.ofEndpoint ⟨mount, exposeHidden⟩).plan r).query? =
      some ⟨resolution.name, resolution.remainder, r.query, r.method, r.fields⟩ := by
  rw [h.plan_eq]
  rfl

theorem Admitted.query?_eq_none {mount : Text} {exposeHidden : Bool} {r : Request}
    (h : ¬ ∃ resolution, Admitted mount exposeHidden r resolution) :
    ((Site.ofEndpoint ⟨mount, exposeHidden⟩).plan r).query? = none := by
  obtain ⟨reply, hreply⟩ := Admitted.exists_answer h
  rw [hreply]
  rfl

/-- Two mount points without escaped characters let the same queries through. -/
theorem Site.query?_below {mount mount' : Text} (hslash : slashEnded mount = mount)
    (hslash' : slashEnded mount' = mount') (h : Unescaped mount) (h' : Unescaped mount')
    (exposeHidden : Bool) (r : Request) :
    ((ofEndpoint ⟨mount, exposeHidden⟩).plan (r.below mount)).query? =
      ((ofEndpoint ⟨mount', exposeHidden⟩).plan (r.below mount')).query? := by
  have same (resolution : Resolution) : Admitted mount exposeHidden (r.below mount) resolution ↔
      Admitted mount' exposeHidden (r.below mount') resolution :=
    (admitted_below_iff hslash h).trans (admitted_below_iff hslash' h').symm
  by_cases hex : ∃ resolution, Admitted mount exposeHidden (r.below mount) resolution
  · obtain ⟨resolution, hr⟩ := hex
    rw [hr.query?_eq, ((same resolution).1 hr).query?_eq]
    rfl
  · have hex' : ¬ ∃ resolution, Admitted mount' exposeHidden (r.below mount') resolution :=
      fun ⟨resolution, hr⟩ => hex ⟨resolution, (same resolution).2 hr⟩
    rw [Admitted.query?_eq_none hex, Admitted.query?_eq_none hex']

theorem Site.received_of_escaped {mount : Text} (hslash : slashEnded mount = mount)
    (h : ¬ Unescaped mount) (exposeHidden : Bool) {σ : Type} (d : Dispatcher σ) (state : σ)
    (rs : List Request) : (ofEndpoint ⟨mount, exposeHidden⟩).received d state rs = [] := by
  rw [received_eq_filterMap, List.filterMap_eq_nil_iff]
  intro r _
  apply Admitted.query?_eq_none
  intro hex
  obtain ⟨resolution, hr⟩ := hex
  exact not_admitted_of_escaped hslash h hr

/-- A request whose path is the routing path of a service. -/
def ordersBelow : Request := ⟨"http://testserver", "GET", "Orders", [], []⟩

theorem Site.received_ordersBelow {mount : Text} (hslash : slashEnded mount = mount)
    (h : Unescaped mount) (exposeHidden : Bool) {σ : Type} (d : Dispatcher σ) (state : σ) :
    (ofEndpoint ⟨mount, exposeHidden⟩).received d state [ordersBelow.below mount] =
      [⟨⟨[], "Orders"⟩, [], [], "GET", []⟩] := by
  have admitted : Admitted mount exposeHidden (ordersBelow.below mount) ⟨⟨[], "Orders"⟩, []⟩ :=
    (admitted_below_iff hslash h).2 ⟨by decide, rfl, .inr (by decide)⟩
  rw [received_eq_filterMap, List.filterMap_cons, admitted.query?_eq]
  rfl

/-- Over all base paths: requests below one put the same queries to the dispatcher as the same
requests below the default one, along every run and with any dispatchers, exactly if the base path
holds none of the three escaped characters; and exactly then it serves any request at all. -/
theorem mount_independent_iff {mount : Text} (h : IsBasePath mount) (exposeHidden : Bool) :
    ((∀ (σ τ : Type) (d : Dispatcher σ) (state : σ) (d' : Dispatcher τ) (state' : τ)
        (rs : List Request),
      (Site.ofEndpoint ⟨mount, exposeHidden⟩).received d state (rs.map (·.below mount)) =
        (Site.ofEndpoint ⟨"/raw/", exposeHidden⟩).received d' state' (rs.map (·.below "/raw/"))) ↔
      Unescaped mount) ∧
    ((∃ (σ : Type) (d : Dispatcher σ) (state : σ) (rs : List Request),
      (Site.ofEndpoint ⟨mount, exposeHidden⟩).received d state rs ≠ []) ↔ Unescaped mount) := by
  have hslash : slashEnded mount = mount := (isBasePath_iff.1 h).1.2
  let d : Dispatcher Unit := fun state _ => (.value (.atom .null), state)
  refine ⟨⟨fun hsame => ?_, fun hmount => ?_⟩, ⟨fun hex => ?_, fun hmount => ?_⟩⟩
  · -- a request that the default mount point serves tells the two apart
    by_contra hmount
    have served := hsame Unit Unit d () d () [ordersBelow]
    rw [Site.received_of_escaped hslash hmount, List.map_singleton,
      Site.received_ordersBelow (by decide) (by decide)] at served
    cases served
  · intro σ τ d state d' state' rs
    rw [Site.received_eq_filterMap, Site.received_eq_filterMap, List.filterMap_map,
      List.filterMap_map]
    exact List.filterMap_congr fun r _ =>
      Site.query?_below hslash (by decide) hmount (by decide) exposeHidden r
  · obtain ⟨σ, d, state, rs, hne⟩ := hex
    by_contra hmount
    exact hne (Site.received_of_escaped hslash hmount exposeHidden d state rs)
  · refine ⟨Unit, d, (), [ordersBelow.below mount], ?_⟩
    rw [Site.received_ordersBelow hslash hmount]
    exact List.cons_ne_nil _ _

/-- A base path with a blank and an escape in it serves like the default one. -/
theorem mount_independent_blank :
    IsBasePath "/my data%3F/" ∧ Unescaped "/my data%3F/" ∧
    (Site.ofEndpoint ⟨"/my data%3F/", false⟩).received (fun n _ => (.value (.atom .null), n + 1)) 0
        ([ordersBelow].map (·.below "/my data%3F/")) =
      (Site.ofEndpoint ⟨"/raw/", false⟩).received (fun n _ => (.value (.atom .null), n + 1)) 7
        ([ordersBelow].map (·.below "/raw/")) := by
  have base : IsBasePath "/my data%3F/" := isBasePath_iff.2 (by decide)
  have unescaped : Unescaped "/my data%3F/" := by decide
  exact ⟨base, unescaped, (mount_independent_iff base false).1.2 unescaped Nat Nat _ 0 _ 7 _⟩

/-- A base path with a question mark serves nothing. -/
theorem mount_with_question_mark :
    IsBasePath "/a?b/" ∧
    (Site.ofEndpoint ⟨"/a?b/", false⟩).received (fun n _ => (.value (.atom .null), n + 1)) 0
      [ordersBelow.below "/a?b/"] = [] ∧
    (Site.ofEndpoint ⟨"/raw/", false⟩).received (fun n _ => (.value (.atom .null), n + 1)) 0
      [ordersBelow.below "/raw/"] = [⟨⟨[], "Orders"⟩, [], [], "GET", []⟩] :=
  ⟨isBasePath_iff.2 (by decide), by rfl, by rfl⟩

end ServiceGateway
