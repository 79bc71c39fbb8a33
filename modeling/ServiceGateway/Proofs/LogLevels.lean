import ServiceGateway.Application

/-!
# Log levels

In capitals a level name is one of eight words for levels, one of two words for line layouts, or any
other text, which stands for information. The first creation of a process sets the level that its
name stands for. It fails if the name stands for a layout, and then leaves the handler behind with
the level that was there. The creations after it neither fail nor change the root logger, whatever
level they name.
-/
namespace ServiceGateway

namespace RootLogger

/-! ## Words for levels -/

def levelWords : List Text :=
  ["CRITICAL".toList, "FATAL".toList, "ERROR".toList, "WARNING".toList, "WARN".toList,
    "INFO".toList, "DEBUG".toList, "NOTSET".toList]

/-- The level that a text in capitals stands for. -/
inductive StandsFor : Text → Nat → Prop
  | critical : StandsFor "CRITICAL" 50
  | fatal : StandsFor "FATAL" 50
  | error : StandsFor "ERROR" 40
  | warning : StandsFor "WARNING" 30
  | warn : StandsFor "WARN" 30
  | info : StandsFor "INFO" 20
  | debug : StandsFor "DEBUG" 10
  | notset : StandsFor "NOTSET" 0
  | other {word : Text} : word ∉ levelWords → StandsFor word 20

theorem standsFor_of_mem_levels : ∀ p ∈ levels, StandsFor p.1 p.2 := by
  simp only [levels, List.forall_mem_cons]
  exact ⟨.critical, .fatal, .error, .warning, .warn, .info, .debug, .notset, nofun⟩

theorem lookup_levels_eq_none_iff {word : Text} :
    levels.lookup word = none ↔ word ∉ levelWords := by
  have words : levelWords = levels.map Prod.fst := rfl
  rw [List.lookup_eq_none_iff, words, List.mem_map]
  constructor
  · rintro h ⟨p, hp, rfl⟩
    exact absurd (h p hp) (by simp)
  · intro h p hp
    exact bne_iff_ne.2 fun heq => h ⟨p, hp, heq.symm⟩

/-- Every text stands for one level. -/
theorem standsFor_iff {word : Text} {n : Nat} :
    StandsFor word n ↔ (levels.lookup word).getD LogLevel.info.number = n := by
  constructor
  · intro h
    cases h with
    | other h => rw [lookup_levels_eq_none_iff.2 h]; rfl
    | _ => rfl
  · rintro rfl
    cases hword : levels.lookup word with
    | none => exact .other (lookup_levels_eq_none_iff.1 hword)
    | some n =>
      obtain ⟨front, back, hlevels, -⟩ := List.lookup_eq_some_iff.1 hword
      exact standsFor_of_mem_levels (word, n) (by rw [hlevels]; simp)

/-- The names of line layouts, in any case. -/
def NamesLayout (name : Text) : Prop :=
  capitals name = "BASIC_FORMAT" ∨ capitals name = "_STYLES"

instance (name : Text) : Decidable (NamesLayout name) :=
  inferInstanceAs (Decidable (capitals name = "BASIC_FORMAT" ∨ capitals name = "_STYLES"))

theorem NamesLayout.levelNamed {name : Text} (h : NamesLayout name) :
    ∃ e, levelNamed name = .error e := by
  rcases h with h | h
  · exact ⟨.unknownLevel defaultLayout, by rw [RootLogger.levelNamed, h]; rfl⟩
  · exact ⟨.notALevel shownLayouts, by rw [RootLogger.levelNamed, h]; rfl⟩

theorem levelNamed_of_not_namesLayout {name : Text} (h : ¬ NamesLayout name) :
    levelNamed name = .ok ((levels.lookup (capitals name)).getD LogLevel.info.number) := by
  obtain ⟨format, styles⟩ := not_or.1 h
  rw [levelNamed]
  cases levels.lookup (capitals name) with
  | some n => rfl
  | none => exact (if_neg format).trans (if_neg styles)

/-! ## Configuration -/

theorem configure_of_level {root : RootLogger} (h : root.hasHandler = false) {name : Text}
    (hname : ¬ NamesLayout name) :
    root.configure name =
      (⟨(levels.lookup (capitals name)).getD LogLevel.info.number, true⟩, none) := by
  rw [configure, h, levelNamed_of_not_namesLayout hname]
  rfl

theorem configure_of_layout {root : RootLogger} (h : root.hasHandler = false) {name : Text}
    (hname : NamesLayout name) :
    ∃ e, root.configure name = (⟨root.level, true⟩, some e) := by
  obtain ⟨e, he⟩ := hname.levelNamed
  exact ⟨e, by rw [configure, h, he]; rfl⟩

end RootLogger

/-! ## Creation -/

namespace Application

open RootLogger (NamesLayout StandsFor)

/-- What a creation does that starts from the root logger. -/
structure Starts (root : RootLogger) (s : Settings) (hasDispatcher : Bool)
    (call : RootLogger × Except LevelFault Creation) : Prop where
  accepted : (∃ output, call.2 = .ok ⟨ofSettings s hasDispatcher, output⟩) ↔
    root.hasHandler = true ∨ ¬ NamesLayout s.logLevel
  level : root.hasHandler = false → ¬ NamesLayout s.logLevel →
    ∀ n, call.1.level = n ↔ StandsFor (capitals s.logLevel) n
  refused : root.hasHandler = false → NamesLayout s.logLevel →
    (∃ e, call.2 = .error e) ∧ call.1.level = root.level
  handler : call.1.hasHandler = true
  kept : root.hasHandler = true → call.1 = root

theorem create_of_configure {root after : RootLogger} {s : Settings}
    (h : root.configure s.logLevel = (after, none)) (hasDispatcher : Bool) :
    create root s hasDispatcher =
      (after, .ok ⟨ofSettings s hasDispatcher, after.printed (creationLog s hasDispatcher)⟩) := by
  rw [create, h]

theorem create_of_configure_fault {root after : RootLogger} {s : Settings} {e : LevelFault}
    (h : root.configure s.logLevel = (after, some e)) (hasDispatcher : Bool) :
    create root s hasDispatcher = (after, .error e) := by
  rw [create, h]

theorem starts_create (root : RootLogger) (s : Settings) (hasDispatcher : Bool) :
    Starts root s hasDispatcher (create root s hasDispatcher) := by
  cases hroot : root.hasHandler with
  | true =>
    -- The name is not even looked up, so one of a layout does no harm.
    have installed : ¬ root.hasHandler = false := fun h => Bool.noConfusion (hroot.symm.trans h)
    rw [create_of_configure (root.configure_of_hasHandler hroot s.logLevel)]
    exact ⟨iff_of_true ⟨_, rfl⟩ (.inl hroot), fun h => absurd h installed,
      fun h => absurd h installed, hroot, fun _ => rfl⟩
  | false =>
    have vacant : ¬ root.hasHandler = true := fun h => Bool.noConfusion (hroot.symm.trans h)
    by_cases hname : NamesLayout s.logLevel
    · obtain ⟨e, he⟩ := RootLogger.configure_of_layout hroot hname
      rw [create_of_configure_fault he]
      exact ⟨iff_of_false nofun fun h => h.elim vacant (absurd hname),
        fun _ h => absurd hname h, fun _ _ => ⟨⟨e, rfl⟩, rfl⟩, rfl, fun h => absurd h vacant⟩
    · rw [create_of_configure (RootLogger.configure_of_level hroot hname)]
      exact ⟨iff_of_true ⟨_, rfl⟩ (.inr hname), fun _ _ n => RootLogger.standsFor_iff.symm,
        fun _ h => absurd h hname, rfl, fun h => absurd h vacant⟩

/-! ## Creations of one process -/

/-- The root logger that a row of creations leaves. -/
def rootAfter (root : RootLogger) : List (Settings × Bool) → RootLogger
  | [] => root
  | (s, hasDispatcher) :: rest => rootAfter (create root s hasDispatcher).1 rest

theorem createAll_append (root : RootLogger) (before rest : List (Settings × Bool)) :
    createAll root (before ++ rest) =
      createAll root before ++ createAll (rootAfter root before) rest := by
  induction before generalizing root with
  | nil => rfl
  | cons call before ih => exact congrArg (_ :: ·) (ih _)

/-- A handler stays, and any creation leaves one. -/
theorem hasHandler_rootAfter {root : RootLogger} {before : List (Settings × Bool)} :
    (rootAfter root before).hasHandler = true ↔ root.hasHandler = true ∨ before ≠ [] := by
  induction before generalizing root with
  | nil => exact (or_iff_left (absurd rfl)).symm
  | cons call before ih =>
    rw [rootAfter, ih]
    exact iff_of_true (.inl (hasHandler_create root call.1 call.2)) (.inr nofun)

end Application

/-! ## Settings with a level -/

def levelSources (name : Text) (environment : List (Text × Text)) (lines : List Text) :
    SettingSources :=
  ⟨[("log_level", .text name)], environment, lines⟩

theorem valuesOf_levelSources (name : Text) (f : SettingField) :
    SettingSources.valuesOf [("log_level", Value.text name)] f.name =
      if .logLevel = f then [.text name] else [] :=
  SettingSources.valuesOf_named_cons .logLevel (Value.text name) [] f

theorem given?_levelSources (name : Text) (environment : List (Text × Text)) (lines : List Text) :
    (levelSources name environment lines).given? .logLevel = some (.text name) := by
  apply SettingSources.given?_of_argument
  rw [levelSources, valuesOf_levelSources]
  rfl

theorem Settings.logLevel_of_resolve {sources : SettingSources} {name : Text} {s : Settings}
    (hgiven : sources.given? .logLevel = some (.text name)) (h : resolve sources = .ok s) :
    s.logLevel = name := by
  unfold resolve at h
  rw [hgiven] at h
  dsimp only at h
  split at h
  · rename_i hlevel _ _
    cases h
    exact (Except.ok.inj hlevel).symm
  · cases h

theorem Settings.resolve_levelSources (name : Text) :
    resolve (levelSources name [] []) = .ok { defaults with logLevel := name } := by
  have others (f : SettingField) (hf : .logLevel ≠ f) :
      (levelSources name [] []).given? f = none := by
    rw [SettingSources.given?, levelSources, valuesOf_levelSources, if_neg hf]
    rfl
  rw [resolve, given?_levelSources, others .appEnv (by decide), others .basePath (by decide),
    others .exposeHidden (by decide)]
  rfl

/-- Settings can be made with any level name, and have it as their level whatever the environment
and the settings file hold. After any row of creations and from any root logger, a creation with
them is accepted exactly if a handler is there, which it is behind any creation, or the name stands
for no layout. If the creation installs the handler and is accepted, the level is the one that the
name stands for; otherwise the level stays as it is. -/
theorem creation_accepts_level_iff (name : Text) (environment : List (Text × Text))
    (lines : List Text) (root : RootLogger) (before : List (Settings × Bool))
    (hasDispatcher : Bool) :
    Settings.resolve (levelSources name [] []) =
      .ok { Settings.defaults with logLevel := name } ∧
    ((Application.rootAfter root before).hasHandler = true ↔
      root.hasHandler = true ∨ before ≠ []) ∧
    ∀ s, Settings.resolve (levelSources name environment lines) = .ok s →
      s.logLevel = name ∧
      ∃ call,
        Application.createAll root (before ++ [(s, hasDispatcher)]) =
          Application.createAll root before ++ [call] ∧
        Application.Starts (Application.rootAfter root before) s hasDispatcher call := by
  refine ⟨Settings.resolve_levelSources name, Application.hasHandler_rootAfter,
    fun s hs => ⟨?_, ?_⟩⟩
  · exact Settings.logLevel_of_resolve (given?_levelSources name environment lines) hs
  · exact ⟨_, Application.createAll_append root before _, Application.starts_create _ s _⟩

/-- A level in small letters is set by the first creation, but not by one that follows a creation
which is refused. -/
theorem creation_accepts_level_debug :
    let s : Settings := { Settings.defaults with logLevel := "debug" }
    let layout : Settings := { Settings.defaults with logLevel := "_styles" }
    Settings.resolve (levelSources "debug" [] []) = .ok s ∧
    (RootLogger.initial.hasHandler = false ∧ ¬ RootLogger.NamesLayout "debug" ∧
      ∃ call, Application.createAll .initial [(s, true)] = [call] ∧
        (∃ output, call.2 = .ok ⟨Application.ofSettings s true, output⟩) ∧ call.1.level = 10) ∧
    ∃ call, Application.createAll .initial [(layout, false), (s, true)] =
        Application.createAll .initial [(layout, false)] ++ [call] ∧
      (∃ output, call.2 = .ok ⟨Application.ofSettings s true, output⟩) ∧ call.1.level = 30 := by
  intro s layout
  obtain ⟨accepted, -, creations⟩ := creation_accepts_level_iff "debug" [] [] .initial [] true
  obtain ⟨-, first, hfirst, starts⟩ := creations s accepted
  obtain ⟨-, handler, further⟩ :=
    creation_accepts_level_iff "debug" [] [] .initial [(layout, false)] true
  obtain ⟨-, second, hsecond, restarts⟩ := further s accepted
  have installed := handler.2 (.inr nofun)
  have level : ¬ RootLogger.NamesLayout "debug" := by decide
  refine ⟨accepted, ⟨rfl, level, first, hfirst, starts.accepted.2 (.inr level), ?_⟩,
    second, hsecond, restarts.accepted.2 (.inl installed), ?_⟩
  · exact (starts.level rfl level 10).2 .debug
  · rw [restarts.kept installed]
    rfl

/-- A creation with the name of a layout fails as the first of its process. The next one with the
same settings is accepted, but prints nothing, since the level is that of warnings still. -/
theorem basicFormat_refused :
    let s : Settings := { Settings.defaults with logLevel := "basic_format" }
    Settings.resolve (levelSources "basic_format" [] []) = .ok s ∧
    Application.createAll .initial [(s, true), (s, true)] =
      [(⟨30, true⟩, .error (.unknownLevel "%(levelname)s:%(name)s:%(message)s")),
        (⟨30, true⟩, .ok ⟨Application.ofSettings s true, []⟩)] :=
  ⟨Settings.resolve_levelSources "basic_format", rfl⟩

end ServiceGateway
