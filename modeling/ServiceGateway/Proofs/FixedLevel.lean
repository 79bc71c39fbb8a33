import ServiceGateway.Proofs.LogLevels

/-!
# The level of a process

The first call for an application fixes the level of the root logger, also one that is refused for
its level name: the handler is there by then, and so the level stays that of warnings. No later call
changes the root logger, whatever it asks for and however it ends. What a call prints is therefore
its own records as far as they reach the level, and the records of a call are those it comes to:
none if it is refused for its level, the first one if its base path makes no route, and both of them
otherwise. The records are written out here, with the level that each of them has to reach.
-/
namespace ServiceGateway

namespace RootLogger

/-- The level that a name fixes in a process that has configured nothing. -/
inductive Fixes (name : Text) : Nat → Prop
  | level {n : Nat} : ¬ NamesLayout name → StandsFor (capitals name) n → Fixes name n
  | layout : NamesLayout name → Fixes name 30

/-- The first configuration leaves the level that its name fixes, whether it is refused or not. -/
theorem Fixes.configure_initial {name : Text} {n : Nat} (h : Fixes name n) :
    (¬ NamesLayout name ∧ initial.configure name = (⟨n, true⟩, none)) ∨
      (NamesLayout name ∧ ∃ e, initial.configure name = (⟨n, true⟩, some e)) := by
  cases h with
  | level hname hn =>
    refine .inl ⟨hname, ?_⟩
    rw [configure_of_level rfl hname, standsFor_iff.1 hn]
  | layout hname =>
    have bare : initial.hasHandler = false := rfl
    obtain ⟨e, he⟩ := configure_of_layout bare hname
    exact .inr ⟨hname, e, he⟩

theorem Fixes.root_configure {name : Text} {n : Nat} (h : Fixes name n) :
    (initial.configure name).1 = ⟨n, true⟩ := by
  rcases h.configure_initial with ⟨-, hroot⟩ | ⟨-, e, hroot⟩ <;> rw [hroot]

theorem exists_fixes (name : Text) : ∃ n, Fixes name n := by
  by_cases hname : NamesLayout name
  · exact ⟨30, .layout hname⟩
  · exact ⟨_, .level hname (standsFor_iff.2 rfl)⟩

/-- A name fixes one level. -/
theorem Fixes.iff_eq {name : Text} {n : Nat} (h : Fixes name n) (m : Nat) :
    Fixes name m ↔ m = n := by
  constructor
  · intro hm
    have roots := hm.root_configure.symm.trans h.root_configure
    exact congrArg RootLogger.level roots
  · intro hm
    exact hm ▸ h

end RootLogger

namespace Application

open RootLogger (NamesLayout Fixes)

variable {mountable : Text → Bool} {root after : RootLogger} {s : Settings}

/-! ## One call -/

/-- The records of a call whose level is accepted, each with the highest level at which it is
printed. The second one comes behind the route. -/
def recordsOf (mountable : Text → Bool) (s : Settings) (hasDispatcher : Bool) :
    List (Nat × LogRecord) :=
  (20, ⟨.info, "dataroute.main", "Creating routing application (env=" ++ s.appEnv ++ ")"⟩) ::
    if hasDispatcher = false then
      [(30, ⟨.warning, "dataroute.main", "No data dispatcher supplied, raw endpoint not mounted"⟩)]
    else if mountable s.basePath = true then
      [(20, ⟨.info, "dataroute.main", "Mounted raw endpoint at " ++ s.basePath ++
        " (hidden services " ++ (if s.exposeHidden = true then "exposed" else "blocked") ++ ")"⟩)]
    else []

/-- A call prints the records that reach a level and nothing else. -/
def Call.Prints (c : Call) (level : Nat) (records : List (Nat × LogRecord)) : Prop :=
  c.output = (records.filter fun r => level ≤ r.1).flatMap fun r => r.2.lines

/-- A record with a message of one line is printed on one line. -/
theorem lines_main {m : Text} (h : m.any isLineEnd = false) :
    LogRecord.lines ⟨.info, "dataroute.main", m⟩ = ["INFO     dataroute.main  " ++ m] ∧
      LogRecord.lines ⟨.warning, "dataroute.main", m⟩ = ["WARNING  dataroute.main  " ++ m] := by
  have info : ("INFO     dataroute.main  " ++ m : Text).any isLineEnd = false := by
    rw [List.any_append, h]
    rfl
  have warning : ("WARNING  dataroute.main  " ++ m : Text).any isLineEnd = false := by
    rw [List.any_append, h]
    rfl
  exact ⟨LogRecord.lines_of_oneLine info, LogRecord.lines_of_oneLine warning⟩

/-- The records as the call puts them together. -/
theorem recordsOf_eq (mountable : Text → Bool) (s : Settings) (hasDispatcher : Bool) :
    recordsOf mountable s hasDispatcher =
      (if hasDispatcher && !mountable s.basePath then [creatingRecord s.appEnv]
        else creationLog s hasDispatcher).map fun r => (r.level.number, r) := by
  unfold recordsOf
  cases hasDispatcher with
  | false => rfl
  | true => cases mountable s.basePath <;> rfl

theorem printed_eq (root : RootLogger) (log : List LogRecord) :
    root.printed log =
      ((log.map fun r => (r.level.number, r)).filter fun r => root.level ≤ r.1).flatMap
        fun r => r.2.lines := by
  rw [RootLogger.printed, List.filter_map, List.flatMap_map]
  rfl

theorem call_of_fault {e : LevelFault} (h : root.configure s.logLevel = (after, some e))
    (hasDispatcher : Bool) :
    call mountable root s hasDispatcher = ⟨after, [], .error (.level e)⟩ := by
  rw [call, h]

theorem prints_call (h : root.configure s.logLevel = (after, none)) (hasDispatcher : Bool) :
    (call mountable root s hasDispatcher).Prints after.level
      (recordsOf mountable s hasDispatcher) := by
  rw [Call.Prints, recordsOf_eq, ← printed_eq, call, h]
  exact (apply_ite Call.output _ _ _).trans (apply_ite after.printed _ _ _).symm

theorem root_call (mountable : Text → Bool) (root : RootLogger) (s : Settings)
    (hasDispatcher : Bool) :
    (call mountable root s hasDispatcher).root = (root.configure s.logLevel).1 := by
  rw [call]
  obtain ⟨after, _ | e⟩ := root.configure s.logLevel
  · exact (apply_ite Call.root _ _ _).trans (ite_self after)
  · rfl

/-- The first call, whose level is accepted unless its name is that of a layout. -/
theorem call_initial {level : Nat} (h : Fixes s.logLevel level) (hasDispatcher : Bool) :
    (¬ NamesLayout s.logLevel ∧ (call mountable .initial s hasDispatcher).Prints level
        (recordsOf mountable s hasDispatcher)) ∨
      (NamesLayout s.logLevel ∧
        ∃ e, call mountable .initial s hasDispatcher = ⟨⟨level, true⟩, [], .error (.level e)⟩) := by
  rcases h.configure_initial with ⟨hname, hroot⟩ | ⟨hname, e, hroot⟩
  · exact .inl ⟨hname, prints_call hroot hasDispatcher⟩
  · exact .inr ⟨hname, e, call_of_fault hroot hasDispatcher⟩

/-! ## The calls of one process -/

/-- Where there is a handler, no call changes the root logger, so each is made as if alone. -/
theorem callAll_of_hasHandler (h : root.hasHandler = true) (requests : List (Settings × Bool)) :
    callAll mountable root requests = requests.map fun r => call mountable root r.1 r.2 := by
  induction requests with
  | nil => rfl
  | cons request rest ih =>
    have kept : (call mountable root request.1 request.2).root = root := by
      rw [root_call, root.configure_of_hasHandler h]
    rw [callAll, kept, ih, List.map_cons]

section
variable {first : Settings × Bool} {level : Nat}

theorem callAll_initial (h : Fixes first.1.logLevel level) (rest : List (Settings × Bool)) :
    callAll mountable .initial (first :: rest) =
      call mountable .initial first.1 first.2 ::
        rest.map fun r => call mountable ⟨level, true⟩ r.1 r.2 := by
  rw [callAll, root_call, h.root_configure, callAll_of_hasHandler rfl]

theorem root_of_mem_callAll (h : Fixes first.1.logLevel level) {rest : List (Settings × Bool)}
    {c : Call} (hc : c ∈ callAll mountable .initial (first :: rest)) : c.root = ⟨level, true⟩ := by
  rw [callAll_initial h, List.mem_cons, List.mem_map] at hc
  rcases hc with rfl | ⟨r, -, rfl⟩
  · rw [root_call, h.root_configure]
  · rw [root_call, RootLogger.configure_of_hasHandler rfl]

end

end Application

end ServiceGateway
