import ServiceGateway.RootLogger
import ServiceGateway.Settings
import ServiceGateway.Site

/-!
# Applications

An application is a site with a health page and, if there is a dispatcher, a data endpoint at the
base path of the settings. Creating one configures the root logger first; a level that is refused
ends the creation, with the handler in place. Applications of one process share the root logger, so
only the first sets the level at which all of them print.
-/
namespace ServiceGateway

structure Application where
  site : Site
  mount : Option Text
  deriving DecidableEq, Repr

namespace Application

def logger : Text := "dataroute.main"

def creatingRecord (appEnv : Text) : LogRecord :=
  ⟨.info, logger, "Creating routing application (env=" ++ appEnv ++ ")"⟩

def noDispatcherRecord : LogRecord :=
  ⟨.warning, logger, "No data dispatcher supplied, raw endpoint not mounted"⟩

def mountedRecord (mount : Text) (exposeHidden : Bool) : LogRecord :=
  ⟨.info, logger, "Mounted raw endpoint at " ++ mount ++ " (hidden services " ++
    (if exposeHidden then "exposed" else "blocked") ++ ")"⟩

def endpointOf (s : Settings) : DataEndpoint := ⟨s.basePath, s.exposeHidden⟩

def ofSettings (s : Settings) (hasDispatcher : Bool) : Application :=
  if hasDispatcher then ⟨.withHealth (some (endpointOf s)), some s.basePath⟩
  else ⟨.withHealth none, none⟩

/-- The records of a creation. -/
def creationLog (s : Settings) (hasDispatcher : Bool) : List LogRecord :=
  [creatingRecord s.appEnv,
    if hasDispatcher then mountedRecord s.basePath s.exposeHidden else noDispatcherRecord]

/-- A new application with the lines that its creation printed. -/
structure Creation where
  application : Application
  output : List Text
  deriving DecidableEq, Repr

def create (root : RootLogger) (s : Settings) (hasDispatcher : Bool) :
    RootLogger × Except LevelFault Creation :=
  match root.configure s.logLevel with
  | (root, some e) => (root, .error e)
  | (root, none) =>
    (root, .ok ⟨ofSettings s hasDispatcher, root.printed (creationLog s hasDispatcher)⟩)

/-- Creates applications one after the other in one process; each creation comes with the root
logger that it leaves. -/
def createAll : RootLogger → List (Settings × Bool) →
    List (RootLogger × Except LevelFault Creation)
  | _, [] => []
  | root, (s, hasDispatcher) :: rest =>
    let made := create root s hasDispatcher
    made :: createAll made.1 rest

/-- What ends a call for an application: its level, or a base path that makes no route. -/
inductive CallFault where
  | level (e : LevelFault)
  | noRoute (mount : Text)
  deriving DecidableEq, Repr

/-- What a call for an application leaves and has printed, whether it ends in one or not. -/
structure Call where
  root : RootLogger
  output : List Text
  outcome : Except CallFault Application
  deriving Repr

/-- A call for an application on a router that need not take every base path. It gets to the route
behind its first record. -/
def call (mountable : Text → Bool) (root : RootLogger) (s : Settings) (hasDispatcher : Bool) :
    Call :=
  match root.configure s.logLevel with
  | (root, some e) => ⟨root, [], .error (.level e)⟩
  | (root, none) =>
    if hasDispatcher && !mountable s.basePath then
      ⟨root, root.printed [creatingRecord s.appEnv], .error (.noRoute s.basePath)⟩
    else ⟨root, root.printed (creationLog s hasDispatcher), .ok (ofSettings s hasDispatcher)⟩

/-- The calls of one process. -/
def callAll (mountable : Text → Bool) : RootLogger → List (Settings × Bool) → List Call
  | _, [] => []
  | root, (s, hasDispatcher) :: rest =>
    let made := call mountable root s hasDispatcher
    made :: callAll mountable made.root rest

/-- The call that a creation is. One that fails has printed nothing by then. -/
def Call.ofCreation : RootLogger × Except LevelFault Creation → Call
  | (root, .error e) => ⟨root, [], .error (.level e)⟩
  | (root, .ok made) => ⟨root, made.output, .ok made.application⟩

theorem Call.root_ofCreation (made : RootLogger × Except LevelFault Creation) :
    (ofCreation made).root = made.1 := by
  obtain ⟨root, _ | _⟩ := made <;> rfl

/-- Where every base path makes a route, calls are creations. -/
theorem call_eq_ofCreation (root : RootLogger) (s : Settings) (hasDispatcher : Bool) :
    call (fun _ => true) root s hasDispatcher = .ofCreation (create root s hasDispatcher) := by
  rw [call, create]
  obtain ⟨after, _ | e⟩ := root.configure s.logLevel
  · exact if_neg (by simp)
  · rfl

theorem callAll_eq_map_ofCreation (root : RootLogger) (requests : List (Settings × Bool)) :
    callAll (fun _ => true) root requests = (createAll root requests).map .ofCreation := by
  induction requests generalizing root with
  | nil => rfl
  | cons request rest ih =>
    simp only [callAll, createAll, List.map_cons, call_eq_ofCreation, Call.root_ofCreation, ih]

theorem hasHandler_create (root : RootLogger) (s : Settings) (hasDispatcher : Bool) :
    (create root s hasDispatcher).1.hasHandler = true := by
  have h := root.hasHandler_configure s.logLevel
  unfold create
  split <;> simp_all

end Application

end ServiceGateway
