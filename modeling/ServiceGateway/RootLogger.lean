import ServiceGateway.Capitals
import ServiceGateway.LogRecord
import ServiceGateway.QuotedText

/-!
# The root logger

One root logger serves the whole process. The first configuration installs its handler and then
sets its level; later ones change nothing. A level is looked up by its name in capitals among the
levels and two other names, which stand for line layouts and are refused as levels; the handler is
in place by then. Any other name stands for the level of information.
-/
namespace ServiceGateway

structure RootLogger where
  level : Nat
  hasHandler : Bool
  deriving DecidableEq, Repr

inductive LevelFault where
  | unknownLevel (layout : Text)
  | notALevel (shown : Text)
  deriving DecidableEq, Repr

def LevelFault.message : LevelFault → Text
  | unknownLevel layout => "Unknown level: " ++ quoted layout
  | notALevel shown => "Level not an integer or a valid string: " ++ shown

namespace RootLogger

/-- The logger of a process that has configured nothing. -/
def initial : RootLogger := ⟨30, false⟩

def levels : List (Text × Nat) :=
  [("CRITICAL", 50), ("FATAL", 50), ("ERROR", 40), ("WARNING", 30), ("WARN", 30), ("INFO", 20),
    ("DEBUG", 10), ("NOTSET", 0)]

def defaultLayout : Text := "%(levelname)s:%(name)s:%(message)s"

/-- The layouts by style, as they are shown. -/
def shownLayouts : Text :=
  "\x7b'%': (<class 'logging.PercentStyle'>, '%(levelname)s:%(name)s:%(message)s'), " ++
    "'\x7b': (<class 'logging.StrFormatStyle'>, " ++
    "'\x7blevelname\x7d:\x7bname\x7d:\x7bmessage\x7d'), " ++
    "'$': (<class 'logging.StringTemplateStyle'>, " ++
    "'$\x7blevelname\x7d:$\x7bname\x7d:$\x7bmessage\x7d')\x7d"

/-- What a level name stands for. -/
def levelNamed (name : Text) : Except LevelFault Nat :=
  let word := capitals name
  match levels.lookup word with
  | some n => .ok n
  | none =>
    if word = "BASIC_FORMAT".toList then .error (.unknownLevel defaultLayout)
    else if word = "_STYLES".toList then .error (.notALevel shownLayouts)
    else .ok LogLevel.info.number

def configure (root : RootLogger) (name : Text) : RootLogger × Option LevelFault :=
  if root.hasHandler then (root, none)
  else match levelNamed name with
    | .ok level => (⟨level, true⟩, none)
    | .error e => ({ root with hasHandler := true }, some e)

theorem configure_of_hasHandler {root : RootLogger} (h : root.hasHandler = true) (name : Text) :
    root.configure name = (root, none) := by
  simp [configure, h]

theorem hasHandler_configure (root : RootLogger) (name : Text) :
    (root.configure name).1.hasHandler = true := by
  unfold configure
  split
  · assumption
  · split <;> rfl

def prints (root : RootLogger) (r : LogRecord) : Bool := root.level ≤ r.level.number

def printed (root : RootLogger) (log : List LogRecord) : List Text :=
  (log.filter root.prints).flatMap (·.lines)

end RootLogger

end ServiceGateway
