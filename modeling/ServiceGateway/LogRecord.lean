import ServiceGateway.TextLines

/-!
# Log records

A record has a level, the name of the logger that wrote it and a finished message. It is printed
behind a time stamp, which is left out here: of every printed line only what stands behind the width
of the stamp is kept. A message can hold ends of lines, and then its further lines lose as much.
-/
namespace ServiceGateway

inductive LogLevel where
  | debug | info | warning | error
  deriving DecidableEq, Repr

namespace LogLevel

def number : LogLevel → Nat
  | debug => 10
  | info => 20
  | warning => 30
  | error => 40

def name : LogLevel → Text
  | debug => "DEBUG"
  | info => "INFO"
  | warning => "WARNING"
  | error => "ERROR"

end LogLevel

structure LogRecord where
  level : LogLevel
  logger : Text
  message : Text
  deriving DecidableEq, Repr

/-- The level in a column of eight, the logger and the message. -/
def LogRecord.line (r : LogRecord) : Text :=
  r.level.name ++ List.replicate (8 - r.level.name.length) ' ' ++ " " ++ r.logger ++ "  " ++
    r.message

namespace LogRecord

/-- The characters of a time stamp with the blank behind it. -/
def stampWidth : Nat := 24

/-- The printed lines without the columns of the time stamp, which the first line has alone. -/
def lines (r : LogRecord) : List Text :=
  match textLines (r.line ++ ['\n']) with
  | [] => []
  | first :: rest => first :: rest.map fun line => line.drop stampWidth

theorem lines_of_oneLine {r : LogRecord} (h : r.line.any isLineEnd = false) :
    r.lines = [r.line] := by
  rw [lines, textLines_append_lineFeed h]
  rfl

end LogRecord

end ServiceGateway
