import ServiceGateway.Blanks
import ServiceGateway.LowerCase
import ServiceGateway.Value

/-!
# Settings

Four settings, each with a default. A setting is decided by the first source that has it under its
name in any case: the arguments, the environment, the settings file; then the default. The sources
that come later are not looked at. Of several arguments for a setting the first counts. In the
environment and in the file a name that is written the same way again takes the new value where it
stands, and of several ways of writing a name the last counts. All four settings are then checked,
and the faults are collected in the order of the fields. The base path gets a slash at its end.
-/
namespace ServiceGateway

inductive SettingField where
  | appEnv | logLevel | basePath | exposeHidden
  deriving DecidableEq, Repr

def SettingField.name : SettingField → Text
  | appEnv => "app_env"
  | logLevel => "log_level"
  | basePath => "raw_base_path"
  | exposeHidden => "expose_hidden_services"

theorem SettingField.name_inj {f g : SettingField} : f.name = g.name ↔ f = g := by
  cases f <;> cases g <;> decide

theorem SettingField.lowerCase_name (f : SettingField) : lowerCase f.name = f.name := by
  cases f <;> decide +kernel

structure Settings where
  appEnv : Text
  logLevel : Text
  basePath : Text
  exposeHidden : Bool
  deriving DecidableEq, Repr

inductive SettingFault where
  | notText
  | notUtf8
  | notAbsolute (path : Text)
  | notBoolean
  | unreadableBoolean
  deriving DecidableEq, Repr

namespace SettingFault

def message : SettingFault → Text
  | notText => "Input should be a valid string"
  | notUtf8 => "Input should be a valid string, unable to parse raw data as a unicode string"
  | notAbsolute path => "Value error, raw_base_path must start with '/', got '" ++ path ++ "'"
  | notBoolean => "Input should be a valid boolean"
  | unreadableBoolean => "Input should be a valid boolean, unable to interpret input"

end SettingFault

/-- Where settings come from. The lines are those of a settings file. -/
structure SettingSources where
  arguments : List (Text × Value)
  environment : List (Text × Text)
  lines : List Text
  deriving Repr

namespace SettingSources

/-- A value ends in front of a comment, which is a number sign behind a blank. -/
def withoutComment : Text → Text
  | [] => []
  | c :: rest =>
    if isBlank c ∧ (rest.dropWhile isBlank).head? = some '#' then [] else c :: withoutComment rest

/-- A line without an equals sign, or one that is a comment, sets nothing. Blanks around the name
and the value do not count, but a comment may follow those in front of the value. -/
def assignment? (line : Text) : Option (Text × Text) :=
  let name := trimmed isBlank (line.takeWhile (· ≠ '='))
  if name.head? = some '#' ∨ '=' ∉ line then none
  else
    let value := withoutComment ((line.dropWhile (· ≠ '=')).drop 1)
    some (name, trimmed isBlank value)

/-- The values under a name in any case, in the order of the source. -/
def valuesOf {α : Type} (members : List (Text × α)) (name : Text) : List α :=
  (members.filter fun m => lowerCase m.1 = name).map (·.2)

theorem valuesOf_cons {α : Type} (key : Text) (a : α) (members : List (Text × α)) (name : Text) :
    valuesOf ((key, a) :: members) name =
      if lowerCase key = name then a :: valuesOf members name else valuesOf members name := by
  by_cases h : lowerCase key = name <;> simp [valuesOf, h]

/-- A member under the very name of a setting. -/
theorem valuesOf_named_cons {α : Type} (f : SettingField) (a : α) (members : List (Text × α))
    (g : SettingField) :
    valuesOf ((f.name, a) :: members) g.name =
      if f = g then a :: valuesOf members g.name else valuesOf members g.name := by
  simp only [valuesOf_cons, f.lowerCase_name, SettingField.name_inj]

/-- The last value under a name in any case, once equal names are merged. -/
def lastOf? (members : List (Text × Text)) (name : Text) : Option Text :=
  (valuesOf (tableOf (· == ·) members) name).getLast?

/-- The value given for a field, if any source gives one. -/
def given? (s : SettingSources) (f : SettingField) : Option Value :=
  (valuesOf s.arguments f.name).head?.or
    (((lastOf? s.environment f.name).or (lastOf? (s.lines.filterMap assignment?) f.name)).map
      .text)

theorem given?_of_argument {s : SettingSources} {f : SettingField} {v : Value}
    (h : (valuesOf s.arguments f.name).head? = some v) : s.given? f = some v := by
  simp [given?, h]

end SettingSources

namespace Settings

def defaults : Settings := ⟨"dev", "INFO", "/raw/", false⟩

/-- Octets are taken for the text that they are in UTF-8. -/
def checkText : Value → Except SettingFault Text
  | .atom (.text t) => .ok t
  | .atom (.octets b) | .atom (.buffer b) =>
    match ofUtf8? b with
    | some t => .ok t
    | none => .error .notUtf8
  | _ => .error .notText

def checkPath (v : Value) : Except SettingFault Text := do
  let path ← checkText v
  if path.head? = some '/' then .ok (slashEnded path) else .error (.notAbsolute path)

theorem checkPath_text (path : Text) :
    checkPath (.text path) =
      if path.head? = some '/' then .ok (slashEnded path) else .error (.notAbsolute path) := rfl

def trueWords : List Text :=
  ["1".toList, "true".toList, "t".toList, "yes".toList, "y".toList, "on".toList]

def falseWords : List Text :=
  ["0".toList, "false".toList, "f".toList, "no".toList, "n".toList, "off".toList]

/-- Words for truth values, in any case of their ASCII letters. -/
def readWord (t : Text) : Except SettingFault Bool :=
  let word := t.map Char.toLower
  if trueWords.contains word then .ok true
  else if falseWords.contains word then .ok false
  else .error .unreadableBoolean

/-- Zero and one are truth values, other integers of 64 bits are unreadable ones. -/
def readInteger (n : Int) : Except SettingFault Bool :=
  if n = 1 then .ok true
  else if n = 0 then .ok false
  else if KeyPart.InRange n then .error .unreadableBoolean
  else .error .notBoolean

/-- Numbers are read like the integers they equal, where those and their negatives have 64 bits. -/
def readNumber (x : Binary64) : Except SettingFault Bool :=
  match x.toInt? with
  | some n => if KeyPart.InRange (-n) then readInteger n else .error .notBoolean
  | none => .error .notBoolean

/-- A decimal number stands for the nearest number in binary64. -/
def checkBoolean : Value → Except SettingFault Bool
  | .atom (.boolean b) => .ok b
  | .atom (.text t) => readWord t
  | .atom (.octets b) =>
    match ofUtf8? b with
    | some t => readWord t
    | none => .error .unreadableBoolean
  | .atom (.integer n) => readInteger n
  | .atom (.double x) => readNumber x
  | .atom (.decimal d) => readNumber (.ofDecimal d)
  | _ => .error .notBoolean

/-- The check of a given value, or the default where none is given. -/
def chosen {α : Type} (check : Value → Except SettingFault α) (default : α) :
    Option Value → Except SettingFault α
  | none => .ok default
  | some v => check v

def faultOf {α : Type} (f : SettingField) :
    Except SettingFault α → List (SettingField × SettingFault)
  | .ok _ => []
  | .error e => [(f, e)]

/-- The settings that the sources give, or all faults in the order of the fields. -/
def resolve (s : SettingSources) : Except (List (SettingField × SettingFault)) Settings :=
  let appEnv := chosen checkText defaults.appEnv (s.given? .appEnv)
  let logLevel := chosen checkText defaults.logLevel (s.given? .logLevel)
  let basePath := chosen checkPath defaults.basePath (s.given? .basePath)
  let exposeHidden := chosen checkBoolean defaults.exposeHidden (s.given? .exposeHidden)
  match appEnv, logLevel, basePath, exposeHidden with
  | .ok appEnv, .ok logLevel, .ok basePath, .ok exposeHidden =>
    .ok ⟨appEnv, logLevel, basePath, exposeHidden⟩
  | _, _, _, _ =>
    .error (faultOf .appEnv appEnv ++ faultOf .logLevel logLevel ++ faultOf .basePath basePath ++
      faultOf .exposeHidden exposeHidden)

end Settings

end ServiceGateway
