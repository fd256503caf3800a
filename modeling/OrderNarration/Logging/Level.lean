import OrderNarration.Value

/-!
# Levels

A level is a whole number on the scale of urgency. Loggers and handlers let pass
what reaches their level. Six levels have names, two of them a second one.
-/

namespace OrderNarration.Logging

/-- A whole number on the scale of urgency. -/
abbrev Level := Int

namespace Level

/-- The level below which handlers and loggers without a level of their own let all pass. -/
def notSet : Level := 0

/-- Details of single steps. -/
def debug : Level := 10

/-- Ordinary progress. -/
def info : Level := 20

/-- Something unexpected that does not stop the work. -/
def warning : Level := 30

/-- Something that was left out of the result. -/
def error : Level := 40

/-- Something that ends the work. -/
def critical : Level := 50

/-- The names of levels; a level is called by the first of its names. -/
def names : List (Text × Level) :=
  [("NOTSET", notSet), ("DEBUG", debug), ("INFO", info), ("WARNING", warning), ("WARN", warning),
    ("ERROR", error), ("CRITICAL", critical), ("FATAL", critical)]

/-- The name of a level that has one. -/
def name? (level : Level) : Option Text := (names.find? (·.2 = level)).map Prod.fst

/-- The level that has a name. -/
def ofName? (name : Text) : Option Level := Entries.get? name names

end Level

/-- Why a value gives no level. -/
inductive LevelError where
  | unknownName (name : Text)
  | notALevel (value : Value)

/-- The wording of the error. -/
def LevelError.message : LevelError → Text
  | unknownName name => "Unknown level: " ++ name.quoted
  | notALevel v => "Level not an integer or a valid string: " ++ v.quoted

/-- The level that a value gives: an integer is a level, and a text names one. A fraction is no
level, not even if it is equal to a whole number. -/
def Level.ofValue : Value → Except LevelError Level
  | .int n => .ok n
  | .bool b => .ok (if b then 1 else 0)
  | .text name =>
    match Level.ofName? name with
    | some level => .ok level
    | none => .error (.unknownName name)
  | v => .error (.notALevel v)

end OrderNarration.Logging
