/-!
# Levels of the log

Every record has a level, and a logger shows the records from a level on. A level is a number; eight
names stand for six of them. A logger may also be given true or false, which it keeps as it is and
which count as one and zero.

Source: the names of levels that `_coerce_level`, `set_level` and `dictConfig` look up.
-/

namespace TypeMismatch

/-- A name of a level. -/
inductive LevelName where
  | critical
  | fatal
  | error
  | warn
  | warning
  | info
  | debug
  | notset
deriving DecidableEq, Repr

namespace LevelName

/-- The name in writing. -/
def text : LevelName → String
  | critical => "CRITICAL"
  | fatal => "FATAL"
  | error => "ERROR"
  | warn => "WARN"
  | warning => "WARNING"
  | info => "INFO"
  | debug => "DEBUG"
  | notset => "NOTSET"

/-- The level that a name stands for. -/
def number : LevelName → Int
  | critical | fatal => 50
  | error => 40
  | warn | warning => 30
  | info => 20
  | debug => 10
  | notset => 0

/-- All names. -/
def all : List LevelName := [critical, fatal, error, warn, warning, info, debug, notset]

/-- The name with a given spelling, which is in upper case. -/
def ofText? (s : String) : Option LevelName := all.find? (·.text == s)

/-- The spelling of a level's name is read as that name. -/
theorem ofText?_text (n : LevelName) : ofText? n.text = some n := by cases n <;> rfl

end LevelName

/-- A level as a logger keeps it. -/
inductive Level where
  | number (n : Int)
  | truth (b : Bool)
deriving DecidableEq, Repr

namespace Level

/-- The level of a logger that has none of its own. -/
def unset : Level := number 0

/-- The number that a level counts as. -/
def amount : Level → Int
  | number n => n
  | truth b => if b then 1 else 0

/-- The level that a name stands for. -/
def ofName (n : LevelName) : Level := number n.number

end Level
end TypeMismatch
