import AliasBook.Value

/-! Log records, and the levels that rank them. -/

namespace AliasBook

namespace Level

/-- The level below all others, which also stands for none of its own. -/
def unset : Int := 0

def debug : Int := 10

def warning : Int := 30

/-- The names of levels and the numbers they stand for. Two levels have two names. -/
def numbers : List (String × Int) :=
  [("NOTSET", unset), ("DEBUG", debug), ("INFO", 20), ("WARN", warning), ("WARNING", warning),
    ("ERROR", 40), ("FATAL", 50), ("CRITICAL", 50)]

/-- The number of the level with the name, which has to be in capitals. -/
def number? (name : String) : Option Int :=
  numbers.lookup name

/-- The name that records show for a level. -/
def name (level : Int) : String :=
  match level with
  | 0 => "NOTSET"
  | 10 => "DEBUG"
  | 20 => "INFO"
  | 30 => "WARNING"
  | 40 => "ERROR"
  | 50 => "CRITICAL"
  | n => "Level " ++ String.ofList (Value.intChars n)

end Level

/-- Something that happened, as a logger tells it. -/
structure Record where
  level : Int
  logger : String
  message : String
  context : List (String × Value) := []

end AliasBook
