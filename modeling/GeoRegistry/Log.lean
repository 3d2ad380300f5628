/-
# Log -- events and the levels they are logged at

Every operation reports what it does as a list of entries; who keeps the log
decides by level which of them are shown.
-/
import GeoRegistry.Cell.Quoted

namespace GeoRegistry.Log

set_option autoImplicit false

inductive Level where
  | notSet
  | debug
  | info
  | warning
  | error
  | critical
  deriving DecidableEq, Repr

namespace Level

def rank : Level → Int
  | .notSet => 0
  | .debug => 10
  | .info => 20
  | .warning => 30
  | .error => 40
  | .critical => 50

def name : Level → String
  | .notSet => "NOTSET"
  | .debug => "DEBUG"
  | .info => "INFO"
  | .warning => "WARNING"
  | .error => "ERROR"
  | .critical => "CRITICAL"

def all : List Level :=
  [.notSet, .debug, .info, .warning, .error, .critical]

/-- The level of a configured name.  Two levels have an old name beside theirs. -/
def ofName? (s : String) : Option Level :=
  if s = "FATAL" then some .critical
  else if s = "WARN" then some .warning
  else all.find? (·.name == s)

/-- The level of a rank, which any number may spell. -/
def ofRank? : Cell → Option Level
  | .bool b => all.find? (·.rank == if b then 1 else 0)
  | .int n => all.find? (·.rank == n)
  | .float x => all.find? fun level => x.whole? == some level.rank
  | _ => none

/-- A rank by its name, and a level by its rank; what is neither is called by its
text. -/
def called (rank : Cell) : Cell :=
  let own := match rank with
    | .text s => (ofName? s).map fun level : Level => Cell.int level.rank
    | c => (ofRank? c).map fun level : Level => Cell.text level.name
  own.getD (.text ("Level " ++ rank.prose))

end Level

/-- One event: where it happened, what is said, and named context. -/
structure Entry where
  level : Level
  logger : String
  message : String
  extra : Record := []
  /-- An exception is attached. -/
  exception : Bool := false
  deriving Repr

/-- The entries that a log kept from a level upwards shows. -/
def shown (threshold : Level) (entries : List Entry) : List Entry :=
  entries.filter fun e => threshold.rank ≤ e.level.rank

/-! ## Configuration -/

/-- How the log is kept: from which level, and whether as JSON lines. -/
structure Setup where
  level : Level
  json : Bool

/-- The refusal of a level that has no meaning. -/
def unknownLevel : String := "Unable to configure handler 'default'"

/-- Configure the log by the name of its level. -/
def configure (level : String) (json : Bool) : Except String Setup :=
  match Level.ofName? level with
  | some level => .ok ⟨level, json⟩
  | none => .error unknownLevel

end GeoRegistry.Log
