/-
# Filter -- filter values that may be absent

Zero, false and the empty text are values; only an absent filter leaves its
column free.  Bound to a statement, an absent filter is NULL.
-/
import GeoRegistry.Cell

namespace GeoRegistry

set_option autoImplicit false

/-- The cell is no value. -/
def Opt.isNull : Cell → Bool
  | .null => true
  | _ => false

/-- A filter: whether it is present, and its value, which a present one has. -/
structure Opt where
  present : Bool := false
  value : Cell := .null
  valued : present = true → Opt.isNull value = false := by simp
  deriving Repr

namespace Opt

/-- The message that refuses a present filter without a value. -/
def missingValue : String := "a present filter needs a value, use Opt.absent()"

/-- A filter with the given parts; a present one needs a value. -/
def new (present : Bool) (value : Cell) : Except String Opt :=
  if missing : present && isNull value then .error missingValue
  else .ok ⟨present, value, fun there => by simpa [there] using missing⟩

def absent : Opt := {}

def of (value : Cell) : Except String Opt :=
  new true value

/-- A filter that is absent when the value is null. -/
def ofCell (value : Cell) : Opt :=
  if missing : isNull value then absent else ⟨true, value, fun _ => by simpa using missing⟩

/-- A filter that is absent when there is no value. -/
def ofOption {α : Type} (inject : α → Cell) (value : Option α) : Opt :=
  ofCell (.ofOption inject value)

/-- The value bound to a statement. -/
def toParam (o : Opt) : Cell :=
  if o.present then o.value else .null

/-- The filter is the absent one, value and all. -/
def isAbsent (o : Opt) : Bool :=
  !o.present && isNull o.value

end Opt

end GeoRegistry
