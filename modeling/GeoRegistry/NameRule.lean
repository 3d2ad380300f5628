/-
# NameRule -- what counts as a name

A name is measured in characters once the blanks around it are dropped: none is
a blank name, fewer than the least length a short one.  A name that passes is
kept as it was given, blanks included.
-/
import GeoRegistry.Refusal
import GeoRegistry.Text.Blank

namespace GeoRegistry.NameRule

set_option autoImplicit false

open Text

/-- The least length unless another one is configured. -/
def defaultLeast : Int := 5

/-- The number of characters between the blanks around a name. -/
def measure (name : String) : Nat :=
  (trimBy isBlank name.toList).length

/-- Check a name against the rule. -/
def check (field : String) (least : Int) (name : String) : Except Refusal Unit :=
  let found := measure name
  if found = 0 then .error (.fieldEmpty field)
  else if (found : Int) < least then .error (.fieldTooShort field least found)
  else .ok ()

/-- The name that passes the rule; no name at all is a blank one. -/
def accept (field : String) (least : Int) (name : Option String) : Except Refusal String :=
  let given := name.getD ""
  (check field least given).map fun _ => given

end GeoRegistry.NameRule
