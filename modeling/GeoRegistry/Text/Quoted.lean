/-
# Text.Quoted -- a text shown between quotes

Single quotes, unless the text holds a single quote and no double one.  The
backslash and the quote in use are escaped, and so is every character that does
not show.
-/
import GeoRegistry.Text.Hidden
import GeoRegistry.Text.Digit
import GeoRegistry.Text.Surrogate

namespace GeoRegistry.Text

set_option autoImplicit false

/-- One character between the given quotes. -/
def quotedChar (mark : Char) (c : Char) : List Char :=
  if c = mark ∨ c = '\\' then ['\\', c]
  else if c = '\n' then ['\\', 'n']
  else if c = '\r' then ['\\', 'r']
  else if c = '\t' then ['\\', 't']
  else if isHidden c then escapedCode ((Surrogate.half? c).getD c.toNat)
  else [c]

/-- A text between quotes. -/
def quote (s : String) : String :=
  let cs := s.toList
  let mark := if cs.contains '\'' && !cs.contains '"' then '"' else '\''
  String.ofList (mark :: cs.flatMap (quotedChar mark) ++ [mark])

end GeoRegistry.Text
