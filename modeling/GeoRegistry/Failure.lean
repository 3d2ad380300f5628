/-
# Failure -- every way an operation can end without a result

A refusal is one of the registry's own rules.  The other endings are a read that
matched nothing, a caller who is not known, a row or document of the wrong shape,
and faults of values that no rule foresees.
-/
import GeoRegistry.Refusal
import GeoRegistry.Validation.Issue
import GeoRegistry.Token.KeyFault
import GeoRegistry.Password.Fault

namespace GeoRegistry

set_option autoImplicit false

inductive Failure where
  | refused (error : DomainError)
  /-- A query matched no row. -/
  | noRows
  /-- The caller is not known; the answer challenges for a bearer token. -/
  | unauthorized (detail : String)
  /-- A record does not have the named shape. -/
  | invalid (shape : String) (issues : List Issue)
  /-- A text is no JSON document. -/
  | notJson
  /-- A value has a type that the operation has no meaning for. -/
  | wrongType
  /-- A value lacks what the operation asks of it. -/
  | noAttribute
  /-- A value is out of the operation's range; what is said about it. -/
  | badValue (message : String)
  /-- A number is too large for the operation. -/
  | overflow (message : String)
  /-- A moment lies in a year that has no number. -/
  | undated
  /-- A name is missing from a table. -/
  | noKey (name : String)
  /-- A statement failed in a way that is no fault of the database. -/
  | interrupted (failure : StatementFailure)
  /-- Tokens cannot be signed. -/
  | unsignable (fault : Token.KeyFault)
  /-- The signatures of tokens cannot be compared. -/
  | badKey (fault : Token.KeyFault)
  /-- A text has no octets. -/
  | unencodable (fault : Text.Unencodable)
  /-- A document holds a text that has no octets. -/
  | unwritable (fault : Text.Unencodable)
  /-- Too many values lie within one another in a document. -/
  | tooHigh
  /-- A JSON text is nested too deep. -/
  | tooDeep (container : Json.Container)
  /-- A text is no password that is written out. -/
  | unknownHash
  /-- A password that is written out cannot be compared with. -/
  | badHash (fault : Password.Fault)
  /-- A text is too long for a password. -/
  | passwordTooLong
  /-- A setting is not written in JSON. -/
  | malformedSetting (field : String)
  /-- The settings describe no service; why. -/
  | unusable (reason : String)
  /-- The program ends with an exit status. -/
  | exit (status : Nat)
  deriving Repr

namespace Failure

/-- A refusal that says what it says by default. -/
def refusal (r : Refusal) : Failure :=
  .refused (.plain r)

end Failure

/-- How many values may lie within one another in an open field of a record. -/
def Json.mostHeight : Nat := 254

/-- A document whose texts all have octets. -/
def Json.encodable (v : Json) : Except Failure Json :=
  match v.unencodable? with
  | some fault => .error (.unwritable fault)
  | none => .ok v

/-- A document of records: all texts have octets, and no open field is too high. -/
def Json.written (v : Json) : Except Failure Json :=
  if Json.mostHeight < v.contentHeight then .error .tooHigh else v.encodable

end GeoRegistry
