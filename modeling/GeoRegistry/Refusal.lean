/-
# Refusal -- the errors of the registry's rules

Each refusal carries a stable code, and the code alone decides the HTTP status
(`statusOfCode`).  Refusals specialise one another: a blank name is an invalid
input, a storage failure an internal one.  The detail of an internal refusal
stays inside: `wireBody` shows a fixed text instead.
-/
import GeoRegistry.Json

namespace GeoRegistry

set_option autoImplicit false

inductive Refusal where
  /-- No more specific rule. -/
  | general
  | notFound
  | alreadyExists
  | invalidInput
  /-- A required field is blank. -/
  | fieldEmpty (field : String)
  /-- A field is shorter than its least length once trimmed. -/
  | fieldTooShort (field : String) (least found : Int)
  | typeNotFound
  | notOwner
  | adminRequired
  /-- A statement was given up at its deadline. -/
  | cancelled
  | internal
  /-- The database failed, or did less than it was told to. -/
  | storage
  deriving DecidableEq, Repr

namespace Refusal

/-- The code that names a refusal to clients. -/
def code : Refusal → String
  | .general | .internal | .storage => "internal"
  | .notFound => "not_found"
  | .alreadyExists => "already_exists"
  | .invalidInput | .fieldEmpty _ | .fieldTooShort .. => "invalid_input"
  | .typeNotFound => "type_not_found"
  | .notOwner => "not_owner"
  | .adminRequired => "admin_required"
  | .cancelled => "cancelled"

/-- What a refusal says when nothing more specific is said. -/
def defaultDetail : Refusal → String
  | .general | .internal => "internal error"
  | .notFound => "thing not found"
  | .alreadyExists => "thing already exists"
  | .invalidInput => "invalid input"
  | .fieldEmpty field => "field " ++ field ++ " cannot be empty"
  | .fieldTooShort field least found =>
      "field " ++ field ++ " minimum length is " ++ toString least ++ ", found " ++ toString found
  | .typeNotFound => "type thing not found"
  | .notOwner => "user is not the owner"
  | .adminRequired => "only admin users can manage type things"
  | .cancelled => "operation cancelled before completion"
  | .storage => "storage failure"

/-- The next more general refusal. -/
def general? : Refusal → Option Refusal
  | .general => none
  | .fieldEmpty _ | .fieldTooShort .. => some .invalidInput
  | .storage => some .internal
  | _ => some .general

/-- The refusals more general than this one, nearest first. -/
def ancestors (r : Refusal) : List Refusal :=
  match r.general? with
  | none => []
  | some s =>
      match s.general? with
      | none => [s]
      | some t => [s, t]

/-- The refusals whose detail is kept from clients. -/
def isInternal : Refusal → Bool
  | .internal | .storage => true
  | _ => false

/-- The HTTP status of a code; an unknown code is an internal error. -/
def statusOfCode (code : String) : Nat :=
  if code = "not_found" then 404
  else if code = "already_exists" then 409
  else if code = "invalid_input" then 400
  else if code = "type_not_found" then 422
  else if code = "not_owner" then 403
  else if code = "admin_required" then 403
  else if code = "cancelled" then 504
  else 500

end Refusal

/-- How the database driver reports that a statement failed. -/
inductive StatementFault where
  | timeout
  | postgres
  | uniqueViolation
  | foreignKeyViolation
  | queryCanceled
  | interface
  | os
  | connectionRefused
  /-- The task that ran the statement was cancelled; no fault of the database. -/
  | cancelled
  /-- A fault of the calling code, not of the database. -/
  | value
  deriving DecidableEq, Repr

structure StatementFailure where
  fault : StatementFault
  message : String
  deriving DecidableEq, Repr

/-- What led to an error. -/
inductive Cause where
  | statement (failure : StatementFailure)
  | noRows
  | storage
  deriving DecidableEq, Repr

/-- A refusal as it is raised: what it says, and what led to it, nearest first. -/
structure DomainError where
  refusal : Refusal
  detail : String
  causes : List Cause := []
  deriving DecidableEq, Repr

namespace DomainError

/-- A refusal that says what it says by default. -/
def plain (r : Refusal) : DomainError :=
  ⟨r, r.defaultDetail, []⟩

/-- A refusal with a detail of its own, unless that is empty. -/
def ofDetail (r : Refusal) (detail : String) : DomainError :=
  ⟨r, if detail.isEmpty then r.defaultDetail else detail, []⟩

def because (cause : Cause) (e : DomainError) : DomainError :=
  { e with causes := cause :: e.causes }

/-- What clients are told in detail. -/
def wireDetail (e : DomainError) : String :=
  if e.refusal.isInternal then Refusal.defaultDetail .internal else e.detail

/-- The body of the answer to a refused request, under the given code. -/
def wireBody (code : String) (e : DomainError) : Json :=
  .object [("code", .text code), ("detail", .text e.wireDetail)]

def status (e : DomainError) : Nat :=
  Refusal.statusOfCode e.refusal.code

end DomainError

end GeoRegistry
