/-
# Caller -- who sends a request

A caller is known by what its token says: a user id, whether it administers the
registry, and optionally how it logs in and is called.  All claims of the token
are kept beside them.
-/
import GeoRegistry.Validation.Scalar

namespace GeoRegistry

set_option autoImplicit false

structure Caller where
  userId : Int
  isAdmin : Bool := false
  login : Option String := none
  email : Option String := none
  name : Option String := none
  claims : Record := []
  deriving Repr

namespace Caller

open Record

def read (r : Record) : Checked Caller :=
  Caller.mk
    <$> required "user_id" Scalar.integer r
    <*> defaulted "is_admin" Scalar.bool false r
    <*> optional "login" Scalar.text r
    <*> optional "email" Scalar.text r
    <*> optional "name" Scalar.text r
    <*> defaulted "claims" Scalar.record [] r

def fields (c : Caller) : Record :=
  [("user_id", .int c.userId), ("is_admin", .bool c.isAdmin),
   ("login", .ofOption .text c.login), ("email", .ofOption .text c.email),
   ("name", .ofOption .text c.name), ("claims", .record c.claims)]

def shape : Shape Caller := ⟨"AuthenticatedUser", read, fields⟩

end Caller

end GeoRegistry
