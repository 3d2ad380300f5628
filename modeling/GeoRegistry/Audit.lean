/-
# Audit -- who touched a row, and when

The registry sets these fields itself; no request can.
-/
import GeoRegistry.Validation.Scalar

namespace GeoRegistry

set_option autoImplicit false

structure Audit where
  createdAt : Option Timestamp
  createdBy : Option Int
  lastModifiedAt : Option Timestamp
  lastModifiedBy : Option Int
  deleted : Bool
  deletedAt : Option Timestamp
  deletedBy : Option Int
  deriving Repr

namespace Audit

open Record

def read (r : Record) : Checked Audit :=
  Audit.mk
    <$> optional "created_at" Scalar.time r
    <*> optional "created_by" Scalar.integer r
    <*> optional "last_modified_at" Scalar.time r
    <*> optional "last_modified_by" Scalar.integer r
    <*> defaulted "deleted" Scalar.bool false r
    <*> optional "deleted_at" Scalar.time r
    <*> optional "deleted_by" Scalar.integer r

def fields (a : Audit) : Record :=
  [("created_at", .ofOption .time a.createdAt), ("created_by", .ofOption .int a.createdBy),
   ("last_modified_at", .ofOption .time a.lastModifiedAt),
   ("last_modified_by", .ofOption .int a.lastModifiedBy), ("deleted", .bool a.deleted),
   ("deleted_at", .ofOption .time a.deletedAt), ("deleted_by", .ofOption .int a.deletedBy)]

end Audit

end GeoRegistry
