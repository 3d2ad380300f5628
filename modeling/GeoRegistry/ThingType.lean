/-
# ThingType -- the types things belong to

Administrators manage the types; everyone may list them.  `ThingType.Content` is
what an administrator writes, a `ThingType` is that under the number the database
gave it, with the audit fields.  `ThingType.Summary` is a line of a list.
-/
import GeoRegistry.Audit

namespace GeoRegistry

set_option autoImplicit false

structure ThingType.Content where
  name : String
  description : Option String
  comment : Option String
  externalId : Option Int
  tableName : Option String
  geometryType : Option String
  inactivated : Bool
  inactivatedTime : Option Timestamp
  inactivatedBy : Option Int
  inactivatedReason : Option String
  managedBy : Option Int
  iconPath : String
  moreDataSchema : Option Record
  deriving Repr

structure ThingType where
  id : Int
  content : ThingType.Content
  audit : Audit
  deriving Repr

structure ThingType.Summary where
  id : Int
  name : String
  externalId : Option Int
  tableName : Option String
  geometryType : Option String
  inactivated : Bool
  managedBy : Option Int
  iconPath : String
  createdBy : Int
  createdAt : Timestamp
  deriving Repr

open Record

namespace ThingType.Content

def read (r : Record) : Checked ThingType.Content :=
  ThingType.Content.mk
    <$> required "name" Scalar.text r
    <*> optional "description" Scalar.text r
    <*> optional "comment" Scalar.text r
    <*> optional "external_id" Scalar.integer r
    <*> optional "table_name" Scalar.text r
    <*> optional "geometry_type" Scalar.text r
    <*> defaulted "inactivated" Scalar.bool false r
    <*> optional "inactivated_time" Scalar.time r
    <*> optional "inactivated_by" Scalar.integer r
    <*> optional "inactivated_reason" Scalar.text r
    <*> optional "managed_by" Scalar.integer r
    <*> defaulted "icon_path" Scalar.text "" r
    <*> optional "more_data_schema" Scalar.record r

def fields (c : ThingType.Content) : Record :=
  [("name", .text c.name), ("description", .ofOption .text c.description),
   ("comment", .ofOption .text c.comment), ("external_id", .ofOption .int c.externalId),
   ("table_name", .ofOption .text c.tableName), ("geometry_type", .ofOption .text c.geometryType),
   ("inactivated", .bool c.inactivated), ("inactivated_time", .ofOption .time c.inactivatedTime),
   ("inactivated_by", .ofOption .int c.inactivatedBy),
   ("inactivated_reason", .ofOption .text c.inactivatedReason),
   ("managed_by", .ofOption .int c.managedBy), ("icon_path", .text c.iconPath),
   ("more_data_schema", .ofOption .record c.moreDataSchema)]

def shape : Shape ThingType.Content := ⟨"TypeThingRequest", read, fields⟩

end ThingType.Content

namespace ThingType

def read (r : Record) : Checked ThingType :=
  ThingType.mk <$> required "id" Scalar.integer r <*> Content.read r <*> Audit.read r

def fields (t : ThingType) : Record :=
  ("id", .int t.id) :: t.content.fields ++ t.audit.fields

def shape : Shape ThingType := ⟨"TypeThing", read, fields⟩

end ThingType

namespace ThingType.Summary

def read (r : Record) : Checked ThingType.Summary :=
  ThingType.Summary.mk
    <$> required "id" Scalar.integer r
    <*> required "name" Scalar.text r
    <*> optional "external_id" Scalar.integer r
    <*> optional "table_name" Scalar.text r
    <*> optional "geometry_type" Scalar.text r
    <*> defaulted "inactivated" Scalar.bool false r
    <*> optional "managed_by" Scalar.integer r
    <*> defaulted "icon_path" Scalar.text "" r
    <*> required "created_by" Scalar.integer r
    <*> required "created_at" Scalar.time r

def fields (s : ThingType.Summary) : Record :=
  [("id", .int s.id), ("name", .text s.name), ("external_id", .ofOption .int s.externalId),
   ("table_name", .ofOption .text s.tableName), ("geometry_type", .ofOption .text s.geometryType),
   ("inactivated", .bool s.inactivated), ("managed_by", .ofOption .int s.managedBy),
   ("icon_path", .text s.iconPath), ("created_by", .int s.createdBy),
   ("created_at", .time s.createdAt)]

def shape : Shape ThingType.Summary := ⟨"TypeThingList", read, fields⟩

end ThingType.Summary

end GeoRegistry
