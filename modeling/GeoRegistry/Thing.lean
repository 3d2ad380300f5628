/-
# Thing -- located things

A thing belongs to a type, lies at a projected position, and is owned by the
user who created it.  `Thing.Content` is what a client writes, under an id of its
own choice; a `Thing` is that and the audit fields, as it is stored.
`Thing.Summary` is a line of a list.
-/
import GeoRegistry.Audit

namespace GeoRegistry

set_option autoImplicit false

/-- The stage of a thing's life. -/
inductive Thing.Status where
  | planned
  | underConstruction
  | used
  | abandoned
  | demolished
  deriving DecidableEq, Repr

namespace Thing.Status

/-- The label a stage is stored under. -/
def label : Thing.Status → String
  | .planned => "Planifié"
  | .underConstruction => "En Construction"
  | .used => "Utilisé"
  | .abandoned => "Abandonné"
  | .demolished => "Démoli"

def all : List Thing.Status :=
  [.planned, .underConstruction, .used, .abandoned, .demolished]

/-- Read a stage by its label. -/
def read : Cell → Checked Thing.Status :=
  Scalar.choice (all.map fun s => (s.label, s))
    "'Planifié', 'En Construction', 'Utilisé', 'Abandonné' or 'Démoli'"

def toCell (s : Thing.Status) : Cell := .text s.label

end Thing.Status

structure Thing.Content where
  id : Uuid
  typeId : Int
  name : String
  description : Option String
  comment : Option String
  externalId : Option Int
  externalRef : Option String
  buildAt : Option Timestamp
  status : Option Thing.Status
  containedBy : Option Uuid
  containedByOld : Option Int
  inactivated : Bool
  inactivatedTime : Option Timestamp
  inactivatedBy : Option Int
  inactivatedReason : Option String
  validated : Bool
  validatedTime : Option Timestamp
  validatedBy : Option Int
  managedBy : Option Int
  moreData : Option Record
  posX : Binary64
  posY : Binary64
  deriving Repr

structure Thing where
  content : Thing.Content
  audit : Audit
  deriving Repr

structure Thing.Summary where
  id : Uuid
  typeId : Int
  name : String
  description : Option String
  externalId : Option Int
  inactivated : Bool
  validated : Bool
  status : Option Thing.Status
  createdBy : Int
  createdAt : Timestamp
  posX : Binary64
  posY : Binary64
  deriving Repr

open Record

namespace Thing.Content

def read (r : Record) : Checked Thing.Content :=
  Thing.Content.mk
    <$> required "id" Scalar.uuid r
    <*> required "type_id" Scalar.integer r
    <*> required "name" Scalar.text r
    <*> optional "description" Scalar.text r
    <*> optional "comment" Scalar.text r
    <*> optional "external_id" Scalar.integer r
    <*> optional "external_ref" Scalar.text r
    <*> optional "build_at" Scalar.time r
    <*> optional "status" Status.read r
    <*> optional "contained_by" Scalar.uuid r
    <*> optional "contained_by_old" Scalar.integer r
    <*> defaulted "inactivated" Scalar.bool false r
    <*> optional "inactivated_time" Scalar.time r
    <*> optional "inactivated_by" Scalar.integer r
    <*> optional "inactivated_reason" Scalar.text r
    <*> defaulted "validated" Scalar.bool false r
    <*> optional "validated_time" Scalar.time r
    <*> optional "validated_by" Scalar.integer r
    <*> optional "managed_by" Scalar.integer r
    <*> optional "more_data" Scalar.record r
    <*> required "pos_x" Scalar.float r
    <*> required "pos_y" Scalar.float r

def fields (c : Thing.Content) : Record :=
  [("id", .uuid c.id), ("type_id", .int c.typeId), ("name", .text c.name),
   ("description", .ofOption .text c.description), ("comment", .ofOption .text c.comment),
   ("external_id", .ofOption .int c.externalId), ("external_ref", .ofOption .text c.externalRef),
   ("build_at", .ofOption .time c.buildAt), ("status", .ofOption Status.toCell c.status),
   ("contained_by", .ofOption .uuid c.containedBy),
   ("contained_by_old", .ofOption .int c.containedByOld), ("inactivated", .bool c.inactivated),
   ("inactivated_time", .ofOption .time c.inactivatedTime),
   ("inactivated_by", .ofOption .int c.inactivatedBy),
   ("inactivated_reason", .ofOption .text c.inactivatedReason), ("validated", .bool c.validated),
   ("validated_time", .ofOption .time c.validatedTime),
   ("validated_by", .ofOption .int c.validatedBy), ("managed_by", .ofOption .int c.managedBy),
   ("more_data", .ofOption .record c.moreData), ("pos_x", .float c.posX), ("pos_y", .float c.posY)]

def shape : Shape Thing.Content := ⟨"ThingRequest", read, fields⟩

end Thing.Content

namespace Thing

def read (r : Record) : Checked Thing :=
  Thing.mk <$> Content.read r <*> Audit.read r

def fields (t : Thing) : Record :=
  t.content.fields ++ t.audit.fields

def shape : Shape Thing := ⟨"Thing", read, fields⟩

end Thing

namespace Thing.Summary

def read (r : Record) : Checked Thing.Summary :=
  Thing.Summary.mk
    <$> required "id" Scalar.uuid r
    <*> required "type_id" Scalar.integer r
    <*> required "name" Scalar.text r
    <*> optional "description" Scalar.text r
    <*> optional "external_id" Scalar.integer r
    <*> defaulted "inactivated" Scalar.bool false r
    <*> defaulted "validated" Scalar.bool false r
    <*> optional "status" Status.read r
    <*> required "created_by" Scalar.integer r
    <*> required "created_at" Scalar.time r
    <*> required "pos_x" Scalar.float r
    <*> required "pos_y" Scalar.float r

def fields (s : Thing.Summary) : Record :=
  [("id", .uuid s.id), ("type_id", .int s.typeId), ("name", .text s.name),
   ("description", .ofOption .text s.description), ("external_id", .ofOption .int s.externalId),
   ("inactivated", .bool s.inactivated), ("validated", .bool s.validated),
   ("status", .ofOption Status.toCell s.status), ("created_by", .int s.createdBy),
   ("created_at", .time s.createdAt), ("pos_x", .float s.posX), ("pos_y", .float s.posY)]

def shape : Shape Thing.Summary := ⟨"ThingList", read, fields⟩

end Thing.Summary

end GeoRegistry
