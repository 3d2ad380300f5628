/-
# Json -- JSON values

Objects keep their fields in order.  A whole number and a floating-point number
are different values: `1` is not `1.0`.
-/
import GeoRegistry.Binary64
import GeoRegistry.Text.Surrogate

namespace GeoRegistry

set_option autoImplicit false

inductive Json where
  | null
  | bool (b : Bool)
  | int (n : Int)
  | float (x : Binary64)
  | text (s : String)
  | array (items : List Json)
  | object (fields : List (String × Json))
  deriving Repr, Inhabited

namespace Json

/-- What holds other values. -/
inductive Container where
  | array
  | object
  deriving DecidableEq, Repr

/-- Record a field: the value of a name already present is replaced in place. -/
def put {α : Type} (fields : List (String × α)) (name : String) (value : α) : List (String × α) :=
  if fields.any (·.1 == name) then
    fields.map fun f => if f.1 == name then (name, value) else f
  else fields ++ [(name, value)]

/-- The fields read one after another, each name once: it stands where it was
first written and holds what was written last. -/
def distinct {α : Type} (fields : List (String × α)) : List (String × α) :=
  fields.foldl (fun acc f => put acc f.1 f.2) []

/-- The value of a field of an object. -/
def field? (name : String) : Json → Option Json
  | .object fields => fields.lookup name
  | _ => none

mutual

/-- A value with every number that JSON cannot write replaced by null. -/
def finite : Json → Json
  | .float x => if x.isFinite then .float x else .null
  | .array items => .array (finiteItems items)
  | .object fields => .object (finiteFields fields)
  | v => v

def finiteItems : List Json → List Json
  | [] => []
  | v :: rest => v.finite :: finiteItems rest

def finiteFields : List (String × Json) → List (String × Json)
  | [] => []
  | (name, v) :: rest => (name, v.finite) :: finiteFields rest

end

mutual

/-- Every number in the value is one that JSON can write. -/
def isFinite : Json → Bool
  | .float x => x.isFinite
  | .array items => itemsFinite items
  | .object fields => fieldsFinite fields
  | _ => true

def itemsFinite : List Json → Bool
  | [] => true
  | v :: rest => v.isFinite && itemsFinite rest

def fieldsFinite : List (String × Json) → Bool
  | [] => true
  | (_, v) :: rest => v.isFinite && fieldsFinite rest

end

mutual

/-- The fault of the first text in a value that has no octets. -/
def unencodable? : Json → Option Text.Unencodable
  | .text s => Text.unencodable? s
  | .array items => itemsUnencodable? items
  | .object fields => fieldsUnencodable? fields
  | _ => none

def itemsUnencodable? : List Json → Option Text.Unencodable
  | [] => none
  | v :: rest => v.unencodable?.orElse fun _ => itemsUnencodable? rest

def fieldsUnencodable? : List (String × Json) → Option Text.Unencodable
  | [] => none
  | (name, v) :: rest =>
      (Text.unencodable? name).orElse fun _ =>
        v.unencodable?.orElse fun _ => fieldsUnencodable? rest

end

mutual

/-- How many values lie within one another in a value, itself counted. -/
def height : Json → Nat
  | .array items => 1 + itemsHeight items
  | .object fields => 1 + fieldsHeight fields
  | _ => 1

def itemsHeight : List Json → Nat
  | [] => 0
  | v :: rest => max v.height (itemsHeight rest)

def fieldsHeight : List (String × Json) → Nat
  | [] => 0
  | (_, v) :: rest => max v.height (fieldsHeight rest)

end

/-- The height of what a field holds that is open: an object of anything, or a
list of such objects. -/
def openHeight : Json → Nat
  | .object fields => fieldsHeight fields
  | .array items =>
      items.foldl (fun n v => match v with | .object fields => max n (fieldsHeight fields) | _ => n) 0
  | _ => 0

/-- The height of what the open fields of a record hold, or of a list of records. -/
def contentHeight : Json → Nat
  | .object fields => fields.foldl (fun n f => max n f.2.openHeight) 0
  | .array items =>
      items.foldl
        (fun n v =>
          match v with
          | .object fields => fields.foldl (fun n f => max n f.2.openHeight) n
          | _ => n)
        0
  | _ => 0

end Json

end GeoRegistry
