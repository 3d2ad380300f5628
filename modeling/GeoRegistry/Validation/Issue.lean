/-
# Validation.Issue -- what can be wrong with a value

A complaint is a kind, the place of the value, and the value itself.  Kinds that
state a rule carry its text; kinds about the spelling of identifiers and
timestamps have a code only.
-/
import GeoRegistry.Cell

namespace GeoRegistry

set_option autoImplicit false

/-- One step on the way from the whole input to a part of it. -/
inductive Locus where
  | name (s : String)
  | index (n : Nat)
  deriving DecidableEq, Repr

/-- What is wrong with a value. -/
inductive IssueKind where
  | missing
  | integerType
  | integerText
  | integerFraction
  | integerSize
  | numberType
  | numberText
  | notFinite
  | boolType
  | boolText
  | textType
  /-- A text that has no octets. -/
  | textOctets
  | listType
  | recordType
  | uuidType
  | uuidText
  | timeType
  | timeText
  /-- None of the choices; their listing in prose. -/
  | choice (listing : String)
  /-- Below the least value allowed. -/
  | tooSmall (least : Int)
  /-- No record where one with a named shape belongs. -/
  | shape (name : String)
  /-- No record where a request body with a shape belongs. -/
  | bodyShape
  /-- No JSON text. -/
  | json
  deriving DecidableEq, Repr

namespace IssueKind

/-- The code that names a kind. -/
def code : IssueKind → String
  | .missing => "missing"
  | .integerType => "int_type"
  | .integerText => "int_parsing"
  | .integerFraction => "int_from_float"
  | .integerSize => "int_parsing_size"
  | .numberType => "float_type"
  | .numberText => "float_parsing"
  | .notFinite => "finite_number"
  | .boolType => "bool_type"
  | .boolText => "bool_parsing"
  | .textType => "string_type"
  | .textOctets => "string_unicode"
  | .listType => "list_type"
  | .recordType => "dict_type"
  | .uuidType => "uuid_type"
  | .uuidText => "uuid_parsing"
  | .timeType => "datetime_type"
  | .timeText => "datetime_parsing"
  | .choice _ => "enum"
  | .tooSmall _ => "greater_than_equal"
  | .shape _ => "model_type"
  | .bodyShape => "model_attributes_type"
  | .json => "json_invalid"

/-- The rule that a value breaks, in words. -/
def message? : IssueKind → Option String
  | .missing => some "Field required"
  | .integerType => some "Input should be a valid integer"
  | .integerText => some "Input should be a valid integer, unable to parse string as an integer"
  | .integerFraction =>
      some "Input should be a valid integer, got a number with a fractional part"
  | .integerSize => some "Unable to parse input string as an integer, exceeded maximum size"
  | .numberType => some "Input should be a valid number"
  | .numberText => some "Input should be a valid number, unable to parse string as a number"
  | .notFinite => some "Input should be a finite number"
  | .boolType => some "Input should be a valid boolean"
  | .boolText => some "Input should be a valid boolean, unable to interpret input"
  | .textType => some "Input should be a valid string"
  | .textOctets =>
      some "Input should be a valid string, unable to parse raw data as a unicode string"
  | .listType => some "Input should be a valid list"
  | .recordType => some "Input should be a valid dictionary"
  | .choice listing => some ("Input should be " ++ listing)
  | .tooSmall least => some ("Input should be greater than or equal to " ++ toString least)
  | .shape name => some ("Input should be a valid dictionary or instance of " ++ name)
  | .bodyShape =>
      some "Input should be a valid dictionary or object to extract fields from"
  | .uuidType | .uuidText | .timeType | .timeText | .json => none

/-- The parameters of the rule. -/
def context? : IssueKind → Option Json
  | .choice listing => some (.object [("expected", .text listing)])
  | .tooSmall least => some (.object [("ge", .int least)])
  | .shape name => some (.object [("class_name", .text name)])
  | _ => none

end IssueKind

structure Issue where
  kind : IssueKind
  place : List Locus
  input : Cell
  deriving Repr

namespace Issue

/-- The same complaint about a part that lies one step further in. -/
def within (step : Locus) (i : Issue) : Issue :=
  { i with place := step :: i.place }

def Locus.toJson : Locus → Json
  | .name s => .text s
  | .index n => .int n

/-- A complaint as it stands in an answer; `write` shows the offending value. -/
def toJsonWith (write : Cell → Json) (i : Issue) : Json :=
  .object <|
    [("type", .text i.kind.code), ("loc", .array (i.place.map Locus.toJson))] ++
      (i.kind.message?.map fun m => ("msg", Json.text m)).toList ++
      [("input", write i.input)] ++
      (i.kind.context?.map fun c => ("ctx", c)).toList

end Issue

end GeoRegistry
