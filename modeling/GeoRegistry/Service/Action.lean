/-
# Service.Action -- operations with all they need

An action is an operation whose parameters have been read.  `Operation.read`
gathers every complaint about the parameters: those of the filters first, then
path, query and body.  A filter is present in an action just when its parameter
was given; keywords that are empty count as not given.
-/
import GeoRegistry.Service
import GeoRegistry.Service.Endpoint
import GeoRegistry.Http.Document
import GeoRegistry.Registry.Things
import GeoRegistry.Registry.ThingTypes

namespace GeoRegistry

set_option autoImplicit false

open Record
open Store (Command)

/-- Which part of a list is asked for. -/
structure Page where
  offset : Int := 0
  /-- How many lines; unless given, as many as the settings say. -/
  limit : Option Int := none
  deriving DecidableEq, Repr

/-- Read a page from the parameters of a query. -/
def Page.read (query : Record) : Checked Page :=
  Page.mk
    <$> defaulted "offset" (Scalar.integerFrom 0) 0 query
    <*> optional "limit" (Scalar.integerFrom 1) query

/-- What a caller asks of the registry. -/
inductive Action where
  | listThings (filters : Sql.Filters) (page : Page)
  | thingFeatures (filters : Sql.Filters) (page : Page)
  | countThings (filters : Sql.Filters)
  | listThingsByExternalId (externalId : Int) (page : Page)
  | createThing (content : Thing.Content)
  | getThing (id : Uuid)
  | updateThing (id : Uuid) (content : Thing.Content)
  | deleteThing (id : Uuid)
  | listTypes (filters : Sql.Filters) (page : Page)
  | countTypes (filters : Sql.Filters)
  | createType (content : ThingType.Content)
  | getType (id : Int)
  | updateType (id : Int) (content : ThingType.Content)
  | deleteType (id : Int)

/-! ## Filters -/

/-- The filter on keywords. -/
def keywordFilter (query : Record) : Checked (String × Opt) :=
  (fun words => ("keywords", .ofOption .text (words.filter (!·.isEmpty))))
    <$> optional "keywords" Scalar.text query

/-- A filter on a number, under its own name. -/
def numberFilter (filter parameter : String) (query : Record) : Checked (String × Opt) :=
  (fun n => (filter, .ofOption .int n)) <$> optional parameter Scalar.integer query

/-- A filter on a mark that is set or not. -/
def markFilter (filter : String) (query : Record) : Checked (String × Opt) :=
  (fun b => (filter, .ofOption .bool b)) <$> optional filter Scalar.bool query

/-- Read filters one after another. -/
def readFilters (query : Record) : List (Record → Checked (String × Opt)) → Checked Sql.Filters
  | [] => pure []
  | read :: rest => (· :: ·) <$> read query <*> readFilters query rest

/-- The filters of a list of things. -/
def thingFilters : List (Record → Checked (String × Opt)) :=
  [numberFilter "type_id" "type", numberFilter "created_by" "created_by",
   markFilter "inactivated", markFilter "validated"]

/-- The filters of a search for things. -/
def searchFilters : List (Record → Checked (String × Opt)) :=
  thingFilters ++ [keywordFilter]

/-- The filters of a list of types. -/
def typeFilters : List (Record → Checked (String × Opt)) :=
  [keywordFilter, numberFilter "created_by" "created_by",
   numberFilter "external_id" "external_id", markFilter "inactivated"]

/-- The filters of a count of types. -/
def typeCountFilters : List (Record → Checked (String × Opt)) :=
  [keywordFilter, numberFilter "created_by" "created_by", markFilter "inactivated"]

/-! ## Reading -/

/-- What a request brings to an operation: the variables of its path, the
parameters of its query, and its document. -/
structure Incoming where
  path : Record := []
  query : Record := []
  document : Http.Document := none

namespace Incoming

def filters (i : Incoming) (reads : List (Record → Checked (String × Opt))) :
    Checked Sql.Filters :=
  (readFilters i.query reads).within (.name "query")

def page (i : Incoming) : Checked Page :=
  (Page.read i.query).within (.name "query")

/-- The variable of the path that holds an identifier. -/
def identifier {α : Type} (i : Incoming) (name : String) (read : Cell → Checked α) : Checked α :=
  (required name read i.path).within (.name "path")

end Incoming

/-- Read the parameters of an operation. -/
def Operation.read (i : Incoming) : Operation → Checked Action
  | .listThings => .listThings <$> i.filters thingFilters <*> i.page
  | .searchThings => .listThings <$> i.filters searchFilters <*> i.page
  | .thingFeatures => .thingFeatures <$> i.filters thingFilters <*> i.page
  | .countThings => .countThings <$> i.filters searchFilters
  | .listThingsByExternalId =>
      .listThingsByExternalId <$> i.identifier "external_id" Scalar.integer <*> i.page
  | .createThing => .createThing <$> i.document.read Thing.Content.shape
  | .getThing => .getThing <$> i.identifier "thing_id" Scalar.uuid
  | .updateThing =>
      .updateThing <$> i.identifier "thing_id" Scalar.uuid
        <*> i.document.read Thing.Content.shape
  | .deleteThing => .deleteThing <$> i.identifier "thing_id" Scalar.uuid
  | .listTypes => (fun page filters => .listTypes filters page) <$> i.page <*> i.filters typeFilters
  | .countTypes => .countTypes <$> i.filters typeCountFilters
  | .createType => .createType <$> i.document.read ThingType.Content.shape
  | .getType => .getType <$> i.identifier "type_thing_id" Scalar.integer
  | .updateType =>
      .updateType <$> i.identifier "type_thing_id" Scalar.integer
        <*> i.document.read ThingType.Content.shape
  | .deleteType => .deleteType <$> i.identifier "type_thing_id" Scalar.integer

/-! ## Performing -/

namespace Action

open Http

/-- A response that holds one document. -/
def item {α : Type} (shape : Shape α) (status : Nat) (a : α) : Response :=
  .json status (shape.toJson a)

/-- A response that holds a list. -/
def items {α : Type} (shape : Shape α) (list : List α) : Response :=
  .json 200 (.array (list.map shape.toJson))

/-- A response that holds a count. -/
def counted (n : Int) : Response :=
  item Count.shape 200 ⟨n⟩

/-- A response that holds a feature collection; the document of the database must
be one. -/
def collection (document : Json) : Except Failure Response :=
  match FeatureCollection.shape.ofCell (.ofJson document) with
  | .accepted c => .ok (item FeatureCollection.shape 200 c)
  | .refused issues => .error (.invalid FeatureCollection.shape.name issues)

/-- How many lines a page has. -/
def limit (page : Page) (standard : Int) : Cell :=
  .int (page.limit.getD standard)

/-- Do what a caller asks. -/
def perform (s : Settings) (caller : Caller) : Action → Dialogue Command Response
  | .listThings filters page => do
      return items Thing.Summary.shape
        (← s.registry.listThings filters (.int page.offset) (limit page s.thingPage))
  | .thingFeatures filters page => do
      .ofExcept (collection
        (← s.registry.thingFeatures filters (.int page.offset) (limit page s.thingPage)))
  | .countThings filters => do return counted (← s.registry.countThings filters)
  | .listThingsByExternalId externalId page => do
      return items Thing.Summary.shape (← s.registry.listThingsByExternalId (.int externalId)
        (.int page.offset) (limit page s.thingPage))
  | .createThing content => do
      return item Thing.shape 201 (← s.registry.createThing caller content)
  | .getThing id => do return item Thing.shape 200 (← s.registry.getThing id)
  | .updateThing id content => do
      return item Thing.shape 200 (← s.registry.updateThing caller id content)
  | .deleteThing id => do
      s.registry.deleteThing caller id
      return .noContent
  | .listTypes filters page => do
      return items ThingType.Summary.shape
        (← s.registry.listTypes filters (.int page.offset) (limit page s.typePage))
  | .countTypes filters => do return counted (← s.registry.countTypes filters)
  | .createType content => do
      return item ThingType.shape 201 (← s.registry.createType caller content)
  | .getType id => do return item ThingType.shape 200 (← s.registry.getType caller id)
  | .updateType id content => do
      return item ThingType.shape 200 (← s.registry.updateType caller id content)
  | .deleteType id => do
      s.registry.deleteType caller id
      return .noContent

end Action

end GeoRegistry
