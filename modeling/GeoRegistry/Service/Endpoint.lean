/-
# Service.Endpoint -- what the service offers, and where

Operations on the registry are for known callers only and lie under the prefix
of the settings, as does the status of the caller.  Everything else is open to
all and lies at the root.
-/
import GeoRegistry.Http.Route

namespace GeoRegistry

set_option autoImplicit false

/-- What a caller can do with the registry. -/
inductive Operation where
  | listThings
  | createThing
  | thingFeatures
  | countThings
  | searchThings
  | listThingsByExternalId
  | getThing
  | updateThing
  | deleteThing
  | listTypes
  | createType
  | countTypes
  | getType
  | updateType
  | deleteType
  deriving DecidableEq, Repr

/-- The operation reads a document from the body. -/
def Operation.takesDocument : Operation → Bool
  | .createThing | .updateThing | .createType | .updateType => true
  | _ => false

inductive Endpoint where
  /-- Earn a token. -/
  | login
  /-- What the service knows of the caller. -/
  | status
  /-- The service runs. -/
  | health
  /-- The database answers. -/
  | readiness
  /-- Name and version of the service. -/
  | about
  | operation (o : Operation)
  deriving DecidableEq, Repr

namespace Endpoint

open Http

/-- A route to an endpoint at the root. -/
def atRoot (method name : String) (endpoint : Endpoint) : Route Endpoint :=
  { method, pattern := [.literal name], endpoint, base := [] }

/-- The routes to things. -/
def thingRoutes (base : PathBase) : List (Route Endpoint) :=
  let route := fun method path operation =>
    ({ method, base, pattern := .literal "thing" :: path, endpoint := .operation operation } :
      Route Endpoint)
  [route "GET" [] .listThings,
   route "POST" [] .createThing,
   route "GET" [.literal "geojson"] .thingFeatures,
   route "GET" [.literal "count"] .countThings,
   route "GET" [.literal "search"] .searchThings,
   route "GET" [.literal "by-external-id", .named "external_id"] .listThingsByExternalId,
   route "GET" [.named "thing_id"] .getThing,
   route "PUT" [.named "thing_id"] .updateThing,
   route "DELETE" [.named "thing_id"] .deleteThing]

/-- The routes to types. -/
def typeRoutes (base : PathBase) : List (Route Endpoint) :=
  let route := fun method path operation =>
    ({ method, base, pattern := .literal "types" :: path, endpoint := .operation operation } :
      Route Endpoint)
  [route "GET" [] .listTypes,
   route "POST" [] .createType,
   route "GET" [.literal "count"] .countTypes,
   route "GET" [.named "type_thing_id"] .getType,
   route "PUT" [.named "type_thing_id"] .updateType,
   route "DELETE" [.named "type_thing_id"] .deleteType]

/-- The names that the routes to things use for parameters. -/
def thingNames : List String :=
  ["thing_id", "external_id", "type", "created_by", "inactivated", "validated", "keywords",
   "offset", "limit", "request"]

/-- The names that the routes to types use for parameters. -/
def typeNames : List String :=
  ["type_thing_id", "offset", "limit", "keywords", "created_by", "external_id", "inactivated",
   "request"]

/-- Routes on a base whose variable parts have other names than the parameters of
the routes. -/
def onBase (base : PathBase) (taken : List String) (routes : PathBase → List (Route Endpoint)) :
    RouteGroup Endpoint :=
  if base.isSound taken then .ok (routes base)
  else .error (.unusable "no routes can be put on this path")

/-- All routes, in the order in which they are tried. -/
def routes (apiPrefix : String) : List (RouteGroup Endpoint) :=
  let base := PathBase.ofText apiPrefix
  [.ok [atRoot "POST" "login" .login],
   onBase base []
     fun base => [{ method := "GET", base, pattern := [.literal "status"], endpoint := .status }],
   onBase base thingNames thingRoutes,
   onBase base typeNames typeRoutes,
   .ok [atRoot "GET" "health" .health, atRoot "GET" "readiness" .readiness,
     atRoot "GET" "goAppInfo" .about]]

end Endpoint

end GeoRegistry
