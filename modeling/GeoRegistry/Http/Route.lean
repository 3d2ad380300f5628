/-
# Http.Route -- which endpoint a request is for

Routes are tried in order.  A route matches the end of a path segment by segment,
and what stands before it as its base says: a literal segment matches itself, a
named one any segment that is not empty.  The first route that matches path and
method is taken.  A path that is only for another method, or that lacks a slash
at its end or has one too many, is told apart from a path that is nowhere.

Routes come in groups.  A group that cannot be made fails every request that gets
as far as it.
-/
import GeoRegistry.Failure
import GeoRegistry.Http.PathBase
import GeoRegistry.Http.Request

namespace GeoRegistry.Http

set_option autoImplicit false

/-- A segment of a pattern. -/
inductive Segment where
  | literal (s : String)
  | named (name : String)
  deriving DecidableEq, Repr

/-- The segment matches a segment of a path.  At the end of a path a line feed
after a literal is overlooked. -/
def Segment.admits (last : Bool) : Segment → String → Bool
  | .literal s, t => t == s || (last && t == s ++ "\n")
  | .named _, t => !t.isEmpty

/-- What a segment binds. -/
def Segment.binding : Segment → String → Record
  | .literal _, _ => []
  | .named name, t => [(name, .text t)]

/-- What a path binds in a pattern that it matches. -/
def bind? : List Segment → List String → Option Record
  | [], [] => some []
  | s :: pattern, t :: path =>
      if s.admits pattern.isEmpty t then (bind? pattern path).map (s.binding t ++ ·) else none
  | _, _ => none

/-- A method and a path lead to an endpoint. -/
structure Route (α : Type) where
  method : String
  /-- How the path begins. -/
  base : PathBase := []
  /-- The segments it ends with. -/
  pattern : List Segment
  endpoint : α

/-- Routes that are made together. -/
abbrev RouteGroup (α : Type) := Except Failure (List (Route α))

/-- Where a request leads. -/
inductive Resolution (α : Type) where
  | found (endpoint : α) (bindings : Record)
  /-- The path is for another method. -/
  | wrongMethod (allowed : String)
  /-- Another path leads somewhere; it differs in slashes at its end only. -/
  | elsewhere (path : String)
  | missing
  deriving Repr

namespace Route

variable {α : Type}

/-- What a path binds in the route, if it matches.  A slash stands between the base
and the segments at the end. -/
def bindings? (route : Route α) (path : String) : Option Record :=
  let segments := Request.segments path
  let before := segments.length - route.pattern.length
  if 0 < before ∧ route.base.admits ("/".intercalate (segments.take before)).toList then
    bind? route.pattern (segments.drop before)
  else none

/-- The path with a slash at its end, or without any. -/
def toggleSlash (path : String) : String :=
  if path.endsWith "/" then String.ofList (path.toList.reverse.dropWhile (· == '/')).reverse
  else path ++ "/"

/-- The route a request takes. -/
def taken? (routes : List (Route α)) (r : Request) : Option (Route α × Record) :=
  routes.findSome? fun route =>
    if route.method = r.method then (route.bindings? r.path).map (route, ·) else none

/-- The routes of the groups before the first one that cannot be made. -/
def made : List (RouteGroup α) → List (Route α)
  | .ok routes :: groups => routes ++ made groups
  | _ => []

/-- Why a group cannot be made: that of the first one. -/
def fault? : List (RouteGroup α) → Option Failure
  | [] => none
  | .ok _ :: groups => fault? groups
  | .error e :: _ => some e

/-- Where a request leads that no route takes. -/
def resolveUntaken (routes : List (Route α)) (r : Request) : Resolution α :=
  match routes.find? fun route => (route.bindings? r.path).isSome with
  | some route => .wrongMethod route.method
  | none =>
      let other := toggleSlash r.path
      if r.path ≠ "/" ∧ routes.any fun route => (route.bindings? other).isSome then
        .elsewhere other
      else .missing

/-- Where a request leads. -/
def resolve (groups : List (RouteGroup α)) (r : Request) : Except Failure (Resolution α) :=
  match taken? (made groups) r, fault? groups with
  | some (route, bindings), _ => .ok (.found route.endpoint bindings)
  | none, some e => .error e
  | none, none => .ok (resolveUntaken (made groups) r)

end Route

end GeoRegistry.Http
