/-
# Proofs.Service.Admission -- who is not known gets no further than the door

Under the prefix of the settings there are only endpoints that ask who the caller is
(`found_secured`).  A request that no token vouches for ends there: what comes of it is
`Barred`, whatever the body and the query hold and whatever the database would reply.  Only
a body that cannot be read comes before the caller, so it hides that the caller is unknown
(`deep_body_turned_away`).
-/
import GeoRegistry.Proofs.Service.Bodies
import GeoRegistry.Proofs.Token.Authentic

namespace GeoRegistry

set_option autoImplicit false

open Http Dialogue
open Store (Command)

/-! ## Statuses -/

/-- A refused request is told that it failed. -/
theorem DomainError.least_status (e : DomainError) : 400 ≤ e.status := by
  unfold DomainError.status Refusal.statusOfCode
  split_ifs <;> decide

namespace Http.Response

theorem ofFailure?_status {e : Failure} {response : Response}
    (shown : ofFailure? e = some response) : 400 ≤ response.status := by
  cases e with
  | refused e =>
      obtain rfl := Option.some.inj shown
      exact e.least_status
  | unauthorized detail =>
      obtain rfl := Option.some.inj shown
      exact (show 400 ≤ 401 by decide)
  | _ => cases shown

theorem sendable_eq_ok {response sent : Response} (read : response.sendable = .ok sent) :
    sent = response := by
  unfold sendable at read
  split at read
  · obtain ⟨-, -, rfl⟩ := map_eq_ok read
    rfl
  · exact (Except.ok.inj read).symm

theorem unprocessable_status {issues : List Issue} {response : Response}
    (made : unprocessable issues = .ok response) : response.status = 422 := by
  simp only [unprocessable] at made
  split at made
  · obtain rfl := Except.ok.inj made
    rfl
  · cases made

end Http.Response

/-! ## Barred requests -/

/-- Nothing was done for a request: the pools are as they were, the database was asked
nothing, and a response says no more than why. -/
structure Handled.Barred (o : Occasion) (h : Handled) : Prop where
  asked : h.asked = []
  pools : h.pools = o.pools
  status : ∀ response, h.outcome = .ok response → 300 ≤ response.status

namespace Occasion

variable {o : Occasion} {r : Request}

theorem settled_barred {outcome : Except Failure Response}
    (status : ∀ response, outcome = .ok response → 300 ≤ response.status) :
    (o.settled outcome).Barred o :=
  ⟨rfl, rfl, status⟩

theorem settled_ok_barred {response : Response} (least : 300 ≤ response.status) :
    (o.settled (.ok response)).Barred o :=
  settled_barred fun _ made => Except.ok.inj made ▸ least

/-- A body that cannot be read bars a request by itself. -/
theorem withDocument_barred {work : Document → Handled}
    (barred : ∀ document, (work document).Barred o) : (o.withDocument r work).Barred o := by
  unfold withDocument
  split
  · exact barred _
  · refine settled_barred fun response made => ?_
    rw [Response.unprocessable_status made]
    decide
  · exact settled_ok_barred (show 300 ≤ 400 by decide)

end Occasion

namespace Service

variable {s : Service} {o : Occasion} {r : Request}

theorem conclude_barred {headers : List (String × String)} {h : Handled} (barred : h.Barred o) :
    (conclude o r headers h).asked = [] ∧ (conclude o r headers h).pools = o.pools ∧
      300 ≤ (conclude o r headers h).response.status := by
  unfold conclude
  cases ended : h.outcome.bind Response.sendable with
  | ok response =>
      obtain ⟨made, settled, sent⟩ := bind_eq_ok ended
      obtain rfl := Response.sendable_eq_ok sent
      have least := barred.status _ settled
      exact ⟨barred.asked, barred.pools, least⟩
  | error e =>
      cases shown : Response.ofFailure? e with
      | some response =>
          have least := Response.ofFailure?_status shown
          simp only [shown]
          exact ⟨barred.asked, barred.pools, Nat.le_trans (by decide) least⟩
      | none =>
          simp only [shown]
          exact ⟨barred.asked, barred.pools, by decide⟩

/-! ### The caller -/

/-- Without a token that is accepted there is no caller. -/
theorem caller_unknown (byToken : s.identification = .bearer)
    (unknown : ∀ token caller, r.bearer? = some token →
      ¬ Idle (s.settings.issuer.authenticate o.now token : Dialogue Empty Caller) (.ok caller)) :
    ∃ e, Idle (s.caller o.now r : Dialogue Empty Caller) (.error e) := by
  simp only [caller, byToken]
  cases presented : r.bearer? with
  | none => exact ⟨_, idle_finish _⟩
  | some token =>
      obtain ⟨outcome, idle, -⟩ :=
        Issuer.authenticate_idle Empty (i := s.settings.issuer) o.now token
      cases outcome with
      | error e => exact ⟨e, idle⟩
      | ok caller => exact absurd idle (unknown token caller presented)

/-- Without a caller, work for the caller is not begun. -/
theorem withCaller_outcome {e : Failure}
    (refused : Idle (s.caller o.now r : Dialogue Empty Caller) (.error e))
    (work : Caller → Handled) :
    (s.withCaller o r work).outcome = .error e ∧ (s.withCaller o r work).Barred o := by
  have ended (silence : Empty → Reply) :=
    ((refused _ _).1 (runs_exchanges silence (s.caller o.now r) [])).2
  unfold withCaller
  generalize admitted : (s.caller o.now r : Dialogue Empty Caller).run _ [] = admission
  have unknown : admission.outcome = .error e := admitted ▸ ended _
  simp only [unknown]
  exact ⟨trivial, rfl, rfl, fun _ made => nomatch made⟩

end Service

/-! ## Endpoints under the prefix -/

namespace Http.Route

variable {α : Type} {groups : List (RouteGroup α)} {r : Request}

theorem mem_made {route : Route α} (member : route ∈ made groups) :
    ∃ routes, .ok routes ∈ groups ∧ route ∈ routes := by
  fun_induction made groups with
  | case1 routes groups ih =>
      rcases List.mem_append.1 member with here | later
      · exact ⟨routes, .head _, here⟩
      · obtain ⟨routes', group, there⟩ := ih later
        exact ⟨routes', .tail _ group, there⟩
  | case2 => cases member

/-- What a request leads to is the endpoint of a route that the path matches. -/
theorem resolve_found {endpoint : α} {bindings : Record}
    (found : resolve groups r = .ok (.found endpoint bindings)) :
    ∃ route ∈ made groups, route.endpoint = endpoint ∧ route.bindings? r.path = some bindings := by
  unfold resolve at found
  cases taken : taken? (made groups) r with
  | none =>
      cases fault : fault? groups with
      | some e => simp [taken, fault] at found
      | none =>
          simp only [taken, fault, resolveUntaken] at found
          split at found
          · simp at found
          · split at found <;> simp at found
  | some pair =>
      obtain ⟨route, bindings'⟩ := pair
      simp only [taken] at found
      obtain ⟨rfl, rfl⟩ := Resolution.found.inj (Except.ok.inj found)
      obtain ⟨route', member, matched⟩ := List.exists_of_findSome?_eq_some taken
      split at matched
      · obtain ⟨bound, matches_, same⟩ := Option.map_eq_some_iff.1 matched
        obtain ⟨rfl, rfl⟩ := Prod.mk.inj same
        exact ⟨route', member, rfl, matches_⟩
      · cases matched

/-- Where a request leads depends on its method and its path. -/
theorem resolve_congr {r' : Request} (method : r'.method = r.method) (path : r'.path = r.path) :
    resolve groups r' = resolve groups r := by
  simp only [resolve, taken?, resolveUntaken, method, path]

/-- A route of one segment at the root is for no path of more than two. -/
theorem bindings?_root {route : Route α} {path name : String} (base : route.base = [])
    (pattern : route.pattern = [.literal name]) (long : 2 < (Request.segments path).length) :
    route.bindings? path = none := by
  obtain ⟨a, b, c, rest, segments⟩ : ∃ a b c rest, Request.segments path = a :: b :: c :: rest := by
    match Request.segments path, long with
    | a :: b :: c :: rest, _ => exact ⟨a, b, c, rest, rfl⟩
  have taken : (a :: b :: c :: rest).take ((a :: b :: c :: rest).length - 1) =
      a :: b :: (c :: rest).take rest.length := by simp
  have slash : ("/".intercalate (a :: b :: (c :: rest).take rest.length)).toList ≠ [] := by
    simp [String.toList_intercalate, List.intercalate]
  simp only [bindings?, segments, base, pattern, List.length_singleton, taken, PathBase.admits,
    List.isEmpty_iff, slash, and_false, if_false]

end Http.Route

namespace Endpoint

open Http

/-- The endpoint asks who the caller is. -/
def secured : Endpoint → Bool
  | .status | .operation _ => true
  | _ => false

theorem onBase_eq_ok {base : PathBase} {taken : List String}
    {offered : PathBase → List (Route Endpoint)} {made : List (Route Endpoint)}
    (group : onBase base taken offered = .ok made) : made = offered base := by
  unfold onBase at group
  split at group
  · exact (Except.ok.inj group).symm
  · cases group

/-- A route leads to an endpoint that asks who the caller is, or it lies at the root. -/
theorem secured_or_root {apiPrefix : String} {route : Route Endpoint}
    (member : route ∈ Route.made (routes apiPrefix)) :
    route.endpoint.secured = true ∨ route.base = [] ∧ ∃ name, route.pattern = [.literal name] := by
  obtain ⟨made, group, member⟩ := Route.mem_made member
  simp only [routes, List.mem_cons, List.not_mem_nil, or_false] at group
  rcases group with login | status | things | types | open_
  · obtain rfl := Except.ok.inj login
    obtain rfl := List.mem_singleton.1 member
    exact .inr ⟨rfl, _, rfl⟩
  · obtain rfl := onBase_eq_ok status.symm
    obtain rfl := List.mem_singleton.1 member
    exact .inl rfl
  · obtain rfl := onBase_eq_ok things.symm
    have all : ∀ route ∈ thingRoutes (PathBase.ofText apiPrefix),
        route.endpoint.secured = true := by
      simp [thingRoutes, secured]
    exact .inl (all route member)
  · obtain rfl := onBase_eq_ok types.symm
    have all : ∀ route ∈ typeRoutes (PathBase.ofText apiPrefix),
        route.endpoint.secured = true := by
      simp [typeRoutes, secured]
    exact .inl (all route member)
  · obtain rfl := Except.ok.inj open_
    simp only [List.mem_cons, List.not_mem_nil, or_false] at member
    rcases member with rfl | rfl | rfl <;> exact .inr ⟨rfl, _, rfl⟩

/-- **A path of more than two segments leads to an endpoint that asks who the caller is**, if
it leads anywhere. -/
theorem found_secured {apiPrefix : String} {r : Request} {endpoint : Endpoint} {bindings : Record}
    (long : 2 < (Request.segments r.path).length)
    (found : Route.resolve (routes apiPrefix) r = .ok (.found endpoint bindings)) :
    endpoint.secured = true := by
  obtain ⟨route, member, rfl, matches_⟩ := Route.resolve_found found
  rcases secured_or_root member with asks | ⟨base, name, pattern⟩
  · exact asks
  · rw [Route.bindings?_root base pattern long] at matches_
    cases matches_

end Endpoint

/-- What begins with the default prefix has more than two segments. -/
theorem Http.Request.length_segments {path : String} (under : "/goapi/v1".toList <+: path.toList) :
    2 < (segments path).length := by
  have slashes : 2 ≤ path.toList.count '/' := under.count_le '/'
  simp only [segments, Text.pieces, List.length_map, Text.length_split]
  omega

/-! ## Unknown callers -/

theorem Http.CrossOrigin.preflight?_eq_none {c : CrossOrigin} {r : Request}
    (other : r.method ≠ "OPTIONS") : c.preflight? r = none := by
  unfold preflight?
  cases r.header? "origin" with
  | none => rfl
  | some origin =>
      cases r.header? "access-control-request-method" with
      | none => rfl
      | some method => simp [other]

namespace Service

variable {s : Service} {o : Occasion} {r : Request} {endpoint : Endpoint} {e : Failure}

/-- An endpoint that asks who the caller is does nothing for one who is not known. -/
theorem visit_barred (asks : endpoint.secured = true)
    (refused : Idle (s.caller o.now r : Dialogue Empty Caller) (.error e)) (path : Record) :
    (s.visit o r path endpoint).Barred o := by
  cases endpoint with
  | status => exact (withCaller_outcome refused _).2
  | operation op =>
      simp only [visit]
      split
      · exact Occasion.withDocument_barred fun document => (withCaller_outcome refused _).2
      · exact (withCaller_outcome refused _).2
  | _ => cases asks

/-- Once the body is read, what is wrong is that the caller is not known. -/
theorem visit_outcome (asks : endpoint.secured = true)
    (refused : Idle (s.caller o.now r : Dialogue Empty Caller) (.error e)) (path : Record)
    {document : Document} (read : Document.ofRequest r = .ok document) :
    (s.visit o r path endpoint).outcome = .error e := by
  cases endpoint with
  | status => exact (withCaller_outcome refused _).1
  | operation op =>
      simp only [visit, Occasion.withDocument, read]
      split <;> exact (withCaller_outcome refused _).1
  | _ => cases asks

theorem handle_barred (long : 2 < (Request.segments r.path).length)
    (refused : Idle (s.caller o.now r : Dialogue Empty Caller) (.error e)) :
    (s.handle o r).Barred o := by
  unfold handle
  cases led : Route.resolve (Endpoint.routes s.settings.apiPrefix) r with
  | error fault => exact Occasion.settled_barred fun _ made => nomatch made
  | ok resolution =>
      cases resolution with
      | found endpoint path => exact visit_barred (Endpoint.found_secured long led) refused path
      | wrongMethod allowed => exact Occasion.settled_ok_barred (show 300 ≤ 405 by decide)
      | elsewhere path => exact Occasion.settled_ok_barred (show 300 ≤ 307 by decide)
      | missing => exact Occasion.settled_ok_barred (show 300 ≤ 404 by decide)

end Service

/-- **Nobody reaches the store unknown.**  Take any request by one of the methods of the
service to a path under the default prefix, at any time, in any state of the pools and with
any replies.  If no token that it presents is accepted, then no pool is opened, nothing is
asked of the database and the response is no success.  If it presents no token at all, leads
to an endpoint and has a body that can be read, or none, then it is challenged for a token,
whatever the path, the query and the body hold. -/
theorem unknown_callers_stay_outside (s : Service) (o : Occasion) (r : Request)
    (byToken : s.identification = .bearer) (standard : s.settings.apiPrefix = "/goapi/v1")
    (method : r.method ∈ ["GET", "POST", "PUT", "DELETE"])
    (under : "/goapi/v1".toList <+: r.path.toList) :
    ((∀ token caller, r.bearer? = some token →
        ¬ Idle (s.settings.issuer.authenticate o.now token : Dialogue Empty Caller) (.ok caller)) →
      (s.serve o r).asked = [] ∧ (s.serve o r).pools = o.pools ∧
        300 ≤ (s.serve o r).response.status) ∧
    (r.bearer? = none → ∀ endpoint path document,
      Route.resolve (Endpoint.routes "/goapi/v1") r = .ok (.found endpoint path) →
      Document.ofRequest r = .ok document →
      (s.serve o r).response.status = 401 ∧
        (s.serve o r).response.headers.lookup "www-authenticate" = some "Bearer") := by
  have long := Request.length_segments under
  have other : r.method ≠ "OPTIONS" := by
    rintro same
    simp [same] at method
  have served : s.serve o r =
      Service.conclude o r (s.settings.crossOrigin.headers r) (s.handle o r) := by
    rw [Service.serve, CrossOrigin.preflight?_eq_none other]
  rw [served]
  constructor
  · intro unknown
    obtain ⟨e, refused⟩ := Service.caller_unknown byToken unknown
    exact Service.conclude_barred (Service.handle_barred long refused)
  · intro bare endpoint path document led read
    rw [← standard] at led
    have refused : Idle (s.caller o.now r : Dialogue Empty Caller)
        (.error (.unauthorized "Not authenticated")) := by
      simp only [Service.caller, byToken, bare]
      exact idle_finish _
    have ended : (s.handle o r).outcome = .error (.unauthorized "Not authenticated") := by
      simp only [Service.handle, led]
      exact Service.visit_outcome (Endpoint.found_secured long led) refused path read
    simp only [Service.conclude, ended]
    exact ⟨rfl, rfl⟩

/-! ## At the door -/

/-- A service that knows its callers by their tokens. -/
def tokenService : Service where
  settings := .standard
  log := ⟨.info, false⟩

/-- A request that comes in first of all. -/
def firstOccasion : Occasion where
  now := 0
  id := ⟨List.replicate 32 (Text.lastHex 0), rfl⟩

/-- Where a request leads and who sends it does not depend on its body. -/
theorem typeRequest_door (v : Json) :
    (typeRequest v).method = "POST" ∧ "/goapi/v1".toList <+: (typeRequest v).path.toList ∧
      (typeRequest v).bearer? = none ∧
      Route.resolve (Endpoint.routes "/goapi/v1") (typeRequest v) =
        .ok (.found (.operation .createType) []) ∧
      tokenService.settings.crossOrigin.headers (typeRequest v) = [("vary", "Origin")] ∧
      ((typeRequest v).header? "content-type").any isJsonType = true := by
  have under : "/goapi/v1".toList <+: (typeRequest .null).path.toList := by decide
  have bare : (typeRequest .null).bearer? = none := by decide +kernel
  have found : Route.resolve (Endpoint.routes "/goapi/v1") (typeRequest .null) =
      .ok (.found (.operation .createType) []) := by rfl
  have headers : tokenService.settings.crossOrigin.headers (typeRequest .null) =
      [("vary", "Origin")] := by decide +kernel
  have declared : ((typeRequest .null).header? "content-type").any isJsonType = true := by
    decide +kernel
  have same : Route.resolve (Endpoint.routes "/goapi/v1") (typeRequest v) =
      Route.resolve (Endpoint.routes "/goapi/v1") (typeRequest .null) :=
    Route.resolve_congr rfl rfl
  exact ⟨rfl, under, bare, same.trans found, headers, declared⟩

/-- A body that cannot be read is turned away before anybody asks who sends it. -/
theorem deep_body_turned_away {n : Nat} (deep : Json.depthLimit ≤ n) :
    (tokenService.serve firstOccasion (typeRequest (Json.nested n))).response.status = 400 ∧
      (tokenService.serve firstOccasion (typeRequest (Json.nested n))).response.headers.lookup
        "www-authenticate" = none := by
  obtain ⟨method, -, -, found, headers, declared⟩ := typeRequest_door (Json.nested n)
  have read := Document.ofRequest_nested declared deep rfl
  have handled : tokenService.handle firstOccasion (typeRequest (Json.nested n)) =
      firstOccasion.settled (.ok (.saying 400 "There was an error parsing the body")) := by
    simp only [Service.handle, show tokenService.settings.apiPrefix = "/goapi/v1" from rfl, found,
      Service.visit, Operation.takesDocument, if_true, Occasion.withDocument, read]
  have other : (typeRequest (Json.nested n)).method ≠ "OPTIONS" := by
    rw [method]
    decide
  rw [Service.serve, CrossOrigin.preflight?_eq_none other, handled, headers]
  exact ⟨rfl, by rfl⟩

/-- A body of 5000 arrays in one another is JSON, but the response is no challenge. -/
theorem deep_body_hides_challenge :
    tokenService.identification = .bearer ∧ tokenService.settings.apiPrefix = "/goapi/v1" ∧
      (typeRequest (Json.nested 4999)).method = "POST" ∧
      "/goapi/v1".toList <+: (typeRequest (Json.nested 4999)).path.toList ∧
      (typeRequest (Json.nested 4999)).bearer? = none ∧
      Route.resolve (Endpoint.routes "/goapi/v1") (typeRequest (Json.nested 4999)) =
        .ok (.found (.operation .createType) []) ∧
      (typeRequest (Json.nested 4999)).body = (Json.nested 4999).render Json.compact ∧
      (tokenService.serve firstOccasion (typeRequest (Json.nested 4999))).response.status = 400 ∧
      (tokenService.serve firstOccasion (typeRequest (Json.nested 4999))).response.headers.lookup
        "www-authenticate" = none := by
  obtain ⟨method, under, bare, found, -⟩ := typeRequest_door (Json.nested 4999)
  obtain ⟨status, header⟩ := deep_body_turned_away (n := 4999) (by decide)
  exact ⟨rfl, rfl, method, under, bare, found, rfl, status, header⟩

/-- A request for a thing, with a path and a query that make no sense. -/
def strangeRequest (headers : List (String × String)) : Request where
  method := "GET"
  path := "/goapi/v1/thing/42"
  query := "limit=many"
  headers := headers

/-- Without a token the request is challenged, and with one that is none it fails; in
neither case the database hears of it. -/
theorem strangers_are_challenged :
    tokenService.identification = .bearer ∧ tokenService.settings.apiPrefix = "/goapi/v1" ∧
      (strangeRequest []).bearer? = none ∧
      Route.resolve (Endpoint.routes "/goapi/v1") (strangeRequest []) =
        .ok (.found (.operation .getThing) [("thing_id", .text "42")]) ∧
      Document.ofRequest (strangeRequest []) = .ok none ∧
      (tokenService.serve firstOccasion (strangeRequest [])).asked = [] ∧
      (tokenService.serve firstOccasion (strangeRequest [])).response.status = 401 ∧
      (tokenService.serve firstOccasion (strangeRequest [])).response.headers.lookup
        "www-authenticate" = some "Bearer" ∧
      (strangeRequest [("authorization", "Bearer x")]).bearer? = some "x" ∧
      (tokenService.serve firstOccasion
        (strangeRequest [("authorization", "Bearer x")])).asked = [] ∧
      300 ≤ (tokenService.serve firstOccasion
        (strangeRequest [("authorization", "Bearer x")])).response.status := by
  have under (headers : List (String × String)) :
      "/goapi/v1".toList <+: (strangeRequest headers).path.toList := by
    show "/goapi/v1".toList <+: "/goapi/v1/thing/42".toList
    decide
  have bare : (strangeRequest []).bearer? = none := by rfl
  have found : Route.resolve (Endpoint.routes "/goapi/v1") (strangeRequest []) =
      .ok (.found (.operation .getThing) [("thing_id", .text "42")]) := by rfl
  obtain ⟨quiet, challenged⟩ := unknown_callers_stay_outside tokenService firstOccasion
    (strangeRequest []) rfl rfl (.head _) (under [])
  obtain ⟨status, header⟩ := challenged bare _ _ _ found rfl
  have presented : (strangeRequest [("authorization", "Bearer x")]).bearer? = some "x" := by
    decide +kernel
  -- a text without dots is no token
  obtain ⟨outside, -⟩ := unknown_callers_stay_outside tokenService firstOccasion
    (strangeRequest [("authorization", "Bearer x")]) rfl rfl (.head _) (under _)
  have refused : Idle (tokenService.settings.issuer.authenticate firstOccasion.now "x" :
      Dialogue Empty Caller) (.error (.unauthorized "Could not validate credentials")) :=
    (idle_finish _).note _
  obtain ⟨asked, -, least⟩ := outside fun token caller same accepted => by
    obtain rfl := Option.some.inj (presented.symm.trans same)
    exact nomatch ((refused [] _).1 ((accepted [] _).2 ⟨rfl, rfl⟩)).2
  exact ⟨rfl, rfl, bare, found, rfl, (quiet fun _ _ same => nomatch bare.symm.trans same).1, status,
    header, presented, asked, least⟩

end GeoRegistry
