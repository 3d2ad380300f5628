/-
# Service.Serving -- from a request to its response

The body is read first, then the caller is made out, then the pool is opened,
then the parameters are read, and only then is anything done.  Whatever fails on
the way ends the request: a failure with a rule has a response of its own, any
other is answered alike and says nothing of itself.  Work before the pool is of
type `Dialogue Empty`: it cannot ask the database anything.
-/
import GeoRegistry.Service.Action

namespace GeoRegistry

set_option autoImplicit false

open Http
open Store (Command Pools)

/-- What a request finds when it comes in. -/
structure Occasion where
  now : Instant
  /-- What the request is known by in the log. -/
  id : Uuid
  pools : Pools := {}
  /-- How opening a pool ends, should it come to that. -/
  opening : Pools.Attempt := none
  replies : List Reply := []

/-- What came of a request. -/
structure Handled where
  outcome : Except Failure Response
  pools : Pools
  asked : List Command := []
  entries : List Log.Entry := []

namespace Occasion

/-- A response that needs nothing. -/
def settled (o : Occasion) (outcome : Except Failure Response) : Handled :=
  { outcome, pools := o.pools }

/-- Work that needs no database. -/
def alone (o : Occasion) (work : Dialogue Empty Response) : Handled :=
  let t := work.run nofun []
  { outcome := t.outcome, pools := o.pools, entries := t.entries }

/-- Work with the document of the request. -/
def withDocument (o : Occasion) (r : Request) (work : Document → Handled) : Handled :=
  match Document.ofRequest r with
  | .ok document => work document
  | .error (.malformed offset) =>
      o.settled (Response.unprocessable [Document.malformedIssue offset])
  | .error .unreadable => o.settled (.ok (.saying 400 "There was an error parsing the body"))

end Occasion

namespace Service

/-- Work for the caller of the request. -/
def withCaller (s : Service) (o : Occasion) (r : Request) (work : Caller → Handled) : Handled :=
  let admission := (s.caller o.now r : Dialogue Empty Caller).run nofun []
  match admission.outcome with
  | .error e => { outcome := .error e, pools := o.pools, entries := admission.entries }
  | .ok caller =>
      let handled := work caller
      { handled with entries := admission.entries ++ handled.entries }

/-- Work that asks the database. -/
def withStore (s : Service) (o : Occasion) (work : Dialogue Command Response) : Handled :=
  let pool := o.pools.get (.ok s.settings) o.opening
  match pool.outcome with
  | .error e => { outcome := .error e, pools := pool.pools, entries := pool.entries }
  | .ok () =>
      let t := work.run s.settings.store.silence o.replies
      { outcome := t.outcome, pools := pool.pools, asked := t.asked,
        entries := pool.entries ++ t.entries }

/-! ## The endpoints -/

/-- Log in with the credentials of the document. -/
def logIn (s : Service) (now : Instant) (document : Document) : Dialogue Empty Response := do
  let account ← .ofExcept s.settings.account
  match document.read Credentials.shape with
  | .refused issues => .ofExcept (Response.unprocessable issues)
  | .accepted credentials =>
      return Action.item Grant.shape 200 (← account.logIn s.settings.issuer now credentials)

/-- Whether the database answers. -/
def readiness (s : Service) : Dialogue Command Response :=
  (do let _ ← s.settings.store.channel.send .probe
      return Response.state 200 "ready").orElse fun
    | .refused e => do
        .log
          { level := .warning, logger := Registry.serviceLogger,
            message := "readiness check failed: " ++ e.detail }
        return Response.state 503 "not ready"
    | e => .fail e

/-- What the service is. -/
def about (s : Service) : Response :=
  .json 200 (.object [("app", .text s.settings.appName), ("version", .text s.settings.appVersion),
    ("repository", .text s.settings.appRepository)])

/-- Read the parameters of an operation and do what they ask for. -/
def operate (s : Service) (op : Operation) (i : Incoming) (caller : Caller) :
    Dialogue Command Response :=
  match op.read i with
  | .refused issues => .ofExcept (Response.unprocessable issues)
  | .accepted action => action.perform s.settings caller

/-- What comes of a request at an endpoint. -/
def visit (s : Service) (o : Occasion) (r : Request) (path : Record) : Endpoint → Handled
  | .login => o.withDocument r fun document => o.alone (s.logIn o.now document)
  | .status => s.withCaller o r fun caller => o.settled (.ok (Action.item Caller.shape 200 caller))
  | .health => o.settled (.ok (.state 200 "healthy"))
  | .readiness => s.withStore o s.readiness
  | .about => o.settled (.ok s.about)
  | .operation op =>
      let work := fun document =>
        s.withCaller o r fun caller =>
          s.withStore o (s.operate op ⟨path, r.parameters, document⟩ caller)
      if op.takesDocument then o.withDocument r work else work none

/-- The address of a path, as the client would write it. -/
def address (r : Request) (path : String) : String :=
  Text.Percent.requote ("http://" ++ r.host ++ Request.pathText path ++
    if r.query.isEmpty then "" else "?" ++ r.query)

/-- What comes of a request. -/
def handle (s : Service) (o : Occasion) (r : Request) : Handled :=
  match Route.resolve (Endpoint.routes s.settings.apiPrefix) r with
  | .ok (.found endpoint path) => s.visit o r path endpoint
  | .ok (.wrongMethod allowed) => o.settled (.ok (.wrongMethod allowed))
  | .ok (.elsewhere path) => o.settled (.ok (.elsewhere (address r path)))
  | .ok .missing => o.settled (.ok .notFound)
  | .error e => o.settled (.error e)

/-! ## The exchange -/

/-- A request and all that was done for it. -/
structure Exchange where
  response : Response
  /-- The failure that no rule foresees. -/
  fault : Option Failure := none
  pools : Pools
  asked : List Command
  entries : List Log.Entry

/-- The context of entries about a request. -/
def context (o : Occasion) : Record :=
  [("request_id", .text o.id.text)]

/-- What is logged of every request in the end. -/
def requestEntry (o : Occasion) (r : Request) (status : Nat) : Log.Entry :=
  { level := .info, logger := "geothing.core.middleware",
    message := r.method ++ " " ++ r.shownPath ++ " -> " ++ toString status, extra := context o }

/-- What is logged of a failure whose detail is kept from the client. -/
def internalEntries (o : Occasion) (r : Request) : Failure → List Log.Entry
  | .refused e =>
      if e.refusal.isInternal then
        [{ level := .error, logger := Registry.serviceLogger,
           message := "internal error on " ++ r.method ++ " " ++ r.shownPath ++ ": " ++ e.detail,
           extra := context o, exception := true }]
      else []
  | _ => []

/-- The end of an exchange: the response gets the given headers and the id of the
request, unless the failure is one that no rule foresees. -/
def conclude (o : Occasion) (r : Request) (headers : List (String × String)) (h : Handled) :
    Exchange :=
  let finish (response : Response) (fault : Option Failure) (entries : List Log.Entry) : Exchange :=
    { response, fault, pools := h.pools, asked := h.asked,
      entries := h.entries ++ entries ++ [requestEntry o r response.status] }
  let headers := headers ++ [("x-request-id", o.id.text)]
  match h.outcome.bind Response.sendable with
  | .ok response => finish (response.adding headers) none []
  | .error e =>
      match Response.ofFailure? e with
      | some response => finish (response.adding headers) none (internalEntries o r e)
      | none => finish .broken (some e) []

/-- Serve a request. -/
def serve (s : Service) (o : Occasion) (r : Request) : Exchange :=
  match s.settings.crossOrigin.preflight? r with
  | some response => conclude o r [] (o.settled (.ok response))
  | none => conclude o r (s.settings.crossOrigin.headers r) (s.handle o r)

end Service

end GeoRegistry
