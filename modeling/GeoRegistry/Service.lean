/-
# Service -- what offers the registry to its clients

The settings describe all of it: the store, the rules of the registry over it,
who issues tokens, the administrator's account, and the origins whose pages may
use the service.
-/
import GeoRegistry.Store.Pool
import GeoRegistry.Registry
import GeoRegistry.Login
import GeoRegistry.Http.CrossOrigin

namespace GeoRegistry

set_option autoImplicit false

namespace Settings

def store (s : Settings) : Store :=
  ⟨s.schema, s.srid, some (.measured s.statementSeconds)⟩

def registry (s : Settings) : Registry :=
  ⟨s.store, s.leastName⟩

def issuer (s : Settings) : Issuer :=
  ⟨s.secretKey, s.algorithm, s.tokenMinutes⟩

/-- The administrator's account. -/
def account (s : Settings) : Except Failure Account := do
  let password ← Password.keep s.adminPassword
  return ⟨s.adminUser, s.adminEmail, s.adminId, password⟩

def crossOrigin (s : Settings) : Http.CrossOrigin :=
  ⟨s.allowedOrigins⟩

/-- The service must have a name and a version, and the path of its routes must
begin with a slash and not end with one. -/
def checkUsable (s : Settings) : Except Failure Unit :=
  if s.appName.isEmpty then
    .error (.unusable "A title must be provided for OpenAPI, e.g.: 'My API'")
  else if s.appVersion.isEmpty then
    .error (.unusable "A version must be provided for OpenAPI, e.g.: '2.1.0'")
  else if s.apiPrefix.isEmpty then .ok ()
  else if !s.apiPrefix.startsWith "/" then
    .error (.unusable "A path prefix must start with '/'")
  else if s.apiPrefix.endsWith "/" then
    .error (.unusable "A path prefix must not end with '/', as the routes will start with '/'")
  else .ok ()

end Settings

/-- How the service knows who sends a request. -/
inductive Identification where
  /-- By the token that the request presents. -/
  | bearer
  /-- All requests are the given caller's. -/
  | always (caller : Caller)

structure Service where
  settings : Settings
  log : Log.Setup
  identification : Identification := .bearer

namespace Service

/-- The service that an environment describes. -/
def ofEnvironment (environment : List (String × String)) : Except Failure Service := do
  let settings ← Settings.ofEnvironment environment
  let log ← (Log.configure settings.logLevel settings.logJson).mapError Failure.badValue
  settings.checkUsable
  return { settings, log }

/-- Who sends a request. -/
def caller {ε : Type} (s : Service) (now : Instant) (r : Http.Request) : Dialogue ε Caller :=
  match s.identification with
  | .bearer => s.settings.issuer.caller now r.bearer?
  | .always caller => pure caller

end Service

end GeoRegistry
