/-
# Settings -- how the service is configured

Every setting has a default and can be set by a variable of the environment whose
name differs from the setting's in case only.  Values are read as leniently as
those of requests; the list of origins is written in JSON.
-/
import GeoRegistry.NameRule
import GeoRegistry.Failure
import GeoRegistry.Validation.Scalar
import GeoRegistry.Json.Parser

namespace GeoRegistry

set_option autoImplicit false

structure Settings where
  /-- What the service is called. -/
  appName : String := "geothing"
  appVersion : String := "0.1.0"
  /-- Where the service is published. -/
  appRepository : String := "https://github.com/your-github-account/geothing"
  debug : Bool := false
  /-- The test database is used. -/
  testing : Bool := false
  host : String := "0.0.0.0"
  port : Int := 9090
  /-- The path all secured routes start with. -/
  apiPrefix : String := "/goapi/v1"
  logLevel : String := "INFO"
  logJson : Bool := false
  /-- The origins whose pages may use the service. -/
  allowedOrigins : List String :=
    ["http://localhost:3000", "http://localhost:5173", "http://localhost:9090"]
  /-- The secret tokens are signed with. -/
  secretKey : String := "your-secret-key-change-in-production"
  algorithm : String := "HS256"
  /-- How long a token lasts. -/
  tokenMinutes : Int := 60
  adminUser : String := "goadmin"
  adminPassword : String := "change-this-admin-password"
  adminEmail : String := "goadmin@yourdomain.org"
  adminId : Int := 960901
  databaseUser : String := "geothing"
  databasePassword : String := "supersecretpassword"
  databaseHost : String := "localhost"
  databasePort : Int := 5432
  database : String := "geothing"
  testDatabase : String := "geothing_test"
  /-- How many connections a pool keeps open. -/
  poolMin : Int := 2
  /-- How many connections a pool may have. -/
  poolMax : Int := 10
  /-- How long a statement may take. -/
  statementSeconds : Binary64 := .ofInt 30
  /-- The schema of the tables. -/
  schema : String := "geothing"
  /-- The coordinate system of positions. -/
  srid : Int := 2056
  leastName : Int := NameRule.defaultLeast
  /-- How many things a page has unless a request says otherwise. -/
  thingPage : Int := 50
  /-- How many types a page has unless a request says otherwise. -/
  typePage : Int := 250

namespace Settings

open Record

/-- The settings of an empty environment. -/
def standard : Settings := {}

def read (r : Record) : Checked Settings :=
  Settings.mk
    <$> defaulted "app_name" Scalar.text standard.appName r
    <*> defaulted "app_version" Scalar.text standard.appVersion r
    <*> defaulted "app_repository" Scalar.text standard.appRepository r
    <*> defaulted "debug" Scalar.bool standard.debug r
    <*> defaulted "testing" Scalar.bool standard.testing r
    <*> defaulted "host" Scalar.text standard.host r
    <*> defaulted "port" Scalar.integer standard.port r
    <*> defaulted "api_prefix" Scalar.text standard.apiPrefix r
    <*> defaulted "log_level" Scalar.text standard.logLevel r
    <*> defaulted "log_json" Scalar.bool standard.logJson r
    <*> defaulted "allowed_origins" (Scalar.list Scalar.text) standard.allowedOrigins r
    <*> defaulted "secret_key" Scalar.text standard.secretKey r
    <*> defaulted "algorithm" Scalar.text standard.algorithm r
    <*> defaulted "access_token_expire_minutes" Scalar.integer standard.tokenMinutes r
    <*> defaulted "admin_user" Scalar.text standard.adminUser r
    <*> defaulted "admin_password" Scalar.text standard.adminPassword r
    <*> defaulted "admin_email" Scalar.text standard.adminEmail r
    <*> defaulted "admin_id" Scalar.integer standard.adminId r
    <*> defaulted "postgres_user" Scalar.text standard.databaseUser r
    <*> defaulted "postgres_password" Scalar.text standard.databasePassword r
    <*> defaulted "postgres_host" Scalar.text standard.databaseHost r
    <*> defaulted "postgres_port" Scalar.integer standard.databasePort r
    <*> defaulted "postgres_db" Scalar.text standard.database r
    <*> defaulted "test_postgres_db" Scalar.text standard.testDatabase r
    <*> defaulted "postgres_pool_min_size" Scalar.integer standard.poolMin r
    <*> defaulted "postgres_pool_max_size" Scalar.integer standard.poolMax r
    <*> defaulted "db_command_timeout" Scalar.float standard.statementSeconds r
    <*> defaulted "db_schema" Scalar.text standard.schema r
    <*> defaulted "db_srid" Scalar.integer standard.srid r
    <*> defaulted "min_name_length" Scalar.integer standard.leastName r
    <*> defaulted "thing_list_default_limit" Scalar.integer standard.thingPage r
    <*> defaulted "type_list_default_limit" Scalar.integer standard.typePage r

def fields (s : Settings) : Record :=
  [("app_name", .text s.appName), ("app_version", .text s.appVersion),
   ("app_repository", .text s.appRepository), ("debug", .bool s.debug),
   ("testing", .bool s.testing), ("host", .text s.host), ("port", .int s.port),
   ("api_prefix", .text s.apiPrefix), ("log_level", .text s.logLevel),
   ("log_json", .bool s.logJson), ("allowed_origins", .list (s.allowedOrigins.map .text)),
   ("secret_key", .text s.secretKey), ("algorithm", .text s.algorithm),
   ("access_token_expire_minutes", .int s.tokenMinutes), ("admin_user", .text s.adminUser),
   ("admin_password", .text s.adminPassword), ("admin_email", .text s.adminEmail),
   ("admin_id", .int s.adminId), ("postgres_user", .text s.databaseUser),
   ("postgres_password", .text s.databasePassword), ("postgres_host", .text s.databaseHost),
   ("postgres_port", .int s.databasePort), ("postgres_db", .text s.database),
   ("test_postgres_db", .text s.testDatabase), ("postgres_pool_min_size", .int s.poolMin),
   ("postgres_pool_max_size", .int s.poolMax), ("db_command_timeout", .float s.statementSeconds),
   ("db_schema", .text s.schema), ("db_srid", .int s.srid), ("min_name_length", .int s.leastName),
   ("thing_list_default_limit", .int s.thingPage), ("type_list_default_limit", .int s.typePage)]

def shape : Shape Settings := ⟨"Settings", read, fields⟩

/-- The setting that is written in JSON. -/
def listSetting : String := "allowed_origins"

/-- The cells of settings.  A list that is null counts as left out. -/
def cells : List (String × String) → Except Failure Record
  | [] => .ok []
  | (name, value) :: rest =>
      if name = listSetting then
        match Json.parse value with
        | .error (.tooDeep container) => .error (.tooDeep container)
        | .error _ => .error (.malformedSetting name)
        | .ok .null => cells rest
        | .ok v => (cells rest).map ((name, .ofJson v) :: ·)
      else (cells rest).map ((name, .text value) :: ·)

/-- The name of the setting that a variable sets, in lower case; the sign of the
kelvin is a letter too. -/
def settingName (name : String) : String :=
  name.map fun c => if c = '\u212a' then 'k' else c.toLower

/-- The settings of an environment. -/
def ofEnvironment (environment : List (String × String)) : Except Failure Settings := do
  let named := Json.distinct (environment.map fun v => (settingName v.1, v.2))
  match read (← cells named) with
  | .accepted s => .ok s
  | .refused issues => .error (.invalid shape.name issues)

/-- The database in use. -/
def databaseName (s : Settings) : String :=
  if s.testing then s.testDatabase else s.database

end Settings

end GeoRegistry
