/-
# Service.Lifespan -- from the start of the service to its end

The service opens its pool, makes sure that there is a type, and then serves.
When serving ends well the pool is closed.
-/
import GeoRegistry.Service
import GeoRegistry.Registry.ThingTypes

namespace GeoRegistry.Lifespan

set_option autoImplicit false

open Store (Pools PoolRequest Command)

/-- What happened in the life of a service. -/
structure Life where
  /-- The service came to serve. -/
  served : Bool := false
  pools : Pools := {}
  requested : Option PoolRequest := none
  asked : List Command := []
  entries : List Log.Entry := []
  outcome : Except Failure Unit

def entry (message : String) : Log.Entry :=
  { level := .info, logger := Registry.serviceLogger, message }

/-- The end of a service that served. -/
def ended (p : Pools) (closing : Pools.Attempt) : Pools.Step :=
  let step := p.close closing
  { step with
    entries := entry "shutting down application" ::
      match step.outcome with
      | .ok () => [entry "database connection pool closed"]
      | .error _ => [] }

/-- The life of a service with its pool open. -/
def opened (s : Settings) (p : Pools) (closing : Pools.Attempt) (serving : Except Failure Unit)
    (replies : List Reply) : Life :=
  let check := (Registry.requireTypes s.store).run s.store.silence replies
  match check.outcome, serving with
  | .error e, _ =>
      { pools := p, asked := check.asked, entries := check.entries, outcome := .error e }
  | .ok _, .error e =>
      { served := true, pools := p, asked := check.asked, entries := check.entries,
        outcome := .error e }
  | .ok _, .ok () =>
      let finish := ended p closing
      { served := true, pools := finish.pools, asked := check.asked,
        entries := check.entries ++ finish.entries, outcome := finish.outcome }

/-- The life of a service of these settings: how opening and closing its pool end,
how serving ends, and what the database replies. -/
def started (s : Settings) (opening closing : Pools.Attempt) (serving : Except Failure Unit)
    (replies : List Reply) : Life :=
  let start := entry ("starting " ++ s.appName ++ " v" ++ s.appVersion)
  let pool := Pools.get {} (.ok s) opening
  match pool.outcome with
  | .error e =>
      { pools := pool.pools, requested := pool.requested, entries := start :: pool.entries,
        outcome := .error e }
  | .ok () =>
      let life := opened s pool.pools closing serving replies
      { life with requested := pool.requested, entries := start :: pool.entries ++ life.entries }

/-- The life of the service that an environment describes. -/
def live (environment : List (String × String)) (opening closing : Pools.Attempt)
    (serving : Except Failure Unit) (replies : List Reply) : Life :=
  match Settings.ofEnvironment environment with
  | .error e => { outcome := .error e }
  | .ok s => started s opening closing serving replies

end GeoRegistry.Lifespan
