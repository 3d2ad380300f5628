/-
# Store.Pool -- the pool of connections the service shares

There is at most one pool at a time.  The first who needs it opens it; one that
could not be opened is tried again by the next, and one that could not be closed
stays.  Pools are numbered in the order they were opened.
-/
import GeoRegistry.Settings
import GeoRegistry.Store.Channel

namespace GeoRegistry.Store

set_option autoImplicit false

/-- Where a database is, and as whom to use it. -/
structure Access where
  user : String
  password : String
  host : String
  port : Int
  database : String
  deriving DecidableEq, Repr

/-- The database of the settings. -/
def Access.ofSettings (s : Settings) : Access where
  user := s.databaseUser
  password := s.databasePassword
  host := s.databaseHost
  port := s.databasePort
  database := s.databaseName

/-- What a pool is opened with. -/
structure PoolRequest where
  access : Access
  min : Int
  max : Int
  deriving DecidableEq, Repr

def PoolRequest.ofSettings (s : Settings) : PoolRequest :=
  ⟨.ofSettings s, s.poolMin, s.poolMax⟩

/-- The pools there are and were. -/
structure Pools where
  /-- The pool in use. -/
  current : Option Nat := none
  /-- How many pools were opened. -/
  opened : Nat := 0
  /-- The pools that were closed, the latest first. -/
  closed : List Nat := []
  deriving DecidableEq, Repr

namespace Pools

/-- What is logged about a pool that was opened. -/
def openedEntry (s : Settings) : Log.Entry :=
  { level := .info, logger := Channel.logger, message := "database pool created",
    extra := [("host", .text s.databaseHost), ("db", .text s.databaseName)] }

/-- How an attempt at opening or closing a pool ends: without a failure, or with
one. -/
abbrev Attempt := Option StatementFailure

/-- What a step did to the pools. -/
structure Step where
  pools : Pools
  /-- What a pool was opened with, or should have been. -/
  requested : Option PoolRequest := none
  entries : List Log.Entry := []
  outcome : Except Failure Unit := .ok ()

/-- Get the pool in use, or open one; the settings are looked at only then. -/
def get (p : Pools) (settings : Except Failure Settings) (attempt : Attempt) : Step :=
  match p.current with
  | some _ => { pools := p }
  | none =>
      match settings with
      | .error e => { pools := p, outcome := .error e }
      | .ok s =>
          let requested := some (PoolRequest.ofSettings s)
          match attempt with
          | some f => { pools := p, requested, outcome := .error (.interrupted f) }
          | none =>
              { pools := { p with current := some (p.opened + 1), opened := p.opened + 1 },
                requested, entries := [openedEntry s] }

/-- Close the pool in use, if there is one. -/
def close (p : Pools) (attempt : Attempt) : Step :=
  match p.current with
  | none => { pools := p }
  | some n =>
      match attempt with
      | some f => { pools := p, outcome := .error (.interrupted f) }
      | none => { pools := { p with current := none, closed := n :: p.closed } }

end Pools

end GeoRegistry.Store
