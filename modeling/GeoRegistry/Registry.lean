/-
# Registry -- the rules under which callers may work with things and types

A registry is a store and a naming rule.  Checks come before the writes they
guard: a caller must be an administrator to manage types, must own a thing to
change it, and names must pass the naming rule.  A query that matches nothing is
an empty answer in a list, and a refusal when a single row was asked for.
-/
import GeoRegistry.Store.Writing
import GeoRegistry.Caller
import GeoRegistry.NameRule

namespace GeoRegistry

set_option autoImplicit false

structure Registry where
  store : Store := {}
  /-- The least length of a name. -/
  leastName : Int := NameRule.defaultLeast

/-- A caller must administer the registry. -/
def Caller.requireAdmin (c : Caller) : Except Refusal Unit :=
  if c.isAdmin then .ok () else .error .adminRequired

namespace Registry

/-- What the registry says in the log, where it says it, and about what. -/
def entry (level : Log.Level) (place message : String) (id : Cell) (caller : Caller) : Log.Entry :=
  { level, logger := "geothing.features." ++ place, message,
    extra := [("id", id), ("user_id", .int caller.userId)] }

/-- The refusal of a row that is not there. -/
def missing (t : Store.Table) (id : Cell) : DomainError :=
  .ofDetail .notFound (t.noun ++ " " ++ id.prose ++ " does not exist")

/-- The name of something to store must pass the naming rule. -/
def requireName (r : Registry) (name : String) : Dialogue Store.Command Unit :=
  .require (NameRule.check "name" r.leastName name)

variable {Item Line : Type}

/-- A row must have the id. -/
def requireRow (r : Registry) (c : Store.Collection Item Line) (id : Cell) :
    Dialogue Store.Command Unit := do
  unless ← c.exist r.store id do .refuse (missing c.table id)

/-- The row of an id.  One that disappears between the check and the reading is
missing like any other. -/
def present (r : Registry) (c : Store.Collection Item Line) (id : Cell) :
    Dialogue Store.Command Item := do
  r.requireRow c id
  (c.get r.store id).ifNoRows (.refuse ((missing c.table id).because .noRows))

/-- Lines of a list; none when the query matched nothing. -/
def orEmpty (found : Dialogue Store.Command (List Line)) : Dialogue Store.Command (List Line) :=
  found.ifNoRows (pure [])

end Registry

end GeoRegistry
