/-
# Validation.Checked -- reading that gathers every complaint

`Checked α` is a value or a list of complaints.  Combining two readings keeps
the complaints of both, in order, so that a refused document names everything
that is wrong with it.
-/
import GeoRegistry.Validation.Issue

namespace GeoRegistry

set_option autoImplicit false

inductive Checked (α : Type) where
  | accepted (value : α)
  | refused (issues : List Issue)
  deriving Repr

namespace Checked

variable {α β : Type}

def map (f : α → β) : Checked α → Checked β
  | .accepted a => .accepted (f a)
  | .refused issues => .refused issues

/-- Apply a reading of a function to a reading of its argument. -/
def apply : Checked (α → β) → Checked α → Checked β
  | .accepted f, .accepted a => .accepted (f a)
  | .accepted _, .refused issues => .refused issues
  | .refused issues, .accepted _ => .refused issues
  | .refused first, .refused second => .refused (first ++ second)

instance : Functor Checked where
  map := map

instance : Applicative Checked where
  pure := .accepted
  seq f a := apply f (a ())

/-- A single complaint about a value as a whole. -/
def complaint (kind : IssueKind) (input : Cell) : Checked α :=
  .refused [⟨kind, [], input⟩]

/-- Place every complaint one step further in. -/
def within (step : Locus) : Checked α → Checked α
  | .accepted a => .accepted a
  | .refused issues => .refused (issues.map (·.within step))

def toExcept : Checked α → Except (List Issue) α
  | .accepted a => .ok a
  | .refused issues => .error issues

@[simp] theorem map_accepted (f : α → β) (a : α) : f <$> Checked.accepted a = .accepted (f a) := rfl

@[simp] theorem seq_accepted (f : α → β) (a : α) :
    Checked.accepted f <*> Checked.accepted a = .accepted (f a) := rfl

end Checked

/-! ## Fields of a record -/

namespace Record

variable {α : Type}

/-- A field that must be there. -/
def required (name : String) (read : Cell → Checked α) (fields : Record) : Checked α :=
  match fields.lookup name with
  | some cell => (read cell).within (.name name)
  | none => .refused [⟨.missing, [.name name], .record fields⟩]

/-- A field with a value of its own when it is left out. -/
def defaulted (name : String) (read : Cell → Checked α) (default : α) (fields : Record) :
    Checked α :=
  match fields.lookup name with
  | some cell => (read cell).within (.name name)
  | none => .accepted default

/-- A field that may be left out or null. -/
def optional (name : String) (read : Cell → Checked α) (fields : Record) : Checked (Option α) :=
  match fields.lookup name with
  | none => .accepted none
  | some .null => .accepted none
  | some cell => ((read cell).within (.name name)).map some

end Record

/-- A document with named fields: what it is called, how it is read from a
record, and the cells it consists of. -/
structure Shape (α : Type) where
  name : String
  read : Record → Checked α
  fields : α → Record

namespace Shape

variable {α : Type}

/-- Read a document from a cell, which must hold a record. -/
def ofCell (s : Shape α) : Cell → Checked α
  | .record fields => s.read fields
  | c => .complaint (.shape s.name) c

/-- A document as it stands in an answer. -/
def toJson (s : Shape α) (a : α) : Json :=
  (Cell.record (s.fields a)).toJson

end Shape

end GeoRegistry
