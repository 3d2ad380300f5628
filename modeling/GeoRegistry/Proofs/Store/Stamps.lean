/-
# Proofs.Store.Stamps -- what a write notes on its row

The registry notes on every row who made it, who changed it last and who deleted it, and when
(`notes`).  The text of an insert says that the row is its user's (`Statement.Creates`), and the
text of an update that the user changed it, and nothing of the id or of who made or deleted it
(`Statement.Revises`); and whatever else either writes into these columns is the user or the
time of the database.  The content has no say in it.
-/
import GeoRegistry.Proofs.Store.Columns

namespace GeoRegistry.Store

set_option autoImplicit false

open Sql

/-! ## Notes on a row -/

/-- The columns of the registry's own notes on a row. -/
def notes : List String :=
  Schema.auditColumns.map (·.name)

/-- The columns that say which row it is, who made it and whether it is deleted. -/
def reserved : List String :=
  ["id", "_created_at", "_created_by", "_deleted", "_deleted_at", "_deleted_by"]

namespace Statement

/-- Whatever a write notes on its row is the user who writes or the time. -/
def Notes (t : Statement) (w : Sentence) (user : Int) : Prop :=
  ∀ column ∈ w.names, column ∈ notes →
    t.Gives w column (.int user) ∨ w.columns.lookup column = some "CURRENT_TIMESTAMP"

/-- **The statement adds a row of a user's to a table**, as its text says. -/
structure Creates (t : Statement) (table : String) (user : Int) (w : Sentence) : Prop where
  said : w.SaidBy t.sql
  adds : w.act = .insert
  about : w.table = table
  distinct : w.names.Nodup
  stamped : t.Gives w "_created_by" (.int user)
  notes : t.Notes w user

/-- **The statement changes the row of an id for a user**, as its text says, and leaves alone
which row it is, who made it and whether it is deleted. -/
structure Revises (t : Statement) (table : String) (user : Int) (id : Cell) (w : Sentence) :
    Prop where
  said : w.SaidBy t.sql
  changes : w.act = .update
  about : w.table = table
  row : w.condition = some "id = $1 AND _deleted = false" ∧ t.args.head? = some id
  distinct : w.names.Nodup
  stamped : t.Gives w "_last_modified_by" (.int user)
  notes : t.Notes w user
  spares : ∀ name ∈ reserved, name ∉ w.names

end Statement

section Binds

variable {t : Statement} {w : Sentence} {fields : Record} {user srid : Int}
  (binds : t.BindsByName w fields user srid)
  (unnoted : ∀ name ∈ fields.map Prod.fst, name ∉ notes)

include binds unnoted

/-- A write that binds its columns by name notes nothing that the fields say. -/
theorem notes_of_binds : t.Notes w user := by
  intro column member noted
  have known := binds.others column member
  rw [List.mem_append, List.mem_append, List.mem_append] at known
  rcases known with ((field | stamp) | time) | other
  · exact absurd noted (unnoted column field)
  · exact .inl (binds.users column member stamp)
  · exact .inr (binds.times column member time)
  · have apart : ∀ name ∈ ["position", "text_search"], name ∉ notes := by decide
    exact absurd noted (apart column other)

variable (said : w.SaidBy t.sql)

include said

/-- An insert of that kind adds a row of its user's. -/
theorem creates_of_binds (adds : w.act = .insert) (stamp : "_created_by" ∈ w.names) :
    t.Creates w.table user w where
  said := said
  adds := adds
  about := rfl
  distinct := binds.distinct
  stamped := binds.users _ stamp (by decide)
  notes := notes_of_binds binds unnoted

/-- An update of that kind was made by its user, and spares what it does not assign. -/
theorem revises_of_binds {id : Cell} (changes : w.act = .update)
    (row : w.condition = some "id = $1 AND _deleted = false" ∧ t.args.head? = some id)
    (stamp : "_last_modified_by" ∈ w.names) (spares : ∀ name ∈ reserved, name ∉ w.names) :
    t.Revises w.table user id w where
  said := said
  changes := changes
  about := rfl
  row := row
  distinct := binds.distinct
  stamped := binds.users _ stamp (by decide)
  notes := notes_of_binds binds unnoted
  spares := spares

end Binds

theorem thing_fields_unnoted (content : Thing.Content) :
    ∀ name ∈ content.fields.map Prod.fst, name ∉ notes := by
  rw [content.fields_names]
  decide

theorem type_fields_unnoted (content : ThingType.Content) :
    ∀ name ∈ content.fields.map Prod.fst, name ∉ notes := by
  rw [content.fields_names]
  decide

/-! ## The four writes -/

section Commands

variable (s : Store) (user : Int) (id : Cell)

/-- **A new thing is its creator's.** -/
theorem insertThing_creates (content : Thing.Content) :
    (s.statement (.insertThing user content)).Creates (ThingTable.table s.schema) user
      (ThingTable.insertion s.schema s.srid).sentence := by
  apply creates_of_binds (insertThing_binds s user content) (thing_fields_unnoted content)
    (insertThing_said s user content)
  · rfl
  · simp [ThingTable.insertion, ThingTable.insertAssignments]

/-- **A new type is its creator's.** -/
theorem insertType_creates (content : ThingType.Content) :
    (s.statement (.insertType user content)).Creates (ThingTypeTable.table s.schema) user
      (ThingTypeTable.insertion s.schema).sentence := by
  apply creates_of_binds (insertType_binds s user content) (type_fields_unnoted content)
    (insertType_said s user content)
  · rfl
  · simp [ThingTypeTable.insertion]

/-- **A thing that is updated was modified by who did it**, and is who made it all the same. -/
theorem updateThing_revises (content : Thing.Content) :
    (s.statement (.updateThing id user content)).Revises (ThingTable.table s.schema) user id
      (ThingTable.replacement s.schema s.srid).sentence := by
  apply revises_of_binds (updateThing_binds s user id content) (thing_fields_unnoted content)
    (updateThing_said s id user content)
  · rfl
  · exact ⟨rfl, rfl⟩
  · simp [ThingTable.replacement, ThingTable.updateAssignments]
  · simp [reserved, ThingTable.replacement, ThingTable.updateAssignments]

/-- **A type that is updated** likewise. -/
theorem updateType_revises (content : ThingType.Content) :
    (s.statement (.updateType id user content)).Revises (ThingTypeTable.table s.schema) user id
      (ThingTypeTable.replacement s.schema).sentence := by
  apply revises_of_binds (updateType_binds s user id content) (type_fields_unnoted content)
    (updateType_said s id user content)
  · rfl
  · exact ⟨rfl, rfl⟩
  · simp [ThingTypeTable.replacement]
  · simp [reserved, ThingTypeTable.replacement, ThingTypeTable.contentAssignments]

/-- **The id in a content is no argument of an update.** -/
theorem statement_updateThing (content : Thing.Content) (other : Uuid) :
    s.statement (.updateThing id user { content with id := other }) =
      s.statement (.updateThing id user content) := by
  have unused : ∀ b ∈ (ThingTable.updateAssignments s.srid).bindings, b ≠ .field "id" := by
    simp [ThingTable.updateAssignments, Assignments.bindings, Source.bindings]
  have same : (ThingTable.updateAssignments s.srid).arguments user
      ({ content with id := other } : Thing.Content).fields =
        (ThingTable.updateAssignments s.srid).arguments user content.fields := by
    refine List.map_congr_left fun b member => ?_
    cases b with
    | user => rfl
    | field name =>
        have differs : (name == "id") = false := by
          simpa using fun named : name = "id" => unused _ member (by rw [named])
        simp only [Thing.Content.fields, List.lookup_cons, differs]
  simp only [statement, ThingTable.replacement, same]

end Commands

end GeoRegistry.Store
