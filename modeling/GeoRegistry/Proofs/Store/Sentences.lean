/-
# Proofs.Store.Sentences -- what the statements on single rows say

Every statement that counts, shows, inserts, changes or deletes a single row says so of its
table (`Sentence.SaidBy`), whatever the schema is called: which columns it assigns or shows, and
which row it asks for.  In a schema whose name is an identifier the name of the table is a word,
and the text of the statement itself is read as that sentence (`solid_table`).
-/
import GeoRegistry.Proofs.Sql.Assignments
import GeoRegistry.Proofs.Validation.Agreement
import GeoRegistry.Store.Command

namespace GeoRegistry.Store

set_option autoImplicit false

open Sql

/-! ## The tables of the registry -/

section Tables

variable (srid : Int)

theorem insertThing_byName :
    (ThingTable.insertAssignments srid).ByName Thing.Content.names srid := by
  constructor <;>
    simp [ThingTable.insertAssignments, Thing.Content.names, Assignments.bindings, Source.bindings,
      userColumns, timeColumns, axes]

theorem updateThing_byName :
    (ThingTable.updateAssignments srid).ByName Thing.Content.names srid := by
  constructor <;>
    simp [ThingTable.updateAssignments, Thing.Content.names, Assignments.bindings, Source.bindings,
      userColumns, timeColumns, axes]

theorem insertType_byName (schema : String) :
    (ThingTypeTable.insertion schema).assignments.ByName ThingType.Content.names srid := by
  constructor <;>
    simp [ThingTypeTable.insertion, ThingTypeTable.contentAssignments, ThingType.Content.names,
      Assignments.bindings, Source.bindings, userColumns, timeColumns, axes]

theorem updateType_byName (schema : String) :
    (ThingTypeTable.replacement schema).assignments.ByName ThingType.Content.names srid := by
  constructor <;>
    simp [ThingTypeTable.replacement, ThingTypeTable.contentAssignments, ThingType.Content.names,
      Assignments.bindings, Source.bindings, userColumns, timeColumns, axes]

/-- The fields of things and of types are words. -/
theorem term_names :
    (∀ name ∈ Thing.Content.names, IsTerm name) ∧
      ∀ name ∈ ThingType.Content.names, IsTerm name := by
  decide +kernel

/-- And so are the columns that show a full row. -/
theorem term_getColumns :
    (∀ c ∈ ThingTable.getColumns, ∀ w ∈ c.words, IsTerm w) ∧
      ∀ c ∈ ThingTypeTable.getColumns, ∀ w ∈ c.words, IsTerm w := by
  decide +kernel

end Tables

/-- A name in a schema whose own name is an identifier is a word. -/
theorem solid_qualified {schema : String} (plain : IsIdentifier schema) (name : String)
    (rest : ∀ c ∈ name.toList, c ∉ looked) : Solid (schema ++ name) := by
  refine solid_plain (fun empty => plain.1 ?_) fun c member => ?_
  · exact (String.append_eq_empty_iff.1 empty).1
  · rw [String.toList_append, List.mem_append] at member
    rcases member with first | second
    · exact plain_alphanum (plain.2 c first)
    · exact rest c second

theorem solid_table {s : Store} (plain : IsIdentifier s.schema) (t : Table) :
    Solid (t.descriptor s.schema).table := by
  cases t with
  | things => exact solid_qualified plain ".thing" (by simp [looked])
  | types => exact solid_qualified plain ".type_thing" (by simp [looked])

/-- The columns of a full row, under the names they are shown by. -/
def Table.shown : Table → List (String × String)
  | .things => ThingTable.getColumns.map Column.said
  | .types => ThingTypeTable.getColumns.map Column.said

/-- What the query of a full row shows. -/
def Table.sentence (schema : String) (t : Table) : Sentence where
  act := .query
  table := (t.descriptor schema).table
  columns := t.shown
  condition := some byId

/-! ## Conditions -/

/-- The words of the row of an id that a user created, unless it is deleted. -/
def byOwnerWords : List String :=
  ["id", "=", "$1", "AND", "_created_by", "=", "$2", "AND", "_deleted", "=", "false"]

/-- The words of the row of the id that is the second argument, unless it is deleted. -/
def bySecondWords : List String :=
  ["id", "=", "$2", "AND", "_deleted", "=", "false"]

theorem text_byFirst : (Clause.byId "id" 1).text = byId := by
  decide

theorem text_bySecond : (Clause.byId "id" 2).text = phrase bySecondWords := by
  decide

theorem text_byOwnerWords : (Clause.byOwner "id" "_created_by").text = phrase byOwnerWords := by
  decide

theorem solid_conditions :
    (∀ w ∈ byIdWords, Solid w) ∧ (∀ w ∈ bySecondWords, Solid w) ∧ ∀ w ∈ byOwnerWords, Solid w := by
  decide

/-! ## The statements -/

/-- What a count shows. -/
def countColumn : Column := ⟨"COUNT(*)", none⟩

section Statements

variable (s : Store) (t : Table) (id : Cell) (user : Int)

/-- A count of the rows that a condition selects says so. -/
theorem count_said (table : String) {ws : List String} (solid : ∀ w ∈ ws, Solid w) :
    Sentence.SaidBy
      { act := .query, table, columns := [countColumn.said], condition := some (phrase ws) }
      ("SELECT COUNT(*) FROM " ++ table ++ " WHERE " ++ phrase ws ++ ";") := by
  have blank : Blank "" := by decide
  have said := query_said table [countColumn] blank (by simp) (by decide) solid
  have shown :
      "SELECT COUNT(*) FROM " = "SELECT " ++ Column.listing "" [countColumn] ++ " FROM " := by
    simp [Column.listing, Column.text, countColumn]
  rwa [shown]

theorem exist_said :
    Sentence.SaidBy
      { act := .query, table := (t.descriptor s.schema).table, columns := [countColumn.said],
        condition := some (Clause.byId "id" 1).text }
      (s.statement (.exist t id)).sql := by
  have text : (s.statement (.exist t id)).sql = _ := render_existQuery (t.descriptor s.schema)
  have key : (t.descriptor s.schema).idColumn = "id" := by cases t <;> rfl
  rw [text, key, text_byFirst, ← phrase_byIdWords]
  exact count_said _ solid_conditions.1

theorem isOwner_said :
    Sentence.SaidBy
      { act := .query, table := (t.descriptor s.schema).table, columns := [countColumn.said],
        condition := some (Clause.byOwner "id" "_created_by").text }
      (s.statement (.isOwner t id user)).sql := by
  have text : (s.statement (.isOwner t id user)).sql = _ :=
    render_isOwnerQuery (t.descriptor s.schema)
  have key : (t.descriptor s.schema).idColumn = "id" := by cases t <;> rfl
  have owner : (t.descriptor s.schema).ownerColumn = "_created_by" := by cases t <;> rfl
  rw [text, key, owner, text_byOwnerWords]
  exact count_said _ solid_conditions.2.2

theorem get_said :
    (t.sentence s.schema).SaidBy (s.statement (.get t id)).sql := by
  have text : (s.statement (.get t id)).sql = _ := render_getQuery (t.descriptor s.schema)
  have key : (t.descriptor s.schema).idColumn = "id" := by cases t <;> rfl
  have blank : Blank "       " := by decide
  rw [text, key, text_byFirst, ← phrase_byIdWords]
  cases t with
  | things =>
      exact query_said _ ThingTable.getColumns blank (by simp [ThingTable.getColumns])
        term_getColumns.1 solid_conditions.1
  | types =>
      exact query_said _ ThingTypeTable.getColumns blank
        (by simp [ThingTypeTable.getColumns]) term_getColumns.2 solid_conditions.1

theorem softDelete_said :
    Sentence.SaidBy
      { act := .update, table := (t.descriptor s.schema).table,
        columns := marked.map fun p => (p.1, p.2.render),
        condition := some (Clause.byId "id" 2).text }
      (s.statement (.softDelete t id user)).sql := by
  have text : (s.statement (.softDelete t id user)).sql = _ :=
    render_softDeleteQuery (t.descriptor s.schema)
  have key : (t.descriptor s.schema).idColumn = "id" := by cases t <;> rfl
  have said := update_said Layout.clear_line (t.descriptor s.schema).table
    (marked.map fun p => (p.1, p.2.render)) (by simp [marked]) (by decide)
    solid_conditions.2.1
  have inLine (table assignments condition : String) :
      "UPDATE " ++ table ++ " SET " ++ assignments ++ " WHERE " ++ condition ++ ";" =
        "" ++ "UPDATE " ++ table ++
          (" SET" ++ " " ++ assignments ++ " " ++ "WHERE " ++ condition ++ ";" ++ "") := by
    simp [← String.toList_inj]
  rw [text, key, text_bySecond, inLine]
  exact said

theorem insertThing_said (content : Thing.Content) :
    (ThingTable.insertion s.schema s.srid).sentence.SaidBy
      (s.statement (.insertThing user content)).sql := by
  rw [Store.statement, Statement.ofQuery]
  apply insertion_said (w := ThingTable.insertion s.schema s.srid)
  · exact (insertThing_byName s.srid).terms term_names.1
  · simp [ThingTable.insertion, ThingTable.insertAssignments]
  · exact ⟨by simp [ThingTable.insertion], rfl⟩
  · exact ⟨by simp [ThingTable.insertion], rfl⟩
  · intro column named
    cases named

theorem updateThing_said (content : Thing.Content) :
    (ThingTable.replacement s.schema s.srid).sentence.SaidBy
      (s.statement (.updateThing id user content)).sql := by
  rw [Store.statement, Statement.ofQuery]
  apply replacement_said
  · exact (updateThing_byName s.srid).terms term_names.1
  · simp [ThingTable.replacement, ThingTable.updateAssignments]

theorem insertType_said (content : ThingType.Content) :
    (ThingTypeTable.insertion s.schema).sentence.SaidBy
      (s.statement (.insertType user content)).sql := by
  rw [Store.statement, Statement.ofQuery]
  apply insertion_said (w := ThingTypeTable.insertion s.schema)
  · exact (insertType_byName s.srid s.schema).terms term_names.2
  · simp [ThingTypeTable.insertion]
  · exact ⟨by simp [ThingTypeTable.insertion], rfl⟩
  · exact ⟨by simp [ThingTypeTable.insertion], rfl⟩
  · intro column named
    cases named
    decide

theorem updateType_said (content : ThingType.Content) :
    (ThingTypeTable.replacement s.schema).sentence.SaidBy
      (s.statement (.updateType id user content)).sql := by
  rw [Store.statement, Statement.ofQuery]
  apply replacement_said
  · exact (updateType_byName s.srid s.schema).terms term_names.2
  · simp [ThingTypeTable.replacement]

end Statements

end GeoRegistry.Store
