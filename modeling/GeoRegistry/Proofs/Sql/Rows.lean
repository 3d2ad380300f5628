/-
# Proofs.Sql.Rows -- the statements on single rows, as they are spelled

A row is found by its id, and by its owner too where that is asked, and in every case
only while it is not deleted.  What a write puts into a row is a list of columns with
their expressions (`Assignments.spelled`): an update spells it as assignments, an insert
as the columns first and the expressions after them.
-/
import GeoRegistry.Proofs.Sql.Queries
import GeoRegistry.Sql.Write

namespace GeoRegistry.Sql

set_option autoImplicit false

/-! ## Conditions -/

/-- The row of the id in a slot, unless it is deleted. -/
def Clause.byId (idColumn : String) (slot : Int) : Clause :=
  [.equals (.column idColumn) (.slot slot), .equals (.column "_deleted") .false_]

/-- The row of an id that a user created, unless it is deleted. -/
def Clause.byOwner (idColumn ownerColumn : String) : Clause :=
  [.equals (.column idColumn) (.slot 1), .equals (.column ownerColumn) (.slot 2),
   .equals (.column "_deleted") .false_]

theorem text_byId (idColumn : String) (slot : Int) :
    (Clause.byId idColumn slot).text =
      idColumn ++ " = " ++ ("$" ++ toString slot) ++ " AND _deleted = false" := by
  simp [Clause.byId, Clause.text, Test.text, Term.text, ← String.toList_inj]

theorem text_byOwner (idColumn ownerColumn : String) :
    (Clause.byOwner idColumn ownerColumn).text =
      idColumn ++ " = " ++ ("$" ++ toString (1 : Int)) ++ " AND " ++ ownerColumn ++ " = " ++
        ("$" ++ toString (2 : Int)) ++ " AND _deleted = false" := by
  simp [Clause.byOwner, Clause.text, Test.text, Term.text, ← String.toList_inj]

theorem render_existQuery (d : Descriptor) :
    (existQuery d).render =
      "SELECT COUNT(*) FROM " ++ d.table ++ " WHERE " ++ (Clause.byId d.idColumn 1).text ++ ";" := by
  rw [text_byId]
  simp [existQuery, render_text_cons, render_slot_cons, ← String.toList_inj]

theorem render_isOwnerQuery (d : Descriptor) :
    (isOwnerQuery d).render =
      "SELECT COUNT(*) FROM " ++ d.table ++ " WHERE " ++
        (Clause.byOwner d.idColumn d.ownerColumn).text ++ ";" := by
  rw [text_byOwner]
  simp [isOwnerQuery, render_text_cons, render_slot_cons, ← String.toList_inj]

theorem render_getQuery (d : Descriptor) :
    (getQuery d).render =
      "SELECT " ++ d.getColumns ++ " FROM " ++ d.table ++ " WHERE " ++
        (Clause.byId d.idColumn 1).text ++ ";" := by
  rw [text_byId]
  simp [getQuery, render_text_cons, render_slot_cons, ← String.toList_inj]

/-! ## Assignments -/

/-- Assignments as they are spelled. -/
def assignmentTexts (assigned : List (String × Fragment)) : List String :=
  assigned.map fun a => a.1 ++ " = " ++ Fragment.render a.2

/-- The columns of a write, each with its expression. -/
def Assignments.spelled (a : Assignments) (first : Int) : List (String × Fragment) :=
  (a.map Prod.fst).zip (a.expressions first)

theorem length_expressionsFrom (a : Assignments) (first slot : Int) (rest : Assignments) :
    (a.expressionsFrom first slot rest).length = rest.length := by
  induction rest generalizing slot with
  | nil => rfl
  | cons head rest ih => simp [Assignments.expressionsFrom, ih]

/-- Every column has one expression, and there is none besides. -/
theorem spelled_fst_snd (a : Assignments) (first : Int) :
    (a.spelled first).map Prod.fst = a.map Prod.fst ∧
      (a.spelled first).map Prod.snd = a.expressions first := by
  have length : (a.map Prod.fst).length = (a.expressions first).length := by
    rw [List.length_map, Assignments.expressions, length_expressionsFrom]
  exact ⟨List.map_fst_zip (by omega), List.map_snd_zip (by omega)⟩

/-- What marking a row deleted assigns. -/
def marked : List (String × Fragment) :=
  [("_deleted", [.text "true"]), ("_deleted_by", [.slot 1]),
   ("_deleted_at", [.text "CURRENT_TIMESTAMP"])]

theorem render_softDeleteQuery (d : Descriptor) :
    (softDeleteQuery d).render =
      "UPDATE " ++ d.table ++ " SET " ++ ", ".intercalate (assignmentTexts marked) ++ " WHERE " ++
        (Clause.byId d.idColumn 2).text ++ ";" := by
  rw [text_byId]
  simp [softDeleteQuery, assignmentTexts, marked, render_text_cons, render_slot_cons,
    ← String.toList_inj]

theorem render_joined (separator : String) (fs : List Fragment) :
    Fragment.render (Fragment.joined separator fs) =
      separator.intercalate (fs.map Fragment.render) := by
  induction fs with
  | nil => rfl
  | cons f rest ih =>
      cases rest with
      | nil => simp [Fragment.joined]
      | cons g rest =>
          rw [Fragment.joined, render_append, render_text_cons, ih]
          · simp [String.append_assoc]
          · simp

theorem render_replacement (r : Replacement) :
    r.sql.render =
      "\nUPDATE " ++ r.table ++ " SET\n       " ++
        ",\n       ".intercalate (assignmentTexts (r.assignments.spelled 2)) ++ "\nWHERE " ++
          (Clause.byId "id" 1).text ++ ";\n" := by
  have set : (List.zipWith (fun (a : String × Source) e => Piece.text (a.1 ++ " = ") :: e)
        r.assignments (r.assignments.expressions 2)).map Fragment.render =
      assignmentTexts (r.assignments.spelled 2) := by
    simp [assignmentTexts, Assignments.spelled, List.map_zipWith, render_text_cons,
      List.zip_eq_zipWith, List.zipWith_map_left]
  rw [Replacement.sql, List.cons_append, render_text_cons, render_append, render_joined, set,
    text_byId]
  simp [render_text_cons, render_slot_cons, ← String.toList_inj]

/-- An insert lists the columns, and then their expressions in the same order. -/
theorem sql_insertion (w : Insertion) :
    w.sql =
      .text ("\nINSERT INTO " ++ w.table ++ "\n(") ::
        laidOut w.columnLines " " ((w.assignments.spelled 1).map fun a => [.text a.1]) ++
        .text ")\nVALUES (" ::
        laidOut w.valueLines "        " ((w.assignments.spelled 1).map Prod.snd) ++
        [.text (match w.returning with
          | none => ");\n"
          | some column => ")\nRETURNING " ++ column ++ ";\n")] := by
  obtain ⟨columns, expressions⟩ := spelled_fst_snd w.assignments 1
  have listed : (w.assignments.spelled 1).map (fun a => [Piece.text a.1]) =
      w.assignments.map fun a => [Piece.text a.1] := by
    rw [show (fun a : String × Fragment => [Piece.text a.1]) =
      (fun name => [Piece.text name]) ∘ Prod.fst from rfl, ← List.map_map, columns, List.map_map]
    rfl
  rw [listed, expressions]
  rfl

end GeoRegistry.Sql
