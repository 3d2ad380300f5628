/-
# Proofs.Sql.Queries -- the conditions of lists, counts and feature collections

The three queries that filters act on have the same clause; what differs is the text
around it and how many arguments come before those of the filters.  The tables of the
registry meet what the clause needs: their definitions make every filtered column
required but the one that is listed as nullable.
-/
import GeoRegistry.Proofs.Sql.Selection
import GeoRegistry.Sql.Schema
import GeoRegistry.Store.Command

namespace GeoRegistry.Sql

set_option autoImplicit false

/-! ## The text around the condition -/

section Text

variable {d : Descriptor} {base : Clause} (spelled : d.base = base.map Test.text)
  (some_ : base ≠ []) (f : Filters) (offset limit : Cell)

theorem render_pageClause (d : Descriptor) (rest : Fragment) :
    Fragment.render (pageClause d ++ rest) =
      " ORDER BY " ++ d.orderBy ++ " LIMIT $1 OFFSET $2" ++ Fragment.render rest := by
  have one : toString (1 : Int) = "1" := rfl
  have two : toString (2 : Int) = "2" := rfl
  have page : " LIMIT $1 OFFSET $2" = " LIMIT " ++ "$" ++ "1" ++ " OFFSET " ++ "$" ++ "2" := by
    simp
  rw [page]
  simp only [pageClause, List.cons_append, List.nil_append, render_text_cons, render_slot_cons, one,
    two, String.append_assoc]

/-- The text of a feature collection up to its condition. -/
def featuresOpening (d : Descriptor) (geometry properties : String) : String :=
  "\nSELECT row_to_json(fc)::text\n" ++
    "FROM (SELECT 'FeatureCollection' AS type,\n" ++
    "             coalesce(array_to_json(array_agg(f)), '[]') AS features\n" ++
    "      FROM (SELECT 'Feature' AS type,\n" ++
    "                   ST_AsGeoJSON(t." ++ geometry ++ ", 6)::json AS geometry,\n" ++
    "                   row_to_json((SELECT l FROM (SELECT " ++ properties ++
    ") AS l)) AS properties\n" ++
    "            FROM " ++ d.table ++ " t\n" ++
    "            WHERE "

include spelled some_

theorem render_listQuery :
    (listQuery d f offset limit).sql.render =
      "SELECT " ++ d.listColumns ++ " FROM " ++ d.table ++ " WHERE " ++
        (d.clause base f 3).text ++ " ORDER BY " ++ d.orderBy ++ " LIMIT $1 OFFSET $2;" := by
  simp only [listQuery, List.append_assoc, List.cons_append]
  rw [render_text_cons, render_append, render_pageClause, render_whereClause spelled some_]
  simp [render_text_cons, String.append_assoc]

theorem render_countQuery :
    (countQuery d f).sql.render =
      "SELECT COUNT(*) FROM " ++ d.table ++ " WHERE " ++ (d.clause base f 1).text ++ ";" := by
  simp only [countQuery, List.cons_append]
  rw [render_text_cons, render_append, render_whereClause spelled some_]
  simp [render_text_cons, String.append_assoc]

theorem render_featuresQuery (geometry properties : String) :
    (featuresQuery d geometry properties f offset limit).sql.render =
      featuresOpening d geometry properties ++ (d.clause base f 3).text ++
        "\n             ORDER BY " ++ d.orderBy ++ " LIMIT $1 OFFSET $2) AS f) AS fc;\n" := by
  simp only [featuresQuery, List.append_assoc, List.cons_append]
  rw [render_text_cons, render_append, render_text_cons, render_pageClause,
    render_whereClause spelled some_]
  have order (rest : String) :
      "\n            " ++ (" ORDER BY " ++ rest) = "\n             ORDER BY " ++ rest := by
    rw [← String.append_assoc]
    simp
  unfold featuresOpening
  simp [render_text_cons, String.append_assoc, order]

end Text

/-! ## Filters that are absent -/

/-- The filters have the same present ones. -/
def Filters.SamePresent (f g : Filters) : Prop :=
  ∀ name o, o.present = true → (f.lookup name = some o ↔ g.lookup name = some o)

/-- Absent filters ask nothing of a row. -/
theorem Filters.SamePresent.matches {f g : Filters} (same : f.SamePresent g) {i : Interpretation}
    {row : Row} {d : Descriptor} (matched : f.Match i row d) : g.Match i row d where
  columns name column o listed found there :=
    matched.columns name column o listed ((same name o there).2 found) there
  keywords there := by
    cases found : g.lookup "keywords" with
    | none => simp [Filters.keywords, found, Opt.absent] at there
    | some o =>
        have gives : g.keywords = o := by simp [Filters.keywords, found]
        rw [gives] at there ⊢
        have kept : f.keywords = o := by simp [Filters.keywords, (same _ o there).2 found]
        rw [← kept]
        exact matched.keywords (by rw [kept]; exact there)

theorem Filters.SamePresent.symm {f g : Filters} (same : f.SamePresent g) : g.SamePresent f :=
  fun name o there => (same name o there).symm

/-! ## The tables of the registry -/

/-- The row has values in the columns that are defined as required. -/
def Schema.TableDefinition.Admits (t : Schema.TableDefinition) (row : Row) : Prop :=
  ∀ c ∈ t.columns, c.isNullable = false → Opt.isNull (row c.name) = false

end GeoRegistry.Sql

namespace GeoRegistry.Store

open Sql

namespace Table

/-- The definition of a table. -/
def definition (schema : String) (srid : Int) : Table → Schema.TableDefinition
  | .things => Schema.thingTable schema srid
  | .types => Schema.typeTable schema

/-- The condition that every row shown meets. -/
def base : Table → Clause
  | .things => [.equals (.column "_deleted") .false_, .notNull (.column "position")]
  | .types => [.equals (.column "_deleted") .false_]

theorem base_spelled (t : Table) (schema : String) :
    (t.descriptor schema).base = t.base.map Test.text := by
  cases t with
  | things =>
      change ["_deleted = false", "position IS NOT NULL"] = _
      decide
  | types =>
      change ["_deleted = false"] = _
      decide

theorem base_ne_nil (t : Table) : t.base ≠ [] := by
  cases t <;> simp [base]

theorem selects_base_iff {i : Interpretation} {args : List Cell} {row : Row} (t : Table) :
    Clause.Selects i args row t.base ↔
      i.equals (row "_deleted") (.bool false) = .yes ∧
        (t = .things → Opt.isNull (row "position") = false) := by
  cases t <;> simp [base, Clause.selects_iff, Test.truth, Term.value]

/-- **The filtered columns are defined as the clause needs them**: all of them are
required but those that the descriptor lists as nullable. -/
theorem allows {schema : String} {srid : Int} {row : Row} {t : Table}
    (admits : (t.definition schema srid).Admits row) : (t.descriptor schema).Allows row := by
  intro name column listed unlisted
  cases t with
  | things =>
      have required : ∀ c ∈ (Schema.thingTable schema srid).columns, c.isNullable = false →
          Opt.isNull (row c.name) = false := admits
      simp only [descriptor, ThingTable.descriptor, List.mem_cons, Prod.mk.injEq, List.not_mem_nil,
        or_false] at listed
      rcases listed with ⟨-, rfl⟩ | ⟨-, rfl⟩ | ⟨-, rfl⟩ | ⟨-, rfl⟩
      · exact required (Schema.required "type_id" "integer"
          (" REFERENCES " ++ schema ++ ".type_thing (id)")) (by simp [Schema.thingTable]) rfl
      · exact required (Schema.required "_created_by" "integer")
          (by simp [Schema.thingTable, Schema.auditColumns]) rfl
      · exact required (Schema.flag "inactivated")
          (by simp [Schema.thingTable, Schema.inactivationColumns]) rfl
      · exact required (Schema.flag "validated") (by simp [Schema.thingTable]) rfl
  | types =>
      have required : ∀ c ∈ (Schema.typeTable schema).columns, c.isNullable = false →
          Opt.isNull (row c.name) = false := admits
      simp only [descriptor, ThingTypeTable.descriptor, List.mem_cons, Prod.mk.injEq,
        List.not_mem_nil, or_false] at listed
      rcases listed with ⟨-, rfl⟩ | ⟨-, rfl⟩ | ⟨-, rfl⟩
      · exact required (Schema.required "_created_by" "integer")
          (by simp [Schema.typeTable, Schema.auditColumns]) rfl
      · simp [descriptor, ThingTypeTable.descriptor] at unlisted
      · exact required (Schema.flag "inactivated")
          (by simp [Schema.typeTable, Schema.inactivationColumns]) rfl

end Table

end GeoRegistry.Store

namespace GeoRegistry.Sql

open Store (Table)

/-- The condition of a query is true of a row; `leading` are the arguments that come
before those of the filters. -/
def Descriptor.Selects (d : Descriptor) (base : Clause) (i : Interpretation) (leading : List Cell)
    (f : Filters) (row : Row) : Prop :=
  Clause.Selects i (leading ++ (predicates d f (leading.length + 1)).args) row
    (d.clause base f (leading.length + 1))

/-- What a query over a table of the registry selects. -/
theorem selects_table_iff {i : Interpretation} {leading : List Cell} {f : Filters} {row : Row}
    {t : Table} {schema : String} {srid : Int} (admits : (t.definition schema srid).Admits row) :
    (t.descriptor schema).Selects t.base i leading f row ↔
      (i.equals (row "_deleted") (.bool false) = .yes ∧
        (t = .things → Opt.isNull (row "position") = false)) ∧
      f.Match i row (t.descriptor schema) := by
  rw [Descriptor.Selects, clause_selects_iff i (Table.allows admits), Table.selects_base_iff]

/-- **What filters select.**  The condition of a list, of a count and of a feature
collection is spelled as a clause that is true of a row exactly when the base condition
is, every filter that is present is equal to its column, and the keywords, if any, are
found.  The tables of the registry have such a condition, and what their definitions
require of a row is all it needs: an absent filter changes nothing, without filters only
the base condition counts, and no deleted row is ever selected. -/
theorem filters_select_rows (i : Interpretation) :
    (∀ (d : Descriptor) (base : Clause) (f : Filters) (row : Row) (offset limit : Cell),
      d.base = base.map Test.text → base ≠ [] → d.Allows row →
      (listQuery d f offset limit).sql.render =
          "SELECT " ++ d.listColumns ++ " FROM " ++ d.table ++ " WHERE " ++
            (d.clause base f 3).text ++ " ORDER BY " ++ d.orderBy ++ " LIMIT $1 OFFSET $2;" ∧
        (Clause.Selects i (listQuery d f offset limit).args row (d.clause base f 3) ↔
          Clause.Selects i (listQuery d f offset limit).args row base ∧ f.Match i row d) ∧
      (countQuery d f).sql.render =
          "SELECT COUNT(*) FROM " ++ d.table ++ " WHERE " ++ (d.clause base f 1).text ++ ";" ∧
        (Clause.Selects i (countQuery d f).args row (d.clause base f 1) ↔
          Clause.Selects i (countQuery d f).args row base ∧ f.Match i row d) ∧
      ∀ q, geojsonQuery d f offset limit = .ok q →
        (∃ geometry properties, q.sql.render =
          featuresOpening d geometry properties ++ (d.clause base f 3).text ++
            "\n             ORDER BY " ++ d.orderBy ++ " LIMIT $1 OFFSET $2) AS f) AS fc;\n") ∧
        (Clause.Selects i q.args row (d.clause base f 3) ↔
          Clause.Selects i q.args row base ∧ f.Match i row d)) ∧
    ∀ (t : Table) (schema : String) (srid : Int) (row : Row),
      (t.definition schema srid).Admits row →
      ((t.descriptor schema).base = t.base.map Test.text ∧ t.base ≠ [] ∧
        (t.descriptor schema).Allows row) ∧
      ∀ (leading : List Cell) (f : Filters),
        (∀ g : Filters, f.SamePresent g →
          ((t.descriptor schema).Selects t.base i leading f row ↔
            (t.descriptor schema).Selects t.base i leading g row)) ∧
        (f.SamePresent [] →
          ((t.descriptor schema).Selects t.base i leading f row ↔
            Clause.Selects i leading row t.base)) ∧
        (row "_deleted" = .bool true →
          ¬ (t.descriptor schema).Selects t.base i leading f row) := by
  constructor
  · intro d base f row offset limit spelled some_ allows
    refine ⟨render_listQuery spelled some_ f offset limit,
      clause_selects_iff i allows base f [limit, offset], render_countQuery spelled some_ f,
      clause_selects_iff i allows base f [], fun q made => ?_⟩
    rw [geojsonQuery] at made
    split at made
    · next geometry properties _ _ =>
        cases made
        exact ⟨⟨_, _, render_featuresQuery spelled some_ f offset limit geometry properties⟩,
          clause_selects_iff i allows base f [limit, offset]⟩
    · cases made
  · intro t schema srid row admits
    refine ⟨⟨t.base_spelled schema, t.base_ne_nil, Table.allows admits⟩, fun leading f => ?_⟩
    refine ⟨fun g same => ?_, fun none_ => ?_, fun deleted selected => ?_⟩
    · rw [selects_table_iff admits, selects_table_iff admits]
      exact and_congr_right fun _ => ⟨same.matches, same.symm.matches⟩
    · rw [selects_table_iff admits, Table.selects_base_iff]
      have free : Filters.Match i row (t.descriptor schema) [] :=
        ⟨by simp, by simp [Filters.keywords, Opt.absent]⟩
      exact and_iff_left (none_.symm.matches free)
    · have live := ((selects_table_iff admits).1 selected).1.1
      rw [deleted, i.equals_bool_iff] at live
      cases live

/-- A thing that is not validated is selected with those that are not, and not with those
that are. -/
theorem filtered_by_validated :
    (Table.things.definition "public" 2056).Admits (fun _ => .bool false) ∧
      (Table.things.descriptor "public").Selects Table.things.base .plain []
        [("validated", .ofCell (.bool false))] (fun _ => .bool false) ∧
      ¬ (Table.things.descriptor "public").Selects Table.things.base .plain []
        [("validated", .ofCell (.bool true))] (fun _ => .bool false) := by
  obtain ⟨general, tables⟩ := filters_select_rows .plain
  have admits : (Table.things.definition "public" 2056).Admits (fun _ => .bool false) :=
    fun _ _ _ => rfl
  obtain ⟨⟨spelled, some_, allows⟩, -⟩ := tables .things "public" 2056 _ admits
  have counts (f : Filters) := (general _ _ f _ .null .null spelled some_ allows).2.2.2.1
  refine ⟨admits, (counts _).2 ⟨?_, ?_, ?_⟩, fun selected => ?_⟩
  · rw [Table.selects_base_iff]
    exact ⟨Interpretation.plain.equals_self rfl, fun _ => rfl⟩
  · intro name column o listed found there
    cases named : name == "validated" with
    | true =>
        obtain rfl : Opt.ofCell (.bool false) = o := by simpa [List.lookup_cons, named] using found
        exact Interpretation.plain.equals_self rfl
    | false => simp [List.lookup_cons, named] at found
  · intro there
    cases there
  · have equal := ((counts _).1 selected).2.columns "validated" "validated" _ (by decide) rfl rfl
    simp [Opt.ofCell, Opt.isNull, Interpretation.equals_bool_iff] at equal

end GeoRegistry.Sql
