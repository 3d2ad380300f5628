/-
# Proofs.Store.Placeholders -- every statement has the arguments that its text asks for

A statement is `Balanced` when the placeholders of its text are the numbers of its
arguments.  The statement of a command is (`statement_balanced`), from the slots of the
fragment that it is written from; so it is enough to know which commands an operation sends
(`Asks`), and `Offers` lists the operations there are.

The last theorem joins this to the text of the filters, where the numbers are given out.
-/
import GeoRegistry.Proofs.Sql.Placeholders
import GeoRegistry.Proofs.Store

namespace GeoRegistry.Store

set_option autoImplicit false

open Sql Dialogue

/-! ## Statements -/

/-- The placeholders of a statement are the numbers of its arguments: there is one for each,
and none besides. -/
def Statement.Balanced (t : Statement) : Prop :=
  ∀ k : Int, k ∈ placeholders t.sql ↔ 1 ≤ k ∧ k ≤ t.args.length

theorem balanced_ofQuery {q : Query} (numbered : q.Numbered) (method : Method) :
    (Statement.ofQuery method q).Balanced := by
  intro k
  rw [Statement.ofQuery, placeholders_render numbered.1]
  exact numbered.2 k

/-- Every table has a condition to begin with. -/
theorem apart_baseCondition (t : Table) (schema : String) :
    (Piece.text (t.descriptor schema).baseCondition).Apart := by
  cases t with
  | things =>
      change (Piece.text (" AND ".intercalate ["_deleted = false", "position IS NOT NULL"])).Apart
      simp [Piece.Apart]
  | types =>
      change (Piece.text (" AND ".intercalate ["_deleted = false"])).Apart
      simp [Piece.Apart]

section Writes

variable (srid : Int)

theorem insertThing_closed : (ThingTable.insertAssignments srid).Closed := by
  simp [Assignments.Closed, ThingTable.insertAssignments, Source.mentions, Assignments.bindings,
    Source.bindings]

theorem updateThing_closed : (ThingTable.updateAssignments srid).Closed := by
  simp [Assignments.Closed, ThingTable.updateAssignments, Source.mentions, Assignments.bindings,
    Source.bindings]

theorem insertThing_named : (ThingTable.insertAssignments srid).Named := by
  simp [Assignments.Named, ThingTable.insertAssignments, Piece.Apart]

theorem updateThing_named : (ThingTable.updateAssignments srid).Named := by
  simp [Assignments.Named, ThingTable.updateAssignments, Piece.Apart]

variable (schema : String)

theorem insertType_closed : (ThingTypeTable.insertion schema).assignments.Closed := by
  simp [Assignments.Closed, ThingTypeTable.insertion, ThingTypeTable.contentAssignments,
    Source.mentions, Assignments.bindings, Source.bindings]

theorem updateType_closed : (ThingTypeTable.replacement schema).assignments.Closed := by
  simp [Assignments.Closed, ThingTypeTable.replacement, ThingTypeTable.contentAssignments,
    Source.mentions, Assignments.bindings, Source.bindings]

theorem insertType_named : (ThingTypeTable.insertion schema).assignments.Named := by
  simp [Assignments.Named, ThingTypeTable.insertion, ThingTypeTable.contentAssignments,
    Piece.Apart]

theorem updateType_named : (ThingTypeTable.replacement schema).assignments.Named := by
  simp [Assignments.Named, ThingTypeTable.replacement, ThingTypeTable.contentAssignments,
    Piece.Apart]

end Writes

/-- A column that a command names holds no dollar sign. -/
def Command.Named : Command → Prop
  | .listByColumn _ column _ _ _ => '$' ∉ column.toList
  | _ => True

/-- **The statement of a command has the arguments that its text asks for.** -/
theorem statement_balanced {s : Store} (free : '$' ∉ s.schema.toList) {c : Command}
    (named : c.Named) : (s.statement c).Balanced := by
  have clean (t : Table) : (t.descriptor s.schema).HasNoSlots := table_hasNoSlots t free
  have based (t : Table) := apart_baseCondition t s.schema
  have things : '$' ∉ (ThingTable.table s.schema).toList := by simp [ThingTable.table, free]
  have types : '$' ∉ (ThingTypeTable.table s.schema).toList := by
    simp [ThingTypeTable.table, free]
  cases c with
  | list t f offset limit =>
      exact balanced_ofQuery (listQuery_numbered (clean t) (based t) f offset limit) _
  | listByColumn t column value offset limit =>
      exact balanced_ofQuery (listByColumnQuery_numbered (clean t) named value offset limit) _
  | count t f => exact balanced_ofQuery (countQuery_numbered (clean t) (based t) f) _
  | features f offset limit =>
      have described : '$' ∉ (ThingTable.geojsonProperties s.schema).toList :=
        clean .things _ (by simp [Descriptor.texts, Table.descriptor, ThingTable.descriptor])
      exact balanced_ofQuery (featuresQuery_numbered (clean .things) (based .things) f
        (by simp [ThingTable.geometryColumn]) described offset limit) _
  | get t id => exact balanced_ofQuery (getQuery_numbered (clean t) id) _
  | exist t id => exact balanced_ofQuery (existQuery_numbered (clean t) id) _
  | isOwner t id user => exact balanced_ofQuery (isOwnerQuery_numbered (clean t) id _) _
  | softDelete t id user => exact balanced_ofQuery (softDeleteQuery_numbered (clean t) _ id) _
  | insertThing user content =>
      exact balanced_ofQuery (insertion_numbered things (insertThing_named s.srid)
        (insertThing_closed s.srid) (fun _ given => by cases given) user content.fields) _
  | updateThing id user content =>
      exact balanced_ofQuery (replacement_numbered things (updateThing_named s.srid)
        (updateThing_closed s.srid) id user content.fields) _
  | insertType user content =>
      have returning : ∀ column, (ThingTypeTable.insertion s.schema).returning = some column →
          '$' ∉ column.toList := by
        rintro _ ⟨⟩
        simp
      exact balanced_ofQuery (insertion_numbered types (insertType_named s.schema)
        (insertType_closed s.schema) returning user content.fields) _
  | updateType id user content =>
      exact balanced_ofQuery (replacement_numbered types (updateType_named s.schema)
        (updateType_closed s.schema) id user content.fields) _
  | typeExists id =>
      have numbered : Query.Numbered ⟨ThingTypeTable.existsQuery s.schema, [.int id]⟩ := by
        refine .of_slots ?_ (.refl [1])
        simp [ThingTypeTable.existsQuery, Fragment.Apart, Piece.Apart, types]
      exact balanced_ofQuery numbered _
  | countTypes =>
      have numbered : Query.Numbered ⟨ThingTypeTable.countAllQuery s.schema, []⟩ := by
        refine .of_slots ?_ (.refl [])
        simp [ThingTypeTable.countAllQuery, Fragment.Apart, Piece.Apart, types]
      exact balanced_ofQuery numbered _
  | probe =>
      intro k
      have none_ : placeholders "SELECT 1;" = [] := by decide +kernel
      simp only [statement, none_, List.not_mem_nil, List.length_nil, false_iff]
      omega

/-! ## Operations -/

/-- **The operations on the stores of things and types.** -/
inductive Offers (s : Store) : {α : Type} → Dialogue Command α → Prop where
  | list {Item Line : Type} (c : Collection Item Line) (filters : Filters) (offset limit : Cell) :
      Offers s (c.list s filters offset limit)
  | listByColumn {Item Line : Type} (c : Collection Item Line) {column : String}
      (named : '$' ∉ column.toList) (value offset limit : Cell) :
      Offers s (c.listByColumn s column value offset limit)
  | count {Item Line : Type} (c : Collection Item Line) (filters : Filters) :
      Offers s (c.count s filters)
  | features {Item Line : Type} (c : Collection Item Line) (filters : Filters)
      (offset limit : Cell) : Offers s (c.features s filters offset limit)
  | get {Item Line : Type} (c : Collection Item Line) (id : Cell) : Offers s (c.get s id)
  | exist {Item Line : Type} (c : Collection Item Line) (id : Cell) : Offers s (c.exist s id)
  | isOwner {Item Line : Type} (c : Collection Item Line) (id : Cell) (user : Int) :
      Offers s (c.isOwner s id user)
  | delete {Item Line : Type} (c : Collection Item Line) (id : Cell) (user : Int) :
      Offers s (c.delete s id user)
  | createThing (user : Int) (content : Thing.Content) : Offers s (s.createThing user content)
  | updateThing (id : Cell) (user : Int) (content : Thing.Content) :
      Offers s (s.updateThing id user content)
  | createType (user : Int) (content : ThingType.Content) : Offers s (s.createType user content)
  | updateType (id : Cell) (user : Int) (content : ThingType.Content) :
      Offers s (s.updateType id user content)
  | typeExists (id : Int) : Offers s (s.typeExists id)
  | countTypes : Offers s s.countTypes

/-- The feature collection of any table: without a geometry nothing is asked. -/
theorem features_asks_named {Item Line : Type} (c : Collection Item Line) (s : Store)
    (filters : Filters) (offset limit : Cell) :
    Asks Command.Named (c.features s filters offset limit) := by
  unfold Collection.features
  cases c.table with
  | types => exact (idle_finish _).asks
  | things =>
      refine ((send_asks s.channel _).asks trivial).bind fun found => ?_
      cases found with
      | null => exact ((idle_finish _).note _).asks
      | _ => exact (idle_finish _).asks

theorem Offers.asks {s : Store} {α : Type} {d : Dialogue Command α} (offers : s.Offers d) :
    Asks Command.Named d := by
  have log (entry : Log.Entry) : Asks Command.Named (Dialogue.log entry) :=
    ((idle_finish _).note entry).asks
  cases offers with
  | list c filters offset limit => exact (list_asks c s _ _ _).asks trivial
  | listByColumn c named value offset limit =>
      exact (listByColumn_asks c s _ _ _ _).asks named
  | count c filters => exact (collection_count_asks c s _).asks trivial
  | features c filters offset limit => exact features_asks_named c s filters offset limit
  | get c id => exact (get_asks c s id).asks trivial
  | exist c id => exact (exist_asks c s id).asks trivial
  | isOwner c id user => exact (isOwner_asks c s id user).asks trivial
  | delete c id user => exact (delete_asks c s id user).asks trivial
  | createThing user content =>
      refine (log _).bind fun _ => ?_
      refine ((insertThing_asks s user content).asks trivial).bind fun _ => ?_
      exact (readBack_asks things s _ _).asks trivial
  | updateThing id user content =>
      refine (log _).bind fun _ => ?_
      refine ((change_asks things s _ _ _).asks trivial).bind fun _ => ?_
      exact (readBack_asks things s _ _).asks trivial
  | createType user content =>
      refine ((send_asks s.channel _).asks trivial).bind fun id => ?_
      cases id with
      | null => exact ((idle_finish _).note _).asks
      | _ => exact (readBack_asks types s _ _).asks trivial
  | updateType id user content =>
      refine ((change_asks types s _ _ _).asks trivial).bind fun _ => ?_
      exact (readBack_asks types s _ _).asks trivial
  | typeExists id => exact (typeExists_asks s id).asks trivial
  | countTypes => exact (countTypes_asks s).asks trivial

/-! ## The law -/

/-- **Placeholders and arguments match.**  The text of the filters of a query, numbered from
anywhere, holds one placeholder for each of its arguments, numbered in a row and in their
order: first those of the filters that are known, each in the predicate on its own column,
and behind them that of the keywords, if there are any.  Every statement that an operation of
the stores sends, whatever it is told, has placeholders for exactly the numbers of its
arguments. -/
theorem placeholders_match_arguments :
    (∀ d : Descriptor, d.HasNoSlots → ∀ (f : Filters) (first : Int),
      placeholders (predicates d f first).sql.render =
          (List.range (predicates d f first).args.length).map (fun j : Nat => first + j) ∧
        (predicates d f first).args =
          ((exposed d.filterColumns f).map (·.2.toParam) ++
            if f.keywords.present then [f.keywords.value] else []) ∧
        (predicates d f first).sql.render =
          String.join ((exposed d.filterColumns f).mapIdx fun j e =>
            comparisonText d e.1 (first + j)) ++
          if f.keywords.present then searchText d (first + (exposed d.filterColumns f).length)
          else "") ∧
    ∀ s : Store, '$' ∉ s.schema.toList →
      ∀ {α : Type} (d : Dialogue Command α), s.Offers d →
        ∀ (h : List (Exchange Command)) (o : Except Failure α), Runs d h o →
          ∀ e ∈ h, (s.statement e.question).Balanced := by
  constructor
  · intro d clean f first
    refine ⟨?_, args_predicates d f first, render_predicates d f first⟩
    rw [placeholders_render (predicates_apart clean f first)]
    exact slots_predicates_eq_range d f first
  · intro s free α d offers h o ran e member
    exact statement_balanced free (offers.asks h o ran e member)

/-- A list of types filtered from nine on, which does not know one of its columns, and a type
that is deleted. -/
theorem types_filtered_from_nine :
    (ThingTypeTable.descriptor "public").HasNoSlots ∧
      placeholders (predicates (ThingTypeTable.descriptor "public")
        [("inactivated", .absent), ("keywords", .ofCell (.text "$1")),
         ("created_by", .ofCell (.int 7))] 9).sql.render = [9, 10, 11] ∧
      (predicates (ThingTypeTable.descriptor "public")
        [("inactivated", .absent), ("keywords", .ofCell (.text "$1")),
         ("created_by", .ofCell (.int 7))] 9).args.map Cell.prose = ["7", "None", "$1"] ∧
      '$' ∉ ({ schema := "public" } : Store).schema.toList ∧
      ({ schema := "public" } : Store).Offers
        (types.delete ({ schema := "public" } : Store) (.int 4) 7) ∧
      Runs (types.delete ({ schema := "public" } : Store) (.int 4) 7)
        [⟨.softDelete .types (.int 4) 7, .returned (.text "UPDATE 1")⟩] (.ok ()) ∧
      (({ schema := "public" } : Store).statement (.softDelete .types (.int 4) 7)).Balanced := by
  obtain ⟨filters, operations⟩ := placeholders_match_arguments
  have clean : (ThingTypeTable.descriptor "public").HasNoSlots :=
    table_hasNoSlots .types (by simp)
  have free : '$' ∉ ({ schema := "public" } : Store).schema.toList := by simp
  have one : rowsAffected "UPDATE 1" = 1 := by decide +kernel
  have ran : Runs (types.delete ({ schema := "public" } : Store) (.int 4) 7)
      [⟨.softDelete .types (.int 4) 7, .returned (.text "UPDATE 1")⟩] (.ok ()) :=
    (delete_asks types _ (.int 4) 7 _ _).2
      ⟨_, rfl, by simp [changeOf, changed, affected, one, Except.bind]⟩
  refine ⟨clean, ?_, by decide +kernel, free, .delete types (.int 4) 7, ran, ?_⟩
  · have numbered := (filters _ clean [("inactivated", .absent),
      ("keywords", .ofCell (.text "$1")), ("created_by", .ofCell (.int 7))] 9).1
    rw [numbered]
    decide +kernel
  · have balanced := operations _ free _ (.delete types (.int 4) 7) _ _ ran
    exact balanced ⟨.softDelete .types (.int 4) 7, .returned (.text "UPDATE 1")⟩ (.head _)

end GeoRegistry.Store
