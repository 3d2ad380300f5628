/-
# Proofs.Script -- what is sent does not depend on what callers say

Every kind of task has a script: the statements it may send, each as the shape of its
answer and its text, in their order (`Kind.script`).  A script is written from the schema,
the coordinate system and whether keywords are present, and from nothing else.
`Follows` says of a dialogue that whatever it is told it sends a beginning of a script,
and all of it where it has a result; it follows the composition of dialogues
(`Follows.bind`).

The filters of a query enter its text through the names it knows and the presence of
keywords (`Filters.Alike`); a caller chooses the values, and with them the arguments.
-/
import GeoRegistry.Proofs.Task
import GeoRegistry.Proofs.Store.Verb
import GeoRegistry.Service.Endpoint
import GeoRegistry.Login

namespace GeoRegistry

set_option autoImplicit false

/-! ## Filters -/

namespace Sql

/-- The filters are known by exactly these names. -/
def Filters.Knows (f : Filters) (names : List String) : Prop :=
  ∀ name, (f.lookup name).isSome = true ↔ name ∈ names

/-- The filters are known by the same names, and have keywords alike. -/
structure Filters.Alike (f g : Filters) : Prop where
  known : ∀ name, (f.lookup name).isSome = (g.lookup name).isSome
  keywords : f.keywords.present = g.keywords.present

theorem Filters.Alike.refl (f : Filters) : f.Alike f :=
  ⟨fun _ => rfl, rfl⟩

theorem columnConditions_alike {f g : Filters} (alike : f.Alike g) (d : Descriptor) (first : Int)
    (columns : List (String × String)) :
    (columnConditions d f first columns).map (·.1) =
      (columnConditions d g first columns).map (·.1) := by
  induction columns generalizing first with
  | nil => rfl
  | cons column rest ih =>
      obtain ⟨name, column⟩ := column
      have same := alike.known name
      cases found : f.lookup name with
      | none =>
          have absent : g.lookup name = none := by simpa [found] using same.symm
          simpa [columnConditions, found, absent] using ih first
      | some o =>
          obtain ⟨o', there⟩ : ∃ o', g.lookup name = some o' := by
            simpa [found, Option.isSome_iff_exists] using same.symm
          simpa [columnConditions, found, there] using ih (first + 1)

theorem conditions_alike {f g : Filters} (alike : f.Alike g) (d : Descriptor) (first : Int) :
    (conditions d f first).map (·.1) = (conditions d g first).map (·.1) := by
  have columns := columnConditions_alike alike d first d.filterColumns
  have count := congrArg List.length columns
  simp only [List.length_map] at count
  cases present : f.keywords.present with
  | false =>
      have absent : g.keywords.present = false := alike.keywords.symm.trans present
      simpa [conditions, present, absent] using columns
  | true =>
      have there : g.keywords.present = true := alike.keywords.symm.trans present
      simp [conditions, present, there, columns, count]

/-- **The values of filters are not in the text of the conditions.** -/
theorem whereClause_alike {f g : Filters} (alike : f.Alike g) (d : Descriptor) (first : Int) :
    whereClause d f first = whereClause d g first := by
  have same := conditions_alike alike d first
  have fragments : ∀ cs : List (Condition × Cell),
      cs.flatMap (·.1.fragment) = (cs.map (·.1)).flatMap Condition.fragment := by
    simp [List.flatMap_map]
  rw [whereClause, whereClause, predicates, predicates, fragments, fragments, same]

/-- Filters of the given names with nothing in them, but for keywords where there are some. -/
def Filters.blank (names : List String) (keywords : Bool) : Filters :=
  .declare names (if keywords then [("keywords", .text "")] else [])

theorem lookup_declare (names : List String) (given : Record) (name : String) :
    (Filters.declare names given).lookup name =
      if name ∈ names then some (.ofCell ((given.lookup name).getD .null)) else none := by
  induction names with
  | nil => rfl
  | cons first rest ih =>
      by_cases here : name = first
      · subst here
        simp [Filters.declare]
      · have other : (name == first) = false := by simpa using here
        simp only [Filters.declare, List.map_cons, List.lookup_cons, other] at ih ⊢
        simp [here, ih]

theorem knows_declare (names : List String) (given : Record) :
    (Filters.declare names given).Knows names := by
  intro name
  by_cases listed : name ∈ names <;> simp [lookup_declare, listed]

/-- Whoever knows the names has filters like the blank ones. -/
theorem Filters.Knows.alike {f : Filters} {names : List String} (knows : f.Knows names) :
    f.Alike (.blank names f.keywords.present) where
  known name := by
    rw [Bool.eq_iff_iff, knows name, blank, knows_declare names _ name]
  keywords := by
    rw [Filters.keywords.eq_1 (Filters.blank _ _), blank, lookup_declare]
    by_cases listed : "keywords" ∈ names
    · cases f.keywords.present <;> simp [listed, Opt.ofCell, Opt.isNull, Opt.absent]
    · have unknown : f.lookup "keywords" = none := by
        exact Option.not_isSome_iff_eq_none.1 (mt (knows "keywords").1 listed)
      simp [listed, Filters.keywords, unknown, Opt.absent]

/-- Without a name for keywords it makes no difference whether there are some. -/
theorem Filters.blank_eq {names : List String} (unknown : "keywords" ∉ names) :
    Filters.blank names true = Filters.blank names false := by
  refine List.map_congr_left fun name member => ?_
  have other : (name == "keywords") = false := by
    simpa using fun same : name = "keywords" => unknown (same ▸ member)
  simp [List.lookup_cons, other]

end Sql

namespace Store

/-- The shape of the answer to a statement, and its text: all of it but its arguments. -/
def Statement.form (s : Statement) : Method × String :=
  (s.method, s.sql)

/-! ## Texts -/

section Texts

variable (schema : String)

/-- The text of a fragment with the shape of the answer it is sent for. -/
def asking (method : Method) (f : Sql.Fragment) : Method × String :=
  (method, f.render)

/-- Counting the rows of an id. -/
def askExist (t : Table) : Method × String :=
  asking .value (Sql.existQuery (t.descriptor schema))

/-- Counting the rows of an id and an owner. -/
def askOwner (t : Table) : Method × String :=
  asking .value (Sql.isOwnerQuery (t.descriptor schema))

/-- Counting the types of an id. -/
def askType : Method × String :=
  asking .value (Sql.ThingTypeTable.existsQuery schema)

/-- Counting the types. -/
def askTypes : Method × String :=
  asking .value (Sql.ThingTypeTable.countAllQuery schema)

/-- Reading a row. -/
def askRow (t : Table) : Method × String :=
  asking .row (Sql.getQuery (t.descriptor schema))

/-- Listing the rows that filters select. -/
def askList (t : Table) (f : Sql.Filters) : Method × String :=
  asking .rows (Sql.listQuery (t.descriptor schema) f .null .null).sql

/-- Listing the rows that hold a value in a column. -/
def askByColumn (t : Table) (column : String) : Method × String :=
  asking .rows (Sql.listByColumnQuery (t.descriptor schema) column .null .null .null).sql

/-- Counting the rows that filters select. -/
def askCount (t : Table) (f : Sql.Filters) : Method × String :=
  asking .value (Sql.countQuery (t.descriptor schema) f).sql

/-- Collecting the things that filters select. -/
def askFeatures (f : Sql.Filters) : Method × String :=
  asking .value (Sql.featuresQuery (Sql.ThingTable.descriptor schema) Sql.ThingTable.geometryColumn
    (Sql.ThingTable.geojsonProperties schema) f .null .null).sql

/-- Marking a row deleted. -/
def askMark (t : Table) : Method × String :=
  asking .status (Sql.softDeleteQuery (t.descriptor schema))

end Texts

section Form

variable (s : Store)

theorem form_exist (t : Table) (id : Cell) :
    (s.statement (.exist t id)).form = askExist s.schema t := rfl

theorem form_countTypes : (s.statement .countTypes).form = askTypes s.schema := rfl

theorem form_get (t : Table) (id : Cell) : (s.statement (.get t id)).form = askRow s.schema t := rfl

theorem form_listByColumn (t : Table) (column : String) (value offset limit : Cell) :
    (s.statement (.listByColumn t column value offset limit)).form =
      askByColumn s.schema t column := rfl

/-- Lists with filters alike have one text. -/
theorem form_list {f g : Sql.Filters} (alike : f.Alike g) (t : Table) (offset limit : Cell) :
    (s.statement (.list t f offset limit)).form = askList s.schema t g := by
  simp [statement, Statement.ofQuery, Statement.form, askList, asking, Sql.listQuery,
    Sql.whereClause_alike alike]

theorem form_count {f g : Sql.Filters} (alike : f.Alike g) (t : Table) :
    (s.statement (.count t f)).form = askCount s.schema t g := by
  simp [statement, Statement.ofQuery, Statement.form, askCount, asking, Sql.countQuery,
    Sql.whereClause_alike alike]

theorem form_features {f g : Sql.Filters} (alike : f.Alike g) (offset limit : Cell) :
    (s.statement (.features f offset limit)).form = askFeatures s.schema g := by
  simp [statement, Statement.ofQuery, Statement.form, askFeatures, asking, Sql.featuresQuery,
    Sql.whereClause_alike alike]

end Form

end Store

namespace Registry

open Dialogue Store

/-! ## Kinds of tasks -/

/-- What kind of work a task is: an operation, or the check before the service starts. -/
inductive Kind where
  | operation (o : Operation)
  | startup
  deriving DecidableEq

namespace Kind

/-- The names of the filters of a kind. -/
def filters : Kind → List String
  | .operation .listThings | .operation .thingFeatures => Sql.ThingTable.listFilters
  | .operation .searchThings | .operation .countThings => Sql.ThingTable.searchFilters
  | .operation .listTypes => Sql.ThingTypeTable.listFilters
  | .operation .countTypes => Sql.ThingTypeTable.countFilters
  | _ => []

/-- A kind that is not for changing anything. -/
def reads : Kind → Bool
  | .operation .createThing | .operation .updateThing | .operation .deleteThing
  | .operation .createType | .operation .updateType | .operation .deleteType => false
  | _ => true

end Kind

/-- A task of a kind, its filters being those of the kind. -/
inductive Task.Of : Kind → Task → Prop where
  | createThing (content : Thing.Content) : Of (.operation .createThing) (.createThing content)
  | updateThing (id : Uuid) (content : Thing.Content) :
      Of (.operation .updateThing) (.updateThing id content)
  | deleteThing (id : Uuid) : Of (.operation .deleteThing) (.deleteThing id)
  | getThing (id : Uuid) : Of (.operation .getThing) (.getThing id)
  | listThings (f : Sql.Filters) (known : f.Knows (Kind.operation .listThings).filters)
      (offset limit : Cell) : Of (.operation .listThings) (.listThings f offset limit)
  | searchThings (f : Sql.Filters) (known : f.Knows (Kind.operation .searchThings).filters)
      (offset limit : Cell) : Of (.operation .searchThings) (.listThings f offset limit)
  | listThingsByExternalId (externalId offset limit : Cell) :
      Of (.operation .listThingsByExternalId) (.listThingsByExternalId externalId offset limit)
  | countThings (f : Sql.Filters) (known : f.Knows (Kind.operation .countThings).filters) :
      Of (.operation .countThings) (.countThings f)
  | thingFeatures (f : Sql.Filters) (known : f.Knows (Kind.operation .thingFeatures).filters)
      (offset limit : Cell) : Of (.operation .thingFeatures) (.thingFeatures f offset limit)
  | createType (content : ThingType.Content) : Of (.operation .createType) (.createType content)
  | updateType (id : Int) (content : ThingType.Content) :
      Of (.operation .updateType) (.updateType id content)
  | deleteType (id : Int) : Of (.operation .deleteType) (.deleteType id)
  | getType (id : Int) : Of (.operation .getType) (.getType id)
  | listTypes (f : Sql.Filters) (known : f.Knows (Kind.operation .listTypes).filters)
      (offset limit : Cell) : Of (.operation .listTypes) (.listTypes f offset limit)
  | countTypes (f : Sql.Filters) (known : f.Knows (Kind.operation .countTypes).filters) :
      Of (.operation .countTypes) (.countTypes f)
  | requireTypes : Of .startup .requireTypes

/-- The task has keywords to look for. -/
def Task.hasKeywords : Task → Bool
  | .listThings f .. | .countThings f | .thingFeatures f .. | .listTypes f .. | .countTypes f =>
      f.keywords.present
  | _ => false

/-! ## Scripts -/

section Script

variable (schema : String) (srid : Int)

/-- **The script of a kind of task**: what it sends where everything goes well. -/
def Kind.script (keywords : Bool) : Kind → List (Method × String)
  | .operation .createThing =>
      [askType schema, askExist schema .things,
       asking .status (Sql.ThingTable.insertion schema srid).sql, askRow schema .things]
  | .operation .updateThing =>
      [askExist schema .things, askOwner schema .things, askType schema,
       asking .status (Sql.ThingTable.replacement schema srid).sql, askRow schema .things]
  | .operation .deleteThing =>
      [askExist schema .things, askOwner schema .things, askMark schema .things]
  | .operation .getThing => [askExist schema .things, askRow schema .things]
  | .operation .listThings =>
      [askList schema .things (.blank Sql.ThingTable.listFilters keywords)]
  | .operation .searchThings =>
      [askList schema .things (.blank Sql.ThingTable.searchFilters keywords)]
  | .operation .listThingsByExternalId => [askByColumn schema .things "external_id"]
  | .operation .countThings =>
      [askCount schema .things (.blank Sql.ThingTable.searchFilters keywords)]
  | .operation .thingFeatures => [askFeatures schema (.blank Sql.ThingTable.listFilters keywords)]
  | .operation .createType =>
      [asking .value (Sql.ThingTypeTable.insertion schema).sql, askRow schema .types]
  | .operation .updateType =>
      [askExist schema .types, asking .status (Sql.ThingTypeTable.replacement schema).sql,
       askRow schema .types]
  | .operation .deleteType => [askExist schema .types, askMark schema .types]
  | .operation .getType => [askExist schema .types, askRow schema .types]
  | .operation .listTypes =>
      [askList schema .types (.blank Sql.ThingTypeTable.listFilters keywords)]
  | .operation .countTypes =>
      [askCount schema .types (.blank Sql.ThingTypeTable.countFilters keywords)]
  | .startup => [askTypes schema]

/-- Without a filter on keywords a script has no place for them. -/
theorem Kind.script_eq {k : Kind} (unknown : "keywords" ∉ k.filters) :
    k.script schema srid true = k.script schema srid false := by
  cases k with
  | startup => rfl
  | operation o =>
      cases o
      case listThings | searchThings | countThings | thingFeatures | listTypes | countTypes =>
        have same := Sql.Filters.blank_eq unknown
        simp only [filters] at same
        simp only [script, same]
      all_goals rfl

/-- What the script of a kind that reads holds are questions of commands that do not write. -/
theorem Kind.script_reads {k : Kind} (reads : k.reads = true) (keywords : Bool)
    {form : Method × String} (member : form ∈ k.script schema srid keywords) :
    ∃ c : Command, c.writes = false ∧ ((Store.mk schema srid none).statement c).form = form := by
  cases k with
  | startup =>
      obtain rfl := List.mem_singleton.1 member
      exact ⟨.countTypes, rfl, form_countTypes _⟩
  | operation o =>
      cases o
      case listThings | searchThings | listTypes =>
        obtain rfl := List.mem_singleton.1 member
        exact ⟨.list _ _ .null .null, rfl, form_list _ (.refl _) _ _ _⟩
      case countThings | countTypes =>
        obtain rfl := List.mem_singleton.1 member
        exact ⟨.count _ _, rfl, form_count _ (.refl _) _⟩
      case thingFeatures =>
        obtain rfl := List.mem_singleton.1 member
        exact ⟨.features _ .null .null, rfl, form_features _ (.refl _) _ _⟩
      case listThingsByExternalId =>
        obtain rfl := List.mem_singleton.1 member
        exact ⟨.listByColumn _ _ .null .null .null, rfl, form_listByColumn ..⟩
      case getThing | getType =>
        rcases List.mem_cons.1 member with rfl | member
        · exact ⟨.exist _ .null, rfl, form_exist ..⟩
        · obtain rfl := List.mem_singleton.1 member
          exact ⟨.get _ .null, rfl, form_get ..⟩
      all_goals cases reads

end Script

/-! ## Dialogues that follow a script -/

section Follows

variable {α β : Type} (s : Store)

/-- The texts of exchanges, with the shapes of the answers. -/
def forms (h : List (Exchange Command)) : List (Method × String) :=
  h.map fun e => (s.statement e.question).form

/-- Whatever a dialogue is told, it sends a beginning of the script, and all of it where
it has a result. -/
def Follows (script : List (Method × String)) (d : Dialogue Command α) : Prop :=
  ∀ h o, Runs d h o → forms s h <+: script ∧ ((∃ a, o = .ok a) → forms s h = script)

variable {s}

theorem follows_of_idle {d : Dialogue Command α} {o : Except Failure α} (idle : Idle d o) :
    Follows s [] d := by
  intro h o' ran
  obtain ⟨rfl, -⟩ := (idle _ _).1 ran
  exact ⟨List.prefix_rfl, fun _ => rfl⟩

/-- A dialogue that fails without a question follows every script. -/
theorem follows_of_fails {d : Dialogue Command α} {e : Failure} (idle : Idle d (.error e))
    (script : List (Method × String)) : Follows s script d := by
  intro h o' ran
  obtain ⟨rfl, rfl⟩ := (idle _ _).1 ran
  exact ⟨List.nil_prefix, fun ⟨_, impossible⟩ => nomatch impossible⟩

theorem follows_of_asks {d : Dialogue Command α} {q : Command} {f : Reply → Except Failure α}
    (asks : AsksOnce d q f) : Follows s [(s.statement q).form] d := by
  intro h o ran
  obtain ⟨reply, rfl, -⟩ := (asks _ _).1 ran
  exact ⟨List.prefix_rfl, fun _ => rfl⟩

/-- **One script after the other.** -/
theorem Follows.bind {d : Dialogue Command α} {k : α → Dialogue Command β}
    {first second : List (Method × String)} (follows : Follows s first d)
    (rest : ∀ a, Follows s second (k a)) : Follows s (first ++ second) (d >>= k) := by
  intro h o ran
  rcases runs_bind_iff.1 ran with ⟨e, rfl, failed⟩ | ⟨a, h₁, h₂, rfl, ran₁, ran₂⟩
  · refine ⟨(follows _ _ failed).1.trans (List.prefix_append ..), ?_⟩
    rintro ⟨_, impossible⟩
    cases impossible
  · have whole : forms s h₁ = first := (follows _ _ ran₁).2 ⟨a, rfl⟩
    obtain ⟨begins, ends⟩ := rest a _ _ ran₂
    rw [forms, List.map_append, ← forms, ← forms, whole]
    exact ⟨(List.prefix_append_right_inj first).2 begins, fun made => by rw [ends made]⟩

theorem Follows.note {d : Dialogue Command α} {script : List (Method × String)}
    (follows : Follows s script d) (entry : Log.Entry) : Follows s script (.note entry d) :=
  fun h o ran => follows h o (runs_note_iff.1 ran)

end Follows

/-! ## Tasks -/

section Tasks

variable {Item Line : Type} (r : Registry) (caller : Caller)

theorem follows_requireRow (c : Collection Item Line) (id : Cell) :
    Follows r.store [askExist r.store.schema c.table] (r.requireRow c id) :=
  follows_of_asks (requireRow_asks r c id)

theorem follows_requireOwner (activity place : String) (id : Uuid) :
    Follows r.store [askOwner r.store.schema .things] (r.requireOwner activity place id caller) :=
  follows_of_asks (requireOwner_asks r activity place id caller)

theorem follows_requireType (id : Int) :
    Follows r.store [askType r.store.schema] (r.requireType id) :=
  follows_of_asks (requireType_asks r id)

theorem follows_present (c : Collection Item Line) (id : Cell) :
    Follows r.store [askExist r.store.schema c.table, askRow r.store.schema c.table]
      (r.present c id) :=
  (follows_requireRow r c id).bind fun _ =>
    follows_of_asks ((get_asks c r.store id).ifNoRows (idle_finish _))

theorem follows_readBack (c : Collection Item Line) (written : String) (id : Cell) :
    Follows r.store [askRow r.store.schema c.table] (c.readBack r.store written id) :=
  follows_of_asks (readBack_asks c r.store written id)

/-- **A task follows the script of its kind.** -/
theorem Task.Of.follows {k : Kind} {t : Task} (of : Task.Of k t) :
    Follows r.store (k.script r.store.schema r.store.srid t.hasKeywords) (t.perform r caller) := by
  have named (name : String) : Follows r.store [] (r.requireName name) :=
    follows_of_idle (requireName_idle r name)
  have admin : Follows r.store [] (requireAdmin caller) :=
    follows_of_idle (requireAdmin_idle caller)
  cases of with
  | createThing content =>
      rw [Task.perform, createThing_eq]
      refine (named _).bind fun _ => (follows_requireType r _).bind fun _ => ?_
      refine (follows_of_asks (requireAbsent_asks r _)).bind fun _ => ?_
      have stored : Follows r.store
          [asking .status (Sql.ThingTable.insertion r.store.schema r.store.srid).sql,
            askRow r.store.schema .things] (r.store.createThing caller.userId content) :=
        (Follows.bind (follows_of_asks (insertThing_asks r.store caller.userId content))
          fun _ => follows_readBack r things _ _).note _
      exact stored.bind fun created => (follows_of_idle (idle_finish (.ok created))).note _
  | updateThing id content =>
      refine (follows_requireRow r things _).bind fun _ => ?_
      refine (follows_requireOwner r caller _ _ _).bind fun _ => (named _).bind fun _ => ?_
      refine (follows_requireType r _).bind fun _ => Follows.note ?_ _
      exact (follows_of_asks (change_asks things r.store _ _ _)).bind fun _ =>
        follows_readBack r things _ _
  | deleteThing id =>
      refine (follows_requireRow r things _).bind fun _ => ?_
      refine (follows_requireOwner r caller _ _ _).bind fun _ => ?_
      exact (follows_of_asks (delete_asks things r.store _ _)).bind fun _ =>
        (follows_of_idle (idle_finish (.ok ()))).note _
  | getThing id => exact follows_present r things _
  | listThings f known offset limit | searchThings f known offset limit =>
      have asked := follows_of_asks (s := r.store)
        (orEmpty_asks (list_asks things r.store f offset limit))
      rwa [form_list _ known.alike] at asked
  | listThingsByExternalId externalId offset limit =>
      exact follows_of_asks (orEmpty_asks (listByColumn_asks things r.store _ _ _ _))
  | countThings f known =>
      have asked := follows_of_asks (s := r.store) (collection_count_asks things r.store f)
      rwa [form_count _ known.alike] at asked
  | thingFeatures f known offset limit =>
      have asked := follows_of_asks (s := r.store) (thingFeatures_asks r f offset limit)
      rwa [form_features _ known.alike] at asked
  | createType content =>
      refine admin.bind fun _ => (named _).bind fun _ => ?_
      have stored : Follows r.store
          [asking .value (Sql.ThingTypeTable.insertion r.store.schema).sql,
            askRow r.store.schema .types] (r.store.createType caller.userId content) := by
        refine (follows_of_asks (send_asks r.store.channel (.insertType _ _))).bind fun id => ?_
        cases id with
        | null => exact (follows_of_fails (idle_finish _) _).note _
        | _ => exact follows_readBack r types _ _
      exact stored.bind fun created => (follows_of_idle (idle_finish (.ok created))).note _
  | updateType id content =>
      refine admin.bind fun _ => (follows_requireRow r types _).bind fun _ => ?_
      refine (named _).bind fun _ => ?_
      exact (follows_of_asks (change_asks types r.store _ _ _)).bind fun _ =>
        follows_readBack r types _ _
  | deleteType id =>
      refine admin.bind fun _ => (follows_requireRow r types _).bind fun _ => ?_
      exact (follows_of_asks (delete_asks types r.store _ _)).bind fun _ =>
        (follows_of_idle (idle_finish (.ok ()))).note _
  | getType id => exact admin.bind fun _ => follows_present r types _
  | listTypes f known offset limit =>
      have asked := follows_of_asks (s := r.store)
        (orEmpty_asks (list_asks types r.store f offset limit))
      rwa [form_list _ known.alike] at asked
  | countTypes f known =>
      have asked := follows_of_asks (s := r.store) (collection_count_asks types r.store f)
      rwa [form_count _ known.alike] at asked
  | requireTypes => exact follows_of_asks (requireTypes_asks r.store)

/-- The statements that are sent when a task is done against a list of replies. -/
def Task.sent (t : Task) (silence : Command → Reply) (replies : List Reply) : List Statement :=
  (t.exchanged r caller silence replies).map fun e => r.store.statement e.question

theorem Task.Of.sent {k : Kind} {t : Task} (of : Task.Of k t) (silence : Command → Reply)
    (replies : List Reply) :
    (t.sent r caller silence replies).map Statement.form <+:
      k.script r.store.schema r.store.srid t.hasKeywords := by
  have sent := (of.follows r caller _ _ (runs_exchanges silence _ replies)).1
  rw [Task.sent, List.map_map]
  exact sent

/-- Logging in sends nothing. -/
theorem follows_logIn (s : Store) (a : Account) (i : Issuer) (now : Instant) (c : Credentials) :
    Follows s [] (a.logIn i now c : Dialogue Command Grant) := by
  refine (follows_of_idle (idle_finish (a.accepts c))).bind fun accepted => ?_
  cases accepted with
  | false => exact (follows_of_fails (idle_finish _) []).note _
  | true =>
      refine (follows_of_idle (idle_finish (i.issue now a.caller none))).bind fun token => ?_
      exact (follows_of_idle (idle_finish (.ok _))).note _

end Tasks

/-! ## Two runs -/

/-- A task of a kind being done: for whom, under which limits, and what the database
replies. -/
structure Performance (k : Kind) where
  deadline : Option Seconds := none
  leastName : Int := NameRule.defaultLeast
  caller : Caller
  task : Task
  ofKind : Task.Of k task
  silence : Command → Reply := fun _ => .returned .null
  replies : List Reply

/-- What is sent, over a schema and a coordinate system. -/
def Performance.sent {k : Kind} (p : Performance k) (schema : String) (srid : Int) :
    List Statement :=
  p.task.sent ⟨⟨schema, srid, p.deadline⟩, p.leastName⟩ p.caller p.silence p.replies

/-- **The text of statements never depends on data.**  All that is sent when a task of a kind
is done, whoever asks for it with whatever values and whatever comes back, is a beginning
of one script; keywords enter it by their presence alone, and only where the kind has a
filter on them.  So two callers who differ in what they say are served by the same texts,
at every place that both reach; and the script of a kind that reads only selects.  Who
logs in sends nothing. -/
theorem statement_texts_are_fixed (k : Kind) (schema : String) (srid : Int) :
    (∀ p : Performance k, (p.sent schema srid).map Statement.form <+:
        k.script schema srid p.task.hasKeywords) ∧
      ("keywords" ∉ k.filters → k.script schema srid true = k.script schema srid false) ∧
      (∀ p p' : Performance k,
        ("keywords" ∈ k.filters → p.task.hasKeywords = p'.task.hasKeywords) →
        ∀ (i : Nat) (one other : Statement), (p.sent schema srid)[i]? = some one →
          (p'.sent schema srid)[i]? = some other → one.form = other.form) ∧
      (k.reads = true → ∀ (keywords : Bool) (s : Statement),
        s.form ∈ k.script schema srid keywords → s.verb = "SELECT".toList) ∧
      ∀ (a : Account) (i : Issuer) (now : Instant) (c : Credentials) (silence : Command → Reply)
        (replies : List Reply), (a.logIn i now c).exchanges silence replies = [] := by
  have follows (p : Performance k) : (p.sent schema srid).map Statement.form <+:
      k.script schema srid p.task.hasKeywords :=
    p.ofKind.sent ⟨⟨schema, srid, p.deadline⟩, p.leastName⟩ p.caller p.silence p.replies
  refine ⟨follows, k.script_eq schema srid, ?_, ?_, ?_⟩
  · intro p p' alike i one other found found'
    have same : k.script schema srid p.task.hasKeywords =
        k.script schema srid p'.task.hasKeywords := by
      by_cases known : "keywords" ∈ k.filters
      · rw [alike known]
      · have equal := k.script_eq schema srid known
        cases p.task.hasKeywords <;> cases p'.task.hasKeywords <;> simp [equal]
    -- both texts stand at the same place of the one script
    have stands (p : Performance k) {s : Statement} (found : (p.sent schema srid)[i]? = some s) :
        (k.script schema srid p.task.hasKeywords)[i]? = some s.form := by
      have there : ((p.sent schema srid).map Statement.form)[i]? = some s.form := by
        simp [found]
      obtain ⟨rest, whole⟩ := follows p
      rwa [← whole, List.getElem?_append_left (List.getElem?_eq_some_iff.1 there).1]
    have left := stands p found
    rw [same, stands p' found'] at left
    exact (Option.some.inj left).symm
  · intro reads keywords s member
    obtain ⟨c, idle, form⟩ := k.script_reads schema srid reads keywords member
    have text : ((Store.mk schema srid none).statement c).sql = s.sql := congrArg Prod.snd form
    rcases verb_statement (Store.mk schema srid none) c with ⟨-, writes⟩ | ⟨-, writes⟩ | ⟨verb, -⟩
    · rw [idle] at writes
      cases writes
    · rw [idle] at writes
      cases writes
    · rwa [Statement.verb, text] at verb
  · intro a i now c silence replies
    have nothing := (follows_logIn {} a i now c _ _ (runs_exchanges silence _ replies)).1
    simpa [forms] using nothing

/-- A search for words, which finds nothing. -/
def searching (words : String) : Performance (.operation .searchThings) where
  caller := { userId := 7 }
  task := .listThings (.declare Sql.ThingTable.searchFilters [("keywords", .text words)]) (.int 0)
    (.int 50)
  ofKind := .searchThings _ (Sql.knows_declare _ _) _ _
  replies := [.returned (.list [])]

/-- Words that are meant to be a statement change no text, and nothing is sent but what
selects. -/
theorem hostile_words_are_no_text :
    (∃ one other : Statement,
      ((searching "'); DROP TABLE thing; --").sent "geothing" 2056)[0]? = some one ∧
      ((searching "pump").sent "geothing" 2056)[0]? = some other ∧ one.form = other.form) ∧
      (∀ s ∈ (searching "'); DROP TABLE thing; --").sent "geothing" 2056,
        s.verb = "SELECT".toList) ∧
      (Kind.operation .listThings).script "geothing" 2056 true =
        (Kind.operation .listThings).script "geothing" 2056 false := by
  have search := statement_texts_are_fixed (.operation .searchThings) "geothing" 2056
  have list := statement_texts_are_fixed (.operation .listThings) "geothing" 2056
  have same := search.2.2.1 (searching "'); DROP TABLE thing; --") (searching "pump")
    fun _ => rfl
  refine ⟨⟨_, _, rfl, rfl, same 0 _ _ rfl rfl⟩, fun s member => ?_, list.2.1 (by decide)⟩
  exact search.2.2.2.1 rfl _ s ((search.1 _).subset (List.mem_map_of_mem member))

end Registry

end GeoRegistry
