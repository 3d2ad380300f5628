/-
# Proofs.Store.Columns -- every field is kept in the column of its name

What an insert, an update and a query on a row say is read off their texts
(`Sentence.ofText?`).  A write binds its columns by name (`Statement.WritesByName`): a column
that is named like a field of the content gets the argument of that field, the columns of the
user and of the time get these, the position is the point of its two fields, and the words to
search in are those of the name, the description and the comment.  That follows from the
assignments of the write (`bindsByName`), and so it holds in every schema.
-/
import GeoRegistry.Proofs.Store.Sentences

namespace GeoRegistry

set_option autoImplicit false

namespace Store

open Sql

/-! ## What a write gives its columns -/

namespace Statement

/-- A column is assigned the placeholder of an argument, and that is the given value. -/
def Gives (t : Statement) (w : Sentence) (column : String) (v : Cell) : Prop :=
  ∃ k : Nat, w.columns.lookup column = some (placeholder (k + 1)) ∧ t.args[k]? = some v

/-- What a statement tells. -/
abbrev sentence? (t : Statement) : Option Sentence :=
  Sentence.ofText? t.sql

/-- **The columns of a write are bound by name.** -/
structure BindsByName (t : Statement) (w : Sentence) (fields : Record) (user srid : Int) :
    Prop where
  distinct : w.names.Nodup
  /-- The fields that are kept in the position have no columns. -/
  apart : ∀ column ∈ w.names, column ∉ axes
  /-- A column that is named like a field gets that field, -/
  byField : ∀ column ∈ w.names, ∀ v, fields.lookup column = some v → t.Gives w column v
  users : ∀ column ∈ w.names, column ∈ userColumns → t.Gives w column (.int user)
  times : ∀ column ∈ w.names, column ∈ timeColumns →
    w.columns.lookup column = some "CURRENT_TIMESTAMP"
  /-- the position is the point of its two fields, where there are any, -/
  position : "pos_x" ∈ fields.map Prod.fst → ∃ (j k : Nat) (x y : Cell),
    w.columns.lookup "position" =
        some (pointText (placeholder (j + 1)) (placeholder (k + 1)) srid) ∧
      t.args[j]? = some x ∧ t.args[k]? = some y ∧
      fields.lookup "pos_x" = some x ∧ fields.lookup "pos_y" = some y
  /-- and the words are those of three columns, by the placeholders that these have. -/
  words : ∃ (i j k : Nat) (e : String),
    w.columns.lookup "name" = some (placeholder i) ∧
      w.columns.lookup "description" = some (placeholder j) ∧
      w.columns.lookup "comment" = some (placeholder k) ∧
      w.columns.lookup "text_search" = some e ∧ placeholders e = [(i : Int), j, k]
  /-- No other column is written. -/
  others : ∀ column ∈ w.names,
    column ∈ fields.map Prod.fst ++ userColumns ++ timeColumns ++ ["position", "text_search"]

/-- A write tells what it writes, and its columns are bound by name. -/
structure WritesByName (t : Statement) (table : String) (w : Sentence) (fields : Record)
    (user srid : Int) : Prop extends t.BindsByName w fields user srid where
  tells : t.sentence? = some w
  about : w.table = table

/-- It does so if its text says it of a table whose name is a word. -/
theorem BindsByName.writes {t : Statement} {w : Sentence} {fields : Record} {user srid : Int}
    (binds : t.BindsByName w fields user srid) (said : w.SaidBy t.sql) (word : Solid w.table) :
    t.WritesByName w.table w fields user srid where
  toBindsByName := binds
  tells := said.tells word
  about := rfl

end Statement

section Writes

variable {a : Assignments} {t : Statement} {w : Sentence} {leading : List Cell} {fields : Record}
  {user srid : Int} (byName : a.ByName (fields.map Prod.fst) srid)
  (columns : w.columns = a.said ((leading.length : Int) + 1))
  (args : t.args = leading ++ a.arguments user fields)

include args in
/-- The arguments of the slots come behind those that lead. -/
theorem argument_of_bound {place : Nat} {b : Binding} (bound : a.bindings[place]? = some b) :
    t.args[leading.length + place]? = some (b.value user fields) := by
  rw [args, List.getElem?_append_right (Nat.le_add_right ..), Nat.add_sub_cancel_left]
  exact Assignments.getElem?_arguments bound user fields

/-- The value that a field is bound to. -/
theorem value_field {name : String} {v : Cell} (there : fields.lookup name = some v) :
    (Binding.field name).value user fields = v := by
  rw [Binding.value, there]
  rfl

include columns args in
/-- A column of one slot gets the argument of that. -/
theorem gives_alone (distinct : (a.map Prod.fst).Nodup) {column : String} {source : Source}
    {b : Binding} (alone : source.alone? = some b) (member : (column, source) ∈ a) :
    ∃ place : Nat, a.bindings[place]? = some b ∧
      w.columns.lookup column = some (placeholder (leading.length + place + 1)) ∧
      t.Gives w column (b.value user fields) := by
  obtain ⟨place, spelled, bound⟩ := Assignments.lookup_said distinct member (leading.length + 1)
  have here := bound 0 b (by rw [Source.bindings_alone alone]; rfl)
  rw [Assignments.expression_alone alone, slot_number, render_placeholder, ← columns] at spelled
  exact ⟨place, here, spelled, leading.length + place, spelled, argument_of_bound args here⟩

variable (leading)

include byName columns args

/-- **Assignments by name bind their columns by name.** -/
theorem bindsByName : t.BindsByName w fields user srid := by
  have named : w.names = a.map Prod.fst := by
    rw [Sentence.names, columns, Assignments.said_fst]
  have source_of {column : String} (member : column ∈ w.names) :
      ∃ source, (column, source) ∈ a := by
    rw [named] at member
    obtain ⟨p, listed, rfl⟩ := List.mem_map.1 member
    exact ⟨p.2, listed⟩
  have gives {column : String} {source : Source} {b : Binding} (alone : source.alone? = some b)
      (member : (column, source) ∈ a) := gives_alone columns args byName.distinct alone member
  constructor
  case distinct =>
    rw [named]
    exact byName.distinct
  case apart =>
    intro column member
    obtain ⟨source, listed⟩ := source_of member
    exact byName.apart _ listed
  case byField =>
    intro column member v there
    obtain ⟨source, listed⟩ := source_of member
    have known : column ∈ fields.map Prod.fst := List.mem_map_of_mem (mem_of_lookup there)
    obtain rfl : source = .field column := byName.fields _ listed known
    obtain ⟨-, -, -, given⟩ := gives (b := .field column) rfl listed
    rwa [value_field there] at given
  case users =>
    intro column member stamp
    obtain ⟨source, listed⟩ := source_of member
    obtain rfl : source = .user := byName.users _ listed stamp
    obtain ⟨-, -, -, given⟩ := gives (b := .user) rfl listed
    exact given
  case times =>
    intro column member stamp
    obtain ⟨source, listed⟩ := source_of member
    obtain rfl : source = .now := byName.times _ listed stamp
    obtain ⟨place, spelled, -⟩ :=
      Assignments.lookup_said byName.distinct listed (leading.length + 1)
    rw [columns, spelled]
    rfl
  case position =>
    intro known
    obtain ⟨listed, known'⟩ := byName.position known
    obtain ⟨place, spelled, bound⟩ :=
      Assignments.lookup_said byName.distinct listed (leading.length + 1)
    obtain ⟨x, abscissa⟩ := Json.lookup_of_named known
    obtain ⟨y, ordinate⟩ := Json.lookup_of_named known'
    have first := argument_of_bound args (bound 0 _ rfl)
    have second := argument_of_bound args (bound 1 _ rfl)
    rw [value_field abscissa] at first
    rw [value_field ordinate] at second
    refine ⟨_, _, x, y, ?_, first, second, abscissa, ordinate⟩
    rw [columns, spelled, slot_number, Assignments.render_point]
    rfl
  case words =>
    obtain ⟨i, bound, name, -⟩ := gives (b := .field "name") rfl (byName.searched "name" (by simp))
    obtain ⟨j, bound', description, -⟩ :=
      gives (b := .field "description") rfl (byName.searched "description" (by simp))
    obtain ⟨k, bound'', comment, -⟩ :=
      gives (b := .field "comment") rfl (byName.searched "comment" (by simp))
    obtain ⟨place, spelled, -⟩ :=
      Assignments.lookup_said byName.distinct byName.words (leading.length + 1)
    rw [← columns] at spelled
    refine ⟨_, _, _, _, name, description, comment, spelled, ?_⟩
    rw [placeholders_render (Assignments.apart_expression _ _ _ _)]
    simp only [Assignments.expression, slots_text_cons, slots_slot_cons, slots_nil,
      Assignments.slotOf_eq byName.once bound, Assignments.slotOf_eq byName.once bound',
      Assignments.slotOf_eq byName.once bound'', slot_number]
  case others =>
    intro column member
    obtain ⟨source, listed⟩ := source_of member
    exact byName.others _ listed

end Writes

section Commands

variable (s : Store) (user : Int) (id : Cell)

theorem insertThing_binds (content : Thing.Content) :
    (s.statement (.insertThing user content)).BindsByName
      (ThingTable.insertion s.schema s.srid).sentence content.fields user s.srid :=
  bindsByName [] (insertThing_byName s.srid) rfl rfl

theorem updateThing_binds (content : Thing.Content) :
    (s.statement (.updateThing id user content)).BindsByName
      (ThingTable.replacement s.schema s.srid).sentence content.fields user s.srid :=
  bindsByName [id] (updateThing_byName s.srid) rfl rfl

theorem insertType_binds (content : ThingType.Content) :
    (s.statement (.insertType user content)).BindsByName
      (ThingTypeTable.insertion s.schema).sentence content.fields user s.srid :=
  bindsByName [] (insertType_byName s.srid s.schema) rfl rfl

theorem updateType_binds (content : ThingType.Content) :
    (s.statement (.updateType id user content)).BindsByName
      (ThingTypeTable.replacement s.schema).sentence content.fields user s.srid :=
  bindsByName [id] (updateType_byName s.srid s.schema) rfl rfl

end Commands

/-! ## What is read back -/

/-- What a database makes of expressions on the rows of a table: a placeholder is worth its
argument, and the name of a column what the row holds in it. -/
structure Evaluation (d : Schema.TableDefinition) where
  value : List Cell → Row → String → Cell
  argument : ∀ (args : List Cell) (row : Row) (k : Nat) (v : Cell),
    args[k]? = some v → value args row (placeholder (k + 1)) = v
  column : ∀ (args : List Cell) (row : Row), ∀ c ∈ d.columns, value args row c.name = row c.name

namespace Evaluation

variable {d : Schema.TableDefinition} (e : Evaluation d)

/-- A row as a write leaves it: every column that is assigned holds what its expression is
worth. -/
def Leaves (t : Statement) (w : Sentence) (old new : Row) : Prop :=
  ∀ p ∈ w.columns, new p.1 = e.value t.args old p.2

/-- The record of a row that a query answers with. -/
def shown (t : Statement) (g : Sentence) (row : Row) : Record :=
  g.columns.map fun p => (p.1, e.value t.args row p.2)

variable {e} {t q : Statement} {w g : Sentence} {old new : Row} {column : String} {v : Cell}

/-- **What is written into a column is shown under its name**, where the query shows it so. -/
theorem shown_of_gives (leaves : e.Leaves t w old new) (given : t.Gives w column v)
    (here : column ∈ d.columns.map (·.name)) (shows : g.columns.lookup column = some column) :
    (e.shown q g new).lookup column = some v := by
  obtain ⟨k, spelled, bound⟩ := given
  have written : new column = v :=
    (leaves _ (mem_of_lookup spelled)).trans (e.argument _ _ _ _ bound)
  obtain ⟨c, defined, rfl⟩ := List.mem_map.1 here
  rw [shown, lookup_map_snd, shows, Option.map_some, e.column _ _ c defined, written]

end Evaluation

/-- A write leaves some row. -/
theorem exists_leaves {d : Schema.TableDefinition} (e : Evaluation d) (t : Statement) {w : Sentence}
    (distinct : w.names.Nodup) (old : Row) : ∃ new, e.Leaves t w old new := by
  refine ⟨fun column => ((w.columns.lookup column).map (e.value t.args old)).getD (old column), ?_⟩
  intro p listed
  simp only [lookup_of_mem distinct listed, Option.map_some, Option.getD_some]

/-- An expression that begins with a dollar sign is a placeholder, and every other one the name
of a column. -/
def Evaluation.plain (d : Schema.TableDefinition) (free : ∀ c ∈ d.columns, '$' ∉ c.name.toList) :
    Evaluation d where
  value args row e :=
    match e.toList with
    | '$' :: digits => ((leadingNatural? digits).bind fun n => args[n - 1]?).getD .null
    | _ => row e
  argument := by
    intro args row k v there
    have chars : (placeholder (k + 1)).toList = '$' :: Nat.toDigits 10 (k + 1) := by
      change ("$" ++ (k + 1).repr).toList = _
      rw [String.toList_append, Nat.toList_repr]
      rfl
    have number : leadingNatural? (Nat.toDigits 10 (k + 1) ++ []) = some (k + 1) :=
      leadingNatural?_toDigits (k + 1) (by simp)
    rw [List.append_nil] at number
    simp [chars, number, there]
  column := by
    intro args row c defined
    have other := free c defined
    split
    · next digits same => simp [same] at other
    · rfl

/-! ## The law -/

/-- **A query shows an item by name**: its fields are the names that are shown, each once; a
field of the content is shown as it stands in the column of its name, and the two that have
none are read off the position. -/
structure Statement.ShowsByName (t : Statement) (table : String) (g : Sentence)
    (fields item : Record) : Prop where
  tells : t.sentence? = some g
  about : g.table = table
  distinct : g.names.Nodup
  aliases : g.names.Perm (item.map Prod.fst)
  shown : ∀ name ∈ fields.map Prod.fst, name ∉ axes → g.columns.lookup name = some name
  abscissa : "pos_x" ∈ fields.map Prod.fst →
    g.columns.lookup "pos_x" = some "round(st_x(ST_Centroid(position))::numeric, 2)"
  ordinate : "pos_y" ∈ fields.map Prod.fst →
    g.columns.lookup "pos_y" = some "round(st_y(ST_Centroid(position))::numeric, 2)"

/-- Whatever a write leaves in a row, the fields it wrote are read back as they were. -/
def ReadsBack (d : Schema.TableDefinition) (write : Statement) (w : Sentence) (get : Statement)
    (g : Sentence) (fields : Record) : Prop :=
  ∀ (e : Evaluation d) (old new : Row), e.Leaves write w old new →
    ∀ name ∈ w.names, ∀ v, fields.lookup name = some v → (e.shown get g new).lookup name = some v

/-- **Every field is kept in the column of its name** by the statements that insert, update and
show the rows of a table. -/
structure KeepsFields (s : Store) (t : Table) (insert update get : Statement)
    (fields item : Record) (user : Int) (id : Cell) (i u g : Sentence) : Prop where
  inserts : insert.WritesByName (t.descriptor s.schema).table i fields user s.srid
  updates : update.WritesByName (t.descriptor s.schema).table u fields user s.srid
  shows : get.ShowsByName (t.descriptor s.schema).table g fields item
  acts : i.act = .insert ∧ u.act = .update ∧ g.act = .query
  made : "_created_by" ∈ i.names ∧ "_created_at" ∈ i.names
  modified : "_last_modified_by" ∈ u.names ∧ "_last_modified_at" ∈ u.names
  /-- An update is about the row of its id, as long as that is not deleted, -/
  row : u.condition = some "id = $1 AND _deleted = false" ∧ update.args.head? = some id
  /-- and covers every field but the id, two of them through the position. -/
  covers : ∀ name ∈ fields.map Prod.fst,
    name = "id" ∨ name ∈ u.names ∨ name ∈ axes ∧ "position" ∈ u.names
  /-- So a value that is written under a field is read back under it. -/
  insertedBack : ReadsBack (t.definition s.schema s.srid) insert i get g fields
  updatedBack : ReadsBack (t.definition s.schema s.srid) update u get g fields

/-- What was written by name is read back, where it is shown by name. -/
theorem readsBack {d : Schema.TableDefinition} {write get : Statement} {table : String}
    {w g : Sentence} {fields item : Record} {user srid : Int}
    (written : write.WritesByName table w fields user srid)
    (shows : get.ShowsByName table g fields item)
    (defined : ∀ name ∈ fields.map Prod.fst, name ∉ axes → name ∈ d.columns.map (·.name)) :
    ReadsBack d write w get g fields := by
  intro e old new leaves name member v there
  have known : name ∈ fields.map Prod.fst := List.mem_map_of_mem (mem_of_lookup there)
  have apart := written.apart name member
  exact Evaluation.shown_of_gives leaves (written.byField name member v there)
    (defined name known apart) (shows.shown name known apart)

section Tables

variable {s : Store} (plain : IsIdentifier s.schema) (id : Cell)

include plain

theorem things_shownByName (content : Thing.Content) (item : Thing) :
    (s.statement (.get .things id)).ShowsByName (ThingTable.table s.schema)
      (Table.things.sentence s.schema) content.fields item.fields where
  tells := (get_said s .things id).tells (solid_table plain .things)
  about := rfl
  distinct := by
    change (Table.things.shown.map Prod.fst).Nodup
    decide +kernel
  aliases := by
    change (Table.things.shown.map Prod.fst).Perm
      (Thing.Content.names ++ ["created_at", "created_by", "last_modified_at", "last_modified_by",
        "deleted", "deleted_at", "deleted_by"])
    decide +kernel
  shown := by
    change ∀ name ∈ Thing.Content.names, name ∉ axes → Table.things.shown.lookup name = some name
    decide +kernel
  abscissa _ := by
    change Table.things.shown.lookup "pos_x" = _
    decide +kernel
  ordinate _ := by
    change Table.things.shown.lookup "pos_y" = _
    decide +kernel

theorem types_shownByName (content : ThingType.Content) (item : ThingType) :
    (s.statement (.get .types id)).ShowsByName (ThingTypeTable.table s.schema)
      (Table.types.sentence s.schema) content.fields item.fields where
  tells := (get_said s .types id).tells (solid_table plain .types)
  about := rfl
  distinct := by
    change (Table.types.shown.map Prod.fst).Nodup
    decide +kernel
  aliases := by
    change (Table.types.shown.map Prod.fst).Perm
      ("id" :: ThingType.Content.names ++ ["created_at", "created_by", "last_modified_at",
        "last_modified_by", "deleted", "deleted_at", "deleted_by"])
    decide +kernel
  shown := by
    change ∀ name ∈ ThingType.Content.names, name ∉ axes →
      Table.types.shown.lookup name = some name
    decide +kernel
  abscissa known := by
    change "pos_x" ∈ ThingType.Content.names at known
    exact absurd known (by decide +kernel)
  ordinate known := by
    change "pos_y" ∈ ThingType.Content.names at known
    exact absurd known (by decide +kernel)

end Tables

/-- A field of a thing that is not kept in the position has a column. -/
theorem things_defined (s : Store) :
    ∀ name ∈ Thing.Content.names, name ∉ axes →
      name ∈ (Table.things.definition s.schema s.srid).columns.map (·.name) := by
  change ∀ name ∈ Thing.Content.names, name ∉ axes →
    name ∈ (Table.things.definition "" 0).columns.map (·.name)
  decide +kernel

theorem types_defined (s : Store) :
    ∀ name ∈ ThingType.Content.names, name ∉ axes →
      name ∈ (Table.types.definition s.schema s.srid).columns.map (·.name) := by
  change ∀ name ∈ ThingType.Content.names, name ∉ axes →
    name ∈ (Table.types.definition "" 0).columns.map (·.name)
  decide +kernel

/-- **Writes bind every column to the field of the same name**, and what they write is read
back under it. -/
theorem columns_are_bound_to_their_fields {s : Store} (plain : IsIdentifier s.schema) (user : Int)
    (id : Cell) :
    (∀ (content : Thing.Content) (item : Thing), ∃ i u g,
      KeepsFields s .things (s.statement (.insertThing user content))
        (s.statement (.updateThing id user content)) (s.statement (.get .things id))
        content.fields item.fields user id i u g) ∧
    ∀ (content : ThingType.Content) (item : ThingType), ∃ i u g,
      KeepsFields s .types (s.statement (.insertType user content))
        (s.statement (.updateType id user content)) (s.statement (.get .types id))
        content.fields item.fields user id i u g := by
  constructor
  · intro content item
    have word := solid_table plain .things
    have inserts :=
      (insertThing_binds s user content).writes (insertThing_said s user content) word
    have updates :=
      (updateThing_binds s user id content).writes (updateThing_said s id user content) word
    have shows := things_shownByName plain id content item
    refine ⟨_, _, _, inserts, updates, shows, ⟨rfl, rfl, rfl⟩, ?_, ?_, ⟨rfl, rfl⟩, ?_,
      readsBack inserts shows (things_defined s), readsBack updates shows (things_defined s)⟩
    · rw [Insertion.names_sentence]
      simp [ThingTable.insertion, ThingTable.insertAssignments]
    · rw [Replacement.names_sentence]
      simp [ThingTable.replacement, ThingTable.updateAssignments]
    · rw [Replacement.names_sentence]
      simp [ThingTable.replacement, ThingTable.updateAssignments, Thing.Content.fields, axes]
  · intro content item
    have word := solid_table plain .types
    have inserts :=
      (insertType_binds s user content).writes (insertType_said s user content) word
    have updates :=
      (updateType_binds s user id content).writes (updateType_said s id user content) word
    have shows := types_shownByName plain id content item
    refine ⟨_, _, _, inserts, updates, shows, ⟨rfl, rfl, rfl⟩, ?_, ?_, ⟨rfl, rfl⟩, ?_,
      readsBack inserts shows (types_defined s), readsBack updates shows (types_defined s)⟩
    · rw [Insertion.names_sentence]
      simp [ThingTypeTable.insertion]
    · rw [Replacement.names_sentence]
      simp [ThingTypeTable.replacement]
    · rw [Replacement.names_sentence]
      simp [ThingTypeTable.replacement, ThingTypeTable.contentAssignments, ThingType.Content.fields,
        axes]

/-- A type whose neighbouring columns hold texts. -/
def fountain : ThingType.Content where
  name := "Fontaine"
  description := some "potable"
  comment := none
  externalId := some 4
  tableName := some "fontaine"
  geometryType := some "Point"
  inactivated := false
  inactivatedTime := none
  inactivatedBy := none
  inactivatedReason := none
  managedBy := none
  iconPath := "/icons/fontaine.svg"
  moreDataSchema := none

/-- A type is updated in a schema of another name, and the row that this leaves is shown. -/
theorem fountain_is_read_back_by_name :
    IsIdentifier "registry_2" ∧ ∃ (u g : Sentence) (new : Row)
      (e : Evaluation (Table.types.definition "registry_2" 4326)),
      Sentence.ofText? (({ schema := "registry_2", srid := 4326 } : Store).statement
        (.updateType (.int 3) 7 fountain)).sql = some u ∧
      (({ schema := "registry_2", srid := 4326 } : Store).statement
        (.updateType (.int 3) 7 fountain)).Gives u "geometry_type" (.text "Point") ∧
      e.Leaves (({ schema := "registry_2", srid := 4326 } : Store).statement
        (.updateType (.int 3) 7 fountain)) u (fun _ => .null) new ∧
      (e.shown (({ schema := "registry_2", srid := 4326 } : Store).statement
        (.get .types (.int 3))) g new).lookup "geometry_type" = some (.text "Point") := by
  have plain : IsIdentifier ({ schema := "registry_2", srid := 4326 } : Store).schema := by
    decide +kernel
  obtain ⟨i, u, g, keeps⟩ := (columns_are_bound_to_their_fields plain 7 (.int 3)).2 fountain
    ⟨3, fountain, ⟨none, none, none, none, false, none, none⟩⟩
  have free : ∀ c ∈ (Table.types.definition "registry_2" 4326).columns, '$' ∉ c.name.toList := by
    decide +kernel
  have there : fountain.fields.lookup "geometry_type" = some (.text "Point") := rfl
  have covered : "geometry_type" ∈ u.names := by
    have cases_ := keeps.covers "geometry_type" (by simp [ThingType.Content.fields])
    simpa [axes] using cases_
  obtain ⟨new, leaves⟩ := exists_leaves (Evaluation.plain _ free) _ keeps.updates.distinct
    fun _ => .null
  exact ⟨plain, u, g, new, _, keeps.updates.tells, keeps.updates.byField _ covered _ there, leaves,
    keeps.updatedBack _ _ _ leaves _ covered _ there⟩

end Store

end GeoRegistry
