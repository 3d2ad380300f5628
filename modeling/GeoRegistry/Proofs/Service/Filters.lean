/-
# Proofs.Service.Filters -- from the parameters of a request to the arguments of its statement

Six operations ask the database one question about the rows that their filters select.  What
each of them filters by is a `Listing`: a table, the parameters that constrain its columns in
the order of the predicates, and whether it searches for keywords.

A parameter that is omitted is bound to NULL, and one that is given to what is read of it,
be that zero or false (`Parameter.Binds`).  `Listing.Tells` says this of a whole statement:
its text, predicate by predicate, and the arguments that their placeholders stand for.
-/
import GeoRegistry.Proofs.Json.Names
import GeoRegistry.Proofs.Service.Discretion
import GeoRegistry.Proofs.Sql.Placeholders

namespace GeoRegistry

set_option autoImplicit false

open Http Dialogue
open Store (Command)

/-! ## Parameters -/

/-- A parameter of a query that constrains a column. -/
structure Parameter where
  name : String
  column : String
  /-- How a value is read. -/
  read : Cell → Checked Cell

namespace Parameter

/-- A parameter that is an integer. -/
def number (name column : String) : Parameter :=
  ⟨name, column, fun raw => .int <$> Scalar.integer raw⟩

/-- A parameter that is true or false. -/
def mark (column : String) : Parameter :=
  ⟨column, column, fun raw => .bool <$> Scalar.bool raw⟩

/-- **What is bound for a parameter**: NULL just when it is omitted, and what is read of it
otherwise. -/
structure Binds (p : Parameter) (query : Record) (v : Cell) : Prop where
  omitted : v = .null ↔ query.lookup p.name = none
  given : ∀ raw, query.lookup p.name = some raw → p.read raw = .accepted v

end Parameter

/-- A number that is not too small was read as any number. -/
theorem Scalar.integer_of_integerFrom {least n : Int} {cell : Cell}
    (made : integerFrom least cell = .accepted n) : integer cell = .accepted n := by
  unfold integerFrom at made
  cases taken : integer cell with
  | refused issues => simp [taken] at made
  | accepted n' =>
      simp only [taken] at made
      split at made
      · exact made
      · cases made

/-- A number that a parameter settles: the one that is read of it, or else a standard one. -/
structure Settles (query : Record) (name : String) (standard n : Int) : Prop where
  omitted : query.lookup name = none → n = standard
  given : ∀ raw, query.lookup name = some raw → Scalar.integer raw = .accepted n

theorem settles_defaulted {query : Record} {name : String} {least standard n : Int}
    (made : Record.defaulted name (Scalar.integerFrom least) standard query = .accepted n) :
    Settles query name standard n := by
  unfold Record.defaulted at made
  constructor
  · intro omitted
    simp only [omitted] at made
    exact (Checked.accepted.inj made).symm
  · intro raw given
    simp only [given] at made
    exact Scalar.integer_of_integerFrom (Checked.within_eq_accepted made)

/-- All that a query says is text. -/
def Textual (query : Record) : Prop :=
  ∀ p ∈ query, ∃ s, p.2 = .text s

theorem Http.Request.parameters_textual (r : Request) : Textual r.parameters := by
  intro p member
  obtain ⟨piece, -, rfl⟩ := List.mem_map.1 (Json.distinct_subset _ member)
  exact ⟨_, rfl⟩

namespace Textual

variable {query : Record} (textual : Textual query)

include textual

/-- A query is told by its texts. -/
theorem eq_of_texts {texts : List (String × String)}
    (same : query.map (fun p => (p.1, p.2.prose)) = texts) :
    query = texts.map fun p => (p.1, .text p.2) := by
  rw [← same, List.map_map]
  refine (List.map_id query).symm.trans (List.map_congr_left fun p member => ?_)
  obtain ⟨name, v⟩ := p
  obtain ⟨s, rfl⟩ := textual _ member
  rfl

theorem lookup {name : String} {raw : Cell} (found : query.lookup name = some raw) :
    ∃ s, raw = .text s := by
  obtain ⟨before, after, rfl, -⟩ := List.lookup_eq_some_iff.1 found
  exact textual (name, raw) (by simp)

/-- What is made of an optional parameter. -/
theorem optional_eq_accepted {α : Type} {name : String} {read : Cell → Checked α} {v : Option α}
    (made : Record.optional name read query = .accepted v) :
    (query.lookup name = none ∧ v = none) ∨
      ∃ raw a, query.lookup name = some raw ∧ read raw = .accepted a ∧ v = some a := by
  unfold Record.optional at made
  cases there : query.lookup name with
  | none =>
      simp only [there] at made
      exact .inl ⟨rfl, (Checked.accepted.inj made).symm⟩
  | some raw =>
      obtain ⟨s, rfl⟩ := textual.lookup there
      simp only [there] at made
      obtain ⟨a, taken, rfl⟩ := Checked.map_eq_accepted made
      exact .inr ⟨_, a, rfl, Checked.within_eq_accepted taken, rfl⟩

/-- **An optional parameter is bound as it is given.** -/
theorem binds {α : Type} {name column : String} {inject : α → Cell} {read : Cell → Checked α}
    (solid : ∀ a, Opt.isNull (inject a) = false) {v : Option α}
    (made : Record.optional name read query = .accepted v) :
    Parameter.Binds ⟨name, column, fun raw => inject <$> read raw⟩ query
      (Opt.ofOption inject v).toParam := by
  rcases textual.optional_eq_accepted made with ⟨there, rfl⟩ | ⟨raw, a, there, taken, rfl⟩
  · exact ⟨⟨fun _ => there, fun _ => rfl⟩, fun raw found => by simp [there] at found⟩
  · have bound : (Opt.ofOption inject (some a)).toParam = inject a := by
      simp [Opt.ofOption, Cell.ofOption, Opt.ofCell, solid, Opt.toParam]
    rw [bound]
    constructor
    · have some_ : inject a ≠ .null := fun null => by simpa [null, Opt.isNull] using solid a
      exact ⟨fun null => absurd null some_, fun missing => by simp [there] at missing⟩
    · intro raw' found
      obtain rfl := Option.some.inj (there.symm.trans found)
      simp only [taken, Checked.map_accepted]

/-- A number that may be omitted is settled. -/
theorem settles {name : String} {least : Int} {v : Option Int}
    (made : Record.optional name (Scalar.integerFrom least) query = .accepted v) (standard : Int) :
    Settles query name standard (v.getD standard) := by
  rcases textual.optional_eq_accepted made with ⟨there, rfl⟩ | ⟨raw, n, there, taken, rfl⟩
  · exact { omitted := fun _ => rfl, given := fun raw found => nomatch there.symm.trans found }
  · refine ⟨fun missing => (nomatch there.symm.trans missing), fun raw' found => ?_⟩
    obtain rfl := Option.some.inj (there.symm.trans found)
    exact Scalar.integer_of_integerFrom taken

end Textual

/-! ## Listings -/

/-- The form of the answer to a question about many rows. -/
inductive Listing.Form where
  | page
  | features
  | count
  deriving DecidableEq

/-- What an operation on many rows filters by. -/
structure Listing where
  table : Store.Table
  form : Listing.Form
  /-- The parameters that constrain columns, in the order of the predicates. -/
  parameters : List Parameter
  /-- It searches for keywords. -/
  searches : Bool

/-- What a question about things filters by. -/
def Listing.ofThings (form : Listing.Form) (searches : Bool) : Listing where
  table := .things
  form
  parameters :=
    [.number "type" "type_id", .number "created_by" "_created_by", .mark "inactivated",
     .mark "validated"]
  searches

/-- What a list of types filters by. -/
def Listing.ofTypes : Listing where
  table := .types
  form := .page
  parameters :=
    [.number "created_by" "_created_by", .number "external_id" "external_id",
     .mark "inactivated"]
  searches := true

/-- What a count of types filters by. -/
def Listing.countOfTypes : Listing where
  table := .types
  form := .count
  parameters := [.number "created_by" "_created_by", .mark "inactivated"]
  searches := true

/-- The listing of an operation on many rows. -/
def Operation.listing? : Operation → Option Listing
  | .listThings => some (.ofThings .page false)
  | .searchThings => some (.ofThings .page true)
  | .thingFeatures => some (.ofThings .features false)
  | .countThings => some (.ofThings .count true)
  | .listTypes => some .ofTypes
  | .countTypes => some .countOfTypes
  | _ => none

namespace Listing

variable (l : Listing)

/-- The keywords to search for: those that are given, where they are supported, unless they
are empty. -/
def words (query : Record) : Option String :=
  if l.searches then
    match query.lookup "keywords" with
    | some (.text words) => if words.isEmpty then none else some words
    | _ => none
  else none

/-- How many lines a page has unless a request says otherwise. -/
def standard (s : Settings) : Int :=
  match l.table with
  | .things => s.thingPage
  | .types => s.typePage

/-- The statement up to its condition. -/
def opening (schema : String) : String :=
  let d := l.table.descriptor schema
  match l.form with
  | .page => "SELECT " ++ d.listColumns ++ " FROM " ++ d.table ++ " WHERE "
  | .features =>
      Sql.featuresOpening d Sql.ThingTable.geometryColumn (Sql.ThingTable.geojsonProperties schema)
  | .count => "SELECT COUNT(*) FROM " ++ d.table ++ " WHERE "

/-- The statement behind its condition. -/
def closing (schema : String) : String :=
  let d := l.table.descriptor schema
  match l.form with
  | .page => d.pageText ++ ";"
  | .features => "\n            " ++ d.pageText ++ ") AS f) AS fc;\n"
  | .count => ";"

/-- The predicates of the parameters, with placeholders from a number on. -/
def comparisons (schema : String) (first : Nat) : List String :=
  l.parameters.mapIdx fun j p =>
    Sql.comparisonText (l.table.descriptor schema) p.column ((first : Int) + j)

/-- The predicate of the keywords, if there are any. -/
def search (schema : String) (slot : Nat) (query : Record) : String :=
  if (l.words query).isSome then Sql.searchText (l.table.descriptor schema) slot else ""

/-- **A statement tells of a query**: behind the size and the start of the page, where there
is one, its arguments are those of the parameters and of the keywords, and its placeholders
stand for them in this order. -/
structure Tells (s : Settings) (query : Record) (t : Store.Statement) (leading values : List Cell) :
    Prop where
  args : t.args = leading ++ values ++ (l.words query).toList.map .text
  text : t.sql = l.opening s.schema ++ (l.table.descriptor s.schema).baseCondition ++
    String.join (l.comparisons s.schema (leading.length + 1)) ++
    l.search s.schema (leading.length + 1 + values.length) query ++ l.closing s.schema
  parameters : List.Forall₂ (fun p v => p.Binds query v) l.parameters values
  page : if l.form = .count then leading = []
    else ∃ limit offset : Int, leading = [.int limit, .int offset] ∧
      Settles query "limit" (l.standard s) limit ∧ Settles query "offset" 0 offset

/-- The filters of a request carry what its query says. -/
structure Carries (schema : String) (query : Record) (f : Sql.Filters) : Prop where
  columns : (Sql.exposed (l.table.descriptor schema).filterColumns f).map Prod.fst =
    l.parameters.map (·.column)
  bound : List.Forall₂ (fun p v => p.Binds query v) l.parameters
    ((Sql.exposed (l.table.descriptor schema).filterColumns f).map (·.2.toParam))
  keywords : f.keywords = .ofOption .text (l.words query)

end Listing

/-! ## Statements -/

namespace Listing

variable {l : Listing}

namespace Carries

variable {schema : String} {query : Record} {f : Sql.Filters}
  (carries : l.Carries schema query f)

include carries

theorem present : f.keywords.present = (l.words query).isSome := by
  rw [carries.keywords]
  cases l.words query <;> rfl

/-- The arguments of the filters. -/
theorem args (first : Int) :
    (Sql.predicates (l.table.descriptor schema) f first).args =
      (Sql.exposed (l.table.descriptor schema).filterColumns f).map (·.2.toParam) ++
        (l.words query).toList.map .text := by
  rw [Sql.args_predicates, carries.present, carries.keywords]
  cases l.words query <;> rfl

/-- The text of the filters, behind the base condition. -/
theorem text (first : Nat) :
    Sql.Fragment.render (Sql.whereClause (l.table.descriptor schema) f first) =
      (l.table.descriptor schema).baseCondition ++ String.join (l.comparisons schema first) ++
        l.search schema (first + ((Sql.exposed (l.table.descriptor schema).filterColumns f).map
          (·.2.toParam)).length) query := by
  have each : (Sql.exposed (l.table.descriptor schema).filterColumns f).mapIdx (fun j e =>
      Sql.comparisonText (l.table.descriptor schema) e.1 ((first : Int) + j)) =
        l.comparisons schema first := by
    refine List.ext_getElem? fun j => ?_
    have column := congrArg (fun columns : List String => columns[j]?.map fun column =>
      Sql.comparisonText (l.table.descriptor schema) column ((first : Int) + j)) carries.columns
    simpa only [comparisons, List.getElem?_mapIdx, List.getElem?_map, Option.map_map,
      Function.comp_def] using column
  rw [Sql.whereClause, Sql.render_text_cons, Sql.render_predicates, each, carries.present,
    List.length_map, search, String.append_assoc]
  rfl

end Carries

/-- The command of a listing. -/
def command (l : Listing) (f : Sql.Filters) (offset limit : Cell) : Command :=
  match l.form with
  | .page => .list l.table f offset limit
  | .features => .features f offset limit
  | .count => .count l.table f

/-- The arguments before those of the filters. -/
def leading (l : Listing) (offset limit : Int) : List Cell :=
  match l.form with
  | .count => []
  | _ => [.int limit, .int offset]

section Telling

variable {s : Settings} {query : Record} {f : Sql.Filters} {offset limit : Int}

theorem text_command (located : l.form = .features → l.table = .things) :
    (s.store.statement (l.command f (.int offset) (.int limit))).sql =
      l.opening s.schema ++ Sql.Fragment.render (Sql.whereClause (l.table.descriptor s.schema) f
        ((l.leading offset limit).length + 1 : Nat)) ++ l.closing s.schema := by
  cases form : l.form with
  | page =>
      simp only [command, opening, closing, leading, form, Store.statement,
        Store.Statement.ofQuery, Sql.listQuery_around, String.append_assoc]
      rfl
  | features =>
      simp only [command, opening, closing, leading, form, located form, Store.statement,
        Store.Statement.ofQuery, Sql.featuresQuery_around, String.append_assoc]
      rfl
  | count =>
      simp only [command, opening, closing, leading, form, Store.statement,
        Store.Statement.ofQuery, Sql.countQuery_around]
      rfl

theorem args_command (located : l.form = .features → l.table = .things) :
    (s.store.statement (l.command f (.int offset) (.int limit))).args =
      l.leading offset limit ++ (Sql.predicates (l.table.descriptor s.schema) f
        ((l.leading offset limit).length + 1 : Nat)).args := by
  cases form : l.form with
  | page =>
      simp only [command, leading, form]
      rfl
  | features =>
      simp only [command, leading, form, located form]
      rfl
  | count =>
      simp only [command, leading, form]
      rfl

/-- **The statement of a listing tells of its query**, if its filters carry it. -/
theorem tells (located : l.form = .features → l.table = .things)
    (carries : l.Carries s.schema query f)
    (page : l.form ≠ .count →
      Settles query "limit" (l.standard s) limit ∧ Settles query "offset" 0 offset) :
    l.Tells s query (s.store.statement (l.command f (.int offset) (.int limit)))
      (l.leading offset limit)
      ((Sql.exposed (l.table.descriptor s.schema).filterColumns f).map (·.2.toParam)) where
  args := by rw [args_command located, carries.args, List.append_assoc]
  text := by
    rw [text_command located, carries.text]
    simp only [String.append_assoc]
  parameters := carries.bound
  page := by
    by_cases form : l.form = .count
    · rw [if_pos form, leading, form]
    · rw [if_neg form]
      refine ⟨limit, offset, ?_, page form⟩
      cases shape : l.form <;> simp_all [leading]

end Telling

end Listing

/-! ## Reading the filters -/

theorem readFilters_eq_accepted {query : Record} {reads : List (Record → Checked (String × Opt))}
    {f : Sql.Filters} (made : readFilters query reads = .accepted f) :
    List.Forall₂ (fun read e => read query = .accepted e) reads f := by
  induction reads generalizing f with
  | nil =>
      obtain rfl := Checked.accepted.inj made
      exact .nil
  | cons read rest ih =>
      obtain ⟨g, others, first, later, rfl⟩ := Checked.seq_eq_accepted made
      obtain ⟨e, taken, rfl⟩ := Checked.map_eq_accepted first
      exact .cons taken (ih later)

section Reading

variable {query : Record} (textual : Textual query) {e : String × Opt}

include textual

theorem numberFilter_binds {filter parameter : String} (column : String)
    (made : numberFilter filter parameter query = .accepted e) :
    ∃ o, e = (filter, o) ∧ (Parameter.number parameter column).Binds query o.toParam := by
  obtain ⟨v, read, rfl⟩ := Checked.map_eq_accepted made
  exact ⟨_, rfl, textual.binds (fun _ => rfl) read⟩

theorem markFilter_binds {filter : String} (made : markFilter filter query = .accepted e) :
    ∃ o, e = (filter, o) ∧ (Parameter.mark filter).Binds query o.toParam := by
  obtain ⟨v, read, rfl⟩ := Checked.map_eq_accepted made
  exact ⟨_, rfl, textual.binds (fun _ => rfl) read⟩

theorem keywordFilter_eq (l : Listing) (searches : l.searches = true)
    (made : keywordFilter query = .accepted e) :
    e = ("keywords", .ofOption .text (l.words query)) := by
  obtain ⟨v, read, rfl⟩ := Checked.map_eq_accepted made
  rcases textual.optional_eq_accepted read with ⟨there, rfl⟩ | ⟨raw, words, there, taken, rfl⟩
  · simp [Listing.words, searches, there]
  · obtain ⟨s, rfl⟩ := textual.lookup there
    obtain rfl : s = words := Checked.accepted.inj taken
    by_cases empty : s.isEmpty = true <;>
      simp [Listing.words, searches, there, empty, Option.filter]

/-- The filters of things carry a query, with keywords or without. -/
theorem carries_things {f : Sql.Filters} (form : Listing.Form) (searches : Bool) (schema : String)
    (made : readFilters query (thingFilters ++ if searches then [keywordFilter] else []) =
      .accepted f) :
    (Listing.ofThings form searches).Carries schema query f := by
  have each := readFilters_eq_accepted made
  simp only [thingFilters, List.cons_append, List.nil_append, List.forall₂_cons_left_iff] at each
  obtain ⟨_, _, type, ⟨_, _, creator, ⟨_, _, inactivated, ⟨_, more, validated, rest, rfl⟩, rfl⟩,
    rfl⟩, rfl⟩ := each
  obtain ⟨o₁, rfl, binds₁⟩ := numberFilter_binds textual "type_id" type
  obtain ⟨o₂, rfl, binds₂⟩ := numberFilter_binds textual "_created_by" creator
  obtain ⟨o₃, rfl, binds₃⟩ := markFilter_binds textual inactivated
  obtain ⟨o₄, rfl, binds₄⟩ := markFilter_binds textual validated
  refine ⟨rfl, .cons binds₁ (.cons binds₂ (.cons binds₃ (.cons binds₄ .nil))), ?_⟩
  cases searches with
  | true =>
      obtain ⟨_, _, words, last, rfl⟩ := List.forall₂_cons_left_iff.1 rest
      obtain rfl := List.forall₂_nil_left_iff.1 last
      obtain rfl := keywordFilter_eq textual (.ofThings form true) rfl words
      rfl
  | false =>
      obtain rfl := List.forall₂_nil_left_iff.1 rest
      rfl

/-- The filters of a list of types carry a query. -/
theorem carries_types {f : Sql.Filters} (schema : String)
    (made : readFilters query typeFilters = .accepted f) :
    Listing.ofTypes.Carries schema query f := by
  have each := readFilters_eq_accepted made
  simp only [typeFilters, List.forall₂_cons_left_iff, List.forall₂_nil_left_iff] at each
  obtain ⟨_, _, words, ⟨_, _, creator, ⟨_, _, external, ⟨_, _, inactivated, rfl, rfl⟩, rfl⟩, rfl⟩,
    rfl⟩ := each
  obtain rfl := keywordFilter_eq textual .ofTypes rfl words
  obtain ⟨o₁, rfl, binds₁⟩ := numberFilter_binds textual "_created_by" creator
  obtain ⟨o₂, rfl, binds₂⟩ := numberFilter_binds textual "external_id" external
  obtain ⟨o₃, rfl, binds₃⟩ := markFilter_binds textual inactivated
  exact ⟨rfl, .cons binds₁ (.cons binds₂ (.cons binds₃ .nil)), rfl⟩

/-- A count of types has no filter on the external id. -/
theorem carries_typeCount {f : Sql.Filters} (schema : String)
    (made : readFilters query typeCountFilters = .accepted f) :
    Listing.countOfTypes.Carries schema query f := by
  have each := readFilters_eq_accepted made
  simp only [typeCountFilters, List.forall₂_cons_left_iff, List.forall₂_nil_left_iff] at each
  obtain ⟨_, _, words, ⟨_, _, creator, ⟨_, _, inactivated, rfl, rfl⟩, rfl⟩, rfl⟩ := each
  obtain rfl := keywordFilter_eq textual .countOfTypes rfl words
  obtain ⟨o₁, rfl, binds₁⟩ := numberFilter_binds textual "_created_by" creator
  obtain ⟨o₂, rfl, binds₂⟩ := markFilter_binds textual inactivated
  exact ⟨rfl, .cons binds₁ (.cons binds₂ .nil), rfl⟩

/-- The page that is read settles its size and its start. -/
theorem page_settles {page : Page} (made : Page.read query = .accepted page) (standard : Int) :
    Settles query "limit" standard (page.limit.getD standard) ∧
      Settles query "offset" 0 page.offset := by
  obtain ⟨g, limit, first, size, rfl⟩ := Checked.seq_eq_accepted made
  obtain ⟨offset, start, rfl⟩ := Checked.map_eq_accepted first
  exact ⟨textual.settles size standard, settles_defaulted start⟩

end Reading

/-! ## What is asked -/

namespace Service

variable {s : Settings} {i : Incoming} {caller : Caller}

/-- A page asks once, whatever is shown of its lines. -/
theorem page_asks {Item Line : Type} (c : Store.Collection Item Line) (st : Store)
    (f : Sql.Filters) (offset limit : Cell) (show_ : List Line → Response) :
    AsksOnce (do return show_ (← Registry.orEmpty (c.list st f offset limit)))
      (.list c.table f offset limit) fun reply =>
        (orNothing (.ok []) (Store.linesOf c.line reply)).bind fun lines => .ok (show_ lines) :=
  ((Store.list_asks c st f offset limit).ifNoRows (idle_finish (.ok []))).bind fun lines =>
    idle_finish (.ok (show_ lines))

/-- **An operation on many rows asks once**, with filters that carry its query. -/
theorem operate_lists {op : Operation} {l : Listing} (listing : op.listing? = some l)
    (textual : Textual i.query) {action : Action} (read : op.read i = .accepted action) :
    ∃ f offset limit outcome,
      AsksOnce (action.perform s caller) (l.command f (.int offset) (.int limit)) outcome ∧
        l.Carries s.schema i.query f ∧
        (l.form ≠ .count → Settles i.query "limit" (l.standard s) limit ∧
          Settles i.query "offset" 0 offset) := by
  -- whatever is made of the reply asks nothing more
  cases op with
  | listThings =>
      obtain rfl := Option.some.inj listing
      obtain ⟨g, page, first, paged, rfl⟩ := Checked.seq_eq_accepted read
      obtain ⟨f, filtered, rfl⟩ := Checked.map_eq_accepted first
      exact ⟨f, page.offset, page.limit.getD s.thingPage, _, page_asks Store.things _ f _ _ _,
        carries_things textual .page false _ (Checked.within_eq_accepted filtered),
        fun _ => page_settles textual (Checked.within_eq_accepted paged) _⟩
  | searchThings =>
      obtain rfl := Option.some.inj listing
      obtain ⟨g, page, first, paged, rfl⟩ := Checked.seq_eq_accepted read
      obtain ⟨f, filtered, rfl⟩ := Checked.map_eq_accepted first
      exact ⟨f, page.offset, page.limit.getD s.thingPage, _, page_asks Store.things _ f _ _ _,
        carries_things textual .page true _ (Checked.within_eq_accepted filtered),
        fun _ => page_settles textual (Checked.within_eq_accepted paged) _⟩
  | thingFeatures =>
      obtain rfl := Option.some.inj listing
      obtain ⟨g, page, first, paged, rfl⟩ := Checked.seq_eq_accepted read
      obtain ⟨f, filtered, rfl⟩ := Checked.map_eq_accepted first
      exact ⟨f, page.offset, page.limit.getD s.thingPage, _,
        (((Store.features_asks _ f _ _).bind fun found => idle_finish _).ifNoRows
          (idle_finish _)).bind fun _ => idle_finish _,
        carries_things textual .features false _ (Checked.within_eq_accepted filtered),
        fun _ => page_settles textual (Checked.within_eq_accepted paged) _⟩
  | countThings =>
      obtain rfl := Option.some.inj listing
      obtain ⟨f, filtered, rfl⟩ := Checked.map_eq_accepted read
      exact ⟨f, 0, 0, _,
        (Store.collection_count_asks Store.things _ f).bind fun _ => idle_finish _,
        carries_things textual .count true _ (Checked.within_eq_accepted filtered),
        fun other => absurd rfl other⟩
  | listTypes =>
      obtain rfl := Option.some.inj listing
      obtain ⟨g, f, first, filtered, rfl⟩ := Checked.seq_eq_accepted read
      obtain ⟨page, paged, rfl⟩ := Checked.map_eq_accepted first
      exact ⟨f, page.offset, page.limit.getD s.typePage, _, page_asks Store.types _ f _ _ _,
        carries_types textual _ (Checked.within_eq_accepted filtered),
        fun _ => page_settles textual (Checked.within_eq_accepted paged) _⟩
  | countTypes =>
      obtain rfl := Option.some.inj listing
      obtain ⟨f, filtered, rfl⟩ := Checked.map_eq_accepted read
      exact ⟨f, 0, 0, _,
        (Store.collection_count_asks Store.types _ f).bind fun _ => idle_finish _,
        carries_typeCount textual _ (Checked.within_eq_accepted filtered),
        fun other => absurd rfl other⟩
  | _ => cases listing

/-- A dialogue of one question asks just that in every run. -/
theorem asked_once {ε α : Type} {d : Dialogue ε α} {q : ε} {f : Reply → Except Failure α}
    (asks : AsksOnce d q f) (silence : ε → Reply) (replies : List Reply) :
    (d.run silence replies).asked = [q] :=
  (asks.run_eq silence replies).1

/-- The end of an exchange asks nothing. -/
theorem conclude_asked (o : Occasion) (r : Request) (headers : List (String × String))
    (h : Handled) : (conclude o r headers h).asked = h.asked := by
  unfold conclude
  cases h.outcome.bind Response.sendable with
  | ok response => rfl
  | error e => cases shown : Response.ofFailure? e <;> simp only [shown]

end Service

/-- The paths of the operations on many rows under the default prefix. -/
def listingPaths : List (Operation × String) :=
  [(.listThings, "/goapi/v1/thing"), (.searchThings, "/goapi/v1/thing/search"),
   (.thingFeatures, "/goapi/v1/thing/geojson"), (.countThings, "/goapi/v1/thing/count"),
   (.listTypes, "/goapi/v1/types"), (.countTypes, "/goapi/v1/types/count")]

theorem resolve_listingPaths {r : Request} (method : r.method = "GET")
    {p : Operation × String} (listed : p ∈ listingPaths) (path : r.path = p.2) :
    Route.resolve (Endpoint.routes "/goapi/v1") r = .ok (.found (.operation p.1) []) := by
  have plain : Route.resolve (Endpoint.routes "/goapi/v1") { method := "GET", path := p.2 } =
      .ok (.found (.operation p.1) []) := by
    simp only [listingPaths, List.mem_cons, List.not_mem_nil, or_false] at listed
    rcases listed with rfl | rfl | rfl | rfl | rfl | rfl <;> rfl
  exact (Route.resolve_congr method path).trans plain

/-- **Filters reach their statement as they are given.**  Under the default prefix the six
paths lead to the operations on many rows.  Whatever the prefix, the time, the pools and the
replies are: once such a request is from a known caller, has parameters that are accepted and
finds a pool, one statement is sent, and it tells of the query.  For each parameter that
constrains a column it has a predicate with a placeholder of its own, bound to NULL if the
parameter is omitted and to what is read of it if it is given; it searches for keywords just
when the operation supports them and some are given; and on a page the first two arguments are
its size, the given one or the standard one, and its start. -/
theorem filters_reach_their_statement (s : Service) :
    (∀ r : Request, r.method = "GET" → ∀ p ∈ listingPaths, r.path = p.2 →
      Route.resolve (Endpoint.routes "/goapi/v1") r = .ok (.found (.operation p.1) [])) ∧
    ∀ (o : Occasion) (r : Request) (caller : Caller) (op : Operation) (l : Listing) (path : Record),
      r.method = "GET" → op.listing? = some l →
      Route.resolve (Endpoint.routes s.settings.apiPrefix) r = .ok (.found (.operation op) path) →
      Idle (s.caller o.now r : Dialogue Empty Caller) (.ok caller) →
      (op.read ⟨path, r.parameters, none⟩).Accepts →
      (o.pools.get (.ok s.settings) o.opening).outcome = .ok () →
      ∃ q leading values, (s.serve o r).asked = [q] ∧
        l.Tells s.settings r.parameters (s.settings.store.statement q) leading values := by
  refine ⟨fun r method p listed path => resolve_listingPaths method listed path, ?_⟩
  intro o r caller op l path method listing found known ⟨action, read⟩ opened
  obtain ⟨f, offset, limit, outcome, asks, carries, page⟩ :=
    @Service.operate_lists s.settings _ caller _ _ listing r.parameters_textual _ read
  have bodiless : op.takesDocument = false := by
    cases op <;> first | rfl | cases listing
  have plain : s.settings.crossOrigin.preflight? r = none :=
    CrossOrigin.preflight?_eq_none (by simp [method])
  have comes : s.Comes o r caller action :=
    ⟨plain, ⟨op, path, none, found, by rw [bodiless]; rfl, read⟩, known, opened⟩
  have located : l.form = .features → l.table = .things := by
    cases op <;> first | (obtain rfl := Option.some.inj listing; decide) | cases listing
  refine ⟨_, _, _, ?_, Listing.tells located carries page⟩
  rw [Service.serve, plain, Service.conclude_asked, comes.handled.2, Service.asked_once asks]

/-! ## Zero, false and nothing -/

/-- A search with filters that are zero, negative and false, and with empty keywords. -/
def falsySearch : Request where
  method := "GET"
  path := "/goapi/v1/thing/search"
  query := "type=0&created_by=-3&inactivated=false&keywords=&limit=7"

theorem parameters_falsySearch :
    falsySearch.parameters =
      [("type", .text "0"), ("created_by", .text "-3"), ("inactivated", .text "false"),
       ("keywords", .text ""), ("limit", .text "7")] := by
  have spelled : falsySearch.parameters.map (fun p => (p.1, p.2.prose)) =
      [("type", "0"), ("created_by", "-3"), ("inactivated", "false"), ("keywords", ""),
       ("limit", "7")] := by
    decide +kernel
  exact falsySearch.parameters_textual.eq_of_texts spelled

/-- What is given is bound, be it zero or false, and what is omitted is NULL. -/
theorem falsy_filters_are_bound :
    Operation.searchThings.listing? = some (.ofThings .page true) ∧
      Route.resolve (Endpoint.routes trustingService.settings.apiPrefix) falsySearch =
        .ok (.found (.operation .searchThings) []) ∧
      (Operation.searchThings.read ⟨[], falsySearch.parameters, none⟩).Accepts ∧
      ∃ q, (trustingService.serve firstOccasion falsySearch).asked = [q] ∧
        (trustingService.settings.store.statement q).args =
          [.int 7, .int 0, .int 0, .int (-3), .bool false, .null] := by
  obtain ⟨led, told⟩ := filters_reach_their_statement trustingService
  have found := led falsySearch rfl (.searchThings, _) (.tail _ (.head _)) rfl
  have accepted : (Operation.searchThings.read ⟨[], falsySearch.parameters, none⟩).Accepts := by
    rw [parameters_falsySearch]
    exact ⟨_, rfl⟩
  obtain ⟨q, leading, values, asked, tells⟩ := told firstOccasion falsySearch _ .searchThings
    (.ofThings .page true) [] rfl rfl found (idle_finish _) accepted rfl
  refine ⟨rfl, found, accepted, q, asked, ?_⟩
  obtain ⟨args, -, parameters, page⟩ := tells
  rw [parameters_falsySearch] at args parameters page
  -- each argument is what is read of its parameter
  simp only [Listing.ofThings, List.forall₂_cons_left_iff, List.forall₂_nil_left_iff] at parameters
  obtain ⟨v₁, _, type, ⟨v₂, _, creator, ⟨v₃, _, inactivated, ⟨v₄, _, validated, rfl, rfl⟩, rfl⟩,
    rfl⟩, rfl⟩ := parameters
  obtain ⟨limit, offset, rfl, size, start⟩ := page
  obtain rfl : .int 0 = v₁ := Checked.accepted.inj (type.given (.text "0") rfl)
  obtain rfl : .int (-3) = v₂ := Checked.accepted.inj (creator.given (.text "-3") rfl)
  obtain rfl : .bool false = v₃ := Checked.accepted.inj (inactivated.given (.text "false") rfl)
  obtain rfl : v₄ = .null := validated.omitted.2 rfl
  obtain rfl : 7 = limit := Checked.accepted.inj (size.given (.text "7") rfl)
  obtain rfl : offset = 0 := start.omitted rfl
  exact args

end GeoRegistry
