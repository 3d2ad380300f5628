/-
# Proofs.Sql.Pages -- what the pages of a list show

Every page is a query of its own, and the database may put rows that the order does not tell
apart in another order each time.  What is shown at a place is what the order of that
place's page has there (`getElem?_shown`).  So the keys shown are those of any order
(`shown_keys`), and an item is shown once if all that share its key come on one page
(`shown_once`); if they do not, it may be shown twice, or not at all.

Lists of things and of types are in the order of one column that many rows may share.
-/
import GeoRegistry.Proofs.Sql.Queries
import Mathlib.Data.List.Nodup
import Mathlib.Order.Lattice

namespace GeoRegistry.Sql

set_option autoImplicit false

/-! ## Lists in pages -/

section Paging

variable {α K : Type}

/-- A page of a list. -/
def page (size k : Nat) (l : List α) : List α :=
  (l.drop (k * size)).take size

/-- The first pages, one after another. -/
def shown (pages : Nat → List α) (n : Nat) : List α :=
  (List.range n).flatMap pages

theorem shown_succ (pages : Nat → List α) (n : Nat) :
    shown pages (n + 1) = shown pages n ++ pages n := by
  simp [shown, List.range_succ]

section Places

variable {pages arranged : Nat → List α} {size m : Nat}
  (lengths : ∀ k, (arranged k).length = m) (cut : ∀ k, pages k = page size k (arranged k))

include lengths cut

theorem length_shown (n : Nat) : (shown pages n).length = min (n * size) m := by
  induction n with
  | zero => simp [shown]
  | succ n ih =>
      have page_length : (pages n).length = min size (m - n * size) := by
        rw [cut, page, List.length_take, List.length_drop, lengths]
      rw [shown_succ, List.length_append, ih, page_length, Nat.succ_mul]
      omega

/-- **What is shown at a place** is what the order of its page has there. -/
theorem getElem?_shown {n : Nat} (whole : m ≤ n * size) (j : Nat) :
    (shown pages n)[j]? = (arranged (j / size))[j]? := by
  have length := length_shown lengths cut
  by_cases inside : j < m
  · have early : j < n * size := Nat.lt_of_lt_of_le inside whole
    clear whole
    -- the page of the place is the last one, or the place is on those before it
    induction n with
    | zero => omega
    | succ n ih =>
        rw [Nat.succ_mul] at early
        rw [shown_succ]
        by_cases before : j < n * size
        · rw [List.getElem?_append_left (by rw [length]; omega)]
          exact ih before
        · have here : j / size = n :=
            Nat.div_eq_of_lt_le (by omega) (by rw [Nat.succ_mul]; omega)
          have start : (shown pages n).length = n * size := by
            rw [length]
            omega
          have place : n * size + (j - n * size) = j := by omega
          rw [List.getElem?_append_right (by omega), start, cut, page, List.getElem?_take,
            if_pos (by omega), List.getElem?_drop, place, here]
  · rw [List.getElem?_eq_none (by rw [length]; omega), List.getElem?_eq_none (by rw [lengths]; omega)]

end Places

/-! ### Orders -/

/-- A prefix of a list has a property; its count is where the prefix ends. -/
theorem lt_countP_iff {p : α → Bool} {l : List α} {j : Nat} {a : α}
    (first : l.Pairwise fun a b => p b = true → p a = true) (there : l[j]? = some a) :
    p a = true ↔ j < l.countP p := by
  induction l generalizing j with
  | nil => simp at there
  | cons x rest ih =>
      obtain ⟨ahead, others⟩ := List.pairwise_cons.1 first
      by_cases head : p x = true
      · rw [List.countP_cons, if_pos head]
        cases j with
        | zero =>
            obtain rfl : x = a := by simpa using there
            simp [head]
        | succ j =>
            rw [ih others (by simpa using there)]
            omega
      · have none_ : ∀ b ∈ x :: rest, ¬ p b = true := by
          intro b member
          rcases List.mem_cons.1 member with rfl | behind
          · exact head
          · exact fun holds => head (ahead b behind holds)
        rw [List.countP_eq_zero.2 none_]
        exact ⟨fun holds => absurd holds (none_ a (List.mem_of_getElem? there)), by omega⟩

variable [LinearOrder K]

/-- All of some items in an order in which no key is behind a smaller one. -/
structure Arranges (key : α → K) (items l : List α) : Prop where
  perm : l.Perm items
  falling : l.Pairwise fun a b => key b ≤ key a

/-- How many items have a greater key. -/
def above (key : α → K) (items : List α) (a : α) : Nat :=
  items.countP fun b => key a < key b

/-- How many items have a key that is not smaller. -/
def notBelow (key : α → K) (items : List α) (a : α) : Nat :=
  items.countP fun b => key a ≤ key b

/-- All items that share the key of one come on one page. -/
def TiesOnOnePage (key : α → K) (items : List α) (size : Nat) (a : α) : Prop :=
  ∃ k, k * size ≤ above key items a ∧ notBelow key items a ≤ (k + 1) * size

/-- What is shown of some items, in pages of a size.  There are as many as there are items, all
of them items, with the keys of any order in their places.  An item is shown once if all that
share its key come on one page; if no two items share a key, every one is shown once, in one
and the same order. -/
structure Shows (key : α → K) (items : List α) (size : Nat) (list : List α) : Prop where
  length : list.length = items.length
  among : ∀ a ∈ list, a ∈ items
  keys : ∀ l, Arranges key items l → list.map key = l.map key
  once : ∀ a ∈ items, TiesOnOnePage key items size a → ∃! j : Nat, list[j]? = some a
  settled : (items.map key).Nodup → list.Perm items ∧ ∀ l, Arranges key items l → list = l

variable {key : α → K} {items l l' : List α}

/-- **An item comes behind those of greater keys**, and before those of smaller ones. -/
theorem Arranges.place (arranges : Arranges key items l) {j : Nat} {a : α}
    (there : l[j]? = some a) : above key items a ≤ j ∧ j < notBelow key items a := by
  rw [above, notBelow, ← arranges.perm.countP_eq, ← arranges.perm.countP_eq]
  have greater := lt_countP_iff (p := fun b => key a < key b) (arranges.falling.imp fun order => by
    simpa using fun less => lt_of_lt_of_le less order) there
  have same := lt_countP_iff (p := fun b => key a ≤ key b) (arranges.falling.imp fun order => by
    simpa using fun less => le_trans less order) there
  simp only [decide_eq_true_eq, lt_irrefl, false_iff, le_refl, true_iff] at greater same
  exact ⟨Nat.le_of_not_lt greater, same⟩

/-- The keys are in the same order in all of them. -/
theorem Arranges.keys (arranges : Arranges key items l) (arranges' : Arranges key items l') :
    l.map key = l'.map key := by
  have falling : (l.map key).Pairwise fun a b => b ≤ a := List.pairwise_map.2 arranges.falling
  have falling' : (l'.map key).Pairwise fun a b => b ≤ a := List.pairwise_map.2 arranges'.falling
  refine List.Perm.eq_of_pairwise ?_ falling falling'
    ((arranges.perm.trans arranges'.perm.symm).map key)
  exact fun a b _ _ low high => le_antisymm high low

/-- There is one order only if no two items share a key. -/
theorem Arranges.unique (arranges : Arranges key items l) (arranges' : Arranges key items l')
    (apart : (items.map key).Nodup) : l = l' := by
  refine List.Perm.eq_of_pairwise ?_ arranges.falling arranges'.falling
    (arranges.perm.trans arranges'.perm.symm)
  intro a b member member' low high
  exact List.inj_on_of_nodup_map apart (arranges.perm.mem_iff.1 member)
    (arranges'.perm.mem_iff.1 member') (le_antisymm high low)

/-! ### Pages of an order each -/

section Shown

variable {pages arranged : Nat → List α} {size n : Nat}
  (orders : ∀ k, Arranges key items (arranged k)) (cut : ∀ k, pages k = page size k (arranged k))

include orders cut

theorem page_eq_nil {k : Nat} (past : items.length ≤ k * size) : pages k = [] := by
  rw [cut, page, List.drop_eq_nil_of_le (by rw [(orders k).perm.length_eq]; exact past),
    List.take_nil]

variable (whole : items.length ≤ n * size)

include whole

theorem shown_place (j : Nat) : (shown pages n)[j]? = (arranged (j / size))[j]? :=
  getElem?_shown (fun k => (orders k).perm.length_eq) cut whole j

/-- **The keys shown are those of any order.** -/
theorem shown_keys (arranges : Arranges key items l) : (shown pages n).map key = l.map key := by
  refine List.ext_getElem? fun j => ?_
  rw [List.getElem?_map, shown_place orders cut whole, ← List.getElem?_map,
    (orders _).keys arranges]

theorem mem_of_shown {a : α} (member : a ∈ shown pages n) : a ∈ items := by
  obtain ⟨j, there⟩ := List.getElem?_of_mem member
  rw [shown_place orders cut whole] at there
  exact (orders _).perm.mem_iff.1 (List.mem_of_getElem? there)

/-- **An item is shown once** if all that share its key come on one page. -/
theorem shown_once (apart : items.Nodup) {a : α} (member : a ∈ items)
    (ties : TiesOnOnePage key items size a) : ∃! j : Nat, (shown pages n)[j]? = some a := by
  obtain ⟨k, low, high⟩ := ties
  -- wherever an order has the item, that is on the page of those that share its key
  have on_page {k' j : Nat} (there : (arranged k')[j]? = some a) : j / size = k := by
    obtain ⟨behind, before⟩ := (orders k').place there
    exact Nat.div_eq_of_lt_le (by omega) (by omega)
  obtain ⟨j, there⟩ := List.getElem?_of_mem ((orders k).perm.mem_iff.2 member)
  refine ⟨j, ?_, fun j' there' => ?_⟩
  · show (shown pages n)[j]? = some a
    rw [shown_place orders cut whole, on_page there, there]
  · have there' : (shown pages n)[j']? = some a := there'
    rw [shown_place orders cut whole] at there'
    rw [on_page there'] at there'
    obtain ⟨inside, -⟩ := List.getElem?_eq_some_iff.1 there'
    exact (List.getElem?_inj inside ((orders k).perm.nodup_iff.2 apart)).1 (there'.trans there.symm)

/-- **Without shared keys there is one order, and it is shown.** -/
theorem shown_eq (apart : (items.map key).Nodup) (arranges : Arranges key items l) :
    shown pages n = l := by
  refine List.ext_getElem? fun j => ?_
  rw [shown_place orders cut whole, (orders _).unique arranges apart]

theorem shows_shown (apart : items.Nodup) : Shows key items size (shown pages n) where
  length := by
    have keys := congrArg List.length (shown_keys orders cut whole (orders 0))
    rw [List.length_map, List.length_map] at keys
    rw [keys, (orders 0).perm.length_eq]
  among _ member := mem_of_shown orders cut whole member
  keys _ arranges := shown_keys orders cut whole arranges
  once _ member ties := shown_once orders cut whole apart member ties
  settled distinct := by
    refine ⟨?_, fun l arranges => shown_eq orders cut whole distinct arranges⟩
    rw [shown_eq orders cut whole distinct (orders 0)]
    exact (orders 0).perm

end Shown

end Paging

/-! ## Answers to a query -/

section Answers

variable {K : Type} [LinearOrder K]

instance (i : Interpretation) (args : List Cell) (row : Row) (c : Clause) :
    Decidable (Clause.Selects i args row c) :=
  inferInstanceAs (Decidable (_ = _))

/-- What a database may answer to a query that ends in an order by a column, greatest value
first, and in a page: it puts the rows that the clause selects in such an order, leaves out
as many as the second argument says, and gives as many as the first one says.  Where a value
stands among others is what `rank` says. -/
def Answers (i : Interpretation) (rank : Cell → K) (rows : List Row) (c : Clause) (column : String)
    (args : List Cell) (answer : List Row) : Prop :=
  ∃ (limit offset : Nat) (arranged : List Row),
    i.bound args 1 = .int limit ∧ i.bound args 2 = .int offset ∧
      Arranges (fun row => rank (row column))
        (rows.filter fun row => Clause.Selects i args row c) arranged ∧
      answer = (arranged.drop offset).take limit

/-- The rows that a table may hold: its definition admits each of them, and no two have the
same primary key. -/
structure Schema.TableDefinition.Holds (t : Schema.TableDefinition) (rows : List Row) : Prop where
  admits : ∀ row ∈ rows, t.Admits row
  keys : ∀ c ∈ t.columns, c.constraint = some .primaryKey →
    (rows.map fun row => row c.name).Nodup

variable {i : Interpretation} {rank : Cell → K} {rows : List Row}

/-- An answer to a page of a list is a page of such an order. -/
theorem answers_list_iff {d : Descriptor} {f : Filters} {c : Clause} {column : String}
    {size k : Nat} {answer : List Row} :
    Answers i rank rows c column (listQuery d f (.int (k * size : Nat)) (.int size)).args answer ↔
      ∃ arranged, Arranges (fun row => rank (row column)) (rows.filter fun row =>
          Clause.Selects i (listQuery d f (.int (k * size : Nat)) (.int size)).args row c) arranged ∧
        answer = page size k arranged := by
  have limit : i.bound (listQuery d f (.int (k * size : Nat)) (.int size)).args 1 = .int size := rfl
  have offset : i.bound (listQuery d f (.int (k * size : Nat)) (.int size)).args 2 =
      .int (k * size : Nat) := rfl
  rw [Answers, limit, offset]
  constructor
  · rintro ⟨limit, offset, arranged, same, same', arranges, rfl⟩
    obtain rfl : size = limit := Int.ofNat.inj (Cell.int.inj same)
    obtain rfl : k * size = offset := Int.ofNat.inj (Cell.int.inj same')
    exact ⟨arranged, arranges, rfl⟩
  · rintro ⟨arranged, arranges, rfl⟩
    exact ⟨size, k * size, arranged, rfl, rfl, arranges, rfl⟩

end Answers

end GeoRegistry.Sql

namespace GeoRegistry.Store

open Sql

/-- The column that lists are in the order of, greatest value first. -/
def orderColumn : String := "_created_at"

namespace Table

theorem orderBy_spelled (t : Table) (schema : String) :
    (t.descriptor schema).orderBy = orderColumn ++ " DESC" := by
  cases t with
  | things => rfl
  | types => rfl

theorem id_isPrimaryKey (t : Table) (schema : String) (srid : Int) :
    ∃ c ∈ (t.definition schema srid).columns, c.name = "id" ∧ c.constraint = some .primaryKey := by
  cases t with
  | things =>
      exact ⟨⟨"id", "uuid", some .primaryKey⟩, by simp [definition, Schema.thingTable], rfl, rfl⟩
  | types =>
      exact ⟨⟨"id", "serial", some .primaryKey⟩, by simp [definition, Schema.typeTable], rfl, rfl⟩

/-- No row is in a table twice. -/
theorem nodup_of_holds {t : Table} {schema : String} {srid : Int} {rows : List Row}
    (holds : (t.definition schema srid).Holds rows) : rows.Nodup := by
  obtain ⟨c, listed, -, primary⟩ := t.id_isPrimaryKey schema srid
  exact .of_map _ (holds.keys c listed primary)

/-- The rows of a table that filters match: those that a count counts. -/
def matching (t : Table) (i : Interpretation) (schema : String) (f : Filters) (rows : List Row) :
    List Row :=
  rows.filter fun row => Clause.Selects i (countQuery (t.descriptor schema) f).args row
    ((t.descriptor schema).clause t.base f 1)

section Matching

variable {i : Interpretation} {t : Table} {schema : String} {srid : Int} {rows : List Row}
  (holds : (t.definition schema srid).Holds rows) (f : Filters)

include holds

/-- A page is taken from the rows that a count counts. -/
theorem filter_list (offset limit : Cell) :
    (rows.filter fun row =>
      Clause.Selects i (listQuery (t.descriptor schema) f offset limit).args row
        ((t.descriptor schema).clause t.base f 3)) = t.matching i schema f rows := by
  refine List.filter_congr fun row member => ?_
  have admits := holds.admits row member
  have list := @selects_table_iff i [limit, offset] f row t schema srid admits
  have count := @selects_table_iff i [] f row t schema srid admits
  exact decide_eq_decide.2 (list.trans count.symm)

theorem mem_matching_iff {row : Row} (member : row ∈ rows) :
    row ∈ t.matching i schema f rows ↔
      (i.equals (row "_deleted") (.bool false) = .yes ∧
        (t = .things → Opt.isNull (row "position") = false)) ∧
      f.Match i row (t.descriptor schema) := by
  rw [matching, List.mem_filter, decide_eq_true_iff]
  have count := @selects_table_iff i [] f row t schema srid (holds.admits row member)
  exact (and_iff_right member).trans count

end Matching

section Pages

variable {K : Type} [LinearOrder K]

/-- Where the time at which a row was made stands among others. -/
def creation (rank : Cell → K) (row : Row) : K :=
  rank (row orderColumn)

/-- **What the pages of a list show.**  Each page is a query of its own over the same rows, and
may be answered in any order that puts newer rows first.  Then all pages together show the
matching rows newest first, and each of them once whose time of creation is shared by none,
or only by rows that come on the same page; beyond them the pages are empty. -/
theorem pages_show_matching_rows (i : Interpretation) (rank : Cell → K) (t : Table)
    (schema : String) (srid : Int) {rows : List Row}
    (holds : (t.definition schema srid).Holds rows) (f : Filters) (size : Nat) :
    (∀ offset limit, (listQuery (t.descriptor schema) f offset limit).sql.render =
      "SELECT " ++ (t.descriptor schema).listColumns ++ " FROM " ++ (t.descriptor schema).table ++
        " WHERE " ++ ((t.descriptor schema).clause t.base f 3).text ++ " ORDER BY " ++
        (orderColumn ++ " DESC") ++ " LIMIT $1 OFFSET $2;") ∧
    ∀ pages : Nat → List Row,
      (∀ k, Answers i rank rows ((t.descriptor schema).clause t.base f 3) orderColumn
        (listQuery (t.descriptor schema) f (.int (k * size : Nat)) (.int size)).args (pages k)) →
      (∀ k, (t.matching i schema f rows).length ≤ k * size → pages k = []) ∧
      ∀ n, (t.matching i schema f rows).length ≤ n * size →
        Shows (creation rank) (t.matching i schema f rows) size (shown pages n) := by
  refine ⟨fun offset limit => ?_, fun pages answered => ?_⟩
  · rw [render_listQuery (t.base_spelled schema) t.base_ne_nil, orderBy_spelled]
  · have ordered (k : Nat) : ∃ arranged, Arranges (creation rank) (t.matching i schema f rows)
        arranged ∧ pages k = page size k arranged := by
      have answer := answers_list_iff.1 (answered k)
      rwa [filter_list holds] at answer
    choose arranged orders cut using ordered
    have apart : (t.matching i schema f rows).Nodup := (nodup_of_holds holds).filter _
    exact ⟨fun k past => page_eq_nil orders cut past, fun n whole =>
      shows_shown orders cut whole apart⟩

end Pages

/-! ### Rows of the same time -/

/-- The first moment of a year. -/
def newYear : Timestamp :=
  ⟨2024, 1, 1, 0, 0, 0, 0, some 0, by decide⟩

/-- Where a moment given in universal time stands among others. -/
def universalRank : Cell → Nat
  | .time t => (((((t.year * 12 + t.month) * 31 + t.day) * 24 + t.hour) * 60 + t.minute) * 60 +
      t.second) * 1000000 + t.micro
  | _ => 0

/-- A type that was made at that moment. -/
def newYearType (id : Int) : Row := fun column =>
  (List.lookup column [("id", .int id), ("name", .text "Fontaine"), ("inactivated", .bool false),
    ("icon_path", .text ""), ("_created_at", .time newYear), ("_created_by", .int 7),
    ("_deleted", .bool false)]).getD .null

/-- Two of them. -/
def twins : List Row :=
  [newYearType 1, newYearType 2]

/-- The filters of a list of types, all of them absent. -/
def unfiltered : Filters :=
  .declare Sql.ThingTypeTable.listFilters []

theorem twins_hold : (Table.types.definition "geothing" 2056).Holds twins where
  admits := by
    have first : (Schema.typeTable "geothing").Admits (newYearType 1) := by
      unfold Schema.TableDefinition.Admits
      decide
    have second : (Schema.typeTable "geothing").Admits (newYearType 2) := by
      unfold Schema.TableDefinition.Admits
      decide
    intro row member
    rcases List.mem_pair.1 member with rfl | rfl
    · exact first
    · exact second
  keys := by
    have only : ∀ c ∈ (Schema.typeTable "geothing").columns,
        c.constraint = some .primaryKey → c.name = "id" := by decide
    intro c listed primary
    rw [only c listed primary]
    simp [twins, newYearType]

theorem matching_twins : Table.types.matching .plain "geothing" unfiltered twins = twins := by
  have matched (row : Row) :
      Filters.Match .plain row (Table.types.descriptor "geothing") unfiltered := by
    constructor
    · intro name column o listed found there
      obtain ⟨before, behind, whole, -⟩ := List.lookup_eq_some_iff.1 found
      have member : (name, o) ∈ unfiltered := by
        rw [whole]
        exact List.mem_append_right _ List.mem_cons_self
      obtain ⟨_, -, same⟩ := List.mem_map.1 member
      cases same
      cases there
    · intro there
      cases there
  refine List.filter_eq_self.2 fun row member => ?_
  have live : Interpretation.plain.equals (row "_deleted") (.bool false) = .yes := by
    rcases List.mem_pair.1 member with rfl | rfl
    · exact Interpretation.plain.equals_self rfl
    · exact Interpretation.plain.equals_self rfl
  have among := (mem_matching_iff twins_hold unfiltered member).2 ⟨⟨live, by simp⟩, matched row⟩
  exact (List.mem_filter.1 among).2

/-- Either order of them puts newer rows first. -/
theorem arranges_twins {l : List Row} (perm : l.Perm twins) :
    Arranges (creation universalRank) twins l where
  perm := perm
  falling := by
    have same : ∀ row ∈ twins, creation universalRank row = universalRank (.time newYear) := by
      intro row member
      rcases List.mem_pair.1 member with rfl | rfl <;> rfl
    refine List.pairwise_of_forall_mem_list fun a first b second => ?_
    rw [same a (perm.mem_iff.1 first), same b (perm.mem_iff.1 second)]

/-- What a database may answer to the pages of a list of both. -/
theorem answers_twins {size k : Nat} {l : List Row} (perm : l.Perm twins) :
    Answers .plain universalRank twins
      ((Table.types.descriptor "geothing").clause Table.types.base unfiltered 3) orderColumn
      (listQuery (Table.types.descriptor "geothing") unfiltered (.int (k * size : Nat)) (.int size)).args
      (page size k l) := by
  rw [answers_list_iff, filter_list twins_hold, matching_twins]
  exact ⟨l, arranges_twins perm, rfl⟩

/-- Both come on one page, and each is shown once. -/
theorem twins_on_one_page :
    (Table.types.definition "geothing" 2056).Holds twins ∧
      (∀ k, Answers .plain universalRank twins
        ((Table.types.descriptor "geothing").clause Table.types.base unfiltered 3) orderColumn
        (listQuery (Table.types.descriptor "geothing") unfiltered (.int (k * 2 : Nat)) (.int (2 : Nat))).args
        (page 2 k twins.reverse)) ∧
      newYearType 1 ∈ Table.types.matching .plain "geothing" unfiltered twins ∧
      TiesOnOnePage (creation universalRank)
        (Table.types.matching .plain "geothing" unfiltered twins) 2 (newYearType 1) ∧
      ∃! j : Nat, (shown (fun k => page 2 k twins.reverse) 1)[j]? = some (newYearType 1) := by
  have answered (k : Nat) := @answers_twins 2 k twins.reverse twins.reverse_perm
  have member : newYearType 1 ∈ Table.types.matching .plain "geothing" unfiltered twins := by
    rw [matching_twins]
    exact List.mem_cons_self
  have ties : TiesOnOnePage (creation universalRank)
      (Table.types.matching .plain "geothing" unfiltered twins) 2 (newYearType 1) := by
    rw [matching_twins]
    exact ⟨0, by decide, by decide⟩
  have whole : (Table.types.matching .plain "geothing" unfiltered twins).length ≤ 1 * 2 := by
    rw [matching_twins]
    decide
  obtain ⟨-, pages⟩ := pages_show_matching_rows .plain universalRank .types "geothing" 2056
    twins_hold unfiltered 2
  exact ⟨twins_hold, answered, member, ties, ((pages _ answered).2 1 whole).once _ member ties⟩

/-- **Rows that share their time may be repeated and skipped**: with pages of one row, both
pages of the two may show the same one. -/
theorem twins_repeated_and_skipped :
    (Table.types.definition "geothing" 2056).Holds twins ∧
      Table.types.matching .plain "geothing" unfiltered twins = twins ∧
      ∃ pages : Nat → List Row,
        (∀ k, Answers .plain universalRank twins
          ((Table.types.descriptor "geothing").clause Table.types.base unfiltered 3) orderColumn
          (listQuery (Table.types.descriptor "geothing") unfiltered (.int (k * 1 : Nat))
            (.int (1 : Nat))).args (pages k)) ∧
        pages 0 = [newYearType 1] ∧ pages 1 = [newYearType 1] ∧
        (∀ k, newYearType 2 ∉ pages k) ∧
        ¬ ∀ row ∈ twins, ∃! j : Nat, (shown pages 2)[j]? = some row := by
  -- the query for the second page puts the two in the other order
  let pages (k : Nat) : List Row := page 1 k (if k = 1 then twins.reverse else twins)
  have other : newYearType 2 ≠ newYearType 1 := by
    intro same
    have ids : Cell.int 2 = Cell.int 1 := congrFun same "id"
    cases ids
  have absent (k : Nat) : newYearType 2 ∉ pages k := by
    match k with
    | 0 => exact List.not_mem_cons_of_ne_of_not_mem other List.not_mem_nil
    | 1 => exact List.not_mem_cons_of_ne_of_not_mem other List.not_mem_nil
    | k + 2 =>
        have past : pages (k + 2) = [] := by
          simp [pages, page, twins]
        rw [past]
        exact List.not_mem_nil
  refine ⟨twins_hold, matching_twins, pages, fun k => ?_, rfl, rfl, absent, fun once => ?_⟩
  · refine answers_twins ?_
    split
    · exact twins.reverse_perm
    · exact .refl twins
  · obtain ⟨j, there, -⟩ := once (newYearType 2) (by simp [twins])
    obtain ⟨k, -, member⟩ := List.mem_flatMap.1 (List.mem_of_getElem? there)
    exact absent k member

end Table

end GeoRegistry.Store
