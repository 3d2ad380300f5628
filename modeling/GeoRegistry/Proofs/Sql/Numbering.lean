/-
# Proofs.Sql.Numbering -- the same conditions, numbered from elsewhere

A list, a count and a feature collection are written apart and number their slots from
different starts.  `renumbered` says what it is for one text to be another with every slot
`$k` renumbered to `$(k + m)`; it looks at the text alone, where a slot is a dollar sign
with all the digits behind it, so `$9` may become `$10` and `$10` is never `$1` with a
zero behind it.  `renumbered_render` ties it to the pieces a fragment consists of, provided
that no text among them holds a dollar sign or begins with a digit.

The conditions of the filters are such a fragment and are numbered in a row
(`conditions_add`); hence the three queries have one condition (`queries_agree`).
-/
import GeoRegistry.Proofs.Sql.Queries
import GeoRegistry.Proofs.Text.Split

namespace GeoRegistry.Sql

set_option autoImplicit false

open Text (Stops)

/-! ## Renumbering a text -/

/-- A piece of text with the number that it begins with, if any, `m` higher. -/
def raised (m : Nat) (piece : List Char) : List Char :=
  let digits := piece.takeWhile Char.isDigit
  if digits.isEmpty then piece
  else Nat.toDigits 10 (Nat.ofDigitChars 10 digits 0 + m) ++ piece.dropWhile Char.isDigit

/-- The characters of a text that is given by its pieces between dollar signs, with every
slot renumbered. -/
def raisedPieces (m : Nat) : List (List Char) → List Char
  | [] => []
  | first :: rest => first ++ rest.flatMap fun piece => '$' :: raised m piece

/-- **A text with every slot `$k` renumbered to `$(k + m)`.** -/
def renumbered (m : Nat) (s : String) : String :=
  String.ofList (raisedPieces m (Text.split '$' s.toList))

@[simp] theorem renumbered_empty (m : Nat) : renumbered m "" = "" := by
  simp [renumbered, Text.split, raisedPieces]

/-- A number that a piece begins with is raised, and what follows it is kept. -/
theorem raised_number (m n : Nat) {rest : List Char} (stops : Stops Char.isDigit rest) :
    raised m (Nat.toDigits 10 n ++ rest) = Nat.toDigits 10 (n + m) ++ rest := by
  have digits : ∀ c ∈ Nat.toDigits 10 n, c.isDigit = true := fun c member =>
    Nat.isDigit_of_mem_toDigits (by decide) (by decide) member
  simp [raised, Text.takeWhile_run digits stops, Text.dropWhile_run digits stops]

/-- A text without dollar signs is left alone. -/
theorem renumbered_text {a : String} (free : '$' ∉ a.toList) (m : Nat) (s : String) :
    renumbered m (a ++ s) = a ++ renumbered m s := by
  obtain ⟨rest, taken⟩ := Text.split_eq_cons '$' s.toList
  rw [renumbered, String.toList_append, Text.split_append free taken, renumbered, taken]
  simp [raisedPieces]

/-- A slot is renumbered, where its digits end. -/
theorem renumbered_slot {s : String} (stops : Stops Char.isDigit s.toList) (m n : Nat) :
    renumbered m ("$" ++ toString n ++ s) = "$" ++ toString (n + m) ++ renumbered m s := by
  obtain ⟨rest, taken⟩ := Text.split_eq_cons '$' s.toList
  have free : '$' ∉ Nat.toDigits 10 n := fun member =>
    absurd (Nat.isDigit_of_mem_toDigits (by decide) (by decide) member) (by decide)
  have spelled : ("$" ++ toString n ++ s).toList = '$' :: (Nat.toDigits 10 n ++ s.toList) := by
    simp [String.toList_append]
  -- the piece behind the slot begins as the text behind it does
  have apart : Stops Char.isDigit (s.toList.takeWhile (· != '$')) := by
    cases chars : s.toList with
    | nil => simp
    | cons c cs =>
        rw [chars, Text.stops_cons] at stops
        by_cases dollar : c = '$' <;> simp [dollar, stops]
  rw [renumbered, spelled, Text.split_sep_cons, Text.split_append free taken, renumbered, taken]
  simp [raisedPieces, raised_number m n apart, Nat.repr_eq_ofList_toDigits, String.append_assoc]

/-! ## Renumbering a fragment -/

/-- A piece that is told apart from a slot beside it. -/
def Piece.Apart : Piece → Prop
  | .text s => '$' ∉ s.toList ∧ s ≠ "" ∧ Stops Char.isDigit s.toList
  | .slot _ => True

/-- A fragment whose slots are seen in its text. -/
def Fragment.Apart (f : Fragment) : Prop :=
  ∀ p ∈ f, p.Apart

theorem Fragment.Apart.stops_render {f : Fragment} (apart : f.Apart) :
    Stops Char.isDigit f.render.toList := by
  cases f with
  | nil => simp
  | cons p rest =>
      have first := apart p (.head _)
      cases p with
      | slot n => simp [render_slot_cons, String.toList_append]
      | text s =>
          obtain ⟨-, some_, stops⟩ := first
          rw [render_text_cons, String.toList_append]
          cases chars : s.toList with
          | nil => exact absurd (String.toList_eq_nil_iff.1 chars) some_
          | cons c cs => simpa [chars] using stops

/-- A piece that is told apart from a slot beside it, and is no slot of a negative number. -/
def Piece.Plain : Piece → Prop
  | .text s => '$' ∉ s.toList ∧ s ≠ "" ∧ Stops Char.isDigit s.toList
  | .slot n => 0 ≤ n

/-- A fragment whose slots are seen in its text and can be renumbered there. -/
def Fragment.Plain (f : Fragment) : Prop :=
  ∀ p ∈ f, p.Plain

theorem Fragment.Plain.apart {f : Fragment} (plain : f.Plain) : f.Apart := by
  intro p member
  cases p with
  | text s => exact plain _ member
  | slot n => trivial

/-- **Renumbering the text of a fragment renumbers its slots.** -/
theorem renumbered_render {f : Fragment} (plain : f.Plain) (m : Nat) :
    renumbered m f.render = (f.shift m).render := by
  induction f with
  | nil => simp [Fragment.shift]
  | cons p rest ih =>
      have behind : Fragment.Plain rest := fun q member => plain q (.tail _ member)
      have first := plain p (.head _)
      have shifted : Fragment.shift m (p :: rest) = p.shift m :: Fragment.shift m rest := rfl
      cases p with
      | text s =>
          rw [render_text_cons, renumbered_text first.1, ih behind, shifted]
          exact (render_text_cons ..).symm
      | slot n =>
          obtain ⟨k, rfl⟩ := Int.eq_ofNat_of_zero_le first
          rw [render_slot_cons, shifted]
          exact (renumbered_slot behind.apart.stops_render m k).trans (by
            rw [ih behind, Piece.shift, render_slot_cons]
            rfl)

/-! ## The conditions of the filters -/

/-- A condition with its slot numbered higher. -/
def Condition.raise (m : Nat) : Condition → Condition
  | .filter column nullable slot => .filter column nullable (slot + m)
  | .keywords column config slot => .keywords column config (slot + m)

theorem Condition.fragment_raise (m : Nat) (c : Condition) :
    (c.raise m).fragment = c.fragment.shift m := by
  cases c <;> rfl

theorem columnConditions_add (d : Descriptor) (f : Filters) (first : Int) (m : Nat)
    (columns : List (String × String)) :
    columnConditions d f (first + m) columns =
      (columnConditions d f first columns).map fun p => (p.1.raise m, p.2) := by
  induction columns generalizing first with
  | nil => rfl
  | cons head rest ih =>
      obtain ⟨name, column⟩ := head
      cases known : f.lookup name with
      | none => simp only [columnConditions, known, ih]
      | some o =>
          have next : first + m + 1 = first + 1 + m := by omega
          simp only [columnConditions, known, next, ih, List.map_cons, Condition.raise]

/-- **Conditions numbered from elsewhere** are the same conditions, each with its slot as
much higher, and have the same arguments. -/
theorem conditions_add (d : Descriptor) (f : Filters) (first : Int) (m : Nat) :
    conditions d f (first + m) = (conditions d f first).map fun p => (p.1.raise m, p.2) := by
  simp only [conditions, columnConditions_add]
  by_cases words : f.keywords.present = true
  · have last (n : Nat) : first + m + n = first + n + m := by omega
    simp [words, Condition.raise, last]
  · simp [words]

theorem predicates_add (d : Descriptor) (f : Filters) (first : Int) (m : Nat) :
    (predicates d f (first + m)).args = (predicates d f first).args ∧
      (predicates d f (first + m)).sql = (predicates d f first).sql.shift m := by
  simp only [predicates, conditions_add]
  constructor
  · simp
  · simp [Fragment.shift, List.flatMap_map, List.map_flatMap, Condition.fragment_raise]

/-- The texts that a descriptor consists of. -/
def Descriptor.texts (d : Descriptor) : List String :=
  [d.name, d.table, d.listColumns, d.getColumns, d.baseCondition] ++
    d.filterColumns.flatMap (fun c => [c.1, c.2]) ++ d.nullableColumns ++
    [d.orderBy, d.idColumn, d.ownerColumn, d.textSearchColumn, d.textSearchConfig] ++
    d.geometryColumn.toList ++ d.geojsonProperties.toList

/-- No text of a descriptor could be taken for a slot. -/
def Descriptor.HasNoSlots (d : Descriptor) : Prop :=
  ∀ s ∈ d.texts, '$' ∉ s.toList

/-- A condition is about a filtered column, or about the words to search in. -/
theorem conditions_about {d : Descriptor} {f : Filters} {first : Int} {c : Condition} {v : Cell}
    (member : (c, v) ∈ conditions d f first) :
    (∃ name column nullable slot, (name, column) ∈ d.filterColumns ∧
        c = .filter column nullable slot) ∨
      ∃ slot, c = .keywords d.textSearchColumn d.textSearchConfig slot := by
  have listed (low : (c, v) ∈ columnConditions d f first d.filterColumns) :
      ∃ name column nullable slot, (name, column) ∈ d.filterColumns ∧
        c = .filter column nullable slot := by
    obtain ⟨name, column, o, slot, there, -, made, -⟩ := mem_columnConditions low
    exact ⟨name, column, _, slot, there, made⟩
  rw [conditions] at member
  by_cases words : f.keywords.present = true
  · simp only [words, if_true, List.mem_append, List.mem_singleton] at member
    rcases member with low | last
    · exact .inl (listed low)
    · cases last
      exact .inr ⟨_, rfl⟩
  · simp only [words] at member
    exact .inl (listed member)

/-- The slots of the conditions are seen in their text. -/
theorem predicates_apart {d : Descriptor} (clean : d.HasNoSlots) (f : Filters) (first : Int) :
    (predicates d f first).sql.Apart := by
  intro p member
  obtain ⟨⟨c, v⟩, there, inside⟩ := List.mem_flatMap.1 member
  rcases conditions_about there with ⟨name, column, nullable, slot, listed, rfl⟩ | ⟨slot, rfl⟩
  · have free : '$' ∉ column.toList := clean _ (by
      simp only [Descriptor.texts, List.mem_append, List.mem_flatMap]
      exact .inl (.inl (.inl (.inl (.inr ⟨_, listed, by simp⟩)))))
    simp only [Condition.fragment, List.mem_cons, List.not_mem_nil, or_false] at inside
    rcases inside with rfl | rfl | rfl
    · cases nullable <;> simp [Piece.Apart, String.toList_append, free]
    · trivial
    · simp [Piece.Apart, String.toList_append, free]
  · have column : '$' ∉ d.textSearchColumn.toList := clean _ (by simp [Descriptor.texts])
    have config : '$' ∉ d.textSearchConfig.toList := clean _ (by simp [Descriptor.texts])
    simp only [Condition.fragment, List.mem_cons, List.not_mem_nil, or_false] at inside
    rcases inside with rfl | rfl | rfl
    · simp [Piece.Apart, String.toList_append, column, config]
    · trivial
    · simp [Piece.Apart]

/-- Numbered from no negative number, they can be renumbered there. -/
theorem predicates_plain {d : Descriptor} (clean : d.HasNoSlots) (f : Filters) (first : Nat) :
    (predicates d f first).sql.Plain := by
  intro p member
  cases p with
  | text s => exact predicates_apart clean f first _ member
  | slot n =>
      obtain ⟨⟨c, v⟩, there, inside⟩ := List.mem_flatMap.1 member
      obtain ⟨index, found⟩ := List.getElem?_of_mem there
      have own : n = c.slot := by
        cases c <;> simpa [Condition.fragment, Condition.slot] using inside
      have numbered := conditions_numbered found
      change 0 ≤ n
      omega

/-! ## The tables of the registry -/

theorem not_mem_intercalate {c : Char} {separator : String} (outside : c ∉ separator.toList)
    {texts : List String} (free : ∀ s ∈ texts, c ∉ s.toList) :
    c ∉ (separator.intercalate texts).toList := by
  induction texts with
  | nil => simp
  | cons s rest ih =>
      have first := free s (.head _)
      have others := ih fun t member => free t (.tail _ member)
      by_cases last : rest = []
      · simpa [last] using first
      · rw [String.intercalate_cons_of_ne_nil last]
        simp only [String.toList_append, List.mem_append, not_or]
        exact ⟨⟨first, outside⟩, others⟩

/-- Columns below one another hold no dollar sign when none of them does. -/
theorem listing_clean {indent : String} (blank : '$' ∉ indent.toList) {columns : List Column}
    (free : ∀ column ∈ columns, '$' ∉ column.text.toList) :
    '$' ∉ (Column.listing indent columns).toList := by
  refine not_mem_intercalate (by simp [blank]) fun s member => ?_
  obtain ⟨column, listed, rfl⟩ := List.mem_map.1 member
  exact free column listed

/-- **The tables of the registry are described without dollar signs**, in a schema whose
name holds none. -/
theorem table_hasNoSlots (t : Store.Table) {schema : String} (free : '$' ∉ schema.toList) :
    (t.descriptor schema).HasNoSlots := by
  cases t with
  | things =>
      have lines : '$' ∉ (Column.listing "       " ThingTable.listColumns).toList :=
        listing_clean (by simp) (by simp [ThingTable.listColumns, Column.text])
      have full : '$' ∉ (Column.listing "       " ThingTable.getColumns).toList :=
        listing_clean (by simp) (by simp [ThingTable.getColumns, Column.text])
      have properties : '$' ∉ (ThingTable.geojsonProperties schema).toList :=
        listing_clean (by simp)
          (by simp [ThingTable.geojsonColumns, ThingTable.listColumns, Column.text, free])
      have table : '$' ∉ (ThingTable.table schema).toList := by simp [ThingTable.table, free]
      change (ThingTable.descriptor schema).HasNoSlots
      simp [Descriptor.HasNoSlots, Descriptor.texts, Descriptor.baseCondition,
        ThingTable.descriptor, ThingTable.geometryColumn, lines, full, properties, table]
  | types =>
      have lines : '$' ∉ (Column.listing "       " ThingTypeTable.listColumns).toList :=
        listing_clean (by simp) (by simp [ThingTypeTable.listColumns, Column.text])
      have full : '$' ∉ (Column.listing "       " ThingTypeTable.getColumns).toList :=
        listing_clean (by simp) (by simp [ThingTypeTable.getColumns, Column.text])
      have table : '$' ∉ (ThingTypeTable.table schema).toList := by
        simp [ThingTypeTable.table, free]
      change (ThingTypeTable.descriptor schema).HasNoSlots
      simp [Descriptor.HasNoSlots, Descriptor.texts, Descriptor.baseCondition,
        ThingTypeTable.descriptor, lines, full, table]

/-! ## The three queries -/

/-- The order of the rows and the page, as they stand in a query. -/
def Descriptor.pageText (d : Descriptor) : String :=
  " ORDER BY " ++ d.orderBy ++ " LIMIT $1 OFFSET $2"

section Around

variable (d : Descriptor) (f : Filters) (offset limit : Cell)

/-- The text of a query around its condition. -/
theorem listQuery_around :
    (listQuery d f offset limit).sql.render =
      "SELECT " ++ d.listColumns ++ " FROM " ++ d.table ++ " WHERE " ++
        (whereClause d f 3).render ++ d.pageText ++ ";" := by
  simp only [listQuery, List.append_assoc, List.cons_append]
  rw [render_text_cons, render_append, render_pageClause, Descriptor.pageText]
  simp [render_text_cons, String.append_assoc]

theorem countQuery_around :
    (countQuery d f).sql.render =
      "SELECT COUNT(*) FROM " ++ d.table ++ " WHERE " ++ (whereClause d f 1).render ++ ";" := by
  simp only [countQuery, List.cons_append]
  rw [render_text_cons, render_append]
  simp [render_text_cons, String.append_assoc]

theorem featuresQuery_around (geometry properties : String) :
    (featuresQuery d geometry properties f offset limit).sql.render =
      featuresOpening d geometry properties ++ (whereClause d f 3).render ++ "\n            " ++
        d.pageText ++ ") AS f) AS fc;\n" := by
  simp only [featuresQuery, List.append_assoc, List.cons_append]
  rw [render_text_cons, render_append, render_text_cons, render_pageClause, Descriptor.pageText]
  unfold featuresOpening
  simp [render_text_cons, String.append_assoc]

end Around

/-- The whole condition of a query, renumbered. -/
theorem renumbered_whereClause {d : Descriptor} (clean : d.HasNoSlots) (f : Filters)
    (first m : Nat) :
    (whereClause d f (first + m : Nat)).render = renumbered m (whereClause d f first).render := by
  have base : '$' ∉ d.baseCondition.toList := clean _ (by simp [Descriptor.texts])
  rw [whereClause, whereClause, render_text_cons, render_text_cons, renumbered_text base,
    renumbered_render (predicates_plain clean f first), Int.natCast_add,
    (predicates_add d f first m).2]

/-- **A list, a count and a feature collection have one condition.**  Numbered from
elsewhere, the conditions of the filters have the same arguments and the same text with
every slot renumbered.  So the condition of a list is that of the count with its slots two
higher, because the size and the start of the page are bound before the arguments of the
count; and a feature collection has the condition, the page and the arguments of the list. -/
theorem queries_agree (d : Descriptor) (clean : d.HasNoSlots) (f : Filters) :
    (∀ i m : Nat,
      (predicates d f (i + m : Nat)).args = (predicates d f i).args ∧
      (predicates d f (i + m : Nat)).sql.render = renumbered m (predicates d f i).sql.render) ∧
    (countQuery d f).sql.render =
      "SELECT COUNT(*) FROM " ++ d.table ++ " WHERE " ++ (whereClause d f 1).render ++ ";" ∧
    ∀ offset limit : Cell,
      (listQuery d f offset limit).sql.render =
        "SELECT " ++ d.listColumns ++ " FROM " ++ d.table ++ " WHERE " ++
          renumbered 2 (whereClause d f 1).render ++ d.pageText ++ ";" ∧
      (listQuery d f offset limit).args = limit :: offset :: (countQuery d f).args ∧
      ∀ geometry properties, d.geometryColumn = some geometry →
        d.geojsonProperties = some properties →
        ∃ q, geojsonQuery d f offset limit = .ok q ∧
          q.sql.render = featuresOpening d geometry properties ++
            renumbered 2 (whereClause d f 1).render ++ "\n            " ++ d.pageText ++
              ") AS f) AS fc;\n" ∧
          q.args = (listQuery d f offset limit).args := by
  have condition : (whereClause d f 3).render = renumbered 2 (whereClause d f 1).render :=
    renumbered_whereClause clean f 1 2
  have args : (predicates d f 3).args = (predicates d f 1).args := (predicates_add d f 1 2).1
  refine ⟨fun i m => ?_, countQuery_around d f, fun offset limit => ⟨?_, ?_, ?_⟩⟩
  · rw [Int.natCast_add, (predicates_add d f i m).1, (predicates_add d f i m).2,
      renumbered_render (predicates_plain clean f i)]
    exact ⟨rfl, rfl⟩
  · rw [listQuery_around, condition]
  · simp only [listQuery, countQuery, args]
  · intro geometry properties located described
    refine ⟨featuresQuery d geometry properties f offset limit, ?_, ?_, rfl⟩
    · simp only [geojsonQuery, located, described]
    · rw [featuresQuery_around, condition]

/-- The filters of a list of types, numbered from nine and from ten: the number of the
first slot gains a digit. -/
theorem types_numbered_past_nine :
    (ThingTypeTable.descriptor "public").HasNoSlots ∧
      (predicates (ThingTypeTable.descriptor "public")
        (Filters.declare ThingTypeTable.listFilters []) (9 + 1 : Nat)).sql.render =
          renumbered 1 (predicates (ThingTypeTable.descriptor "public")
            (Filters.declare ThingTypeTable.listFilters []) (9 : Nat)).sql.render ∧
      (predicates (ThingTypeTable.descriptor "public")
        (Filters.declare ThingTypeTable.listFilters []) (9 + 1 : Nat)).sql.render =
          " AND _created_by = COALESCE($10, _created_by)" ++
            " AND external_id IS NOT DISTINCT FROM COALESCE($11, external_id)" ++
            " AND inactivated = COALESCE($12, inactivated)" := by
  have clean : (ThingTypeTable.descriptor "public").HasNoSlots :=
    table_hasNoSlots .types (by simp)
  have agree := queries_agree _ clean (Filters.declare ThingTypeTable.listFilters [])
  exact ⟨clean, (agree.1 9 1).2, by decide +kernel⟩

end GeoRegistry.Sql
