/-
# Proofs.Sql.Placeholders -- the placeholders of a text and the arguments beside it

A placeholder is a dollar sign with the number behind it, and `placeholders` reads them off
the text alone, from left to right.  Where texts and slots are told apart, what it reads are
the slots of the fragment (`placeholders_render`), so that counting slots is enough.

The conditions of the filters have one slot for each argument, numbered in a row
(`slots_predicates_eq_range`).  A write has a slot for each of its bindings, and mentions some
of them again in the words it searches for (`mem_slots_expressions`).
-/
import GeoRegistry.Proofs.Sql.Numbering
import GeoRegistry.Proofs.Sql.Rows
import GeoRegistry.Proofs.Text.Numeral

namespace GeoRegistry.Sql

set_option autoImplicit false

open Text (Stops)

/-! ## Reading a text -/

/-- The number that the digits at the front of a piece of text make, if there are any. -/
def leadingNatural? (piece : List Char) : Option Nat :=
  let digits := piece.takeWhile Char.isDigit
  if digits.isEmpty then none else some (Nat.ofDigitChars 10 digits 0)

/-- The number that a piece of text begins with, behind a minus or without one. -/
def leadingNumber? : List Char → Option Int
  | '-' :: rest => (leadingNatural? rest).map fun n : Nat => -(n : Int)
  | piece => (leadingNatural? piece).map fun n : Nat => (n : Int)

/-- **The placeholders of a text, from left to right**: each dollar sign with a number behind
it, of which all the digits there are belong to it. -/
def placeholders (s : String) : List Int :=
  (Text.split '$' s.toList).tail.filterMap leadingNumber?

theorem leadingNatural?_toDigits (n : Nat) {rest : List Char} (stops : Stops Char.isDigit rest) :
    leadingNatural? (Nat.toDigits 10 n ++ rest) = some n := by
  have digits : ∀ c ∈ Nat.toDigits 10 n, c.isDigit = true := fun c => Text.isDigit_of_written
  rw [leadingNatural?, Text.takeWhile_run digits stops, Nat.ofDigitChars_ten_toDigits]
  simp

theorem leadingNumber?_toString (n : Int) {rest : List Char} (stops : Stops Char.isDigit rest) :
    leadingNumber? ((toString n).toList ++ rest) = some n := by
  rw [Text.toList_toString]
  by_cases negative : n < 0
  · rw [if_pos negative, List.cons_append, leadingNumber?, leadingNatural?_toDigits _ stops]
    simp only [Option.map_some, Option.some.injEq]
    omega
  · rw [if_neg negative]
    obtain ⟨c, cs, written⟩ :=
      List.exists_cons_of_ne_nil (Nat.toDigits_ne_nil (b := 10) (n := n.natAbs))
    have unsigned : c ≠ '-' := by
      rintro rfl
      have digit := Text.isDigit_of_written (n := n.natAbs) (c := '-') (by simp [written])
      exact absurd digit (by decide)
    have read := leadingNatural?_toDigits n.natAbs stops
    rw [written, List.cons_append] at read ⊢
    rw [leadingNumber?.eq_2 _ fun rest same => unsigned (List.cons.inj same).1, read]
    simp only [Option.map_some, Option.some.injEq]
    omega

/-- No dollar sign is written with a number. -/
theorem dollar_not_mem_toString (n : Int) : '$' ∉ (toString n).toList := by
  have digits {m : Nat} : '$' ∉ Nat.toDigits 10 m := fun member =>
    absurd (Text.isDigit_of_written member) (by decide)
  rw [Text.toList_toString]
  split
  · simp [digits]
  · exact digits

/-- A text without dollar signs has no placeholder. -/
theorem placeholders_text {a : String} (free : '$' ∉ a.toList) (s : String) :
    placeholders (a ++ s) = placeholders s := by
  obtain ⟨rest, taken⟩ := Text.split_eq_cons '$' s.toList
  rw [placeholders, String.toList_append, Text.split_append free taken, placeholders, taken,
    List.tail_cons, List.tail_cons]

/-- A slot is read where its digits end. -/
theorem placeholders_slot (n : Int) {s : String} (stops : Stops Char.isDigit s.toList) :
    placeholders ("$" ++ toString n ++ s) = n :: placeholders s := by
  obtain ⟨rest, taken⟩ := Text.split_eq_cons '$' s.toList
  have apart : Stops Char.isDigit (s.toList.takeWhile (· != '$')) := by
    intro c first
    cases chars : s.toList with
    | nil => simp [chars] at first
    | cons c' cs =>
        rw [chars] at first stops
        by_cases dollar : c' = '$'
        · simp [dollar] at first
        · obtain rfl : c' = c := by simpa [dollar] using first
          exact Text.stops_cons.1 stops
  have spelled : ("$" ++ toString n ++ s).toList = '$' :: ((toString n).toList ++ s.toList) := by
    simp [String.toList_append]
  rw [placeholders, spelled, Text.split_sep_cons,
    Text.split_append (dollar_not_mem_toString n) taken, List.tail_cons, List.filterMap_cons,
    leadingNumber?_toString n apart, placeholders, taken, List.tail_cons]

/-! ## The slots of a fragment -/

section Slots

variable {f g : Fragment}

@[simp] theorem slots_nil : Fragment.slots [] = [] := rfl

@[simp] theorem slots_text_cons (s : String) (f : Fragment) :
    Fragment.slots (.text s :: f) = Fragment.slots f := rfl

@[simp] theorem slots_slot_cons (n : Int) (f : Fragment) :
    Fragment.slots (.slot n :: f) = n :: Fragment.slots f := rfl

@[simp] theorem slots_append (f g : Fragment) :
    Fragment.slots (f ++ g) = Fragment.slots f ++ Fragment.slots g :=
  List.filterMap_append ..

theorem slots_joined (separator : String) (fs : List Fragment) :
    Fragment.slots (Fragment.joined separator fs) = fs.flatMap Fragment.slots := by
  induction fs with
  | nil => rfl
  | cons f rest ih =>
      cases rest with
      | nil => simp [Fragment.joined]
      | cons g rest =>
          rw [Fragment.joined, slots_append, slots_text_cons, ih, List.flatMap_cons]
          · simp
          · simp

theorem inLines_flatten {α : Type} (sizes : List Nat) (items : List α) :
    (inLines sizes items).flatten = items := by
  induction sizes generalizing items with
  | nil => cases items <;> simp [inLines]
  | cons n sizes ih => rw [inLines, List.flatten_cons, ih, List.take_append_drop]

/-- Laying fragments out keeps their slots and their order. -/
theorem slots_laidOut (sizes : List Nat) (indent : String) (items : List Fragment) :
    Fragment.slots (laidOut sizes indent items) = items.flatMap Fragment.slots := by
  have lines (ls : List (List Fragment)) :
      (ls.map (Fragment.joined ", ")).flatMap Fragment.slots =
        ls.flatten.flatMap Fragment.slots := by
    induction ls with
    | nil => rfl
    | cons l ls ih =>
        rw [List.map_cons, List.flatMap_cons, slots_joined, ih, List.flatten_cons,
          List.flatMap_append]
  rw [laidOut, slots_joined, lines, inLines_flatten]

theorem apart_nil : Fragment.Apart [] := by simp [Fragment.Apart]

theorem apart_cons {p : Piece} : Fragment.Apart (p :: f) ↔ p.Apart ∧ f.Apart :=
  List.forall_mem_cons

theorem apart_append : Fragment.Apart (f ++ g) ↔ f.Apart ∧ g.Apart :=
  List.forall_mem_append

/-- A text is told apart from slots whatever is appended to it. -/
theorem apart_text_append {s : String} (apart : (Piece.text s).Apart) {t : String}
    (free : '$' ∉ t.toList) : (Piece.text (s ++ t)).Apart := by
  obtain ⟨clean, some_, stops⟩ := apart
  have first : s.toList ≠ [] := by simpa using some_
  refine ⟨by simp [clean, free], ?_, ?_⟩
  · intro empty
    have chars : s.toList ++ t.toList = [] := by rw [← String.toList_append, empty]; rfl
    exact first (List.append_eq_nil_iff.1 chars).1
  · intro c head
    obtain ⟨c', cs, chars⟩ := List.exists_cons_of_ne_nil first
    rw [String.toList_append, chars] at head
    exact stops c (by simpa [chars] using head)

theorem apart_joined {separator : String} (between : (Piece.text separator).Apart)
    {fs : List Fragment} (all : ∀ f ∈ fs, f.Apart) : (Fragment.joined separator fs).Apart := by
  induction fs with
  | nil => exact apart_nil
  | cons f rest ih =>
      have others := ih fun g member => all g (.tail _ member)
      have first := all f (.head _)
      cases rest with
      | nil => exact first
      | cons g rest =>
          rw [Fragment.joined]
          · exact apart_append.2 ⟨first, apart_cons.2 ⟨between, others⟩⟩
          · simp

theorem apart_laidOut {sizes : List Nat} {indent : String} (blank : '$' ∉ indent.toList)
    {items : List Fragment} (all : ∀ f ∈ items, f.Apart) : (laidOut sizes indent items).Apart := by
  have comma : (Piece.text ", ").Apart := by simp [Piece.Apart]
  have break_ : (Piece.text (",\n" ++ indent)).Apart :=
    apart_text_append (by simp [Piece.Apart]) blank
  refine apart_joined break_ fun line member => ?_
  obtain ⟨part, listed, rfl⟩ := List.mem_map.1 member
  refine apart_joined comma fun f inside => all f ?_
  rw [← inLines_flatten sizes items]
  exact List.mem_flatten.2 ⟨part, listed, inside⟩

/-- **The placeholders of a text are the slots of its fragment.** -/
theorem placeholders_render (apart : f.Apart) : placeholders f.render = f.slots := by
  induction f with
  | nil => rfl
  | cons p rest ih =>
      obtain ⟨first, behind⟩ := apart_cons.1 apart
      cases p with
      | text s => rw [render_text_cons, placeholders_text first.1, ih behind, slots_text_cons]
      | slot n =>
          rw [render_slot_cons, placeholders_slot n behind.stops_render, ih behind,
            slots_slot_cons]

end Slots

/-! ## The conditions of the filters -/

/-- The filters that are known, of those on columns and in their order, each with its column. -/
def exposed (columns : List (String × String)) (f : Filters) : List (String × Opt) :=
  columns.filterMap fun c => (f.lookup c.1).map fun o => (c.2, o)

/-- What the filter on a column says. -/
def comparisonText (d : Descriptor) (column : String) (slot : Int) : String :=
  " AND " ++ column ++
    (if d.nullableColumns.contains column then " IS NOT DISTINCT FROM " else " = ") ++
    "COALESCE($" ++ toString slot ++ ", " ++ column ++ ")"

/-- What keywords say. -/
def searchText (d : Descriptor) (slot : Int) : String :=
  " AND " ++ d.textSearchColumn ++ " @@ plainto_tsquery('" ++ d.textSearchConfig ++
    "', unaccent($" ++ toString slot ++ "))"

section Conditions

variable (d : Descriptor) (f : Filters) (first : Int)

/-- Filters that are not known leave no gap in the numbers. -/
theorem columnConditions_eq (columns : List (String × String)) :
    columnConditions d f first columns =
      (exposed columns f).mapIdx fun j e =>
        (.filter e.1 (d.nullableColumns.contains e.1) (first + j), e.2.toParam) := by
  induction columns generalizing first with
  | nil => rfl
  | cons head rest ih =>
      obtain ⟨name, column⟩ := head
      cases known : f.lookup name with
      | none =>
          have skipped : exposed ((name, column) :: rest) f = exposed rest f := by
            simp [exposed, known]
          simp only [columnConditions, known]
          rw [ih, skipped]
      | some o =>
          have taken : exposed ((name, column) :: rest) f = (column, o) :: exposed rest f := by
            simp [exposed, known]
          have next (j : Nat) : first + 1 + j = first + (j + 1 : Nat) := by omega
          simp only [columnConditions, known]
          rw [ih, taken, List.mapIdx_cons]
          simp [next]

theorem slots_predicates :
    (predicates d f first).sql.slots = (conditions d f first).map (·.1.slot) := by
  have one (c : Condition) : c.fragment.slots = [c.slot] := by cases c <;> rfl
  have all (cs : List (Condition × Cell)) :
      Fragment.slots (cs.flatMap (·.1.fragment)) = cs.map (·.1.slot) := by
    induction cs with
    | nil => rfl
    | cons c rest ih => rw [List.flatMap_cons, slots_append, one, ih]; rfl
  exact all _

/-- The slots of the conditions are numbered in a row, one for each argument. -/
theorem slots_predicates_eq_range :
    (predicates d f first).sql.slots =
      (List.range (predicates d f first).args.length).map fun j : Nat => first + j := by
  rw [slots_predicates]
  refine List.ext_getElem? fun j => ?_
  rw [List.getElem?_map, List.getElem?_map, predicates, List.length_map]
  cases there : (conditions d f first)[j]? with
  | none =>
      have beyond := List.getElem?_eq_none_iff.1 there
      rw [List.getElem?_eq_none (by simpa using beyond)]
      rfl
  | some p =>
      have low : j < (conditions d f first).length := (List.getElem?_eq_some_iff.1 there).1
      rw [List.getElem?_range low, Option.map_some, Option.map_some, conditions_numbered there]

/-- The numbers in a row from one of them on. -/
theorem mem_row {n : Nat} {k : Int} :
    k ∈ (List.range n).map (fun j : Nat => first + j) ↔ first ≤ k ∧ k < first + n := by
  rw [List.mem_map]
  constructor
  · rintro ⟨j, low, rfl⟩
    have := List.mem_range.1 low
    omega
  · rintro ⟨low, high⟩
    exact ⟨(k - first).toNat, List.mem_range.2 (by omega), by omega⟩

theorem mem_slots_predicates {k : Int} :
    k ∈ (predicates d f first).sql.slots ↔
      first ≤ k ∧ k < first + (predicates d f first).args.length := by
  rw [slots_predicates_eq_range, mem_row]

/-- The text of the conditions, one predicate after another. -/
theorem render_predicates :
    (predicates d f first).sql.render =
      String.join ((exposed d.filterColumns f).mapIdx fun j e =>
        comparisonText d e.1 (first + j)) ++
      if f.keywords.present then searchText d (first + (exposed d.filterColumns f).length)
      else "" := by
  have one (c : Condition × Cell) (rest : List (Condition × Cell)) :
      Fragment.render ((c :: rest).flatMap (·.1.fragment)) =
        c.1.fragment.render ++ Fragment.render (rest.flatMap (·.1.fragment)) := by
    rw [List.flatMap_cons, render_append]
  have columns (es : List (String × Opt)) (start : Int) (more : List (Condition × Cell)) :
      Fragment.render (((es.mapIdx fun j e =>
          (Condition.filter e.1 (d.nullableColumns.contains e.1) (start + j),
            e.2.toParam)) ++ more).flatMap (·.1.fragment)) =
        String.join (es.mapIdx fun j e => comparisonText d e.1 (start + j)) ++
          Fragment.render (more.flatMap (·.1.fragment)) := by
    induction es generalizing start with
    | nil => simp
    | cons e es ih =>
        have next (j : Nat) : start + (j + 1 : Nat) = start + 1 + j := by omega
        rw [List.mapIdx_cons, List.cons_append, one]
        simp only [next]
        rw [ih, List.mapIdx_cons, String.join_cons]
        simp only [next]
        simp [Condition.fragment, comparisonText, render_text_cons, render_slot_cons,
          ← String.toList_inj]
  rw [predicates, conditions, columnConditions_eq]
  by_cases words : f.keywords.present = true
  · simp only [words, if_true]
    rw [columns]
    simp [Condition.fragment, searchText, render_text_cons, render_slot_cons,
      ← String.toList_inj]
  · have plain := columns (exposed d.filterColumns f) first []
    simp only [List.append_nil] at plain
    simp only [words]
    simpa using plain

theorem args_predicates :
    (predicates d f first).args =
      (exposed d.filterColumns f).map (·.2.toParam) ++
        if f.keywords.present then [f.keywords.value] else [] := by
  have columns : (columnConditions d f first d.filterColumns).map Prod.snd =
      (exposed d.filterColumns f).map (·.2.toParam) := by
    rw [columnConditions_eq]
    refine List.ext_getElem? fun j => ?_
    rw [List.getElem?_map, List.getElem?_mapIdx, List.getElem?_map, Option.map_map]
    rfl
  rw [predicates, conditions]
  by_cases words : f.keywords.present = true
  · simp only [words, if_true, List.map_append, columns]
    rfl
  · simpa [words] using columns

end Conditions

/-! ## Queries -/

/-- A query whose slots are seen in its text and are the numbers of its arguments. -/
def Query.Numbered (q : Query) : Prop :=
  q.sql.Apart ∧ ∀ k : Int, k ∈ q.sql.slots ↔ 1 ≤ k ∧ k ≤ q.args.length

/-- A query with one slot for each argument, in whatever order they stand. -/
theorem Query.Numbered.of_slots {q : Query} (apart : q.sql.Apart)
    (slots : q.sql.slots.Perm ((List.range q.args.length).map fun j : Nat => 1 + (j : Int))) :
    q.Numbered := by
  refine ⟨apart, fun k => ?_⟩
  rw [slots.mem_iff, mem_row]
  omega

section Queries

variable {d : Descriptor} (clean : d.HasNoSlots)

include clean

/-- The texts of a descriptor that stand in its queries. -/
theorem Descriptor.HasNoSlots.texts :
    '$' ∉ d.table.toList ∧ '$' ∉ d.listColumns.toList ∧ '$' ∉ d.getColumns.toList ∧
      '$' ∉ d.orderBy.toList ∧ '$' ∉ d.idColumn.toList ∧ '$' ∉ d.ownerColumn.toList := by
  refine ⟨clean _ ?_, clean _ ?_, clean _ ?_, clean _ ?_, clean _ ?_, clean _ ?_⟩ <;>
    simp [Descriptor.texts]

theorem apart_pageClause : (pageClause d).Apart := by
  obtain ⟨-, -, -, order, -, -⟩ := clean.texts
  simp [pageClause, Fragment.Apart, Piece.Apart, order]

theorem getQuery_numbered (id : Cell) : Query.Numbered ⟨getQuery d, [id]⟩ := by
  obtain ⟨table, -, columns, -, own, -⟩ := clean.texts
  refine .of_slots ?_ (.refl [1])
  simp [getQuery, Fragment.Apart, Piece.Apart, table, columns, own]

theorem existQuery_numbered (id : Cell) : Query.Numbered ⟨existQuery d, [id]⟩ := by
  obtain ⟨table, -, -, -, own, -⟩ := clean.texts
  refine .of_slots ?_ (.refl [1])
  simp [existQuery, Fragment.Apart, Piece.Apart, table, own]

theorem isOwnerQuery_numbered (id user : Cell) : Query.Numbered ⟨isOwnerQuery d, [id, user]⟩ := by
  obtain ⟨table, -, -, -, own, owner⟩ := clean.texts
  refine .of_slots ?_ (.refl [1, 2])
  simp [isOwnerQuery, Fragment.Apart, Piece.Apart, table, own, owner]

theorem softDeleteQuery_numbered (user id : Cell) :
    Query.Numbered ⟨softDeleteQuery d, [user, id]⟩ := by
  obtain ⟨table, -, -, -, own, -⟩ := clean.texts
  refine .of_slots ?_ (.refl [1, 2])
  simp [softDeleteQuery, Fragment.Apart, Piece.Apart, table, own]

theorem listByColumnQuery_numbered {column : String} (free : '$' ∉ column.toList)
    (value offset limit : Cell) :
    (listByColumnQuery d column value offset limit).Numbered := by
  obtain ⟨table, columns, -, -, -, -⟩ := clean.texts
  have base : '$' ∉ d.baseCondition.toList := clean _ (by simp [Descriptor.texts])
  refine .of_slots ?_ (show [3, 1, 2].Perm [1, 2, 3] by decide)
  rw [listByColumnQuery, List.cons_append, apart_cons, List.cons_append, apart_cons,
    apart_append, apart_cons]
  refine ⟨?_, trivial, apart_pageClause clean, ?_, apart_nil⟩
  · simp [Piece.Apart, table, columns, base, free]
  · simp [Piece.Apart]

variable (based : (Piece.text d.baseCondition).Apart) (f : Filters)

include based

/-- The condition of a query, and its slots. -/
theorem apart_whereClause (first : Int) : (whereClause d f first).Apart :=
  apart_cons.2 ⟨based, predicates_apart clean f first⟩

theorem countQuery_numbered : (countQuery d f).Numbered := by
  obtain ⟨table, -, -, -, -, -⟩ := clean.texts
  constructor
  · rw [countQuery, List.cons_append, apart_cons, apart_append, apart_cons]
    refine ⟨?_, apart_whereClause clean based f 1, ?_, apart_nil⟩
    · simp [Piece.Apart, table]
    · simp [Piece.Apart]
  · intro k
    simp only [countQuery, whereClause, List.cons_append, slots_text_cons, slots_append, slots_nil,
      List.append_nil, mem_slots_predicates]
    omega

/-- The filters of a page are numbered behind its size and its start. -/
theorem listQuery_numbered (offset limit : Cell) : (listQuery d f offset limit).Numbered := by
  obtain ⟨table, columns, -, -, -, -⟩ := clean.texts
  constructor
  · rw [listQuery, List.append_assoc, List.cons_append, apart_cons, apart_append, apart_append,
      apart_cons]
    refine ⟨?_, apart_whereClause clean based f 3, apart_pageClause clean, ?_, apart_nil⟩
    · simp [Piece.Apart, table, columns]
    · simp [Piece.Apart]
  · intro k
    simp only [listQuery, whereClause, pageClause, List.cons_append, List.nil_append,
      List.append_assoc, slots_text_cons, slots_append, slots_slot_cons, slots_nil,
      List.mem_append, mem_slots_predicates, List.mem_cons, List.not_mem_nil, or_false,
      List.length_cons]
    omega

theorem featuresQuery_numbered {geometry properties : String} (located : '$' ∉ geometry.toList)
    (described : '$' ∉ properties.toList) (offset limit : Cell) :
    (featuresQuery d geometry properties f offset limit).Numbered := by
  obtain ⟨table, -, -, -, -, -⟩ := clean.texts
  constructor
  · rw [featuresQuery, List.append_assoc, List.cons_append, List.cons_append, apart_cons,
      apart_append, apart_cons, apart_append, apart_cons]
    refine ⟨?_, apart_whereClause clean based f 3, ?_, apart_pageClause clean, ?_, apart_nil⟩
    · -- the text is long: it is taken apart at its seams
      repeat' apply apart_text_append
      case apart => simp [Piece.Apart]
      all_goals first | assumption | decide
    · simp [Piece.Apart]
    · simp [Piece.Apart]
  · intro k
    simp only [featuresQuery, whereClause, pageClause, List.cons_append, List.nil_append,
      List.append_assoc, slots_text_cons, slots_append, slots_slot_cons, slots_nil,
      List.mem_append, mem_slots_predicates, List.mem_cons, List.not_mem_nil, or_false,
      List.length_cons]
    omega

end Queries

/-! ## Writes -/

/-- The fields that a source mentions besides those it has slots of its own for. -/
def Source.mentions : Source → List String
  | .words name description comment => [name, description, comment]
  | _ => []

namespace Assignments

variable (a : Assignments)

/-- What is mentioned has a slot. -/
def Closed : Prop :=
  ∀ p ∈ a, ∀ name ∈ p.2.mentions, Binding.field name ∈ a.bindings

theorem length_arguments (user : Int) (content : Record) :
    (a.arguments user content).length = a.bindings.length :=
  List.length_map ..

theorem slotOf_bounds (first : Int) {name : String} (bound : Binding.field name ∈ a.bindings) :
    first ≤ a.slotOf first name ∧ a.slotOf first name < first + a.bindings.length := by
  have low : a.bindings.idxOf (.field name) < a.bindings.length := List.idxOf_lt_length_iff.2 bound
  rw [slotOf]
  omega

variable (first : Int)

/-- The slots of an expression: its own in a row, and those that it mentions. -/
theorem mem_slots_expression {slot k : Int} {source : Source} :
    k ∈ (a.expression first slot source).slots ↔
      (slot ≤ k ∧ k < slot + source.bindings.length) ∨
        ∃ name ∈ source.mentions, k = a.slotOf first name := by
  cases source with
  | field | user =>
      simp only [expression, Source.bindings, Source.mentions, slots_slot_cons, slots_nil,
        List.mem_singleton, List.length_singleton, List.not_mem_nil, false_and, exists_false,
        or_false]
      omega
  | now =>
      simp only [expression, Source.bindings, Source.mentions, slots_text_cons, slots_nil,
        List.not_mem_nil, List.length_nil, false_and, exists_false, or_false, false_iff]
      omega
  | point =>
      simp only [expression, Source.bindings, Source.mentions, slots_text_cons, slots_slot_cons,
        slots_nil, List.mem_cons, List.not_mem_nil, List.length_cons, List.length_nil, false_and,
        exists_false, or_false]
      omega
  | words =>
      simp only [expression, Source.bindings, Source.mentions, slots_text_cons, slots_slot_cons,
        slots_nil, List.mem_cons, List.not_mem_nil, List.length_nil, or_false, exists_eq_or_imp,
        exists_eq_left]
      constructor
      · exact .inr
      · rintro (row | mentioned)
        · omega
        · exact mentioned

/-- Expressions take their slots one after another. -/
theorem mem_slots_expressionsFrom {slot k : Int} {rest : Assignments} :
    k ∈ (a.expressionsFrom first slot rest).flatMap Fragment.slots ↔
      (slot ≤ k ∧ k < slot + rest.bindings.length) ∨
        ∃ p ∈ rest, ∃ name ∈ p.2.mentions, k = a.slotOf first name := by
  induction rest generalizing slot with
  | nil =>
      simp only [expressionsFrom, bindings, List.flatMap_nil, List.not_mem_nil, List.length_nil,
        false_and, exists_false, or_false, false_iff]
      omega
  | cons head rest ih =>
      obtain ⟨column, source⟩ := head
      have length : (bindings ((column, source) :: rest)).length =
          source.bindings.length + (bindings rest).length := by
        simp [bindings]
      rw [expressionsFrom, List.flatMap_cons, List.mem_append, mem_slots_expression, ih, length]
      simp only [List.mem_cons, exists_eq_or_imp]
      constructor
      · rintro ((row | mentioned) | (row | mentioned))
        · exact .inl (by omega)
        · exact .inr (.inl mentioned)
        · exact .inl (by omega)
        · exact .inr (.inr mentioned)
      · rintro (row | mentioned | mentioned)
        · by_cases own : k < slot + source.bindings.length
          · exact .inl (.inl ⟨row.1, own⟩)
          · exact .inr (.inl (by omega))
        · exact .inl (.inr mentioned)
        · exact .inr (.inr mentioned)

variable {a}

/-- **The slots of a write are those of its bindings**, each of them and no other. -/
theorem mem_slots_expressions (closed : a.Closed) {k : Int} :
    k ∈ (a.expressions first).flatMap Fragment.slots ↔
      first ≤ k ∧ k < first + a.bindings.length := by
  rw [expressions, mem_slots_expressionsFrom]
  constructor
  · rintro (row | ⟨p, listed, name, mentioned, rfl⟩)
    · exact row
    · exact a.slotOf_bounds first (closed p listed name mentioned)
  · exact .inl

theorem apart_expression (a : Assignments) (first slot : Int) (source : Source) :
    (a.expression first slot source).Apart := by
  have number (n : Int) : '$' ∉ (toString n).toList := dollar_not_mem_toString n
  cases source with
  | point x y srid =>
      intro p member
      simp only [expression, List.mem_cons, List.not_mem_nil, or_false] at member
      rcases member with rfl | rfl | rfl | rfl | rfl
      · simp [Piece.Apart]
      · trivial
      · simp [Piece.Apart]
      · trivial
      · have closing := apart_text_append (s := "), ") (by simp [Piece.Apart]) (number srid)
        exact apart_text_append closing (by simp)
  | field | user => simp [expression, Fragment.Apart, Piece.Apart]
  | now => simp [expression, Fragment.Apart, Piece.Apart]
  | words => simp [expression, Fragment.Apart, Piece.Apart]

theorem apart_expressions (a : Assignments) (first : Int) :
    ∀ f ∈ a.expressions first, f.Apart := by
  have all (slot : Int) (rest : Assignments) :
      ∀ f ∈ a.expressionsFrom first slot rest, f.Apart := by
    induction rest generalizing slot with
    | nil => simp [expressionsFrom]
    | cons head rest ih =>
        intro f member
        rcases List.mem_cons.1 member with rfl | later
        · exact apart_expression a first slot head.2
        · exact ih _ f later
  exact all first a

end Assignments

/-- The columns of a write are told apart from slots. -/
def Assignments.Named (a : Assignments) : Prop :=
  ∀ p ∈ a, (Piece.text p.1).Apart

/-- **An insert has a slot for each of its bindings.** -/
theorem insertion_numbered {w : Insertion} (table : '$' ∉ w.table.toList)
    (named : w.assignments.Named) (closed : w.assignments.Closed)
    (returning : ∀ column, w.returning = some column → '$' ∉ column.toList) (user : Int)
    (content : Record) :
    Query.Numbered ⟨w.sql, w.assignments.arguments user content⟩ := by
  have opening : (Piece.text ("\nINSERT INTO " ++ w.table ++ "\n(")).Apart := by
    simp [Piece.Apart, table]
  have columns : ∀ f ∈ w.assignments.map fun a => [Piece.text a.1], Fragment.Apart f := by
    intro f member
    obtain ⟨p, listed, rfl⟩ := List.mem_map.1 member
    exact apart_cons.2 ⟨named p listed, apart_nil⟩
  constructor
  · rw [Insertion.sql, List.append_assoc, List.cons_append, apart_cons, apart_append,
      List.cons_append, apart_cons, apart_append, apart_cons]
    refine ⟨opening, apart_laidOut (by simp) columns, by simp [Piece.Apart],
      apart_laidOut (by simp) (w.assignments.apart_expressions 1), ?_, apart_nil⟩
    cases given : w.returning with
    | none => simp [Piece.Apart]
    | some column => simp [Piece.Apart, returning column given]
  · intro k
    have none_ : (w.assignments.map fun a => [Piece.text a.1]).flatMap Fragment.slots = [] := by
      simp [List.flatMap_map]
    rw [Insertion.sql, List.append_assoc, List.cons_append, slots_text_cons, slots_append,
      slots_laidOut, none_, List.cons_append, slots_text_cons, slots_append, slots_laidOut,
      slots_text_cons, slots_nil, List.nil_append, List.append_nil,
      Assignments.mem_slots_expressions 1 closed, Assignments.length_arguments]
    omega

/-- **An update has one slot more, that of the id.** -/
theorem replacement_numbered {w : Replacement} (table : '$' ∉ w.table.toList)
    (named : w.assignments.Named) (closed : w.assignments.Closed) (id : Cell) (user : Int)
    (content : Record) :
    Query.Numbered ⟨w.sql, id :: w.assignments.arguments user content⟩ := by
  have opening : (Piece.text ("\nUPDATE " ++ w.table ++ " SET\n       ")).Apart := by
    simp [Piece.Apart, table]
  have length : w.assignments.length = (w.assignments.expressions 2).length := by
    rw [Assignments.expressions, length_expressionsFrom]
  constructor
  · rw [Replacement.sql, List.cons_append, apart_cons, apart_append]
    refine ⟨opening, apart_joined (by simp [Piece.Apart]) fun f member => ?_, ?_⟩
    · rw [List.mem_iff_getElem?] at member
      obtain ⟨j, there⟩ := member
      obtain ⟨p, e, column, expression, rfl⟩ := List.getElem?_zipWith_eq_some.1 there
      have first := apart_text_append (named p (List.mem_of_getElem? column)) (t := " = ") (by simp)
      exact apart_cons.2
        ⟨first, w.assignments.apart_expressions 2 e (List.mem_of_getElem? expression)⟩
    · simp [Fragment.Apart, Piece.Apart]
  · intro k
    have set : (List.zipWith (fun (a : String × Source) e => Piece.text (a.1 ++ " = ") :: e)
        w.assignments (w.assignments.expressions 2)).flatMap Fragment.slots =
          (w.assignments.expressions 2).flatMap Fragment.slots := by
      rw [List.flatMap_def, List.map_zipWith, List.flatMap_def]
      simp only [slots_text_cons]
      congr 1
      exact List.ext_getElem (by simp [length]) (by simp)
    rw [Replacement.sql, List.cons_append, slots_text_cons, slots_append, slots_joined, set,
      List.mem_append, Assignments.mem_slots_expressions 2 closed]
    simp only [slots_text_cons, slots_slot_cons, slots_nil, List.mem_singleton,
      List.length_cons, Assignments.length_arguments]
    omega

end GeoRegistry.Sql
