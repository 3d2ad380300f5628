/-
# Proofs.Sql.Selection -- which rows the filters select

The condition of a list, of a count and of a feature collection is a clause: the base
condition of the table, and a test for each filter the query knows (`Descriptor.clause`).
The slots of the tests are numbered in the order of their arguments, so each test finds
its own (`bound_argument`).  A filter that is absent is bound to NULL and compares its
column with itself, and `Allows` is what it takes for that comparison to be true.
-/
import GeoRegistry.Proofs.Sql.Logic
import GeoRegistry.Sql.Read

namespace GeoRegistry.Sql

set_option autoImplicit false

/-! ## The clause of a query -/

/-- The number of a condition's slot. -/
def Condition.slot : Condition → Int
  | .filter _ _ slot => slot
  | .keywords _ _ slot => slot

/-- A condition as a test. -/
def Condition.test : Condition → Test
  | .filter column true slot =>
      .notDistinct (.column column) (.coalesce (.slot slot) (.column column))
  | .filter column false slot =>
      .equals (.column column) (.coalesce (.slot slot) (.column column))
  | .keywords column config slot => .finds column config (.slot slot)

/-- The condition of a query, whose base condition is the given clause. -/
def Descriptor.clause (d : Descriptor) (base : Clause) (f : Filters) (first : Int) : Clause :=
  base ++ (conditions d f first).map (·.1.test)

/-! ## Its text -/

theorem render_text_cons (s : String) (f : Fragment) :
    Fragment.render (.text s :: f) = s ++ Fragment.render f := by
  simp [Fragment.render, Piece.render, String.join_cons]

theorem render_slot_cons (n : Int) (f : Fragment) :
    Fragment.render (.slot n :: f) = "$" ++ toString n ++ Fragment.render f := by
  simp [Fragment.render, Piece.render, String.join_cons]

@[simp] theorem render_nil : Fragment.render [] = "" := rfl

theorem render_append (f g : Fragment) :
    Fragment.render (f ++ g) = Fragment.render f ++ Fragment.render g := by
  simp [Fragment.render, String.join_append]

theorem Condition.render_fragment (c : Condition) :
    Fragment.render c.fragment = " AND " ++ c.test.text := by
  cases c with
  | filter column nullable slot =>
      cases nullable <;>
        simp [fragment, test, Test.text, Term.text, render_text_cons, render_slot_cons,
          String.append_assoc, -String.reduceAppend]
  | keywords column config slot =>
      simp [fragment, test, Test.text, Term.text, render_text_cons, render_slot_cons,
        String.append_assoc, -String.reduceAppend]

/-- Tests are appended to a clause with a word before each. -/
theorem Clause.text_append {base : Clause} (some_ : base ≠ []) (tests : Clause) :
    Clause.text (base ++ tests) =
      Clause.text base ++ String.join (tests.map fun t => " AND " ++ t.text) := by
  induction tests generalizing base with
  | nil => simp
  | cons t rest ih =>
      have one : Clause.text (base ++ [t]) = Clause.text base ++ (" AND " ++ t.text) := by
        rw [Clause.text, List.map_append,
          String.intercalate_append_of_ne_nil (by simpa using some_) (by simp)]
        simp [Clause.text, String.append_assoc]
      rw [List.append_cons, ih (by simp), one, List.map_cons, String.join_cons,
        String.append_assoc]

/-- The condition of a query is spelled as its clause is. -/
theorem render_whereClause {d : Descriptor} {base : Clause} (spelled : d.base = base.map Test.text)
    (some_ : base ≠ []) (f : Filters) (first : Int) :
    Fragment.render (whereClause d f first) = (d.clause base f first).text := by
  have tests (cs : List (Condition × Cell)) :
      Fragment.render (cs.flatMap (·.1.fragment)) =
        String.join ((cs.map (·.1.test)).map fun t => " AND " ++ t.text) := by
    induction cs with
    | nil => rfl
    | cons c rest ih =>
        rw [List.flatMap_cons, render_append, Condition.render_fragment, ih]
        simp
  rw [whereClause, render_text_cons, predicates, tests, Descriptor.clause, Clause.text_append some_,
    Descriptor.baseCondition, spelled]
  rfl

/-! ## Its arguments -/

/-- The slots of the conditions on columns are numbered one after another. -/
theorem columnConditions_numbered {d : Descriptor} {f : Filters} {first : Int}
    {columns : List (String × String)} {index : Nat} {c : Condition} {v : Cell}
    (there : (columnConditions d f first columns)[index]? = some (c, v)) :
    c.slot = first + index := by
  induction columns generalizing first index with
  | nil => simp [columnConditions] at there
  | cons head rest ih =>
      obtain ⟨name, column⟩ := head
      cases known : f.lookup name with
      | none =>
          simp only [columnConditions, known] at there
          exact ih there
      | some o =>
          simp only [columnConditions, known] at there
          cases index with
          | zero =>
              obtain ⟨rfl, -⟩ : _ = c ∧ _ := by simpa using there
              simp [Condition.slot]
          | succ index =>
              have next := ih (by simpa using there)
              rw [next]
              push_cast
              omega

theorem conditions_numbered {d : Descriptor} {f : Filters} {first : Int} {index : Nat}
    {c : Condition} {v : Cell} (there : (conditions d f first)[index]? = some (c, v)) :
    c.slot = first + index := by
  rw [conditions] at there
  by_cases words : f.keywords.present = true
  · simp only [words, if_true] at there
    rcases Nat.lt_trichotomy index (columnConditions d f first d.filterColumns).length with
      low | same | high
    · rw [List.getElem?_append_left low] at there
      exact columnConditions_numbered there
    · subst same
      obtain ⟨rfl, -⟩ : _ = c ∧ _ := by simpa using there
      rfl
    · rw [List.getElem?_eq_none (by simp; omega)] at there
      cases there
  · simp only [words] at there
    exact columnConditions_numbered there

/-- **Each slot stands for its own argument**, whatever arguments come before. -/
theorem bound_argument (i : Interpretation) {d : Descriptor} {f : Filters} {leading : List Cell}
    {c : Condition} {v : Cell} (member : (c, v) ∈ conditions d f (leading.length + 1)) :
    i.bound (leading ++ (predicates d f (leading.length + 1)).args) c.slot = v := by
  obtain ⟨index, there⟩ := List.getElem?_of_mem member
  rw [conditions_numbered there]
  apply i.bound_append
  simp [predicates, there]

/-! ## Its tests on columns -/

section Columns

variable {f : Filters} {columns : List (String × String)}

/-- The conditions on columns are those of the filters that were sent. -/
theorem mem_columnConditions {d : Descriptor} {first : Int} {c : Condition} {v : Cell}
    (member : (c, v) ∈ columnConditions d f first columns) :
    ∃ name column o slot, (name, column) ∈ columns ∧ f.lookup name = some o ∧
      c = .filter column (d.nullableColumns.contains column) slot ∧ v = o.toParam := by
  induction columns generalizing first with
  | nil => simp [columnConditions] at member
  | cons head rest ih =>
      obtain ⟨name, column⟩ := head
      cases known : f.lookup name with
      | none =>
          simp only [columnConditions, known] at member
          obtain ⟨name', column', o, slot, listed, made⟩ := ih member
          exact ⟨name', column', o, slot, .tail _ listed, made⟩
      | some o =>
          simp only [columnConditions, known, List.mem_cons] at member
          rcases member with here | later
          · cases here
            exact ⟨name, column, o, first, .head _, known, rfl, rfl⟩
          · obtain ⟨name', column', o', slot, listed, made⟩ := ih later
            exact ⟨name', column', o', slot, .tail _ listed, made⟩

/-- Each filter that was sent makes a condition, with some slot. -/
theorem columnConditions_mem (d : Descriptor) (first : Int) {name column : String} {o : Opt}
    (listed : (name, column) ∈ columns) (found : f.lookup name = some o) :
    ∃ slot, (Condition.filter column (d.nullableColumns.contains column) slot, o.toParam) ∈
      columnConditions d f first columns := by
  induction columns generalizing first with
  | nil => cases listed
  | cons head rest ih =>
      obtain ⟨name', column'⟩ := head
      rcases List.mem_cons.1 listed with here | later
      · cases here
        exact ⟨first, by simp [columnConditions, found]⟩
      · cases known : f.lookup name' with
        | none =>
            -- a filter the caller did not send makes no condition
            simp only [columnConditions, known]
            exact ih first later
        | some o' =>
            simp only [columnConditions, known]
            obtain ⟨slot, member⟩ := ih (first + 1) later
            exact ⟨slot, .tail _ member⟩

end Columns

/-! ## Its truth -/

section Meaning

variable (i : Interpretation) (row : Row)

/-- What a condition asks of a row once its argument is known. -/
def Condition.Holds (v : Cell) : Condition → Prop
  | .filter column _ _ => Opt.isNull v = true ∨ i.equals (row column) v = .yes
  | .keywords column config _ => i.finds column config row v = .yes

/-- The row has values in the filtered columns that cannot be NULL. -/
def Descriptor.Allows (d : Descriptor) : Prop :=
  ∀ name column, (name, column) ∈ d.filterColumns → d.nullableColumns.contains column = false →
    Opt.isNull (row column) = false

/-- What the filters ask of a row: what is present is equal to its column, and the
keywords are found. -/
structure Filters.Match (d : Descriptor) (f : Filters) : Prop where
  columns : ∀ name column o, (name, column) ∈ d.filterColumns → f.lookup name = some o →
    o.present = true → i.equals (row column) o.value = .yes
  keywords : f.keywords.present = true →
    i.finds d.textSearchColumn d.textSearchConfig row f.keywords.value = .yes

/-- Exactly the filters that are absent are bound to NULL. -/
theorem isNull_toParam (o : Opt) : Opt.isNull o.toParam = !o.present := by
  cases there : o.present with
  | true => simp [Opt.toParam, there, o.valued there]
  | false => simp [Opt.toParam, there, Opt.isNull]

/-- A comparison with `COALESCE(v, column)` is one with `v`, or with nothing. -/
theorem Condition.truth_test_iff {args : List Cell} {column : String} {nullable : Bool}
    {slot : Int} (some_ : nullable = false → Opt.isNull (row column) = false) :
    (Condition.filter column nullable slot).test.truth i args row = .yes ↔
      (Condition.filter column nullable slot).Holds i row (i.bound args slot) := by
  cases none_ : Opt.isNull (i.bound args slot) with
  | true =>
      -- nothing is asked: the column is compared with itself, and only a NULL could fail that
      cases nullable with
      | true => simp [test, Test.truth, Term.value, Holds, none_, i.notDistinct_self]
      | false => simp [test, Test.truth, Term.value, Holds, none_, i.equals_self (some_ rfl)]
  | false =>
      cases nullable with
      | true =>
          simp [test, Test.truth, Term.value, Holds, none_, i.notDistinct_eq_yes_iff]
      | false => simp [test, Test.truth, Term.value, Holds, none_]

/-- A comparison asks what its filter does: something when it is present. -/
theorem Condition.holds_toParam_iff {o : Opt} {column : String} {nullable : Bool} {slot : Int} :
    (Condition.filter column nullable slot).Holds i row o.toParam ↔
      (o.present = true → i.equals (row column) o.value = .yes) := by
  rw [Holds, isNull_toParam]
  cases there : o.present <;> simp [Opt.toParam, there]

theorem forall_columnConditions_iff (d : Descriptor) (f : Filters) (first : Int)
    (columns : List (String × String)) :
    (∀ p ∈ columnConditions d f first columns, p.1.Holds i row p.2) ↔
      ∀ name column o, (name, column) ∈ columns → f.lookup name = some o → o.present = true →
        i.equals (row column) o.value = .yes := by
  constructor
  · intro holds name column o listed found
    obtain ⟨slot, member⟩ := columnConditions_mem d first listed found
    exact (Condition.holds_toParam_iff i row).1 (holds _ member)
  · rintro asked ⟨c, v⟩ member
    obtain ⟨name, column, o, slot, listed, found, rfl, rfl⟩ := mem_columnConditions member
    exact (Condition.holds_toParam_iff i row).2 (asked name column o listed found)

theorem forall_conditions_iff {d : Descriptor} {f : Filters} {first : Int} :
    (∀ p ∈ conditions d f first, p.1.Holds i row p.2) ↔ f.Match i row d := by
  rw [conditions]
  have columns := forall_columnConditions_iff i row d f first d.filterColumns
  by_cases words : f.keywords.present = true
  · rw [if_pos words, List.forall_mem_append, columns]
    constructor
    · exact fun ⟨low, last⟩ => ⟨low, fun _ => last _ (.head _)⟩
    · intro matched
      refine ⟨matched.columns, fun p member => ?_⟩
      obtain rfl := List.mem_singleton.1 member
      exact matched.keywords words
  · rw [if_neg words, columns]
    constructor
    · exact fun low => ⟨low, fun there => absurd there words⟩
    · exact fun matched => matched.columns

variable {row}

/-- A condition that stands in a query is about a filtered column, or about keywords. -/
theorem column_of_mem {d : Descriptor} {f : Filters} {first : Int} {column : String}
    {nullable : Bool} {slot : Int} {v : Cell}
    (member : (Condition.filter column nullable slot, v) ∈ conditions d f first) :
    nullable = d.nullableColumns.contains column ∧
      ∃ name, (name, column) ∈ d.filterColumns := by
  have listed (low : (Condition.filter column nullable slot, v) ∈
      columnConditions d f first d.filterColumns) :
      nullable = d.nullableColumns.contains column ∧ ∃ name, (name, column) ∈ d.filterColumns := by
    obtain ⟨name, column', o, slot', there, -, same, -⟩ := mem_columnConditions low
    cases same
    exact ⟨rfl, name, there⟩
  rw [conditions] at member
  by_cases words : f.keywords.present = true
  · simp only [words, if_true, List.mem_append, List.mem_singleton] at member
    rcases member with low | last
    · exact listed low
    · cases last
  · simp only [words] at member
    exact listed member

/-- **What the clause of a query selects**, whatever arguments come before those of the
filters: the rows that meet the base condition and match the filters. -/
theorem clause_selects_iff {d : Descriptor} (allows : d.Allows row) (base : Clause) (f : Filters)
    (leading : List Cell) :
    Clause.Selects i (leading ++ (predicates d f (leading.length + 1)).args) row
        (d.clause base f (leading.length + 1)) ↔
      Clause.Selects i (leading ++ (predicates d f (leading.length + 1)).args) row base ∧
        f.Match i row d := by
  rw [Descriptor.clause, Clause.selects_append, ← forall_conditions_iff i row]
  refine and_congr_right fun _ => ?_
  rw [Clause.selects_iff, List.forall_mem_map]
  refine forall₂_congr fun p member => ?_
  obtain ⟨c, v⟩ := p
  have bound := bound_argument i member
  cases c with
  | filter column nullable slot =>
      obtain ⟨same, name, listed⟩ := column_of_mem member
      rw [Condition.truth_test_iff i row fun required => allows name column listed (same ▸ required)]
      rw [show i.bound _ slot = v from bound]
  | keywords column config slot =>
      rw [← show i.bound _ slot = v from bound]
      rfl

end Meaning

end GeoRegistry.Sql
