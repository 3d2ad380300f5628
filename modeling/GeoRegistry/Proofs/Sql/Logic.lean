/-
# Proofs.Sql.Logic -- what a condition of a statement says of a row

A clause is a conjunction of tests, and its truth on a row is one of three: a
comparison with NULL is neither true nor false, and a row is selected only by a clause
that is true of it.  `Clause.text` is how a clause is spelled in a statement.

An interpretation is what is left to the database: which values are equal, what a search
for words finds, and what conditions outside of this language say.
-/
import GeoRegistry.Filter
import GeoRegistry.Sql

namespace GeoRegistry.Sql

set_option autoImplicit false

/-- What a row holds in each column. -/
abbrev Row := String → Cell

/-! ## Truth -/

inductive Truth where
  | yes
  | no
  | unknown
  deriving DecidableEq, Repr

namespace Truth

def of (b : Bool) : Truth :=
  if b then .yes else .no

def and : Truth → Truth → Truth
  | .yes, t => t
  | .no, _ => .no
  | .unknown, .no => .no
  | .unknown, _ => .unknown

/-- The truth of all at once. -/
def all (ts : List Truth) : Truth :=
  ts.foldr and .yes

@[simp] theorem of_eq_yes_iff {b : Bool} : of b = .yes ↔ b = true := by
  cases b <;> simp [of]

@[simp] theorem and_eq_yes_iff {s t : Truth} : s.and t = .yes ↔ s = .yes ∧ t = .yes := by
  cases s <;> cases t <;> simp [and]

/-- A conjunction is true when all of it is; one part that is unknown is enough for it
not to be. -/
theorem all_eq_yes_iff {ts : List Truth} : all ts = .yes ↔ ∀ t ∈ ts, t = .yes := by
  induction ts with
  | nil => simp [all]
  | cons t rest ih =>
      rw [List.forall_mem_cons, ← ih]
      exact and_eq_yes_iff

theorem all_append_eq_yes_iff {ss ts : List Truth} :
    all (ss ++ ts) = .yes ↔ all ss = .yes ∧ all ts = .yes := by
  simp only [all_eq_yes_iff, List.mem_append, or_imp, forall_and]

end Truth

/-! ## Interpretations -/

structure Interpretation where
  /-- Two values, neither of them NULL, are equal. -/
  equal : Cell → Cell → Bool
  equal_self : ∀ v, equal v v = true
  equal_bool : ∀ a b, equal (.bool a) (.bool b) = decide (a = b)
  equal_int : ∀ m n, equal (.int m) (.int n) = decide (m = n)
  equal_uuid : ∀ a b, equal (.uuid a) (.uuid b) = decide (a = b)
  /-- The words are found in the searched column, by the rules of a configuration. -/
  finds : (column config : String) → Row → Cell → Truth
  /-- Any other condition, by its text. -/
  holds : String → Row → Truth
  /-- What a slot without an argument stands for. -/
  stray : Int → Cell

namespace Interpretation

open Classical in
/-- Values are equal when they are the same, no words are found, and nothing else holds. -/
noncomputable def plain : Interpretation where
  equal a b := decide (a = b)
  equal_self := by simp
  equal_bool := by simp
  equal_int := by simp
  equal_uuid := by simp
  finds _ _ _ _ := .no
  holds _ _ := .unknown
  stray _ := .null

variable (i : Interpretation)

/-- `a = b`: unknown as soon as one of them is NULL. -/
def equals (a b : Cell) : Truth :=
  if Opt.isNull a || Opt.isNull b then .unknown else .of (i.equal a b)

/-- `a IS NOT DISTINCT FROM b`: NULL is like itself, and unlike every value. -/
def notDistinct (a b : Cell) : Truth :=
  if Opt.isNull a && Opt.isNull b then .yes
  else if Opt.isNull a || Opt.isNull b then .no
  else .of (i.equal a b)

/-- What a slot stands for: the argument of its number. -/
def bound (args : List Cell) (slot : Int) : Cell :=
  if 1 ≤ slot then (args[(slot - 1).toNat]?).getD (i.stray slot) else i.stray slot

theorem equals_eq_yes_iff {a b : Cell} :
    i.equals a b = .yes ↔ Opt.isNull a = false ∧ Opt.isNull b = false ∧ i.equal a b = true := by
  cases na : Opt.isNull a <;> cases nb : Opt.isNull b <;> simp [equals, na, nb]

theorem notDistinct_eq_yes_iff {a b : Cell} :
    i.notDistinct a b = .yes ↔
      Opt.isNull a = true ∧ Opt.isNull b = true ∨ i.equals a b = .yes := by
  rw [equals_eq_yes_iff]
  cases na : Opt.isNull a <;> cases nb : Opt.isNull b <;> simp [notDistinct, na, nb]

theorem equals_self {v : Cell} (some_ : Opt.isNull v = false) : i.equals v v = .yes :=
  i.equals_eq_yes_iff.2 ⟨some_, some_, i.equal_self v⟩

theorem equals_bool_iff {a b : Bool} : i.equals (.bool a) (.bool b) = .yes ↔ a = b := by
  simp [equals_eq_yes_iff, Opt.isNull, i.equal_bool]

theorem equals_int_iff {m n : Int} : i.equals (.int m) (.int n) = .yes ↔ m = n := by
  simp [equals_eq_yes_iff, Opt.isNull, i.equal_int]

theorem equals_uuid_iff {a b : Uuid} : i.equals (.uuid a) (.uuid b) = .yes ↔ a = b := by
  simp [equals_eq_yes_iff, Opt.isNull, i.equal_uuid]

theorem notDistinct_self (v : Cell) : i.notDistinct v v = .yes := by
  rw [notDistinct_eq_yes_iff]
  cases none_ : Opt.isNull v with
  | true => exact .inl ⟨rfl, rfl⟩
  | false => exact .inr (i.equals_self none_)

theorem bound_append {leading args : List Cell} {index : Nat} {v : Cell}
    (there : args[index]? = some v) : i.bound (leading ++ args) (leading.length + 1 + index) = v := by
  have positive : (1 : Int) ≤ leading.length + 1 + index := by omega
  have place : ((leading.length : Int) + 1 + index - 1).toNat = leading.length + index := by omega
  rw [bound, if_pos positive, place, List.getElem?_append_right (by omega)]
  simp [there]

end Interpretation

/-! ## Clauses -/

inductive Term where
  | column (name : String)
  | slot (number : Int)
  | false_
  | coalesce (a b : Term)
  deriving DecidableEq, Repr

inductive Test where
  | equals (a b : Term)
  | notDistinct (a b : Term)
  | notNull (a : Term)
  | finds (column config : String) (words : Term)
  /-- A condition that is not looked into. -/
  | other (text : String)
  deriving DecidableEq, Repr

abbrev Clause := List Test

def Term.text : Term → String
  | .column name => name
  | .slot number => "$" ++ toString number
  | .false_ => "false"
  | .coalesce a b => "COALESCE(" ++ a.text ++ ", " ++ b.text ++ ")"

def Test.text : Test → String
  | .equals a b => a.text ++ " = " ++ b.text
  | .notDistinct a b => a.text ++ " IS NOT DISTINCT FROM " ++ b.text
  | .notNull a => a.text ++ " IS NOT NULL"
  | .finds column config words =>
      column ++ " @@ plainto_tsquery('" ++ config ++ "', unaccent(" ++ words.text ++ "))"
  | .other text => text

def Clause.text (c : Clause) : String :=
  " AND ".intercalate (c.map Test.text)

section Meaning

variable (i : Interpretation) (args : List Cell) (row : Row)

def Term.value : Term → Cell
  | .column name => row name
  | .slot number => i.bound args number
  | .false_ => .bool false
  | .coalesce a b => if Opt.isNull a.value then b.value else a.value

def Test.truth : Test → Truth
  | .equals a b => i.equals (a.value i args row) (b.value i args row)
  | .notDistinct a b => i.notDistinct (a.value i args row) (b.value i args row)
  | .notNull a => .of (!Opt.isNull (a.value i args row))
  | .finds column config words => i.finds column config row (words.value i args row)
  | .other text => i.holds text row

def Clause.truth (c : Clause) : Truth :=
  .all (c.map (Test.truth i args row))

/-- The clause is true of the row, which is what it takes to be selected. -/
def Clause.Selects (c : Clause) : Prop :=
  c.truth i args row = .yes

variable {i args row}

theorem Clause.selects_append {c c' : Clause} :
    Clause.Selects i args row (c ++ c') ↔
      Clause.Selects i args row c ∧ Clause.Selects i args row c' := by
  simp only [Selects, truth, List.map_append, Truth.all_append_eq_yes_iff]

theorem Clause.selects_iff {c : Clause} :
    Clause.Selects i args row c ↔ ∀ t ∈ c, t.truth i args row = .yes := by
  simp only [Selects, truth, Truth.all_eq_yes_iff, List.forall_mem_map]

end Meaning

end GeoRegistry.Sql
