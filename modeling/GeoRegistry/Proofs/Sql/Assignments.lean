/-
# Proofs.Sql.Assignments -- columns that are assigned by name

A source takes its slots behind those of the columns before it (`lookup_said`), and its
arguments stand at the same places (`getElem?_arguments`).  So where columns are distinct and
fields are bound once, every column that is named like a field gets the argument of that field
(`Assignments.ByName`).
-/
import GeoRegistry.Proofs.Cell
import GeoRegistry.Proofs.Json.Names
import GeoRegistry.Proofs.Sql.Sentence

namespace GeoRegistry.Sql

set_option autoImplicit false

/-! ## Columns of one slot -/

/-- What a source is bound to that is one slot. -/
def Source.alone? : Source → Option Binding
  | .field name => some (.field name)
  | .user => some .user
  | _ => none

/-- The argument that a slot is bound to. -/
def Binding.value (user : Int) (content : Record) : Binding → Cell
  | .field name => (content.lookup name).getD .null
  | .user => .int user

theorem Source.bindings_alone {source : Source} {b : Binding} (alone : source.alone? = some b) :
    source.bindings = [b] := by
  cases source <;> simp_all [alone?, bindings]

namespace Assignments

theorem expressionsFrom_append (a : Assignments) (first slot : Int) (before after : Assignments) :
    a.expressionsFrom first slot (before ++ after) =
      a.expressionsFrom first slot before ++
        a.expressionsFrom first (slot + (bindings before).length) after := by
  induction before generalizing slot with
  | nil => simp [expressionsFrom, bindings]
  | cons head rest ih =>
      have length : slot + head.2.bindings.length + (bindings rest).length =
          slot + (bindings (head :: rest)).length := by
        simp [bindings]
        omega
      rw [List.cons_append, expressionsFrom, ih, length, expressionsFrom, List.cons_append]

theorem expression_alone {source : Source} {b : Binding} (alone : source.alone? = some b)
    (a : Assignments) (first slot : Int) : a.expression first slot source = [.slot slot] := by
  cases source <;> simp_all [Source.alone?, expression]

variable {before after : Assignments} {column : String} {source : Source} {b : Binding}

/-- The slots of a column are numbered behind those of the columns before it. -/
theorem lookup_spelled (source : Source) (first : Int) (fresh : column ∉ before.map Prod.fst) :
    (spelled (before ++ (column, source) :: after) first).lookup column =
      some (expression (before ++ (column, source) :: after) first
        (first + (bindings before).length) source) := by
  -- the columns before this one have other names, and as many expressions
  have length : (before.map Prod.fst).length = (expressionsFrom
      (before ++ (column, source) :: after) first first before).length := by
    rw [List.length_map, length_expressionsFrom]
  have absent : ((before.map Prod.fst).zip (expressionsFrom
      (before ++ (column, source) :: after) first first before)).lookup column = none := by
    refine Json.lookup_of_fresh ?_
    rw [List.map_fst_zip (Nat.le_of_eq length)]
    exact fresh
  rw [spelled, expressions, expressionsFrom_append, List.map_append, List.zip_append length,
    List.lookup_append, absent, Option.none_or]
  simp [expressionsFrom]

/-- The arguments are what the slots are bound to. -/
theorem getElem?_arguments {a : Assignments} {place : Nat} (bound : a.bindings[place]? = some b)
    (user : Int) (content : Record) :
    (a.arguments user content)[place]? = some (b.value user content) := by
  rw [arguments, List.getElem?_map, bound]
  cases b <;> rfl

end Assignments

/-! ## Names and placeholders -/

/-- The placeholder of an argument, by its number. -/
def placeholder (number : Nat) : String :=
  "$" ++ toString number

/-- A point of two expressions in a coordinate system. -/
def pointText (x y : String) (srid : Int) : String :=
  "ST_SetSRID(ST_MakePoint(" ++ x ++ ", " ++ y ++ "), " ++ toString srid ++ ")"

/-- The columns of the user who writes. -/
def userColumns : List String := ["_created_by", "_last_modified_by"]

/-- The columns of the time of writing. -/
def timeColumns : List String := ["_created_at", "_last_modified_at"]

/-- The fields that are kept in the position. -/
def axes : List String := ["pos_x", "pos_y"]

theorem render_placeholder (number : Nat) :
    Fragment.render [.slot (number : Int)] = placeholder number := by
  rw [render_slot_cons, render_nil, String.append_empty]
  rfl

/-- A slot behind some that lead. -/
theorem slot_number (leading place : Nat) :
    (leading : Int) + 1 + place = ((leading + place + 1 : Nat) : Int) := by
  omega

namespace Assignments

/-- Columns are assigned by name: those that are named like a field get it, each field is
bound once, and the words to search in are those of the columns beside them. -/
structure ByName (a : Assignments) (names : List String) (srid : Int) : Prop where
  distinct : (a.map Prod.fst).Nodup
  once : a.bindings.Nodup
  fields : ∀ p ∈ a, p.1 ∈ names → p.2 = .field p.1
  users : ∀ p ∈ a, p.1 ∈ userColumns → p.2 = .user
  times : ∀ p ∈ a, p.1 ∈ timeColumns → p.2 = .now
  position : "pos_x" ∈ names →
    ("position", Source.point "pos_x" "pos_y" srid) ∈ a ∧ "pos_y" ∈ names
  apart : ∀ p ∈ a, p.1 ∉ axes
  searched : ∀ name ∈ ["name", "description", "comment"], (name, Source.field name) ∈ a
  words : ("text_search", Source.words "name" "description" "comment") ∈ a
  others : ∀ p ∈ a, p.1 ∈ names ++ userColumns ++ timeColumns ++ ["position", "text_search"]

variable {a : Assignments} {column : String} {source : Source} {b : Binding}

theorem said_fst (a : Assignments) (first : Int) :
    (a.said first).map Prod.fst = a.map Prod.fst := by
  rw [said, List.map_map, ← (spelled_fst_snd a first).1]
  rfl

/-- The expression of a column, and where the arguments of its slots are. -/
theorem lookup_said (distinct : (a.map Prod.fst).Nodup) (member : (column, source) ∈ a)
    (first : Int) :
    ∃ place : Nat,
      (a.said first).lookup column = some (a.expression first (first + place) source).render ∧
        ∀ j b, source.bindings[j]? = some b → a.bindings[place + j]? = some b := by
  obtain ⟨before, after, rfl⟩ := List.append_of_mem member
  have fresh : column ∉ before.map Prod.fst := by
    rw [List.map_append, List.map_cons, List.nodup_append] at distinct
    intro inside
    exact distinct.2.2 column inside column (.head _) rfl
  refine ⟨(bindings before).length, ?_, fun j b there => ?_⟩
  · rw [said, lookup_map_snd, lookup_spelled source first fresh]
    rfl
  · have all : bindings (before ++ (column, source) :: after) =
        bindings before ++ (source.bindings ++ bindings after) := by
      simp [bindings]
    obtain ⟨inside, -⟩ := List.getElem?_eq_some_iff.1 there
    rw [all, List.getElem?_append_right (Nat.le_add_right ..), Nat.add_sub_cancel_left,
      List.getElem?_append_left inside, there]

/-- The slot that a field is mentioned by is the one it has. -/
theorem slotOf_eq (once : a.bindings.Nodup) {name : String} {place : Nat}
    (bound : a.bindings[place]? = some (.field name)) (first : Int) :
    a.slotOf first name = first + place := by
  obtain ⟨inside, found⟩ := List.getElem?_eq_some_iff.1 bound
  rw [slotOf, ← found, once.idxOf_getElem place inside]

theorem render_point (a : Assignments) (first : Int) (slot : Nat) (x y : String) (srid : Int) :
    (a.expression first slot (.point x y srid)).render =
      pointText (placeholder slot) (placeholder (slot + 1)) srid := by
  have number (n : Nat) : toString (n : Int) = toString n := rfl
  have next : (slot : Int) + 1 = ((slot + 1 : Nat) : Int) := by omega
  rw [expression, next, render_text_cons, render_slot_cons, render_text_cons, render_slot_cons,
    render_text_cons, render_nil, number, number]
  unfold pointText placeholder
  generalize toString slot = x, toString (slot + 1) = y, toString srid = z
  simp [← String.toList_inj]

/-- Columns that are assigned by name are words. -/
theorem ByName.terms {names : List String} {srid : Int} (byName : a.ByName names srid)
    (terms : ∀ name ∈ names, IsTerm name) : ∀ p ∈ a, IsTerm p.1 := by
  have others : ∀ name ∈ userColumns ++ timeColumns ++ ["position", "text_search"],
      IsTerm name := by
    decide
  intro p listed
  have known := byName.others p listed
  rw [List.append_assoc, List.append_assoc, List.mem_append, ← List.append_assoc] at known
  rcases known with field | other
  · exact terms p.1 field
  · exact others p.1 other

end Assignments

@[simp] theorem Insertion.names_sentence (w : Insertion) :
    w.sentence.names = w.assignments.map Prod.fst :=
  Assignments.said_fst ..

@[simp] theorem Replacement.names_sentence (w : Replacement) :
    w.sentence.names = w.assignments.map Prod.fst :=
  Assignments.said_fst ..

end GeoRegistry.Sql
