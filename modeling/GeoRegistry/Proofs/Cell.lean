/-
# Proofs.Cell -- cells that are JSON values

A JSON value is a cell, and is written as itself as long as its floating-point numbers are
(`toJsonWith_ofJson`).  The numbers of a cell are gathered (`Cell.floats`), so that what is
asked of them can be asked of a whole document.
-/
import GeoRegistry.Cell
import GeoRegistry.Proofs.Json.Reading

namespace GeoRegistry

set_option autoImplicit false

/-! ## Named things -/

theorem lookup_map_snd {α β : Type} (f : α → β) (l : List (String × α)) (column : String) :
    (l.map fun p => (p.1, f p.2)).lookup column = (l.lookup column).map f := by
  induction l with
  | nil => rfl
  | cons p rest ih =>
      rw [List.map_cons, List.lookup_cons, List.lookup_cons, ih]
      cases column == p.1 <;> rfl

theorem lookup_filter {α : Type} (p : String → Bool) (l : List (String × α)) (column : String) :
    (l.filter fun f => p f.1).lookup column = if p column then l.lookup column else none := by
  induction l with
  | nil => simp
  | cons f rest ih =>
      obtain ⟨name, v⟩ := f
      by_cases same : column = name
      · subst same
        cases kept : p column <;> simp [kept, ih]
      · cases kept : p name <;> simp [Json.lookup_cons_of_ne same, kept, ih]

theorem mem_of_lookup {α : Type} {l : List (String × α)} {column : String} {v : α}
    (found : l.lookup column = some v) : (column, v) ∈ l := by
  obtain ⟨before, after, whole, -⟩ := List.lookup_eq_some_iff.1 found
  simp [whole]

theorem lookup_of_mem {α : Type} {l : List (String × α)} (distinct : (l.map Prod.fst).Nodup)
    {p : String × α} (listed : p ∈ l) : l.lookup p.1 = some p.2 := by
  obtain ⟨before, after, rfl⟩ := List.append_of_mem listed
  have fresh : before.lookup p.1 = none := by
    rw [List.map_append, List.map_cons, List.nodup_append] at distinct
    exact Json.lookup_of_fresh fun inside => distinct.2.2 p.1 inside p.1 (.head _) rfl
  rw [List.lookup_append, fresh, Option.none_or, List.lookup_cons, beq_self_eq_true]

/-! ## Records -/

namespace Cell

theorem ofFields_eq_map (fields : List (String × Json)) :
    ofFields fields = fields.map fun f => (f.1, ofJson f.2) := by
  induction fields with
  | nil => rfl
  | cons f rest ih => rw [List.map_cons, ← ih]; rfl

theorem fieldsToJson_eq_map (rendering : Rendering) (fields : Record) :
    fieldsToJson rendering fields = fields.map fun f => (f.1, toJsonWith rendering f.2) := by
  induction fields with
  | nil => rfl
  | cons f rest ih => rw [List.map_cons, ← ih]; rfl

theorem ofFields_names (fields : List (String × Json)) :
    (ofFields fields).map Prod.fst = fields.map Prod.fst := by
  rw [ofFields_eq_map, List.map_map]
  rfl

/-- What a record of JSON values says under a name is a JSON value of the record. -/
theorem lookup_ofFields {fields : List (String × Json)} {name : String} {c : Cell}
    (found : (ofFields fields).lookup name = some c) : ∃ v, (name, v) ∈ fields ∧ c = ofJson v := by
  rw [ofFields_eq_map, lookup_map_snd] at found
  obtain ⟨v, there, rfl⟩ := Option.map_eq_some_iff.1 found
  exact ⟨v, mem_of_lookup there, rfl⟩

/-! ## Floating-point numbers -/

mutual

/-- The floating-point numbers in a cell. -/
def floats : Cell → List Binary64
  | .float x => [x]
  | .list items => itemsFloats items
  | .record fields => fieldsFloats fields
  | .null | .bool _ | .int _ | .text _ | .uuid _ | .time _ | .decimal _ => []

def itemsFloats : List Cell → List Binary64
  | [] => []
  | c :: rest => floats c ++ itemsFloats rest

def fieldsFloats : Record → List Binary64
  | [] => []
  | (_, c) :: rest => floats c ++ fieldsFloats rest

end

mutual

/-- A JSON value is written as itself if its floating-point numbers are. -/
theorem toJsonWith_ofJson {rendering : Rendering} : ∀ {v : Json},
    (∀ x ∈ (ofJson v).floats, rendering.float x = .float x) → toJsonWith rendering (ofJson v) = v
  | .null, _ | .bool _, _ | .int _, _ | .text _, _ => rfl
  | .float x, plain => plain x (.head _)
  | .array _, plain => congrArg Json.array (itemsToJson_ofItems plain)
  | .object _, plain => congrArg Json.object (fieldsToJson_ofFields plain)

theorem itemsToJson_ofItems {rendering : Rendering} : ∀ {items : List Json},
    (∀ x ∈ itemsFloats (ofItems items), rendering.float x = .float x) →
      itemsToJson rendering (ofItems items) = items
  | [], _ => rfl
  | v :: rest, plain => by
      simp only [ofItems, itemsFloats, List.forall_mem_append] at plain
      rw [ofItems, itemsToJson, toJsonWith_ofJson plain.1, itemsToJson_ofItems plain.2]

theorem fieldsToJson_ofFields {rendering : Rendering} : ∀ {fields : List (String × Json)},
    (∀ x ∈ fieldsFloats (ofFields fields), rendering.float x = .float x) →
      fieldsToJson rendering (ofFields fields) = fields
  | [], _ => rfl
  | (name, v) :: rest, plain => by
      simp only [ofFields, fieldsFloats, List.forall_mem_append] at plain
      rw [ofFields, fieldsToJson, toJsonWith_ofJson plain.1, fieldsToJson_ofFields plain.2]

end

mutual

/-- A tidy value says all of itself that its floating-point numbers say. -/
theorem legibleIf_ofJson {exact : Binary64 → Prop} : ∀ {v : Json}, v.Tidy →
    (∀ x ∈ (ofJson v).floats, exact x) → v.LegibleIf exact
  | .null, _, _ | .bool _, _, _ | .text _, _, _ => trivial
  | .int _, short, _ => short
  | .float x, _, all => all x (.head _)
  | .array _, tidy, all => itemsLegibleIf_ofItems tidy all
  | .object _, tidy, all => ⟨tidy.1, fieldsLegibleIf_ofFields tidy.2 all⟩

theorem itemsLegibleIf_ofItems {exact : Binary64 → Prop} : ∀ {items : List Json},
    Json.ItemsLegibleIf (fun _ => True) items → (∀ x ∈ itemsFloats (ofItems items), exact x) →
      Json.ItemsLegibleIf exact items
  | [], _, _ => trivial
  | v :: rest, tidy, all => by
      simp only [ofItems, itemsFloats, List.forall_mem_append] at all
      exact ⟨legibleIf_ofJson tidy.1 all.1, itemsLegibleIf_ofItems tidy.2 all.2⟩

theorem fieldsLegibleIf_ofFields {exact : Binary64 → Prop} : ∀ {fields : List (String × Json)},
    Json.FieldsLegibleIf (fun _ => True) fields →
      (∀ x ∈ fieldsFloats (ofFields fields), exact x) → Json.FieldsLegibleIf exact fields
  | [], _, _ => trivial
  | (_, v) :: rest, tidy, all => by
      simp only [ofFields, fieldsFloats, List.forall_mem_append] at all
      exact ⟨legibleIf_ofJson tidy.1 all.1, fieldsLegibleIf_ofFields tidy.2 all.2⟩

end

mutual

theorem isDocument_ofJson : ∀ v : Json, isDocument (ofJson v) = true
  | .null | .bool _ | .int _ | .float _ | .text _ => rfl
  | .array items => itemsAreDocuments_ofItems items
  | .object fields => fieldsAreDocuments_ofFields fields

theorem itemsAreDocuments_ofItems : ∀ items : List Json, itemsAreDocuments (ofItems items) = true
  | [] => rfl
  | v :: rest => by
      rw [ofItems, itemsAreDocuments, isDocument_ofJson v, itemsAreDocuments_ofItems rest]
      rfl

theorem fieldsAreDocuments_ofFields :
    ∀ fields : List (String × Json), fieldsAreDocuments (ofFields fields) = true
  | [] => rfl
  | (_, v) :: rest => by
      rw [ofFields, fieldsAreDocuments, isDocument_ofJson v, fieldsAreDocuments_ofFields rest]
      rfl

end

end Cell

end GeoRegistry
