/-
# Proofs.Validation.Agreement -- what is read of documents that agree

Two records agree on some names when they say the same under each of them
(`Record.AgreeOn`), whatever else they hold.  A content is read name by name, so contents
that are both read of records that agree on all of its names are one content; and where the
records agree on all names but that of the id, the contents differ in their ids only.

`Both` relates what two readings accept, and follows the composition of readings: related
functions are applied to related values.
-/
import GeoRegistry.Proofs.Outcome
import GeoRegistry.Thing
import GeoRegistry.ThingType

namespace GeoRegistry

set_option autoImplicit false

/-- Two records say the same under each of the names. -/
def Record.AgreeOn (names : List String) (r r' : Record) : Prop :=
  ∀ name ∈ names, r.lookup name = r'.lookup name

theorem Record.AgreeOn.mono {names names' : List String} {r r' : Record}
    (agree : Record.AgreeOn names r r') (fewer : ∀ name ∈ names', name ∈ names) :
    Record.AgreeOn names' r r' :=
  fun name member => agree name (fewer name member)

namespace Checked

variable {α α' β β' : Type}

/-! ## Pairs of readings -/

/-- Where both readings accept, what they accept is related. -/
def Both (R : α → α' → Prop) (x : Checked α) (y : Checked α') : Prop :=
  ∀ a a', x = .accepted a → y = .accepted a' → R a a'

theorem Both.map {R : α → α' → Prop} {S : β → β' → Prop} {f : α → β} {g : α' → β'}
    {x : Checked α} {y : Checked α'} (keeps : ∀ a a', R a a' → S (f a) (g a'))
    (both : Both R x y) : Both S (f <$> x) (g <$> y) := by
  intro b b' read read'
  obtain ⟨a, taken, rfl⟩ := map_eq_accepted read
  obtain ⟨a', taken', rfl⟩ := map_eq_accepted read'
  exact keeps a a' (both a a' taken taken')

/-- One more part is read, the same one on both sides. -/
theorem Both.part {S : β → β' → Prop} {f : Checked (α → β)} {g : Checked (α → β')}
    {x y : Checked α} (first : Both (fun f g => ∀ a, S (f a) (g a)) f g) (same : Both Eq x y) :
    Both S (f <*> x) (g <*> y) := by
  intro b b' read read'
  obtain ⟨k, a, made, taken, rfl⟩ := seq_eq_accepted read
  obtain ⟨k', a', made', taken', rfl⟩ := seq_eq_accepted read'
  obtain rfl := same a a' taken taken'
  exact first k k' made made' a

/-- One more part is read, whatever it is on either side. -/
theorem Both.free {S : β → β' → Prop} {f : Checked (α → β)} {g : Checked (α' → β')}
    {x : Checked α} {y : Checked α'} (first : Both (fun f g => ∀ a a', S (f a) (g a')) f g) :
    Both S (f <*> x) (g <*> y) := by
  intro b b' read read'
  obtain ⟨k, a, made, -, rfl⟩ := seq_eq_accepted read
  obtain ⟨k', a', made', -, rfl⟩ := seq_eq_accepted read'
  exact first k k' made made' a a'

end Checked

/-! ## Fields -/

section Fields

variable {α : Type} {name : String} {r r' : Record} (same : r.lookup name = r'.lookup name)

include same

theorem both_required (read : Cell → Checked α) :
    Checked.Both Eq (Record.required name read r) (Record.required name read r') := by
  intro a a' taken taken'
  rw [Record.required, ← same] at taken'
  rw [Record.required] at taken
  cases there : r.lookup name with
  | none =>
      simp only [there] at taken
      cases taken
  | some cell =>
      simp only [there] at taken taken'
      exact Checked.accepted.inj (taken.symm.trans taken')

theorem both_optional (read : Cell → Checked α) :
    Checked.Both Eq (Record.optional name read r) (Record.optional name read r') := by
  intro a a' taken taken'
  rw [Record.optional, ← same] at taken'
  exact Checked.accepted.inj (taken.symm.trans taken')

theorem both_defaulted (read : Cell → Checked α) (default : α) :
    Checked.Both Eq (Record.defaulted name read default r)
      (Record.defaulted name read default r') := by
  intro a a' taken taken'
  rw [Record.defaulted, ← same] at taken'
  exact Checked.accepted.inj (taken.symm.trans taken')

end Fields

/-! ## Contents -/

/-- The names of a thing's content. -/
def Thing.Content.names : List String :=
  ["id", "type_id", "name", "description", "comment", "external_id", "external_ref", "build_at",
   "status", "contained_by", "contained_by_old", "inactivated", "inactivated_time",
   "inactivated_by", "inactivated_reason", "validated", "validated_time", "validated_by",
   "managed_by", "more_data", "pos_x", "pos_y"]

theorem Thing.Content.fields_names (c : Thing.Content) : c.fields.map Prod.fst = names := rfl

/-- The names of a type's content. -/
def ThingType.Content.names : List String :=
  ["name", "description", "comment", "external_id", "table_name", "geometry_type", "inactivated",
   "inactivated_time", "inactivated_by", "inactivated_reason", "managed_by", "icon_path",
   "more_data_schema"]

theorem ThingType.Content.fields_names (c : ThingType.Content) : c.fields.map Prod.fst = names :=
  rfl

/-- **Contents of things that agree but for their ids.**  What is known of the ids is known
of those that were read. -/
theorem Thing.Content.both_read {r r' : Record} {P : Uuid → Uuid → Prop}
    (agree : Record.AgreeOn (names.erase "id") r r')
    (ids : Checked.Both P (Record.required "id" Scalar.uuid r)
      (Record.required "id" Scalar.uuid r')) :
    Checked.Both (fun c c' => P c.id c'.id ∧ c' = { c with id := c'.id }) (read r) (read r') := by
  have say (name : String) (listed : name ∈ names.erase "id") : r.lookup name = r'.lookup name :=
    agree name listed
  unfold read
  -- from the last part to the second they are the same on both sides, and the first is the id
  repeat first
    | refine Checked.Both.part ?_ (both_required (say _ (by decide)) _)
    | refine Checked.Both.part ?_ (both_optional (say _ (by decide)) _)
    | refine Checked.Both.part ?_ (both_defaulted (say _ (by decide)) _ _)
  refine Checked.Both.map (fun id id' related => ?_) ids
  intros
  exact ⟨related, rfl⟩

/-- **Contents of types that agree.** -/
theorem ThingType.Content.both_read {r r' : Record} (agree : Record.AgreeOn names r r') :
    Checked.Both Eq (read r) (read r') := by
  have say (name : String) (listed : name ∈ names) : r.lookup name = r'.lookup name :=
    agree name listed
  unfold read
  repeat first
    | refine Checked.Both.part ?_ (both_required (say _ (by decide)) _)
    | refine Checked.Both.part ?_ (both_optional (say _ (by decide)) _)
    | refine Checked.Both.part ?_ (both_defaulted (say _ (by decide)) _ _)
  refine Checked.Both.map ?_ (both_required (say "name" (by decide)) Scalar.text)
  rintro name _ rfl
  intros
  rfl

end GeoRegistry
