/-
# Proofs.Validation.Settled -- what is read is read again from what is written of it

A value may be spelled in many ways; it is written in one, and read again from that as the
same value (`Rereads`).  A reading of single values is stable when this holds of all that it
reads (`Stable`); a document settles as its parts do (`Settled`, `Settled.seq`).  What is
written of a number is taken to read back (`Binary64.Exact`).
-/
import GeoRegistry.Proofs.Cell
import GeoRegistry.Proofs.Outcome
import GeoRegistry.Proofs.Text.Utf8
import GeoRegistry.Proofs.Text.WholeNumber
import GeoRegistry.Proofs.Timestamp
import GeoRegistry.Proofs.Uuid
import GeoRegistry.Thing

namespace GeoRegistry

set_option autoImplicit false

open Text

/-! ## Values in fields -/

/-- The number is finite, and read from its text. -/
def Binary64.Exact (x : Binary64) : Prop :=
  x.isFinite = true ∧ Json.ReadsBack x

/-- All floating-point numbers of a cell are exact. -/
def Cell.Exact (c : Cell) : Prop :=
  ∀ x ∈ c.floats, x.Exact

mutual

/-- Containers lie in each other no deeper than values do. -/
theorem Json.nesting_le_height : ∀ v : Json, v.nesting ≤ v.height
  | .null | .bool _ | .int _ | .float _ | .text _ => Nat.zero_le _
  | .array items => Nat.add_le_add_left (Json.itemsNesting_le items) 1
  | .object fields => Nat.add_le_add_left (Json.fieldsNesting_le fields) 1

theorem Json.itemsNesting_le : ∀ items : List Json, itemsNesting items ≤ itemsHeight items
  | [] => Nat.le_refl _
  | v :: rest => by
      have first := Json.nesting_le_height v
      have others := Json.itemsNesting_le rest
      simp only [itemsNesting, itemsHeight]
      omega

theorem Json.fieldsNesting_le :
    ∀ fields : List (String × Json), fieldsNesting fields ≤ fieldsHeight fields
  | [] => Nat.le_refl _
  | (_, v) :: rest => by
      have first := Json.nesting_le_height v
      have others := Json.fieldsNesting_le rest
      simp only [fieldsNesting, fieldsHeight]
      omega

end

/-- What is written in a field is readable, and no higher than it seems. -/
structure Json.Fit (j : Json) : Prop where
  readable : j.LegibleIf ReadsBack
  shallow : j.nesting ≤ j.openHeight + 1

variable {α β : Type}

/-- What is written of a value is fit for a field, and the value is read from it. -/
structure Rereads (read : Cell → Checked α) (inject : α → Cell) (a : α) : Prop where
  fit : (inject a).toJson.Fit
  present : (inject a).toJson ≠ .null
  again : read (.ofJson (inject a).toJson) = .accepted a

/-- All that is read of JSON values is read again, if its numbers are exact. -/
def Stable (read : Cell → Checked α) (inject : α → Cell) : Prop :=
  ∀ (v : Json) (a : α), v.Tidy → read (.ofJson v) = .accepted a → (inject a).Exact →
    Rereads read inject a

/-! ## Single values -/

namespace Scalar

theorem settle_eq_accepted {cell : Cell} {x : Except IssueKind α} {a : α}
    (read : settle cell x = .accepted a) : x = .ok a := by
  cases x with
  | error kind => cases read
  | ok a' =>
      cases read
      rfl

theorem encodable_ascii {s : String} (ascii : ∀ c ∈ s.toList, c.toNat < 0x80) :
    encodable s = .ok s := by
  rw [encodable, unencodable?_ascii ascii]
  rfl

/-- A text that is written is fit for a field. -/
theorem fit_text (s : String) : (Json.text s).Fit :=
  ⟨trivial, by simp [Json.nesting]⟩

theorem text_stable : Stable text .text := fun _ s _ _ _ =>
  ⟨fit_text s, Json.noConfusion, rfl⟩

theorem bool_stable : Stable bool .bool := fun _ _ _ _ _ =>
  ⟨⟨trivial, by simp [Cell.toJson, Cell.toJsonWith, Json.nesting]⟩, Json.noConfusion, rfl⟩

theorem uuid_stable : Stable uuid .uuid := fun _ id _ _ _ => by
  refine ⟨fit_text _, Json.noConfusion, ?_⟩
  have read : (encodable id.text).bind uuidOfText = .ok id := by
    rw [encodable_ascii id.text_ascii]
    simp [Except.bind, uuidOfText, Uuid.ofText?_text]
  exact congrArg (settle _) read

/-- The labels are texts with octets, and no two stages have the same. -/
theorem status_stable : Stable Thing.Status.read Thing.Status.toCell := fun _ s _ _ _ => by
  refine ⟨fit_text _, Json.noConfusion, ?_⟩
  cases s <;> rfl

/-! ### Timestamps -/

theorem spelled_eq_ok {read : Option Timestamp} {t : Timestamp} (taken : spelled read = .ok t) :
    read = some t := by
  cases read with
  | none => cases taken
  | some t' =>
      cases taken
      rfl

/-- A timestamp of a JSON value has an offset of whole minutes, or none. -/
theorem time_minutes {v : Json} {t : Timestamp} (read : time (.ofJson v) = .accepted t) :
    t.WholeMinutes := by
  have taken := settle_eq_accepted read
  cases v with
  | text s =>
      obtain ⟨s', -, spelled⟩ := bind_eq_ok taken
      exact Timestamp.ofText?_minutes (spelled_eq_ok spelled)
  | int n =>
      simp only [Cell.ofJson] at taken
      split at taken
      · exact Timestamp.ofInteger?_minutes (spelled_eq_ok taken)
      · cases taken
  | float x => exact Timestamp.ofNumber?_minutes (spelled_eq_ok taken)
  | null | bool | array | object => cases taken

theorem time_stable : Stable time .time := fun _ t _ read _ => by
  refine ⟨fit_text _, Json.noConfusion, ?_⟩
  have again : (encodable (t.text Timestamp.isoLayout)).bind
      (fun s => spelled (Timestamp.ofText? s)) = .ok t := by
    rw [encodable_ascii t.text_ascii]
    simp [Except.bind, spelled, Timestamp.ofText?_text (time_minutes read)]
  exact congrArg (settle _) again

/-! ### Numbers -/

/-- An integer has no more digits than are read. -/
abbrev Short (n : Int) : Prop :=
  (Nat.toDigits 10 n.natAbs).length ≤ maxDigits

theorem short_of_word {n : Int} (low : -WholeNumber.wordBound < n)
    (high : n < WholeNumber.wordBound) : Short n := by
  have size : n.natAbs < 10 ^ 19 := by
    simp only [WholeNumber.wordBound] at low high
    omega
  have few := (Nat.length_toDigits_le_iff (b := 10) (k := 19) (by decide) (by decide)).2 size
  exact Nat.le_trans few (by decide)

theorem short_of_text {s : String} {n : Int} (read : integerOfText s = .ok n) : Short n := by
  unfold integerOfText at read
  split at read
  · next number =>
    cases read
    exact WholeNumber.read_short number
  · cases read
  · cases read

/-- An integer that is read of a tidy value is short. -/
theorem integer_short {v : Json} {n : Int} (tidy : v.Tidy)
    (read : integer (.ofJson v) = .accepted n) : Short n := by
  have taken := settle_eq_accepted read
  cases v with
  | int m =>
      cases taken
      exact tidy
  | bool b =>
      cases b <;> cases taken <;> decide
  | float x =>
      simp only [Cell.ofJson, integerOfFloat] at taken
      split at taken
      · cases taken
      · split at taken
        · split at taken
          · next within =>
            cases taken
            exact short_of_word within.1 within.2
          · cases taken
        · cases taken
  | text s =>
      obtain ⟨s', -, spelled⟩ := bind_eq_ok taken
      exact short_of_text spelled
  | null | array | object => cases taken

theorem integer_stable : Stable integer .int := fun _ _ tidy read _ =>
  ⟨⟨integer_short tidy read, by simp [Cell.toJson, Cell.toJsonWith, Json.nesting]⟩,
    Json.noConfusion, rfl⟩

theorem float_stable : Stable float .float := fun _ x _ _ exact => by
  have number := exact x (.head _)
  have written : (Cell.float x).toJson = .float x := by
    simp [Cell.toJson, Cell.toJsonWith, Cell.answerRendering, number.1]
  have shallow : (Json.float x).nesting ≤ (Json.float x).openHeight + 1 := by
    simp [Json.nesting]
  constructor
  · rw [written]
    exact ⟨number.2, shallow⟩
  · rw [written]
    exact Json.noConfusion
  · rw [written]
    rfl

/-! ### Records -/

theorem record_stable : Stable record .record := fun v fields tidy read exact => by
  have taken := settle_eq_accepted read
  cases v with
  | object fs =>
      cases taken
      have written : (Cell.ofJson (.object fs)).toJson = .object fs :=
        Cell.toJsonWith_ofJson fun x member => by
          simp [Cell.answerRendering, (exact x member).1]
      have readable : (Json.object fs).LegibleIf Json.ReadsBack :=
        Cell.legibleIf_ofJson tidy fun x member => (exact x member).2
      change Cell.toJson (.record (Cell.ofFields fs)) = _ at written
      constructor
      · rw [written]
        have shallow := Json.fieldsNesting_le fs
        exact ⟨readable, by simp only [Json.nesting, Json.openHeight]; omega⟩
      · rw [written]
        exact Json.noConfusion
      · rw [written]
        rfl
  | null | bool | int | float | text | array => cases taken

end Scalar

/-! ## Parts of a document -/

/-- Parts of a document that are written under names: what is written of them is fit for fields,
and they are read again of every record that says it under these names. -/
def Settled (read : Record → Checked β) (written : Record) (b : β) : Prop :=
  (∀ f ∈ written, f.2.Exact) → (∀ f ∈ written, f.2.toJson.Fit) ∧
    ∀ r : Record, (∀ f ∈ written, r.lookup f.1 = some (.ofJson f.2.toJson)) → read r = .accepted b

namespace Settled

theorem map {read : Record → Checked α} {written : Record} {a : α} (f : α → β)
    (settled : Settled read written a) : Settled (fun r => f <$> read r) written (f a) := by
  intro exact
  obtain ⟨fit, again⟩ := settled exact
  refine ⟨fit, fun r said => ?_⟩
  change f <$> read r = _
  rw [again r said]
  rfl

/-- Parts that settle do so together. -/
theorem seq {read : Record → Checked (α → β)} {part : Record → Checked α}
    {written more : Record} {f : α → β} {a : α} (first : Settled read written f)
    (last : Settled part more a) :
    Settled (fun r => read r <*> part r) (written ++ more) (f a) := by
  intro exact
  obtain ⟨exact₁, exact₂⟩ := List.forall_mem_append.1 exact
  obtain ⟨fit₁, again₁⟩ := first exact₁
  obtain ⟨fit₂, again₂⟩ := last exact₂
  refine ⟨List.forall_mem_append.2 ⟨fit₁, fit₂⟩, fun r said => ?_⟩
  obtain ⟨said₁, said₂⟩ := List.forall_mem_append.1 said
  change read r <*> part r = _
  rw [again₁ r said₁, again₂ r said₂]
  rfl

end Settled

/-- One part that is written under a name. -/
theorem Settled.one {name : String} {c : Cell} {read : Record → Checked β} {b : β}
    (rereads : c.Exact → c.toJson.Fit ∧
      ∀ r : Record, r.lookup name = some (.ofJson c.toJson) → read r = .accepted b) :
    Settled read [(name, c)] b := by
  intro exact
  simpa using rereads (exact _ (.head _))

theorem Cell.ofJson_ne_null {v : Json} (present : v ≠ .null) : Cell.ofJson v ≠ .null := by
  cases v with
  | null => exact absurd rfl present
  | bool | int | float | text | array | object => exact Cell.noConfusion

theorem Record.optional_present {name : String} {read : Cell → Checked α} {r : Record} {c : Cell}
    (said : r.lookup name = some c) (present : c ≠ .null) :
    Record.optional name read r = ((read c).within (.name name)).map some := by
  unfold Record.optional
  rw [said]
  split
  · next nothing => cases nothing
  · next nothing => exact absurd (Option.some.inj nothing) present
  · next same => rw [Option.some.inj same]

namespace Stable

variable {read : Cell → Checked α} {inject : α → Cell} {fs : List (String × Json)} {name : String}

/-- What is read of a value of the record is read again. -/
theorem rereads (stable : Stable read inject) (tidy : (Json.object fs).Tidy) {c : Cell}
    (there : (Cell.ofFields fs).lookup name = some c) {a : α}
    (taken : (read c).within (.name name) = .accepted a) (exact : (inject a).Exact) :
    Rereads read inject a := by
  obtain ⟨v, member, rfl⟩ := Cell.lookup_ofFields there
  exact stable v a (Json.fieldsLegibleIf_iff.1 tidy.2 _ member)
    (Checked.within_eq_accepted taken) exact

theorem required (stable : Stable read inject) (tidy : (Json.object fs).Tidy) {a : α}
    (taken : Record.required name read (Cell.ofFields fs) = .accepted a) :
    Settled (Record.required name read) [(name, inject a)] a := by
  refine .one fun exact => ?_
  unfold Record.required at taken
  split at taken
  · next c there =>
    have rereads := stable.rereads tidy there taken exact
    refine ⟨rereads.fit, fun r said => ?_⟩
    simp only [Record.required, said, rereads.again, Checked.within]
  · cases taken

theorem defaulted (stable : Stable read inject) (tidy : (Json.object fs).Tidy) {default a : α}
    (spelled : ∃ v : Json, v.Tidy ∧ read (.ofJson v) = .accepted default)
    (taken : Record.defaulted name read default (Cell.ofFields fs) = .accepted a) :
    Settled (Record.defaulted name read default) [(name, inject a)] a := by
  refine .one fun exact => ?_
  have rereads : Rereads read inject a := by
    unfold Record.defaulted at taken
    split at taken
    · next c there => exact stable.rereads tidy there taken exact
    · obtain ⟨v, tidy, spelled⟩ := spelled
      cases taken
      exact stable v _ tidy spelled exact
  refine ⟨rereads.fit, fun r said => ?_⟩
  simp only [Record.defaulted, said, rereads.again, Checked.within]

theorem optional (stable : Stable read inject) (tidy : (Json.object fs).Tidy) {o : Option α}
    (taken : Record.optional name read (Cell.ofFields fs) = .accepted o) :
    Settled (Record.optional name read) [(name, .ofOption inject o)] o := by
  refine .one fun exact => ?_
  cases o with
  | none =>
      refine ⟨⟨trivial, Nat.zero_le _⟩, fun r said => ?_⟩
      simp only [Record.optional, said]
      rfl
  | some a =>
      have rereads : Rereads read inject a := by
        unfold Record.optional at taken
        split at taken
        · cases taken
        · cases taken
        · next c there =>
          obtain ⟨a', read', same⟩ := Checked.map_eq_accepted taken
          cases same
          exact stable.rereads tidy there read' exact
      refine ⟨rereads.fit, fun r said => ?_⟩
      rw [Record.optional_present said (Cell.ofJson_ne_null rereads.present)]
      change Checked.map some ((read (.ofJson (inject a).toJson)).within (.name name)) = _
      rw [rereads.again]
      rfl

end Stable

end GeoRegistry
