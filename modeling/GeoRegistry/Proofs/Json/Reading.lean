/-
# Proofs.Json.Reading -- what is read of a text

Whatever text a value is read of, its integers are no longer than those that are read and
no name stands twice in an object (`Tidy`).  This goes from each reader to the ones that
call it (`value_tidy`, `items_tidy`, `fields_tidy`).
-/
import GeoRegistry.Proofs.Json.RoundTrip

namespace GeoRegistry.Json

set_option autoImplicit false

open Text

/-! ## Tidy values -/

/-- Every integer is short enough to be read, and every name of an object stands once. -/
abbrev Tidy (v : Json) : Prop :=
  v.LegibleIf fun _ => True

theorem itemsLegibleIf_iff {exact : Binary64 → Prop} {items : List Json} :
    ItemsLegibleIf exact items ↔ ∀ v ∈ items, v.LegibleIf exact := by
  induction items with
  | nil => simp [ItemsLegibleIf]
  | cons v rest ih => simp [ItemsLegibleIf, ih]

theorem fieldsLegibleIf_iff {exact : Binary64 → Prop} {fields : List (String × Json)} :
    FieldsLegibleIf exact fields ↔ ∀ f ∈ fields, f.2.LegibleIf exact := by
  induction fields with
  | nil => simp [FieldsLegibleIf]
  | cons f rest ih => simp [FieldsLegibleIf, ih]

/-! ## Numbers -/

theorem digits_lt {cs : List Char} (digits : ∀ c ∈ cs, c.isDigit = true) :
    ∀ d ∈ digitValues cs, d < 10 := by
  intro d member
  obtain ⟨c, there, rfl⟩ := List.mem_map.1 member
  obtain ⟨low, high⟩ := digit_bounds (digits c there)
  omega

theorem integerPart?_digits {cs whole left : List Char}
    (read : integerPart? cs = some (whole, left)) : ∀ c ∈ whole, c.isDigit = true := by
  unfold integerPart? at read
  split at read
  · cases read
    simp [Char.isDigit]
  · split at read
    · cases read
    · cases read
      exact fun c member => (List.all_eq_true.1 List.all_takeWhile) c member

/-- A number that is read is short, or has a fraction or an exponent. -/
theorem number_tidy {here cs rest : List Char} {negative : Bool} {v : Json}
    (read : number .values here negative cs = .ok (v, rest)) : v.Tidy := by
  obtain ⟨whole, left, fraction, behind, exponent, taken, -, -, made⟩ := number_eq_ok.1 read
  unfold numberValue at made
  split at made
  · split at made
    · next short =>
      cases made
      have small := digits_lt (integerPart?_digits taken)
      have fits : (digitValues whole).length ≤ maxDigits := by simpa [digitValues] using short
      simpa [Tidy, LegibleIf] using length_toDigits_ofDigits small fits (by decide)
    · cases made
  · cases made
    trivial

theorem atom_tidy {cs rest : List Char} {v : Json} (read : atom .values cs = .ok (v, rest)) :
    v.Tidy := by
  unfold atom at read
  split at read
  case h_1 | h_2 | h_3 | h_4 | h_5 | h_6 =>
    obtain ⟨rfl, -⟩ := word_eq_ok read
    trivial
  case h_7 | h_8 => exact number_tidy read

/-! ## Values -/

mutual

/-- **What is read is tidy.**  Each reader hands on what the readers below it read. -/
theorem value_tidy : ∀ {fuel depth : Nat} {cs rest : List Char} {v : Json},
    value .values fuel depth cs = .ok (v, rest) → v.Tidy
  | 0, _, _, _, _, read => by cases read
  | fuel + 1, depth, cs, rest, v, read => by
      rw [value.eq_def] at read
      dsimp only at read
      split at read
      · obtain ⟨s, -, same⟩ := map_eq_ok read
        cases same
        trivial
      · cases read
      · split at read
        · cases read
          trivial
        · obtain ⟨r, taken, same⟩ := map_eq_ok read
          cases same
          exact itemsLegibleIf_iff.2 (items_tidy taken)
      · cases read
      · split at read
        · cases read
          exact ⟨.nil, trivial⟩
        · obtain ⟨r, taken, same⟩ := map_eq_ok read
          cases same
          exact ⟨distinct_names r.1,
            fieldsLegibleIf_iff.2 fun f member => fields_tidy taken f (distinct_subset r.1 member)⟩
      · exact atom_tidy read

theorem items_tidy : ∀ {fuel depth : Nat} {cs rest : List Char} {vs : List Json},
    items .values fuel depth cs = .ok (vs, rest) → ∀ v ∈ vs, v.Tidy
  | 0, _, _, _, _, read => by cases read
  | fuel + 1, depth, cs, rest, vs, read => by
      rw [items.eq_def] at read
      dsimp only at read
      split at read
      · cases read
      · next v left first =>
        split at read
        · cases read
          simpa using value_tidy first
        · obtain ⟨r, taken, same⟩ := map_eq_ok read
          cases same
          exact List.forall_mem_cons.2 ⟨value_tidy first, items_tidy taken⟩
        · cases read

theorem fields_tidy : ∀ {fuel depth : Nat} {cs rest : List Char} {fs : List (String × Json)},
    fields .values fuel depth cs = .ok (fs, rest) → ∀ f ∈ fs, f.2.Tidy
  | 0, _, _, _, _, read => by cases read
  | fuel + 1, depth, cs, rest, fs, read => by
      rw [fields.eq_def] at read
      dsimp only at read
      split at read
      · split at read
        · cases read
        · split at read
          · split at read
            · cases read
            · next v left first =>
              split at read
              · cases read
                simpa using value_tidy first
              · obtain ⟨r, taken, same⟩ := map_eq_ok read
                cases same
                exact List.forall_mem_cons.2 ⟨value_tidy first, fields_tidy taken⟩
              · cases read
          · cases read
      · cases read

end

/-- **What is read of a text is tidy.** -/
theorem parse_tidy {s : String} {v : Json} (read : parse s = .ok v) : v.Tidy := by
  unfold parse parseChars at read
  split at read
  · cases read
  · next taken =>
    split at read
    · cases read
      exact value_tidy taken
    · cases read

end GeoRegistry.Json
