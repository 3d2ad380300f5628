/-
# Proofs.Outcome -- what was had along the way to a result

Work that goes from one outcome to the next has a result only if each step had one, and a
document is read only if each part of it was.
-/
import GeoRegistry.Validation.Checked

namespace GeoRegistry

set_option autoImplicit false

/-! ## Outcomes -/

section Outcomes

variable {ε α β : Type}

/-- What follows on something had a result, so that had one. -/
theorem bind_eq_ok {x : Except ε α} {f : α → Except ε β} {b : β} (made : (x >>= f) = .ok b) :
    ∃ a, x = .ok a ∧ f a = .ok b := by
  cases x with
  | error e => cases made
  | ok a => exact ⟨a, rfl, made⟩

theorem map_eq_ok {x : Except ε α} {f : α → β} {b : β} (made : x.map f = .ok b) :
    ∃ a, x = .ok a ∧ f a = b := by
  cases x with
  | error e => cases made
  | ok a => exact ⟨a, rfl, Except.ok.inj made⟩

theorem mapError_eq_ok {ε' : Type} {x : Except ε α} {f : ε → ε'} {a : α}
    (made : x.mapError f = .ok a) : x = .ok a := by
  cases x with
  | error e => cases made
  | ok a' => exact congrArg _ (Except.ok.inj made)

end Outcomes

/-! ## Readings -/

section Readings

variable {α β : Type}

/-- What is read of parts was read of each part. -/
theorem Checked.seq_eq_accepted {f : Checked (α → β)} {x : Checked α} {b : β}
    (made : f <*> x = .accepted b) : ∃ g a, f = .accepted g ∧ x = .accepted a ∧ b = g a := by
  cases f with
  | refused first => cases x <;> cases made
  | accepted g =>
      cases x with
      | refused issues => cases made
      | accepted a =>
          cases made
          exact ⟨g, a, rfl, rfl, rfl⟩

theorem Checked.map_eq_accepted {f : α → β} {x : Checked α} {b : β}
    (made : f <$> x = .accepted b) : ∃ a, x = .accepted a ∧ b = f a := by
  cases x with
  | refused issues => cases made
  | accepted a =>
      cases made
      exact ⟨a, rfl, rfl⟩

theorem Checked.within_eq_accepted {x : Checked α} {step : Locus} {a : α}
    (read : x.within step = .accepted a) : x = .accepted a := by
  cases x with
  | refused issues => cases read
  | accepted a' => exact read

/-- What is read, if anything is, has a property. -/
def Checked.Gives (P : α → Prop) (x : Checked α) : Prop :=
  ∀ a, x = .accepted a → P a

theorem Checked.Gives.map {P : β → Prop} {f : α → β} {x : Checked α} (all : ∀ a, P (f a)) :
    (f <$> x).Gives P := by
  intro b made
  obtain ⟨a, -, rfl⟩ := map_eq_accepted made
  exact all a

/-- The property comes from one part and what is made of the others. -/
theorem Checked.Gives.part {P : β → Prop} {Q : α → Prop} {f : Checked (α → β)} {x : Checked α}
    (first : f.Gives fun g => ∀ a, Q a → P (g a)) (here : x.Gives Q) : (f <*> x).Gives P := by
  intro b made
  obtain ⟨g, a, taken, read, rfl⟩ := seq_eq_accepted made
  exact first g taken a (here a read)

theorem Checked.Gives.seq {P : β → Prop} {f : Checked (α → β)} {x : Checked α}
    (first : f.Gives fun g => ∀ a, P (g a)) : (f <*> x).Gives P :=
  .part (fun g taken a (_ : True) => first g taken a) fun _ _ => trivial

/-- The reading accepts. -/
def Checked.Accepts (x : Checked α) : Prop :=
  ∃ a, x = .accepted a

@[simp] theorem Checked.accepts_accepted (a : α) : (Checked.accepted a).Accepts :=
  ⟨a, rfl⟩

/-- Parts are accepted together when each of them is. -/
@[simp] theorem Checked.accepts_seq_iff {f : Checked (α → β)} {x : Checked α} :
    (f <*> x).Accepts ↔ f.Accepts ∧ x.Accepts := by
  constructor
  · rintro ⟨b, read⟩
    obtain ⟨g, a, made, taken, -⟩ := seq_eq_accepted read
    exact ⟨⟨g, made⟩, ⟨a, taken⟩⟩
  · rintro ⟨⟨g, rfl⟩, ⟨a, rfl⟩⟩
    exact ⟨g a, rfl⟩

@[simp] theorem Checked.accepts_map_iff {f : α → β} {x : Checked α} :
    (f <$> x).Accepts ↔ x.Accepts := by
  constructor
  · rintro ⟨b, read⟩
    obtain ⟨a, taken, -⟩ := map_eq_accepted read
    exact ⟨a, taken⟩
  · rintro ⟨a, rfl⟩
    exact ⟨f a, rfl⟩

end Readings

end GeoRegistry
