/-
# Proofs.Settings -- what an environment can configure

A variable of the environment is a text, and an integer is read only from a text without too
many digits (`Scalar.integer_short`).  So whoever the administrator is said to be, the id can be
written again (`ofEnvironment_adminId`).
-/
import GeoRegistry.Proofs.Validation.Settled
import GeoRegistry.Settings

namespace GeoRegistry

set_option autoImplicit false

open Text

namespace Settings

/-- All settings but the one that is written in JSON are texts. -/
theorem cells_text {environment : List (String × String)} {r : Record} {name : String} {c : Cell}
    (made : cells environment = .ok r) (found : r.lookup name = some c)
    (other : name ≠ listSetting) : ∃ s, c = .text s := by
  induction environment generalizing r with
  | nil =>
      obtain rfl := Except.ok.inj made
      cases found
  | cons v rest ih =>
      -- a further cell under another name is passed by, and one that is a text is one
      have behind {name' : String} {c' : Cell}
          (made : (cells rest).map ((name', c') :: ·) = .ok r)
          (text : name = name' → ∃ s, c' = .text s) : ∃ s, c = .text s := by
        obtain ⟨r', read, rfl⟩ := map_eq_ok made
        rw [List.lookup_cons] at found
        split at found
        · next same =>
          obtain rfl := Option.some.inj found
          exact text (beq_iff_eq.1 same)
        · exact ih read found
      simp only [cells] at made
      split at made
      · next list =>
        split at made
        · cases made
        · cases made
        · exact ih made found
        · exact behind made fun same => absurd (same.trans list) other
      · exact behind made fun _ => ⟨v.2, rfl⟩

/-- The id of the administrator is read from its own cell. -/
theorem read_adminId (r : Record) :
    (read r).Gives fun s =>
      Record.defaulted "admin_id" Scalar.integer standard.adminId r = .accepted s.adminId := by
  unfold read
  -- the settings behind it, its own reading, and the settings before it
  iterate 14 refine Checked.Gives.seq ?_
  refine Checked.Gives.part ?_ fun id (found : _ = Checked.accepted id) => found
  iterate 16 refine Checked.Gives.seq ?_
  exact Checked.Gives.map fun _ => by intros; assumption

/-- **The id of a configured administrator is short enough to be written.** -/
theorem ofEnvironment_adminId {environment : List (String × String)} {s : Settings}
    (configured : ofEnvironment environment = .ok s) :
    (Nat.toDigits 10 s.adminId.natAbs).length ≤ maxDigits := by
  obtain ⟨r, made, configured⟩ := bind_eq_ok configured
  cases accepted : read r with
  | refused issues => simp [accepted] at configured
  | accepted s' =>
      rw [accepted] at configured
      obtain rfl := Except.ok.inj configured
      have known := read_adminId r s' accepted
      unfold Record.defaulted at known
      split at known
      · next c found =>
        obtain ⟨text, rfl⟩ := cells_text made found (by decide)
        exact Scalar.integer_short (v := .text text) trivial (Checked.within_eq_accepted known)
      · obtain same := Checked.accepted.inj known
        rw [← same]
        decide

end Settings

end GeoRegistry
