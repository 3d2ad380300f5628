/-
# Proofs.Json.Joined -- values whose texts are joined

What a reader makes of a value is the value with its texts joined (`joined`): halves of a
character that stand side by side in one of them are read as the character.  A value that can
be encoded has no such halves (`seamless_of_encodable`).
-/
import GeoRegistry.Json
import GeoRegistry.Proofs.Text.Surrogate
import Mathlib.Data.Option.Basic

namespace GeoRegistry.Json

set_option autoImplicit false

open Text

mutual

/-- A value with the halves of characters in its texts joined. -/
def joined : Json → Json
  | .text s => .text (joinedText s)
  | .array items => .array (joinedItems items)
  | .object fields => .object (joinedFields fields)
  | v => v

def joinedItems : List Json → List Json
  | [] => []
  | v :: rest => v.joined :: joinedItems rest

def joinedFields : List (String × Json) → List (String × Json)
  | [] => []
  | (name, v) :: rest => (joinedText name, v.joined) :: joinedFields rest

end

/-- No text of the value has the two halves of a character side by side. -/
def Seamless (v : Json) : Prop :=
  v.joined = v

theorem Seamless.field {fields : List (String × Json)} (seamless : (object fields).Seamless) :
    joinedFields fields = fields :=
  object.inj seamless

mutual

/-- **A value that can be encoded has no halves to join.** -/
theorem seamless_of_encodable : ∀ {v : Json}, v.unencodable? = none → v.Seamless
  | .null, _ | .bool _, _ | .int _, _ | .float _, _ => rfl
  | .text _, encodes => congrArg text (joinedText_of_seamless (Text.seamless_of_encodable encodes))
  | .array _, encodes => congrArg array (joinedItems_of_encodable encodes)
  | .object _, encodes => congrArg object (joinedFields_of_encodable encodes)

theorem joinedItems_of_encodable :
    ∀ {items : List Json}, itemsUnencodable? items = none → joinedItems items = items
  | [], _ => rfl
  | _ :: _, encodes => by
      obtain ⟨first, others⟩ := (Option.orElse_eq_none _ _).1 encodes
      rw [joinedItems, seamless_of_encodable first, joinedItems_of_encodable others]

theorem joinedFields_of_encodable :
    ∀ {fields : List (String × Json)}, fieldsUnencodable? fields = none →
      joinedFields fields = fields
  | [], _ => rfl
  | (_, _) :: _, encodes => by
      obtain ⟨name, later⟩ := (Option.orElse_eq_none _ _).1 encodes
      obtain ⟨first, others⟩ := (Option.orElse_eq_none _ _).1 later
      rw [joinedFields, joinedText_of_seamless (Text.seamless_of_encodable name),
        seamless_of_encodable first, joinedFields_of_encodable others]

end

end GeoRegistry.Json
