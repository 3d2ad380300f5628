/-
# Proofs.Http.Document -- which bodies are read, and as what

A body that is declared to be JSON is first taken for a text, by the zeros among its octets,
and then parsed.  ASCII has no zeros and so is meant as it stands (`meant?_ascii`).  The text
of a legible value without halves to join is read as that value (`ofRequest_render`), and the
text of one that is too deep is not read at all (`ofRequest_nested`).
-/
import GeoRegistry.Http.Document
import GeoRegistry.Proofs.Json.RoundTrip
import GeoRegistry.Proofs.Text.Utf8

namespace GeoRegistry.Http.Document

set_option autoImplicit false

/-! ## Which text is meant -/

/-- A body of ASCII characters without a null is meant as what it is. -/
theorem meant?_ascii {cs : List Char} (ascii : ∀ c ∈ cs, 0 < c.toNat ∧ c.toNat < 0x80) :
    meant? (String.ofList cs) = some (String.ofList cs) := by
  have octets : Text.Utf8.encode (String.ofList cs) = cs.map Char.toUInt8 :=
    Text.Utf8.encode_ascii fun c member => (ascii c member).2
  -- an encoding with more octets a character would show in a zero
  have full (c : Char) (member : c ∈ cs) : c.toUInt8 ≠ 0 := by
    intro zero
    have bounds := ascii c member
    have number := Text.Utf8.toNat_toUInt8 bounds.2
    rw [zero] at number
    exact Nat.ne_of_gt bounds.1 number.symm
  have encoding : Text.Encoding.ofDocument (cs.map Char.toUInt8) = .utf8 := by
    match cs, full with
    | [], _ => rfl
    | [a], full => simp [Text.Encoding.ofDocument]
    | [a, b], full => simp [Text.Encoding.ofDocument, full a, full b]
    | [a, b, c], full => simp [Text.Encoding.ofDocument]
    | a :: b :: c :: d :: rest, full => simp [Text.Encoding.ofDocument, full a, full b]
  have unmarked : unmarked (String.ofList cs) = String.ofList cs := by
    unfold unmarked
    split
    · next rest marked =>
      have bound := (ascii '\ufeff' (by rw [← String.toList_ofList (l := cs), marked]; simp)).2
      exact absurd bound (by decide)
    · rfl
  simp only [meant?, octets, encoding, unmarked]

/-! ## Which value is read -/

section Request

variable {r : Request} (declared : (r.header? "content-type").any isJsonType = true)

include declared

/-- A body that is the text of a JSON value without halves to join is read as that value. -/
theorem ofRequest_render {v : Json} (meant : meant? r.body = some (v.render Json.compact))
    (some_ : r.body.isEmpty = false) (legible : v.Legible) (seamless : v.Seamless)
    (deep : v.nesting ≤ Json.depthLimit) : ofRequest r = .ok (some (.ofJson v)) := by
  have parsed := Json.parse_render Json.compact_sound legible seamless deep
  simp only [ofRequest, some_, declared, meant, ofJsonText, parsed]
  rfl

/-- **Arrays in one another beyond the limit of depth cannot be read.** -/
theorem ofRequest_nested {n : Nat} (deep : Json.depthLimit ≤ n)
    (body : r.body = (Json.nested n).render Json.compact) : ofRequest r = .error .unreadable := by
  have meant : meant? r.body = some ((Json.nested n).render Json.compact) := by
    rw [body]
    refine meant?_ascii fun c member => ?_
    rw [Json.chars_nested, List.mem_append] at member
    rcases member with opening | closing
    · rw [List.eq_of_mem_replicate opening]
      decide
    · rw [List.eq_of_mem_replicate closing]
      decide
  have some_ : r.body.isEmpty = false := by
    rw [body, String.isEmpty_eq_false_iff]
    intro same
    have chars := congrArg String.toList same
    simp [Json.render, Json.chars_nested] at chars
  simp only [ofRequest, declared, some_, meant, ofJsonText, Json.parse_nested deep]
  rfl

end Request

/-! ## Which shape it has -/

/-- A record that a shape accepts is accepted as a document of it. -/
theorem read_accepted {α : Type} (shape : Shape α) {body : Record} {a : α}
    (given : shape.read body = .accepted a) :
    read shape (some (.record body)) = .accepted a := by
  simp only [Document.read, given, Checked.within]

end GeoRegistry.Http.Document
