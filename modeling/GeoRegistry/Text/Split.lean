/-
# Text.Split -- texts taken apart at a character

`split` yields the pieces between all occurrences, so there is one piece more
than occurrences; `cut` divides at the first one only.
-/

namespace GeoRegistry.Text

set_option autoImplicit false

/-- The pieces between the occurrences of a character. -/
def split (sep : Char) : List Char → List (List Char)
  | [] => [[]]
  | c :: rest =>
      if c = sep then [] :: split sep rest
      else
        match split sep rest with
        | [] => [[c]]
        | piece :: others => (c :: piece) :: others

/-- The pieces of a text. -/
def pieces (sep : Char) (s : String) : List String :=
  (split sep s.toList).map String.ofList

/-- What stands before the first occurrence of a character and what stands after
it; nothing stands after one that does not occur. -/
def cut (sep : Char) (s : String) : String × String :=
  let before := s.toList.takeWhile (· != sep)
  (String.ofList before, String.ofList (s.toList.drop (before.length + 1)))

/-- A text has a piece more than the character occurs in it. -/
theorem length_split (sep : Char) (cs : List Char) :
    (split sep cs).length = cs.count sep + 1 := by
  induction cs with
  | nil => rfl
  | cons c rest ih =>
      rw [split]
      split
      · next h => simp [h, ih]
      · next h =>
          rw [List.count_cons_of_ne h, ← ih]
          split
          · next none => simp [none] at ih
          · next some => simp [some]

end GeoRegistry.Text
