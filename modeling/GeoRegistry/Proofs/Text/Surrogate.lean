/-
# Proofs.Text.Surrogate -- halves of a character side by side

A text may hold the first half of a character and right behind it the second one.  Written out
in escapes it cannot be told from the text that has the character there, and it is read as
that one (`joined`).  A text without such a seam is its own joined text
(`joinedText_of_seamless`), and a text that has octets has no seam (`seamless_of_encodable`).
-/
import GeoRegistry.Text.Surrogate
import Mathlib.Data.List.Chain
import Mathlib.Data.List.TakeWhile

namespace GeoRegistry.Text

set_option autoImplicit false

namespace Surrogate

/-- The character that two others make together: that of their halves. -/
def whole? (c d : Char) : Option Char :=
  match half? c, half? d with
  | some high, some low => if isHigh high && isLow low then some (pair high low) else none
  | _, _ => none

/-- Halves that stand side by side read as the character they make. -/
def joined : List Char → List Char
  | c :: d :: rest =>
      match whole? c d with
      | some whole => whole :: joined rest
      | none => c :: joined (d :: rest)
  | cs => cs

theorem whole?_eq_some {c d whole : Char} (made : whole? c d = some whole) :
    ∃ high low, half? c = some high ∧ half? d = some low ∧ isHigh high = true ∧
      isLow low = true ∧ pair high low = whole := by
  unfold whole? at made
  split at made
  · next high low first second =>
    split at made
    · next halves =>
      obtain ⟨isHigh, isLow⟩ := Bool.and_eq_true_iff.1 halves
      exact ⟨high, low, first, second, isHigh, isLow, Option.some.inj made⟩
    · cases made
  · cases made

end Surrogate

/-- A text with halves of characters joined where they stand side by side. -/
def joinedText (s : String) : String :=
  String.ofList (Surrogate.joined s.toList)

/-- The two halves of a character stand nowhere side by side in the text. -/
def Seamless (s : String) : Prop :=
  s.toList.IsChain fun c d => Surrogate.whole? c d = none

instance (s : String) : Decidable (Seamless s) :=
  inferInstanceAs (Decidable (List.IsChain _ _))

/-- **A text without a seam is read as it is.** -/
theorem joinedText_of_seamless {s : String} (seamless : Seamless s) : joinedText s = s := by
  have same : Surrogate.joined s.toList = s.toList := by
    unfold Seamless at seamless
    generalize s.toList = cs at seamless ⊢
    fun_induction Surrogate.joined cs with
    | case1 c d rest whole made => simp [made] at seamless
    | case2 c d rest apart ih =>
        obtain ⟨-, later⟩ := List.isChain_cons_cons.1 seamless
        rw [ih later]
    | case3 cs _ => rfl
  rw [joinedText, same, String.ofList_toList]

/-- There is no half of a character in a text that has octets. -/
theorem half?_of_encodable {s : String} (encodes : unencodable? s = none) :
    ∀ c ∈ s.toList, Surrogate.half? c = none := by
  have behind : s.toList.drop (s.toList.takeWhile (!Surrogate.isStandIn ·)).length =
      s.toList.dropWhile (!Surrogate.isStandIn ·) := by
    generalize s.toList = cs
    induction cs with
    | nil => rfl
    | cons c rest ih => cases here : Surrogate.isStandIn c <;> simp [here, ih]
  simp only [unencodable?, behind] at encodes
  split at encodes
  · next none_ =>
    intro c member
    simpa [Surrogate.isStandIn] using List.dropWhile_eq_nil_iff.1 none_ c member
  · next c rest first =>
    -- what stands first behind the run is a half, and a half is a fault
    have half := List.head?_dropWhile_not (!Surrogate.isStandIn ·) s.toList
    rw [first] at half
    rw [Option.map_eq_none_iff] at encodes
    simp [Surrogate.isStandIn, encodes] at half

theorem seamless_of_encodable {s : String} (encodes : unencodable? s = none) : Seamless s := by
  refine (List.pairwise_of_forall_mem_list fun c first d _ => ?_).isChain
  simp [Surrogate.whole?, half?_of_encodable encodes c first]

end GeoRegistry.Text
