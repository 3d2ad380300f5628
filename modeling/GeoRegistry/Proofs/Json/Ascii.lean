/-
# Proofs.Json.Ascii -- the text of a value is ASCII

Whatever is written of a value is printable ASCII (`Visible`): what is not is escaped in a
string, numbers have digits, signs and points, and the rest is punctuation.  This holds of
every value, legible or not, with all separators that are visible themselves.
-/
import GeoRegistry.Proofs.Json.Number
import Mathlib.Tactic.SplitIfs

namespace GeoRegistry

set_option autoImplicit false

open Text

/-! ## Visible characters -/

namespace Text

/-- A printable character of ASCII. -/
def Visible (c : Char) : Prop :=
  0x20 ≤ c.toNat ∧ c.toNat ≤ 0x7E

instance (c : Char) : Decidable (Visible c) :=
  inferInstanceAs (Decidable (_ ∧ _))

/-- All characters are visible. -/
def AllVisible (cs : List Char) : Prop :=
  ∀ c ∈ cs, Visible c

instance (cs : List Char) : Decidable (AllVisible cs) :=
  List.decidableBAll Visible cs

@[simp] theorem allVisible_nil : AllVisible [] := by
  simp [AllVisible]

@[simp] theorem allVisible_cons {c : Char} {cs : List Char} :
    AllVisible (c :: cs) ↔ Visible c ∧ AllVisible cs := by
  simp [AllVisible]

@[simp] theorem allVisible_append {cs ds : List Char} :
    AllVisible (cs ++ ds) ↔ AllVisible cs ∧ AllVisible ds := by
  simp [AllVisible, or_imp, forall_and]

/-! ## Numerals -/

theorem visible_digit {c : Char} (digit : c.isDigit = true) : Visible c := by
  obtain ⟨low, high⟩ := digit_bounds digit
  exact ⟨by omega, by omega⟩

theorem visible_toDigits (n : Nat) : AllVisible (Nat.toDigits 10 n) :=
  fun _ member => visible_digit (isDigit_of_written member)

theorem visible_toString (n : Int) : AllVisible (toString n).toList := by
  rw [toList_toString]
  split
  · exact allVisible_cons.2 ⟨by decide, visible_toDigits _⟩
  · exact visible_toDigits _

end Text

namespace Binary64

theorem visible_numbers : OfNumbers Visible where
  digit _ digit := visible_digit digit
  point := by decide
  mark := by decide
  plus := by decide
  minus := by decide

theorem visible_text {special : Special} (nan : AllVisible special.nan.toList)
    (infinity : AllVisible special.infinity.toList) (x : Binary64) :
    AllVisible (x.text special).toList :=
  text_all visible_numbers nan infinity x

end Binary64

/-! ## Strings -/

namespace Json

theorem visible_hexChar (d : Fin 16) : Visible (hexChar d) := by
  have all : ∀ d : Fin 16, Visible (hexChar d) := by decide
  exact all d

theorem visible_unitEscape (n : Nat) : AllVisible (unitEscape n) := by
  have marks : Visible '\\' ∧ Visible 'u' := by decide
  simp [unitEscape, hexUnit, visible_hexChar, marks]

theorem visible_escapeChar (c : Char) : AllVisible (escapeChar c) := by
  simp only [escapeChar]
  split_ifs with quote backslash newline return_ tab feed back plain small
  · decide
  · decide
  · decide
  · decide
  · decide
  · decide
  · decide
  · simpa [Visible] using plain
  · exact visible_unitEscape _
  · exact allVisible_append.2 ⟨visible_unitEscape _, visible_unitEscape _⟩

theorem visible_escaped (c : Char) : AllVisible (escaped c) := by
  unfold escaped
  split
  · exact visible_unitEscape _
  · exact visible_escapeChar c

theorem visible_escapes (cs : List Char) : AllVisible (escapes cs) := by
  induction cs with
  | nil => exact allVisible_nil
  | cons c rest ih => exact allVisible_append.2 ⟨visible_escaped c, ih⟩

theorem visible_literal (s : String) : AllVisible (literal s) := by
  have quote : Visible '"' := by decide
  simp [literal, quote, visible_escapes]

/-! ## Values -/

/-- The separators are visible themselves. -/
structure Separators.AllVisible (sep : Separators) : Prop where
  item : Text.AllVisible sep.item.toList
  name : Text.AllVisible sep.name.toList

theorem spaced_visible : spaced.AllVisible := by
  constructor <;> decide

mutual

/-- **The text of a value is visible.** -/
theorem visible_chars {sep : Separators} (visible : sep.AllVisible) :
    ∀ v : Json, AllVisible (chars sep v)
  | .null => show AllVisible "null".toList by decide
  | .bool true => show AllVisible "true".toList by decide
  | .bool false => show AllVisible "false".toList by decide
  | .int n => visible_toString n
  | .float x => Binary64.visible_text (by decide) (by decide) x
  | .text s => visible_literal s
  | .array items => by
      have brackets : Visible '[' ∧ Visible ']' := by decide
      simp [chars, brackets, visible_itemChars visible items]
  | .object fields => by
      have braces : Visible '\x7b' ∧ Visible '\x7d' := by decide
      simp [chars, braces, visible_fieldChars visible fields]

theorem visible_itemChars {sep : Separators} (visible : sep.AllVisible) :
    ∀ items : List Json, AllVisible (itemChars sep items)
  | [] => allVisible_nil
  | v :: rest => by
      simp [itemChars, visible_chars visible v, visible_moreItems visible rest]

theorem visible_moreItems {sep : Separators} (visible : sep.AllVisible) :
    ∀ items : List Json, AllVisible (moreItems sep items)
  | [] => allVisible_nil
  | v :: rest => by
      simp [moreItems, visible.item, visible_chars visible v, visible_moreItems visible rest]

theorem visible_fieldChars {sep : Separators} (visible : sep.AllVisible) :
    ∀ fields : List (String × Json), AllVisible (fieldChars sep fields)
  | [] => allVisible_nil
  | (name, v) :: rest => by
      simp [fieldChars, visible_literal, visible.name, visible_chars visible v,
        visible_moreFields visible rest]

theorem visible_moreFields {sep : Separators} (visible : sep.AllVisible) :
    ∀ fields : List (String × Json), AllVisible (moreFields sep fields)
  | [] => allVisible_nil
  | (name, v) :: rest => by
      simp [moreFields, visible_literal, visible.item, visible.name, visible_chars visible v,
        visible_moreFields visible rest]

end

end Json

end GeoRegistry
