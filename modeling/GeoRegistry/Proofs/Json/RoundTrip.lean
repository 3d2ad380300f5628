/-
# Proofs.Json.RoundTrip -- a JSON value is read from its text

A value is legible when its text says all of it but for halves of characters: it holds no
floating-point number, no integer of more digits than are read, and no name twice in one
object.  It is readable when floating-point numbers in it are read from their texts
(`LegibleIf ReadsBack`).  What is read of the text of a value is the value with its texts
joined (`parse_joined`), and the value itself if there are no halves to join (`parse_render`).

The induction is on the value, along the three readers (`value_chars`, `items_chars`,
`fields_chars`): each reads what was written for its part, whatever follows, as long as a
number is not carried on by what follows it.
-/
import GeoRegistry.Proofs.Json.Joined
import GeoRegistry.Proofs.Json.Literal
import GeoRegistry.Proofs.Json.Names
import GeoRegistry.Proofs.Json.Number

namespace GeoRegistry.Json

set_option autoImplicit false

open Text

/-! ## What can be read back -/

mutual

/-- The text of the value says all of it, halves of characters apart. -/
def Legible : Json → Prop
  | .float _ => False
  | .int n => (Nat.toDigits 10 n.natAbs).length ≤ maxDigits
  | .array items => ItemsLegible items
  | .object fields => (fields.map (·.1)).Nodup ∧ FieldsLegible fields
  | .null | .bool _ | .text _ => True

def ItemsLegible : List Json → Prop
  | [] => True
  | v :: rest => v.Legible ∧ ItemsLegible rest

def FieldsLegible : List (String × Json) → Prop
  | [] => True
  | (_, v) :: rest => v.Legible ∧ FieldsLegible rest

end

mutual

/-- The text of the value says all of it, as far as those of its floating-point numbers do. -/
def LegibleIf (exact : Binary64 → Prop) : Json → Prop
  | .float x => exact x
  | .int n => (Nat.toDigits 10 n.natAbs).length ≤ maxDigits
  | .array items => ItemsLegibleIf exact items
  | .object fields => (fields.map (·.1)).Nodup ∧ FieldsLegibleIf exact fields
  | .null | .bool _ | .text _ => True

def ItemsLegibleIf (exact : Binary64 → Prop) : List Json → Prop
  | [] => True
  | v :: rest => v.LegibleIf exact ∧ ItemsLegibleIf exact rest

def FieldsLegibleIf (exact : Binary64 → Prop) : List (String × Json) → Prop
  | [] => True
  | (_, v) :: rest => v.LegibleIf exact ∧ FieldsLegibleIf exact rest

end

mutual

/-- What holds no floating-point numbers is legible whatever is asked of those. -/
theorem Legible.legibleIf {exact : Binary64 → Prop} : ∀ {v : Json}, v.Legible → v.LegibleIf exact
  | .null, _ | .bool _, _ | .text _, _ => trivial
  | .int _, short => short
  | .float _, legible => legible.elim
  | .array _, legible => legible.items
  | .object _, legible => ⟨legible.1, legible.2.fields⟩

theorem ItemsLegible.items {exact : Binary64 → Prop} :
    ∀ {vs : List Json}, ItemsLegible vs → ItemsLegibleIf exact vs
  | [], _ => trivial
  | _ :: _, legible => ⟨legible.1.legibleIf, legible.2.items⟩

theorem FieldsLegible.fields {exact : Binary64 → Prop} :
    ∀ {fs : List (String × Json)}, FieldsLegible fs → FieldsLegibleIf exact fs
  | [], _ => trivial
  | _ :: _, legible => ⟨legible.1.legibleIf, legible.2.fields⟩

end

mutual

/-- How deep containers lie in each other in a value. -/
def nesting : Json → Nat
  | .array items => 1 + itemsNesting items
  | .object fields => 1 + fieldsNesting fields
  | _ => 0

def itemsNesting : List Json → Nat
  | [] => 0
  | v :: rest => max v.nesting (itemsNesting rest)

def fieldsNesting : List (String × Json) → Nat
  | [] => 0
  | (_, v) :: rest => max v.nesting (fieldsNesting rest)

end

/-- The separators are a comma and a colon, with nothing but blanks behind them. -/
structure Separators.Sound (sep : Separators) : Prop where
  item : ∃ blanks, (∀ c ∈ blanks, isSpace c = true) ∧ sep.item.toList = ',' :: blanks
  name : ∃ blanks, (∀ c ∈ blanks, isSpace c = true) ∧ sep.name.toList = ':' :: blanks

theorem compact_sound : compact.Sound where
  item := ⟨[], by simp, rfl⟩
  name := ⟨[], by simp, rfl⟩

theorem spaced_sound : spaced.Sound where
  item := ⟨[' '], by simp [isSpace], rfl⟩
  name := ⟨[' '], by simp [isSpace], rfl⟩

theorem skip_blanks {blanks rest : List Char} (all : ∀ c ∈ blanks, isSpace c = true)
    (stops : Stops isSpace rest) : skip (blanks ++ rest) = rest :=
  dropWhile_run all stops

theorem skip_of_stops {rest : List Char} (stops : Stops isSpace rest) : skip rest = rest :=
  stops.dropWhile_eq

/-! ## Values -/

section Values

variable (sep : Separators)

/-- A value is written as something, and begins with no blank and no closing bracket. -/
theorem chars_head {v : Json} (legible : v.joined.LegibleIf ReadsBack) :
    ∃ c cs, chars sep v = c :: cs ∧ isSpace c = false ∧ c ≠ ']' ∧ c ≠ '\x7d' := by
  cases v with
  | null => exact ⟨_, _, rfl, by decide, by decide, by decide⟩
  | bool b => cases b <;> exact ⟨_, _, rfl, by decide, by decide, by decide⟩
  | int n =>
      obtain ⟨c, cs, written, sign | digit⟩ := toString_head n
      · subst sign
        exact ⟨_, _, written, by decide, by decide, by decide⟩
      · refine ⟨_, _, written, ?_, ?_, ?_⟩
        · obtain ⟨low, high⟩ := digit_bounds digit
          simp only [isSpace, Bool.or_eq_false_iff, beq_eq_false_iff_ne]
          refine ⟨⟨⟨?_, ?_⟩, ?_⟩, ?_⟩ <;> rintro rfl <;> simp at low
        · rintro rfl
          cases digit
        · rintro rfl
          cases digit
  | float x =>
      obtain ⟨c, cs, written, inner⟩ := ReadsBack.head legible
      refine ⟨c, cs, written, isSpace_of_isEdge inner, ?_, ?_⟩ <;>
      · rintro rfl
        cases inner
  | text s => exact ⟨_, _, rfl, by decide, by decide, by decide⟩
  | array items => exact ⟨_, _, by rw [chars, List.cons_append], by decide, by decide, by decide⟩
  | object fields => exact ⟨_, _, by rw [chars, List.cons_append], by decide, by decide, by decide⟩

theorem chars_stops {v : Json} (legible : v.joined.LegibleIf ReadsBack) (rest : List Char) :
    Stops isSpace (chars sep v ++ rest) := by
  obtain ⟨c, cs, written, solid, -, -⟩ := chars_head sep legible
  simpa [written] using solid

theorem fieldChars_head (f : String × Json) (rest : List (String × Json)) :
    ∃ cs, fieldChars sep (f :: rest) = '"' :: cs := by
  obtain ⟨name, v⟩ := f
  rw [fieldChars, literal]
  exact ⟨_, rfl⟩

variable {sep}

theorem value_null (mode : Numerals) (fuel depth : Nat) (rest : List Char) :
    value mode (fuel + 1) depth (chars sep .null ++ rest) = .ok (.null, rest) := by
  have spelled : chars sep .null ++ rest = 'n' :: ("ull".toList ++ rest) := by simp [chars]
  rw [spelled, value_atom _ _ _ _ (by decide) (by decide) (by decide), atom]
  exact word_append _ _ _ _

theorem value_bool (mode : Numerals) (fuel depth : Nat) (b : Bool) (rest : List Char) :
    value mode (fuel + 1) depth (chars sep (.bool b) ++ rest) = .ok (.bool b, rest) := by
  cases b with
  | true =>
      have spelled : chars sep (.bool true) ++ rest = 't' :: ("rue".toList ++ rest) := by
        simp [chars]
      rw [spelled, value_atom _ _ _ _ (by decide) (by decide) (by decide), atom]
      exact word_append _ _ _ _
  | false =>
      have spelled : chars sep (.bool false) ++ rest = 'f' :: ("alse".toList ++ rest) := by
        simp [chars]
      rw [spelled, value_atom _ _ _ _ (by decide) (by decide) (by decide), atom]
      exact word_append _ _ _ _

theorem value_int {n : Int} (short : (Nat.toDigits 10 n.natAbs).length ≤ maxDigits)
    (fuel depth : Nat) {rest : List Char} (stops : Stops isNumeral rest) :
    value .values (fuel + 1) depth (chars sep (.int n) ++ rest) = .ok (.int n, rest) := by
  have read := atom_toString short stops
  obtain ⟨c, cs, written, first⟩ := toString_head n
  have other {d : Char} (sign : '-' ≠ d) (letter : d.isDigit = false) : c ≠ d := by
    rintro rfl
    rcases first with minus | digit
    · exact sign minus.symm
    · rw [digit] at letter
      cases letter
  rw [written, List.cons_append] at read
  rw [chars, written, List.cons_append, value_atom _ _ _ _ (other (by decide) (by decide))
    (other (by decide) (by decide)) (other (by decide) (by decide)), read]

/-- Items that follow one are a separator and those items. -/
theorem moreItems_cons (v : Json) (rest : List Json) :
    moreItems sep (v :: rest) = sep.item.toList ++ itemChars sep (v :: rest) := by
  rw [moreItems, itemChars, List.append_assoc]

theorem moreFields_cons (f : String × Json) (rest : List (String × Json)) :
    moreFields sep (f :: rest) = sep.item.toList ++ fieldChars sep (f :: rest) := by
  obtain ⟨name, v⟩ := f
  simp only [moreFields, fieldChars, List.append_assoc]

/-! ### One step of each reader -/

/-- An array that is not empty goes on with its items. -/
theorem value_array (mode : Numerals) (fuel depth : Nat) {rest : List Char}
    (solid : Stops isSpace rest) (more : Stops (· == ']') rest) :
    value mode (fuel + 1) (depth + 1) ('[' :: rest) =
      (items mode fuel depth rest).map fun r => (.array r.1, r.2) := by
  rw [value, skip_of_stops solid]
  split
  · simp at more
  · rfl

theorem value_object (mode : Numerals) (fuel depth : Nat) {rest : List Char}
    (solid : Stops isSpace rest) (more : Stops (· == '\x7d') rest) :
    value mode (fuel + 1) (depth + 1) ('\x7b' :: rest) =
      (fields mode fuel depth rest).map fun r => (.object (distinct r.1), r.2) := by
  rw [value, skip_of_stops solid]
  split
  · simp at more
  · rfl

theorem items_last {mode : Numerals} {fuel depth : Nat} {cs rest : List Char} {v : Json}
    (read : value mode fuel depth cs = .ok (v, ']' :: rest)) :
    items mode (fuel + 1) depth cs = .ok ([v], rest) := by
  have bracket : skip (']' :: rest) = ']' :: rest := skip_of_stops (by simp; decide)
  simp [items, read, bracket]

theorem items_more (sound : sep.Sound) {mode : Numerals} {fuel depth : Nat} {cs rest : List Char}
    {v : Json} (read : value mode fuel depth cs = .ok (v, sep.item.toList ++ rest))
    (solid : Stops isSpace rest) :
    items mode (fuel + 1) depth cs = (items mode fuel depth rest).map fun r => (v :: r.1, r.2) := by
  obtain ⟨blanks, all, written⟩ := sound.item
  have comma : skip (sep.item.toList ++ rest) = ',' :: (blanks ++ rest) := by
    rw [written]
    exact skip_of_stops (by simp; decide)
  simp [items, read, comma, skip_blanks all solid]

/-- A field is its name, and its value behind the separator. -/
theorem fields_step (sound : sep.Sound) (mode : Numerals) (fuel depth : Nat) (name : String)
    {rest : List Char} (solid : Stops isSpace rest) :
    fields mode (fuel + 1) depth (literal name ++ sep.name.toList ++ rest) =
      match value mode fuel depth rest with
      | .error e => .error e
      | .ok (v, rest) =>
          match skip rest with
          | '\x7d' :: rest' => .ok ([(joinedText name, v)], rest')
          | ',' :: rest' =>
              (fields mode fuel depth (skip rest')).map fun r => ((joinedText name, v) :: r.1, r.2)
          | rest' => malformed rest' := by
  obtain ⟨blanks, all, written⟩ := sound.name
  have colon : skip (sep.name.toList ++ rest) = ':' :: (blanks ++ rest) := by
    rw [written]
    exact skip_of_stops (by simp; decide)
  have whole : literal name ++ sep.name.toList ++ rest =
      '"' :: (escapes name.toList ++ '"' :: (sep.name.toList ++ rest)) := by
    simp [literal]
  have behind := skip_blanks all solid
  rw [whole, fields]
  simp only [string_literal, colon]
  generalize skip (blanks ++ rest) = value at behind ⊢
  subst behind
  rfl

theorem fields_last (sound : sep.Sound) (name : String) {mode : Numerals} {fuel depth : Nat}
    {cs rest : List Char} {v : Json} (read : value mode fuel depth cs = .ok (v, '\x7d' :: rest))
    (solid : Stops isSpace cs) :
    fields mode (fuel + 1) depth (literal name ++ sep.name.toList ++ cs) =
      .ok ([(joinedText name, v)], rest) := by
  have brace : skip ('\x7d' :: rest) = '\x7d' :: rest := skip_of_stops (by simp; decide)
  rw [fields_step sound mode fuel depth name solid, read]
  simp only [brace]

theorem fields_more (sound : sep.Sound) (name : String) {mode : Numerals} {fuel depth : Nat}
    {cs rest : List Char} {v : Json}
    (read : value mode fuel depth cs = .ok (v, sep.item.toList ++ rest))
    (solid : Stops isSpace cs) (more : Stops isSpace rest) :
    fields mode (fuel + 1) depth (literal name ++ sep.name.toList ++ cs) =
      (fields mode fuel depth rest).map fun r => ((joinedText name, v) :: r.1, r.2) := by
  obtain ⟨blanks, all, written⟩ := sound.item
  have comma : skip (sep.item.toList ++ rest) = ',' :: (blanks ++ rest) := by
    rw [written]
    exact skip_of_stops (by simp; decide)
  rw [fields_step sound mode fuel depth name solid, read]
  simp only [comma, skip_blanks all more]

theorem item_length_pos (sound : sep.Sound) : 0 < sep.item.toList.length := by
  obtain ⟨blanks, -, written⟩ := sound.item
  simp [written]

theorem item_stops (sound : sep.Sound) (rest : List Char) :
    Stops isNumeral (sep.item.toList ++ rest) := by
  obtain ⟨blanks, -, written⟩ := sound.item
  rw [written]
  simp
  decide

/-! ### All of a value -/

mutual

/-- **A readable value is read back with its texts joined**, whatever follows its text. -/
theorem value_chars (sound : sep.Sound) : ∀ (v : Json) (fuel depth : Nat) (rest : List Char),
    v.joined.LegibleIf ReadsBack → v.nesting ≤ depth → (chars sep v).length < fuel →
    Stops isNumeral rest → value .values fuel depth (chars sep v ++ rest) = .ok (v.joined, rest)
  | _, 0, _, _, _, _, enough, _ => absurd enough (Nat.not_lt_zero _)
  | .null, fuel + 1, depth, rest, _, _, _, _ => value_null _ fuel depth rest
  | .bool b, fuel + 1, depth, rest, _, _, _, _ => value_bool _ fuel depth b rest
  | .int _, fuel + 1, depth, _, short, _, _, stops => value_int short fuel depth stops
  | .float _, fuel + 1, depth, _, back, _, _, stops => value_float back fuel depth stops
  | .text s, fuel + 1, depth, rest, _, _, _, _ => by
      simp [chars, literal, value, string_literal, joined, Except.map]
  | .array _, _ + 1, 0, _, _, deep, _, _ => by simp [nesting] at deep
  | .array [], fuel + 1, depth + 1, rest, _, _, _, _ => by
      have bracket : skip (']' :: rest) = ']' :: rest := skip_of_stops (by simp; decide)
      simp [chars, itemChars, value, bracket, joined, joinedItems]
  | .array (v :: others), fuel + 1, depth + 1, rest, legible, deep, enough, _ => by
      simp only [nesting] at deep
      simp only [chars, List.length_append, List.length_cons, List.length_nil] at enough
      have read := items_chars sound (v :: others) fuel depth rest (by simp) legible (by omega)
        (by omega)
      obtain ⟨c, cs, written, solid, open_, -⟩ := chars_head sep legible.1
      have whole : chars sep (.array (v :: others)) ++ rest =
          '[' :: (itemChars sep (v :: others) ++ ']' :: rest) := by simp [chars]
      have first : itemChars sep (v :: others) ++ ']' :: rest =
          c :: (cs ++ moreItems sep others ++ ']' :: rest) := by simp [itemChars, written]
      rw [whole, value_array _ _ _ (by rw [first]; simpa using solid)
        (by rw [first]; simpa using open_), read]
      rfl
  | .object _, _ + 1, 0, _, _, deep, _, _ => by simp [nesting] at deep
  | .object [], fuel + 1, depth + 1, rest, _, _, _, _ => by
      have brace : skip ('\x7d' :: rest) = '\x7d' :: rest := skip_of_stops (by simp; decide)
      simp [chars, fieldChars, value, brace, joined, joinedFields]
  | .object (f :: others), fuel + 1, depth + 1, rest, legible, deep, enough, _ => by
      simp only [nesting] at deep
      simp only [chars, List.length_append, List.length_cons, List.length_nil] at enough
      have read := fields_chars sound (f :: others) fuel depth rest (by simp) legible.2 (by omega)
        (by omega)
      have whole : chars sep (.object (f :: others)) ++ rest =
          '\x7b' :: (fieldChars sep (f :: others) ++ '\x7d' :: rest) := by simp [chars]
      obtain ⟨cs, first⟩ := fieldChars_head sep f others
      have name : fieldChars sep (f :: others) ++ '\x7d' :: rest =
          '"' :: (cs ++ '\x7d' :: rest) := by simp [first]
      rw [whole, value_object _ _ _ (by rw [name]; simp; decide) (by rw [name]; simp), read]
      simp [Except.map, joined, distinct_of_nodup legible.1]

theorem items_chars (sound : sep.Sound) : ∀ (vs : List Json) (fuel depth : Nat)
    (rest : List Char), vs ≠ [] → ItemsLegibleIf ReadsBack (joinedItems vs) →
    itemsNesting vs ≤ depth → (itemChars sep vs).length + 1 < fuel →
    items .values fuel depth (itemChars sep vs ++ ']' :: rest) = .ok (joinedItems vs, rest)
  | [], _, _, _, some_, _, _, _ => absurd rfl some_
  | _ :: _, 0, _, _, _, _, _, enough => absurd enough (Nat.not_lt_zero _)
  | [v], fuel + 1, depth, rest, _, legible, deep, enough => by
      have read := value_chars sound v fuel depth (']' :: rest) legible.1
        (Nat.le_trans (Nat.le_max_left ..) deep) (by simp [itemChars, moreItems] at enough; omega)
        (by simp; decide)
      simpa [itemChars, moreItems, joinedItems] using items_last read
  | v :: w :: others, fuel + 1, depth, rest, _, legible, deep, enough => by
      rw [itemChars, moreItems_cons] at enough ⊢
      simp only [List.length_append] at enough
      have := item_length_pos sound
      have more := items_chars sound (w :: others) fuel depth rest (by simp) legible.2
        (Nat.le_trans (Nat.le_max_right ..) deep) (by omega)
      have read := value_chars sound v fuel depth
        (sep.item.toList ++ (itemChars sep (w :: others) ++ ']' :: rest)) legible.1
        (Nat.le_trans (Nat.le_max_left ..) deep) (by omega) (item_stops sound _)
      have solid : Stops isSpace (itemChars sep (w :: others) ++ ']' :: rest) := by
        rw [itemChars, List.append_assoc]
        exact chars_stops sep legible.2.1 _
      rw [List.append_assoc, List.append_assoc, items_more sound read solid, more]
      rfl

theorem fields_chars (sound : sep.Sound) : ∀ (fs : List (String × Json)) (fuel depth : Nat)
    (rest : List Char), fs ≠ [] → FieldsLegibleIf ReadsBack (joinedFields fs) →
    fieldsNesting fs ≤ depth → (fieldChars sep fs).length + 1 < fuel →
    fields .values fuel depth (fieldChars sep fs ++ '\x7d' :: rest) = .ok (joinedFields fs, rest)
  | [], _, _, _, some_, _, _, _ => absurd rfl some_
  | _ :: _, 0, _, _, _, _, _, enough => absurd enough (Nat.not_lt_zero _)
  | [(name, v)], fuel + 1, depth, rest, _, legible, deep, enough => by
      have read := value_chars sound v fuel depth ('\x7d' :: rest) legible.1
        (Nat.le_trans (Nat.le_max_left ..) deep)
        (by simp [fieldChars, moreFields] at enough; omega) (by simp; decide)
      have last := fields_last sound name read (chars_stops sep legible.1 _)
      simpa [fieldChars, moreFields, joinedFields] using last
  | (name, v) :: g :: others, fuel + 1, depth, rest, _, legible, deep, enough => by
      rw [fieldChars, moreFields_cons] at enough ⊢
      simp only [List.length_append] at enough
      have := item_length_pos sound
      have more := fields_chars sound (g :: others) fuel depth rest (by simp) legible.2
        (Nat.le_trans (Nat.le_max_right ..) deep) (by omega)
      have read := value_chars sound v fuel depth
        (sep.item.toList ++ (fieldChars sep (g :: others) ++ '\x7d' :: rest)) legible.1
        (Nat.le_trans (Nat.le_max_left ..) deep) (by omega) (item_stops sound _)
      have solid : Stops isSpace (fieldChars sep (g :: others) ++ '\x7d' :: rest) := by
        obtain ⟨cs, first⟩ := fieldChars_head sep g others
        rw [first]
        simp
        decide
      have step := fields_more sound name read (chars_stops sep legible.1 _) solid
      rw [more] at step
      simpa [Except.map, joinedFields] using step

end

end Values

/-- **A readable value is read from its text**, with its texts joined, however deep it is, by a
reader that goes as deep. -/
theorem parseChars_joined {sep : Separators} (sound : sep.Sound) {v : Json}
    (readable : v.joined.LegibleIf ReadsBack) {depth : Nat} (deep : v.nesting ≤ depth) :
    parseChars .values depth (chars sep v) = .ok v.joined := by
  have solid : Stops isSpace (chars sep v) := by
    simpa using chars_stops sep readable []
  have read := value_chars sound v ((chars sep v).length + 1) depth [] readable deep
    (Nat.lt_succ_self _) (by simp)
  rw [List.append_nil] at read
  rw [parseChars, skip_of_stops solid, read]
  rfl

/-- **A readable value is read from its text as it is**, if it has no halves to join. -/
theorem parseChars_readable {sep : Separators} (sound : sep.Sound) {v : Json}
    (readable : v.LegibleIf ReadsBack) (seamless : v.Seamless) {depth : Nat}
    (deep : v.nesting ≤ depth) : parseChars .values depth (chars sep v) = .ok v := by
  have read := parseChars_joined sound (v := v) (by rwa [seamless]) deep
  rwa [seamless] at read

/-- **A legible value is read from its text**, with its texts joined, unless it is too deep to be
read. -/
theorem parse_joined {sep : Separators} (sound : sep.Sound) {v : Json}
    (legible : v.joined.Legible) (deep : v.nesting ≤ depthLimit) :
    parse (v.render sep) = .ok v.joined := by
  rw [parse, render, String.toList_ofList]
  exact parseChars_joined sound legible.legibleIf deep

theorem parse_readable {sep : Separators} (sound : sep.Sound) {v : Json}
    (readable : v.LegibleIf ReadsBack) (seamless : v.Seamless) (deep : v.nesting ≤ depthLimit) :
    parse (v.render sep) = .ok v := by
  rw [parse, render, String.toList_ofList]
  exact parseChars_readable sound readable seamless deep

/-- **A legible value is read from its text as it is**, if it has no halves to join. -/
theorem parse_render {sep : Separators} (sound : sep.Sound) {v : Json} (legible : v.Legible)
    (seamless : v.Seamless) (deep : v.nesting ≤ depthLimit) : parse (v.render sep) = .ok v :=
  parse_readable sound legible.legibleIf seamless deep

/-! ## Beyond the limit -/

/-- Arrays in one another, with nothing in the innermost one. -/
def nested : Nat → Json
  | 0 => .array []
  | n + 1 => .array [nested n]

theorem chars_nested (sep : Separators) (n : Nat) :
    chars sep (nested n) = List.replicate (n + 1) '[' ++ List.replicate (n + 1) ']' := by
  induction n with
  | zero => rfl
  | succ n ih =>
      rw [List.replicate_succ, List.replicate_succ' (a := ']')]
      simp [nested, chars, itemChars, moreItems, ih]

/-- An array that lies too deep is a fault where it opens, whatever follows. -/
theorem value_too_deep (mode : Numerals) (rest : List Char) {depth fuel : Nat}
    (enough : 2 * depth < fuel) :
    value mode fuel depth (List.replicate (depth + 1) '[' ++ rest) = .error (.tooDeep .array) := by
  induction depth generalizing fuel with
  | zero =>
      obtain ⟨fuel, rfl⟩ := Nat.exists_eq_add_one.2 enough
      rfl
  | succ depth ih =>
      -- the items of an array and the first of them take one step each
      obtain ⟨fuel, rfl⟩ := Nat.exists_eq_add_of_le' (show 2 ≤ fuel by omega)
      have next := ih (show 2 * depth < fuel by omega)
      rw [List.replicate_succ, List.cons_append,
        value_array _ _ _ (by simp [List.replicate_succ]; decide) (by simp [List.replicate_succ]),
        items, next]
      rfl

/-- **Beyond the limit of depth a value is not read from its text.** -/
theorem parse_nested {n : Nat} (deep : depthLimit ≤ n) (sep : Separators) :
    parse ((nested n).render sep) = .error (.tooDeep .array) := by
  obtain ⟨more, rfl⟩ := Nat.exists_eq_add_of_le deep
  have opened : chars sep (nested (depthLimit + more)) =
      List.replicate (depthLimit + 1) '[' ++
        (List.replicate more '[' ++ List.replicate (depthLimit + more + 1) ']') := by
    rw [chars_nested, ← List.append_assoc, List.replicate_append_replicate, Nat.add_right_comm]
  have solid : Stops isSpace (chars sep (nested (depthLimit + more))) := by
    rw [opened, List.replicate_succ]
    simp
    decide
  have enough : 2 * depthLimit < (chars sep (nested (depthLimit + more))).length + 1 := by
    simp [chars_nested]
    omega
  rw [parse, render, String.toList_ofList, parseChars, skip_of_stops solid]
  generalize (chars sep (nested (depthLimit + more))).length + 1 = fuel at enough
  rw [opened, value_too_deep .values _ enough]

end GeoRegistry.Json
