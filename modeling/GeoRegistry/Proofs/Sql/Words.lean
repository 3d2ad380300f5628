/-
# Proofs.Sql.Words -- the words of a statement

The text of a statement is taken apart into words (`wordsFrom`): a blank ends a word, a comma
and a semicolon are words of their own, and what stands in parentheses or in quotes belongs to
the word that it stands in, so that an expression is one word.  Where the reader is in a text
is a `Place`: how many parentheses are open, and whether a quoted text is.

How a statement was made plays no part in this.  That a text reads as it was meant rests on one
law for a word with something behind it (`Reads.word`) and one for lists with commas
(`spells_intercalate`); how a list is laid out in lines is not seen (`spells_laidOut`).
-/
import GeoRegistry.Proofs.Sql.Placeholders

namespace GeoRegistry.Sql

set_option autoImplicit false

open Text (Stops)

/-! ## Places -/

/-- How many parentheses are open at a place of a text, and whether a quoted text is. -/
structure Place where
  depth : Nat
  quoted : Bool
  deriving DecidableEq, Repr

/-- A character that ends a word. -/
def divides (c : Char) : Bool :=
  c == ' ' || c == '\n' || c == ',' || c == ';'

namespace Place

/-- The place where words end. -/
def top : Place := ⟨0, false⟩

/-- The place behind a character.  There is none behind a parenthesis that closes nothing. -/
def step (p : Place) (c : Char) : Option Place :=
  if p.quoted then some ⟨p.depth, c != '\''⟩
  else if c = '\'' then some ⟨p.depth, true⟩
  else if c = '(' then some ⟨p.depth + 1, false⟩
  else if c = ')' then if p.depth = 0 then none else some ⟨p.depth - 1, false⟩
  else some p

/-- The place behind a text in which no word ends. -/
def through (p : Place) : List Char → Option Place
  | [] => some p
  | c :: rest => if p = top ∧ divides c then none else (p.step c).bind (·.through rest)

theorem through_append (p : Place) (a b : List Char) :
    p.through (a ++ b) = (p.through a).bind (·.through b) := by
  induction a generalizing p with
  | nil => rfl
  | cons c rest ih =>
      rw [List.cons_append, through, through]
      by_cases ends : p = top ∧ divides c
      · rw [if_pos ends, if_pos ends, Option.bind_none]
      · rw [if_neg ends, if_neg ends, Option.bind_assoc]
        exact congrArg (Option.bind _) (funext fun q => ih q)

/-- Texts one behind the other. -/
theorem through_trans {p q r : Place} {a b : String} (first : p.through a.toList = some q)
    (second : q.through b.toList = some r) : p.through (a ++ b).toList = some r := by
  rw [String.toList_append, through_append, first]
  exact second

/-- The same place inside of one more pair of parentheses. -/
def deeper (p : Place) : Place :=
  ⟨p.depth + 1, p.quoted⟩

theorem deeper_ne_top (p : Place) : p.deeper ≠ top := by
  simp [deeper, top]

/-- Where a character ends words, it does nothing inside of parentheses. -/
theorem step_deeper_of_divides {c : Char} (ends : divides c) :
    top.deeper.step c = some top.deeper := by
  have cases_ : c = ' ' ∨ c = '\n' ∨ c = ',' ∨ c = ';' := by simpa [divides, or_assoc] using ends
  rcases cases_ with rfl | rfl | rfl | rfl <;> rfl

theorem step_deeper {p q : Place} {c : Char} (stepped : p.step c = some q) :
    p.deeper.step c = some q.deeper := by
  obtain ⟨depth, quoted⟩ := p
  cases quoted with
  | true =>
      obtain rfl := Option.some.inj stepped
      rfl
  | false =>
      by_cases quote : c = '\''
      · subst quote
        obtain rfl := Option.some.inj stepped
        rfl
      by_cases opens : c = '('
      · subst opens
        obtain rfl := Option.some.inj stepped
        rfl
      by_cases closes : c = ')'
      · subst closes
        -- a parenthesis that closes nothing has no place behind it
        cases depth with
        | zero => cases stepped
        | succ depth =>
            obtain rfl := Option.some.inj stepped
            rfl
      · simp only [step, quote, opens, closes, Bool.false_eq_true, if_false] at stepped
        obtain rfl := Option.some.inj stepped
        simp [step, deeper, quote, opens, closes]

end Place

/-! ## Words -/

/-- The word that ends with these characters, if there are any. -/
def finished (word : List Char) : List String :=
  if word.isEmpty then [] else [String.ofList word]

/-- The word that a character is by itself. -/
def mark (c : Char) : List String :=
  if c = ',' ∨ c = ';' then [String.singleton c] else []

/-- The words of a text of which a place is reached, with the word that is begun there. -/
def wordsFrom (p : Place) (word : List Char) : List Char → Option (List String)
  | [] => if p = .top then some (finished word) else none
  | c :: rest =>
      if p = .top ∧ divides c then
        (wordsFrom .top [] rest).map fun ws => finished word ++ (mark c ++ ws)
      else (p.step c).bind fun q => wordsFrom q (word ++ [c]) rest

/-- The words of a text, where they can be told apart. -/
def words? (s : String) : Option (List String) :=
  wordsFrom .top [] s.toList

/-- A text that is one word. -/
def Solid (a : String) : Prop :=
  a ≠ "" ∧ Place.top.through a.toList = some .top

instance (a : String) : Decidable (Solid a) :=
  inferInstanceAs (Decidable (_ ∧ _))

/-- A text reads as these words. -/
def Reads (cs : List Char) (ws : List String) : Prop :=
  wordsFrom .top [] cs = some ws

instance (cs : List Char) (ws : List String) : Decidable (Reads cs ws) :=
  inferInstanceAs (Decidable (_ = _))

/-- A text begins with nothing that belongs to a word before it. -/
abbrev Parted (cs : List Char) : Prop :=
  Stops (fun c => !divides c) cs

theorem wordsFrom_through {p q : Place} {a : List Char} (there : p.through a = some q)
    (word rest : List Char) : wordsFrom p word (a ++ rest) = wordsFrom q (word ++ a) rest := by
  induction a generalizing p word with
  | nil =>
      obtain rfl := Option.some.inj there
      rw [List.nil_append, List.append_nil]
  | cons c cs ih =>
      rw [Place.through] at there
      by_cases ends : p = .top ∧ divides c
      · simp [ends] at there
      · rw [if_neg ends] at there
        obtain ⟨next, stepped, onwards⟩ := Option.bind_eq_some_iff.1 there
        rw [List.cons_append, wordsFrom, if_neg ends, stepped, Option.bind_some, ih onwards,
          List.append_assoc, List.singleton_append]

/-- A word ends where the rest does not go on with it. -/
theorem wordsFrom_parted {rest : List Char} (parted : Parted rest) (word : List Char) :
    wordsFrom .top word rest = (wordsFrom .top [] rest).map (finished word ++ ·) := by
  cases rest with
  | nil => simp [wordsFrom, finished]
  | cons c cs =>
      have ends : Place.top = Place.top ∧ divides c = true := ⟨rfl, by simpa using parted⟩
      rw [wordsFrom, if_pos ends, wordsFrom, if_pos ends, Option.map_map]
      simp [Function.comp_def, finished]

namespace Reads

variable {a : String} {cs : List Char} {ws : List String}

theorem nil : Reads [] [] := rfl

theorem blank {c : Char} (isBlank : c = ' ' ∨ c = '\n') (read : Reads cs ws) :
    Reads (c :: cs) ws := by
  rw [Reads] at read
  rcases isBlank with rfl | rfl <;> simp [Reads, wordsFrom, divides, mark, finished, read]

theorem blanks (bs : List Char) (all : ∀ c ∈ bs, c = ' ' ∨ c = '\n') (read : Reads cs ws) :
    Reads (bs ++ cs) ws := by
  induction bs with
  | nil => exact read
  | cons c rest ih => exact (ih fun d member => all d (.tail _ member)).blank (all c (.head _))

theorem comma (read : Reads cs ws) : Reads (',' :: cs) ("," :: ws) := by
  rw [Reads] at read
  rw [Reads, wordsFrom, if_pos ⟨rfl, rfl⟩, read]
  rfl

theorem semicolon (read : Reads cs ws) : Reads (';' :: cs) (";" :: ws) := by
  rw [Reads] at read
  rw [Reads, wordsFrom, if_pos ⟨rfl, rfl⟩, read]
  rfl

theorem word (solid : Solid a) (parted : Parted cs) (read : Reads cs ws) :
    Reads (a.toList ++ cs) (a :: ws) := by
  have some_ : a.toList.isEmpty = false := by simpa using solid.1
  rw [Reads, wordsFrom_through solid.2, List.nil_append, wordsFrom_parted parted, read]
  simp [finished, some_]

end Reads

/-- What can be read at the top can be passed inside of parentheses. -/
theorem through_deeper {p : Place} {word cs : List Char} {ws : List String}
    (read : wordsFrom p word cs = some ws) : p.deeper.through cs = some Place.top.deeper := by
  induction cs generalizing p word ws with
  | nil =>
      by_cases outside : p = .top
      · rw [outside, Place.through]
      · simp [wordsFrom, outside] at read
  | cons c rest ih =>
      have inside : ¬ (p.deeper = .top ∧ divides c = true) := fun ends => p.deeper_ne_top ends.1
      rw [Place.through, if_neg inside]
      by_cases ends : p = .top ∧ divides c
      · rw [wordsFrom, if_pos ends] at read
        obtain ⟨later, read, -⟩ := Option.map_eq_some_iff.1 read
        rw [ends.1, Place.step_deeper_of_divides ends.2]
        exact ih read
      · rw [wordsFrom, if_neg ends] at read
        obtain ⟨q, stepped, read⟩ := Option.bind_eq_some_iff.1 read
        rw [Place.step_deeper stepped]
        exact ih read

/-- So words in parentheses are one word. -/
theorem solid_enclosed {s : String} {ws : List String} (read : Reads s.toList ws) :
    Solid ("(" ++ s ++ ")") := by
  refine ⟨by simp [← String.toList_inj], ?_⟩
  exact Place.through_trans (Place.through_trans (q := Place.top.deeper) rfl (through_deeper read))
    rfl

/-! ## Characters that do nothing -/

/-- The characters that a reader of words looks at. -/
def looked : List Char := [' ', '\n', ',', ';', '(', ')', '\'']

/-- A name as databases have them: letters, digits and underscores. -/
def IsIdentifier (s : String) : Prop :=
  s ≠ "" ∧ ∀ c ∈ s.toList, c.isAlphanum = true ∨ c = '_'

instance (s : String) : Decidable (IsIdentifier s) :=
  decidable_of_iff (s ≠ "" ∧ s.toList.all (fun c => c.isAlphanum || c == '_') = true)
    (by simp [IsIdentifier])

theorem step_plain {c : Char} (plain : c ∉ looked) (p : Place) : p.step c = some p := by
  obtain ⟨depth, quoted⟩ := p
  simp only [looked, List.mem_cons, List.not_mem_nil, or_false, not_or] at plain
  obtain ⟨-, -, -, -, opens, closes, quote⟩ := plain
  cases quoted with
  | true => simp [Place.step, quote]
  | false => simp [Place.step, quote, opens, closes]

theorem through_plain {a : List Char} (plain : ∀ c ∈ a, c ∉ looked) (p : Place) :
    p.through a = some p := by
  induction a with
  | nil => rfl
  | cons c rest ih =>
      have here := plain c (.head _)
      have goesOn : ¬ (p = .top ∧ divides c = true) := by
        rintro ⟨-, ends⟩
        apply here
        simp only [divides, Bool.or_eq_true, beq_iff_eq] at ends
        rcases ends with ((rfl | rfl) | rfl) | rfl <;> simp [looked]
      rw [Place.through, if_neg goesOn, step_plain here, Option.bind_some]
      exact ih fun d member => plain d (.tail _ member)

theorem solid_plain {a : String} (some_ : a ≠ "") (plain : ∀ c ∈ a.toList, c ∉ looked) :
    Solid a :=
  ⟨some_, through_plain plain .top⟩

theorem plain_alphanum {c : Char} (letter : c.isAlphanum = true ∨ c = '_') : c ∉ looked := by
  intro member
  simp only [looked, List.mem_cons, List.not_mem_nil, or_false] at member
  rcases member with rfl | rfl | rfl | rfl | rfl | rfl | rfl <;> simp at letter

/-- A number is written with nothing that a reader of words looks at. -/
theorem plain_toString {n : Int} {c : Char} (member : c ∈ (toString n).toList) : c ∉ looked := by
  have digits {m : Nat} {d : Char} (written : d ∈ Nat.toDigits 10 m) : d ∉ looked := by
    apply plain_alphanum
    left
    simp [Char.isAlphanum, Text.isDigit_of_written written]
  rw [Text.toList_toString] at member
  split at member
  · rcases List.mem_cons.1 member with rfl | written
    · decide
    · exact digits written
  · exact digits member

theorem through_toString (n : Int) (p : Place) : p.through (toString n).toList = some p :=
  through_plain (fun _ => plain_toString) p

/-! ## Words and lists -/

/-- The text reads as these words, whatever comes behind it. -/
def Spells (s : String) (ws : List String) : Prop :=
  ∀ rest more, Parted rest → Reads rest more → Reads (s.toList ++ rest) (ws ++ more)

theorem spells_nil : Spells "" [] :=
  fun _ _ _ read => read

theorem spells_word {a : String} (solid : Solid a) : Spells a [a] :=
  fun _ _ parted read => read.word solid parted

/-- Words with a blank between them. -/
def phrase (ws : List String) : String :=
  " ".intercalate ws

theorem spells_phrase {ws : List String} (solid : ∀ w ∈ ws, Solid w) : Spells (phrase ws) ws := by
  induction ws with
  | nil => exact spells_nil
  | cons a rest ih =>
      have first := spells_word (solid a (.head _))
      have others := ih fun w member => solid w (.tail _ member)
      by_cases last : rest = []
      · simpa [phrase, last] using first
      · rw [phrase, String.intercalate_cons_of_ne_nil last]
        intro tail more parted read
        have later := (others tail more parted read).blank (.inl rfl)
        have whole := first _ _ (by simp [divides]) later
        simpa [phrase, String.toList_append] using whole

/-- The text by itself. -/
theorem Spells.reads {s : String} {ws : List String} (spells : Spells s ws) :
    Reads s.toList ws := by
  simpa using spells [] [] (by simp) .nil

/-- **Lists are read item by item**, whatever blanks stand behind the commas. -/
theorem spells_intercalate {α : Type} {text : α → String} {words : α → List String}
    (separator : String) (blanks : List Char) (blank : ∀ c ∈ blanks, c = ' ' ∨ c = '\n')
    (begins : separator.toList = ',' :: blanks) {items : List α}
    (all : ∀ x ∈ items, Spells (text x) (words x)) :
    Spells (separator.intercalate (items.map text)) ([","].intercalate (items.map words)) := by
  induction items with
  | nil => exact spells_nil
  | cons x rest ih =>
      have first := all x (.head _)
      have others := ih fun y member => all y (.tail _ member)
      by_cases last : rest = []
      · simpa [last] using first
      · rw [List.map_cons, List.map_cons, String.intercalate_cons_of_ne_nil (by simp [last]),
          List.intercalate_cons_of_ne_nil (by simp [last])]
        intro tail more parted read
        have later := ((others tail more parted read).blanks blanks blank).comma
        have whole := first _ _ (by simp [divides]) later
        simpa [String.toList_append, List.append_assoc, begins] using whole

/-- A list of lists, none of them empty, is one list. -/
theorem intercalate_lines {α β : Type} (g : α → List β) (comma : List β) {lines : List (List α)}
    (full : ∀ line ∈ lines, line ≠ []) :
    comma.intercalate (lines.map fun line => comma.intercalate (line.map g)) =
      comma.intercalate (lines.flatten.map g) := by
  have append (xs : List α) {ys : List α} (some_ : ys ≠ []) (nonempty : xs ≠ []) :
      comma.intercalate ((xs ++ ys).map g) =
        comma.intercalate (xs.map g) ++ comma ++ comma.intercalate (ys.map g) := by
    induction xs with
    | nil => exact absurd rfl nonempty
    | cons x rest ih =>
        by_cases last : rest = []
        · simp [last, List.intercalate_cons_of_ne_nil, some_]
        · rw [List.cons_append, List.map_cons, List.map_cons,
            List.intercalate_cons_of_ne_nil (by simp [last]), ih last,
            List.intercalate_cons_of_ne_nil (by simp [last])]
          simp [List.append_assoc]
  induction lines with
  | nil => rfl
  | cons line rest ih =>
      have here := full line (.head _)
      have others := ih fun l member => full l (.tail _ member)
      by_cases last : rest = []
      · simp [last]
      · have later : rest.flatten ≠ [] := by
          obtain ⟨l, ls, rfl⟩ := List.exists_cons_of_ne_nil last
          simp [full l (by simp)]
        rw [List.map_cons, List.intercalate_cons_of_ne_nil (by simp [last]), others,
          List.flatten_cons, append line later here]

/-- Lines of these lengths hold that many items, and none of them is empty. -/
def Fits (sizes : List Nat) (count : Nat) : Prop :=
  (∀ n ∈ sizes, 0 < n) ∧ sizes.foldr (· + ·) 0 = count

theorem Fits.full {α : Type} {sizes : List Nat} {items : List α} (fits : Fits sizes items.length) :
    ∀ line ∈ inLines sizes items, line ≠ [] := by
  induction sizes generalizing items with
  | nil =>
      obtain rfl : items = [] := List.eq_nil_of_length_eq_zero (by simpa using fits.2.symm)
      simp [inLines]
  | cons n sizes ih =>
      obtain ⟨positive, exact_⟩ := fits
      have first := positive n (.head _)
      rw [List.foldr_cons] at exact_
      intro line member
      rw [inLines, List.mem_cons] at member
      rcases member with rfl | later
      · intro empty
        have none_ := congrArg List.length empty
        rw [List.length_take, List.length_nil] at none_
        omega
      · refine ih ⟨fun m member => positive m (.tail _ member), ?_⟩ line later
        rw [List.length_drop]
        omega

/-- A layout of words is read as the list of them. -/
theorem spells_laidOut {α : Type} {items : List α} (expression : α → Fragment)
    (solid : ∀ x ∈ items, Solid (expression x).render) {sizes : List Nat}
    (fits : Fits sizes items.length) (indent : String)
    (blank : ∀ c ∈ indent.toList, c = ' ' ∨ c = '\n') :
    Spells (Fragment.render (laidOut sizes indent (items.map expression)))
      ([","].intercalate (items.map fun x => [(expression x).render])) := by
  have full : ∀ line ∈ inLines sizes (items.map expression), line ≠ [] :=
    Fits.full (by rwa [List.length_map])
  have lines : ∀ line ∈ inLines sizes (items.map expression),
      Spells (Fragment.render (Fragment.joined ", " line))
        ([","].intercalate (line.map fun f => [f.render])) := by
    intro line member
    rw [render_joined]
    refine spells_intercalate ", " [' '] (by simp) rfl fun f inside => spells_word ?_
    have listed : f ∈ items.map expression := by
      rw [← inLines_flatten sizes (items.map expression)]
      exact List.mem_flatten.2 ⟨line, member, inside⟩
    obtain ⟨x, here, rfl⟩ := List.mem_map.1 listed
    exact solid x here
  have behind : (",\n" ++ indent).toList = ',' :: '\n' :: indent.toList := by
    simp [String.toList_append]
  have whole := spells_intercalate (",\n" ++ indent) ('\n' :: indent.toList) (by simpa using blank)
    behind lines
  rw [intercalate_lines (fun f : Fragment => [f.render]) [","] full, inLines_flatten,
    List.map_map] at whole
  rw [laidOut, render_joined, List.map_map]
  exact whole

end GeoRegistry.Sql
