/-
# Proofs.Sql.Sentence -- what an insert, an update or a query says

The words of a statement are read as a sentence (`Sentence.ofText?`), from the first one to the
last: the table, the columns with their expressions, and the condition.  An insert pairs its
columns with its values, an update sets each column to an expression, and a query shows each
expression under a name.

The name of a table is whatever the settings make it.  A text says something of its table
(`Sentence.SaidBy`) if, with any name in the place of that one, it is read as a sentence about
the table of that name.  The expressions of a write are single words, whatever they are numbered
with (`term_expression`), so every insert and every update of the registry says what its
assignments are, and a query on a row says what its columns are.
-/
import GeoRegistry.Proofs.Sql.Words

namespace GeoRegistry.Sql

set_option autoImplicit false

/-! ## Sentences -/

/-- What a statement does. -/
inductive Act where
  | insert
  | update
  | query
  deriving DecidableEq, Repr

/-- What a statement says: an insert or an update, which columns get which expressions; a
query, under which names it shows which. -/
structure Sentence where
  act : Act
  table : String
  columns : List (String × String)
  /-- What is asked of the rows, if anything is. -/
  condition : Option String := none
  deriving DecidableEq, Repr

namespace Sentence

/-- The columns that are assigned, or the names that are shown. -/
def names (s : Sentence) : List String :=
  s.columns.map Prod.fst

/-- The items of a list, each read by itself. -/
def items? {α : Type} (item : List String → Option α) (ws : List String) : Option (List α) :=
  (ws.splitOn ",").mapM item

/-- What stands in the parentheses around it. -/
def enclosed? (word : String) : Option String :=
  match word.toList with
  | '(' :: rest => if rest.getLast? = some ')' then some (String.ofList rest.dropLast) else none
  | _ => none

/-- An item of one word. -/
def single? : List String → Option String
  | [word] => some word
  | _ => none

/-- The items of a list in parentheses, one word each. -/
def group? (word : String) : Option (List String) :=
  ((enclosed? word).bind words?).bind (items? single?)

/-- A column and what it is set to. -/
def assignment? : List String → Option (String × String)
  | [column, equals, expression] => if equals = "=" then some (column, expression) else none
  | _ => none

/-- What is shown, under its own name or another. -/
def shown? : List String → Option (String × String)
  | [column] => some (column, column)
  | [expression, as, name] => if as = "AS" then some (name, expression) else none
  | _ => none

/-- A condition, which is all that is left of a statement. -/
def condition? : List String → Option String
  | [] => none
  | word :: rest =>
      if word = "WHERE" ∧ rest.dropWhile (· != ";") = [";"] then
        some (phrase (rest.takeWhile (· != ";")))
      else none

/-- What may stand behind the values of an insert: nothing, or the column that is answered. -/
def isClosing : List String → Bool
  | [last] => last == ";"
  | [returning, _, last] => returning == "RETURNING" && last == ";"
  | _ => false

def ofInsert? : List String → Option Sentence
  | into :: table :: columns :: valuesWord :: values :: rest =>
      if into = "INTO" ∧ valuesWord = "VALUES" ∧ isClosing rest then do
        let columns ← group? columns
        let values ← group? values
        if columns.length = values.length then
          some { act := .insert, table, columns := columns.zip values }
        else none
      else none
  | _ => none

def ofUpdate? : List String → Option Sentence
  | table :: set :: rest =>
      if set = "SET" then do
        let columns ← items? assignment? (rest.takeWhile (· != "WHERE"))
        let condition ← condition? (rest.dropWhile (· != "WHERE"))
        some { act := .update, table, columns, condition := some condition }
      else none
  | _ => none

def ofSelect? (ws : List String) : Option Sentence :=
  match ws.dropWhile (· != "FROM") with
  | _ :: table :: rest => do
      let columns ← items? shown? (ws.takeWhile (· != "FROM"))
      let condition ← condition? rest
      some { act := .query, table, columns, condition := some condition }
  | _ => none

def ofWords? : List String → Option Sentence
  | [] => none
  | verb :: rest =>
      if verb = "INSERT" then ofInsert? rest
      else if verb = "UPDATE" then ofUpdate? rest
      else if verb = "SELECT" then ofSelect? rest
      else none

/-- **What a text says.** -/
def ofText? (s : String) : Option Sentence :=
  (words? s).bind ofWords?

/-- **A text says something of its table**, whatever that is called: with any other name in its
place, the text says the same of the table of that name. -/
def SaidBy (w : Sentence) (text : String) : Prop :=
  ∃ before behind, text = before ++ w.table ++ behind ∧
    ∀ name, Solid name → ofText? (before ++ name ++ behind) = some { w with table := name }

/-- So the text is read as the sentence, where the name of the table is a word. -/
theorem SaidBy.tells {w : Sentence} {text : String} (said : w.SaidBy text)
    (table : Solid w.table) : ofText? text = some w := by
  obtain ⟨before, behind, rfl, reads⟩ := said
  exact reads w.table table

end Sentence

/-! ## Reading lists -/

section Lists

/-- The words that begin what stands behind a list. -/
def keywords : List String := ["FROM", "WHERE"]

/-- A name or an expression: one word, which ends no list. -/
def IsTerm (a : String) : Prop :=
  Solid a ∧ a ∉ keywords

instance (a : String) : Decidable (IsTerm a) :=
  inferInstanceAs (Decidable (_ ∧ _))

theorem IsTerm.ne_comma {a : String} (term : IsTerm a) : "," ≠ a := by
  rintro rfl
  exact absurd term (by decide)

theorem mem_intercalate {α : Type} {x : α} {comma : List α} {lists : List (List α)}
    (member : x ∈ comma.intercalate lists) : x ∈ comma ∨ ∃ l ∈ lists, x ∈ l := by
  induction lists with
  | nil => simp at member
  | cons l rest ih =>
      by_cases last : rest = []
      · exact .inr ⟨l, .head _, by simpa [last] using member⟩
      · rw [List.intercalate_cons_of_ne_nil last, List.mem_append, List.mem_append] at member
        rcases member with (here | comma_) | later
        · exact .inr ⟨l, .head _, here⟩
        · exact .inl comma_
        · rcases ih later with comma_ | ⟨m, listed, inside⟩
          · exact .inl comma_
          · exact .inr ⟨m, .tail _ listed, inside⟩

variable {α β : Type} {words : β → List String} {xs : List β}

theorem not_mem_items {keyword : String} (other : keyword ≠ ",")
    (free : ∀ x ∈ xs, keyword ∉ words x) : keyword ∉ [","].intercalate (xs.map words) := by
  intro member
  rcases mem_intercalate member with comma | ⟨_, listed, inside⟩
  · exact other (List.mem_singleton.1 comma)
  · obtain ⟨x, here, rfl⟩ := List.mem_map.1 listed
    exact free x here inside

variable (item : List String → Option α) (value : β → α) (some_ : xs ≠ [])
  (terms : ∀ x ∈ xs, ∀ w ∈ words x, IsTerm w) (read : ∀ x ∈ xs, item (words x) = some (value x))

include some_ terms read

/-- **A list is read as its items are.** -/
theorem items?_intercalate :
    Sentence.items? item ([","].intercalate (xs.map words)) = some (xs.map value) := by
  have apart : ∀ l ∈ xs.map words, "," ∉ l := by
    intro l listed comma
    obtain ⟨x, here, rfl⟩ := List.mem_map.1 listed
    exact (terms x here _ comma).ne_comma rfl
  rw [Sentence.items?, List.splitOn_intercalate "," apart (by simpa using some_)]
  clear apart some_ terms
  induction xs with
  | nil => rfl
  | cons x rest ih =>
      rw [List.map_cons, List.mapM_cons, read x (.head _),
        ih fun y member => read y (.tail _ member)]
      rfl

/-- A list ends at the first keyword behind it. -/
theorem items?_until (keyword : String) (key : keyword ∈ keywords) (rest : List String) :
    Sentence.items? item
        (([","].intercalate (xs.map words) ++ keyword :: rest).takeWhile (· != keyword)) =
          some (xs.map value) ∧
      ([","].intercalate (xs.map words) ++ keyword :: rest).dropWhile (· != keyword) =
        keyword :: rest := by
  have other : keyword ≠ "," := by
    rintro rfl
    exact absurd key (by decide)
  have free := not_mem_items other fun x here inside => (terms x here keyword inside).2 key
  have all : ∀ w ∈ [","].intercalate (xs.map words), (w != keyword) = true := by
    intro w member
    have apart : w ≠ keyword := fun same => free (same ▸ member)
    simpa using apart
  rw [Text.takeWhile_run all (by simp), Text.dropWhile_run all (by simp)]
  exact ⟨items?_intercalate item value some_ terms read, rfl⟩

end Lists

/-! ## Reading expressions -/

/-- A slot is written with nothing that a reader of words looks at. -/
theorem plain_slot (n : Int) : ∀ c ∈ (Piece.slot n).render.toList, c ∉ looked := by
  intro c member
  rw [Piece.render, String.toList_append, List.mem_append] at member
  rcases member with dollar | digit
  · obtain rfl : c = '$' := by simpa using dollar
    decide
  · exact plain_toString digit

theorem term_slot (n : Int) : IsTerm (Fragment.render [.slot n]) := by
  have text : Fragment.render [.slot n] = (Piece.slot n).render := by
    rw [render_slot_cons, render_nil, String.append_empty]
    rfl
  rw [text]
  refine ⟨solid_plain ?_ (plain_slot n), ?_⟩ <;>
    simp [Piece.render, keywords, ← String.toList_inj]

/-- The place behind a fragment, piece by piece. -/
theorem through_render_cons {p q r : Place} {piece : Piece} {f : Fragment}
    (first : p.through piece.render.toList = some q)
    (second : q.through (Fragment.render f).toList = some r) :
    p.through (Fragment.render (piece :: f)).toList = some r := by
  have text : Fragment.render (piece :: f) = piece.render ++ Fragment.render f := by
    cases piece with
    | text s => exact render_text_cons s f
    | slot n => exact render_slot_cons n f
  rw [text]
  exact Place.through_trans first second

/-- **Every expression of a write is one word.** -/
theorem term_expression (a : Assignments) (first slot : Int) (source : Source) :
    IsTerm (a.expression first slot source).render := by
  have through_slot (n : Int) (p : Place) := through_plain (plain_slot n) p
  cases source with
  | field | user => exact term_slot slot
  | now =>
      change IsTerm (Fragment.render [.text "CURRENT_TIMESTAMP"])
      decide +kernel
  | point x y srid =>
      have closing : Place.through ⟨2, false⟩ ("), " ++ toString srid ++ ")").toList = some .top :=
        Place.through_trans
          (Place.through_trans (by decide +kernel) (through_toString srid ⟨1, false⟩))
          (by decide +kernel)
      refine ⟨⟨?_, ?_⟩, ?_⟩
      · simp [Assignments.expression, render_text_cons, ← String.toList_inj]
      · refine through_render_cons (q := ⟨2, false⟩) (by decide +kernel) ?_
        refine through_render_cons (through_slot slot _) ?_
        refine through_render_cons (q := ⟨2, false⟩) (by decide +kernel) ?_
        refine through_render_cons (through_slot (slot + 1) _) ?_
        exact through_render_cons closing rfl
      · simp [Assignments.expression, render_text_cons, keywords, ← String.toList_inj]
  | words name description comment =>
      refine ⟨⟨?_, ?_⟩, ?_⟩
      · simp [Assignments.expression, render_text_cons, ← String.toList_inj]
      · -- the parentheses open at each slot are those of its `unaccent` and what it stands in
        refine through_render_cons (q := ⟨2, false⟩) (by decide +kernel) ?_
        refine through_render_cons (through_slot (a.slotOf first name) _) ?_
        refine through_render_cons (q := ⟨3, false⟩) (by decide +kernel) ?_
        refine through_render_cons (through_slot (a.slotOf first description) _) ?_
        refine through_render_cons (q := ⟨3, false⟩) (by decide +kernel) ?_
        refine through_render_cons (through_slot (a.slotOf first comment) _) ?_
        exact through_render_cons (q := .top) (by decide +kernel) rfl
      · simp [Assignments.expression, render_text_cons, keywords, ← String.toList_inj]

/-- The columns of a write with their expressions, as texts. -/
def Assignments.said (a : Assignments) (first : Int) : List (String × String) :=
  (a.spelled first).map fun p => (p.1, p.2.render)

theorem term_spelled {a : Assignments} (columns : ∀ p ∈ a, IsTerm p.1) (first : Int) :
    ∀ p ∈ a.spelled first, IsTerm p.1 ∧ IsTerm p.2.render := by
  have expressions (slot : Int) (rest : Assignments) :
      ∀ f ∈ a.expressionsFrom first slot rest, IsTerm f.render := by
    induction rest generalizing slot with
    | nil => simp [Assignments.expressionsFrom]
    | cons head rest ih =>
        intro f member
        rcases List.mem_cons.1 member with rfl | later
        · exact term_expression a first slot head.2
        · exact ih _ f later
  intro p member
  obtain ⟨named, expressed⟩ := List.of_mem_zip member
  obtain ⟨q, listed, same⟩ := List.mem_map.1 named
  exact ⟨same ▸ columns q listed, expressions first a _ expressed⟩

theorem spelled_ne_nil {a : Assignments} (some_ : a ≠ []) (first : Int) : a.spelled first ≠ [] := by
  intro none_
  have columns := (spelled_fst_snd a first).1
  rw [none_] at columns
  exact some_ (List.map_eq_nil_iff.1 columns.symm)

/-! ## Reading statements -/

namespace Sentence

/-- A text says what its words say. -/
theorem ofText?_eq {s : String} {cs : List Char} {ws : List String} (read : Reads cs ws)
    (same : s.toList = cs) : ofText? s = ofWords? ws := by
  rw [ofText?, words?, same, read]
  rfl

theorem enclosed?_group (s : String) : enclosed? ("(" ++ s ++ ")") = some s := by
  have chars : ("(" ++ s ++ ")").toList = '(' :: (s.toList ++ [')']) := by
    simp [String.toList_append]
  simp [enclosed?, chars]

/-- A list in parentheses is read as its items are. -/
theorem group?_eq {β : Type} (text : β → String) {xs : List β} {inner : String} (some_ : xs ≠ [])
    (terms : ∀ x ∈ xs, IsTerm (text x))
    (read : Reads inner.toList ([","].intercalate (xs.map fun x => [text x]))) :
    group? ("(" ++ inner ++ ")") = some (xs.map text) := by
  have items : items? single? ([","].intercalate (xs.map fun x => [text x])) =
      some (xs.map text) :=
    items?_intercalate single? text some_ (fun x member => by simpa using terms x member)
      fun _ _ => rfl
  rw [group?, enclosed?_group, Option.bind_some, words?, read, Option.bind_some]
  exact items

end Sentence

/-! ### Inserts -/

/-- What stands behind the values of an insert. -/
def Insertion.closing (w : Insertion) : String :=
  match w.returning with
  | none => ";\n"
  | some column => "\nRETURNING " ++ column ++ ";\n"

theorem reads_closing {w : Insertion} (named : ∀ c, w.returning = some c → Solid c) :
    Parted w.closing.toList ∧
      ∃ more, Reads w.closing.toList more ∧ Sentence.isClosing more = true := by
  have last : Reads [';', '\n'] [";"] := (Reads.nil.blank (.inr rfl)).semicolon
  cases given : w.returning with
  | none =>
      have chars : w.closing.toList = [';', '\n'] := by simp [Insertion.closing, given]
      rw [chars]
      exact ⟨by simp [divides], _, last, rfl⟩
  | some column =>
      have word := last.word (named column given) (by simp [divides])
      have whole := ((word.blank (.inl rfl)).word (a := "RETURNING") (by decide)
        (by simp [divides])).blank (.inr rfl)
      have chars : w.closing.toList =
          '\n' :: ("RETURNING".toList ++ ' ' :: (column.toList ++ [';', '\n'])) := by
        simp [Insertion.closing, given, String.toList_append]
      rw [chars]
      exact ⟨by simp [divides], _, whole, rfl⟩

theorem render_insertion (w : Insertion) :
    w.sql.render =
      "\nINSERT INTO " ++ w.table ++
        ("\n(" ++
          Fragment.render (laidOut w.columnLines " "
            ((w.assignments.spelled 1).map fun p => [.text p.1])) ++
        ")\nVALUES (" ++
          Fragment.render (laidOut w.valueLines "        "
            ((w.assignments.spelled 1).map Prod.snd)) ++
        ")" ++ w.closing) := by
  rw [sql_insertion, Insertion.closing]
  simp only [List.cons_append, List.append_assoc, render_text_cons, render_append, render_nil]
  cases w.returning <;> simp [← String.toList_inj]

/-- What an insert assigns. -/
def Insertion.sentence (w : Insertion) : Sentence where
  act := .insert
  table := w.table
  columns := w.assignments.said 1

/-- **An insert says what it assigns.** -/
theorem insertion_said {w : Insertion} (columns : ∀ p ∈ w.assignments, IsTerm p.1)
    (some_ : w.assignments ≠ []) (columnsFit : Fits w.columnLines w.assignments.length)
    (valuesFit : Fits w.valueLines w.assignments.length)
    (returning : ∀ column, w.returning = some column → Solid column) :
    w.sentence.SaidBy w.sql.render := by
  refine ⟨_, _, render_insertion w, fun name table => ?_⟩
  have terms := term_spelled columns 1
  have nonempty := spelled_ne_nil some_ 1
  have length : w.assignments.length = (w.assignments.spelled 1).length := by
    rw [← List.length_map (f := Prod.fst), ← (spelled_fst_snd _ 1).1, List.length_map]
  rw [length] at columnsFit valuesFit
  -- what stands in the two pairs of parentheses
  generalize named : Fragment.render (laidOut w.columnLines " "
    ((w.assignments.spelled 1).map fun p => [.text p.1])) = names
  generalize valued : Fragment.render (laidOut w.valueLines "        "
    ((w.assignments.spelled 1).map Prod.snd)) = values
  have first : Reads names.toList
      ([","].intercalate ((w.assignments.spelled 1).map fun p => [p.1])) := by
    have list := (spells_laidOut (fun p : String × Fragment => [.text p.1])
      (fun p listed => by simpa [render_text_cons] using (terms p listed).1.1)
      columnsFit " " (by simp)).reads
    rw [named] at list
    simpa [render_text_cons] using list
  have second : Reads values.toList
      ([","].intercalate ((w.assignments.spelled 1).map fun p => [p.2.render])) := by
    have list := (spells_laidOut (fun p : String × Fragment => p.2)
      (fun p listed => (terms p listed).2.1) valuesFit "        " (by simp)).reads
    rwa [valued] at list
  -- the words of the statement, from the last one on
  obtain ⟨parted, more, read, closes⟩ := reads_closing returning
  have atValues := (read.word (solid_enclosed second) parted).blank (.inl rfl)
  have atColumns := ((atValues.word (a := "VALUES") (by decide) (by simp [divides])).blank
    (.inr rfl)).word (solid_enclosed first) (by simp [divides])
  have atTable := (atColumns.blank (.inr rfl)).word table (by simp [divides])
  have atInto := (atTable.blank (.inl rfl)).word (a := "INTO") (by decide) (by simp [divides])
  have whole := ((atInto.blank (.inl rfl)).word (a := "INSERT") (by decide)
    (by simp [divides])).blank (.inr rfl)
  have columnList := Sentence.group?_eq Prod.fst nonempty
    (fun p listed => (terms p listed).1) first
  have valueList := Sentence.group?_eq (fun p => p.2.render) nonempty
    (fun p listed => (terms p listed).2) second
  rw [Sentence.ofText?_eq whole (by simp [String.toList_append]), Sentence.ofWords?,
    if_pos rfl, Sentence.ofInsert?, if_pos ⟨rfl, rfl, closes⟩, columnList, valueList]
  simp [Insertion.sentence, Assignments.said, List.zip_map']

/-! ### Conditions -/

/-- There is nothing in the text but blanks. -/
def Blank (s : String) : Prop :=
  ∀ c ∈ s.toList, c = ' ' ∨ c = '\n'

instance (s : String) : Decidable (Blank s) :=
  List.decidableBAll (fun c => c = ' ' ∨ c = '\n') s.toList

theorem Blank.parted {s : String} (blank : Blank s) (some_ : s ≠ "") (rest : List Char) :
    Parted (s.toList ++ rest) := by
  obtain ⟨c, cs, chars⟩ := List.exists_cons_of_ne_nil (l := s.toList) (by simpa using some_)
  rw [chars, List.cons_append]
  rcases blank c (by simp [chars]) with rfl | rfl <;> simp [divides]

section Conditions

variable {ws : List String} (solid : ∀ w ∈ ws, Solid w)

include solid

/-- A condition of words is read as the phrase of them. -/
theorem condition?_words : Sentence.condition? ("WHERE" :: (ws ++ [";"])) = some (phrase ws) := by
  have all : ∀ w ∈ ws, (w != ";") = true := by
    intro w member
    have apart : w ≠ ";" := by
      rintro rfl
      exact absurd (solid _ member) (by decide)
    simpa using apart
  rw [Sentence.condition?, Text.takeWhile_run all (by simp), Text.dropWhile_run all (by simp),
    if_pos ⟨rfl, rfl⟩]

/-- The words of a condition, up to the end of its statement. -/
theorem reads_condition (tail : String) (blank : Blank tail) :
    Reads ("WHERE ".toList ++ ((phrase ws).toList ++ ';' :: tail.toList))
      ("WHERE" :: (ws ++ [";"])) := by
  have atEnd := (Reads.nil.blanks tail.toList blank).semicolon
  rw [List.append_nil] at atEnd
  have atWords := spells_phrase solid _ _ (by simp [divides]) atEnd
  have whole := (atWords.blank (.inl rfl)).word (a := "WHERE") (by decide) (by simp [divides])
  simpa using whole

end Conditions

/-- The row of the id that is the first argument, unless it is deleted. -/
def byId : String := "id = $1 AND _deleted = false"

/-- The words of that. -/
def byIdWords : List String := ["id", "=", "$1", "AND", "_deleted", "=", "false"]

theorem phrase_byIdWords : phrase byIdWords = byId := by
  decide +kernel

/-! ### Updates -/

/-- How an update is laid out: the blanks in front of it and before each assignment, before the
condition, and behind the end. -/
structure Layout where
  lead : String
  gap : String
  last : String
  tail : String

namespace Layout

/-- Everything in one line. -/
def line : Layout := ⟨"", " ", " ", ""⟩

/-- A line for each assignment. -/
def lines : Layout := ⟨"\n", "\n       ", "\n", "\n"⟩

/-- What stands behind the table of an update. -/
def behind (l : Layout) (assigned : List (String × String)) (condition : String) : String :=
  " SET" ++ l.gap ++ ("," ++ l.gap).intercalate (assigned.map fun p => p.1 ++ " = " ++ p.2) ++
    l.last ++ "WHERE " ++ condition ++ ";" ++ l.tail

def text (l : Layout) (table : String) (assigned : List (String × String))
    (condition : String) : String :=
  l.lead ++ "UPDATE " ++ table ++ l.behind assigned condition

/-- Words are told apart in the layout. -/
structure Clear (l : Layout) : Prop where
  lead : Blank l.lead
  gap : Blank l.gap ∧ l.gap ≠ ""
  last : Blank l.last ∧ l.last ≠ ""
  tail : Blank l.tail

theorem clear_line : line.Clear := by
  constructor <;> decide

theorem clear_lines : lines.Clear := by
  constructor <;> decide

end Layout

/-- **An update says what it assigns**, and to which rows. -/
theorem update_said {l : Layout} (clear : l.Clear) (table : String)
    (assigned : List (String × String)) (some_ : assigned ≠ [])
    (terms : ∀ p ∈ assigned, IsTerm p.1 ∧ IsTerm p.2) {ws : List String}
    (solid : ∀ w ∈ ws, Solid w) :
    Sentence.SaidBy { act := .update, table, columns := assigned, condition := some (phrase ws) }
      (l.text table assigned (phrase ws)) := by
  refine ⟨_, _, rfl, fun name named => ?_⟩
  have words : ∀ p ∈ assigned, ∀ w ∈ [p.1, "=", p.2], IsTerm w := by
    intro p listed
    obtain ⟨column, expression⟩ := terms p listed
    have equals : IsTerm "=" := by decide
    simp [column, expression, equals]
  have phrases : assigned.map (fun p => p.1 ++ " = " ++ p.2) =
      assigned.map fun p => phrase [p.1, "=", p.2] := by
    refine List.map_congr_left fun p _ => ?_
    simp [phrase, ← String.toList_inj]
  have list := spells_intercalate ("," ++ l.gap) l.gap.toList clear.gap.1
    (by simp [String.toList_append])
    fun p listed => spells_phrase fun w member => (words p listed w member).1
  -- the words of the statement, from the last one on
  have atWhere := (reads_condition solid l.tail clear.tail).blanks _ clear.last.1
  have assigning := list _ _ (clear.last.1.parted clear.last.2 _) atWhere
  have atSet := (assigning.blanks _ clear.gap.1).word (a := "SET") (by decide)
    (clear.gap.1.parted clear.gap.2 _)
  have atTable := (atSet.blank (.inl rfl)).word named (by simp [divides])
  have whole := ((atTable.blank (.inl rfl)).word (a := "UPDATE") (by decide)
    (by simp [divides])).blanks _ clear.lead
  obtain ⟨before, behind⟩ := items?_until Sentence.assignment? (fun p => (p.1, p.2)) some_ words
    (fun _ _ => by simp [Sentence.assignment?]) "WHERE" (by simp [keywords]) (ws ++ [";"])
  rw [Sentence.ofText?_eq whole (by simp [Layout.behind, phrases, String.toList_append]),
    Sentence.ofWords?, if_neg (by simp), if_pos rfl, Sentence.ofUpdate?, if_pos rfl, before,
    behind, condition?_words solid]
  simp

/-- An update of all columns of a row is laid out in lines. -/
theorem render_replacement_lines (w : Replacement) :
    w.sql.render = Layout.lines.text w.table (w.assignments.said 2) byId := by
  have one : toString (1 : Int) = "1" := rfl
  have texts : assignmentTexts (w.assignments.spelled 2) =
      (w.assignments.said 2).map fun p => p.1 ++ " = " ++ p.2 := by
    simp [assignmentTexts, Assignments.said]
  rw [render_replacement, text_byId, one, texts]
  simp [Layout.text, Layout.behind, Layout.lines, byId, ← String.toList_inj]

/-- What such an update assigns, to the row of an id. -/
def Replacement.sentence (w : Replacement) : Sentence where
  act := .update
  table := w.table
  columns := w.assignments.said 2
  condition := some byId

/-- And it says so. -/
theorem replacement_said {w : Replacement} (columns : ∀ p ∈ w.assignments, IsTerm p.1)
    (some_ : w.assignments ≠ []) : w.sentence.SaidBy w.sql.render := by
  have terms : ∀ p ∈ w.assignments.said 2, IsTerm p.1 ∧ IsTerm p.2 := by
    intro p listed
    obtain ⟨q, spelled, rfl⟩ := List.mem_map.1 listed
    exact term_spelled columns 2 q spelled
  have nonempty : w.assignments.said 2 ≠ [] := by
    simpa [Assignments.said] using spelled_ne_nil some_ 2
  have solid : ∀ a ∈ byIdWords, Solid a := by decide +kernel
  rw [render_replacement_lines, Replacement.sentence, ← phrase_byIdWords]
  exact update_said Layout.clear_lines w.table _ nonempty terms solid

/-! ### Queries -/

/-- The words of a column of a query. -/
def Column.words (c : Column) : List String :=
  match c.shownAs with
  | none => [c.expression]
  | some name => [c.expression, "AS", name]

/-- A column of a query as it is read. -/
def Column.said (c : Column) : String × String :=
  (c.name, c.expression)

theorem Column.text_eq (c : Column) : c.text = phrase c.words := by
  obtain ⟨expression, shownAs⟩ := c
  cases shownAs <;> simp [Column.text, Column.words, phrase, ← String.toList_inj]

theorem shown?_words (c : Column) : Sentence.shown? c.words = some c.said := by
  obtain ⟨expression, shownAs⟩ := c
  cases shownAs <;> simp [Column.words, Column.name, Column.said, Sentence.shown?]

/-- **A query says what it shows**, and of which rows. -/
theorem query_said (table : String) (columns : List Column) {indent : String}
    (blank : Blank indent) (some_ : columns ≠ [])
    (terms : ∀ c ∈ columns, ∀ w ∈ c.words, IsTerm w) {ws : List String}
    (solid : ∀ w ∈ ws, Solid w) :
    Sentence.SaidBy
      { act := .query, table, columns := columns.map Column.said, condition := some (phrase ws) }
      ("SELECT " ++ Column.listing indent columns ++ " FROM " ++ table ++ " WHERE " ++ phrase ws ++
        ";") := by
  refine ⟨"SELECT " ++ Column.listing indent columns ++ " FROM ", " WHERE " ++ phrase ws ++ ";",
    by simp only [String.append_assoc], fun name named => ?_⟩
  have phrases : columns.map Column.text = columns.map fun c => phrase c.words :=
    List.map_congr_left fun c _ => c.text_eq
  have behind : (",\n" ++ indent).toList = ',' :: '\n' :: indent.toList := by
    simp [String.toList_append]
  have list := spells_intercalate (",\n" ++ indent) ('\n' :: indent.toList)
    (by simpa [Blank] using blank) behind
    fun c member => spells_phrase fun w inside => (terms c member w inside).1
  -- the words of the statement, from the last one on
  have atWhere := (reads_condition solid "" (by decide)).blank (.inl rfl)
  have atFrom := ((atWhere.word named (by simp [divides])).blank (.inl rfl)).word (a := "FROM")
    (by decide) (by simp [divides])
  have atColumns := list _ _ (by simp [divides]) (atFrom.blank (.inl rfl))
  have whole := (atColumns.blank (.inl rfl)).word (a := "SELECT") (by decide) (by simp [divides])
  obtain ⟨before, after⟩ := items?_until Sentence.shown? Column.said some_ terms
    (fun c _ => shown?_words c) "FROM" (by simp [keywords]) (name :: "WHERE" :: (ws ++ [";"]))
  rw [Sentence.ofText?_eq whole (by simp [Column.listing, phrases, String.toList_append]),
    Sentence.ofWords?, if_neg (by simp), if_neg (by simp), if_pos rfl, Sentence.ofSelect?, after,
    before]
  simp [condition?_words solid]

end GeoRegistry.Sql
