/-
# Proofs.Log.Line -- a line of the log is visible, and says its record

Whatever a record holds, its line is printable ASCII: no text of a caller ends the line or
forges another one.  Where the context is plain JSON under names of its own, the line is read
as exactly what the record says (`content`): its level, its logger and its message, the context
that is shown, and the exceptions if there are any (`line_says_its_record`).
-/
import GeoRegistry.Log.Line
import GeoRegistry.Proofs.Cell
import GeoRegistry.Proofs.Json.Ascii

namespace GeoRegistry

set_option autoImplicit false

open Text

/-! ## What is written at all -/

namespace Json

mutual

/-- A legible value has no integer that is too long to be written. -/
theorem LegibleIf.short {exact : Binary64 → Prop} :
    ∀ {v : Json}, v.LegibleIf exact → v.hasLongInteger = false
  | .null, _ | .bool _, _ | .text _, _ | .float _, _ => rfl
  | .int _, short => decide_eq_false (Nat.not_lt.2 short)
  | .array _, legible => ItemsLegibleIf.short legible
  | .object _, legible => FieldsLegibleIf.short legible.2

theorem ItemsLegibleIf.short {exact : Binary64 → Prop} :
    ∀ {items : List Json}, ItemsLegibleIf exact items → itemsHaveLong items = false
  | [], _ => rfl
  | _ :: _, legible => by
      rw [itemsHaveLong, legible.1.short, ItemsLegibleIf.short legible.2]
      rfl

theorem FieldsLegibleIf.short {exact : Binary64 → Prop} :
    ∀ {fields : List (String × Json)}, FieldsLegibleIf exact fields →
      fieldsHaveLong fields = false
  | [], _ => rfl
  | _ :: _, legible => by
      rw [fieldsHaveLong, legible.1.short, FieldsLegibleIf.short legible.2]
      rfl

end

end Json

namespace Log.Line

/-! ## Lines -/

theorem written_visible {fields : Record} {s : String} (made : written fields = .ok s) :
    AllVisible s.toList := by
  unfold written at made
  split at made
  · cases made
  · cases made
    rw [Json.render, String.toList_ofList]
    exact Json.visible_chars Json.spaced_visible _

/-- What a record is written as, once its message and its exceptions have words. -/
theorem render_eq {line : Line} {message : String} {exceptions : Option String}
    (worded : line.message = .ok message) (attached : line.exceptions? = .ok exceptions) :
    line.render = written (line.fields message exceptions) := by
  rw [render, worded, attached]
  rfl

/-! ## The fields of a line -/

/-- The attributes that a record has before anything is set on it. -/
def attributes : List String :=
  maker :: reserved.filter (· ∉ ["message", "asctime", "taskName"])

/-- A name that context may have: it is no attribute of the record, and no name of the line. -/
def IsFree (name : String) : Prop :=
  name ∉ attributes ∧ name ≠ "level" ∧ name ≠ "logger"

/-- What the line of a record says. -/
def content (line : Line) (logger message : String) (extra : List (String × Json)) :
    List (String × Json) :=
  [("level", (Level.called line.rank).toJsonWith Cell.logRendering), ("logger", .text logger),
    ("message", .text message)] ++
    extra.filter (fun f => isContext f.1) ++
    (line.exceptions.map fun messages => ("exc_info", Json.text (chainText messages))).toList

/-- The name of a level is a word or a rank. -/
theorem called_legible (rank : Cell) {exact : Binary64 → Prop} :
    ((Level.called rank).toJsonWith Cell.logRendering).LegibleIf exact := by
  have ranks (level : Level) : (Nat.toDigits 10 level.rank.natAbs).length ≤ maxDigits := by
    cases level <;> decide
  have given {own : Option Cell} {other : String}
      (known : ∀ c ∈ own, (c.toJsonWith Cell.logRendering).LegibleIf exact) :
      ((own.getD (.text other)).toJsonWith Cell.logRendering).LegibleIf exact := by
    cases own with
    | none => trivial
    | some c => exact known c rfl
  unfold Level.called
  refine given fun c member => ?_
  split at member
  · obtain ⟨level, -, rfl⟩ := Option.map_eq_some_iff.1 member
    exact ranks level
  · obtain ⟨level, -, rfl⟩ := Option.map_eq_some_iff.1 member
    trivial

section Unset

variable {line : Line} {names : List String} (unset : ∀ f ∈ line.extra, f.1 ∉ names)

include unset

/-- What is set on a record leaves the other attributes alone. -/
theorem lookup_unset {name : String} (listed : name ∈ names) : line.extra.lookup name = none := by
  refine Json.lookup_of_fresh fun member => ?_
  obtain ⟨f, there, rfl⟩ := List.mem_map.1 member
  exact unset f there listed

theorem attributeOf_unset {name : String} (listed : name ∈ names) (own : Cell) :
    attributeOf name own line.extra = own := by
  rw [attributeOf, lookup_unset unset listed]
  rfl

theorem exceptions?_unset (listed : "exc_info" ∈ names) :
    line.exceptions? = .ok (line.exceptions.map chainText) := by
  simp only [exceptions?, lookup_unset unset listed]

theorem identity_unset (level : "levelname" ∈ names) (logger : "name" ∈ names) (message : String) :
    line.identity message = [("level", Level.called line.rank), ("logger", line.logger),
      ("message", .text message)] := by
  rw [identity, attributeOf_unset unset level, attributeOf_unset unset logger]

end Unset

section Fields

variable {line : Line} {logger message : String} {extra : List (String × Json)}
  (attached : line.extra = Cell.ofFields extra) (free : ∀ f ∈ extra, IsFree f.1)

include attached free

/-- No attribute of the record is set by its context. -/
theorem attributes_unset : ∀ f ∈ line.extra, f.1 ∉ attributes := by
  intro f member
  have named : f.1 ∈ (Cell.ofFields extra).map Prod.fst :=
    List.mem_map_of_mem (attached ▸ member)
  rw [Cell.ofFields_names] at named
  obtain ⟨g, there, same⟩ := List.mem_map.1 named
  exact same ▸ (free g there).1

theorem exceptions?_own : line.exceptions? = .ok (line.exceptions.map chainText) :=
  exceptions?_unset (attributes_unset attached free) (by decide)

theorem identity_own (named : line.logger = .text logger) :
    line.identity message = [("level", Level.called line.rank), ("logger", .text logger),
      ("message", .text message)] := by
  rw [identity_unset (attributes_unset attached free) (by decide) (by decide), named]

omit free in
theorem context_own : line.context = Cell.ofFields (extra.filter fun f => isContext f.1) := by
  rw [context, attached, Cell.ofFields_eq_map, Cell.ofFields_eq_map, List.filter_map]
  rfl

omit attached in
/-- No name that is shown stands twice. -/
theorem shown_names (distinct : (extra.map Prod.fst).Nodup) :
    (["level", "logger", "message"] ++ (extra.filter fun f => isContext f.1).map Prod.fst ++
      ["exc_info"]).Nodup := by
  have kept : ((extra.filter fun f => isContext f.1).map Prod.fst).Nodup :=
    distinct.sublist (List.filter_sublist.map Prod.fst)
  have context : ∀ name ∈ (extra.filter fun f => isContext f.1).map Prod.fst,
      name ≠ "level" ∧ name ≠ "logger" ∧ name ≠ "message" ∧ name ≠ "exc_info" := by
    intro name member
    obtain ⟨f, there, rfl⟩ := List.mem_map.1 member
    obtain ⟨given, shown⟩ := List.mem_filter.1 there
    refine ⟨(free f given).2.1, (free f given).2.2, ?_, ?_⟩ <;> intro same <;>
      rw [same] at shown <;> cases shown
  refine List.nodup_append.2 ⟨List.nodup_append.2 ⟨by decide, kept, ?_⟩, by simp, ?_⟩
  · rintro own listed name member rfl
    have other := context own member
    simp only [List.mem_cons, List.not_mem_nil, or_false] at listed
    rcases listed with rfl | rfl | rfl <;> simp at other
  · rintro name member own listed rfl
    obtain rfl := List.mem_singleton.1 listed
    rcases List.mem_append.1 member with first | later
    · revert first
      decide
    · exact (context _ later).2.2.2 rfl

omit attached in
theorem content_names (distinct : (extra.map Prod.fst).Nodup) :
    ((line.content logger message extra).map Prod.fst).Nodup := by
  have names := shown_names free distinct
  rw [content, List.map_append, List.map_append]
  cases line.exceptions with
  | none => simpa using (List.nodup_append.1 names).1
  | some messages => exact names

/-- No name of the context replaces another one, so the context is put behind the names of the
line. -/
theorem shown_own (named : line.logger = .text logger) (distinct : (extra.map Prod.fst).Nodup) :
    line.context.foldl (fun acc f => Json.put acc f.1 f.2) (line.identity message) =
      line.identity message ++ Cell.ofFields (extra.filter fun f => isContext f.1) := by
  have names := shown_names free distinct
  rw [context_own attached]
  refine Json.foldl_put _ _ ?_
  rw [identity_own attached free named, Cell.ofFields_names]
  exact (List.nodup_append.1 names).1

theorem exc_info_fresh (named : line.logger = .text logger)
    (distinct : (extra.map Prod.fst).Nodup) :
    "exc_info" ∉ (line.identity message ++
      Cell.ofFields (extra.filter fun f => isContext f.1)).map Prod.fst := by
  have names := shown_names free distinct
  rw [identity_own attached free named, List.map_append, Cell.ofFields_names]
  intro member
  exact (List.nodup_append.1 names).2.2 _ member "exc_info" (.head _) rfl

theorem toJson_shown (named : line.logger = .text logger) :
    Cell.fieldsToJson Cell.logRendering
      (line.identity message ++ Cell.ofFields (extra.filter fun f => isContext f.1)) =
      [("level", (Level.called line.rank).toJsonWith Cell.logRendering), ("logger", .text logger),
        ("message", .text message)] ++ extra.filter (fun f => isContext f.1) := by
  have context : Cell.fieldsToJson Cell.logRendering
      (Cell.ofFields (extra.filter fun f => isContext f.1)) =
      extra.filter fun f => isContext f.1 :=
    Cell.fieldsToJson_ofFields fun _ _ => rfl
  rw [Cell.fieldsToJson_eq_map] at context ⊢
  rw [List.map_append, context, identity_own attached free named]
  rfl

/-- **The fields of a line are what it says.** -/
theorem fields_own (named : line.logger = .text logger) (distinct : (extra.map Prod.fst).Nodup) :
    (Cell.record (line.fields message (line.exceptions.map chainText))).toJsonWith
      Cell.logRendering = .object (line.content logger message extra) := by
  have shown := @toJson_shown line logger message extra attached free named
  cases attachedTo : line.exceptions with
  | none =>
      simp only [fields, Option.map_none, Cell.toJsonWith, shown_own attached free named distinct,
        content, attachedTo]
      simpa using shown
  | some messages =>
      rw [Cell.fieldsToJson_eq_map] at shown
      simp only [fields, Option.map_some, Cell.toJsonWith, shown_own attached free named distinct,
        content, attachedTo, Json.put_of_fresh (exc_info_fresh attached free named distinct),
        Cell.fieldsToJson_eq_map, List.map_append, List.map_singleton]
      rw [← List.map_append, shown]
      rfl

omit attached in
/-- What a line says is legible. -/
theorem content_legible (legible : (Json.object extra).Legible) :
    (Json.object (line.content logger message extra)).LegibleIf Json.ReadsBack := by
  have given : (Json.object extra).LegibleIf Json.ReadsBack := legible.legibleIf
  have each := Json.fieldsLegibleIf_iff.1 given.2
  refine ⟨content_names free legible.1, Json.fieldsLegibleIf_iff.2 ?_⟩
  simp only [content, List.forall_mem_append, List.forall_mem_cons]
  refine ⟨⟨⟨called_legible line.rank, trivial, trivial, by simp⟩, fun f member =>
    each f (List.mem_filter.1 member).1⟩, ?_⟩
  cases line.exceptions with
  | none => simp
  | some messages => simp [Json.LegibleIf]

theorem render_own (named : line.logger = .text logger) (legible : (Json.object extra).Legible)
    (worded : line.message = .ok message) :
    line.render =
      .ok ((Json.object (line.content logger message extra)).render Json.spaced) := by
  have shown : (Cell.record (line.fields message (line.exceptions.map chainText))).toJsonWith
      Cell.logRendering = .object (line.content logger message extra) :=
    fields_own attached free named legible.1
  have short : (Json.object (line.content logger message extra)).hasLongInteger = false :=
    (content_legible free legible).short
  rw [render_eq worded (exceptions?_own attached free), written, Cell.hasLongInteger, shown, short]
  rfl

end Fields

/-- **A line is visible, and says its record.**  Whatever a record holds, its line is printable
ASCII; and it has one, if its message and its exceptions have words and no integer in it is too
long.  Where what is set on the record is free of floating-point numbers, under distinct names of
its own, and no text has the halves of a character side by side, the line is read as exactly what
it says, by every reader that goes as deep. -/
theorem line_says_its_record (line : Line) :
    (∀ s, line.render = .ok s → AllVisible s.toList) ∧
    (∀ message exceptions, line.message = .ok message → line.exceptions? = .ok exceptions →
      (Cell.record (line.fields message exceptions)).hasLongInteger = false →
      ∃ s, line.render = .ok s) ∧
    ∀ (logger message : String) (extra : List (String × Json)),
      line.logger = .text logger → line.extra = Cell.ofFields extra →
      (Json.object extra).Legible → (∀ f ∈ extra, IsFree f.1) → line.message = .ok message →
      (Json.object (line.content logger message extra)).Seamless →
      ∃ s, line.render = .ok s ∧ ∀ depth,
        (Json.object (line.content logger message extra)).nesting ≤ depth →
        Json.parseChars .values depth s.toList =
          .ok (.object (line.content logger message extra)) := by
  refine ⟨fun s rendered => ?_, fun message exceptions worded attached short => ?_,
    fun logger message extra named attached legible free worded seamless => ?_⟩
  · obtain ⟨message, -, rendered⟩ := bind_eq_ok rendered
    obtain ⟨exceptions, -, rendered⟩ := bind_eq_ok rendered
    exact written_visible rendered
  · exact ⟨_, by rw [render_eq worded attached, written, short]; rfl⟩
  · refine ⟨_, render_own attached free named legible worded, fun depth deep => ?_⟩
    rw [Json.render, String.toList_ofList]
    exact Json.parseChars_readable Json.spaced_sound (content_legible free legible) seamless deep

/-- A record with context of several kinds, and an exception that caused another one. -/
def hydrantLine : Line where
  rank := .int 20
  logger := .text "geothing.things"
  template := .text "thing %s created\n\"now\""
  args := [.text "abc"]
  extra := Cell.ofFields [("user_id", .int 7), ("places", .array [.text "Crêt\n", .null]),
    ("_trace", .bool true), ("message", .text "another")]
  exceptions := some ["no rows", ""]

/-- Its line. -/
theorem hydrantLine_says_its_record : ∃ s, hydrantLine.render = .ok s ∧ AllVisible s.toList ∧
    Json.parseChars .values Json.depthLimit s.toList = .ok (.object
      [("level", .text "INFO"), ("logger", .text "geothing.things"),
        ("message", .text "thing abc created\n\"now\""), ("user_id", .int 7),
        ("places", .array [.text "Crêt\n", .null]),
        ("exc_info", .text (chainText ["no rows", ""]))]) := by
  obtain ⟨visible, -, whole⟩ := line_says_its_record hydrantLine
  obtain ⟨s, rendered, read⟩ := whole "geothing.things" "thing abc created\n\"now\""
    [("user_id", .int 7), ("places", .array [.text "Crêt\n", .null]), ("_trace", .bool true),
      ("message", .text "another")]
    rfl rfl (by simp [Json.Legible, Json.FieldsLegible, Json.ItemsLegible]; decide)
    (by simp [IsFree]; decide) rfl rfl
  exact ⟨s, rendered, visible s rendered, read Json.depthLimit (by decide)⟩

/-! ### Lines that say something else -/

/-- A record with a chain of no exceptions attached. -/
def unraisedLine : Line where
  rank := .int 20
  logger := .text "geothing.things"
  template := .text "m"
  args := []
  extra := []
  exceptions := some []

/-- A record whose message brings the two halves of a character together. -/
def splitLine : Line where
  rank := .int 20
  logger := .text "geothing.things"
  template := .text "%s%s"
  args := [.text (String.ofList [Surrogate.charOf 0xD83D]),
    .text (String.ofList [Surrogate.charOf 0xDE00])]
  extra := []
  exceptions := none

/-- A record with an integer in its context. -/
def countLine (count : Int) : Line where
  rank := .int 20
  logger := .text "geothing.things"
  template := .text "m"
  args := []
  extra := [("count", .int count)]
  exceptions := none

/-- An integer of too many digits has no line. -/
theorem render_countLine {n : Int} (long : maxDigits < (Nat.toDigits 10 n.natAbs).length) :
    (countLine n).render = .error .longInteger := by
  have free : ∀ f ∈ [("count", Json.int n)], IsFree f.1 := by simp [IsFree]; decide
  have shown : (Cell.record ((countLine n).fields "m" none)).toJsonWith Cell.logRendering =
      .object ((countLine n).content "geothing.things" "m" [("count", .int n)]) :=
    fields_own rfl free rfl (by simp)
  have context : isContext "count" = true := by decide
  have isLong : (Cell.record ((countLine n).fields "m" none)).hasLongInteger = true := by
    rw [Cell.hasLongInteger, shown]
    simp [content, context, Json.hasLongInteger, Json.fieldsHaveLong, long]
  have same : (countLine n).render = written ((countLine n).fields "m" none) := render_eq rfl rfl
  rw [same, written, if_pos isLong]

/-- A line that is the text of a value is read as that value with its halves joined. -/
theorem read_line {line : Line} {v read : Json}
    (written : line.render = .ok (v.render Json.spaced)) (joined : v.joined = read)
    (legible : read.Legible) (shallow : v.nesting ≤ Json.depthLimit) :
    ∃ s, line.render = .ok s ∧ Json.parse s = .ok read := by
  subst joined
  exact ⟨_, written, Json.parse_joined Json.spaced_sound legible shallow⟩

/-- A power of ten has one digit more than its exponent says. -/
theorem digits_power {k : Nat} (some : 0 < k) :
    k < (Nat.toDigits 10 (Int.ofNat (Nat.pow 10 k)).natAbs).length :=
  Nat.not_le.1 fun short => Nat.lt_irrefl _ ((Nat.length_toDigits_le_iff (by decide) some).1 short)

/-- **Some lines say more than their record, something else or nothing**: with an empty chain of
exceptions attached, the line has a field for them all the same; halves of a character that come
together in a message are read as the character; and for an integer that is too long there is no
line. -/
theorem some_lines_differ :
    (∃ s, unraisedLine.render = .ok s ∧
      Json.parse s = .ok (.object [("level", .text "INFO"), ("logger", .text "geothing.things"),
        ("message", .text "m"), ("exc_info", .text "NoneType: None")])) ∧
    (∃ message, splitLine.message = .ok message ∧ message ≠ "😀" ∧
      ∃ s, splitLine.render = .ok s ∧
        Json.parse s = .ok (.object [("level", .text "INFO"), ("logger", .text "geothing.things"),
          ("message", .text "😀")])) ∧
    (countLine (.ofNat (Nat.pow 10 maxDigits))).render = .error .longInteger := by
  refine ⟨?_, ⟨String.ofList [Surrogate.charOf 0xD83D, Surrogate.charOf 0xDE00], rfl, by decide,
    ?_⟩, render_countLine (digits_power (by decide))⟩
  · let shown := Json.object [("level", .text "INFO"), ("logger", .text "geothing.things"),
      ("message", .text "m"), ("exc_info", .text "NoneType: None")]
    have written : unraisedLine.render = .ok (shown.render Json.spaced) := rfl
    apply read_line written (by rfl) _ (by decide)
    simp [Json.Legible, Json.FieldsLegible]
  · let shown := Json.object [("level", .text "INFO"), ("logger", .text "geothing.things"),
      ("message", .text (String.ofList [Surrogate.charOf 0xD83D, Surrogate.charOf 0xDE00]))]
    have written : splitLine.render = .ok (shown.render Json.spaced) := rfl
    apply read_line written (by rfl) _ (by decide)
    simp [Json.Legible, Json.FieldsLegible]

end Log.Line

end GeoRegistry
