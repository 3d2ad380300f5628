/-
# Proofs.Log.Identity -- what context can do to the identity of a line

A line says the level, the logger and the message of its record, and whoever logs adds context
under names of their own.  The attributes of the record are not theirs to set, so the message is
that of the record whatever the context is; but the names of the line itself are not all among
them.  Context named `level` or `logger` stands where the record's own level or logger should,
and nothing else of the line is replaced (`context_replaces_level_and_logger_only`).
-/
import GeoRegistry.Proofs.Log.Line

namespace GeoRegistry.Log.Line

set_option autoImplicit false

/-- The names that may not be set on a record: its attributes, and those made for its line.
Not every record has a task. -/
def settled : List String :=
  reserved.filter (· != "taskName")

/-- The record before anything is set on it. -/
def bare (line : Line) : Line :=
  { line with extra := [] }

/-- What the fields of a line tell of a record with this message. -/
structure Tells (line : Line) (message : String) (object : Record) : Prop where
  names : (object.map Prod.fst).Nodup
  /-- The level is the record's, unless context is named so. -/
  level : object.lookup "level" =
    some (attributeOf "level" (Level.called line.rank) line.extra)
  /-- The logger is the record's, unless context is named so. -/
  logger : object.lookup "logger" = some (attributeOf "logger" line.logger line.extra)
  /-- The message is the record's. -/
  message : object.lookup "message" = some (.text message)
  /-- The exceptions are the record's. -/
  exceptions : object.lookup "exc_info" =
    line.exceptions.map fun messages => .text (chainText messages)
  /-- Everything else is context that is shown. -/
  others (name : String) : name ∉ ["level", "logger", "message", "exc_info"] →
    object.lookup name = if isContext name then line.extra.lookup name else none

/-! ## The fields of a line by name -/

section Fields

variable {line : Line} (distinct : (line.extra.map Prod.fst).Nodup)

include distinct

theorem context_names : (line.context.map Prod.fst).Nodup :=
  distinct.sublist (List.filter_sublist.map Prod.fst)

omit distinct in
theorem fields_names (message : String) (exceptions : Option String) :
    ((line.fields message exceptions).map Prod.fst).Nodup := by
  have shown : ((line.context.foldl (fun acc f => Json.put acc f.1 f.2)
      (line.identity message)).map Prod.fst).Nodup :=
    Json.foldl_put_names _ (show ["level", "logger", "message"].Nodup by decide)
  cases exceptions with
  | none => exact shown
  | some text => exact Json.put_names shown _ _

/-- A field of a line is that of the exceptions, or context that is shown, or one of the
record. -/
theorem lookup_fields (message : String) (exceptions : Option String) (name : String) :
    (line.fields message exceptions).lookup name =
      ((if name = "exc_info" then exceptions.map Cell.text else none).or
        (if isContext name then line.extra.lookup name else none)).or
        ((line.identity message).lookup name) := by
  have shown : (line.context.foldl (fun acc f => Json.put acc f.1 f.2)
      (line.identity message)).lookup name =
      (if isContext name then line.extra.lookup name else none).or
        ((line.identity message).lookup name) := by
    rw [Json.lookup_foldl_put _ _ _ (context_names distinct), context, lookup_filter]
  cases exceptions with
  | none => simpa [fields] using shown
  | some text =>
      simp only [fields, Json.lookup_put, shown]
      by_cases named : name = "exc_info" <;> simp [named]

end Fields

/-! ## What context cannot change -/

section Accepted

variable {line : Line} (accepted : ∀ f ∈ line.extra, f.1 ∉ settled)

include accepted

theorem message_of_bare (speaks : line.extra.lookup maker = none) :
    line.message = line.bare.message := by
  have template := attributeOf_unset accepted (show "msg" ∈ settled by decide) line.template
  have args := lookup_unset accepted (show "args" ∈ settled by decide)
  simp only [message, values?, template, args, speaks]
  rfl

theorem fields_tell (distinct : (line.extra.map Prod.fst).Nodup) (message : String) :
    Tells line message (line.fields message (line.exceptions.map chainText)) := by
  have found := lookup_fields distinct message (line.exceptions.map chainText)
  have own := identity_unset accepted (by decide) (by decide) message
  exact {
    names := fields_names message _
    level := by
      have shown : isContext "level" = true := by decide
      simp [found, own, shown, attributeOf]
    logger := by
      have shown : isContext "logger" = true := by decide
      simp [found, own, shown, attributeOf, List.lookup_cons]
    message := by
      have hidden : isContext "message" = false := by decide
      simp [found, own, hidden, List.lookup_cons]
    exceptions := by
      have hidden : isContext "exc_info" = false := by decide
      simp [found, own, hidden, List.lookup_cons, Function.comp_def]
    others := fun name other => by
      simp only [List.mem_cons, List.not_mem_nil, or_false, not_or] at other
      obtain ⟨level, logger, message, exceptions⟩ := other
      rw [found, own, Json.lookup_cons_of_ne level, Json.lookup_cons_of_ne logger,
        Json.lookup_cons_of_ne message, if_neg exceptions]
      simp }

end Accepted

/-- **Context replaces the level and the logger only.**  Context under any names that may be set
has a line of the record's own message and exceptions, and fails as the bare record does; a line
is lost only to context that takes the place of what makes the message.  The level and the logger
are the record's, unless there is context of that name. -/
theorem context_replaces_level_and_logger_only (line : Line)
    (distinct : (line.extra.map Prod.fst).Nodup) (accepted : ∀ f ∈ line.extra, f.1 ∉ settled) :
    (maker ∈ line.extra.map Prod.fst → line.render = .error .speechless) ∧
    (maker ∉ line.extra.map Prod.fst →
      (∀ fault, line.bare.message = .error fault → line.render = .error fault) ∧
      ∀ message, line.bare.message = .ok message →
        ∃ object, Tells line message object ∧ line.render = written object) := by
  constructor
  · intro taken
    obtain ⟨f, member, named⟩ := List.mem_map.1 taken
    have found : line.extra.lookup maker = some f.2 := named ▸ lookup_of_mem distinct member
    have lost : line.message = .error .speechless := by
      rw [Line.message, found]
      rfl
    rw [render, lost]
    rfl
  · intro untouched
    have same := message_of_bare accepted (Json.lookup_of_fresh untouched)
    refine ⟨fun fault failed => ?_, fun message worded => ?_⟩
    · rw [render, same, failed]
      rfl
    · exact ⟨_, fields_tell accepted distinct message,
        render_eq (same.trans worded) (exceptions?_unset accepted (by decide))⟩

/-- A record with an exception, and with context that is shown, context that is not, and context
that takes the place of its level. -/
def valveLine : Line where
  rank := .int 40
  logger := .text "geothing.things"
  template := .text "thing %s refused"
  args := [.text "abc"]
  extra := [("user_id", .int 7), ("_trace", .bool true), ("level", .text "DEBUG"),
    ("taskName", .text "import")]
  exceptions := some ["no rows"]

/-- Its line has the record's own logger, message and exception. -/
theorem valveLine_keeps_its_message : ∃ object, valveLine.render = written object ∧
    object.lookup "level" = some (.text "DEBUG") ∧
    object.lookup "logger" = some (.text "geothing.things") ∧
    object.lookup "message" = some (.text "thing abc refused") ∧
    object.lookup "exc_info" = some (.text "ValueError: no rows") ∧
    object.lookup "user_id" = some (.int 7) ∧ object.lookup "_trace" = none ∧
    object.lookup "taskName" = none := by
  obtain ⟨-, kept⟩ := context_replaces_level_and_logger_only valveLine (by decide) (by decide)
  obtain ⟨-, told⟩ := kept (by decide)
  obtain ⟨object, tells, rendered⟩ := told "thing abc refused" rfl
  exact ⟨object, rendered, tells.level, tells.logger, tells.message, tells.exceptions,
    tells.others "user_id" (by decide), tells.others "_trace" (by decide),
    tells.others "taskName" (by decide)⟩

/-- A record of some information about things, with context that gives it out as the failure of
another part. -/
def forgedLine : Line where
  rank := .int 20
  logger := .text "geothing.things"
  template := .text "m"
  args := []
  extra := [("level", .text "CRITICAL"), ("logger", .text "root")]
  exceptions := none

/-- Nothing keeps the context from that. -/
theorem forgedLine_is_forged :
    (forgedLine.extra.map Prod.fst).Nodup ∧ (∀ f ∈ forgedLine.extra, f.1 ∉ settled) ∧
      Level.called forgedLine.rank = .text "INFO" ∧
      ∃ s, forgedLine.render = .ok s ∧
        Json.parse s = .ok (.object [("level", .text "CRITICAL"), ("logger", .text "root"),
          ("message", .text "m")]) := by
  let shown := Json.object [("level", .text "CRITICAL"), ("logger", .text "root"),
    ("message", .text "m")]
  have written : forgedLine.render = .ok (shown.render Json.spaced) := rfl
  refine ⟨by decide, by decide, rfl, read_line written (by rfl) ?_ (by decide)⟩
  simp [Json.Legible, Json.FieldsLegible]

end GeoRegistry.Log.Line
