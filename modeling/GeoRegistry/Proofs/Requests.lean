/-
# Proofs.Requests -- requests come back from their dumps

What a client writes may be spelled in many ways.  The request that is read of it is dumped in
one of them, and what is read of the dump is the request again (`requests_come_back`): so a
dump that is sent in place of the body asks the same of the registry.

That needs a dump.  A text can hold half of a character, and an open document can lie too high;
then there is none (`some_requests_have_no_dump`).
-/
import GeoRegistry.Proofs.Http.Document
import GeoRegistry.Proofs.Validation.Agreement
import GeoRegistry.Proofs.Validation.Settled
import GeoRegistry.Service.Action

namespace GeoRegistry

set_option autoImplicit false

/-! ## Contents settle -/

section Contents

variable {fs : List (String × Json)} (tidy : (Json.object fs).Tidy)

include tidy

open Scalar Checked

theorem Thing.Content.settled {c : Thing.Content} (taken : read (Cell.ofFields fs) = .accepted c) :
    Settled read c.fields c := by
  unfold read at taken
  obtain ⟨_, _, parts₂₁, posY, rfl⟩ := seq_eq_accepted taken
  obtain ⟨_, _, parts₂₀, posX, rfl⟩ := seq_eq_accepted parts₂₁
  obtain ⟨_, _, parts₁₉, moreData, rfl⟩ := seq_eq_accepted parts₂₀
  obtain ⟨_, _, parts₁₈, managedBy, rfl⟩ := seq_eq_accepted parts₁₉
  obtain ⟨_, _, parts₁₇, validatedBy, rfl⟩ := seq_eq_accepted parts₁₈
  obtain ⟨_, _, parts₁₆, validatedTime, rfl⟩ := seq_eq_accepted parts₁₇
  obtain ⟨_, _, parts₁₅, validated, rfl⟩ := seq_eq_accepted parts₁₆
  obtain ⟨_, _, parts₁₄, reason, rfl⟩ := seq_eq_accepted parts₁₅
  obtain ⟨_, _, parts₁₃, inactivatedBy, rfl⟩ := seq_eq_accepted parts₁₄
  obtain ⟨_, _, parts₁₂, inactivatedTime, rfl⟩ := seq_eq_accepted parts₁₃
  obtain ⟨_, _, parts₁₁, inactivated, rfl⟩ := seq_eq_accepted parts₁₂
  obtain ⟨_, _, parts₁₀, containedByOld, rfl⟩ := seq_eq_accepted parts₁₁
  obtain ⟨_, _, parts₉, containedBy, rfl⟩ := seq_eq_accepted parts₁₀
  obtain ⟨_, _, parts₈, status, rfl⟩ := seq_eq_accepted parts₉
  obtain ⟨_, _, parts₇, buildAt, rfl⟩ := seq_eq_accepted parts₈
  obtain ⟨_, _, parts₆, externalRef, rfl⟩ := seq_eq_accepted parts₇
  obtain ⟨_, _, parts₅, externalId, rfl⟩ := seq_eq_accepted parts₆
  obtain ⟨_, _, parts₄, comment, rfl⟩ := seq_eq_accepted parts₅
  obtain ⟨_, _, parts₃, description, rfl⟩ := seq_eq_accepted parts₄
  obtain ⟨_, _, parts₂, name, rfl⟩ := seq_eq_accepted parts₃
  obtain ⟨_, _, parts₁, typeId, rfl⟩ := seq_eq_accepted parts₂
  obtain ⟨_, id, rfl⟩ := map_eq_accepted parts₁
  have settled := (uuid_stable.required tidy id).map Thing.Content.mk
    |>.seq (integer_stable.required tidy typeId)
    |>.seq (text_stable.required tidy name)
    |>.seq (text_stable.optional tidy description)
    |>.seq (text_stable.optional tidy comment)
    |>.seq (integer_stable.optional tidy externalId)
    |>.seq (text_stable.optional tidy externalRef)
    |>.seq (time_stable.optional tidy buildAt)
    |>.seq (status_stable.optional tidy status)
    |>.seq (uuid_stable.optional tidy containedBy)
    |>.seq (integer_stable.optional tidy containedByOld)
    |>.seq (bool_stable.defaulted tidy ⟨.bool false, trivial, rfl⟩ inactivated)
    |>.seq (time_stable.optional tidy inactivatedTime)
    |>.seq (integer_stable.optional tidy inactivatedBy)
    |>.seq (text_stable.optional tidy reason)
    |>.seq (bool_stable.defaulted tidy ⟨.bool false, trivial, rfl⟩ validated)
    |>.seq (time_stable.optional tidy validatedTime)
    |>.seq (integer_stable.optional tidy validatedBy)
    |>.seq (integer_stable.optional tidy managedBy)
    |>.seq (record_stable.optional tidy moreData)
    |>.seq (float_stable.required tidy posX)
    |>.seq (float_stable.required tidy posY)
  simp only [List.cons_append, List.nil_append] at settled
  exact settled

theorem ThingType.Content.settled {c : ThingType.Content}
    (taken : read (Cell.ofFields fs) = .accepted c) : Settled read c.fields c := by
  unfold read at taken
  obtain ⟨_, _, parts₁₂, schema, rfl⟩ := seq_eq_accepted taken
  obtain ⟨_, _, parts₁₁, iconPath, rfl⟩ := seq_eq_accepted parts₁₂
  obtain ⟨_, _, parts₁₀, managedBy, rfl⟩ := seq_eq_accepted parts₁₁
  obtain ⟨_, _, parts₉, reason, rfl⟩ := seq_eq_accepted parts₁₀
  obtain ⟨_, _, parts₈, inactivatedBy, rfl⟩ := seq_eq_accepted parts₉
  obtain ⟨_, _, parts₇, inactivatedTime, rfl⟩ := seq_eq_accepted parts₈
  obtain ⟨_, _, parts₆, inactivated, rfl⟩ := seq_eq_accepted parts₇
  obtain ⟨_, _, parts₅, geometryType, rfl⟩ := seq_eq_accepted parts₆
  obtain ⟨_, _, parts₄, tableName, rfl⟩ := seq_eq_accepted parts₅
  obtain ⟨_, _, parts₃, externalId, rfl⟩ := seq_eq_accepted parts₄
  obtain ⟨_, _, parts₂, comment, rfl⟩ := seq_eq_accepted parts₃
  obtain ⟨_, _, parts₁, description, rfl⟩ := seq_eq_accepted parts₂
  obtain ⟨_, name, rfl⟩ := map_eq_accepted parts₁
  have settled := (text_stable.required tidy name).map ThingType.Content.mk
    |>.seq (text_stable.optional tidy description)
    |>.seq (text_stable.optional tidy comment)
    |>.seq (integer_stable.optional tidy externalId)
    |>.seq (text_stable.optional tidy tableName)
    |>.seq (text_stable.optional tidy geometryType)
    |>.seq (bool_stable.defaulted tidy ⟨.bool false, trivial, rfl⟩ inactivated)
    |>.seq (time_stable.optional tidy inactivatedTime)
    |>.seq (integer_stable.optional tidy inactivatedBy)
    |>.seq (text_stable.optional tidy reason)
    |>.seq (integer_stable.optional tidy managedBy)
    |>.seq (text_stable.defaulted tidy ⟨.text "", trivial, rfl⟩ iconPath)
    |>.seq (record_stable.optional tidy schema)
  simp only [List.cons_append, List.nil_append] at settled
  exact settled

end Contents

/-! ## Dumps -/

namespace Json

/-- The greatest of some numbers is at least each of them. -/
theorem le_foldl_max {α : Type} (size : α → Nat) (items : List α) (least : Nat) :
    least ≤ items.foldl (fun n a => max n (size a)) least ∧
      ∀ a ∈ items, size a ≤ items.foldl (fun n a => max n (size a)) least := by
  induction items generalizing least with
  | nil => simp
  | cons a rest ih =>
      obtain ⟨more, each⟩ := ih (max least (size a))
      rw [List.foldl_cons]
      exact ⟨by omega, List.forall_mem_cons.2 ⟨by omega, each⟩⟩

theorem fieldsNesting_le_of {fields : List (String × Json)} {n : Nat}
    (each : ∀ f ∈ fields, f.2.nesting ≤ n) : fieldsNesting fields ≤ n := by
  induction fields with
  | nil => exact Nat.zero_le _
  | cons f rest ih =>
      obtain ⟨first, others⟩ := List.forall_mem_cons.1 each
      exact Nat.max_le.2 ⟨first, ih others⟩

end Json

variable {α : Type}

/-- There is a dump of the request, and it says all of it: its numbers are finite and print and
read back exactly, its texts have octets, and its open document is not too high. -/
structure Shape.Dumps (s : Shape α) (a : α) : Prop where
  exact : ∀ f ∈ s.fields a, f.2.Exact
  encodable : (s.toJson a).unencodable? = none
  low : (s.toJson a).contentHeight ≤ Json.mostHeight

/-- A request comes back from its dump `j`: this is what the text of the dump is read as, the
same request is read of it, and the operations that read such a document are asked for the same
as with the body `v`. -/
structure Shape.ComesBack (s : Shape α) (operations : List Operation) (sep : Json.Separators)
    (v : Json) (a : α) (j : Json) : Prop where
  written : (s.toJson a).written = .ok j
  parsed : Json.parse (j.render sep) = .ok j
  again : s.ofCell (.ofJson j) = .accepted a
  asked : ∀ op ∈ operations, ∀ path query : Record,
    op.read ⟨path, query, some (.ofJson j)⟩ = op.read ⟨path, query, some (.ofJson v)⟩

namespace Shape

variable {s : Shape α}

/-- The fields of the dump of a document. -/
def dumped (s : Shape α) (a : α) : List (String × Json) :=
  (s.fields a).map fun f => (f.1, f.2.toJson)

theorem toJson_eq (s : Shape α) (a : α) : s.toJson a = .object (s.dumped a) :=
  congrArg Json.object (Cell.fieldsToJson_eq_map Cell.answerRendering (s.fields a))

theorem dumped_names (s : Shape α) (a : α) :
    (s.dumped a).map Prod.fst = (s.fields a).map Prod.fst := by
  rw [dumped, List.map_map]
  rfl

theorem mem_dumped {a : α} {f : String × Cell} (member : f ∈ s.fields a) :
    (f.1, f.2.toJson) ∈ s.dumped a :=
  List.mem_map_of_mem (f := fun f : String × Cell => (f.1, f.2.toJson)) member

theorem ofCell_ofJson {v : Json} {a : α} (accepted : s.ofCell (.ofJson v) = .accepted a) :
    ∃ fs, v = .object fs ∧ s.read (Cell.ofFields fs) = .accepted a := by
  cases v with
  | object fs => exact ⟨fs, rfl, accepted⟩
  | null | bool | int | float | text | array => cases accepted

/-- **What settles is read again from its dump**, if there is one. -/
theorem Dumps.again {a : α} (dumps : s.Dumps a) (settled : Settled s.read (s.fields a) a)
    (apart : ((s.fields a).map Prod.fst).Nodup) {sep : Json.Separators} (sound : sep.Sound) :
    (s.toJson a).written = .ok (s.toJson a) ∧
      Json.parse ((s.toJson a).render sep) = .ok (s.toJson a) ∧
      s.ofCell (.ofJson (s.toJson a)) = .accepted a := by
  obtain ⟨fit, again⟩ := settled dumps.exact
  have low := dumps.low
  have encodable := dumps.encodable
  have names : ((s.dumped a).map Prod.fst).Nodup := (s.dumped_names a) ▸ apart
  refine ⟨?_, ?_, ?_⟩
  · rw [Json.written, if_neg (Nat.not_lt.2 low), Json.encodable, encodable]
  · rw [toJson_eq] at low ⊢
    have readable : (Json.object (s.dumped a)).LegibleIf Json.ReadsBack :=
      ⟨names, Json.fieldsLegibleIf_iff.2
        (List.forall_mem_map.2 fun f member => (fit f member).readable)⟩
    have each := (Json.le_foldl_max (fun f : String × Json => f.2.openHeight) (s.dumped a) 0).2
    have shallow : Json.fieldsNesting (s.dumped a) ≤ Json.mostHeight + 1 := by
      refine Json.fieldsNesting_le_of (List.forall_mem_map.2 fun f member => ?_)
      have here := (fit f member).shallow
      have height := each _ (mem_dumped member)
      simp only [Json.contentHeight] at low height ⊢
      omega
    have seamless : (Json.object (s.dumped a)).Seamless :=
      Json.seamless_of_encodable (s.toJson_eq a ▸ encodable)
    refine Json.parse_readable sound readable seamless ?_
    simp only [Json.nesting, Json.mostHeight, Json.depthLimit] at shallow ⊢
    omega
  · rw [toJson_eq]
    refine again _ fun f member => ?_
    rw [Cell.ofFields_eq_map, lookup_map_snd, lookup_of_mem names (mem_dumped member)]
    rfl

end Shape

/-! ## Requests come back -/

open Http

/-- A value that a shape accepts is accepted as a document of it. -/
theorem Shape.read_document {s : Shape α} {v : Json} {a : α}
    (accepted : s.ofCell (.ofJson v) = .accepted a) :
    Document.read s (some (.ofJson v)) = .accepted a := by
  obtain ⟨fs, rfl, read⟩ := Shape.ofCell_ofJson accepted
  exact Document.read_accepted s read

/-- The operation sees of a document only what is read of it as one of the shape. -/
def Operation.Reads (s : Shape α) (op : Operation) : Prop :=
  ∀ (path query : Record) (d d' : Document), d.read s = d'.read s →
    op.read ⟨path, query, d⟩ = op.read ⟨path, query, d'⟩

theorem Operation.reads_thing : ∀ op ∈ [createThing, updateThing],
    op.Reads Thing.Content.shape := by
  intro op listed path query d d' same
  simp only [List.mem_cons, List.not_mem_nil, or_false] at listed
  rcases listed with rfl | rfl <;> simp only [read, Incoming.identifier, same]

theorem Operation.reads_type : ∀ op ∈ [createType, updateType],
    op.Reads ThingType.Content.shape := by
  intro op listed path query d d' same
  simp only [List.mem_cons, List.not_mem_nil, or_false] at listed
  rcases listed with rfl | rfl <;> simp only [read, Incoming.identifier, same]

/-- A request that settles comes back from its dump, if there is one. -/
theorem Shape.Dumps.comesBack {s : Shape α} {v : Json} {a : α} (dumps : s.Dumps a)
    (accepted : s.ofCell (.ofJson v) = .accepted a) (settled : Settled s.read (s.fields a) a)
    (apart : ((s.fields a).map Prod.fst).Nodup) {sep : Json.Separators} (sound : sep.Sound)
    {operations : List Operation} (reads : ∀ op ∈ operations, op.Reads s) :
    s.ComesBack operations sep v a (s.toJson a) where
  written := (dumps.again settled apart sound).1
  parsed := (dumps.again settled apart sound).2.1
  again := (dumps.again settled apart sound).2.2
  asked op listed path query := by
    have again := (dumps.again settled apart sound).2.2
    exact reads op listed path query _ _
      ((read_document again).trans (read_document accepted).symm)

/-- **Requests come back from their dumps.**  Whatever body a request is read of, its dump, if
there is one, is accepted again and gives the same request: sent in place of the body it asks
the same of the registry. -/
theorem requests_come_back {body : String} {v : Json} (parsed : Json.parse body = .ok v)
    {sep : Json.Separators} (sound : sep.Sound) :
    (∀ c, Thing.Content.shape.ofCell (.ofJson v) = .accepted c → Thing.Content.shape.Dumps c →
      Thing.Content.shape.ComesBack [.createThing, .updateThing] sep v c
        (Thing.Content.shape.toJson c)) ∧
    ∀ c, ThingType.Content.shape.ofCell (.ofJson v) = .accepted c →
      ThingType.Content.shape.Dumps c →
      ThingType.Content.shape.ComesBack [.createType, .updateType] sep v c
        (ThingType.Content.shape.toJson c) := by
  have tidy := Json.parse_tidy parsed
  constructor
  · intro c accepted dumps
    obtain ⟨fs, rfl, read⟩ := Shape.ofCell_ofJson accepted
    exact dumps.comesBack accepted (Thing.Content.settled tidy read)
      (show Thing.Content.names.Nodup by decide) sound Operation.reads_thing
  · intro c accepted dumps
    obtain ⟨fs, rfl, read⟩ := Shape.ofCell_ofJson accepted
    exact dumps.comesBack accepted (ThingType.Content.settled tidy read)
      (show ThingType.Content.names.Nodup by decide) sound Operation.reads_type

/-- The result of a test for being read back. -/
instance (x : Binary64) : Decidable (Json.ReadsBack x) :=
  match read : Json.parse (Json.floatText x) with
  | .ok (.float y) =>
      if same : y = x then .isTrue (by rw [Json.ReadsBack, read, same])
      else .isFalse fun back => same (by
        rw [Json.ReadsBack, read] at back
        exact Json.float.inj (Except.ok.inj back))
  | .ok .null | .ok (.bool _) | .ok (.int _) | .ok (.text _) | .ok (.array _) | .ok (.object _)
  | .error _ => .isFalse fun back => by
      rw [Json.ReadsBack, read] at back
      cases back

/-- A thing in lax spelling: braces around the id, a number in a text, a word for a mark, a date
and a time apart. -/
def laxThing : Json :=
  .object [("id", .text "\x7b6F9619FF-8B86-D011-B42D-00CF4FC964FF\x7d"), ("type_id", .text " +05.0"),
    ("name", .text "Fontaine"), ("build_at", .text "2024-02-29 08:30:15,5-01:30"),
    ("inactivated", .text "Off"), ("validated_by", .float (.finite false 4503599627370496 (-49))),
    ("more_data", .object [("depth", .float (.finite false 4503599627370496 (-53)))]),
    ("pos_x", .float (.finite false 5450578712854528 (-31))), ("pos_y", .int 1152456)]

/-- What is read of it. -/
def laxContent : Thing.Content where
  id := ⟨[6, 15, 9, 6, 1, 9, 15, 15, 8, 11, 8, 6, 13, 0, 1, 1, 11, 4, 2, 13, 0, 0, 12, 15, 4, 15,
    12, 9, 6, 4, 15, 15].map Text.lastHex, rfl⟩
  typeId := 5
  name := "Fontaine"
  description := none
  comment := none
  externalId := none
  externalRef := none
  buildAt := some ⟨2024, 2, 29, 8, 30, 15, 500000, some (-5400000000), by decide⟩
  status := none
  containedBy := none
  containedByOld := none
  inactivated := false
  inactivatedTime := none
  inactivatedBy := none
  inactivatedReason := none
  validated := false
  validatedTime := none
  validatedBy := some 8
  managedBy := none
  moreData := some [("depth", .float (.finite false 4503599627370496 (-53)))]
  posX := .finite false 5450578712854528 (-31)
  posY := .finite false 4949760830078976 (-32)

theorem laxThing_read : Thing.Content.shape.ofCell (.ofJson laxThing) = .accepted laxContent := by
  rfl

theorem laxThing_parsed : Json.parse (laxThing.render Json.compact) = .ok laxThing := by
  have depth : Json.ReadsBack (.finite false 4503599627370496 (-53)) := by decide +kernel
  have number : Json.ReadsBack (.finite false 4503599627370496 (-49)) := by decide +kernel
  have posX : Json.ReadsBack (.finite false 5450578712854528 (-31)) := by decide +kernel
  have readable : laxThing.LegibleIf Json.ReadsBack := by
    simp [laxThing, Json.LegibleIf, Json.FieldsLegibleIf, depth, number, posX]
    decide
  exact Json.parse_readable Json.compact_sound readable (by rfl) (by decide)

theorem laxContent_dumps : Thing.Content.shape.Dumps laxContent where
  exact := by
    have depth : (Binary64.finite false 4503599627370496 (-53)).Exact := ⟨rfl, by decide +kernel⟩
    have posX : (Binary64.finite false 5450578712854528 (-31)).Exact := ⟨rfl, by decide +kernel⟩
    have posY : (Binary64.finite false 4949760830078976 (-32)).Exact := ⟨rfl, by decide +kernel⟩
    simp [Thing.Content.shape, Thing.Content.fields, laxContent, Cell.Exact, Cell.floats,
      Cell.fieldsFloats, Cell.ofOption, depth, posX, posY]
  encodable := by rfl
  low := by decide

/-- The body that is spelled so comes back. -/
theorem lax_request_comes_back :
    Thing.Content.shape.ofCell (.ofJson laxThing) = .accepted laxContent ∧
      Thing.Content.shape.ComesBack [.createThing, .updateThing] Json.compact laxThing laxContent
        (Thing.Content.shape.toJson laxContent) :=
  ⟨laxThing_read, (requests_come_back laxThing_parsed Json.compact_sound).1 laxContent
    laxThing_read laxContent_dumps⟩

/-! ### Requests without a dump -/

/-- A type of which only the name and the schema are given. -/
def bareType (name : String) (schema : Option Record) : ThingType.Content where
  name := name
  description := none
  comment := none
  externalId := none
  tableName := none
  geometryType := none
  inactivated := false
  inactivatedTime := none
  inactivatedBy := none
  inactivatedReason := none
  managedBy := none
  iconPath := ""
  moreDataSchema := schema

/-- The first half of a character, without the second. -/
def halfName : String :=
  String.ofList [Text.Surrogate.charOf 0xD800]

/-- A schema of values that lie within one another. -/
def highSchema (n : Nat) : List (String × Json) :=
  [("items", Json.nested n)]

theorem height_nested (n : Nat) : (Json.nested n).height = n + 1 := by
  induction n with
  | zero => rfl
  | succ n ih => simp [Json.nested, Json.height, Json.itemsHeight, ih, Nat.add_comm]

theorem nesting_nested (n : Nat) : (Json.nested n).nesting = n + 1 := by
  induction n with
  | zero => rfl
  | succ n ih => simp [Json.nested, Json.nesting, Json.itemsNesting, ih, Nat.add_comm]

theorem legible_nested (n : Nat) : (Json.nested n).Legible := by
  induction n with
  | zero => trivial
  | succ n ih => exact ⟨ih, trivial⟩

theorem encodable_nested (n : Nat) : (Json.nested n).unencodable? = none := by
  induction n with
  | zero => rfl
  | succ n ih => simp [Json.nested, Json.unencodable?, Json.itemsUnencodable?, ih]

theorem floats_nested (n : Nat) : (Cell.ofJson (Json.nested n)).floats = [] := by
  induction n with
  | zero => rfl
  | succ n ih => simp [Json.nested, Cell.ofJson, Cell.ofItems, Cell.floats, Cell.itemsFloats, ih]

/-- Half of a character is written nowhere. -/
theorem halfName_unwritable :
    (ThingType.Content.shape.toJson (bareType halfName none)).written =
      .error (.unwritable ⟨0, 0xD800, 1⟩) := by
  rfl

/-- A schema that is too high is written nowhere. -/
theorem highSchema_unwritable {n : Nat} (high : Json.mostHeight ≤ n) {c : ThingType.Content}
    (schema : c.moreDataSchema = some (Cell.ofFields (highSchema n))) :
    (ThingType.Content.shape.toJson c).written = .error .tooHigh := by
  have written : (Cell.ofJson (.object (highSchema n))).toJson = .object (highSchema n) :=
    Cell.toJsonWith_ofJson fun x member => by
      simp [highSchema, Cell.ofJson, Cell.ofFields, Cell.floats, Cell.fieldsFloats,
        floats_nested] at member
  have listed : ("more_data_schema", Cell.ofJson (.object (highSchema n))) ∈
      ThingType.Content.shape.fields c := by
    simp [ThingType.Content.shape, ThingType.Content.fields, schema, Cell.ofOption, Cell.ofJson]
  have height : (Json.object (highSchema n)).openHeight = n + 1 := by
    simp [Json.openHeight, highSchema, Json.fieldsHeight, height_nested]
  have most := (Json.le_foldl_max (fun f : String × Json => f.2.openHeight)
    (ThingType.Content.shape.dumped c) 0).2 _ (Shape.mem_dumped listed)
  dsimp only at most
  rw [written, height] at most
  rw [Shape.toJson_eq, Json.written, if_pos]
  exact Nat.lt_of_lt_of_le (Nat.lt_succ_of_le high) most

/-- **Some requests have no dump**: they are accepted, and their numbers are exact, but a text
holds half of a character, or the open document is too high. -/
theorem some_requests_have_no_dump :
    (∃ body v c fault, Json.parse body = .ok v ∧
      ThingType.Content.shape.ofCell (.ofJson v) = .accepted c ∧
      (∀ f ∈ ThingType.Content.shape.fields c, f.2.Exact) ∧
      (ThingType.Content.shape.toJson c).written = .error (.unwritable fault)) ∧
    ∃ body v c, Json.parse body = .ok v ∧
      ThingType.Content.shape.ofCell (.ofJson v) = .accepted c ∧
      (∀ f ∈ ThingType.Content.shape.fields c, f.2.Exact) ∧
      (ThingType.Content.shape.toJson c).written = .error .tooHigh := by
  constructor
  · have parsed := Json.parse_render (v := .object [("name", .text halfName)]) Json.compact_sound
      (by simp [Json.Legible, Json.FieldsLegible]) (by rfl) (by decide)
    refine ⟨_, _, bareType halfName none, _, parsed, rfl, ?_, halfName_unwritable⟩
    simp [ThingType.Content.shape, ThingType.Content.fields, bareType, Cell.Exact, Cell.floats,
      Cell.ofOption]
  · have legible : (Json.object [("name", .text "Fontaine"),
        ("more_data_schema", .object (highSchema 300))]).Legible := by
      simp [Json.Legible, Json.FieldsLegible, highSchema, legible_nested]
    have deep : (Json.object [("name", .text "Fontaine"),
        ("more_data_schema", .object (highSchema 300))]).nesting ≤ Json.depthLimit := by
      simp [Json.nesting, Json.fieldsNesting, highSchema, nesting_nested]
      decide
    have plain : ∀ s ∈ ["name", "Fontaine", "more_data_schema", "items"],
        Text.unencodable? s = none := by
      decide +kernel
    have seamless : (Json.object [("name", .text "Fontaine"),
        ("more_data_schema", .object (highSchema 300))]).Seamless :=
      Json.seamless_of_encodable (by
        simp [Json.unencodable?, Json.fieldsUnencodable?, highSchema, encodable_nested, plain])
    refine ⟨_, _, bareType "Fontaine" (some (Cell.ofFields (highSchema 300))),
      Json.parse_render Json.compact_sound legible seamless deep, rfl, ?_,
      highSchema_unwritable (n := 300) (by decide) rfl⟩
    simp [ThingType.Content.shape, ThingType.Content.fields, bareType, Cell.Exact, Cell.floats,
      Cell.ofOption, highSchema, Cell.ofFields, Cell.fieldsFloats, floats_nested]

end GeoRegistry
