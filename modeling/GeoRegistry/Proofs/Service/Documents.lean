/-
# Proofs.Service.Documents -- documents come back from the database

A legible value goes through the codec unchanged (`Codec.installed_lossless`).  The database
may keep it in a form of its own and give it back with its names in another order
(`Json.Same`); what is then read is the same document (`Codec.Returns.same`).

An operation that writes a row sends its write, reads the row back and results in what it
read (`ReadsBack`), and the document of the result is the cell of its column (`HasDocument`).
-/
import GeoRegistry.Proofs.Cell
import GeoRegistry.Proofs.FailStop
import GeoRegistry.Proofs.Json.Ascii
import GeoRegistry.Proofs.Json.RoundTrip
import GeoRegistry.Proofs.Outcome
import GeoRegistry.Proofs.Receipt
import GeoRegistry.Proofs.Store.Stamps
import GeoRegistry.Service.Connection
import Mathlib.Data.List.Forall2

namespace GeoRegistry

set_option autoImplicit false

open Dialogue Store

/-! ## The codec -/

namespace Registry

/-- A JSON value is written as its text. -/
theorem writeDocument_ofJson (v : Json) :
    writeDocument (.ofJson v) = .ok (v.render Json.spaced) := by
  rw [writeDocument, if_pos (Cell.isDocument_ofJson v), Cell.toJsonWith_ofJson fun _ _ => rfl]

theorem readDocument_text {s : String} {v : Json} (read : Json.parse s = .ok v) :
    readDocument (.text s) = .ok v := by
  rw [readDocument, read]
  rfl

theorem parse_of_readDocument {s : String} {v : Json} (read : readDocument (.text s) = .ok v) :
    Json.parse s = .ok v :=
  mapError_eq_ok read

end Registry

namespace Codec

theorem mem_installed {codec : Codec} (installed : codec ∈ Codec.installed) :
    codec.encode = Registry.writeDocument ∧ codec.decode = Registry.readDocument := by
  obtain ⟨type, -, rfl⟩ := List.mem_map.1 installed
  exact ⟨rfl, rfl⟩

/-- A codec writes a value as a visible text, and what is read of that text is a value, by
every reader that goes deep enough. -/
structure Carries (codec : Codec) (v back : Json) (s : String) : Prop where
  written : codec.encode (.ofJson v) = .ok s
  visible : Text.AllVisible s.toList
  read : v.nesting ≤ Json.depthLimit → codec.decode (.text s) = .ok back
  readAt : ∀ depth, v.nesting ≤ depth → Json.parseChars .values depth s.toList = .ok back

/-- A codec is lossless on a value: it is read back as it was. -/
def Lossless (codec : Codec) (v : Json) (s : String) : Prop :=
  codec.Carries v v s

/-- **What is read of a value is the value with its texts joined.** -/
theorem installed_carries {codec : Codec} (installed : codec ∈ Codec.installed) {v : Json}
    (legible : v.joined.Legible) : codec.Carries v v.joined (v.render Json.spaced) := by
  obtain ⟨encode, decode⟩ := mem_installed installed
  have text : (v.render Json.spaced).toList = Json.chars Json.spaced v := String.toList_ofList
  constructor
  · rw [encode]
    exact Registry.writeDocument_ofJson v
  · rw [text]
    exact Json.visible_chars Json.spaced_visible v
  · intro deep
    rw [decode]
    exact Registry.readDocument_text (Json.parse_joined Json.spaced_sound legible deep)
  · intro depth deep
    rw [text]
    exact Json.parseChars_joined Json.spaced_sound legible.legibleIf deep

/-- **A codec is lossless on every legible value without a seam.** -/
theorem installed_lossless {codec : Codec} (installed : codec ∈ Codec.installed) {v : Json}
    (legible : v.Legible) (seamless : v.Seamless) :
    codec.Lossless v (v.render Json.spaced) := by
  rw [← seamless] at legible
  have carried := installed_carries installed legible
  rwa [seamless] at carried

end Codec

/-! ## What the database makes of a document -/

/-- The same value; the names of an object may stand in another order. -/
inductive Json.Same : Json → Json → Prop where
  | refl (v : Json) : Same v v
  | array {items items' : List Json} (each : List.Forall₂ Same items items') :
      Same (.array items) (.array items')
  | object {fields fields' moved : List (String × Json)}
      (names : fields'.map Prod.fst = fields.map Prod.fst)
      (each : List.Forall₂ Same (fields.map Prod.snd) (fields'.map Prod.snd))
      (order : fields'.Perm moved) : Same (.object fields) (.object moved)

/-- The database stores documents faithfully: what it gives back (`kept`) for the text of one is
a text of the same document. -/
def FaithfulStorage (kept : String → String → Prop) : Prop :=
  ∀ s t v, v.Legible → Json.parse s = .ok v → kept s t → ∃ w, Json.parse t = .ok w ∧ v.Same w

/-- What comes back from a column for the cell that was bound to it.  A null is no document
and is not written. -/
def Codec.Returns (codec : Codec) (kept : String → String → Prop) : Cell → Cell → Prop
  | .null, back => back = .null
  | bound, back => ∃ s t v,
      codec.encode bound = .ok s ∧ kept s t ∧ codec.decode (.text t) = .ok v ∧ back = .ofJson v

/-- The text of a document says all of it, and nothing else. -/
def Record.Legible (d : Record) : Prop :=
  ∃ fields, d = Cell.ofFields fields ∧ (Json.object fields).Legible ∧
    (Json.object fields).Seamless ∧ (Json.object fields).nesting ≤ Json.depthLimit

/-- There is no document, or the same one. -/
def SameDocument : Option Record → Option Record → Prop
  | none, none => True
  | some d, some d' => ∃ fields fields',
      d = Cell.ofFields fields ∧ d' = Cell.ofFields fields' ∧
        (Json.object fields).Same (.object fields')
  | _, _ => False

/-- **What comes back for a document is the same document.** -/
theorem Codec.Returns.same {codec : Codec} (installed : codec ∈ Codec.installed)
    {kept : String → String → Prop} (faithful : FaithfulStorage kept) {bound doc : Option Record}
    (legible : ∀ d ∈ bound, Record.Legible d)
    (returned : codec.Returns kept (.ofOption .record bound) (.ofOption .record doc)) :
    SameDocument bound doc := by
  cases bound with
  | none =>
      cases doc with
      | none => trivial
      | some d => cases returned
  | some d =>
      obtain ⟨fields, rfl, readable, seamless, deep⟩ := legible d rfl
      obtain ⟨s, t, v, written, stored, read, back⟩ := returned
      have lossless := installed_lossless installed readable seamless
      obtain rfl : (Json.object fields).render Json.spaced = s :=
        Except.ok.inj (lossless.written.symm.trans written)
      have decode := (mem_installed installed).2
      have parsed := lossless.read deep
      rw [decode] at read parsed
      obtain ⟨w, again, same⟩ :=
        faithful _ t _ readable (Registry.parse_of_readDocument parsed) stored
      obtain rfl : w = v :=
        Except.ok.inj (again.symm.trans (Registry.parse_of_readDocument read))
      -- what is the same as an object is an object
      have object : ∃ fields', w = .object fields' := by
        cases same with
        | refl => exact ⟨_, rfl⟩
        | object => exact ⟨_, rfl⟩
      obtain ⟨fields', rfl⟩ := object
      cases doc with
      | none => cases back
      | some d' =>
          obtain rfl : d' = Cell.ofFields fields' := Cell.record.inj back
          exact ⟨fields, fields', rfl, rfl, same⟩

/-! ## The document of a row -/

section Rows

variable {α : Type} {name column : String} {cell : Cell} {r : Record}

/-- A field is read without a look at the others. -/
theorem Record.required_beside (other : name ≠ column) (read : Cell → Checked α) :
    (required name read ((column, cell) :: r)).Accepts ↔ (required name read r).Accepts := by
  rw [required, required, Json.lookup_cons_of_ne other]
  cases r.lookup name with
  | none =>
      constructor
      · rintro ⟨a, read⟩
        cases read
      · rintro ⟨a, read⟩
        cases read
  | some cell => exact Iff.rfl

theorem Record.optional_beside (other : name ≠ column) (read : Cell → Checked α) :
    optional name read ((column, cell) :: r) = optional name read r := by
  rw [optional, optional, Json.lookup_cons_of_ne other]

theorem Record.defaulted_beside (other : name ≠ column) (read : Cell → Checked α) (a : α) :
    defaulted name read a ((column, cell) :: r) = defaulted name read a r := by
  rw [defaulted, defaulted, Json.lookup_cons_of_ne other]

/-- A document is read as it stands. -/
theorem Record.optional_record {doc : Option Record}
    (read : optional name Scalar.record r = .accepted doc) {back : Cell}
    (there : r.lookup name = some back) : back = .ofOption .record doc := by
  rw [optional, there] at read
  cases back with
  | null =>
      cases read
      rfl
  | record d =>
      cases read
      rfl
  | _ => cases read

theorem Record.optional_record_self (d : Record) :
    optional column Scalar.record ((column, .record d) :: r) = .accepted (some d) := by
  rw [optional, List.lookup_cons, beq_self_eq_true]
  rfl

/-! ### Things and types -/

/-- What a thing says of its document is what is read under its name. -/
theorem Thing.Content.gives_document : (Content.read r).Gives fun c =>
    Record.optional "more_data" Scalar.record r = .accepted c.moreData := by
  -- the document is the third part from the end
  refine Checked.Gives.seq (Checked.Gives.seq (Checked.Gives.part ?_ fun doc here => here))
  repeat refine Checked.Gives.seq ?_
  exact Checked.Gives.map fun _ => by intros; assumption

theorem Thing.gives_document : (Thing.read r).Gives fun t =>
    Record.optional "more_data" Scalar.record r = .accepted t.content.moreData := by
  rintro _ read
  obtain ⟨_, audit, made, -, rfl⟩ := Checked.seq_eq_accepted read
  obtain ⟨c, content, rfl⟩ := Checked.map_eq_accepted made
  exact Content.gives_document c content

theorem ThingType.Content.gives_document : (Content.read r).Gives fun c =>
    Record.optional "more_data_schema" Scalar.record r = .accepted c.moreDataSchema := by
  refine Checked.Gives.part ?_ fun doc here => here
  repeat refine Checked.Gives.seq ?_
  exact Checked.Gives.map fun _ => by intros; assumption

theorem ThingType.gives_document : (ThingType.read r).Gives fun t =>
    Record.optional "more_data_schema" Scalar.record r = .accepted t.content.moreDataSchema := by
  refine Checked.Gives.seq (Checked.Gives.part ?_ Content.gives_document)
  exact Checked.Gives.map fun _ => by intros; assumption

/-- **A document does not keep a thing from being read.** -/
theorem Thing.accepts_document (accepts : (Thing.read r).Accepts) (d : Record) :
    (Thing.read (("more_data", .record d) :: r)).Accepts := by
  simp_all [Thing.read, Thing.Content.read, Audit.read, Record.required_beside,
    Record.optional_beside, Record.defaulted_beside, Record.optional_record_self]

theorem ThingType.accepts_document (accepts : (ThingType.read r).Accepts) (d : Record) :
    (ThingType.read (("more_data_schema", .record d) :: r)).Accepts := by
  simp_all [ThingType.read, ThingType.Content.read, Audit.read, Record.required_beside,
    Record.optional_beside, Record.defaulted_beside, Record.optional_record_self]

end Rows

/-! ## Operations that read back what they wrote -/

section ReadsBack

variable {Item Line : Type} {c : Collection Item Line} {write : Command} {key : Reply → Cell}

/-- A run to a result ends with the write and with reading the row, under a key that may
depend on the answer to the write; the result is what was read. -/
def ReadsBack (d : Dialogue Command Item) (write : Command) (c : Collection Item Line)
    (key : Reply → Cell) : Prop :=
  ∀ h a, Runs d h (.ok a) → ∃ before told row,
    h = before ++ [⟨write, told⟩, ⟨.get c.table (key told), .returned row⟩] ∧
      readRow c.item row = .ok a

/-- What is acknowledged was read back. -/
theorem Registry.Delivers.readsBack {written : String} {d : Dialogue Command Item}
    (delivers : Registry.Delivers write (Registry.ReadsRow c written key) d)
    (wrote : write.writes = true) : ReadsBack d write c key := by
  intro h a ran
  obtain ⟨before, v, n, row, whole, -, -, -, read⟩ :=
    (delivers.acknowledged wrote ran).result a rfl
  exact ⟨before, .returned v, row, whole, read⟩

variable (r : Registry) (caller : Caller)

theorem createThing_readsBack (content : Thing.Content) :
    ReadsBack (r.createThing caller content) (.insertThing caller.userId content) things
      fun _ => .uuid content.id :=
  (Registry.createThing_delivers r caller content).readsBack rfl

theorem updateThing_readsBack (id : Uuid) (content : Thing.Content) :
    ReadsBack (r.updateThing caller id content)
      (.updateThing (.uuid id) caller.userId content) things fun _ => .uuid id :=
  (Registry.updateThing_delivers r caller id content).readsBack rfl

theorem createType_readsBack (content : ThingType.Content) :
    ReadsBack (r.createType caller content) (.insertType caller.userId content) types
      Reply.value :=
  (Registry.createType_delivers r caller content).readsBack rfl

theorem updateType_readsBack (id : Int) (content : ThingType.Content) :
    ReadsBack (r.updateType caller id content)
      (.updateType (.int id) caller.userId content) types fun _ => .int id :=
  (Registry.updateType_delivers r caller id content).readsBack rfl

end ReadsBack

/-! ## All of the way -/

namespace Store

/-- The statement shows a column of the row of an id under the column's name: so says its
text. -/
def Statement.Shows (t : Statement) (table : String) (id : Cell) (column : String) : Prop :=
  t.args = [id] ∧ ∃ g : Sql.Sentence, g.SaidBy t.sql ∧ g.act = .query ∧ g.table = table ∧
    g.names.Nodup ∧ g.columns.lookup column = some column ∧
    g.condition = some "id = $1 AND _deleted = false"

/-- The statement puts a cell into a column of the row of an id: so says its text.  A row that
is inserted has no id before. -/
def Statement.Puts (t : Statement) (table : String) (id : Cell) (column : String) (v : Cell) :
    Prop :=
  ∃ w : Sql.Sentence, w.SaidBy t.sql ∧ w.table = table ∧ w.names.Nodup ∧ t.Gives w column v ∧
    (w.act = .insert ∨
      w.act = .update ∧ w.condition = some "id = $1 AND _deleted = false" ∧ t.args.head? = some id)

end Store

section Documents

variable {Item Line : Type}

/-- The items of a collection have a document in a column: reading a row shows the column, no
document keeps the row from being read, and the item's document is read from there. -/
structure HasDocument (s : Store) (c : Collection Item Line) (column : String)
    (document : Item → Option Record) : Prop where
  shows : ∀ id, (s.statement (.get c.table id)).Shows (c.table.descriptor s.schema).table id column
  accepts : ∀ r d, (c.item.read r).Accepts → (c.item.read ((column, .record d) :: r)).Accepts
  gives : ∀ r, (c.item.read r).Gives fun a =>
    Record.optional column Scalar.record r = .accepted (document a)

/-- The query of a full row shows the columns that are listed for it. -/
theorem get_shows (s : Store) (t : Table) (id : Cell) {column : String}
    (distinct : (t.shown.map Prod.fst).Nodup) (listed : t.shown.lookup column = some column) :
    (s.statement (.get t id)).Shows (t.descriptor s.schema).table id column :=
  ⟨rfl, t.sentence s.schema, get_said s t id, rfl, rfl, distinct, listed, rfl⟩

theorem things_haveDocument (s : Store) :
    HasDocument s things "more_data" fun t => t.content.moreData where
  shows id := get_shows s .things id (by decide +kernel) (by decide +kernel)
  accepts _ d accepts := Thing.accepts_document accepts d
  gives _ := Thing.gives_document

theorem types_haveDocument (s : Store) :
    HasDocument s types "more_data_schema" fun t => t.content.moreDataSchema where
  shows id := get_shows s .types id (by decide +kernel) (by decide +kernel)
  accepts _ d accepts := ThingType.accepts_document accepts d
  gives _ := ThingType.gives_document

/-- **An operation keeps a document**: its write puts the document into a column, it reads that
row back, and what the codec makes of the column is the document of the result. -/
structure KeepsDocument (s : Store) (codec : Codec) (kept : String → String → Prop)
    (d : Dialogue Command Item) (c : Collection Item Line) (write : Command) (key : Reply → Cell)
    (column : String) (document : Item → Option Record) (bound : Option Record) : Prop where
  puts : ∀ told, (s.statement write).Puts (c.table.descriptor s.schema).table (key told) column
    (.ofOption .record bound)
  shows : ∀ id, (s.statement (.get c.table id)).Shows (c.table.descriptor s.schema).table id column
  /-- No document keeps the row from being read. -/
  readable : ∀ fields a doc, c.item.read fields = .accepted a →
    ∃ b, c.item.read ((column, .record doc) :: fields) = .accepted b ∧ document b = some doc
  returns : ∀ h a, Runs d h (.ok a) → ∃ before told row,
    h = before ++ [⟨write, told⟩, ⟨.get c.table (key told), .returned row⟩] ∧
      ∀ fields back, rowRecord row = .ok fields → fields.lookup column = some back →
        codec.Returns kept (.ofOption .record bound) back → SameDocument bound (document a)

variable {s : Store} {codec : Codec} {kept : String → String → Prop} {d : Dialogue Command Item}
  {c : Collection Item Line} {write : Command} {key : Reply → Cell} {column : String}
  {document : Item → Option Record} {bound : Option Record}

/-- A row that was read is a record that reads as the item. -/
theorem read_of_readRow {row : Cell} {fields : Record} {a : Item}
    (read : readRow c.item row = .ok a) (opened : rowRecord row = .ok fields) :
    c.item.read fields = .accepted a := by
  obtain ⟨fields', opened', made⟩ := bind_eq_ok read
  obtain rfl : fields = fields' := Except.ok.inj (opened.symm.trans opened')
  have taken := mapError_eq_ok made
  cases here : c.item.read fields with
  | refused issues =>
      rw [here] at taken
      cases taken
  | accepted b =>
      rw [here] at taken
      cases taken
      rfl

theorem HasDocument.keeps (has : HasDocument s c column document)
    (installed : codec ∈ Codec.installed) (faithful : FaithfulStorage kept)
    (legible : ∀ d ∈ bound, Record.Legible d)
    (puts : ∀ told, (s.statement write).Puts (c.table.descriptor s.schema).table (key told) column
      (.ofOption .record bound))
    (reads : ReadsBack d write c key) :
    KeepsDocument s codec kept d c write key column document bound where
  puts
  shows := has.shows
  readable := by
    intro fields a doc read
    obtain ⟨b, again⟩ := has.accepts fields doc ⟨a, read⟩
    have there := has.gives _ b again
    rw [Record.optional_record_self] at there
    exact ⟨b, again, (Checked.accepted.inj there).symm⟩
  returns := by
    intro h a ran
    obtain ⟨before, told, row, whole, read⟩ := reads h a ran
    refine ⟨before, told, row, whole, fun fields back opened there returned => ?_⟩
    have accepted := read_of_readRow read opened
    obtain rfl := Record.optional_record (has.gives fields a accepted) there
    exact returned.same installed faithful legible

end Documents

/-! ### Each write puts its document into its column -/

section Puts

/-- A write that binds its columns by name puts the value of a field into its column. -/
theorem puts_of_binds {t : Statement} {w : Sql.Sentence} {fields : Record} {user srid : Int}
    {id v : Cell} {column : String} (binds : t.BindsByName w fields user srid)
    (said : w.SaidBy t.sql) (there : fields.lookup column = some v) (kept : column ∈ w.names)
    (row : w.act = .insert ∨ w.act = .update ∧
      w.condition = some "id = $1 AND _deleted = false" ∧ t.args.head? = some id) :
    t.Puts w.table id column v :=
  ⟨w, said, rfl, binds.distinct, binds.byField column kept v there, row⟩

variable (s : Store) (user : Int) (id : Cell)

theorem insertThing_puts (content : Thing.Content) :
    (s.statement (.insertThing user content)).Puts (Sql.ThingTable.table s.schema) id "more_data"
      (.ofOption .record content.moreData) := by
  apply puts_of_binds (insertThing_binds s user content) (insertThing_said s user content) rfl
  · simp [Sql.ThingTable.insertion, Sql.ThingTable.insertAssignments]
  · exact .inl rfl

theorem updateThing_puts (content : Thing.Content) :
    (s.statement (.updateThing id user content)).Puts (Sql.ThingTable.table s.schema) id
      "more_data" (.ofOption .record content.moreData) := by
  apply puts_of_binds (updateThing_binds s user id content) (updateThing_said s id user content) rfl
  · simp [Sql.ThingTable.replacement, Sql.ThingTable.updateAssignments]
  · exact .inr ⟨rfl, rfl, rfl⟩

theorem insertType_puts (content : ThingType.Content) :
    (s.statement (.insertType user content)).Puts (Sql.ThingTypeTable.table s.schema) id
      "more_data_schema" (.ofOption .record content.moreDataSchema) := by
  apply puts_of_binds (insertType_binds s user content) (insertType_said s user content) rfl
  · simp [Sql.ThingTypeTable.insertion, Sql.ThingTypeTable.contentAssignments]
  · exact .inl rfl

theorem updateType_puts (content : ThingType.Content) :
    (s.statement (.updateType id user content)).Puts (Sql.ThingTypeTable.table s.schema) id
      "more_data_schema" (.ofOption .record content.moreDataSchema) := by
  apply puts_of_binds (updateType_binds s user id content) (updateType_said s id user content) rfl
  · simp [Sql.ThingTypeTable.replacement, Sql.ThingTypeTable.contentAssignments]
  · exact .inr ⟨rfl, rfl, rfl⟩

end Puts

section Writes

variable (r : Registry) (caller : Caller)

/-- **Documents come back as they were bound.**  Both types of documents have a codec that
writes visible text and loses nothing of a legible value; only the halves of a character that
stand side by side in a text, as in no text of whole characters, come back as the character.
And where the database stores documents faithfully, whatever operation binds one results in the
same one. -/
theorem documents_come_back (kept : String → String → Prop) (faithful : FaithfulStorage kept) :
    Codec.installed.map (fun codec => (codec.type, codec.schema)) =
        [("json", "pg_catalog"), ("jsonb", "pg_catalog")] ∧
      ∀ codec ∈ Codec.installed,
        (∀ v : Json, v.Legible → v.Seamless → ∃ s, codec.Lossless v s) ∧
        (∀ v : Json, v.joined.Legible → ∃ s, codec.Carries v v.joined s) ∧
        (∀ content : Thing.Content, (∀ d ∈ content.moreData, Record.Legible d) →
          KeepsDocument r.store codec kept (r.createThing caller content) things
              (.insertThing caller.userId content) (fun _ => .uuid content.id) "more_data"
              (fun t => t.content.moreData) content.moreData ∧
            ∀ id, KeepsDocument r.store codec kept (r.updateThing caller id content) things
              (.updateThing (.uuid id) caller.userId content) (fun _ => .uuid id) "more_data"
              (fun t => t.content.moreData) content.moreData) ∧
        ∀ content : ThingType.Content, (∀ d ∈ content.moreDataSchema, Record.Legible d) →
          KeepsDocument r.store codec kept (r.createType caller content) types
              (.insertType caller.userId content) Reply.value "more_data_schema"
              (fun t => t.content.moreDataSchema) content.moreDataSchema ∧
            ∀ id, KeepsDocument r.store codec kept (r.updateType caller id content) types
              (.updateType (.int id) caller.userId content) (fun _ => .int id) "more_data_schema"
              (fun t => t.content.moreDataSchema) content.moreDataSchema := by
  refine ⟨rfl, fun codec installed => ⟨?_, ?_, ?_, ?_⟩⟩
  · exact fun v legible seamless => ⟨_, Codec.installed_lossless installed legible seamless⟩
  · exact fun v legible => ⟨_, Codec.installed_carries installed legible⟩
  · intro content legible
    have has := things_haveDocument r.store
    refine ⟨has.keeps installed faithful legible ?_ (createThing_readsBack r caller content),
      fun id => has.keeps installed faithful legible ?_ (updateThing_readsBack r caller id content)⟩
    · exact fun _ => insertThing_puts r.store caller.userId _ content
    · exact fun _ => updateThing_puts r.store caller.userId (.uuid id) content
  · intro content legible
    have has := types_haveDocument r.store
    refine ⟨has.keeps installed faithful legible ?_ (createType_readsBack r caller content),
      fun id => has.keeps installed faithful legible ?_ (updateType_readsBack r caller id content)⟩
    · exact fun _ => insertType_puts r.store caller.userId _ content
    · exact fun _ => updateType_puts r.store caller.userId (.int id) content

end Writes

/-! ### Names in another order -/

/-- A unit and a largest value, in the order of the request, -/
def unitFirst : List (String × Json) :=
  [("unit", .text "m"), ("max", .int 3)]

/-- and in the order of a database that sorts names by their length. -/
def maxFirst : List (String × Json) :=
  [("max", .int 3), ("unit", .text "m")]

/-- What such a database does with this document. -/
def sortedNames (s t : String) : Prop :=
  s = (Json.object unitFirst).render Json.spaced ∧ t = (Json.object maxFirst).render Json.spaced

/-- A type with this document. -/
def measuredType : ThingType.Content where
  name := "Fontaine"
  description := none
  comment := none
  externalId := none
  tableName := none
  geometryType := none
  inactivated := false
  inactivatedTime := none
  inactivatedBy := none
  inactivatedReason := none
  managedBy := none
  iconPath := ""
  moreDataSchema := some (Cell.ofFields unitFirst)

/-- The row of the type that is then read. -/
def measuredRow : Record :=
  [("id", .int 3), ("name", .text "Fontaine"),
   ("more_data_schema", .record (Cell.ofFields maxFirst))]

/-- What is read of it. -/
def measuredItem : ThingType where
  id := 3
  content := { measuredType with moreDataSchema := some (Cell.ofFields maxFirst) }
  audit := ⟨none, none, none, none, false, none, none⟩

theorem unitFirst_legible : (Json.object unitFirst).Legible := by
  refine ⟨by decide, trivial, ?_, trivial⟩
  show (Nat.toDigits 10 3).length ≤ Text.maxDigits
  decide

theorem maxFirst_legible : (Json.object maxFirst).Legible := by
  refine ⟨by decide, ?_, trivial, trivial⟩
  show (Nat.toDigits 10 3).length ≤ Text.maxDigits
  decide

theorem sortedNames_faithful : FaithfulStorage sortedNames := by
  rintro s t v - read ⟨rfl, rfl⟩
  have first := Json.parse_render Json.spaced_sound unitFirst_legible (by rfl) (by decide)
  have second := Json.parse_render Json.spaced_sound maxFirst_legible (by rfl) (by decide)
  obtain rfl : v = .object unitFirst := Except.ok.inj (read.symm.trans first)
  refine ⟨_, second, .object rfl ?_ (.swap _ _ _)⟩
  exact .cons (.refl _) (.cons (.refl _) .nil)

/-- A type is updated with a document, and the document comes back sorted. -/
theorem sorted_document_comes_back :
    FaithfulStorage sortedNames ∧
      Record.Legible (Cell.ofFields unitFirst) ∧
      Codec.Returns (.document "jsonb") sortedNames (.record (Cell.ofFields unitFirst))
        (.record (Cell.ofFields maxFirst)) ∧
      ∃ h item,
        Runs (({} : Registry).updateType { userId := 7, isAdmin := true } 3 measuredType) h
          (.ok item) ∧
        item.content.moreDataSchema = some (Cell.ofFields maxFirst) ∧
        SameDocument measuredType.moreDataSchema item.content.moreDataSchema := by
  have legible : Record.Legible (Cell.ofFields unitFirst) :=
    ⟨_, rfl, unitFirst_legible, by rfl, by decide⟩
  have installed : Codec.document "jsonb" ∈ Codec.installed := by simp [Codec.installed]
  have first := Codec.installed_lossless installed unitFirst_legible (by rfl)
  have second := (Codec.installed_lossless installed maxFirst_legible (by rfl)).read (by decide)
  have returned : Codec.Returns (.document "jsonb") sortedNames
      (.record (Cell.ofFields unitFirst)) (.record (Cell.ofFields maxFirst)) :=
    ⟨_, _, _, first.written, ⟨rfl, rfl⟩, second, rfl⟩
  -- the type is there, it is changed, and its row is read
  have ran : Runs (({} : Registry).updateType { userId := 7, isAdmin := true } 3 measuredType)
      ([⟨.exist .types (.int 3), .returned (.int 1)⟩] ++
        [⟨.updateType (.int 3) 7 measuredType, .returned (.text "UPDATE 1")⟩,
          ⟨.get .types (.int 3), .returned (.record measuredRow)⟩])
      (.ok measuredItem) :=
    runs_exchanges ({} : Store).silence
      (({} : Registry).updateType { userId := 7, isAdmin := true } 3 measuredType)
      [.returned (.int 1), .returned (.text "UPDATE 1"), .returned (.record measuredRow)]
  have keeps := ((documents_come_back {} { userId := 7, isAdmin := true } sortedNames
    sortedNames_faithful).2 _ installed).2.2.2 measuredType fun d there => by
      cases there
      exact legible
  obtain ⟨before, told, row, whole, same⟩ := (keeps.2 3).returns _ _ ran
  have last := List.append_inj_right' whole rfl
  simp only [List.cons.injEq, Exchange.mk.injEq, Reply.returned.injEq, and_true] at last
  obtain ⟨-, -, rfl⟩ := last
  exact ⟨sortedNames_faithful, legible, returned, _, _, ran, rfl,
    same measuredRow _ rfl rfl returned⟩

end GeoRegistry
