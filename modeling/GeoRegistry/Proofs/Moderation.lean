/-
# Proofs.Moderation -- what the creation of a thing takes of its moderation

Whether a thing is inactivated or validated, since when, by whom and why, stands in the
content that a client sends (`Thing.moderation`).  An insert has no column for the
inactivation, but it has the three of the validation, and they hold what the client says.

Contents are compared after what they say is taken out (`Thing.Content.unmoderated`,
`Thing.Content.unvalidated`).  Two creations whose contents differ in their moderation go
alike up to the validation in the insert (`createThing_unvalidated`), and not beyond.
-/
import GeoRegistry.Proofs.Service.Bodies

namespace GeoRegistry

set_option autoImplicit false

open Dialogue
open Store (Command Statement)

/-! ## Contents without their moderation -/

/-- The fields of a thing that say whether it is inactivated. -/
def Thing.inactivation : List String :=
  ["inactivated", "inactivated_time", "inactivated_by", "inactivated_reason"]

/-- The fields of a thing that say whether it is validated. -/
def Thing.validation : List String :=
  ["validated", "validated_time", "validated_by"]

def Thing.moderation : List String :=
  Thing.inactivation ++ Thing.validation

namespace Thing.Content

/-- The content of a thing that nobody validated. -/
def unvalidated (c : Thing.Content) : Thing.Content :=
  { c with validated := false, validatedTime := none, validatedBy := none }

/-- The content of a thing that nobody inactivated either. -/
def unmoderated (c : Thing.Content) : Thing.Content :=
  { c.unvalidated with
    inactivated := false, inactivatedTime := none, inactivatedBy := none,
    inactivatedReason := none }

/-- Two contents say the same of their validation. -/
def SameValidation (c c' : Thing.Content) : Prop :=
  c'.validated = c.validated ∧ c'.validatedTime = c.validatedTime ∧
    c'.validatedBy = c.validatedBy

/-- **Contents that are read of documents that agree but for the moderation.** -/
theorem both_read_unmoderated {r r' : Record}
    (agree : Record.AgreeOn (names.filter (· ∉ Thing.moderation)) r r') :
    Checked.Both (fun c c' => c'.unmoderated = c.unmoderated) (read r) (read r') := by
  have say (name : String) (listed : name ∈ names.filter (· ∉ Thing.moderation)) :
      r.lookup name = r'.lookup name :=
    agree name listed
  unfold read
  -- what is no moderation is read alike, and what is left is taken out
  repeat first
    | refine Checked.Both.part ?_ (both_required (say _ (by decide)) _)
    | refine Checked.Both.part ?_ (both_optional (say _ (by decide)) _)
    | refine Checked.Both.free ?_
  refine Checked.Both.map ?_ (both_required (say "id" (by decide)) Scalar.uuid)
  rintro id _ rfl
  intros
  rfl

end Thing.Content

/-! ## What an insert takes -/

/-- The command, with the validation taken out of a thing that is inserted. -/
def Store.Command.unvalidated : Command → Command
  | .insertThing user content => .insertThing user content.unvalidated
  | q => q

namespace Store

variable (s : Store) (user : Int)

/-- **The inactivation in a content is no argument of an insert.** -/
theorem statement_insertThing_unmoderated (c : Thing.Content) :
    s.statement (.insertThing user c.unmoderated) =
      s.statement (.insertThing user c.unvalidated) :=
  rfl

/-- Contents that differ in their moderation alone are inserted alike, their validation
apart. -/
theorem statement_unvalidated {c c' : Thing.Content} (same : c'.unmoderated = c.unmoderated) :
    s.statement (Command.insertThing user c').unvalidated =
      s.statement (Command.insertThing user c).unvalidated := by
  simp only [Command.unvalidated, ← statement_insertThing_unmoderated, same]

/-- And they are inserted alike if they are validated alike. -/
theorem statement_insertThing_of_sameValidation {c c' : Thing.Content}
    (same : c'.unmoderated = c.unmoderated) (validation : c.SameValidation c') :
    s.statement (.insertThing user c') = s.statement (.insertThing user c) := by
  have whole (d : Thing.Content) : s.statement (.insertThing user d) =
      s.statement (.insertThing user { d.unmoderated with
        validated := d.validated, validatedTime := d.validatedTime,
        validatedBy := d.validatedBy }) := by
    cases d
    rfl
  obtain ⟨validated, time, by_⟩ := validation
  rw [whole c', whole c, same, validated, time, by_]

/-- **A new thing is as validated as its content says**, and there is no word of its
inactivation: so says the insert. -/
structure Statement.Declares (t : Statement) (table : String) (user : Int) (c : Thing.Content)
    (w : Sql.Sentence) : Prop extends t.Creates table user w where
  validation : ∀ name ∈ Thing.validation, ∃ v, c.fields.lookup name = some v ∧ t.Gives w name v
  inactivation : ∀ name ∈ Thing.inactivation, name ∉ w.names

theorem insertThing_declares (c : Thing.Content) :
    (s.statement (.insertThing user c)).Declares (Sql.ThingTable.table s.schema) user c
      (Sql.ThingTable.insertion s.schema s.srid).sentence where
  toCreates := insertThing_creates s user c
  validation := by
    intro name listed
    have kept : name ∈ (Sql.ThingTable.insertion s.schema s.srid).sentence.names := by
      simp only [Thing.validation, List.mem_cons, List.not_mem_nil, or_false] at listed
      rcases listed with rfl | rfl | rfl <;>
        simp [Sql.ThingTable.insertion, Sql.ThingTable.insertAssignments]
    have known : name ∈ c.fields.map Prod.fst := by
      have all : ∀ name ∈ Thing.validation, name ∈ Thing.Content.names := by decide
      rw [c.fields_names]
      exact all name listed
    obtain ⟨v, there⟩ := Json.lookup_of_named known
    exact ⟨v, there, (insertThing_binds s user c).byField name kept v there⟩
  inactivation := by
    simp [Thing.inactivation, Sql.ThingTable.insertion, Sql.ThingTable.insertAssignments]

end Store

/-! ## Two creations -/

namespace Registry

variable (r : Registry) (caller : Caller) {c c' : Thing.Content}

/-- **Creations are as alike as their inserts**, for contents that differ in their moderation
alone: nothing else that is asked or logged is about it. -/
theorem phrased_createThing {δ : Type} (words : Command → δ)
    (same : c'.unmoderated = c.unmoderated)
    (put : words (.insertThing caller.userId c') = words (.insertThing caller.userId c)) :
    (r.createThing caller c').phrased words = (r.createThing caller c).phrased words := by
  have id : c'.id = c.id := congrArg (·.id) same
  have name : c'.name = c.name := congrArg (·.name) same
  have typeId : c'.typeId = c.typeId := congrArg (·.typeId) same
  have changed := Store.phrased_change_of Store.things r.store "create affected no row"
    (.uuid c.id) words put rfl
  have stored : (r.store.createThing caller.userId c').phrased words =
      (r.store.createThing caller.userId c).phrased words := by
    simp only [Store.createThing, phrased_bind, phrased_orElse, id, changed]
  simp only [Registry.createThing, id, name, typeId]
  refine phrased_bind_congr words _ fun _ => phrased_bind_congr words _ fun _ =>
    phrased_bind_congr words _ fun there => ?_
  cases there with
  | true => rfl
  | false => simp only [Bool.false_eq_true, if_false, phrased_bind, stored]

/-- **Creation takes the validation of a thing and nothing else of its moderation.**  Of
documents that agree but for the moderation, the contents are created alike for every list of
replies, in what is asked and logged and in how it ends, once the validation in the insert is
taken out; and wholly alike if they are validated alike, however they are inactivated.  The
insert keeps the validation that its content declares, and has no column for the inactivation. -/
theorem creation_takes_validation_alone {body body' : Record}
    (read : Thing.Content.read body = .accepted c) (read' : Thing.Content.read body' = .accepted c')
    (agree : Record.AgreeOn (Thing.Content.names.filter (· ∉ Thing.moderation)) body body') :
    (∀ replies : List Reply,
      ((r.createThing caller c').run r.store.silence replies).phrased
          (fun q => r.store.statement q.unvalidated) =
        ((r.createThing caller c).run r.store.silence replies).phrased
          (fun q => r.store.statement q.unvalidated)) ∧
    (c.SameValidation c' → ∀ replies : List Reply,
      ((r.createThing caller c').run r.store.silence replies).phrased r.store.statement =
        ((r.createThing caller c).run r.store.silence replies).phrased r.store.statement) ∧
    ∃ w, (r.store.statement (.insertThing caller.userId c)).Declares
      (Sql.ThingTable.table r.store.schema) caller.userId c w := by
  have same := Thing.Content.both_read_unmoderated agree c c' read read'
  refine ⟨fun replies => ?_, fun validation replies => ?_,
    _, r.store.insertThing_declares caller.userId c⟩
  · have quiet (q : Command) :
        (r.store.statement q.unvalidated).silence = r.store.silence q := by
      cases q <;> rfl
    rw [← run_phrased _ quiet, ← run_phrased _ quiet,
      phrased_createThing r caller _ same (r.store.statement_unvalidated caller.userId same)]
  · rw [← r.store.run_statements, ← r.store.run_statements,
      phrased_createThing r caller _ same
        (r.store.statement_insertThing_of_sameValidation caller.userId same validation)]

/-! ## A client that validates its own thing -/

section Hydrant

variable (validated inactivated : Bool)

/-- A thing as it is sent, with what is said of its moderation. -/
def hydrantBody : Record :=
  [("id", .text "11111111-1111-1111-1111-111111111111"), ("type_id", .int 1),
   ("name", .text "Hydrante"), ("pos_x", .int 4), ("pos_y", .int 8),
   ("validated", .bool validated), ("inactivated", .bool inactivated)]

/-- What it comes to. -/
def hydrant : Thing.Content where
  id := ⟨List.replicate 32 (Text.lastHex 1), rfl⟩
  typeId := 1
  name := "Hydrante"
  description := none
  comment := none
  externalId := none
  externalRef := none
  buildAt := none
  status := none
  containedBy := none
  containedByOld := none
  inactivated
  inactivatedTime := none
  inactivatedBy := none
  inactivatedReason := none
  validated
  validatedTime := none
  validatedBy := none
  managedBy := none
  moreData := none
  posX := .ofInt 4
  posY := .ofInt 8

theorem read_hydrantBody :
    Thing.Content.read (hydrantBody validated inactivated) =
      .accepted (hydrant validated inactivated) := by
  cases validated <;> cases inactivated <;> rfl

theorem hydrantBodies_agree (validated' inactivated' : Bool) :
    Record.AgreeOn (Thing.Content.names.filter (· ∉ Thing.moderation))
      (hydrantBody validated inactivated) (hydrantBody validated' inactivated') := by
  simp [Record.AgreeOn, Thing.Content.names, Thing.moderation, Thing.inactivation,
    Thing.validation, hydrantBody, List.lookup_cons]

end Hydrant

/-- A thing that is sent as validated is inserted as validated, and one that is sent as
inactivated is created like one that is not. -/
theorem validated_hydrant_is_created_validated :
    Thing.Content.read (hydrantBody true false) = .accepted (hydrant true false) ∧
      Thing.Content.read (hydrantBody true true) = .accepted (hydrant true true) ∧
      Record.AgreeOn (Thing.Content.names.filter (· ∉ Thing.moderation))
        (hydrantBody true false) (hydrantBody true true) ∧
      (∀ replies : List Reply,
        ((Registry.createThing {} { userId := 7 } (hydrant true true)).run
            ({} : Store).silence replies).phrased ({} : Store).statement =
          ((Registry.createThing {} { userId := 7 } (hydrant true false)).run
            ({} : Store).silence replies).phrased ({} : Store).statement) ∧
      ∃ w : Sql.Sentence,
        w.SaidBy (({} : Store).statement (.insertThing 7 (hydrant true false))).sql ∧
        (({} : Store).statement (.insertThing 7 (hydrant true false))).Gives w "validated"
          (.bool true) ∧
        "inactivated" ∉ w.names := by
  obtain ⟨-, alike, w, declares⟩ :=
    creation_takes_validation_alone {} { userId := 7 } (read_hydrantBody true false)
      (read_hydrantBody true true) (hydrantBodies_agree true false true true)
  obtain ⟨v, there, gives⟩ := declares.validation "validated" (by simp [Thing.validation])
  obtain rfl : .bool true = v := Option.some.inj there
  exact ⟨read_hydrantBody true false, read_hydrantBody true true,
    hydrantBodies_agree true false true true, alike ⟨rfl, rfl, rfl⟩, w, declares.said, gives,
    declares.inactivation "inactivated" (by simp [Thing.inactivation])⟩

/-- **Creation is not blind to the moderation of a thing**: two documents that differ in
nothing else are inserted with different arguments. -/
theorem creation_is_not_blind_to_moderation :
    ¬ ∀ (r : Registry) (caller : Caller) (body body' : Record) (c c' : Thing.Content),
      Thing.Content.read body = .accepted c → Thing.Content.read body' = .accepted c' →
      Record.AgreeOn (Thing.Content.names.filter (· ∉ Thing.moderation)) body body' →
      ∀ replies : List Reply,
        ((r.createThing caller c').run r.store.silence replies).outcome =
          ((r.createThing caller c).run r.store.silence replies).outcome ∧
        ((r.createThing caller c').run r.store.silence replies).asked.map r.store.statement =
          ((r.createThing caller c).run r.store.silence replies).asked.map r.store.statement := by
  intro blind
  obtain ⟨-, sent⟩ := blind {} { userId := 7 } _ _ _ _ (read_hydrantBody false false)
    (read_hydrantBody true false) (hydrantBodies_agree false false true false)
    [.returned (.int 1), .returned (.int 0), .returned (.text "INSERT 0 1")]
  -- the insert is the third statement, and its twelfth argument says whether it is validated
  have inserted := congrArg (fun sent => (sent[2]?.bind (·.args[11]?)).map Cell.isFalsy) sent
  revert inserted
  decide +kernel

end Registry

end GeoRegistry
