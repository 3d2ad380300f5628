/-
# Proofs.Task -- what the registry can be asked to do

A task is an operation of the registry with its arguments; `Task.perform` is the
dialogue the registry holds for a caller.  A search is a list whose filters know
keywords.  The check that there is a type at all, made before the service starts,
is a task like the others.

The rules of the registry each ask one question or none; the laws here say which,
and what they make of the reply.
-/
import GeoRegistry.Proofs.Store
import GeoRegistry.Registry.Things
import GeoRegistry.Registry.ThingTypes

namespace GeoRegistry.Registry

set_option autoImplicit false

open Dialogue Store

/-! ## Tasks -/

inductive Task where
  | createThing (content : Thing.Content)
  | updateThing (id : Uuid) (content : Thing.Content)
  | deleteThing (id : Uuid)
  | getThing (id : Uuid)
  | listThings (filters : Sql.Filters) (offset limit : Cell)
  | listThingsByExternalId (externalId offset limit : Cell)
  | countThings (filters : Sql.Filters)
  | thingFeatures (filters : Sql.Filters) (offset limit : Cell)
  | createType (content : ThingType.Content)
  | updateType (id : Int) (content : ThingType.Content)
  | deleteType (id : Int)
  | getType (id : Int)
  | listTypes (filters : Sql.Filters) (offset limit : Cell)
  | countTypes (filters : Sql.Filters)
  | requireTypes

namespace Task

/-- What a task results in. -/
def Result : Task → Type
  | .createThing _ | .updateThing .. | .getThing _ => Thing
  | .deleteThing _ | .deleteType _ => Unit
  | .listThings .. | .listThingsByExternalId .. => List Thing.Summary
  | .countThings _ | .countTypes _ | .requireTypes => Int
  | .thingFeatures .. => Json
  | .createType _ | .updateType .. | .getType _ => ThingType
  | .listTypes .. => List ThingType.Summary

/-- Do what a caller asks. -/
def perform (r : Registry) (caller : Caller) : (t : Task) → Dialogue Command t.Result
  | .createThing content => r.createThing caller content
  | .updateThing id content => r.updateThing caller id content
  | .deleteThing id => r.deleteThing caller id
  | .getThing id => r.getThing id
  | .listThings filters offset limit => r.listThings filters offset limit
  | .listThingsByExternalId externalId offset limit =>
      r.listThingsByExternalId externalId offset limit
  | .countThings filters => r.countThings filters
  | .thingFeatures filters offset limit => r.thingFeatures filters offset limit
  | .createType content => r.createType caller content
  | .updateType id content => r.updateType caller id content
  | .deleteType id => r.deleteType caller id
  | .getType id => r.getType caller id
  | .listTypes filters offset limit => r.listTypes filters offset limit
  | .countTypes filters => r.countTypes filters
  | .requireTypes => Registry.requireTypes r.store

variable (r : Registry) (caller : Caller) (silence : Command → Reply) (replies : List Reply)

/-- What was asked and answered when a task was done against a list of replies. -/
def exchanged (t : Task) : List (Exchange Command) :=
  (t.perform r caller).exchanges silence replies

/-- How a task ended that was done against a list of replies. -/
def ended (t : Task) : Except Failure t.Result :=
  ((t.perform r caller).run silence replies).outcome

end Task

/-! ## Rules -/

/-- The outcome of a rule that a count must be above zero. -/
def demanded (complaint : DomainError) (reply : Reply) : Except Failure Unit :=
  (answered reply).bind fun there => if there then .ok () else .error (.refused complaint)

theorem demanded_eq_ok_iff {complaint : DomainError} {reply : Reply} :
    demanded complaint reply = .ok () ↔ ∃ v n, reply = .returned v ∧ v.count = .ok n ∧ 0 < n := by
  have there : demanded complaint reply = .ok () ↔ answered reply = .ok true := by
    rw [demanded]
    rcases answered reply with e | _ | _ <;> simp [Except.bind]
  simp [there, answered_eq_ok_iff]

/-- The outcome of a rule that a count must not be above zero. -/
def forbidden (complaint : DomainError) (reply : Reply) : Except Failure Unit :=
  (answered reply).bind fun there => if there then .error (.refused complaint) else .ok ()

theorem forbidden_eq_ok_iff {complaint : DomainError} {reply : Reply} :
    forbidden complaint reply = .ok () ↔
      ∃ v n, reply = .returned v ∧ v.count = .ok n ∧ ¬ 0 < n := by
  have absent : forbidden complaint reply = .ok () ↔ answered reply = .ok false := by
    rw [forbidden]
    rcases answered reply with e | _ | _ <;> simp [Except.bind]
  simp [absent, answered_eq_ok_iff]

variable {Item Line : Type} (r : Registry)

theorem requireName_idle (name : String) :
    Idle (r.requireName name) ((NameRule.check "name" r.leastName name).mapError Failure.refusal) :=
  idle_finish _

theorem requireAdmin_idle (caller : Caller) :
    Idle (requireAdmin caller) (caller.requireAdmin.mapError Failure.refusal) :=
  idle_finish _

theorem requireRow_asks (c : Collection Item Line) (id : Cell) :
    AsksOnce (r.requireRow c id) (.exist c.table id) (demanded (missing c.table id)) := by
  refine (exist_asks c r.store id).bind fun there => ?_
  cases there with
  | true => exact idle_finish _
  | false => exact idle_finish _

theorem requireType_asks (id : Int) :
    AsksOnce (r.requireType id) (.typeExists id) (demanded (.ofDetail .typeNotFound
      ("type thing " ++ toString id ++ " does not exist"))) := by
  refine (typeExists_asks r.store id).bind fun there => ?_
  cases there with
  | true => exact idle_finish _
  | false => exact idle_finish _

/-- No thing may have the id. -/
def requireAbsent (id : Uuid) : Dialogue Command Unit := do
  if ← things.exist r.store (.uuid id) then .refuse (alreadyExists id)

theorem requireAbsent_asks (id : Uuid) :
    AsksOnce (r.requireAbsent id) (.exist .things (.uuid id)) (forbidden (alreadyExists id)) := by
  refine (exist_asks things r.store (.uuid id)).bind fun there => ?_
  cases there with
  | true => exact idle_finish _
  | false => exact idle_finish _

theorem requireOwner_asks (activity place : String) (id : Uuid) (caller : Caller) :
    AsksOnce (r.requireOwner activity place id caller) (.isOwner .things (.uuid id) caller.userId)
      (demanded (.plain .notOwner)) := by
  refine (isOwner_asks things r.store (.uuid id) caller.userId).bind fun owns => ?_
  cases owns with
  | true => exact idle_finish _
  | false => exact (idle_finish _).note _

/-- Creating a thing is a rule after a rule, and then the write. -/
theorem createThing_eq (caller : Caller) (content : Thing.Content) :
    r.createThing caller content = (do
      r.requireName content.name
      r.requireType content.typeId
      r.requireAbsent content.id
      let created ← r.store.createThing caller.userId content
      .log (entry .info "things.usecases.create_thing_usecase" "thing created"
        (.text created.content.id.text) caller)
      return created) := by
  simp only [createThing, requireAbsent, bind_eq, andThen_assoc]
  congr 1; funext _
  congr 1; funext _
  congr 1; funext there
  cases there <;> rfl

/-! ## Tasks of one question -/

/-- The outcome of a list, in which nothing found is an empty list. -/
def pageOf {Line : Type} (shape : Shape Line) (reply : Reply) : Except Failure (List Line) :=
  orNothing (.ok []) (linesOf shape reply)

/-- The outcome of a feature collection, in which nothing found is a collection of none. -/
def documentOf (reply : Reply) : Except Failure Json :=
  orNothing (.ok noFeatures) ((featuresOf reply).bind readDocument)

/-- The outcome of the check that there is a type. -/
def typesOf (s : Store) (reply : Reply) : Except Failure Int :=
  (counted reply).bind fun n =>
    if n < 1 then
      .error (.refused (.ofDetail .storage (s.schema ++ ".type_thing should not be empty")))
    else .ok n

theorem orEmpty_asks {Line : Type} {found : Dialogue Command (List Line)} {question : Command}
    {shape : Shape Line} (asks : AsksOnce found question (linesOf shape)) :
    AsksOnce (orEmpty found) question (pageOf shape) :=
  asks.ifNoRows (idle_finish _)

theorem thingFeatures_asks (filters : Sql.Filters) (offset limit : Cell) :
    AsksOnce (r.thingFeatures filters offset limit) (.features filters offset limit) documentOf :=
  ((features_asks r.store filters offset limit).bind fun found =>
    idle_finish (readDocument found)).ifNoRows (idle_finish _)

theorem requireTypes_asks (s : Store) : AsksOnce (requireTypes s) .countTypes (typesOf s) := by
  refine (countTypes_asks s).bind fun n => ?_
  by_cases few : n < 1
  · simp only [few, if_true]
    exact (idle_finish _).note _
  · simp only [few, if_false]
    exact (idle_finish _).note _

end GeoRegistry.Registry
