/-
# Proofs.FailStop -- the first failed statement is the last one

`translated` says once how each failed statement ends the task that sent it, by the
fault and by the statement; it is written without regard to the layers that pass a
failure on.  `Orderly` says of a dialogue that it stops where a statement fails, with
that translation, and that it never ends by having matched no row.  Both hold of every
rule and of every operation of the store, and composition keeps them.

What a list makes of an answer is here too: it is empty when its statement found
nothing, and in no other case.
-/
import GeoRegistry.Proofs.Store.Definite
import GeoRegistry.Proofs.Task

namespace GeoRegistry.Registry

set_option autoImplicit false

open Dialogue Store

variable {α β : Type}

/-! ## The translation of failures -/

/-- How a task ends when the statement of a command fails: a missed deadline cancels it,
a fault of the database or of the connection is a storage failure, an interruption and a
fault of the calling code come through as they are.  Only that an insert of a thing found
its id taken is reported as something else, and keeps the storage failure as its cause. -/
def translated : Command → StatementFailure → Failure
  | .insertThing _ content, ⟨.uniqueViolation, message⟩ =>
      .refused ⟨.alreadyExists, "thing " ++ content.id.text ++ " already exists",
        [.storage, .statement ⟨.uniqueViolation, message⟩]⟩
  | _, f =>
      match f.fault with
      | .timeout =>
          .refused ⟨.cancelled, "operation cancelled before completion", [.statement f]⟩
      | .cancelled | .value => .interrupted f
      | .postgres | .uniqueViolation | .foreignKeyViolation | .queryCanceled | .interface | .os
      | .connectionRefused => .refused ⟨.storage, "storage failure", [.statement f]⟩

theorem translated_eq {q : Command} (other : ∀ user content, q ≠ .insertThing user content)
    (f : StatementFailure) : translated q f = consequence f := by
  obtain ⟨fault, message⟩ := f
  cases q
  case insertThing user content => exact absurd rfl (other user content)
  all_goals cases fault <;> rfl

/-- The insert of a thing, and the failure it makes of a taken id. -/
theorem translated_insertThing (user : Int) (content : Thing.Content) (f : StatementFailure) :
    translated (.insertThing user content) f = idTaken content.id (consequence f) := by
  obtain ⟨fault, message⟩ := f
  have spoken : ("thing " ++ content.id.text ++ " already exists").isEmpty = false := by
    simp
  cases fault
  case uniqueViolation =>
    simp [translated, idTaken, consequence, verdict, alreadyExists, DomainError.ofDetail, spoken,
      DomainError.because, DomainError.plain]
  all_goals rfl

/-- A failed statement is no empty answer. -/
theorem orNothing_consequence (instead : Except Failure α) (f : StatementFailure) :
    orNothing instead (.error (consequence f)) = .error (consequence f) :=
  orNothing_of_ne fun same => consequence_ne f (Except.error.inj same)

/-! ## Orderly dialogues -/

/-- A dialogue stops where a statement fails, with the translation of that failure, and
it never ends by having matched no row. -/
structure Orderly (d : Dialogue Command α) : Prop where
  stops : ∀ h o, Runs d h o → ∀ before q f after, h = before ++ ⟨q, .failed f⟩ :: after →
    after = [] ∧ o = .error (translated q f)
  definite : ∀ h o, Runs d h o → Definite o

theorem orderly_of_idle {d : Dialogue Command α} {o : Except Failure α} (idle : Idle d o)
    (definite : Definite o) : Orderly d where
  stops := by
    intro h o' ran before q f after whole
    obtain ⟨rfl, -⟩ := (idle _ _).1 ran
    simp at whole
  definite := by
    intro h o' ran
    obtain ⟨-, rfl⟩ := (idle _ _).1 ran
    exact definite

theorem orderly_of_asks {d : Dialogue Command α} {q : Command} {g : Reply → Except Failure α}
    (asks : AsksOnce d q g) (fails : ∀ f, g (.failed f) = .error (translated q f))
    (definite : ∀ reply, Definite (g reply)) : Orderly d where
  stops := by
    intro h o ran before q' f after whole
    obtain ⟨reply, rfl, rfl⟩ := (asks _ _).1 ran
    obtain ⟨rfl, ⟨rfl, rfl⟩, rfl⟩ : before = [] ∧ (q' = q ∧ .failed f = reply) ∧ after = [] := by
      simpa [List.cons_eq_append_iff] using whole
    exact ⟨rfl, fails f⟩
  definite := by
    intro h o ran
    obtain ⟨reply, -, rfl⟩ := (asks _ _).1 ran
    exact definite reply

/-- A question that is no insert of a thing, and whose failure is passed on. -/
theorem orderly_of_plain {d : Dialogue Command α} {q : Command} {g : Reply → Except Failure α}
    (asks : AsksOnce d q g) (other : ∀ user content, q ≠ .insertThing user content)
    (fails : ∀ f, g (.failed f) = .error (consequence f))
    (definite : ∀ reply, Definite (g reply)) : Orderly d :=
  orderly_of_asks asks (fun f => by rw [fails, translated_eq other]) definite

/-- A failure in the first part ends the whole; without one the second part follows. -/
theorem Orderly.bind {d : Dialogue Command α} {k : α → Dialogue Command β} (first : Orderly d)
    (rest : ∀ a, Orderly (k a)) : Orderly (d >>= k) where
  stops := by
    intro h o ran before q f after whole
    rcases runs_bind_iff.1 ran with ⟨e, rfl, ran₁⟩ | ⟨a, h₁, h₂, rfl, ran₁, ran₂⟩
    · obtain ⟨last, same⟩ := first.stops _ _ ran₁ before q f after whole
      cases same
      exact ⟨last, rfl⟩
    · -- the first part has a result, so the failure is none of its exchanges
      rcases List.append_eq_append_iff.1 whole with ⟨between, rfl, left⟩ | ⟨between, rfl, left⟩
      · exact (rest a).stops _ _ ran₂ between q f after left
      · cases between with
        | nil => exact (rest a).stops _ _ ran₂ [] q f after left.symm
        | cons e others =>
            obtain ⟨rfl, -⟩ := List.cons.inj left
            obtain ⟨-, same⟩ := first.stops _ _ ran₁ before q f others rfl
            cases same
  definite := by
    intro h o ran
    rcases runs_bind_iff.1 ran with ⟨e, rfl, ran₁⟩ | ⟨a, h₁, h₂, rfl, -, ran₂⟩
    · exact definite_error fun same => first.definite _ _ ran₁ (by rw [same])
    · exact (rest a).definite _ _ ran₂

/-! ## The rules and the operations of the store -/

section Rules

variable {Item Line : Type} (r : Registry) (s : Store) (c : Collection Item Line)

theorem orderly_log (entry : Log.Entry) : Orderly (Dialogue.log entry) :=
  orderly_of_idle ((idle_finish _).note entry) (definite_ok _)

theorem orderly_pure (a : α) : Orderly (pure a : Dialogue Command α) :=
  orderly_of_idle (idle_finish _) (definite_ok a)

theorem orderly_refuse (e : DomainError) : Orderly (.refuse e : Dialogue Command α) :=
  orderly_of_idle (idle_finish _) (definite_error (by simp))

theorem orderly_name (name : String) : Orderly (r.requireName name) :=
  orderly_of_idle (requireName_idle r name) (definite_mapError _ (by simp [Failure.refusal]))

theorem orderly_admin (caller : Caller) : Orderly (requireAdmin caller) :=
  orderly_of_idle (requireAdmin_idle caller) (definite_mapError _ (by simp [Failure.refusal]))

theorem definite_demanded (complaint : DomainError) (reply : Reply) :
    Definite (demanded complaint reply) := by
  refine (definite_answered reply).bind fun there => ?_
  cases there with
  | true => exact definite_ok _
  | false => exact definite_error (by simp)

theorem definite_forbidden (complaint : DomainError) (reply : Reply) :
    Definite (forbidden complaint reply) := by
  refine (definite_answered reply).bind fun there => ?_
  cases there with
  | true => exact definite_error (by simp)
  | false => exact definite_ok _

theorem orderly_row (id : Cell) : Orderly (r.requireRow c id) :=
  orderly_of_plain (requireRow_asks r c id) (by simp) (fun _ => rfl) (definite_demanded _)

theorem orderly_type (id : Int) : Orderly (r.requireType id) :=
  orderly_of_plain (requireType_asks r id) (by simp) (fun _ => rfl) (definite_demanded _)

theorem orderly_absent (id : Uuid) : Orderly (r.requireAbsent id) :=
  orderly_of_plain (requireAbsent_asks r id) (by simp) (fun _ => rfl) (definite_forbidden _)

theorem orderly_owner (activity place : String) (id : Uuid) (caller : Caller) :
    Orderly (r.requireOwner activity place id caller) :=
  orderly_of_plain (requireOwner_asks r activity place id caller) (by simp) (fun _ => rfl)
    (definite_demanded _)

theorem orderly_change (complaint : String) (id : Cell) {q : Command}
    (other : ∀ user content, q ≠ .insertThing user content) :
    Orderly (c.change s complaint id q) :=
  orderly_of_plain (change_asks c s complaint id q) other (fun _ => rfl) (definite_changeOf _ _)

theorem orderly_readBack (written : String) (id : Cell) : Orderly (c.readBack s written id) := by
  refine orderly_of_plain (readBack_asks c s written id) (by simp) (fun f => ?_) fun reply => ?_
  · exact orNothing_consequence _ f
  · exact definite_orNothing (definite_error (by simp [unreadable]))

theorem orderly_present (id : Cell) : Orderly (r.present c id) := by
  refine (orderly_row r c id).bind fun _ => ?_
  refine orderly_of_plain ((get_asks c r.store id).ifNoRows (idle_finish _)) (by simp)
    (fun f => ?_) fun reply => ?_
  · exact orNothing_consequence _ f
  · exact definite_orNothing (definite_error (by simp))

theorem orderly_page {found : Dialogue Command (List Line)} {q : Command} {shape : Shape Line}
    (asks : AsksOnce found q (linesOf shape))
    (other : ∀ user content, q ≠ .insertThing user content) : Orderly (orEmpty found) := by
  refine orderly_of_plain (orEmpty_asks asks) other (fun f => ?_) fun reply => ?_
  · exact orNothing_consequence _ f
  · exact definite_orNothing (definite_ok _)

theorem orderly_insertThing (user : Int) (content : Thing.Content) :
    Orderly ((things.change s "create affected no row" (.uuid content.id)
      (.insertThing user content)).orElse fun e => .fail (idTaken content.id e)) := by
  refine orderly_of_asks (insertThing_asks s user content) (fun f => ?_) fun reply => ?_
  · rw [translated_insertThing]
    rfl
  · cases made : changeOf "thing" "create affected no row" reply with
    | ok a => exact definite_ok a
    | error e =>
        have named : e ≠ .noRows := by
          have definite := definite_changeOf "thing" "create affected no row" reply
          simpa [Definite, made] using definite
        refine definite_error ?_
        unfold idTaken
        split
        · split <;> simp
        · exact named

end Rules

/-! ## The tasks -/

section Tasks

variable (r : Registry) (caller : Caller)

theorem orderly_createThing (content : Thing.Content) :
    Orderly (r.createThing caller content) := by
  rw [createThing_eq]
  refine (orderly_name r _).bind fun _ => ?_
  refine (orderly_type r _).bind fun _ => ?_
  refine (orderly_absent r _).bind fun _ => ?_
  refine Orderly.bind ?_ fun _ => (orderly_log _).bind fun _ => orderly_pure _
  refine (orderly_log _).bind fun _ => ?_
  refine (orderly_insertThing r.store _ _).bind fun _ => ?_
  exact orderly_readBack r.store things _ _

theorem orderly_updateThing (id : Uuid) (content : Thing.Content) :
    Orderly (r.updateThing caller id content) := by
  refine (orderly_row r things _).bind fun _ => ?_
  refine (orderly_owner r _ _ id caller).bind fun _ => ?_
  refine (orderly_name r _).bind fun _ => ?_
  refine (orderly_type r _).bind fun _ => ?_
  refine (orderly_log _).bind fun _ => ?_
  refine (orderly_change r.store things _ _ (by simp)).bind fun _ => ?_
  exact orderly_readBack r.store things _ _

theorem orderly_deleteThing (id : Uuid) : Orderly (r.deleteThing caller id) := by
  refine (orderly_row r things _).bind fun _ => ?_
  refine (orderly_owner r _ _ id caller).bind fun _ => ?_
  refine (orderly_change r.store things _ _ (by simp)).bind fun _ => ?_
  exact orderly_log _

theorem orderly_createType (content : ThingType.Content) :
    Orderly (r.createType caller content) := by
  refine (orderly_admin caller).bind fun _ => ?_
  refine (orderly_name r _).bind fun _ => ?_
  refine Orderly.bind ?_ fun _ => (orderly_log _).bind fun _ => orderly_pure _
  have sent : Orderly (r.store.channel.send (.insertType caller.userId content)) :=
    orderly_of_plain (send_asks _ _) (by simp) (fun _ => rfl) definite_settled
  refine sent.bind fun id => ?_
  cases id with
  | null => exact (orderly_log _).bind fun _ => orderly_refuse _
  | _ => exact orderly_readBack r.store types _ _

theorem orderly_updateType (id : Int) (content : ThingType.Content) :
    Orderly (r.updateType caller id content) := by
  refine (orderly_admin caller).bind fun _ => ?_
  refine (orderly_row r types _).bind fun _ => ?_
  refine (orderly_name r _).bind fun _ => ?_
  refine (orderly_change r.store types _ _ (by simp)).bind fun _ => ?_
  exact orderly_readBack r.store types _ _

theorem orderly_deleteType (id : Int) : Orderly (r.deleteType caller id) := by
  refine (orderly_admin caller).bind fun _ => ?_
  refine (orderly_row r types _).bind fun _ => ?_
  refine (orderly_change r.store types _ _ (by simp)).bind fun _ => ?_
  exact orderly_log _

/-- An outcome of a feature collection is no empty answer. -/
theorem definite_documentOf (reply : Reply) : Definite (documentOf reply) :=
  definite_orNothing (definite_ok _)

theorem orderly_thingFeatures (filters : Sql.Filters) (offset limit : Cell) :
    Orderly (r.thingFeatures filters offset limit) :=
  orderly_of_plain (thingFeatures_asks r filters offset limit) (by simp)
    (fun f => orNothing_consequence _ f) definite_documentOf

theorem orderly_requireTypes (s : Store) : Orderly (requireTypes s) := by
  refine orderly_of_plain (requireTypes_asks s) (by simp) (fun _ => rfl) fun reply => ?_
  refine (definite_counted reply).bind fun n => ?_
  by_cases few : n < 1
  · simp only [few, if_true]
    exact definite_error (by simp)
  · simp only [few, if_false]
    exact definite_ok n

/-- **Every task is orderly.** -/
theorem perform_orderly (t : Task) : Orderly (t.perform r caller) := by
  have counted {Item Line : Type} (c : Collection Item Line) (filters : Sql.Filters) :
      Orderly (c.count r.store filters) :=
    orderly_of_plain (collection_count_asks c r.store filters) (by simp) (fun _ => rfl)
      definite_counted
  cases t with
  | createThing content => exact orderly_createThing r caller content
  | updateThing id content => exact orderly_updateThing r caller id content
  | deleteThing id => exact orderly_deleteThing r caller id
  | getThing id => exact orderly_present r things _
  | listThings filters offset limit =>
      exact orderly_page (list_asks things r.store filters offset limit) (by simp)
  | listThingsByExternalId externalId offset limit =>
      exact orderly_page (listByColumn_asks things r.store _ _ offset limit) (by simp)
  | countThings filters => exact counted things filters
  | thingFeatures filters offset limit => exact orderly_thingFeatures r filters offset limit
  | createType content => exact orderly_createType r caller content
  | updateType id content => exact orderly_updateType r caller id content
  | deleteType id => exact orderly_deleteType r caller id
  | getType id => exact (orderly_admin caller).bind fun _ => orderly_present r types _
  | listTypes filters offset limit =>
      exact orderly_page (list_asks types r.store filters offset limit) (by simp)
  | countTypes filters => exact counted types filters
  | requireTypes => exact orderly_requireTypes r.store

end Tasks

/-! ## Empty answers -/

theorem definite_readDocument (v : Cell) : Definite (readDocument v) := by
  cases v with
  | text s =>
      refine definite_mapError _ fun e => ?_
      cases e <;> simp [Cell.literalFailure]
  | _ => exact definite_error (by simp)

/-- A sequence with something in it has parts. -/
theorem parts_ne_nil {v : Cell} {cells : List Cell} (some_ : v.isFalsy = false)
    (read : parts v = .ok cells) : cells ≠ [] := by
  rintro rfl
  cases v with
  | list items =>
      obtain rfl : items = [] := by simpa [parts, parts?] using read
      simp [Cell.isFalsy] at some_
  | record fields =>
      obtain rfl : fields = [] := by simpa [parts, parts?] using read
      simp [Cell.isFalsy] at some_
  | text s =>
      obtain rfl : s = "" := by simpa [parts, parts?] using read
      simp [Cell.isFalsy] at some_
  | _ => simp [parts, parts?] at read

/-- As many lines are read as there are rows. -/
theorem readRows_ne_nil {Line : Type} {shape : Shape Line} {rows : List Cell} {lines : List Line}
    (some_ : rows ≠ []) (read : readRows shape rows = .ok lines) : lines ≠ [] := by
  rintro rfl
  cases rows with
  | nil => exact some_ rfl
  | cons row rest =>
      cases first : readRow shape row with
      | error e => simp [readRows, first, bind, Except.bind] at read
      | ok line => cases others : readRows shape rest <;>
          simp [readRows, first, others, bind, Except.bind] at read

/-- **A page is empty when its statement found nothing**, and in no other case. -/
theorem pageOf_eq_nil_iff {Line : Type} {shape : Shape Line} {reply : Reply} :
    pageOf shape reply = .ok [] ↔ ∃ v, reply = .returned v ∧ v.isFalsy = true := by
  cases reply with
  | failed f =>
      have failed : pageOf shape (.failed f) = .error (consequence f) := orNothing_consequence _ f
      simp [failed]
  | returned v =>
      by_cases nothing : v.isFalsy = true
      · simp [pageOf, linesOf, nothing, Except.bind, orNothing]
      · have read : linesOf shape (.returned v) = (parts v).bind (readRows shape) := by
          simp [linesOf, nothing, Except.bind]
        have definite : Definite ((parts v).bind (readRows shape)) :=
          ((isReading_parts v).bind (isReading_readRows shape)).definite
        simp only [pageOf, read, orNothing_of_ne definite]
        constructor
        · intro empty
          cases split : parts v with
          | error e => simp [split, Except.bind] at empty
          | ok cells =>
              rw [split] at empty
              exact absurd rfl (readRows_ne_nil (parts_ne_nil (by simpa using nothing) split) empty)
        · rintro ⟨v', same, nothing'⟩
          cases same
          exact absurd nothing' nothing

/-- A feature collection is the document of an answer, or there was none. -/
theorem documentOf_eq_ok_iff {reply : Reply} {doc : Json} :
    documentOf reply = .ok doc ↔
      ∃ v, reply = .returned v ∧ (v = .null ∧ doc = noFeatures ∨ readDocument v = .ok doc) := by
  cases reply with
  | failed f =>
      have failed : documentOf (.failed f) = .error (consequence f) := orNothing_consequence _ f
      simp [failed]
  | returned v =>
      by_cases none_ : v = .null
      · subst none_
        simp [documentOf, featuresOf, readDocument, Except.bind, orNothing, eq_comm]
      · have read : documentOf (.returned v) = readDocument v := by
          have found : featuresOf (.returned v) = .ok v := by
            cases v <;> first | rfl | exact absurd rfl none_
          rw [documentOf, found]
          exact orNothing_of_ne (definite_readDocument v)
        simp [read, none_]

/-! ## Runs -/

namespace Task

variable (r : Registry) (caller : Caller) (silence : Command → Reply) (replies : List Reply)

/-- How a task of one question ended says what it was answered. -/
theorem ended_iff_of_asks {t : Task} {q : Command} {g : Reply → Except Failure t.Result}
    {o : Except Failure t.Result} {answer : Cell → Prop} (asks : AsksOnce (t.perform r caller) q g)
    (means : ∀ reply, g reply = o ↔ ∃ v, reply = .returned v ∧ answer v) :
    t.ended r caller silence replies = o ↔
      ∃ v, t.exchanged r caller silence replies = [⟨q, .returned v⟩] ∧ answer v := by
  obtain ⟨reply, whole, ended⟩ :=
    (asks _ _).1 (runs_exchanges silence (t.perform r caller) replies)
  rw [Task.ended, Task.exchanged, ended, whole, means]
  simp

/-- **The first failed statement is the last one**, and its translation is how the task
ends; that a query matched nothing never is.  A page is empty exactly when its statement
found nothing, and a feature collection is answered exactly when its statement was
answered, with the document read from the answer or, for none, with no features. -/
theorem first_failure_ends_task :
    (∀ t : Task,
      (∀ before q f after,
        t.exchanged r caller silence replies = before ++ ⟨q, .failed f⟩ :: after →
        after = [] ∧ t.ended r caller silence replies = .error (translated q f)) ∧
      t.ended r caller silence replies ≠ .error .noRows) ∧
    (∀ filters offset limit,
      (listThings filters offset limit).ended r caller silence replies = .ok [] ↔
        ∃ v, (listThings filters offset limit).exchanged r caller silence replies =
          [⟨.list .things filters offset limit, .returned v⟩] ∧ v.isFalsy = true) ∧
    (∀ id offset limit,
      (listThingsByExternalId id offset limit).ended r caller silence replies = .ok [] ↔
        ∃ v, (listThingsByExternalId id offset limit).exchanged r caller silence replies =
          [⟨.listByColumn .things "external_id" id offset limit, .returned v⟩] ∧
            v.isFalsy = true) ∧
    (∀ filters offset limit,
      (listTypes filters offset limit).ended r caller silence replies = .ok [] ↔
        ∃ v, (listTypes filters offset limit).exchanged r caller silence replies =
          [⟨.list .types filters offset limit, .returned v⟩] ∧ v.isFalsy = true) ∧
    (∀ filters offset limit doc,
      (thingFeatures filters offset limit).ended r caller silence replies = .ok doc ↔
        ∃ v, (thingFeatures filters offset limit).exchanged r caller silence replies =
          [⟨.features filters offset limit, .returned v⟩] ∧
            (v = .null ∧ doc = noFeatures ∨ readDocument v = .ok doc)) := by
  refine ⟨fun t => ?_, fun filters offset limit => ?_, fun id offset limit => ?_,
    fun filters offset limit => ?_, fun filters offset limit doc => ?_⟩
  · have ran := runs_exchanges silence (t.perform r caller) replies
    have orderly := perform_orderly r caller t
    exact ⟨orderly.stops _ _ ran, orderly.definite _ _ ran⟩
  · exact ended_iff_of_asks r caller silence replies (t := listThings filters offset limit)
      (orEmpty_asks (list_asks things r.store _ _ _)) fun _ => pageOf_eq_nil_iff
  · exact ended_iff_of_asks r caller silence replies (t := listThingsByExternalId id offset limit)
      (orEmpty_asks (listByColumn_asks things r.store _ _ _ _)) fun _ => pageOf_eq_nil_iff
  · exact ended_iff_of_asks r caller silence replies (t := listTypes filters offset limit)
      (orEmpty_asks (list_asks types r.store _ _ _)) fun _ => pageOf_eq_nil_iff
  · exact ended_iff_of_asks r caller silence replies (t := thingFeatures filters offset limit)
      (thingFeatures_asks r filters offset limit) fun _ => documentOf_eq_ok_iff

/-- A type is there, and marking it deleted misses its deadline. -/
theorem late_delete_is_cancelled :
    (deleteType 3).ended {} { userId := 7, isAdmin := true } (fun _ => .returned .null)
        [.returned (.int 1), .failed ⟨.timeout, "late"⟩] =
      .error (.refused ⟨.cancelled, "operation cancelled before completion",
        [.statement ⟨.timeout, "late"⟩]⟩) := by
  have orderly := (first_failure_ends_task {} { userId := 7, isAdmin := true }
    (fun _ => .returned .null) [.returned (.int 1), .failed ⟨.timeout, "late"⟩]).1 (deleteType 3)
  exact (orderly.1 [⟨.exist .types (.int 3), .returned (.int 1)⟩] (.softDelete .types (.int 3) 7)
    _ [] rfl).2

end Task

end GeoRegistry.Registry
