/-
# Proofs.WriteGate -- nothing is written before every check has passed

A task that may write has one write (`Task.write?`), conditions on its caller and its
content (`Task.Permitted`) and checks, which are questions that a count answers
(`Task.checks`).  `Guarded` says of a dialogue that whatever it is told it writes at
most once, and only after its checks, in their order, each with the count it demands;
and that once they have passed, the write is what is sent next.

`Guarded` follows the composition of dialogues, so a task is taken apart rule by rule,
in the order in which the registry applies them.
-/
import GeoRegistry.Proofs.Task
import GeoRegistry.Proofs.Store.Verb
import Mathlib.Data.List.Forall2

namespace GeoRegistry.Registry

set_option autoImplicit false

open Dialogue Store

variable {α β : Type}

/-! ## Checks -/

/-- A question that a count answers, and what the count must be. -/
structure Check where
  question : Command
  /-- Whether the count must be above zero, or must not be. -/
  present : Bool

/-- The question of a check was asked and its count was read as demanded. -/
def Check.Passed (c : Check) (e : Exchange Command) : Prop :=
  e.question = c.question ∧
    ∃ v n, e.reply = .returned v ∧ v.count = .ok n ∧ (0 < n ↔ c.present = true)

/-- These are the exchanges of the checks, one by one, and all of them passed. -/
def AllPassed (checks : List Check) (h : List (Exchange Command)) : Prop :=
  List.Forall₂ Check.Passed checks h

/-- Each check has an exchange in which it passed. -/
theorem AllPassed.exists_of_mem {checks : List Check} {h : List (Exchange Command)}
    (all : AllPassed checks h) {c : Check} (member : c ∈ checks) : ∃ e ∈ h, c.Passed e := by
  induction all with
  | nil => cases member
  | @cons _ e _ _ passed _ ih =>
      rcases List.mem_cons.1 member with rfl | later
      · exact ⟨e, .head _, passed⟩
      · obtain ⟨e', there, passed'⟩ := ih later
        exact ⟨e', .tail _ there, passed'⟩

/-- Nothing is written in these exchanges. -/
def OnlyReads (h : List (Exchange Command)) : Prop :=
  ∀ e ∈ h, e.question.writes = false

theorem onlyReads_nil : OnlyReads [] := by
  simp [OnlyReads]

theorem onlyReads_append {h₁ h₂ : List (Exchange Command)} :
    OnlyReads (h₁ ++ h₂) ↔ OnlyReads h₁ ∧ OnlyReads h₂ := by
  simp only [OnlyReads, List.mem_append]
  constructor
  · exact fun reads => ⟨fun e member => reads e (.inl member), fun e member => reads e (.inr member)⟩
  · rintro ⟨first, second⟩ e (member | member)
    · exact first e member
    · exact second e member

theorem OnlyReads.filter_eq {h : List (Exchange Command)} (reads : OnlyReads h) :
    h.filter (fun e => e.question.writes) = [] :=
  List.filter_eq_nil_iff.2 fun e member => by simp [reads e member]

/-- Between exchanges that only read, a write is found in one place. -/
theorem OnlyReads.first_write {before before' after after' : List (Exchange Command)}
    {e e' : Exchange Command} (low : OnlyReads before) (high : OnlyReads after)
    (same : before ++ e :: after = before' ++ e' :: after') (wrote : e'.question.writes = true) :
    before = before' ∧ e = e' := by
  have reads {e' : Exchange Command} {h : List (Exchange Command)} (only : OnlyReads h)
      (member : e' ∈ h) (wrote : e'.question.writes = true) : False := by
    simp [only e' member] at wrote
  -- two places in one list: the write is at the first, or it is among what only reads
  rcases List.append_eq_append_iff.1 same with ⟨between, rfl, rest⟩ | ⟨between, rfl, rest⟩
  · cases between with
    | nil =>
        obtain ⟨rfl, -⟩ := List.cons.inj rest
        exact ⟨by simp, rfl⟩
    | cons first others =>
        obtain ⟨rfl, rfl⟩ := List.cons.inj rest
        exact (reads high (by simp) wrote).elim
  · cases between with
    | nil =>
        obtain ⟨rfl, -⟩ := List.cons.inj rest
        exact ⟨by simp, rfl⟩
    | cons first others =>
        obtain ⟨rfl, rfl⟩ := List.cons.inj rest
        exact (reads low (by simp) wrote).elim

/-! ## Dialogues that only read -/

/-- Whatever a dialogue is told, it writes nothing. -/
def Reading (d : Dialogue Command α) : Prop :=
  ∀ h o, Runs d h o → OnlyReads h

theorem reading_of_idle {d : Dialogue Command α} {o : Except Failure α} (idle : Idle d o) :
    Reading d := by
  intro h o' ran
  obtain ⟨rfl, -⟩ := (idle _ _).1 ran
  exact onlyReads_nil

theorem reading_of_asks {d : Dialogue Command α} {q : Command} {f : Reply → Except Failure α}
    (asks : AsksOnce d q f) (reads : q.writes = false) : Reading d := by
  intro h o ran
  obtain ⟨reply, rfl, -⟩ := (asks _ _).1 ran
  simpa [OnlyReads] using reads

theorem Reading.bind {d : Dialogue Command α} {k : α → Dialogue Command β} (first : Reading d)
    (rest : ∀ a, Reading (k a)) : Reading (d >>= k) := by
  intro h o ran
  rcases runs_bind_iff.1 ran with ⟨e, -, ran⟩ | ⟨a, h₁, h₂, rfl, ran₁, ran₂⟩
  · exact first _ _ ran
  · exact onlyReads_append.2 ⟨first _ _ ran₁, rest a _ _ ran₂⟩

/-! ## Guards -/

section Guards

/-- A dialogue writes only `w`, once, and only when `permitted` holds and the checks have
passed; and when they have, that is what it sends next. -/
structure Guarded (w : Command) (permitted : Prop) (checks : List Check)
    (d : Dialogue Command α) : Prop where
  gate : ∀ h o, Runs d h o → OnlyReads h ∨
    ∃ before reply after, h = before ++ ⟨w, reply⟩ :: after ∧ permitted ∧
      AllPassed checks before ∧ OnlyReads before ∧ OnlyReads after
  opens : permitted → ∀ before, AllPassed checks before →
    ∃ next, Reaches d before (.ask w next)

variable {w : Command} {permitted : Prop} {checks : List Check}

/-- A condition that fails ends the dialogue; one that holds is known from then on. -/
theorem guarded_condition {d : Dialogue Command Unit} {k : Unit → Dialogue Command β}
    {o : Except Failure Unit} (idle : Idle d o) (holds : permitted → o = .ok ())
    (rest : o = .ok () → Guarded w permitted checks (k ())) :
    Guarded w permitted checks (d >>= k) where
  gate := by
    intro h o' ran
    rcases runs_bind_iff.1 ran with ⟨e, -, ran⟩ | ⟨a, h₁, h₂, rfl, ran₁, ran₂⟩
    · exact .inl (reading_of_idle idle _ _ ran)
    · obtain ⟨rfl, same⟩ := (idle _ _).1 ran₁
      exact (rest same.symm).gate _ _ ran₂
  opens may before all := by
    obtain ⟨next, reached⟩ := (rest (holds may)).opens may before all
    have ran : Runs d [] (.ok ()) := (idle _ _).2 ⟨rfl, (holds may).symm⟩
    exact ⟨next, (ran.reaches_bind k).trans reached⟩

/-- A check that fails ends the dialogue; one that passes is the next exchange. -/
theorem guarded_check {d : Dialogue Command Unit} {k : Unit → Dialogue Command β} {c : Check}
    {f : Reply → Except Failure Unit} (asks : AsksOnce d c.question f)
    (reads : c.question.writes = false)
    (passes : ∀ reply, f reply = .ok () ↔ c.Passed ⟨c.question, reply⟩)
    (rest : Guarded w permitted checks (k ())) :
    Guarded w permitted (c :: checks) (d >>= k) where
  gate := by
    intro h o ran
    rcases runs_bind_iff.1 ran with ⟨e, -, ran⟩ | ⟨a, h₁, h₂, rfl, ran₁, ran₂⟩
    · exact .inl (reading_of_asks asks reads _ _ ran)
    · obtain ⟨reply, rfl, same⟩ := (asks _ _).1 ran₁
      have asked : OnlyReads [⟨c.question, reply⟩] := by simpa [OnlyReads] using reads
      rcases rest.gate _ _ ran₂ with only | ⟨before, reply', after, rfl, may, all, low, high⟩
      · exact .inl (onlyReads_append.2 ⟨asked, only⟩)
      · exact .inr ⟨⟨c.question, reply⟩ :: before, reply', after, rfl, may,
          .cons ((passes reply).1 same.symm) all, onlyReads_append.2 ⟨asked, low⟩, high⟩
  opens may before all := by
    cases all with
    | @cons _ e _ before passed all =>
        obtain ⟨next, reached⟩ := rest.opens may before all
        obtain ⟨question, reply⟩ := e
        obtain rfl : question = c.question := passed.1
        have ran : Runs d [⟨c.question, reply⟩] (.ok ()) :=
          (asks _ _).2 ⟨reply, rfl, ((passes reply).2 passed).symm⟩
        exact ⟨next, (ran.reaches_bind k).trans reached⟩

/-- With no check left the write is sent. -/
theorem guarded_write {d : Dialogue Command α} {f : Reply → Except Failure α}
    (asks : AsksOnce d w f) (may : permitted) : Guarded w permitted [] d where
  gate := by
    intro h o ran
    obtain ⟨reply, rfl, -⟩ := (asks _ _).1 ran
    exact .inr ⟨[], reply, [], rfl, may, .nil, onlyReads_nil, onlyReads_nil⟩
  opens _ before all := by
    cases all
    exact asks.reaches

/-- What comes after the write may read. -/
theorem Guarded.bind {d : Dialogue Command α} {k : α → Dialogue Command β}
    (guarded : Guarded w permitted checks d) (rest : ∀ a, Reading (k a)) :
    Guarded w permitted checks (d >>= k) where
  gate := by
    intro h o ran
    rcases runs_bind_iff.1 ran with ⟨e, -, ran⟩ | ⟨a, h₁, h₂, rfl, ran₁, ran₂⟩
    · exact guarded.gate _ _ ran
    · rcases guarded.gate _ _ ran₁ with only | ⟨before, reply, after, rfl, may, all, low, high⟩
      · exact .inl (onlyReads_append.2 ⟨only, rest a _ _ ran₂⟩)
      · exact .inr ⟨before, reply, after ++ h₂, by simp, may, all, low,
          onlyReads_append.2 ⟨high, rest a _ _ ran₂⟩⟩
  opens may before all := by
    obtain ⟨next, reached⟩ := guarded.opens may before all
    exact ⟨_, reached.bind k⟩

end Guards

/-! ## What each task writes, and what guards it -/

/-- The name of something to store passes the naming rule. -/
def Accepts (r : Registry) (name : String) : Prop :=
  NameRule.check "name" r.leastName name = .ok ()

/-- A name passes when something is left of it between its blanks, and enough. -/
theorem accepts_iff {r : Registry} {name : String} :
    r.Accepts name ↔ 0 < NameRule.measure name ∧ r.leastName ≤ NameRule.measure name := by
  simp only [Accepts, NameRule.check]
  by_cases blank : NameRule.measure name = 0
  · simp [blank]
  · by_cases short : (NameRule.measure name : Int) < r.leastName
    · simp only [blank, short, if_true, if_false]
      constructor
      · intro passed
        cases passed
      · rintro ⟨-, long⟩
        omega
    · simp only [blank, short, if_false, true_iff]
      omega

namespace Task

/-- The one command by which a task writes. -/
def write? (caller : Caller) : Task → Option Command
  | .createThing content => some (.insertThing caller.userId content)
  | .updateThing id content => some (.updateThing (.uuid id) caller.userId content)
  | .deleteThing id => some (.softDelete .things (.uuid id) caller.userId)
  | .createType content => some (.insertType caller.userId content)
  | .updateType id content => some (.updateType (.int id) caller.userId content)
  | .deleteType id => some (.softDelete .types (.int id) caller.userId)
  | _ => none

/-- What must hold of the caller and of the content before a task may write.  That the
caller owns a thing is none of it: only the database knows. -/
def Permitted (r : Registry) (caller : Caller) : Task → Prop
  | .createThing content | .updateThing _ content => r.Accepts content.name
  | .deleteThing _ => True
  | .createType content | .updateType _ content => caller.isAdmin = true ∧ r.Accepts content.name
  | .deleteType _ => caller.isAdmin = true
  | _ => False

/-- What must have been asked before a task may write, in this order. -/
def checks (caller : Caller) : Task → List Check
  | .createThing content =>
      [⟨.typeExists content.typeId, true⟩, ⟨.exist .things (.uuid content.id), false⟩]
  | .updateThing id content =>
      [⟨.exist .things (.uuid id), true⟩, ⟨.isOwner .things (.uuid id) caller.userId, true⟩,
       ⟨.typeExists content.typeId, true⟩]
  | .deleteThing id =>
      [⟨.exist .things (.uuid id), true⟩, ⟨.isOwner .things (.uuid id) caller.userId, true⟩]
  | .updateType id _ | .deleteType id => [⟨.exist .types (.int id), true⟩]
  | _ => []

/-- The tasks that are for administrators. -/
def needsAdmin : Task → Bool
  | .createType _ | .updateType .. | .deleteType _ | .getType _ => true
  | _ => false

end Task

/-! ## The rules as guards -/

section Rules

variable (r : Registry) {k : Unit → Dialogue Command β} {w : Command} {permitted : Prop}
  {checks : List Check}

/-- A rule of the registry that passes, passes as a refusal that was not made. -/
theorem mapError_eq_ok_iff {check : Except Refusal Unit} :
    check.mapError Failure.refusal = .ok () ↔ check = .ok () := by
  cases check <;> simp [Except.mapError]

theorem demanded_passes {complaint : DomainError} {question : Command} (reply : Reply) :
    demanded complaint reply = .ok () ↔ Check.Passed ⟨question, true⟩ ⟨question, reply⟩ := by
  simp [demanded_eq_ok_iff, Check.Passed]

theorem forbidden_passes {complaint : DomainError} {question : Command} (reply : Reply) :
    forbidden complaint reply = .ok () ↔ Check.Passed ⟨question, false⟩ ⟨question, reply⟩ := by
  simp [forbidden_eq_ok_iff, Check.Passed]

theorem guarded_name {name : String} (named : permitted → r.Accepts name)
    (rest : r.Accepts name → Guarded w permitted checks (k ())) :
    Guarded w permitted checks (r.requireName name >>= k) :=
  guarded_condition (requireName_idle r name) (fun may => mapError_eq_ok_iff.2 (named may))
    fun passed => rest (mapError_eq_ok_iff.1 passed)

theorem guarded_admin {caller : Caller} (admin : permitted → caller.isAdmin = true)
    (rest : caller.isAdmin = true → Guarded w permitted checks (k ())) :
    Guarded w permitted checks (requireAdmin caller >>= k) := by
  have passes : caller.requireAdmin = .ok () ↔ caller.isAdmin = true := by
    cases caller_ : caller.isAdmin <;> simp [Caller.requireAdmin, caller_]
  exact guarded_condition (requireAdmin_idle caller)
    (fun may => mapError_eq_ok_iff.2 (passes.2 (admin may)))
    fun passed => rest (passes.1 (mapError_eq_ok_iff.1 passed))

theorem guarded_row {Item Line : Type} {c : Collection Item Line} {id : Cell}
    (rest : Guarded w permitted checks (k ())) :
    Guarded w permitted (⟨.exist c.table id, true⟩ :: checks) (r.requireRow c id >>= k) :=
  guarded_check (requireRow_asks r c id) rfl demanded_passes rest

theorem guarded_type {id : Int} (rest : Guarded w permitted checks (k ())) :
    Guarded w permitted (⟨.typeExists id, true⟩ :: checks) (r.requireType id >>= k) :=
  guarded_check (requireType_asks r id) rfl demanded_passes rest

theorem guarded_owner {activity place : String} {id : Uuid} {caller : Caller}
    (rest : Guarded w permitted checks (k ())) :
    Guarded w permitted (⟨.isOwner .things (.uuid id) caller.userId, true⟩ :: checks)
      (r.requireOwner activity place id caller >>= k) :=
  guarded_check (requireOwner_asks r activity place id caller) rfl demanded_passes rest

theorem guarded_absent {id : Uuid} (rest : Guarded w permitted checks (k ())) :
    Guarded w permitted (⟨.exist .things (.uuid id), false⟩ :: checks) (r.requireAbsent id >>= k) :=
  guarded_check (requireAbsent_asks r id) rfl forbidden_passes rest

theorem guarded_log {entry : Log.Entry} (rest : Guarded w permitted checks (k ())) :
    Guarded w permitted checks (Dialogue.log entry >>= k) :=
  guarded_condition ((idle_finish _).note entry) (fun _ => rfl) fun _ => rest

end Rules

/-! ## The writes of the store -/

section Writes

variable {Item Line : Type} (s : Store) {permitted : Prop} (may : permitted)

theorem reading_log (entry : Log.Entry) : Reading (Dialogue.log entry) :=
  reading_of_idle ((idle_finish _).note entry)

theorem reading_readBack (c : Collection Item Line) (written : String) (id : Cell) :
    Reading (c.readBack s written id) :=
  reading_of_asks (readBack_asks c s written id) rfl

include may

theorem store_createThing_guarded (user : Int) (content : Thing.Content) :
    Guarded (.insertThing user content) permitted [] (s.createThing user content) := by
  refine guarded_log ?_
  refine (guarded_write (insertThing_asks s user content) may).bind fun _ => ?_
  exact reading_readBack s things _ _

theorem store_updateThing_guarded (id : Cell) (user : Int) (content : Thing.Content) :
    Guarded (.updateThing id user content) permitted [] (s.updateThing id user content) := by
  refine guarded_log ?_
  refine (guarded_write (change_asks things s _ _ _) may).bind fun _ => ?_
  exact reading_readBack s things _ _

theorem store_createType_guarded (user : Int) (content : ThingType.Content) :
    Guarded (.insertType user content) permitted [] (s.createType user content) := by
  refine (guarded_write (send_asks s.channel _) may).bind fun id => ?_
  cases id with
  | null => exact (reading_log _).bind fun _ => reading_of_idle (idle_finish _)
  | _ => exact reading_readBack s types _ _

theorem store_updateType_guarded (id : Cell) (user : Int) (content : ThingType.Content) :
    Guarded (.updateType id user content) permitted [] (s.updateType id user content) := by
  refine (guarded_write (change_asks types s _ _ _) may).bind fun _ => ?_
  exact reading_readBack s types _ _

theorem store_delete_guarded (c : Collection Item Line) (id : Cell) (user : Int) :
    Guarded (.softDelete c.table id user) permitted [] (c.delete s id user) :=
  guarded_write (delete_asks c s id user) may

end Writes

/-! ## The tasks -/

section Tasks

variable (r : Registry) (caller : Caller)

theorem createThing_guarded (content : Thing.Content) :
    Guarded (.insertThing caller.userId content) (r.Accepts content.name)
      ((Task.createThing content).checks caller) (r.createThing caller content) := by
  rw [createThing_eq]
  refine guarded_name r id fun named => ?_
  refine guarded_type r ?_
  refine guarded_absent r ?_
  refine (store_createThing_guarded r.store named caller.userId content).bind fun _ => ?_
  exact (reading_log _).bind fun _ => reading_of_idle (idle_finish _)

theorem updateThing_guarded (id : Uuid) (content : Thing.Content) :
    Guarded (.updateThing (.uuid id) caller.userId content) (r.Accepts content.name)
      ((Task.updateThing id content).checks caller) (r.updateThing caller id content) := by
  refine guarded_row r (c := things) ?_
  refine guarded_owner r ?_
  refine guarded_name r (fun named => named) fun named => ?_
  refine guarded_type r ?_
  exact store_updateThing_guarded r.store named (.uuid id) caller.userId content

theorem deleteThing_guarded (id : Uuid) :
    Guarded (.softDelete .things (.uuid id) caller.userId) True
      ((Task.deleteThing id).checks caller) (r.deleteThing caller id) := by
  refine guarded_row r (c := things) ?_
  refine guarded_owner r ?_
  refine (store_delete_guarded r.store trivial things (.uuid id) caller.userId).bind fun _ => ?_
  exact reading_log _

theorem createType_guarded (content : ThingType.Content) :
    Guarded (.insertType caller.userId content) (caller.isAdmin = true ∧ r.Accepts content.name)
      ((Task.createType content).checks caller) (r.createType caller content) := by
  refine guarded_admin (fun may => may.1) fun admin => ?_
  refine guarded_name r (fun may => may.2) fun named => ?_
  refine (store_createType_guarded r.store ⟨admin, named⟩ caller.userId content).bind fun _ => ?_
  exact (reading_log _).bind fun _ => reading_of_idle (idle_finish _)

theorem updateType_guarded (id : Int) (content : ThingType.Content) :
    Guarded (.updateType (.int id) caller.userId content)
      (caller.isAdmin = true ∧ r.Accepts content.name)
      ((Task.updateType id content).checks caller) (r.updateType caller id content) := by
  refine guarded_admin (fun may => may.1) fun admin => ?_
  refine guarded_row r (c := types) ?_
  refine guarded_name r (fun may => may.2) fun named => ?_
  exact store_updateType_guarded r.store ⟨admin, named⟩ (.int id) caller.userId content

theorem deleteType_guarded (id : Int) :
    Guarded (.softDelete .types (.int id) caller.userId) (caller.isAdmin = true)
      ((Task.deleteType id).checks caller) (r.deleteType caller id) := by
  refine guarded_admin (fun may => may) fun admin => ?_
  refine guarded_row r (c := types) ?_
  refine (store_delete_guarded r.store admin types (.int id) caller.userId).bind fun _ => ?_
  exact reading_log _

theorem reading_present {Item Line : Type} (c : Collection Item Line) (id : Cell) :
    Reading (r.present c id) := by
  refine (reading_of_asks (requireRow_asks r c id) rfl).bind fun _ => ?_
  exact reading_of_asks ((get_asks c r.store id).ifNoRows (idle_finish _)) rfl

end Tasks

namespace Task

variable (r : Registry) (caller : Caller)

/-- **A task that may write is guarded by its checks.** -/
theorem perform_guarded {t : Task} {w : Command} (writes : t.write? caller = some w) :
    Guarded w (t.Permitted r caller) (t.checks caller) (t.perform r caller) := by
  cases t with
  | createThing content => cases writes; exact createThing_guarded r caller content
  | updateThing id content => cases writes; exact updateThing_guarded r caller id content
  | deleteThing id => cases writes; exact deleteThing_guarded r caller id
  | createType content => cases writes; exact createType_guarded r caller content
  | updateType id content => cases writes; exact updateType_guarded r caller id content
  | deleteType id => cases writes; exact deleteType_guarded r caller id
  | _ => cases writes

/-- **Every other task only reads.** -/
theorem perform_reading {t : Task} (writes : t.write? caller = none) :
    Reading (t.perform r caller) := by
  cases t with
  | getThing id => exact reading_present r things _
  | listThings filters offset limit =>
      exact reading_of_asks (orEmpty_asks (list_asks things r.store filters offset limit)) rfl
  | listThingsByExternalId externalId offset limit =>
      exact reading_of_asks (orEmpty_asks (listByColumn_asks things r.store _ _ offset limit)) rfl
  | countThings filters => exact reading_of_asks (collection_count_asks things r.store filters) rfl
  | thingFeatures filters offset limit =>
      exact reading_of_asks (thingFeatures_asks r filters offset limit) rfl
  | getType id =>
      refine (reading_of_idle (requireAdmin_idle caller)).bind fun _ => ?_
      exact reading_present r types _
  | listTypes filters offset limit =>
      exact reading_of_asks (orEmpty_asks (list_asks types r.store filters offset limit)) rfl
  | countTypes filters => exact reading_of_asks (collection_count_asks types r.store filters) rfl
  | requireTypes => exact reading_of_asks (requireTypes_asks r.store) rfl
  | _ => cases writes

/-- The first thing that is asked of the caller of an administrator's task. -/
theorem perform_refused {t : Task} (admin : t.needsAdmin = true) (other : caller.isAdmin = false) :
    Runs (t.perform r caller) [] (.error (.refusal .adminRequired)) := by
  have refused : Runs (requireAdmin caller) [] (.error (.refusal .adminRequired)) := by
    refine (requireAdmin_idle caller _ _).2 ⟨rfl, ?_⟩
    simp [Caller.requireAdmin, other, Except.mapError]
  cases t with
  | createType content => exact runs_bind_iff.2 (.inl ⟨_, rfl, refused⟩)
  | updateType id content => exact runs_bind_iff.2 (.inl ⟨_, rfl, refused⟩)
  | deleteType id => exact runs_bind_iff.2 (.inl ⟨_, rfl, refused⟩)
  | getType id => exact runs_bind_iff.2 (.inl ⟨_, rfl, refused⟩)
  | _ => cases admin

/-- In a run of a task nothing is written, or its one write is, behind its checks. -/
theorem shape {t : Task} {h : List (Exchange Command)} {o : Except Failure t.Result}
    (ran : Runs (t.perform r caller) h o) :
    OnlyReads h ∨ ∃ w before reply after, h = before ++ ⟨w, reply⟩ :: after ∧
      t.write? caller = some w ∧ t.Permitted r caller ∧ AllPassed (t.checks caller) before ∧
      OnlyReads before ∧ OnlyReads after := by
  cases writes : t.write? caller with
  | none => exact .inl (perform_reading r caller writes _ _ ran)
  | some w =>
      rcases (perform_guarded r caller writes).gate _ _ ran with
        only | ⟨before, reply, after, whole, rest⟩
      · exact .inl only
      · exact .inr ⟨w, before, reply, after, whole, rfl, rest⟩

/-- A task that changes a thing that is there, or deletes it, asks who owns it. -/
theorem owner_check {t : Task} {q : Command} {cell : Cell} (writes : t.write? caller = some q)
    (changes : (∃ user content, q = .updateThing cell user content) ∨
      ∃ user, q = .softDelete .things cell user) :
    ∃ id, cell = .uuid id ∧
      ⟨.isOwner .things (.uuid id) caller.userId, true⟩ ∈ t.checks caller := by
  rcases changes with ⟨user, content, rfl⟩ | ⟨user, rfl⟩
  · cases t with
    | updateThing id content' =>
        cases writes
        exact ⟨id, rfl, by simp [checks]⟩
    | _ => simp [write?] at writes
  · cases t with
    | deleteThing id =>
        cases writes
        exact ⟨id, rfl, by simp [checks]⟩
    | _ => simp [write?] at writes

/-- A task that is about to write has come by its checks. -/
theorem about_to_write {t : Task} {past : List (Exchange Command)} {q : Command}
    {next : Reply → Dialogue Command t.Result}
    (reached : Reaches (t.perform r caller) past (.ask q next)) (wrote : q.writes = true) :
    t.write? caller = some q ∧ t.Permitted r caller ∧ AllPassed (t.checks caller) past := by
  -- whatever is answered from here on makes a run, and the gate is a law of runs
  have ran := reached.continues (fun _ => .returned .null) []
  simp only [exchanges] at ran
  rcases shape r caller ran with only | ⟨w, before, reply, after, whole, writes, may, all, low, high⟩
  · have reads := only ⟨q, .returned .null⟩ (by simp)
    simp [reads] at wrote
  · obtain ⟨rfl, same⟩ := low.first_write high whole.symm wrote
    cases same
    exact ⟨writes, may, all⟩

/-- **Nothing is written before every check has passed.**  Whatever comes back for the
questions, at most one statement that is sent writes; it is the write of the task, its
conditions hold, and what was exchanged before it are its checks, all passed.  Where
they did pass the write is sent next, and who is no administrator gets nowhere with the
tasks for administrators. -/
theorem writes_only_after_checks (silence : Command → Reply) (replies : List Reply) (t : Task) :
    ((t.exchanged r caller silence replies).filter
        fun e => (r.store.statement e.question).isWrite).length ≤ 1 ∧
      (∀ before e after, t.exchanged r caller silence replies = before ++ e :: after →
        (r.store.statement e.question).isWrite = true →
        t.write? caller = some e.question ∧ t.Permitted r caller ∧
          AllPassed (t.checks caller) before) ∧
      (∀ w before, t.write? caller = some w → t.Permitted r caller →
        AllPassed (t.checks caller) before →
        ∃ reply after, t.exchanged r caller silence (before.map Exchange.reply ++ replies) =
          before ++ ⟨w, reply⟩ :: after) ∧
      (t.needsAdmin = true → caller.isAdmin = false →
        t.exchanged r caller silence replies = [] ∧
          t.ended r caller silence replies = .error (.refusal .adminRequired)) := by
  have ran := runs_exchanges silence (t.perform r caller) replies
  simp only [isWrite_statement]
  refine ⟨?_, ?_, ?_, ?_⟩
  · rcases shape r caller ran with only | ⟨w, before, reply, after, whole, -, -, -, low, high⟩
    · simp [exchanged, only.filter_eq]
    · rw [exchanged, whole, List.filter_append, List.filter_cons, low.filter_eq, high.filter_eq]
      cases w.writes <;> simp
  · intro before e after whole wrote
    rcases shape r caller ran with
      only | ⟨w, before', reply, after', whole', writes, may, all, low, high⟩
    · have member : e ∈ t.exchanged r caller silence replies := by simp [whole]
      simp [only e member] at wrote
    · obtain ⟨rfl, rfl⟩ := low.first_write high (whole'.symm.trans whole) wrote
      exact ⟨writes, may, all⟩
  · intro w before writes may all
    obtain ⟨next, reached⟩ := (perform_guarded r caller writes).opens may before all
    rw [exchanged, reached.exchanges_eq]
    cases replies with
    | nil => exact ⟨_, _, rfl⟩
    | cons reply rest => exact ⟨_, _, rfl⟩
  · intro admin other
    obtain ⟨none_, ended, -⟩ := (perform_refused r caller admin other).exchanges_eq silence replies
    exact ⟨none_, ended⟩

/-- An administrator deletes a type that is there. -/
theorem administrator_deletes_type :
    ∃ reply after, (deleteType 3).exchanged {} { userId := 7, isAdmin := true }
        (fun _ => .returned .null) [.returned (.int 1), .returned (.text "UPDATE 1")] =
      [⟨.exist .types (.int 3), .returned (.int 1)⟩] ++
        ⟨.softDelete .types (.int 3) 7, reply⟩ :: after := by
  have gate := writes_only_after_checks {} { userId := 7, isAdmin := true }
    (fun _ => .returned .null) [.returned (.text "UPDATE 1")] (deleteType 3)
  refine gate.2.2.1 _ [⟨.exist .types (.int 3), .returned (.int 1)⟩] rfl rfl ?_
  exact .cons ⟨rfl, _, 1, rfl, rfl, by simp⟩ .nil

end Task

end GeoRegistry.Registry
