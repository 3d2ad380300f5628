/-
# Proofs.Service.Discretion -- what is said of a failure stays inside

Two lists of replies are alike when they differ in nothing but what failures say of
themselves.  A dialogue tells them apart only at a failed statement
(`exchanges_alike`), and an orderly one ends there, so what is shown of its outcome is
the same (`Orderly.discreet`).  Readiness has a rule of its own for failures and is
discreet as well.  Every layer of the service passes this on, up to the response.

A task that ends in an internal refusal is answered with a fixed text, whatever the
refusal says (`conclude_internal`).
-/
import GeoRegistry.Proofs.FailStop
import GeoRegistry.Proofs.Service.Admission

namespace GeoRegistry

set_option autoImplicit false

open Http Dialogue
open Registry (Task Orderly translated)
open Store (Command Pools)

/-! ## Replies that differ in words -/

/-- The same is answered, or the same kind of failure; only what a failure says may
differ. -/
inductive Reply.Alike : Reply → Reply → Prop where
  | returned (v : Cell) : Alike (.returned v) (.returned v)
  | failed {f f' : StatementFailure} (same : f'.fault = f.fault) : Alike (.failed f) (.failed f')

/-- Two requests come in alike: whatever fails, fails in the same way. -/
structure Occasion.Alike (o o' : Occasion) : Prop where
  now : o'.now = o.now
  id : o'.id = o.id
  pools : o'.pools = o.pools
  opening : o'.opening.map StatementFailure.fault = o.opening.map StatementFailure.fault
  replies : List.Forall₂ Reply.Alike o.replies o'.replies

namespace Dialogue

variable {ε α : Type}

/-- **Replies that are alike make the same run**, or two that part where a statement fails. -/
theorem exchanges_alike (silence : ε → Reply) (d : Dialogue ε α) {replies replies' : List Reply}
    (alike : List.Forall₂ Reply.Alike replies replies') :
    (d.run silence replies').outcome = (d.run silence replies).outcome ∨
      ∃ before q f f' after after', f'.fault = f.fault ∧
        d.exchanges silence replies = before ++ ⟨q, .failed f⟩ :: after ∧
        d.exchanges silence replies' = before ++ ⟨q, .failed f'⟩ :: after' := by
  induction d generalizing replies replies' with
  | finish outcome => exact .inl rfl
  | note entry next ih => exact ih alike
  | ask q next ih =>
      cases alike with
      | nil => exact .inl rfl
      | cons first others =>
          cases first with
          | failed same => exact .inr ⟨[], q, _, _, _, _, same, rfl, rfl⟩
          | returned v =>
              rcases ih (.returned v) others with
                same | ⟨before, q', f, f', after, after', same, split, split'⟩
              · exact .inl same
              · refine .inr ⟨⟨q, .returned v⟩ :: before, q', f, f', after, after', same, ?_, ?_⟩
                · simp [exchanges, split]
                · simp [exchanges, split']

end Dialogue

/-! ## What is shown -/

/-- The response that an outcome is answered with, if a rule foresees it. -/
def Http.Response.shown (o : Except Failure Response) : Option Response :=
  match o.bind sendable with
  | .ok response => some response
  | .error e => ofFailure? e

/-- What the response says is what the outcome shows. -/
theorem Service.conclude_response (o : Occasion) (r : Request) (headers : List (String × String))
    (h : Handled) :
    (conclude o r headers h).response =
      ((Response.shown h.outcome).map
        (·.adding (headers ++ [("x-request-id", o.id.text)]))).getD .broken := by
  unfold conclude Response.shown
  cases h.outcome.bind Response.sendable with
  | ok response => rfl
  | error e => cases shown : Response.ofFailure? e <;> simp [shown]

/-- Nothing that a failure says is shown of what a statement ends in. -/
theorem Registry.shown_translated (q : Command) {f f' : StatementFailure}
    (same : f'.fault = f.fault) :
    Response.shown (.error (translated q f')) = Response.shown (.error (translated q f)) := by
  obtain ⟨fault, message⟩ := f
  obtain ⟨fault', message'⟩ := f'
  obtain rfl : fault' = fault := same
  cases q <;> cases fault' <;> rfl

/-! ## Discreet dialogues -/

/-- Replies that are alike show the same in the end. -/
def Dialogue.Discreet (d : Dialogue Command Response) : Prop :=
  ∀ silence replies replies', List.Forall₂ Reply.Alike replies replies' →
    Response.shown (d.run silence replies').outcome = Response.shown (d.run silence replies).outcome

/-- A dialogue is discreet if a failed statement decides how it ends, and what it says does
not show. -/
theorem Dialogue.discreet_of_stops {d : Dialogue Command Response}
    (ending : Command → StatementFailure → Except Failure Response)
    (stops : ∀ h o, Runs d h o → ∀ before q f after, h = before ++ ⟨q, .failed f⟩ :: after →
      o = ending q f)
    (blind : ∀ q f f', f'.fault = f.fault →
      Response.shown (ending q f') = Response.shown (ending q f)) : d.Discreet := by
  intro silence replies replies' alike
  rcases exchanges_alike silence d alike with
    same | ⟨before, q, f, f', after, after', same, split, split'⟩
  · rw [same]
  · rw [stops _ _ (runs_exchanges silence d replies) before q f after split,
      stops _ _ (runs_exchanges silence d replies') before q f' after' split']
    exact blind q f f' same

/-- **What is orderly is discreet.** -/
theorem Registry.Orderly.discreet {d : Dialogue Command Response} (orderly : Orderly d) :
    d.Discreet :=
  discreet_of_stops (fun q f => .error (translated q f)) (fun h o ran before q f after whole =>
    (orderly.stops h o ran before q f after whole).2) fun q _ _ => Registry.shown_translated q

/-! ## The actions -/

namespace Action

variable (s : Settings)

/-- The task of an action. -/
def task : Action → Task
  | .listThings filters page => .listThings filters (.int page.offset) (limit page s.thingPage)
  | .thingFeatures filters page =>
      .thingFeatures filters (.int page.offset) (limit page s.thingPage)
  | .countThings filters => .countThings filters
  | .listThingsByExternalId externalId page =>
      .listThingsByExternalId (.int externalId) (.int page.offset) (limit page s.thingPage)
  | .createThing content => .createThing content
  | .getThing id => .getThing id
  | .updateThing id content => .updateThing id content
  | .deleteThing id => .deleteThing id
  | .listTypes filters page => .listTypes filters (.int page.offset) (limit page s.typePage)
  | .countTypes filters => .countTypes filters
  | .createType content => .createType content
  | .getType id => .getType id
  | .updateType id content => .updateType id content
  | .deleteType id => .deleteType id

/-- The response to what a task resulted in. -/
def rendered : (a : Action) → (a.task s).Result → Except Failure Response
  | .listThings .., lines => .ok (items Thing.Summary.shape lines)
  | .thingFeatures .., document => collection document
  | .countThings _, n => .ok (counted n)
  | .listThingsByExternalId .., lines => .ok (items Thing.Summary.shape lines)
  | .createThing _, thing => .ok (item Thing.shape 201 thing)
  | .getThing _, thing => .ok (item Thing.shape 200 thing)
  | .updateThing .., thing => .ok (item Thing.shape 200 thing)
  | .deleteThing _, _ => .ok .noContent
  | .listTypes .., lines => .ok (items ThingType.Summary.shape lines)
  | .countTypes _, n => .ok (counted n)
  | .createType _, made => .ok (item ThingType.shape 201 made)
  | .getType _, made => .ok (item ThingType.shape 200 made)
  | .updateType .., made => .ok (item ThingType.shape 200 made)
  | .deleteType _, _ => .ok .noContent

/-- To perform an action is to do its task and to show what came of it. -/
theorem perform_eq (caller : Caller) (a : Action) :
    a.perform s caller =
      (a.task s).perform s.registry caller >>= fun result => .ofExcept (a.rendered s result) := by
  cases a <;> rfl

theorem definite_rendered (a : Action) (result : (a.task s).Result) :
    Store.Definite (a.rendered s result) := by
  cases a with
  | thingFeatures filters page =>
      simp only [rendered, collection]
      split
      · exact Store.definite_ok _
      · exact Store.definite_error (by simp)
  | _ => exact Store.definite_ok _

theorem perform_orderly (caller : Caller) (a : Action) : Orderly (a.perform s caller) := by
  rw [perform_eq]
  exact (Registry.perform_orderly s.registry caller (a.task s)).bind fun result =>
    Registry.orderly_of_idle (idle_finish _) (definite_rendered s a result)

end Action

/-! ## The layers of the service -/

namespace Service

variable {s : Service} {o o' : Occasion} {r : Request}

theorem operate_discreet (op : Operation) (i : Incoming) (caller : Caller) :
    (s.operate op i caller).Discreet := by
  unfold operate
  cases op.read i with
  | refused issues => exact fun _ _ _ _ => rfl
  | accepted action => exact (Action.perform_orderly s.settings caller action).discreet

/-- What readiness makes of a failure. -/
def unready : Failure → Except Failure Response
  | .refused _ => .ok (.state 503 "not ready")
  | e => .error e

/-- What readiness makes of the answer to its probe. -/
def stateOf (reply : Reply) : Except Failure Response :=
  ((Store.settled reply).bind fun _ => .ok (.state 200 "ready")).tryCatch unready

theorem readiness_asks : AsksOnce s.readiness .probe stateOf := by
  have probed := (Store.send_asks s.settings.store.channel .probe).bind fun _ =>
    idle_finish (.ok (Response.state 200 "ready"))
  refine probed.orElse fun e => ?_
  cases e with
  | refused e => exact (idle_finish _).note _
  | _ => exact idle_finish _

/-- Readiness tells no more of a failed probe than that it failed. -/
theorem readiness_discreet : s.readiness.Discreet := by
  refine discreet_of_stops (fun _ f => stateOf (.failed f)) ?_ ?_
  · intro h o ran before q f after whole
    obtain ⟨reply, rfl, rfl⟩ := (readiness_asks _ _).1 ran
    obtain ⟨rfl, ⟨rfl, rfl⟩, rfl⟩ : before = [] ∧ (q = .probe ∧ .failed f = reply) ∧ after = [] := by
      simpa [List.cons_eq_append_iff] using whole
    rfl
  · intro q f f' same
    obtain ⟨fault, message⟩ := f
    obtain ⟨fault', message'⟩ := f'
    obtain rfl : fault' = fault := same
    cases fault' <;> rfl

/-- A pool is there in both cases, or its opening failed and nothing is shown. -/
theorem opened_alike (alike : o.Alike o') :
    (o'.pools.get (.ok s.settings) o'.opening).outcome =
        (o.pools.get (.ok s.settings) o.opening).outcome ∨
      ∃ f f', (o.pools.get (.ok s.settings) o.opening).outcome = .error (.interrupted f) ∧
        (o'.pools.get (.ok s.settings) o'.opening).outcome = .error (.interrupted f') := by
  have fault := alike.opening
  rw [alike.pools]
  unfold Pools.get
  cases o.pools.current with
  | some n => exact .inl rfl
  | none =>
      cases opening : o.opening with
      | none =>
          obtain opening' : o'.opening = none := by simpa [opening] using fault
          rw [opening']
          exact .inl rfl
      | some f =>
          obtain ⟨f', opening', -⟩ : ∃ f', o'.opening = some f' ∧ f'.fault = f.fault := by
            simpa [opening] using fault
          rw [opening']
          exact .inr ⟨f, f', rfl, rfl⟩

theorem withStore_shown (alike : o.Alike o') {work : Dialogue Command Response}
    (discreet : work.Discreet) :
    Response.shown (s.withStore o' work).outcome = Response.shown (s.withStore o work).outcome := by
  unfold withStore
  rcases opened_alike (s := s) alike with same | ⟨f, f', failed, failed'⟩
  · simp only [same]
    cases (o.pools.get (.ok s.settings) o.opening).outcome with
    | error e => rfl
    | ok _ => exact discreet _ _ _ alike.replies
  · simp only [failed, failed']
    rfl

theorem withCaller_shown (alike : o.Alike o') {work work' : Caller → Handled}
    (same : ∀ caller, Response.shown (work' caller).outcome = Response.shown (work caller).outcome) :
    Response.shown (s.withCaller o' r work').outcome =
      Response.shown (s.withCaller o r work).outcome := by
  unfold withCaller
  rw [alike.now]
  generalize (s.caller o.now r : Dialogue Empty Caller).run _ [] = admission
  cases known : admission.outcome with
  | error e => simp only [known]
  | ok caller =>
      simp only [known]
      exact same caller

theorem withDocument_shown {work work' : Document → Handled}
    (same : ∀ document,
      Response.shown (work' document).outcome = Response.shown (work document).outcome) :
    Response.shown (o'.withDocument r work').outcome =
      Response.shown (o.withDocument r work).outcome := by
  unfold Occasion.withDocument
  cases Document.ofRequest r with
  | ok document => exact same document
  | error fault => cases fault <;> rfl

/-- **Every endpoint is discreet.** -/
theorem visit_shown (alike : o.Alike o') (path : Record) (endpoint : Endpoint) :
    Response.shown (s.visit o' r path endpoint).outcome =
      Response.shown (s.visit o r path endpoint).outcome := by
  cases endpoint with
  | login =>
      refine withDocument_shown fun document => ?_
      rw [alike.now]
      rfl
  | status => exact withCaller_shown alike fun _ => rfl
  | readiness => exact withStore_shown alike readiness_discreet
  | operation op =>
      have worked (document : Document) :
          Response.shown (s.withCaller o' r fun caller =>
              s.withStore o' (s.operate op ⟨path, r.parameters, document⟩ caller)).outcome =
            Response.shown (s.withCaller o r fun caller =>
              s.withStore o (s.operate op ⟨path, r.parameters, document⟩ caller)).outcome :=
        withCaller_shown alike fun caller => withStore_shown alike (operate_discreet op _ caller)
      simp only [visit]
      split
      · exact withDocument_shown worked
      · exact worked none
  | _ => rfl

theorem handle_shown (alike : o.Alike o') :
    Response.shown (s.handle o' r).outcome = Response.shown (s.handle o r).outcome := by
  unfold handle
  cases Route.resolve (Endpoint.routes s.settings.apiPrefix) r with
  | error e => rfl
  | ok resolution =>
      cases resolution with
      | found endpoint path => exact visit_shown alike path endpoint
      | _ => rfl

theorem serve_discreet (alike : o.Alike o') :
    (s.serve o' r).response = (s.serve o r).response := by
  unfold serve
  cases s.settings.crossOrigin.preflight? r with
  | some response =>
      rw [conclude_response, conclude_response, alike.id]
      rfl
  | none =>
      simp only
      rw [conclude_response, conclude_response, alike.id, handle_shown alike]

/-! ## Internal refusals -/

/-- A request gets as far as an action of a caller: it is no preflight, it leads to an
operation that accepts its parameters and its document, the caller is known, and there is a
pool. -/
structure Comes (s : Service) (o : Occasion) (r : Request) (caller : Caller) (action : Action) :
    Prop where
  plain : s.settings.crossOrigin.preflight? r = none
  led : ∃ op path document,
    Route.resolve (Endpoint.routes s.settings.apiPrefix) r = .ok (.found (.operation op) path) ∧
      (if op.takesDocument then Document.ofRequest r else .ok none) = .ok document ∧
      op.read ⟨path, r.parameters, document⟩ = .accepted action
  known : Idle (s.caller o.now r : Dialogue Empty Caller) (.ok caller)
  opened : (o.pools.get (.ok s.settings) o.opening).outcome = .ok ()

/-- What comes of the request is what comes of the action. -/
theorem Comes.handled {caller : Caller} {action : Action} (comes : s.Comes o r caller action) :
    (s.handle o r).outcome =
        ((action.perform s.settings caller).run s.settings.store.silence o.replies).outcome ∧
      (s.handle o r).asked =
        ((action.perform s.settings caller).run s.settings.store.silence o.replies).asked := by
  obtain ⟨op, path, document, found, read, accepted⟩ := comes.led
  have admitted (silence : Empty → Reply) :
      ((s.caller o.now r : Dialogue Empty Caller).run silence []).outcome = .ok caller :=
    ((comes.known _ _).1 (runs_exchanges silence _ [])).2
  have worked : (s.withCaller o r fun caller =>
      s.withStore o (s.operate op ⟨path, r.parameters, document⟩ caller)).outcome =
        ((action.perform s.settings caller).run s.settings.store.silence o.replies).outcome ∧
      (s.withCaller o r fun caller =>
        s.withStore o (s.operate op ⟨path, r.parameters, document⟩ caller)).asked =
          ((action.perform s.settings caller).run s.settings.store.silence o.replies).asked := by
    simp only [withCaller, admitted, withStore, comes.opened, operate, accepted, and_self]
  simp only [handle, found, visit]
  by_cases takes : op.takesDocument = true
  · rw [if_pos takes] at read
    simp only [takes, if_true, Occasion.withDocument, read, worked, and_self]
  · rw [if_neg takes] at read
    obtain rfl := Except.ok.inj read
    simp only [takes, Bool.false_eq_true, if_false, worked, and_self]

/-- An internal refusal is answered with a fixed text. -/
theorem conclude_internal {headers : List (String × String)} {h : Handled} {e : DomainError}
    (ended : h.outcome = .error (.refused e)) (internal : e.refusal.isInternal = true) :
    (conclude o r headers h).response.status = 500 ∧
      (conclude o r headers h).response.body =
        .json (.object [("code", .text "internal"), ("detail", .text "internal error")]) := by
  obtain ⟨refusal, detail, causes⟩ := e
  rw [conclude_response, ended]
  cases refusal with
  | internal => exact ⟨rfl, rfl⟩
  | storage => exact ⟨rfl, rfl⟩
  | _ => cases internal

end Service

/-- **What failures say stays inside.**  A request is answered with one and the same response,
whatever is said of the statements that fail and of a pool that cannot be opened; only how
they fail counts.  If the task of a request ends in an internal refusal, then the response
has status 500 and says that it is an internal error, and nothing else. -/
theorem failure_texts_stay_inside (s : Service) (r : Request) :
    (∀ o o' : Occasion, o.Alike o' → (s.serve o' r).response = (s.serve o r).response) ∧
    (∀ o caller action e, s.Comes o r caller action →
      (action.task s.settings).ended s.settings.registry caller s.settings.store.silence o.replies =
        .error (.refused e) →
      e.refusal.isInternal = true →
      (s.serve o r).response.status = 500 ∧
        (s.serve o r).response.body =
          .json (.object [("code", .text "internal"), ("detail", .text "internal error")])) := by
  refine ⟨fun o o' alike => Service.serve_discreet alike, ?_⟩
  intro o caller action e comes ended internal
  have handled : (s.handle o r).outcome = .error (.refused e) := by
    rw [comes.handled.1, Action.perform_eq]
    exact run_bind_error ended _
  rw [Service.serve, comes.plain]
  exact Service.conclude_internal handled internal

/-- A request for a type. -/
def typeThree : Request where
  method := "GET"
  path := "/goapi/v1/types/3"

/-- The database fails and says why. -/
def failingOccasion (message : String) : Occasion :=
  { firstOccasion with replies := [.failed ⟨.postgres, message⟩] }

/-- The database fails for different reasons, and the client hears of neither. -/
theorem failing_lookup_says_nothing :
    (failingOccasion "no such table").Alike (failingOccasion "disk full") ∧
      trustingService.Comes (failingOccasion "disk full") typeThree { userId := 7, isAdmin := true }
        (.getType 3) ∧
      (trustingService.serve (failingOccasion "disk full") typeThree).response =
        (trustingService.serve (failingOccasion "no such table") typeThree).response ∧
      (trustingService.serve (failingOccasion "disk full") typeThree).response.status = 500 ∧
      (trustingService.serve (failingOccasion "disk full") typeThree).response.body =
        .json (.object [("code", .text "internal"), ("detail", .text "internal error")]) := by
  obtain ⟨discreet, internal⟩ := failure_texts_stay_inside trustingService typeThree
  have alike : (failingOccasion "no such table").Alike (failingOccasion "disk full") :=
    ⟨rfl, rfl, rfl, rfl, .cons (.failed rfl) .nil⟩
  have found : Route.resolve (Endpoint.routes trustingService.settings.apiPrefix) typeThree =
      .ok (.found (.operation .getType) [("type_thing_id", .text "3")]) := by rfl
  have comes : trustingService.Comes (failingOccasion "disk full") typeThree
      { userId := 7, isAdmin := true } (.getType 3) :=
    ⟨rfl, ⟨.getType, _, none, found, rfl, rfl⟩, idle_finish _, rfl⟩
  exact ⟨alike, comes, discreet _ _ alike,
    internal _ _ _ ⟨.storage, "storage failure", [.statement ⟨.postgres, "disk full"⟩]⟩ comes rfl rfl⟩

end GeoRegistry
