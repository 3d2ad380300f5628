/-
# Proofs.Service.Bodies -- what of a request body counts

A document counts by the fields that its operation declares, and for a thing that is
updated by all of them but the id (`Operation.counted`).  Two bodies that are both accepted
and agree on what counts are one to the registry: the dialogues have one phrasing
(`operate_phrased`), and so have the exchanges over HTTP (`serve_alike`).

What a write puts into the columns of the user comes from the caller, and an update of a
thing knows no id but that of its path (`updates_by_path`).
-/
import GeoRegistry.Proofs.Http.Document
import GeoRegistry.Proofs.Store.Phrasing
import GeoRegistry.Proofs.Store.Stamps
import GeoRegistry.Proofs.Validation.Agreement
import GeoRegistry.Proofs.WriteGate
import GeoRegistry.Service.Serving

namespace GeoRegistry

set_option autoImplicit false

open Http Dialogue
open Registry (Task)
open Store (Command Statement)

/-! ## What counts -/

namespace Operation

/-- The fields that the document of an operation declares. -/
def declared : Operation → List String
  | .createThing | .updateThing => Thing.Content.names
  | .createType | .updateType => ThingType.Content.names
  | _ => []

/-- The fields that count: a thing that is updated keeps its id, whatever the document says. -/
def counted : Operation → List String
  | .updateThing => Thing.Content.names.erase "id"
  | op => op.declared

/-- The operation accepts the record as its document. -/
def Accepts (body : Record) : Operation → Prop
  | .createThing | .updateThing => ∃ c, Thing.Content.read body = .accepted c
  | .createType | .updateType => ∃ c, ThingType.Content.read body = .accepted c
  | _ => True

/-- The operation makes a new row. -/
def creates : Operation → Bool
  | .createThing | .createType => true
  | _ => false

end Operation

/-! ## Two bodies -/

/-- An update with another id in its content is phrased alike. -/
theorem Registry.phrased_updateThing (r : Registry) (caller : Caller) (id : Uuid)
    (content : Thing.Content) (other : Uuid) :
    (r.updateThing caller id { content with id := other }).phrased r.store.statement =
      (r.updateThing caller id content).phrased r.store.statement := by
  have same := Store.statement_updateThing r.store caller.userId (.uuid id) content other
  have changed := Store.phrased_change Store.things r.store "update affected no row" (.uuid id) same
  simp only [Registry.updateThing, Store.updateThing, phrased_bind, changed]

namespace Service

variable (s : Service)

/-- **Bodies that agree on what counts are phrased alike.** -/
theorem operate_phrased {op : Operation} {body body' : Record} (accepted : op.Accepts body)
    (accepted' : op.Accepts body') (agree : Record.AgreeOn op.counted body body')
    (path query : Record) (caller : Caller) :
    (s.operate op ⟨path, query, some (.record body')⟩ caller).phrased s.settings.store.statement =
      (s.operate op ⟨path, query, some (.record body)⟩ caller).phrased
        s.settings.store.statement := by
  cases op with
  | createThing =>
      obtain ⟨c, read⟩ := accepted
      obtain ⟨c', read'⟩ := accepted'
      have ids := both_required (agree "id" (by decide)) Scalar.uuid
      obtain ⟨same, rest⟩ := Thing.Content.both_read (agree.mono fun _ => List.mem_of_mem_erase)
        ids c c' read read'
      obtain rfl : c' = c := by rw [rest, ← same]
      simp only [operate, Operation.read, Document.read_accepted Thing.Content.shape read,
        Document.read_accepted Thing.Content.shape read']
  | updateThing =>
      obtain ⟨c, read⟩ := accepted
      obtain ⟨c', read'⟩ := accepted'
      obtain ⟨-, rest⟩ := Thing.Content.both_read (P := fun _ _ => True) agree
        (fun _ _ _ _ => trivial) c c' read read'
      have found := Document.read_accepted Thing.Content.shape read
      have found' := Document.read_accepted Thing.Content.shape read'
      simp only [operate, Operation.read, found, found', Incoming.identifier]
      cases (Record.required "thing_id" Scalar.uuid path).within (.name "path") with
      | refused issues => rfl
      | accepted id =>
          have same := s.settings.registry.phrased_updateThing caller id c c'.id
          rw [← rest] at same
          simp only [Checked.map_accepted, Checked.seq_accepted, Action.perform, phrased_bind]
          exact congrArg (· >>= _) same
  | createType =>
      obtain ⟨c, read⟩ := accepted
      obtain ⟨c', read'⟩ := accepted'
      obtain rfl := ThingType.Content.both_read agree c c' read read'
      simp only [operate, Operation.read, Document.read_accepted ThingType.Content.shape read,
        Document.read_accepted ThingType.Content.shape read']
  | updateType =>
      obtain ⟨c, read⟩ := accepted
      obtain ⟨c', read'⟩ := accepted'
      obtain rfl := ThingType.Content.both_read agree c c' read read'
      simp only [operate, Operation.read, Document.read_accepted ThingType.Content.shape read,
        Document.read_accepted ThingType.Content.shape read', Incoming.identifier]
  | _ => rfl

end Service

/-! ## Two requests -/

/-- What came of two requests is the same, with their commands put as statements. -/
structure Handled.Alike (words : Command → Statement) (h h' : Handled) : Prop where
  outcome : h'.outcome = h.outcome
  pools : h'.pools = h.pools
  asked : h'.asked.map words = h.asked.map words
  entries : h'.entries = h.entries

/-- Two exchanges are the same, with their commands put as statements. -/
structure Service.Exchange.Alike (words : Command → Statement) (e e' : Service.Exchange) :
    Prop where
  response : e'.response = e.response
  fault : e'.fault = e.fault
  pools : e'.pools = e.pools
  asked : e'.asked.map words = e.asked.map words
  entries : e'.entries = e.entries

namespace Service

variable {s : Service} {words : Command → Statement}

theorem withStore_alike {o : Occasion} {work work' : Dialogue Command Response}
    (same : work'.phrased s.settings.store.statement = work.phrased s.settings.store.statement) :
    Handled.Alike s.settings.store.statement (s.withStore o work) (s.withStore o work') := by
  cases opened : (o.pools.get (.ok s.settings) o.opening).outcome with
  | error e =>
      simp only [withStore, opened]
      exact ⟨rfl, rfl, rfl, rfl⟩
  | ok _ =>
      -- both runs are the run of the one phrasing
      have done := s.settings.store.run_statements work' o.replies
      rw [same, s.settings.store.run_statements work] at done
      simp only [withStore, opened]
      exact ⟨(congrArg Transcript.outcome done).symm, rfl, (congrArg Transcript.asked done).symm,
        congrArg (_ ++ ·) (congrArg Transcript.entries done).symm⟩

theorem withCaller_alike {o : Occasion} {r : Request} {work work' : Caller → Handled}
    (alike : ∀ caller, Handled.Alike words (work caller) (work' caller)) :
    Handled.Alike words (s.withCaller o r work) (s.withCaller o r work') := by
  unfold withCaller
  generalize (s.caller o.now r : Dialogue Empty Caller).run _ [] = admission
  cases known : admission.outcome with
  | error e =>
      simp only [known]
      exact ⟨rfl, rfl, rfl, rfl⟩
  | ok caller =>
      have one := alike caller
      simp only [known]
      exact ⟨one.outcome, one.pools, one.asked, congrArg (_ ++ ·) one.entries⟩

theorem conclude_alike {o : Occasion} {r : Request} {headers : List (String × String)}
    {h h' : Handled} (alike : Handled.Alike words h h') :
    Exchange.Alike words (conclude o r headers h) (conclude o r headers h') := by
  unfold conclude
  rw [alike.outcome]
  cases h.outcome.bind Response.sendable with
  | ok response =>
      exact ⟨rfl, rfl, alike.pools, alike.asked, by simp only [alike.entries]⟩
  | error e =>
      cases shown : Response.ofFailure? e with
      | some response =>
          simp only [shown]
          exact ⟨rfl, rfl, alike.pools, alike.asked, by simp only [alike.entries]⟩
      | none =>
          simp only [shown]
          exact ⟨rfl, rfl, alike.pools, alike.asked, by simp only [alike.entries]⟩

/-- **Requests whose bodies agree on what counts are answered alike**, and send the same
statements. -/
theorem serve_alike {o : Occasion} {r : Request} {op : Operation} {path : Record}
    (found : Route.resolve (Endpoint.routes s.settings.apiPrefix) r =
      .ok (.found (.operation op) path))
    (takes : op.takesDocument = true) {text : String} {body body' : Record}
    (said : Document.ofRequest r = .ok (some (.record body)))
    (said' : Document.ofRequest { r with body := text } = .ok (some (.record body')))
    (accepted : op.Accepts body) (accepted' : op.Accepts body')
    (agree : Record.AgreeOn op.counted body body') :
    Exchange.Alike s.settings.store.statement (s.serve o r)
      (s.serve o { r with body := text }) := by
  have found' : Route.resolve (Endpoint.routes s.settings.apiPrefix) { r with body := text } =
      .ok (.found (.operation op) path) := found
  have handled : Handled.Alike s.settings.store.statement (s.handle o r)
      (s.handle o { r with body := text }) := by
    simp only [handle, found, found', visit, takes, if_true, Occasion.withDocument, said, said']
    exact withCaller_alike fun caller =>
      withStore_alike (s.operate_phrased accepted accepted' agree path r.parameters caller)
  have before : s.settings.crossOrigin.preflight? { r with body := text } =
      s.settings.crossOrigin.preflight? r := rfl
  unfold serve
  rw [before]
  cases s.settings.crossOrigin.preflight? r with
  | some response => exact ⟨rfl, rfl, rfl, rfl, rfl⟩
  | none => exact conclude_alike (r := r) handled

end Service

/-! ## What is written -/

/-- A task that writes asks no other write. -/
theorem Registry.Task.asks_write (r : Registry) {caller : Caller} {t : Task} {w : Command}
    (writes : t.write? caller = some w) :
    Asks (fun q => q.writes = true → q = w) (t.perform r caller) := by
  intro h o ran e member wrote
  rcases (Task.perform_guarded r caller writes).gate h o ran with
    only | ⟨before, reply, after, rfl, -, -, low, high⟩
  · simp [only e member] at wrote
  · rcases List.mem_append.1 member with early | here
    · simp [low e early] at wrote
    · rcases List.mem_cons.1 here with rfl | late
      · rfl
      · simp [high e late] at wrote

/-- An operation asks what its actions do; parameters that are refused ask nothing. -/
theorem Service.operate_asks {s : Service} {op : Operation} {i : Incoming} {caller : Caller}
    {p : Command → Prop}
    (acts : ∀ action, op.read i = .accepted action → Asks p (action.perform s.settings caller)) :
    Asks p (s.operate op i caller) := by
  unfold Service.operate
  cases read : op.read i with
  | refused issues => exact (idle_finish _).asks
  | accepted action => exact acts action read

/-- The table that an operation on contents writes to. -/
def Operation.table (schema : String) : Operation → String
  | .createThing | .updateThing => Sql.ThingTable.table schema
  | _ => Sql.ThingTypeTable.table schema

/-- A statement of an operation says who writes: who creates a row has created it, and who
updates one has modified it, and neither its id nor who created or deleted it is touched. -/
def Operation.Stamps (op : Operation) (schema : String) (caller : Caller) (t : Statement) : Prop :=
  if op.creates then ∃ w, t.Creates (op.table schema) caller.userId w
  else ∃ id w, t.Revises (op.table schema) caller.userId id w

theorem Service.operate_stamps {s : Service} {op : Operation} (takes : op.takesDocument = true)
    (i : Incoming) (caller : Caller) :
    Asks (fun q => q.writes = true →
        op.Stamps s.settings.schema caller (s.settings.store.statement q))
      (s.operate op i caller) := by
  -- the one write of the task is stamped, and what follows the task asks nothing
  have stamped {t : Task} {w : Command} (writes : t.write? caller = some w)
      (this : op.Stamps s.settings.schema caller (s.settings.store.statement w)) :
      Asks (fun q => q.writes = true →
        op.Stamps s.settings.schema caller (s.settings.store.statement q))
        (t.perform s.settings.registry caller) := by
    intro h o ran e member wrote
    rw [Task.asks_write s.settings.registry writes h o ran e member wrote]
    exact this
  refine operate_asks fun action read => ?_
  cases op with
  | createThing =>
      obtain ⟨c, -, rfl⟩ := Checked.map_eq_accepted read
      refine (stamped (t := .createThing c) rfl ?_).bind fun _ => (idle_finish _).asks
      exact ⟨_, Store.insertThing_creates s.settings.store caller.userId c⟩
  | createType =>
      obtain ⟨c, -, rfl⟩ := Checked.map_eq_accepted read
      refine (stamped (t := .createType c) rfl ?_).bind fun _ => (idle_finish _).asks
      exact ⟨_, Store.insertType_creates s.settings.store caller.userId c⟩
  | updateThing =>
      obtain ⟨f, c, named, -, rfl⟩ := Checked.seq_eq_accepted read
      obtain ⟨id, -, rfl⟩ := Checked.map_eq_accepted named
      refine (stamped (t := .updateThing id c) rfl ?_).bind fun _ => (idle_finish _).asks
      exact ⟨_, _, Store.updateThing_revises s.settings.store caller.userId (.uuid id) c⟩
  | updateType =>
      obtain ⟨f, c, named, -, rfl⟩ := Checked.seq_eq_accepted read
      obtain ⟨id, -, rfl⟩ := Checked.map_eq_accepted named
      refine (stamped (t := .updateType id c) rfl ?_).bind fun _ => (idle_finish _).asks
      exact ⟨_, _, Store.updateType_revises s.settings.store caller.userId (.int id) c⟩
  | _ => cases takes

/-- **An update of a thing knows no id but that of its path**: every statement but the one
that asks for the type is about it. -/
theorem Service.updates_by_path (s : Service) {i : Incoming} {id : Uuid}
    (named : Record.required "thing_id" Scalar.uuid i.path = .accepted id) (caller : Caller) :
    Asks (fun q => (∃ n, q = .typeExists n) ∨
        (s.settings.store.statement q).args.head? = some (.uuid id))
      (s.operate .updateThing i caller) := by
  refine operate_asks fun action read => ?_
  obtain ⟨f, c, from_, -, rfl⟩ := Checked.seq_eq_accepted read
  obtain ⟨id', identified, rfl⟩ := Checked.map_eq_accepted from_
  obtain rfl : id = id' := by
    rw [Incoming.identifier, named] at identified
    exact Checked.accepted.inj identified
  refine Asks.bind ?_ fun _ => (idle_finish _).asks
  refine ((Registry.requireRow_asks _ Store.things _).asks (.inr rfl)).bind fun _ => ?_
  refine ((Registry.requireOwner_asks _ _ _ id caller).asks (.inr rfl)).bind fun _ => ?_
  refine (Registry.requireName_idle _ _).asks.bind fun _ => ?_
  refine ((Registry.requireType_asks _ _).asks (.inl ⟨_, rfl⟩)).bind fun _ => ?_
  refine ((idle_finish _).note _).asks.bind fun _ => ?_
  refine ((Store.change_asks Store.things _ _ _ _).asks (.inr rfl)).bind fun _ => ?_
  exact (Store.readBack_asks Store.things _ _ _).asks (.inr rfl)

/-- **No client writes what the registry says of a row.**  Accepted documents that agree on
what counts, which for an update of a thing leaves out the id, have one effect whatever else
they hold: for every caller, path and list of replies the same statements with the same
arguments are sent and the outcome is the same, and so it is for whole requests.  In every
run a write says who the caller is, and an update touches neither the id nor who created or
deleted the row; the row of a thing is found by the id of the path. -/
theorem audit_is_written_by_registry (s : Service) (op : Operation)
    (takes : op.takesDocument = true) :
    (∀ body body' : Record, op.Accepts body → op.Accepts body' →
      Record.AgreeOn op.counted body body' →
      ∀ (path query : Record) (caller : Caller) (replies : List Reply),
        ((s.operate op ⟨path, query, some (.record body')⟩ caller).run s.settings.store.silence
            replies).phrased s.settings.store.statement =
          ((s.operate op ⟨path, query, some (.record body)⟩ caller).run s.settings.store.silence
            replies).phrased s.settings.store.statement) ∧
    (∀ (o : Occasion) (r : Request) (text : String) (path body body' : Record),
      Route.resolve (Endpoint.routes s.settings.apiPrefix) r = .ok (.found (.operation op) path) →
      Document.ofRequest r = .ok (some (.record body)) →
      Document.ofRequest { r with body := text } = .ok (some (.record body')) →
      op.Accepts body → op.Accepts body' → Record.AgreeOn op.counted body body' →
      Service.Exchange.Alike s.settings.store.statement (s.serve o r)
        (s.serve o { r with body := text })) ∧
    ∀ (i : Incoming) (caller : Caller) (h : List (Exchange Command))
      (outcome : Except Failure Response), Runs (s.operate op i caller) h outcome →
      (∀ e ∈ h, (s.settings.store.statement e.question).isWrite = true →
        op.Stamps s.settings.schema caller (s.settings.store.statement e.question)) ∧
      (op = .updateThing → ∀ id,
        Record.required "thing_id" Scalar.uuid i.path = .accepted id →
        ∀ e ∈ h, (∃ n, e.question = .typeExists n) ∨
          (s.settings.store.statement e.question).args.head? = some (.uuid id)) := by
  refine ⟨fun body body' accepted accepted' agree path query caller replies => ?_,
    fun o r text path body body' found said said' accepted accepted' agree =>
      Service.serve_alike found takes said said' accepted accepted' agree,
    fun i caller h outcome ran => ⟨fun e member wrote => ?_, fun same id named e member => ?_⟩⟩
  · rw [← s.settings.store.run_statements, ← s.settings.store.run_statements,
      s.operate_phrased accepted accepted' agree]
  · rw [Store.isWrite_statement] at wrote
    exact Service.operate_stamps takes i caller h outcome ran e member wrote
  · subst same
    exact s.updates_by_path named caller h outcome ran e member

/-! ## A forged creator -/

/-- What a type of a name alone comes to. -/
def plainContent : ThingType.Content :=
  ⟨"Fontaine", none, none, none, none, none, false, none, none, none, none, "", none⟩

/-- A type as it is sent. -/
def plainType : Json :=
  .object [("name", .text "Fontaine")]

/-- The same type, with what only the registry may say. -/
def forgedType : Json :=
  .object [("created_by", .int 1), ("name", .text "Fontaine"), ("deleted", .bool true)]

/-- A request to make a type. -/
def typeRequest (v : Json) : Request where
  method := "POST"
  path := "/goapi/v1/types"
  headers := [("content-type", "application/json")]
  body := v.render Json.compact

/-- A service all of whose callers are one administrator. -/
def trustingService : Service where
  settings := .standard
  log := ⟨.info, false⟩
  identification := .always { userId := 7, isAdmin := true }

/-- A type that says who made it is taken for one that does not, in the dialogue and over
HTTP, and it was made by the caller. -/
theorem forged_creator_is_ignored :
    Operation.createType.takesDocument = true ∧
      Operation.createType.Accepts [("name", .text "Fontaine")] ∧
      Operation.createType.Accepts
        [("created_by", .int 1), ("name", .text "Fontaine"), ("deleted", .bool true)] ∧
      Record.AgreeOn Operation.createType.counted [("name", .text "Fontaine")]
        [("created_by", .int 1), ("name", .text "Fontaine"), ("deleted", .bool true)] ∧
      Route.resolve (Endpoint.routes trustingService.settings.apiPrefix) (typeRequest plainType) =
        .ok (.found (.operation .createType) []) ∧
      Document.ofRequest (typeRequest plainType) =
        .ok (some (.record [("name", .text "Fontaine")])) ∧
      Document.ofRequest (typeRequest forgedType) =
        .ok (some (.record
          [("created_by", .int 1), ("name", .text "Fontaine"), ("deleted", .bool true)])) ∧
      (∀ o : Occasion, Service.Exchange.Alike trustingService.settings.store.statement
        (trustingService.serve o (typeRequest plainType))
        (trustingService.serve o (typeRequest forgedType))) ∧
      ∃ h outcome, Runs (trustingService.operate .createType
          ⟨[], [], some (.record [("name", .text "Fontaine")])⟩ { userId := 7, isAdmin := true }) h
          outcome ∧
        ∃ e ∈ h, (trustingService.settings.store.statement e.question).isWrite = true ∧
          Operation.createType.Stamps "geothing" { userId := 7, isAdmin := true }
            (trustingService.settings.store.statement e.question) := by
  obtain ⟨-, requests, runs⟩ := audit_is_written_by_registry trustingService .createType rfl
  have accepted : Operation.createType.Accepts [("name", .text "Fontaine")] := ⟨_, rfl⟩
  have accepted' : Operation.createType.Accepts
      [("created_by", .int 1), ("name", .text "Fontaine"), ("deleted", .bool true)] := ⟨_, rfl⟩
  have agree : Record.AgreeOn Operation.createType.counted [("name", .text "Fontaine")]
      [("created_by", .int 1), ("name", .text "Fontaine"), ("deleted", .bool true)] := by
    simp [Record.AgreeOn, Operation.counted, Operation.declared, ThingType.Content.names,
      List.lookup_cons]
  have found : Route.resolve (Endpoint.routes trustingService.settings.apiPrefix)
      (typeRequest plainType) = .ok (.found (.operation .createType) []) := rfl
  have said : Document.ofRequest (typeRequest plainType) =
      .ok (some (.record [("name", .text "Fontaine")])) :=
    Document.ofRequest_render (v := plainType) (by decide +kernel) (by decide +kernel)
      (by decide +kernel) (by simp [plainType, Json.Legible, Json.FieldsLegible]) (by rfl)
      (by decide)
  have short : (Nat.toDigits 10 1).length ≤ Text.maxDigits := by decide
  have said' : Document.ofRequest (typeRequest forgedType) =
      .ok (some (.record
        [("created_by", .int 1), ("name", .text "Fontaine"), ("deleted", .bool true)])) :=
    Document.ofRequest_render (v := forgedType) (by decide +kernel) (by decide +kernel)
      (by decide +kernel) (by simp [forgedType, Json.Legible, Json.FieldsLegible, short]) (by rfl)
      (by decide)
  refine ⟨rfl, accepted, accepted', agree, found, said, said', fun o =>
    requests o (typeRequest plainType) _ [] _ _ found said said' accepted accepted' agree, ?_⟩
  -- the insert is the first statement of the caller's task
  have read : ThingType.Content.read [("name", .text "Fontaine")] = .accepted plainContent := rfl
  have named : Registry.Accepts trustingService.settings.registry plainContent.name := by
    rw [Registry.accepts_iff]
    decide
  obtain ⟨next, reached⟩ := (Registry.createType_guarded trustingService.settings.registry
    { userId := 7, isAdmin := true } plainContent).opens ⟨rfl, named⟩ [] .nil
  have ran := (reached.bind fun made => pure (Action.item ThingType.shape 201 made)).continues
    trustingService.settings.store.silence []
  have operated : trustingService.operate .createType
      ⟨[], [], some (.record [("name", .text "Fontaine")])⟩ { userId := 7, isAdmin := true } =
        (do return Action.item ThingType.shape 201 (← trustingService.settings.registry.createType
          { userId := 7, isAdmin := true } plainContent)) := by
    simp only [Service.operate, Operation.read, Document.read_accepted ThingType.Content.shape read]
    rfl
  rw [← operated] at ran
  have wrote := Store.isWrite_statement trustingService.settings.store (.insertType 7 plainContent)
  exact ⟨_, _, ran, _, .head _, wrote, (runs _ _ _ _ ran).1 _ (.head _) wrote⟩

end GeoRegistry
