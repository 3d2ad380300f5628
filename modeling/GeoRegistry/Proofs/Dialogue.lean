/-
# Proofs.Dialogue -- what a dialogue asked, what it was told, and how it ended

`Reaches d h d'` says that after the exchanges of `h` what is left of `d` is `d'`;
`Runs d h o` that after them `d` has ended with `o`.  Every list of replies, with
whatever is answered after its end, makes one such run (`runs_exchanges`), and
every run comes from a list of replies (`Runs.exchanges_eq`).

Runs follow the composition of dialogues: a run of `d >>= k` is a failing run of
`d`, or a run of `d` to a result and then one of `k` (`runs_bind_iff`), and likewise
for `orElse` (`runs_orElse_iff`).  What is proved of the parts is therefore proved
of the whole without looking into either.
-/
import GeoRegistry.Dialogue

namespace GeoRegistry

set_option autoImplicit false

/-- A question with the reply it got. -/
structure Exchange (ε : Type) where
  question : ε
  reply : Reply

namespace Dialogue

variable {ε α β : Type}

/-- After the exchanges of `h`, what is left of a dialogue. -/
inductive Reaches : Dialogue ε α → List (Exchange ε) → Dialogue ε α → Prop where
  | refl (d : Dialogue ε α) : Reaches d [] d
  | note {entry : Log.Entry} {next left : Dialogue ε α} {h : List (Exchange ε)}
      (rest : Reaches next h left) : Reaches (.note entry next) h left
  | ask {question : ε} {next : Reply → Dialogue ε α} {left : Dialogue ε α} {reply : Reply}
      {h : List (Exchange ε)} (rest : Reaches (next reply) h left) :
      Reaches (.ask question next) (⟨question, reply⟩ :: h) left

/-- Answered as `h` says, a dialogue asks the questions of `h` and ends with `o`. -/
def Runs (d : Dialogue ε α) (h : List (Exchange ε)) (o : Except Failure α) : Prop :=
  Reaches d h (.finish o)

/-! ## One step -/

@[simp] theorem runs_finish_iff {o o' : Except Failure α} {h : List (Exchange ε)} :
    Runs (.finish o : Dialogue ε α) h o' ↔ h = [] ∧ o' = o := by
  constructor
  · intro ran
    cases ran
    exact ⟨rfl, rfl⟩
  · rintro ⟨rfl, rfl⟩
    exact .refl _

@[simp] theorem runs_note_iff {entry : Log.Entry} {d : Dialogue ε α} {h : List (Exchange ε)}
    {o : Except Failure α} : Runs (.note entry d) h o ↔ Runs d h o := by
  constructor
  · intro ran
    cases ran with
    | note rest => exact rest
  · exact .note

@[simp] theorem runs_ask_iff {question : ε} {next : Reply → Dialogue ε α} {h : List (Exchange ε)}
    {o : Except Failure α} :
    Runs (.ask question next) h o ↔
      ∃ reply rest, h = ⟨question, reply⟩ :: rest ∧ Runs (next reply) rest o := by
  constructor
  · intro ran
    cases ran with
    | ask rest => exact ⟨_, _, rfl, rest⟩
  · rintro ⟨reply, rest, rfl, ran⟩
    exact .ask ran

namespace Reaches

/-- A run goes on from wherever a dialogue has got to. -/
theorem trans {d left : Dialogue ε α} {h : List (Exchange ε)} (reached : Reaches d h left) :
    ∀ {h' : List (Exchange ε)} {last : Dialogue ε α}, Reaches left h' last →
      Reaches d (h ++ h') last := by
  induction reached with
  | refl d => exact id
  | note _ ih => exact fun rest => .note (ih rest)
  | ask _ ih => exact fun rest => .ask (ih rest)

theorem passes_note {d next : Dialogue ε α} {h : List (Exchange ε)} {entry : Log.Entry}
    (reached : Reaches d h (.note entry next)) : Reaches d h next := by
  simpa using reached.trans (.note (.refl next))

theorem answered {d : Dialogue ε α} {h : List (Exchange ε)} {question : ε}
    {next : Reply → Dialogue ε α} (reached : Reaches d h (.ask question next)) (reply : Reply) :
    Reaches d (h ++ [⟨question, reply⟩]) (next reply) :=
  reached.trans (.ask (.refl (next reply)))

end Reaches

/-! ## Composition -/

@[simp] theorem bind_eq (d : Dialogue ε α) (k : α → Dialogue ε β) : d >>= k = d.andThen k := rfl

theorem runs_andThen_iff {d : Dialogue ε α} {k : α → Dialogue ε β} {h : List (Exchange ε)}
    {o : Except Failure β} :
    Runs (d.andThen k) h o ↔
      (∃ e, o = .error e ∧ Runs d h (.error e)) ∨
        ∃ a h₁ h₂, h = h₁ ++ h₂ ∧ Runs d h₁ (.ok a) ∧ Runs (k a) h₂ o := by
  induction d generalizing h with
  | finish outcome =>
      cases outcome with
      | error e =>
          constructor
          · intro ran
            exact .inl ⟨e, (runs_finish_iff.1 ran).2, by simpa using (runs_finish_iff.1 ran).1⟩
          · rintro (⟨e', rfl, ran⟩ | ⟨a, h₁, h₂, rfl, ran, -⟩)
            · simpa [andThen] using ran
            · simp at ran
      | ok a =>
          constructor
          · exact fun ran => .inr ⟨a, [], h, rfl, .refl _, ran⟩
          · rintro (⟨e, -, ran⟩ | ⟨a', h₁, h₂, rfl, ran, ran'⟩)
            · simp at ran
            · obtain ⟨rfl, same⟩ := runs_finish_iff.1 ran
              cases same
              exact ran'
  | note entry next ih => simp [andThen, ih]
  | ask question next ih =>
      -- the first part asks, and its run is one exchange longer than that of what is left
      simp only [andThen, runs_ask_iff, ih]
      constructor
      · rintro ⟨reply, rest, rfl, ⟨e, rfl, ran⟩ | ⟨a, h₁, h₂, rfl, ran, ran'⟩⟩
        · exact .inl ⟨e, rfl, reply, rest, rfl, ran⟩
        · exact .inr ⟨a, _, h₂, rfl, ⟨reply, h₁, rfl, ran⟩, ran'⟩
      · rintro (⟨e, rfl, reply, rest, rfl, ran⟩ | ⟨a, _, h₂, rfl, ⟨reply, h₁, rfl, ran⟩, ran'⟩)
        · exact ⟨reply, rest, rfl, .inl ⟨e, rfl, ran⟩⟩
        · exact ⟨reply, h₁ ++ h₂, rfl, .inr ⟨a, h₁, h₂, rfl, ran, ran'⟩⟩

/-- **A run of a composition** fails in its first part, or gets a result there and goes on. -/
theorem runs_bind_iff {d : Dialogue ε α} {k : α → Dialogue ε β} {h : List (Exchange ε)}
    {o : Except Failure β} :
    Runs (d >>= k) h o ↔
      (∃ e, o = .error e ∧ Runs d h (.error e)) ∨
        ∃ a h₁ h₂, h = h₁ ++ h₂ ∧ Runs d h₁ (.ok a) ∧ Runs (k a) h₂ o :=
  runs_andThen_iff

theorem runs_orElse_iff {d : Dialogue ε α} {k : Failure → Dialogue ε α} {h : List (Exchange ε)}
    {o : Except Failure α} :
    Runs (d.orElse k) h o ↔
      (∃ a, o = .ok a ∧ Runs d h (.ok a)) ∨
        ∃ e h₁ h₂, h = h₁ ++ h₂ ∧ Runs d h₁ (.error e) ∧ Runs (k e) h₂ o := by
  induction d generalizing h with
  | finish outcome =>
      cases outcome with
      | ok a =>
          constructor
          · intro ran
            exact .inl ⟨a, (runs_finish_iff.1 ran).2, by simpa using (runs_finish_iff.1 ran).1⟩
          · rintro (⟨a', rfl, ran⟩ | ⟨e, h₁, h₂, rfl, ran, -⟩)
            · simpa [orElse] using ran
            · simp at ran
      | error e =>
          constructor
          · exact fun ran => .inr ⟨e, [], h, rfl, .refl _, ran⟩
          · rintro (⟨a, -, ran⟩ | ⟨e', h₁, h₂, rfl, ran, ran'⟩)
            · simp at ran
            · obtain ⟨rfl, same⟩ := runs_finish_iff.1 ran
              cases same
              exact ran'
  | note entry next ih => simp [orElse, ih]
  | ask question next ih =>
      simp only [orElse, runs_ask_iff, ih]
      constructor
      · rintro ⟨reply, rest, rfl, ⟨a, rfl, ran⟩ | ⟨e, h₁, h₂, rfl, ran, ran'⟩⟩
        · exact .inl ⟨a, rfl, reply, rest, rfl, ran⟩
        · exact .inr ⟨e, _, h₂, rfl, ⟨reply, h₁, rfl, ran⟩, ran'⟩
      · rintro (⟨a, rfl, reply, rest, rfl, ran⟩ | ⟨e, _, h₂, rfl, ⟨reply, h₁, rfl, ran⟩, ran'⟩)
        · exact ⟨reply, rest, rfl, .inl ⟨a, rfl, ran⟩⟩
        · exact ⟨reply, h₁ ++ h₂, rfl, .inr ⟨e, h₁, h₂, rfl, ran, ran'⟩⟩

theorem andThen_assoc {γ : Type} (d : Dialogue ε α) (k : α → Dialogue ε β)
    (l : β → Dialogue ε γ) : (d.andThen k).andThen l = d.andThen fun a => (k a).andThen l := by
  induction d with
  | finish outcome => cases outcome <;> rfl
  | note entry next ih => simp only [andThen, ih]
  | ask question next ih => simp only [andThen, ih]

/-- What is left of the first part is followed by the second. -/
theorem Reaches.bind {d left : Dialogue ε α} {h : List (Exchange ε)} (reached : Reaches d h left)
    (k : α → Dialogue ε β) : Reaches (d >>= k) h (left >>= k) := by
  induction reached with
  | refl d => exact .refl _
  | note _ ih => exact .note ih
  | ask _ ih => exact .ask ih

/-- The second part begins where the first one has its result. -/
theorem Runs.reaches_bind {d : Dialogue ε α} {h : List (Exchange ε)} {a : α}
    (ran : Runs d h (.ok a)) (k : α → Dialogue ε β) : Reaches (d >>= k) h (k a) :=
  Reaches.bind ran k

/-! ## Dialogues of one question, and of none -/

/-- A dialogue asks nothing and ends with `o`. -/
def Idle (d : Dialogue ε α) (o : Except Failure α) : Prop :=
  ∀ h o', Runs d h o' ↔ h = [] ∧ o' = o

/-- A dialogue asks one question, whatever comes back, and makes of the reply what `f` says. -/
def AsksOnce (d : Dialogue ε α) (question : ε) (f : Reply → Except Failure α) : Prop :=
  ∀ h o, Runs d h o ↔ ∃ reply, h = [⟨question, reply⟩] ∧ o = f reply

/-- What is made of an outcome whose empty answer is replaced. -/
def orNothing (instead : Except Failure α) : Except Failure α → Except Failure α
  | .error .noRows => instead
  | o => o

theorem orNothing_of_ne {instead o : Except Failure α} (some_ : o ≠ .error .noRows) :
    orNothing instead o = o := by
  unfold orNothing
  split
  · exact absurd rfl some_
  · rfl

/-- Where a failure replaces an empty answer, a result was there before. -/
theorem of_orNothing_eq_ok {e : Failure} {o : Except Failure α} {a : α}
    (made : orNothing (.error e) o = .ok a) : o = .ok a := by
  cases o with
  | ok a' => exact made
  | error e' => cases e' <;> cases made

theorem idle_finish (o : Except Failure α) : Idle (.finish o : Dialogue ε α) o :=
  fun _ _ => runs_finish_iff

theorem Idle.note {d : Dialogue ε α} {o : Except Failure α} (idle : Idle d o)
    (entry : Log.Entry) : Idle (.note entry d) o :=
  fun h o' => runs_note_iff.trans (idle h o')

/-- One question and then none is one question. -/
theorem AsksOnce.bind {d : Dialogue ε α} {k : α → Dialogue ε β} {question : ε}
    {f : Reply → Except Failure α} {g : α → Except Failure β} (asks : AsksOnce d question f)
    (rest : ∀ a, Idle (k a) (g a)) : AsksOnce (d >>= k) question fun r => (f r).bind g := by
  intro h o
  rw [runs_bind_iff]
  constructor
  · rintro (⟨e, rfl, ran⟩ | ⟨a, h₁, h₂, rfl, ran, ran'⟩)
    · obtain ⟨reply, rfl, same⟩ := (asks _ _).1 ran
      exact ⟨reply, rfl, by simp only [← same]; rfl⟩
    · obtain ⟨reply, rfl, same⟩ := (asks _ _).1 ran
      obtain ⟨rfl, rfl⟩ := (rest a _ _).1 ran'
      exact ⟨reply, by simp, by simp only [← same]; rfl⟩
  · rintro ⟨reply, rfl, rfl⟩
    cases made : f reply with
    | error e =>
        simp only [made]
        exact .inl ⟨e, rfl, (asks _ _).2 ⟨reply, rfl, made.symm⟩⟩
    | ok a =>
        simp only [made]
        exact .inr ⟨a, [⟨question, reply⟩], [], rfl, (asks _ _).2 ⟨reply, rfl, made.symm⟩,
          (rest a _ _).2 ⟨rfl, rfl⟩⟩

/-- One question whose failure is seen to without another one is one question. -/
theorem AsksOnce.orElse {d : Dialogue ε α} {k : Failure → Dialogue ε α} {question : ε}
    {f : Reply → Except Failure α} {g : Failure → Except Failure α} (asks : AsksOnce d question f)
    (rest : ∀ e, Idle (k e) (g e)) : AsksOnce (d.orElse k) question fun r => (f r).tryCatch g := by
  intro h o
  rw [runs_orElse_iff]
  constructor
  · rintro (⟨a, rfl, ran⟩ | ⟨e, h₁, h₂, rfl, ran, ran'⟩)
    · obtain ⟨reply, rfl, same⟩ := (asks _ _).1 ran
      exact ⟨reply, rfl, by simp only [← same]; rfl⟩
    · obtain ⟨reply, rfl, same⟩ := (asks _ _).1 ran
      obtain ⟨rfl, rfl⟩ := (rest e _ _).1 ran'
      exact ⟨reply, by simp, by simp only [← same]; rfl⟩
  · rintro ⟨reply, rfl, rfl⟩
    cases made : f reply with
    | ok a =>
        simp only [made]
        exact .inl ⟨a, rfl, (asks _ _).2 ⟨reply, rfl, made.symm⟩⟩
    | error e =>
        simp only [made]
        exact .inr ⟨e, [⟨question, reply⟩], [], rfl, (asks _ _).2 ⟨reply, rfl, made.symm⟩,
          (rest e _ _).2 ⟨rfl, rfl⟩⟩

/-- What is made of the reply may be put in other words. -/
theorem AsksOnce.congr {d : Dialogue ε α} {question : ε} {f g : Reply → Except Failure α}
    (asks : AsksOnce d question f) (same : ∀ reply, f reply = g reply) : AsksOnce d question g :=
  funext same ▸ asks

/-- Work whose failures are renamed still asks its one question. -/
theorem AsksOnce.mapError {d : Dialogue ε α} {question : ε} {f : Reply → Except Failure α}
    (asks : AsksOnce d question f) (g : Failure → Failure) :
    AsksOnce (d.orElse fun e => fail (g e)) question fun r => (f r).mapError g :=
  (asks.orElse fun e => idle_finish (.error (g e))).congr fun reply => by cases f reply <;> rfl

theorem AsksOnce.ifNoRows {d instead : Dialogue ε α} {question : ε}
    {f : Reply → Except Failure α} {o : Except Failure α} (asks : AsksOnce d question f)
    (idle : Idle instead o) : AsksOnce (d.ifNoRows instead) question fun r => orNothing o (f r) := by
  have replaced : AsksOnce (d.ifNoRows instead) question fun r =>
      (f r).tryCatch fun e => orNothing o (.error e) := by
    refine asks.orElse fun e => ?_
    cases e with
    | noRows => exact idle
    | _ => exact idle_finish _
  exact replaced.congr fun reply => by cases f reply <;> rfl

/-- A dialogue of one question comes to it without asking anything else. -/
theorem AsksOnce.reaches {d : Dialogue ε α} {question : ε} {f : Reply → Except Failure α}
    (asks : AsksOnce d question f) : ∃ next, Reaches d [] (.ask question next) := by
  induction d with
  | finish outcome =>
      have ran := (asks _ _).2 ⟨.returned .null, rfl, rfl⟩
      simp at ran
  | note entry d ih =>
      obtain ⟨next, reached⟩ := ih fun h o => runs_note_iff.symm.trans (asks h o)
      exact ⟨next, .note reached⟩
  | ask question' next _ =>
      have ran := (asks _ _).2 ⟨.returned .null, rfl, rfl⟩
      obtain ⟨reply, rest, same, -⟩ := runs_ask_iff.1 ran
      obtain rfl : question = question' := by simp_all
      exact ⟨next, .refl _⟩

/-! ## Everything that is asked -/

/-- Whatever a dialogue is told, it asks nothing but what `p` is true of. -/
def Asks (p : ε → Prop) (d : Dialogue ε α) : Prop :=
  ∀ h o, Runs d h o → ∀ e ∈ h, p e.question

section Asks

variable {p : ε → Prop}

theorem Idle.asks {d : Dialogue ε α} {o : Except Failure α} (idle : Idle d o) : Asks p d := by
  intro h o' ran e member
  obtain ⟨rfl, -⟩ := (idle _ _).1 ran
  cases member

theorem AsksOnce.asks {d : Dialogue ε α} {question : ε} {f : Reply → Except Failure α}
    (asks : AsksOnce d question f) (this : p question) : Asks p d := by
  intro h o ran e member
  obtain ⟨reply, rfl, -⟩ := (asks _ _).1 ran
  obtain rfl := List.mem_singleton.1 member
  exact this

theorem Asks.bind {d : Dialogue ε α} {k : α → Dialogue ε β} (first : Asks p d)
    (rest : ∀ a, Asks p (k a)) : Asks p (d >>= k) := by
  intro h o ran e member
  rcases runs_bind_iff.1 ran with ⟨e', -, ran⟩ | ⟨a, h₁, h₂, rfl, ran₁, ran₂⟩
  · exact first _ _ ran e member
  · rcases List.mem_append.1 member with early | late
    · exact first _ _ ran₁ e early
    · exact rest a _ _ ran₂ e late

end Asks

/-! ## Runs against lists of replies -/

/-- The exchanges of a run against a list of replies. -/
def exchanges (silence : ε → Reply) : Dialogue ε α → List Reply → List (Exchange ε)
  | .finish _, _ => []
  | .note _ next, replies => next.exchanges silence replies
  | .ask question next, [] =>
      ⟨question, silence question⟩ :: (next (silence question)).exchanges silence []
  | .ask question next, reply :: replies =>
      ⟨question, reply⟩ :: (next reply).exchanges silence replies

theorem asked_run (silence : ε → Reply) (d : Dialogue ε α) (replies : List Reply) :
    (d.run silence replies).asked = (d.exchanges silence replies).map Exchange.question := by
  induction d generalizing replies with
  | finish outcome => rfl
  | note entry next ih => exact ih replies
  | ask question next ih =>
      cases replies with
      | nil => simp [run, exchanges, ih]
      | cons reply replies => simp [run, exchanges, ih]

/-- **Every list of replies makes a run.** -/
theorem runs_exchanges (silence : ε → Reply) (d : Dialogue ε α) (replies : List Reply) :
    Runs d (d.exchanges silence replies) (d.run silence replies).outcome := by
  induction d generalizing replies with
  | finish outcome => exact .refl _
  | note entry next ih => exact .note (ih replies)
  | ask question next ih =>
      cases replies with
      | nil => exact .ask (ih (silence question) [])
      | cons reply replies => exact .ask (ih reply replies)

/-- The first question is answered with the first reply. -/
theorem reply_of_exchanges {silence : ε → Reply} {d : Dialogue ε α} {reply : Reply}
    {replies : List Reply} {first : Exchange ε} {rest : List (Exchange ε)}
    (begins : d.exchanges silence (reply :: replies) = first :: rest) : first.reply = reply := by
  induction d with
  | finish outcome => cases begins
  | note entry next ih => exact ih begins
  | ask question next ih =>
      cases begins
      rfl

/-- The exchanges on the way somewhere are the first ones of the run. -/
theorem Reaches.exchanges_eq {d left : Dialogue ε α} {h : List (Exchange ε)}
    (reached : Reaches d h left) (silence : ε → Reply) (replies : List Reply) :
    d.exchanges silence (h.map Exchange.reply ++ replies) = h ++ left.exchanges silence replies := by
  induction reached with
  | refl d => rfl
  | note _ ih => exact ih
  | ask _ ih => simp [exchanges, ih]

/-- The run ends as what is left of the dialogue does. -/
theorem Reaches.run_eq {d left : Dialogue ε α} {h : List (Exchange ε)}
    (reached : Reaches d h left) (silence : ε → Reply) (replies : List Reply) :
    (d.run silence (h.map Exchange.reply ++ replies)).outcome =
        (left.run silence replies).outcome ∧
      (d.run silence (h.map Exchange.reply ++ replies)).unused =
        (left.run silence replies).unused := by
  induction reached with
  | refl d => exact ⟨rfl, rfl⟩
  | note _ ih => exact ih
  | ask _ ih => exact ih

/-- **Every run comes from a list of replies**, and what else is in it is left over. -/
theorem Runs.exchanges_eq {d : Dialogue ε α} {h : List (Exchange ε)} {o : Except Failure α}
    (ran : Runs d h o) (silence : ε → Reply) (replies : List Reply) :
    d.exchanges silence (h.map Exchange.reply ++ replies) = h ∧
      (d.run silence (h.map Exchange.reply ++ replies)).outcome = o ∧
      (d.run silence (h.map Exchange.reply ++ replies)).unused = replies := by
  obtain ⟨ended, unused⟩ := Reaches.run_eq ran silence replies
  refine ⟨?_, ended, unused⟩
  simpa [exchanges] using Reaches.exchanges_eq ran silence replies

/-- A dialogue of one question asks just that, and ends as it makes of the first reply. -/
theorem AsksOnce.run_eq {d : Dialogue ε α} {question : ε} {f : Reply → Except Failure α}
    (asks : AsksOnce d question f) (silence : ε → Reply) (replies : List Reply) :
    (d.run silence replies).asked = [question] ∧
      (d.run silence replies).outcome = f (replies.head?.getD (silence question)) := by
  obtain ⟨next, reached⟩ := asks.reaches
  obtain ⟨reply, once, ended⟩ := (asks _ _).1 (runs_exchanges silence d replies)
  have first : d.exchanges silence replies =
      (Dialogue.ask question next).exchanges silence replies := reached.exchanges_eq silence replies
  have given : reply = replies.head?.getD (silence question) := by
    rw [once] at first
    cases replies with
    | nil => exact congrArg Exchange.reply (List.cons.inj first).1
    | cons => exact congrArg Exchange.reply (List.cons.inj first).1
  rw [asked_run, once, ended, given]
  exact ⟨rfl, rfl⟩

/-- When the first part fails, so does the whole. -/
theorem run_bind_error {silence : ε → Reply} {d : Dialogue ε α} {replies : List Reply} {e : Failure}
    (failed : (d.run silence replies).outcome = .error e) (k : α → Dialogue ε β) :
    ((d >>= k).run silence replies).outcome = .error e := by
  induction d generalizing replies with
  | finish outcome =>
      obtain rfl : outcome = .error e := failed
      rfl
  | note entry next ih => exact ih failed
  | ask question next ih =>
      cases replies with
      | nil => exact ih _ failed
      | cons reply replies => exact ih _ failed

/-- A dialogue that has got somewhere can always be brought to an end. -/
theorem Reaches.continues {d left : Dialogue ε α} {h : List (Exchange ε)}
    (reached : Reaches d h left) (silence : ε → Reply) (replies : List Reply) :
    Runs d (h ++ left.exchanges silence replies) (left.run silence replies).outcome :=
  reached.trans (runs_exchanges silence left replies)

end Dialogue

end GeoRegistry
