/-
# Proofs.Store.Status -- what a command status says, and what a write makes of it

A status ends with the number of rows that were changed: `Reports` says what stands there as an
integer literal, and `rowsAffected` is that number, or zero where there is none
(`Reports.rowsAffected_eq`, `rowsAffected_of_not_reports`).  Whatever tag comes before it, a
number that is written out is read back (`rowsAffected_tagged`).

The writes that must change a row (`MustChange`) send their statement first and decide by that
number alone whether they go on (`HeedsStatus`).  Nothing that comes later is taken for a write
that changed no row: a refusal of what is read back names its cause (`Caused`), and that one has
none.
-/
import GeoRegistry.Proofs.Store.Definite
import GeoRegistry.Proofs.Text.IntegerLiteral

namespace GeoRegistry.Store

set_option autoImplicit false

open Text Dialogue

/-! ## Statuses -/

/-- A status reports `n` rows: what stands after its last space is an integer literal with these
digits that stands for `n`. -/
def Reports (status : String) (digits : List Nat) (n : Int) : Prop :=
  ∃ word, IsLast ' ' status.toList word ∧ IsLiteral word digits n

section Statuses

variable {status : String} {digits : List Nat} {n : Int}

theorem rowsAffected_eq (status : String) :
    rowsAffected status = ((readInteger (afterLast ' ' status.toList)).toOption).getD 0 := by
  rw [rowsAffected, integer?, String.toList_ofList]

theorem reports_iff :
    Reports status digits n ↔ IsLiteral (afterLast ' ' status.toList) digits n := by
  constructor
  · rintro ⟨word, last, literal⟩
    rwa [afterLast_eq_iff.2 last]
  · intro literal
    exact ⟨_, afterLast_eq_iff.1 rfl, literal⟩

/-- **The rows that are reported are counted**, unless their number is too long. -/
theorem Reports.rowsAffected_eq (reports : Reports status digits n) :
    rowsAffected status = if digits.length ≤ maxDigits then n else 0 := by
  rw [Store.rowsAffected_eq, (reports_iff.1 reports).readInteger_eq]
  split <;> rfl

/-- **Where none are reported, none are counted.** -/
theorem rowsAffected_of_not_reports (none_ : ¬ ∃ digits n, Reports status digits n) :
    rowsAffected status = 0 := by
  have malformed : readInteger (afterLast ' ' status.toList) = .error .malformed := by
    refine readInteger_eq_malformed_iff.2 ?_
    rintro ⟨digits, n, literal⟩
    exact none_ ⟨digits, n, reports_iff.2 literal⟩
  rw [rowsAffected_eq, malformed]
  rfl

theorem rowsAffected_tagged (tag : String) {n : Nat}
    (short : (Nat.toDigits 10 n).length ≤ maxDigits) :
    rowsAffected (tag ++ " " ++ toString n) = n := by
  have digits : (toString n).toList = Nat.toDigits 10 n := Nat.toList_repr
  have last : IsLast ' ' (tag ++ " " ++ toString n).toList (toString n).toList := by
    refine ⟨?_, .inr ⟨tag.toList, by simp⟩⟩
    intro member
    rw [digits] at member
    have digit := isDigit_of_written member
    simp at digit
  have written : (toString (n : Int)).toList = (toString n).toList := by
    rw [toList_toString, if_neg (by omega), Int.natAbs_natCast, digits]
  have read : readInteger (toString n).toList = .ok (n : Int) := by
    rw [← written]
    exact readInteger_toString (by rwa [Int.natAbs_natCast])
  rw [rowsAffected_eq, afterLast_eq_iff.2 last, read]
  rfl

/-- So less than one row is counted when none are reported, or fewer than one. -/
theorem rowsAffected_lt_one_iff
    (short : ∀ digits n, Reports status digits n → digits.length ≤ maxDigits) :
    rowsAffected status < 1 ↔ (¬ ∃ digits n, Reports status digits n) ∨
      ∃ digits n, Reports status digits n ∧ n < 1 := by
  by_cases some_ : ∃ digits n, Reports status digits n
  · obtain ⟨digits, n, reports⟩ := some_
    have counted {digits : List Nat} {n : Int} (reports : Reports status digits n) :
        rowsAffected status = n := by
      rw [reports.rowsAffected_eq, if_pos (short digits n reports)]
    constructor
    · intro few
      rw [counted reports] at few
      exact .inr ⟨digits, n, reports, few⟩
    · rintro (none_ | ⟨digits', n', reports', few⟩)
      · exact absurd ⟨digits, n, reports⟩ none_
      · rwa [counted reports']
  · rw [rowsAffected_of_not_reports some_]
    exact iff_of_true (by decide) (.inl some_)

end Statuses

/-! ## Refusals with a cause -/

section Causes

variable {α : Type}

/-- An outcome that is a refusal names what led to it. -/
def Caused (o : Except Failure α) : Prop :=
  ∀ e, o = .error (.refused e) → e.causes ≠ []

theorem Caused.ne_unchanged {o : Except Failure α} (caused : Caused o) (what complaint : String) :
    o ≠ .error (unchanged what complaint) := by
  intro same
  exact caused _ same rfl

theorem caused_consequence (f : StatementFailure) :
    Caused (.error (consequence f) : Except Failure α) := by
  intro e same
  unfold consequence at same
  split at same
  · cases same
    simp [DomainError.because]
  · cases same
    simp [DomainError.because]
  · cases same

theorem caused_of_isReading {o : Except Failure α} (reading : IsReading o) : Caused o := by
  intro e same
  exact (reading _ same).elim

theorem caused_itemOf (shape : Shape α) (reply : Reply) : Caused (itemOf shape reply) := by
  cases reply with
  | failed f => exact caused_consequence f
  | returned row =>
      simp only [itemOf, settled_returned, Except.bind]
      split
      · intro e same
        cases same
      · exact caused_of_isReading (isReading_readRow shape _)

/-- A written row that cannot be read back is refused because it was not found. -/
theorem caused_readBack {Item Line : Type} {c : Collection Item Line} {s : Store}
    {written : String} {id : Cell} {h : List (Exchange Command)} {o : Except Failure Item}
    (ran : Runs (c.readBack s written id) h o) : Caused o := by
  obtain ⟨reply, -, rfl⟩ := (readBack_asks c s written id _ _).1 ran
  simp only [orNothing]
  split
  · intro e same
    cases same
    simp [DomainError.because]
  · exact caused_itemOf c.item reply

end Causes

/-! ## Writes -/

section Writes

variable {α β : Type} {w : Command} {e : Failure}

/-- A dialogue sends `w` first.  A status that counts no row ends it with `e`, and any other
does not. -/
def HeedsStatus (w : Command) (e : Failure) (d : Dialogue Command α) : Prop :=
  ∀ h o, Runs d h o → ∃ told after, h = ⟨w, told⟩ :: after ∧
    ∀ status, told = .returned (.text status) →
      (rowsAffected status < 1 ∧ after = [] ∧ o = .error e) ∨
        (1 ≤ rowsAffected status ∧ o ≠ .error e)

theorem changeOf_text (what complaint status : String) :
    changeOf what complaint (.returned (.text status)) =
      if rowsAffected status < 1 then .error (unchanged what complaint) else .ok () := by
  simp only [changeOf, changed, settled_returned, Except.bind, affected]

theorem heedsStatus_of_asks {d : Dialogue Command α} {f : Reply → Except Failure α} {a : α}
    (asks : AsksOnce d w f)
    (made : ∀ status, f (.returned (.text status)) =
      if rowsAffected status < 1 then .error e else .ok a) : HeedsStatus w e d := by
  intro h o ran
  obtain ⟨told, rfl, rfl⟩ := (asks _ _).1 ran
  refine ⟨told, [], rfl, ?_⟩
  rintro status rfl
  rw [made]
  by_cases few : rowsAffected status < 1
  · exact .inl ⟨few, rfl, if_pos few⟩
  · refine .inr ⟨Int.not_lt.1 few, ?_⟩
    rw [if_neg few]
    rintro ⟨⟩

theorem HeedsStatus.bind {d : Dialogue Command α} {k : α → Dialogue Command β}
    (heeds : HeedsStatus w e d) (rest : ∀ a h o, Runs (k a) h o → o ≠ .error e) :
    HeedsStatus w e (d >>= k) := by
  intro h o ran
  rcases runs_bind_iff.1 ran with ⟨e', rfl, ran₁⟩ | ⟨a, h₁, h₂, rfl, ran₁, ran₂⟩
  · -- the first part failed, and its failure is that of the whole
    obtain ⟨told, after, rfl, decided⟩ := heeds _ _ ran₁
    refine ⟨told, after, rfl, ?_⟩
    intro status same
    rcases decided status same with ⟨few, nothing, ended⟩ | ⟨enough, other⟩
    · cases ended
      exact .inl ⟨few, nothing, rfl⟩
    · refine .inr ⟨enough, ?_⟩
      rintro ⟨⟩
      exact other rfl
  · -- it had a result, so the status cannot have ended it
    obtain ⟨told, after, rfl, decided⟩ := heeds _ _ ran₁
    refine ⟨told, after ++ h₂, rfl, ?_⟩
    intro status same
    rcases decided status same with ⟨-, -, ended⟩ | ⟨enough, -⟩
    · cases ended
    · exact .inr ⟨enough, rest a _ _ ran₂⟩

theorem HeedsStatus.after_log {k : Unit → Dialogue Command α} (heeds : HeedsStatus w e (k ()))
    (entry : Log.Entry) : HeedsStatus w e (Dialogue.log entry >>= k) := by
  intro h o ran
  exact heeds h o (runs_note_iff.1 ran)

theorem change_heedsStatus {Item Line : Type} (c : Collection Item Line) (s : Store)
    (complaint : String) (id : Cell) (w : Command) :
    HeedsStatus w (unchanged c.table.noun complaint) (c.change s complaint id w) :=
  heedsStatus_of_asks (change_asks c s complaint id w) (changeOf_text _ _)

/-- Another name for a taken id does not change that. -/
theorem insertThing_heedsStatus (s : Store) (user : Int) (content : Thing.Content) :
    HeedsStatus (.insertThing user content) (unchanged "thing" "create affected no row")
      ((things.change s "create affected no row" (.uuid content.id)
        (.insertThing user content)).orElse fun e => .fail (idTaken content.id e)) := by
  refine heedsStatus_of_asks (a := ()) (insertThing_asks s user content) ?_
  intro status
  rw [changeOf_text]
  by_cases few : rowsAffected status < 1
  · rw [if_pos few]
    rfl
  · rw [if_neg few]
    rfl

/-- The writes that must change a row, with the statement that each sends and what is said of
one that changes none. -/
inductive MustChange (s : Store) : {α : Type} → Dialogue Command α → Command → String → Prop where
  | createThing (user : Int) (content : Thing.Content) :
      MustChange s (s.createThing user content) (.insertThing user content)
        "thing create affected no row"
  | updateThing (id : Cell) (user : Int) (content : Thing.Content) :
      MustChange s (s.updateThing id user content) (.updateThing id user content)
        "thing update affected no row"
  | updateType (id : Cell) (user : Int) (content : ThingType.Content) :
      MustChange s (s.updateType id user content) (.updateType id user content)
        "type thing update affected no row"
  | delete {Item Line : Type} (c : Collection Item Line) (id : Cell) (user : Int) :
      MustChange s (c.delete s id user) (.softDelete c.table id user)
        (c.table.noun ++ " was not marked for deletion")

/-- **Every one of them decides by its status.** -/
theorem MustChange.heedsStatus {s : Store} {d : Dialogue Command α} {complaint : String}
    (must : s.MustChange d w complaint) :
    HeedsStatus w (.refused (.ofDetail .storage complaint)) d := by
  cases must with
  | createThing user content =>
      refine .after_log ?_ _
      refine (insertThing_heedsStatus s user content).bind ?_
      intro _ h o ran
      exact (caused_readBack ran).ne_unchanged _ _
  | updateThing id user content =>
      refine .after_log ?_ _
      refine (change_heedsStatus things s "update affected no row" id _).bind ?_
      intro _ h o ran
      exact (caused_readBack ran).ne_unchanged _ _
  | updateType id user content =>
      refine (change_heedsStatus types s "update affected no row" id _).bind ?_
      intro _ h o ran
      exact (caused_readBack ran).ne_unchanged _ _
  | delete c id user =>
      have whole : c.table.noun ++ " " ++ "was not marked for deletion" =
          c.table.noun ++ " was not marked for deletion" := String.append_assoc ..
      have heeds := change_heedsStatus c s "was not marked for deletion" id
        (.softDelete c.table id user)
      rwa [unchanged, whole] at heeds

/-- The first reply answers the write. -/
theorem HeedsStatus.run {d : Dialogue Command α} (heeds : HeedsStatus w e d)
    (silence : Command → Reply) (status : String) (replies : List Reply) :
    let t := d.run silence (.returned (.text status) :: replies)
    t.asked.head? = some w ∧
      ((rowsAffected status < 1 ∧ t.asked = [w] ∧ t.outcome = .error e) ∨
        (1 ≤ rowsAffected status ∧ t.outcome ≠ .error e)) := by
  intro t
  have ran := runs_exchanges silence d (.returned (.text status) :: replies)
  obtain ⟨told, after, whole, decided⟩ := heeds _ _ ran
  have asked : t.asked = w :: after.map Exchange.question := by
    rw [asked_run, whole]
    rfl
  refine ⟨by rw [asked]; rfl, ?_⟩
  rcases decided status (reply_of_exchanges whole) with ⟨few, nothing, ended⟩ | ⟨enough, other⟩
  · exact .inl ⟨few, by rw [asked, nothing]; rfl, ended⟩
  · exact .inr ⟨enough, other⟩

end Writes

/-- **A status says how many rows were changed, and a write heeds it.**  Every status is read.
A number that is written out behind any tag and a space is the number of rows; whatever stands
behind the last space is, if it is an integer literal, and if it is none there are no rows.  So
where the first reply to a write that must change a row is a status, the write is refused as
one that changed none, without asking anything more, just when that literal is missing or less
than one. -/
theorem statuses_decide_their_writes :
    (∀ status, affected (.text status) = .ok (rowsAffected status)) ∧
    (∀ (tag : String) (n : Nat), (Nat.toDigits 10 n).length ≤ 4300 →
      rowsAffected (tag ++ " " ++ toString n) = n) ∧
    (∀ status, (¬ ∃ digits n, Reports status digits n) → rowsAffected status = 0) ∧
    (∀ status digits n, Reports status digits n → digits.length ≤ 4300 →
      rowsAffected status = n) ∧
    ∀ (s : Store) {α : Type} (d : Dialogue Command α) (w : Command) (complaint : String),
      s.MustChange d w complaint → ∀ silence status replies,
        (∀ digits n, Reports status digits n → digits.length ≤ 4300) →
        let t := d.run silence (.returned (.text status) :: replies)
        let refusal : Failure := .refused (.ofDetail .storage complaint)
        t.asked.head? = some w ∧
          (t.outcome = .error refusal ↔ (¬ ∃ digits n, Reports status digits n) ∨
            ∃ digits n, Reports status digits n ∧ n < 1) ∧
          (t.outcome = .error refusal → t.asked = [w]) := by
  refine ⟨fun _ => rfl, fun tag n short => rowsAffected_tagged tag short,
    fun status none_ => rowsAffected_of_not_reports none_, ?_, ?_⟩
  · intro status digits n reports short
    rw [reports.rowsAffected_eq]
    exact if_pos short
  · intro s α d w complaint must silence status replies short t refusal
    rw [← rowsAffected_lt_one_iff short]
    obtain ⟨first, ⟨few, nothing, ended⟩ | ⟨enough, other⟩⟩ :=
      must.heedsStatus.run silence status replies
    · exact ⟨first, iff_of_true ended few, fun _ => nothing⟩
    · exact ⟨first, iff_of_false other (Int.not_lt.2 enough), fun ended => absurd ended other⟩

/-- A status with a number that is written in two scripts, between a tab and a wide space. -/
def motley : String := "UPDATE \t+1_\u0662\u2003"

/-- It reports twelve rows.  Two underscores make no number, and where less than no row was
marked the deletion of a type is refused. -/
theorem motley_status_is_read :
    (Nat.toDigits 10 12).length ≤ 4300 ∧ rowsAffected ("INSERT 0" ++ " " ++ toString 12) = 12 ∧
      (¬ ∃ digits n, Reports "COPY 1__2" digits n) ∧ rowsAffected "COPY 1__2" = 0 ∧
      Reports motley [1, 2] 12 ∧ rowsAffected motley = 12 ∧
      MustChange {} (types.delete {} (.int 4) 7) (.softDelete .types (.int 4) 7)
        "type thing was not marked for deletion" ∧
      (∀ digits n, Reports "UPDATE -3" digits n → digits.length ≤ 4300) ∧
      Reports "UPDATE -3" [3] (-3) ∧
      ((types.delete {} (.int 4) 7).run (silence {}) [.returned (.text "UPDATE -3")]).outcome =
        .error (.refused (.ofDetail .storage "type thing was not marked for deletion")) := by
  obtain ⟨-, tagged, unreported, counted, writes⟩ := statuses_decide_their_writes
  have small : (Nat.toDigits 10 12).length ≤ 4300 := by decide
  have nothing : ¬ ∃ digits n, Reports "COPY 1__2" digits n := by
    rintro ⟨digits, n, reports⟩
    have malformed : readInteger (afterLast ' ' "COPY 1__2".toList) = .error .malformed := by
      decide +kernel
    exact readInteger_eq_malformed_iff.1 malformed ⟨digits, n, reports_iff.1 reports⟩
  have twelve : Reports motley [1, 2] 12 := by
    refine ⟨['\t', '+', '1', '_', '\u0662', '\u2003'], ⟨by decide, .inr ⟨"UPDATE".toList, rfl⟩⟩, ?_⟩
    have before : ∀ c ∈ ['\t'], isWhiteSpace c = true := List.forall_mem_singleton.2 (by decide)
    have after : ∀ c ∈ ['\u2003'], isWhiteSpace c = true :=
      List.forall_mem_singleton.2 (by decide)
    have one : IsDigit '1' 1 := ⟨by decide, 0x30, by decide, rfl⟩
    have two : IsDigit '\u0662' 2 := ⟨by decide, 0x660, by decide, rfl⟩
    exact .intro rfl before after .plus (.apart one (.last two)) (by decide)
  have less : Reports "UPDATE -3" [3] (-3) := by
    refine ⟨['-', '3'], ⟨by decide, .inr ⟨"UPDATE".toList, rfl⟩⟩, ?_⟩
    have none_ : ∀ c ∈ ([] : List Char), isWhiteSpace c = true := by simp
    have three : IsDigit '3' 3 := ⟨by decide, 0x30, by decide, rfl⟩
    exact .intro rfl none_ none_ .minus (.last three) (by decide)
  have short : ∀ digits n, Reports "UPDATE -3" digits n → digits.length ≤ 4300 := by
    intro digits n reports
    have few := (reports_iff.1 reports).length_le
    exact Nat.le_trans few (by decide)
  have must := MustChange.delete (s := {}) types (.int 4) 7
  refine ⟨small, tagged "INSERT 0" 12 small, nothing, unreported _ nothing, twelve,
    counted _ _ _ twelve (by decide), must, short, less, ?_⟩
  exact (writes {} _ _ _ must (silence {}) _ [] short).2.1.2 (.inr ⟨_, _, less, by decide⟩)

end GeoRegistry.Store
