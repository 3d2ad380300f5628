/-
# Proofs.Login -- what a login takes and what it is worth

A login is decided by the name without its blanks and, if that is right, by the password
(`accepts_of_name`).  Only a text that could be a password is compared with it; for any other one
the login fails, with no answer, where the name is right, and is refused like the rest where it is
not.  What a login grants is a token of the administrator that holds to the end of the second in
which its lifetime runs out, and not after it (`issued_until`).  So the token is worth exactly what
the grant promises.
-/
import GeoRegistry.Http.Response
import GeoRegistry.Proofs.Settings
import GeoRegistry.Proofs.Token.Lifetime
import GeoRegistry.Service

namespace GeoRegistry

set_option autoImplicit false

open Dialogue Token
open Text (Seamless joinedText_of_seamless trimBlank unencodable? maxDigits)

/-! ## Failures -/

/-- A failure that is answered by a challenge for a token. -/
def Failure.Challenges (e : Failure) : Prop :=
  ∃ response, Http.Response.ofFailure? e = some response ∧ response.status = 401 ∧
    response.headers.lookup "www-authenticate" = some "Bearer"

theorem Failure.challenges_unauthorized (detail : String) : (unauthorized detail).Challenges :=
  ⟨_, rfl, rfl, rfl⟩

/-! ## The decision -/

namespace Account

variable {a : Account} {c : Credentials} {password : String}

/-- A password is compared with another text only if that could be one. -/
theorem accepts_kept (candidate : String) :
    (Password.kept password).accepts candidate =
      (Password.check candidate).map fun _ => password == candidate := by
  unfold Password.accepts
  cases Password.check candidate <;> rfl

/-- Under a wrong name no password is looked at. -/
theorem accepts_of_other_name (other : trimBlank c.username ≠ a.login) :
    a.accepts c = .ok false :=
  if_neg other

/-- **Under the right name the password decides**, if it can be compared. -/
theorem accepts_of_name (kept : a.password = .kept password)
    (named : trimBlank c.username = a.login) :
    a.accepts c = (Password.check c.password).map fun _ => password == c.password := by
  rw [accepts, if_pos named, kept, accepts_kept]

/-- **The right name and the right password are accepted**, and nothing else. -/
theorem accepts_eq_ok_iff (kept : a.password = .kept password)
    (checked : Password.check password = .ok ()) :
    a.accepts c = .ok true ↔ trimBlank c.username = a.login ∧ c.password = password := by
  by_cases named : trimBlank c.username = a.login
  · rw [accepts_of_name kept named]
    constructor
    · intro made
      obtain ⟨-, -, same⟩ := map_eq_ok made
      exact ⟨named, (beq_iff_eq.1 same).symm⟩
    · rintro ⟨-, rfl⟩
      rw [checked, Except.map, beq_self_eq_true]
  · simp [accepts_of_other_name named, named]

/-- There is no verdict just where the name is right and the password cannot be compared. -/
theorem accepts_eq_error_iff {e : Failure} (kept : a.password = .kept password) :
    a.accepts c = .error e ↔
      trimBlank c.username = a.login ∧ Password.check c.password = .error e := by
  by_cases named : trimBlank c.username = a.login
  · rw [accepts_of_name kept named]
    cases Password.check c.password <;> simp [Except.map, named]
  · simp [accepts_of_other_name named, named]

variable {ε : Type} {i : Issuer} {now : Instant}

/-! ### What comes of it -/

theorem logIn_undecided {e : Failure} (undecided : a.accepts c = .error e) :
    Idle (a.logIn i now c : Dialogue ε Grant) (.error e) := by
  simp only [logIn, undecided]
  exact idle_finish _

theorem logIn_refused (refused : a.accepts c = .ok false) :
    Idle (a.logIn i now c : Dialogue ε Grant)
      (.error (.unauthorized "Incorrect username or password")) := by
  simp only [logIn, refused]
  exact (idle_finish _).note _

theorem logIn_granted {token : String} (accepted : a.accepts c = .ok true)
    (issued : i.issue now a.caller none = .ok token) :
    Idle (a.logIn i now c : Dialogue ε Grant)
      (.ok { accessToken := token, expiresIn := i.minutes * 60 }) := by
  simp only [logIn, accepted, issued]
  exact (idle_finish _).note _

end Account

/-! ## The grant -/

/-- **A token holds for as many seconds as it was granted**, and no longer. -/
theorem Issuer.issued_until {i : Issuer} {a : Algorithm} {fault : Json.Fault} (caller : Caller)
    (keyed : i.algorithm = a.name) (takes : a.Takes i.secret)
    (plain : Json.parseVerbatim i.secret = .error fault)
    (short : (Nat.toDigits 10 caller.userId.natAbs).length ≤ maxDigits) {now : Instant}
    (begins : now.Representable) (ends : (now + Span.ofMinutes i.minutes : Instant).Representable) :
    ∃ token, i.issue now caller none = .ok token ∧
      ∀ (ε : Type) (t : Instant), t.Representable →
        (t.second ≤ now.second + i.minutes * 60 →
          Idle (i.authenticate t token : Dialogue ε Caller)
            (.ok { caller.joined with
              claims := said caller.joined (now + Span.ofMinutes i.minutes) })) ∧
        (now.second + i.minutes * 60 < t.second →
          Idle (i.authenticate t token : Dialogue ε Caller)
            (.error (.unauthorized "Could not validate credentials"))) := by
  have span : i.span none = Span.ofMinutes i.minutes := if_pos rfl
  have begun : (now + i.span none : Instant).Representable := span ▸ ends
  have issued := issue_eq caller keyed takes short begins begun
  have good := good_until_expiry keyed plain issued
  rw [span, Instant.second_after_minutes] at good
  exact ⟨_, issued, good⟩

/-! ## The administrator -/

/-- The account of the administrator that settings describe. -/
def Settings.administrator (s : Settings) : Account :=
  ⟨s.adminUser, s.adminEmail, s.adminId, .kept s.adminPassword⟩

theorem Settings.account_eq {s : Settings} (kept : Password.check s.adminPassword = .ok ()) :
    s.account = .ok s.administrator := by
  simp only [account, Password.keep, kept]
  rfl

/-- The token of a grant is worth what was promised: at every time that a clock shows it is
that of the administrator up to the end of the last promised second, and after it the token
is answered by a challenge. -/
def Settings.Honours (s : Settings) (now : Instant) (g : Grant) : Prop :=
  ∀ (ε : Type) (t : Instant), t.Representable →
    (t.second ≤ now.second + g.expiresIn →
      ∃ bearer : Caller,
        Idle (s.issuer.authenticate t g.accessToken : Dialogue ε Caller) (.ok bearer) ∧
        bearer.userId = s.adminId ∧ bearer.isAdmin = true ∧
        (Seamless s.adminUser → bearer.login = some s.adminUser) ∧
        (Seamless s.adminEmail → bearer.email = some s.adminEmail)) ∧
    (now.second + g.expiresIn < t.second →
      ∃ e, Idle (s.issuer.authenticate t g.accessToken : Dialogue ε Caller) (.error e) ∧
        e.Challenges)

/-- What is not compared as a password is answered by no rule. -/
theorem Password.check_escapes {candidate : String} {e : Failure}
    (failed : Password.check candidate = .error e) : Http.Response.ofFailure? e = none := by
  unfold Password.check at failed
  split at failed
  · cases failed
    rfl
  · split at failed <;> cases failed
    rfl

/-- **A login takes the name and the password of the administrator, and is worth what it
promises.**  Whatever is presented, the login ends without asking anything.  It ends with a
grant if the name without its blanks and the password are the configured ones, and only then;
and the grant promises the configured minutes and is honoured.  Without a grant the answer is
one and the same challenge, whether the name is wrong or the password, unless the name is right
and the password cannot be compared: then the login fails for what is wrong with that text, and
there is no answer. -/
theorem login_is_worth_its_promise {environment : List (String × String)} {s : Settings}
    {a : Algorithm} {now : Instant} {fault : Json.Fault}
    (configured : Settings.ofEnvironment environment = .ok s) (keyed : s.algorithm = a.name)
    (encodes : unencodable? s.secretKey = none) (unmarked : Mark.isMarked s.secretKey = false)
    (plain : Json.parseVerbatim s.secretKey = .error fault)
    (kept : Password.check s.adminPassword = .ok ()) (begins : now.Representable)
    (ends : (now + Span.ofMinutes s.tokenMinutes : Instant).Representable) :
    ∃ account, s.account = .ok account ∧ ∀ (ε : Type) (c : Credentials),
      ∃ o, Idle (account.logIn s.issuer now c : Dialogue ε Grant) o ∧
        ((∃ grant, o = .ok grant) ↔
          trimBlank c.username = s.adminUser ∧ c.password = s.adminPassword) ∧
        (∀ grant, o = .ok grant →
          grant.expiresIn = s.tokenMinutes * 60 ∧ s.Honours now grant) ∧
        (∀ e, trimBlank c.username = s.adminUser → Password.check c.password = .error e →
          o = .error e ∧ Http.Response.ofFailure? e = none) ∧
        ((¬ ∃ grant, o = .ok grant) →
          ¬ (trimBlank c.username = s.adminUser ∧ ∃ e, Password.check c.password = .error e) →
          o = .error (.unauthorized "Incorrect username or password") ∧
            (Failure.unauthorized "Incorrect username or password").Challenges) := by
  refine ⟨_, Settings.account_eq kept, fun ε c => ?_⟩
  have right : s.administrator.accepts c = .ok true ↔
      trimBlank c.username = s.adminUser ∧ c.password = s.adminPassword :=
    Account.accepts_eq_ok_iff rfl kept
  have undecided {e : Failure} : s.administrator.accepts c = .error e ↔
      trimBlank c.username = s.adminUser ∧ Password.check c.password = .error e :=
    Account.accepts_eq_error_iff rfl
  cases verdict : s.administrator.accepts c with
  | error e =>
      obtain ⟨named, failed⟩ := undecided.1 verdict
      refine ⟨_, Account.logIn_undecided verdict, ?_, (fun _ same => nomatch same), ?_, ?_⟩
      · simp [← right, verdict]
      · intro e' _ failed'
        obtain rfl := Except.error.inj (failed.symm.trans failed')
        exact ⟨rfl, Password.check_escapes failed⟩
      · intro _ comparable
        exact absurd ⟨named, e, failed⟩ comparable
  | ok accepted =>
      have comparable {e : Failure} (named : trimBlank c.username = s.adminUser)
          (failed : Password.check c.password = .error e) : False :=
        nomatch verdict.symm.trans (undecided.2 ⟨named, failed⟩)
      cases accepted with
      | false =>
          refine ⟨_, Account.logIn_refused verdict, ?_, (fun _ same => nomatch same),
            fun _ named failed => (comparable named failed).elim, fun _ _ => ?_⟩
          · simp [← right, verdict]
          · exact ⟨rfl, Failure.challenges_unauthorized _⟩
      | true =>
          have takes : a.Takes s.issuer.secret := takes_iff.2 ⟨encodes, unmarked⟩
          have short := Settings.ofEnvironment_adminId configured
          obtain ⟨token, issued, worth⟩ := Issuer.issued_until (i := s.issuer)
            s.administrator.caller keyed takes plain short begins ends
          refine ⟨_, Account.logIn_granted verdict issued, ?_, ?_,
            fun _ named failed => (comparable named failed).elim, fun none_ => ?_⟩
          · simp [← right, verdict]
          · intro grant same
            obtain rfl := Except.ok.inj same
            refine ⟨rfl, fun ε t there => ?_⟩
            obtain ⟨held, lapsed⟩ := worth ε t there
            exact ⟨fun early => ⟨_, held early, rfl, rfl,
                fun seamless => congrArg some (joinedText_of_seamless seamless),
                fun seamless => congrArg some (joinedText_of_seamless seamless)⟩,
              fun late => ⟨_, lapsed late, Failure.challenges_unauthorized _⟩⟩
          · exact absurd ⟨_, rfl⟩ none_

/-- Settings that name a secret of their own, and nothing else. -/
def hushedSettings : Settings :=
  { secretKey := "hush" }

/-- In the first second of 1970 the administrator is granted a token that is good to the end
of the same second an hour later; whoever has the name or the password wrong is refused
alike. -/
theorem administrator_logs_in :
    Settings.ofEnvironment [("SECRET_KEY", "hush")] = .ok hushedSettings ∧
    ∃ account, hushedSettings.account = .ok account ∧
      (∃ grant, Idle (account.logIn hushedSettings.issuer 999999
            ⟨" goadmin\n", "change-this-admin-password"⟩ : Dialogue Empty Grant) (.ok grant) ∧
        grant.expiresIn = 3600 ∧
        (∃ bearer : Caller, Idle (hushedSettings.issuer.authenticate 3600999999
            grant.accessToken : Dialogue Empty Caller) (.ok bearer) ∧ bearer.userId = 960901) ∧
        ∃ e, Idle (hushedSettings.issuer.authenticate 3601000000
            grant.accessToken : Dialogue Empty Caller) (.error e)) ∧
      Idle (account.logIn hushedSettings.issuer 999999
          ⟨"goadmin", "s3cret-pass"⟩ : Dialogue Empty Grant)
        (.error (.unauthorized "Incorrect username or password")) ∧
      Idle (account.logIn hushedSettings.issuer 999999
          ⟨"someone", "change-this-admin-password"⟩ : Dialogue Empty Grant)
        (.error (.unauthorized "Incorrect username or password")) := by
  have configured : Settings.ofEnvironment [("SECRET_KEY", "hush")] = .ok hushedSettings := by
    have name : Settings.settingName "SECRET_KEY" = "secret_key" := by decide +kernel
    rw [Settings.ofEnvironment, List.map_singleton, name]
    rfl
  have plain : Json.parseVerbatim hushedSettings.secretKey = .error (.malformed 4) := by rfl
  have begins : Instant.Representable 999999 := ⟨by decide, by decide⟩
  have ends : Instant.Representable (999999 + Span.ofMinutes hushedSettings.tokenMinutes) :=
    ⟨by decide, by decide⟩
  obtain ⟨account, known, logs⟩ := login_is_worth_its_promise (a := .hs256) configured rfl
    (by rfl) (Mark.isMarked_eq_false (by decide)) plain (by rfl) begins ends
  -- a wrong name or a wrong password is no grant
  have refused (c : Credentials) (checked : Password.check c.password = .ok ())
      (wrong : ¬ (trimBlank c.username = "goadmin" ∧ c.password = "change-this-admin-password")) :
      Idle (account.logIn hushedSettings.issuer 999999 c : Dialogue Empty Grant)
        (.error (.unauthorized "Incorrect username or password")) := by
    obtain ⟨o, idle, right, -, -, alike⟩ := logs Empty c
    obtain ⟨rfl, -⟩ := alike (fun granted => wrong (right.1 granted)) fun ⟨_, _, failed⟩ =>
      nomatch checked.symm.trans failed
    exact idle
  obtain ⟨o, idle, right, honoured, -⟩ := logs Empty ⟨" goadmin\n", "change-this-admin-password"⟩
  obtain ⟨grant, rfl⟩ := right.2 ⟨by decide +kernel, rfl⟩
  obtain ⟨promised, worth⟩ := honoured grant rfl
  obtain ⟨held, -⟩ := worth Empty 3600999999 ⟨by decide, by decide⟩
  obtain ⟨-, lapsed⟩ := worth Empty 3601000000 ⟨by decide, by decide⟩
  rw [promised] at held lapsed
  obtain ⟨bearer, accepted, id, -⟩ := held (by decide)
  obtain ⟨e, late, -⟩ := lapsed (by decide)
  exact ⟨configured, account, known,
    ⟨grant, idle, promised, ⟨bearer, accepted, id⟩, e, late⟩,
    refused ⟨"goadmin", "s3cret-pass"⟩ (by rfl) (by decide +kernel),
    refused ⟨"someone", "change-this-admin-password"⟩ (by rfl) (by decide +kernel)⟩

/-- Half of a character, which is no password. -/
def halfPassword : String :=
  String.ofList [Text.Surrogate.charOf 0xD800]

/-- **A wrong password that is not refused like the others**: it is short enough, but half of a
character has no octets to compare.  Under a wrong name the login is refused; under the right one
it fails, and there is no answer. -/
theorem half_password_is_not_refused :
    halfPassword.length ≤ Password.mostCharacters ∧
      Idle (hushedSettings.administrator.logIn hushedSettings.issuer 999999
          ⟨"someone", halfPassword⟩ : Dialogue Empty Grant)
        (.error (.unauthorized "Incorrect username or password")) ∧
      ¬ ∀ c : Credentials, ∃ o,
        Idle (hushedSettings.administrator.logIn hushedSettings.issuer 999999 c :
          Dialogue Empty Grant) o ∧
        ((∃ grant, o = .ok grant) ∨
          o = .error (.unauthorized "Incorrect username or password")) := by
  have other : trimBlank "someone" ≠ hushedSettings.administrator.login := by decide +kernel
  have named : trimBlank "goadmin" = hushedSettings.administrator.login := by decide +kernel
  have failed : Password.check halfPassword = .error (.unencodable ⟨0, 0xD800, 1⟩) := by rfl
  refine ⟨by decide, Account.logIn_refused (Account.accepts_of_other_name other), fun all => ?_⟩
  have undecided : Idle (hushedSettings.administrator.logIn hushedSettings.issuer 999999
      ⟨"goadmin", halfPassword⟩ : Dialogue Empty Grant) (.error (.unencodable ⟨0, 0xD800, 1⟩)) :=
    Account.logIn_undecided ((Account.accepts_eq_error_iff rfl).2 ⟨named, failed⟩)
  obtain ⟨o, idle, answered⟩ := all ⟨"goadmin", halfPassword⟩
  obtain ⟨-, rfl⟩ := (undecided [] o).1 ((idle [] o).2 ⟨rfl, rfl⟩)
  rcases answered with ⟨grant, same⟩ | same
  · cases same
  · cases same

end GeoRegistry
