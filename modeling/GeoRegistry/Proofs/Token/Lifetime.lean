/-
# Proofs.Token.Lifetime -- how long a token is good

A token carries the second in which it expires, and nothing else decides how long it is
good: at every time that a clock shows it is accepted up to the end of that second and
answered by a challenge afterwards (`GoodUntil`).  So what is asked for when a token is
issued decides everything, through the moment of its expiry (`issue_eq_ok_iff`).  A lifetime
that is not empty is kept to the second, whatever the issuer's own lifetime is.  An empty
one counts as none, and the token then lasts as long as the issuer's tokens do.
-/
import GeoRegistry.Proofs.Token.Authentic

namespace GeoRegistry

set_option autoImplicit false

open Dialogue Token
open Text (unencodable? maxDigits)

/-! ## Moments -/

namespace Instant

/-- Minutes are whole seconds. -/
theorem second_after_minutes (now : Instant) (minutes : Int) :
    second (now + Span.ofMinutes minutes) = now.second + minutes * 60 := by
  have sum : (now + Span.ofMinutes minutes : Instant) =
      @HAdd.hAdd Int Int Int _ now (minutes * 60000000) := rfl
  rw [sum]
  simp only [second]
  omega

/-- A clock shows moments of the calendar, as they are. -/
theorem of_shown_eq_ok {now t : Instant} (made : now.shown = .ok t) :
    t = now ∧ now.Representable := by
  unfold shown at made
  split at made
  · next there => exact ⟨(Except.ok.inj made).symm, there⟩
  · split at made
    · cases made
    · split at made <;> cases made

theorem of_after_eq_ok {now t : Instant} {s : Span} (made : now.after s = .ok t) :
    t = now + s ∧ (now + s : Instant).Representable := by
  unfold after at made
  split at made
  · cases made
  · next inside =>
    have bounds := not_or.1 inside
    exact ⟨(Except.ok.inj made).symm, Int.not_lt.1 bounds.1, Int.not_lt.1 bounds.2⟩

end Instant

theorem Span.of_kept_eq_ok {s s' : Span} (made : s.kept = .ok s') : s' = s := by
  unfold kept at made
  split at made
  · cases made
  · split at made
    · cases made
    · exact (Except.ok.inj made).symm

namespace Issuer

variable {i : Issuer} {a : Algorithm} {caller : Caller} {now : Instant} {asked : Option Span}
  {token : String}

/-! ## What is issued -/

theorem of_lifetime_eq_ok {s : Span} (made : i.lifetime asked = .ok s) : s = i.span asked := by
  unfold lifetime at made
  split at made
  · next asked =>
    split at made
    · next empty => simp [span, empty, Span.of_kept_eq_ok made]
    · next filled => simp [span, filled, ← Except.ok.inj made]
  · simp [span, Span.of_kept_eq_ok made]

/-- A token that has an expiry is issued and expires in the calendar. -/
theorem of_expiry_eq_ok {e : Instant} (made : i.expiry now asked = .ok e) :
    now.Representable ∧ (now + i.span asked : Instant).Representable ∧ e = now + i.span asked := by
  obtain ⟨asked', keeps, made⟩ := bind_eq_ok made
  obtain ⟨now', shows, made⟩ := bind_eq_ok made
  obtain ⟨s, lasts, made⟩ := bind_eq_ok made
  obtain ⟨rfl, begins⟩ := Instant.of_shown_eq_ok shows
  have same : asked' = asked := by
    cases asked with
    | none => exact (Except.ok.inj keeps).symm
    | some s =>
        obtain ⟨s', kept, rfl⟩ := map_eq_ok keeps
        rw [Span.of_kept_eq_ok kept]
  subst same
  obtain rfl := of_lifetime_eq_ok lasts
  obtain ⟨rfl, ends⟩ := Instant.of_after_eq_ok made
  exact ⟨begins, ends, rfl⟩

/-- An algorithm takes a secret under which it has written something. -/
theorem takes_of_write_eq_ok {secret : String} {payload : Json}
    (made : write a.name secret payload = .ok token) : a.Takes secret := by
  obtain ⟨key, keys, -⟩ := bind_eq_ok made
  rw [Key.issuing, issuing?_name] at keys
  exact keys.trans (congrArg Except.ok (forDigest_text_eq_ok keys))

/-- **When a token is issued, and which.**  The secret must do, the number of the caller must
have few enough digits to be shown, and the token must be issued and expire in the calendar. -/
theorem issue_eq_ok_iff (keyed : i.algorithm = a.name) :
    i.issue now caller asked = .ok token ↔
      (a.Takes i.secret ∧ (Nat.toDigits 10 caller.userId.natAbs).length ≤ maxDigits ∧
        now.Representable ∧ (now + i.span asked : Instant).Representable) ∧
      token = signedToken a i.secret (payloadFields caller (now + i.span asked)) := by
  constructor
  · intro made
    have issued := made
    obtain ⟨expiry, expires, made⟩ := bind_eq_ok made
    obtain ⟨begins, ends, rfl⟩ := of_expiry_eq_ok expires
    split at made
    · cases made
    · next few =>
      have short := Nat.not_lt.1 few
      rw [keyed] at made
      have takes := takes_of_write_eq_ok (mapError_eq_ok made)
      rw [issue_eq caller keyed takes short begins ends] at issued
      exact ⟨⟨takes, short, begins, ends⟩, (Except.ok.inj issued).symm⟩
  · rintro ⟨⟨takes, short, begins, ends⟩, rfl⟩
    exact issue_eq caller keyed takes short begins ends

/-! ## How long it is good -/

/-- The token is accepted at a time. -/
def Accepts (i : Issuer) (t : Instant) (token : String) : Prop :=
  ∃ caller, Idle (i.authenticate t token : Dialogue Empty Caller) (.ok caller)

/-- The token is good to the end of a second: at every time that a clock shows it is that of
the caller up to then, and answered by a challenge afterwards. -/
def GoodUntil (i : Issuer) (last : Int) (token : String) (caller : Caller) : Prop :=
  ∀ (ε : Type) (t : Instant), t.Representable →
    (t.second ≤ last → Idle (i.authenticate t token : Dialogue ε Caller) (.ok caller)) ∧
    (last < t.second →
      Idle (i.authenticate t token : Dialogue ε Caller)
        (.error (.unauthorized "Could not validate credentials")))

/-- It is accepted as long as it is good. -/
theorem GoodUntil.accepts_iff {last : Int} (good : i.GoodUntil last token caller) {t : Instant}
    (there : t.Representable) : i.Accepts t token ↔ t.second ≤ last := by
  constructor
  · rintro ⟨bearer, accepted⟩
    by_contra late
    have refused := (good Empty t there).2 (Int.not_le.1 late)
    have same := ((accepted [] _).1 ((refused [] _).2 ⟨rfl, rfl⟩)).2
    cases same
  · exact fun early => ⟨caller, (good Empty t there).1 early⟩

/-- **A token that is issued is good until it expires.** -/
theorem good_until_expiry {fault : Json.Fault} (keyed : i.algorithm = a.name)
    (plain : Json.parseVerbatim i.secret = .error fault)
    (issued : i.issue now caller asked = .ok token) :
    i.GoodUntil (Instant.second (now + i.span asked)) token
      { caller.joined with claims := said caller.joined (now + i.span asked) } := by
  obtain ⟨⟨takes, short, -, ends⟩, rfl⟩ := (issue_eq_ok_iff keyed).1 issued
  intro ε t there
  exact ⟨authenticate_signed caller keyed takes ε plain short ends there.1,
    authenticate_expired caller keyed takes ε plain ends there⟩

/-- An empty lifetime is none. -/
theorem issue_empty : i.issue now caller (some 0) = i.issue now caller none := by
  have kept : Span.kept 0 = .ok 0 := rfl
  have mapped : (some 0 : Option Span).mapM Span.kept = .ok (some 0) := by
    simp [kept, Functor.map, Except.map]
  have same : i.expiry now (some 0) = i.expiry now none := by
    rw [expiry, mapped]
    rfl
  rw [issue, same]
  rfl

/-- The issuer's own lifetime is not looked at where another one is asked for. -/
theorem issue_minutes {s : Span} (filled : s ≠ 0) (minutes : Int) :
    { i with minutes }.issue now caller (some s) = i.issue now caller (some s) := by
  have lifetime (i : Issuer) : i.lifetime (some s) = .ok s := if_neg filled
  have same : { i with minutes }.expiry now (some s) = i.expiry now (some s) := by
    unfold expiry
    cases kept : s.kept with
    | error e => simp [kept, Functor.map, Except.map, bind, Except.bind]
    | ok s' =>
        obtain rfl := Span.of_kept_eq_ok kept
        simp [kept, Functor.map, Except.map, bind, Except.bind, lifetime]
  simp only [issue, same]

/-- **A lifetime that is asked for is kept to the second, unless it is empty.**  A token is
issued just when the secret has octets and is not marked as something else than a secret, the
number of the caller can be shown, and the token begins and expires in the calendar.  If the
lifetime is not empty, the token is accepted up to the end of the second in which the lifetime
runs out, as that of the caller with halves of characters joined, and is answered by a
challenge afterwards; it is the same token whatever the issuer's own lifetime is.  If the
lifetime is empty, the token is that of no lifetime at all: it does not end with the second in
which it was issued, but is good for the issuer's own minutes. -/
theorem asked_lifetime_is_kept {fault : Json.Fault} (keyed : i.algorithm = a.name)
    (plain : Json.parseVerbatim i.secret = .error fault) (caller : Caller) (now : Instant)
    (asked : Span) :
    ((∃ token, i.issue now caller (some asked) = .ok token) ↔
      (unencodable? i.secret = none ∧ Mark.isMarked i.secret = false) ∧
      (Nat.toDigits 10 caller.userId.natAbs).length ≤ maxDigits ∧ now.Representable ∧
      (now + i.span (some asked) : Instant).Representable) ∧
    ∀ token, i.issue now caller (some asked) = .ok token →
      (asked ≠ 0 →
        (∀ t : Instant, t.Representable →
          (i.Accepts t token ↔ t.second ≤ Instant.second (now + asked))) ∧
        i.GoodUntil (Instant.second (now + asked)) token
          { caller.joined with claims := said caller.joined (now + asked) } ∧
        ∀ minutes, { i with minutes }.issue now caller (some asked) = .ok token) ∧
      (asked = 0 →
        (∀ t : Instant, t.Representable →
          (i.Accepts t token ↔ t.second ≤ now.second + i.minutes * 60)) ∧
        i.issue now caller none = .ok token) := by
  refine ⟨?_, fun token issued => ⟨fun filled => ?_, fun empty => ?_⟩⟩
  · rw [← takes_iff (a := a)]
    constructor
    · rintro ⟨token, issued⟩
      exact ((issue_eq_ok_iff keyed).1 issued).1
    · exact fun may => ⟨_, (issue_eq_ok_iff keyed).2 ⟨may, rfl⟩⟩
  · have good := good_until_expiry keyed plain issued
    have span : i.span (some asked) = asked := if_neg filled
    rw [span] at good
    exact ⟨fun t there => good.accepts_iff there, good, fun minutes =>
      (issue_minutes filled minutes).trans issued⟩
  · subst empty
    have good := good_until_expiry keyed plain issued
    have span : i.span (some 0) = Span.ofMinutes i.minutes := if_pos rfl
    rw [span, Instant.second_after_minutes] at good
    exact ⟨fun t there => good.accepts_iff there, issue_empty.symm.trans issued⟩

/-- A token of half a second, issued in the last tenth of a second, lasts through the next. -/
theorem half_second_is_kept :
    ∃ token, Issuer.issue ⟨"hush", "HS256", 5⟩ 900000 { userId := 7 } (some 500000) = .ok token ∧
      Accepts ⟨"hush", "HS256", 5⟩ 1999999 token ∧ ¬ Accepts ⟨"hush", "HS256", 5⟩ 2000000 token := by
  have plain : Json.parseVerbatim "hush" = .error (.malformed 4) := by rfl
  have kept := asked_lifetime_is_kept (i := ⟨"hush", "HS256", 5⟩) (a := .hs256) rfl plain
    { userId := 7 } 900000 500000
  obtain ⟨token, issued⟩ := kept.1.2 ⟨⟨by rfl, Mark.isMarked_eq_false (by decide)⟩, by decide,
    ⟨by decide, by decide⟩, ⟨by decide, by decide⟩⟩
  have accepts := ((kept.2 token issued).1 (by decide)).1
  refine ⟨token, issued, (accepts 1999999 ⟨by decide, by decide⟩).2 (by decide), ?_⟩
  exact fun accepted => absurd ((accepts 2000000 ⟨by decide, by decide⟩).1 accepted) (by decide)

/-- A token that was to last for no time at all is accepted five minutes later, although the
second in which its lifetime ran out is long over. -/
theorem empty_lifetime_is_outlived :
    ∃ token, Issuer.issue ⟨"hush", "HS256", 5⟩ 0 { userId := 7 } (some 0) = .ok token ∧
      Accepts ⟨"hush", "HS256", 5⟩ 300000000 token ∧
      ¬ Instant.second 300000000 ≤ Instant.second (0 + 0) := by
  have plain : Json.parseVerbatim "hush" = .error (.malformed 4) := by rfl
  have takes : Algorithm.Takes .hs256 "hush" :=
    takes_iff.2 ⟨by rfl, Mark.isMarked_eq_false (by decide)⟩
  have begins : Instant.Representable 0 := ⟨by decide, by decide⟩
  have ends : Instant.Representable (0 + span ⟨"hush", "HS256", 5⟩ (some 0)) :=
    ⟨by decide, by decide⟩
  have issued := issue_eq (i := ⟨"hush", "HS256", 5⟩) (a := .hs256) { userId := 7 } rfl takes
    (by decide) begins ends
  have good := good_until_expiry (a := .hs256) rfl plain issued
  exact ⟨_, issued, (good.accepts_iff ⟨by decide, by decide⟩).2 (by decide), by decide⟩

end Issuer

end GeoRegistry
