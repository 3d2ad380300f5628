/-
# Proofs.Token.Challenge -- what becomes of a token that is not accepted

A token that breaks a rule is answered by a challenge.  Only where the rules have no
answer does it end in another way, and `Escapes` says of each stage when that is so: text
without octets, documents that are nested too deep, keys that cannot be made, a clock
outside of the calendar, and a time that is null, a list, a record or infinite
(`uncountable`).  What follows on a stage escapes where the stage does, or behind it
(`escapes_bind_iff`).

The times are asked for their integers one after the other, and nothing is ready for one
that has none (`check_escapes_iff`): such a token is neither accepted nor challenged.
-/
import GeoRegistry.Proofs.Login
import GeoRegistry.Proofs.Token.Authentic

namespace GeoRegistry

set_option autoImplicit false

open Text

namespace Token

/-! ## Escapes -/

/-- The rules have no answer: a stage ends in a failure that is no rejection. -/
def Escapes {α : Type} (x : Except Fault α) : Prop :=
  ∃ e, x = .error (.unforeseen e)

section Escapes

variable {α β : Type}

@[simp] theorem escapes_ok (a : α) : ¬ Escapes (.ok a) := by
  simp [Escapes]

@[simp] theorem escapes_rejected (reason : Rejection) :
    ¬ Escapes (.error (.rejected reason) : Except Fault α) := by
  simp [Escapes]

@[simp] theorem escapes_unforeseen (e : Failure) :
    Escapes (.error (.unforeseen e) : Except Fault α) :=
  ⟨e, rfl⟩

/-- **Where a sequence of stages escapes.** -/
theorem escapes_bind_iff {x : Except Fault α} {f : α → Except Fault β} :
    Escapes (x >>= f) ↔ Escapes x ∨ ∃ a, x = .ok a ∧ Escapes (f a) := by
  cases x with
  | ok a => simp [bind, Except.bind]
  | error fault => cases fault <;> simp [bind, Except.bind]

theorem escapes_then_iff {x : Except Fault Unit} {y : Except Fault β} :
    Escapes (x >>= fun _ => y) ↔ Escapes x ∨ x = .ok () ∧ Escapes y := by
  cases x with
  | ok u => simp [bind, Except.bind]
  | error fault => cases fault <;> simp [bind, Except.bind]

@[simp] theorem escapes_orReject (reason : Rejection) (o : Option α) :
    ¬ Escapes (orReject reason o) := by
  cases o <;> simp [orReject]

end Escapes

/-! ## Unanswered failures -/

/-- A stage that escapes ends in a failure that no rule answers. -/
def Unanswered {α : Type} (x : Except Fault α) : Prop :=
  ∀ e, x = .error (.unforeseen e) → Http.Response.ofFailure? e = none

section Unanswered

variable {α β : Type}

theorem unanswered_of_not_escapes {x : Except Fault α} (foreseen : ¬ Escapes x) : Unanswered x :=
  fun e same => absurd ⟨e, same⟩ foreseen

theorem unanswered_unforeseen {e : Failure} (none_ : Http.Response.ofFailure? e = none) :
    Unanswered (.error (.unforeseen e) : Except Fault α) := by
  intro e' same
  cases same
  exact none_

theorem Unanswered.bind {x : Except Fault α} {f : α → Except Fault β} (first : Unanswered x)
    (rest : ∀ a, Unanswered (f a)) : Unanswered (x >>= f) := by
  intro e failed
  cases x with
  | ok a => exact rest a e failed
  | error fault =>
      cases failed
      exact first e rfl

end Unanswered

/-! ## Documents -/

/-- What stands in a segment is nested too deep to be read. -/
def Bottomless (segment : String) : Prop :=
  ∃ octets s container, Base64Url.decode? (Utf8.encode segment) = some octets ∧
    Utf8.decode? octets = some s ∧ Json.parse s = .error (.tooDeep container)

theorem readObject_escapes_iff {reason : Rejection} {octets : List UInt8} :
    Escapes (readObject reason octets) ↔
      ∃ s container, Utf8.decode? octets = some s ∧ Json.parse s = .error (.tooDeep container) := by
  unfold readObject
  cases text : Utf8.decode? octets with
  | none => simp
  | some s =>
      cases parsed : Json.parse s with
      | ok v => cases v <;> simp [parsed]
      | error fault => cases fault <;> simp [parsed]

theorem readObject_unanswered (reason : Rejection) (octets : List UInt8) :
    Unanswered (readObject reason octets) := by
  unfold readObject
  split
  · exact unanswered_of_not_escapes (escapes_ok _)
  · exact unanswered_unforeseen rfl
  · exact unanswered_of_not_escapes (escapes_rejected _)

theorem octets_escapes_iff {token : String} :
    Escapes (octets token) ↔ unencodable? token ≠ none := by
  unfold octets
  cases unencodable? token <;> simp

theorem octets_unanswered (token : String) : Unanswered (octets token) := by
  unfold octets
  cases unencodable? token with
  | some fault => exact unanswered_unforeseen rfl
  | none => exact unanswered_of_not_escapes (escapes_ok _)

theorem read_unanswered (token : String) : Unanswered (Signed.read token) := by
  have part {α : Type} (reason : Rejection) (o : Option α) : Unanswered (orReject reason o) :=
    unanswered_of_not_escapes (escapes_orReject reason o)
  refine (octets_unanswered token).bind fun octets => ?_
  refine (part _ _).bind fun last => (part _ _).bind fun first => (part _ _).bind fun header => ?_
  refine (readObject_unanswered _ _).bind fun fields => ?_
  refine (part _ _).bind fun payload => (part _ _).bind fun signature => ?_
  exact unanswered_of_not_escapes (escapes_ok _)

/-- A token that cannot be taken apart, and is not rejected for it, has no octets or a
header that is nested too deep. -/
theorem read_escapes {token : String} (escapes : Escapes (Signed.read token)) :
    unencodable? token ≠ none ∨
      ∃ header rest, token = header ++ "." ++ rest ∧ '.' ∉ header.toList ∧ Bottomless header := by
  rcases escapes_bind_iff.1 escapes with none_ | ⟨octets, encoded, escapes⟩
  · exact .inl (octets_escapes_iff.1 none_)
  have same : octets = Utf8.encode token := by
    unfold Token.octets at encoded
    split at encoded
    · cases encoded
    · exact (Except.ok.inj encoded).symm
  subst same
  -- behind the octets only the header can be to blame
  obtain ⟨⟨text, signature⟩, last, escapes⟩ :=
    (escapes_bind_iff.1 escapes).resolve_left (escapes_orReject _ _)
  obtain ⟨⟨header, payload⟩, first, escapes⟩ :=
    (escapes_bind_iff.1 escapes).resolve_left (escapes_orReject _ _)
  obtain ⟨headerOctets, decoded, escapes⟩ :=
    (escapes_bind_iff.1 escapes).resolve_left (escapes_orReject _ _)
  rcases escapes_bind_iff.1 escapes with deep | ⟨fields, -, escapes⟩
  · obtain ⟨s, container, text, parsed⟩ := readObject_escapes_iff.1 deep
    obtain ⟨before, behind, rfl, -, rfl, -⟩ := atLastDot?_encode (orReject_eq_ok last)
    obtain ⟨front, middle, rfl, free, rfl, -⟩ := atFirstDot?_encode (orReject_eq_ok first)
    refine .inr ⟨front, middle ++ "." ++ behind, by simp [String.append_assoc], free, ?_⟩
    exact ⟨headerOctets, s, container, orReject_eq_ok decoded, text, parsed⟩
  · obtain ⟨payloadOctets, -, escapes⟩ :=
      (escapes_bind_iff.1 escapes).resolve_left (escapes_orReject _ _)
    obtain ⟨signatureOctets, -, escapes⟩ :=
      (escapes_bind_iff.1 escapes).resolve_left (escapes_orReject _ _)
    exact absurd escapes (escapes_ok _)

@[simp] theorem checkAlgorithm_escapes (s : Signed) (expected : String) :
    ¬ Escapes (s.checkAlgorithm expected) := by
  unfold Signed.checkAlgorithm
  split
  · simp
  · split
    · simp
    · split
      · split <;> simp
      · simp

/-! ## Keys -/

/-- Every key that the secret spells can be made. -/
def Algorithm.Opens (a : Algorithm) (secret : String) : Prop :=
  ∃ keys, Key.spelled secret = .ok keys ∧ ∀ v ∈ keys, ∃ key, Key.forDigest a v = .ok key

/-- A secret that is no JSON text is one key. -/
theorem Algorithm.Takes.opens {a : Algorithm} {secret : String} {fault : Json.Fault}
    (takes : a.Takes secret) (plain : Json.parseVerbatim secret = .error fault) :
    a.Opens secret := by
  refine ⟨_, Key.spelled_of_error plain, fun v member => ?_⟩
  obtain rfl := List.mem_singleton.1 member
  exact ⟨_, takes⟩

theorem anySigns_eq_ok {a : Algorithm} (message signature : List UInt8) {keys : List Json}
    (made : ∀ v ∈ keys, ∃ key, Key.forDigest a v = .ok key) :
    ∃ good, Key.anySigns (some (.digest a)) a.name message signature keys = .ok good := by
  induction keys with
  | nil => exact ⟨false, rfl⟩
  | cons v rest ih =>
      obtain ⟨key, first⟩ := made v (.head _)
      obtain ⟨good, others⟩ := ih fun w member => made w (.tail _ member)
      have first : Key.make (some (.digest a)) a.name v = .ok key := first
      simp only [Key.anySigns, first, bind, Except.bind]
      split
      · exact ⟨true, rfl⟩
      · exact ⟨good, others⟩

theorem checkSignature_escapes {a : Algorithm} {secret : String} (opens : a.Opens secret)
    (s : Signed) : ¬ Escapes (s.checkSignature a.name secret) := by
  obtain ⟨keys, spelled, made⟩ := opens
  obtain ⟨good, tried⟩ := anySigns_eq_ok s.text s.signature made
  unfold Signed.checkSignature
  rw [spelled, accepting?_name]
  simp only [bind, Except.bind, tried, Except.mapError]
  cases good <;> simp [pure, Except.pure]

theorem checkSignature_unanswered (s : Signed) (algorithm secret : String) :
    Unanswered (s.checkSignature algorithm secret) := by
  unfold Signed.checkSignature
  refine Unanswered.bind ?_ fun good => ?_
  · generalize (Key.spelled secret >>= fun keys => _ : Except KeyFault Bool) = good
    cases good with
    | ok _ => exact unanswered_of_not_escapes (escapes_ok _)
    | error fault => exact unanswered_unforeseen rfl
  · cases good with
    | true => exact unanswered_of_not_escapes (escapes_ok _)
    | false => exact unanswered_of_not_escapes (escapes_rejected _)

/-! ## Payloads -/

/-- A document of the token is nested too deep to be read. -/
def TooDeep (token : String) : Prop :=
  (∃ header rest, token = header ++ "." ++ rest ∧ '.' ∉ header.toList ∧ Bottomless header) ∨
  ∃ header payload signature, token = header ++ "." ++ payload ++ "." ++ signature ∧
    '.' ∉ header.toList ∧ '.' ∉ signature.toList ∧ Bottomless payload

/-- **A payload is had or the token is rejected** unless the token has no octets or a document
that is too deep. -/
theorem verified_escapes {a : Algorithm} {secret token : String} (opens : a.Opens secret)
    (escapes : Escapes (verified a.name secret token)) :
    unencodable? token ≠ none ∨ TooDeep token := by
  rcases escapes_bind_iff.1 escapes with apart | ⟨s, read, escapes⟩
  · exact (read_escapes apart).imp id .inl
  obtain ⟨-, escapes⟩ := (escapes_then_iff.1 escapes).resolve_left (checkAlgorithm_escapes _ _)
  obtain ⟨-, escapes⟩ := (escapes_then_iff.1 escapes).resolve_left (checkSignature_escapes opens s)
  obtain ⟨text, container, decoded, parsed⟩ := readObject_escapes_iff.1 escapes
  obtain ⟨header, payload, signature, whole, headerFree, signatureFree, -, stands, -⟩ :=
    read_eq_ok read
  exact .inr (.inr ⟨header, payload, signature, whole, headerFree, signatureFree, s.payload, text,
    container, stands, decoded, parsed⟩)

theorem verified_unanswered (algorithm secret token : String) :
    Unanswered (verified algorithm secret token) := by
  refine (read_unanswered token).bind fun s => ?_
  refine (unanswered_of_not_escapes (checkAlgorithm_escapes s algorithm)).bind fun _ => ?_
  exact (checkSignature_unanswered s algorithm secret).bind fun _ => readObject_unanswered _ _

/-! ## Claims -/

/-- Nothing can be made an integer of: what is null, a list, a record or infinite. -/
def uncountable : Json → Bool
  | .null | .array _ | .object _ | .float (.infinite _) => true
  | _ => false

namespace Claims

variable {claims : Claims} {now : Instant}

theorem integer_escapes_iff {unreadable : Rejection} {v : Json} :
    Escapes (integer unreadable v) ↔ uncountable v = true := by
  unfold integer
  cases v with
  | text s =>
      simp only [Cell.ofJson, Cell.integer]
      cases readInteger s.toList with
      | ok n => simp [Except.mapError, uncountable]
      | error fault => cases fault <;> simp [Except.mapError, Cell.literalFailure, uncountable]
  | float x => cases x <;> simp [Cell.ofJson, Cell.integer, Binary64.truncate?, uncountable]
  | _ => simp [Cell.ofJson, Cell.integer, uncountable]

theorem integer_unanswered (unreadable : Rejection) (v : Json) :
    Unanswered (integer unreadable v) := by
  by_cases escapes : uncountable v = true
  · unfold integer
    cases v with
    | float x =>
        cases x with
        | infinite negative => exact unanswered_unforeseen rfl
        | _ => cases escapes
    | null | array items | object fields => exact unanswered_unforeseen rfl
    | _ => cases escapes
  · exact unanswered_of_not_escapes fun this => escapes (integer_escapes_iff.1 this)

theorem second_unanswered (now : Instant) : Unanswered (second now) := by
  unfold second Instant.shown
  split
  · exact unanswered_of_not_escapes (escapes_ok _)
  · split
    · exact unanswered_unforeseen rfl
    · split <;> exact unanswered_unforeseen rfl

theorem second_of_representable (there : now.Representable) : second now = .ok now.second := by
  rw [second, Instant.shown_eq there]
  rfl

@[simp] theorem need_escapes (reason : Rejection) (condition : Bool) :
    ¬ Escapes (need reason condition) := by
  cases condition <;> simp [need]

theorem need_eq_ok_iff {reason : Rejection} {condition : Bool} :
    need reason condition = .ok () ↔ condition = true := by
  cases condition <;> simp [need]

/-- The time of a claim is an integer of which something holds, if there is the claim. -/
def Timely (claims : Claims) (name : String) (p : Int → Prop) : Prop :=
  ∀ v, claims.lookup name = some v → ∃ n, (Cell.ofJson v).integer = .ok n ∧ p n

/-- The time of a claim is something of which no integer can be made. -/
def Timeless (claims : Claims) (name : String) : Prop :=
  ∃ v, claims.lookup name = some v ∧ uncountable v = true

section Times

variable {name : String} {unreadable : Rejection} {check : Int → Except Fault Unit}

/-- The check of a time escapes just when the time is no integer. -/
theorem time_escapes_iff (quiet : ∀ n, ¬ Escapes (check n)) :
    Escapes (claims.ifPresent name fun v => integer unreadable v >>= check) ↔
      claims.Timeless name := by
  unfold ifPresent Timeless
  cases claims.lookup name with
  | none => simp
  | some v => simp [escapes_bind_iff, integer_escapes_iff, quiet]

theorem time_eq_ok_iff {p : Int → Prop} (passes : ∀ n, check n = .ok () ↔ p n) :
    (claims.ifPresent name fun v => integer unreadable v >>= check) = .ok () ↔
      claims.Timely name p := by
  unfold ifPresent Timely
  cases claims.lookup name with
  | none => simp
  | some v =>
      simp only [Option.some.injEq, forall_eq']
      constructor
      · intro made
        obtain ⟨n, read, checked⟩ := bind_eq_ok made
        exact ⟨n, integer_eq_ok read, (passes n).1 checked⟩
      · rintro ⟨n, read, holds⟩
        have found : integer unreadable v = .ok n := by
          rw [integer, read]
        rw [found]
        exact (passes n).2 holds

end Times

/-- The first of the three times that is not in order is one of which no integer can be
made. -/
def Baffle (claims : Claims) (now : Instant) : Prop :=
  claims.Timeless "iat" ∨
  claims.Timely "iat" (fun _ => True) ∧
    (claims.Timeless "nbf" ∨
     claims.Timely "nbf" (· ≤ now.second) ∧ claims.Timeless "exp")

/-- What follows on the times is decided by the rules. -/
theorem others_foreseen (claims : Claims) :
    ¬ Escapes (do
      claims.ifPresent "aud" checkAudience
      claims.ifPresent "sub" fun v => need .subject (isText v)
      claims.ifPresent "jti" fun v => need .tokenId (isText v)
      claims.ifPresent "at_hash" fun _ => .error (.rejected .noAccessToken)) := by
  have quiet {name : String} {check : Json → Except Fault Unit} (all : ∀ v, ¬ Escapes (check v)) :
      ¬ Escapes (claims.ifPresent name check) := by
    unfold ifPresent
    cases claims.lookup name with
    | none => simp
    | some v => exact all v
  have audience (v : Json) : ¬ Escapes (checkAudience v) := by
    cases v <;> simp [checkAudience]
  simp [escapes_then_iff, quiet, audience]

/-- **Claims escape** just when they hold a time that nothing is ready for. -/
theorem check_escapes_iff (there : now.Representable) :
    Escapes (claims.check now) ↔ claims.Baffle now := by
  have clock := second_of_representable there
  have compared (reason : Rejection) (holds : Int → Bool) :
      (second now >>= fun shown => need reason (holds shown)) = need reason (holds now.second) := by
    rw [clock]
    rfl
  -- each time is asked for its integer, and the next one only when it is in order
  have iat : Escapes (claims.ifPresent "iat" fun v => integer .issuedAt v >>= fun _ => pure ()) ↔
      claims.Timeless "iat" := time_escapes_iff fun _ => escapes_ok ()
  have issued : (claims.ifPresent "iat" fun v => integer .issuedAt v >>= fun _ => pure ()) = .ok () ↔
      claims.Timely "iat" fun _ => True :=
    time_eq_ok_iff fun _ => ⟨fun _ => trivial, fun _ => rfl⟩
  have nbf : Escapes (claims.ifPresent "nbf" fun v => integer .notBefore v >>= fun n =>
      second now >>= fun shown => need .notYetValid (n ≤ shown)) ↔ claims.Timeless "nbf" :=
    time_escapes_iff fun n => by
      rw [compared .notYetValid fun shown => n ≤ shown]
      exact need_escapes _ _
  have begun : (claims.ifPresent "nbf" fun v => integer .notBefore v >>= fun n =>
      second now >>= fun shown => need .notYetValid (n ≤ shown)) = .ok () ↔
        claims.Timely "nbf" (· ≤ now.second) :=
    time_eq_ok_iff fun n => by
      rw [compared .notYetValid fun shown => n ≤ shown, need_eq_ok_iff, decide_eq_true_iff]
  have exp : Escapes (claims.ifPresent "exp" fun v => integer .expiry v >>= fun n =>
      second now >>= fun shown => need .expired (shown ≤ n)) ↔ claims.Timeless "exp" :=
    time_escapes_iff fun n => by
      rw [compared .expired fun shown => shown ≤ n]
      exact need_escapes _ _
  refine escapes_then_iff.trans (or_congr iat (and_congr issued ?_))
  refine escapes_then_iff.trans (or_congr nbf (and_congr begun ?_))
  refine (escapes_then_iff.trans ?_).trans exp
  exact or_iff_left fun this => others_foreseen claims this.2

theorem check_unanswered (claims : Claims) (now : Instant) : Unanswered (claims.check now) := by
  have present {name : String} {check : Json → Except Fault Unit} (all : ∀ v, Unanswered (check v)) :
      Unanswered (claims.ifPresent name check) := by
    unfold ifPresent
    cases claims.lookup name with
    | none => exact unanswered_of_not_escapes (escapes_ok _)
    | some v => exact all v
  have needed (reason : Rejection) (condition : Bool) : Unanswered (need reason condition) :=
    unanswered_of_not_escapes (need_escapes reason condition)
  have clock := second_unanswered now
  refine Unanswered.bind (present fun v => ?_) fun _ => ?_
  · exact (integer_unanswered _ v).bind fun _ => unanswered_of_not_escapes (escapes_ok _)
  refine Unanswered.bind (present fun v => ?_) fun _ => ?_
  · exact (integer_unanswered _ v).bind fun _ => clock.bind fun _ => needed _ _
  refine Unanswered.bind (present fun v => ?_) fun _ => ?_
  · exact (integer_unanswered _ v).bind fun _ => clock.bind fun _ => needed _ _
  exact unanswered_of_not_escapes (others_foreseen claims)

end Claims

end Token

/-! ## Bearers -/

namespace Issuer

open Token

/-- Who bears a token whose claims hold is known, or a better token is asked for. -/
theorem bearer_challenges {claims : Claims}
    (subject : ∀ v, claims.lookup "sub" = some v → ∃ s, v = .text s) :
    (∃ caller, bearer claims = .ok caller) ∨ ∃ e, bearer claims = .error e ∧ e.Challenges := by
  unfold bearer
  cases found : claims.lookup "sub" with
  | none => exact .inr ⟨_, rfl, Failure.challenges_unauthorized _⟩
  | some v =>
      obtain ⟨s, rfl⟩ := subject v found
      simp only [Cell.ofJson, Cell.integer]
      cases readInteger s.toList with
      | error fault =>
          cases fault <;> exact .inr ⟨_, rfl, Failure.challenges_unauthorized _⟩
      | ok id =>
          simp only [Except.mapError]
          split
          · exact .inl ⟨_, rfl⟩
          · exact .inr ⟨_, rfl, Failure.challenges_unauthorized _⟩

/-- Nothing keeps a token from being accepted or challenged. -/
structure Answerable (a : Algorithm) (secret : String) (now : Instant) (token : String) :
    Prop where
  encodes : unencodable? token = none
  shallow : ¬ TooDeep token
  opens : a.Opens secret
  clock : now.Representable
  countable : ∀ claims : Claims, verified a.name secret token = .ok claims → ¬ claims.Baffle now

section Tokens

variable (i : Issuer) (now : Instant) (token : String)

theorem claims_escapes_iff :
    Escapes (i.claims now token) ↔
      Escapes (verified i.algorithm i.secret token) ∨
        ∃ claims : Claims, verified i.algorithm i.secret token = .ok claims ∧
          Escapes (claims.check now) := by
  rw [Issuer.claims, escapes_bind_iff]
  simp [escapes_bind_iff, pure, Except.pure]

theorem claims_unanswered : Unanswered (i.claims now token) :=
  (verified_unanswered _ _ _).bind fun claims => (Claims.check_unanswered claims now).bind fun _ =>
    unanswered_of_not_escapes (escapes_ok _)

/-- **What becomes of a token**: it is accepted or challenged, or its claims escape and no rule
answers. -/
theorem authenticate_trichotomy (ε : Type) :
    ∃ o, Dialogue.Idle (i.authenticate now token : Dialogue ε Caller) o ∧
      (¬ Escapes (i.claims now token) ∧
          ((∃ caller, o = .ok caller) ∨ ∃ e, o = .error e ∧ e.Challenges) ∨
        Escapes (i.claims now token) ∧
          ∃ e, o = .error e ∧ Http.Response.ofFailure? e = none) := by
  unfold authenticate
  cases held : i.claims now token with
  | ok claims =>
      obtain ⟨verified, made, rest⟩ := bind_eq_ok held
      obtain ⟨⟨⟩, checked, rest⟩ := bind_eq_ok rest
      obtain rfl := Except.ok.inj rest
      refine ⟨_, Dialogue.idle_finish _, .inl ⟨escapes_ok _, ?_⟩⟩
      exact bearer_challenges (check_eq_ok checked).2
  | error fault =>
      cases fault with
      | rejected reason =>
          refine ⟨_, (Dialogue.idle_finish _).note _, .inl ⟨escapes_rejected _, .inr ⟨_, rfl, ?_⟩⟩⟩
          exact Failure.challenges_unauthorized _
      | unforeseen e =>
          refine ⟨_, Dialogue.idle_finish _, .inr ⟨escapes_unforeseen e, e, rfl, ?_⟩⟩
          exact claims_unanswered i now token e held

end Tokens

/-- **Invalid tokens are challenged.**  A text that is presented as a token is accepted, or it
is answered by a challenge for a token, or no rule answers.  There is always one of the former
answers if the text has octets and no document in it is too deep, the keys of the secret can
be made, the clock shows a moment of the calendar, and the claims of the token do not baffle.
When a payload can be read there is no such answer just when its claims do baffle: the first
of the issue, the start and the expiry that is not in order is null, a list, a record or
infinite.  Who presents nothing is challenged. -/
theorem invalid_tokens_are_challenged {i : Issuer} {a : Algorithm} (ε : Type)
    (keyed : i.algorithm = a.name) (now : Instant) :
    (∀ token, ∃ o, Dialogue.Idle (i.caller now (some token) : Dialogue ε Caller) o ∧
      ((∃ caller, o = .ok caller) ∨ (∃ e, o = .error e ∧ e.Challenges) ∨
        ∃ e, o = .error e ∧ Http.Response.ofFailure? e = none) ∧
      (Answerable a i.secret now token →
        (∃ caller, o = .ok caller) ∨ ∃ e, o = .error e ∧ e.Challenges) ∧
      (∀ claims : Claims, verified a.name i.secret token = .ok claims → now.Representable →
        ((∃ e, o = .error e ∧ Http.Response.ofFailure? e = none) ↔ claims.Baffle now))) ∧
    ∃ e, Dialogue.Idle (i.caller now none : Dialogue ε Caller) (.error e) ∧ e.Challenges := by
  refine ⟨fun token => ?_, _, Dialogue.idle_finish _, Failure.challenges_unauthorized _⟩
  obtain ⟨o, idle, cases_⟩ := authenticate_trichotomy i now token ε
  have escape := claims_escapes_iff i now token
  rw [keyed] at escape
  refine ⟨o, idle, ?_, ?_, ?_⟩
  · rcases cases_ with ⟨-, caller | challenge⟩ | ⟨-, unanswered⟩
    · exact .inl caller
    · exact .inr (.inl challenge)
    · exact .inr (.inr unanswered)
  · intro answerable
    rcases cases_ with ⟨-, answered⟩ | ⟨escapes, -⟩
    · exact answered
    · exfalso
      rcases escape.1 escapes with unread | ⟨claims, read, baffling⟩
      · rcases verified_escapes answerable.opens unread with none_ | deep
        · exact none_ answerable.encodes
        · exact answerable.shallow deep
      · exact answerable.countable claims read
          ((Claims.check_escapes_iff answerable.clock).1 baffling)
  · intro claims read there
    rw [← Claims.check_escapes_iff there]
    have here : Escapes (i.claims now token) ↔ Escapes (claims.check now) := by
      rw [escape, read]
      simp
    constructor
    · rintro ⟨e, rfl, unanswered⟩
      rcases cases_ with ⟨-, ⟨caller, same⟩ | ⟨e', same, response, shown, -⟩⟩ | ⟨escapes, -⟩
      · cases same
      · cases same
        rw [unanswered] at shown
        cases shown
      · exact here.1 escapes
    · intro escapes
      rcases cases_ with ⟨foreseen, -⟩ | ⟨-, unanswered⟩
      · exact absurd (here.2 escapes) foreseen
      · exact unanswered

/-! ## A token without an answer -/

/-- An issuer with a short secret. -/
def hushed : Issuer := ⟨"hush", "HS256", 1⟩

/-- A payload whose expiry is null. -/
def endless : Claims := [("sub", .text "7"), ("exp", .null)]

theorem hushed_keys :
    Algorithm.hs256.Takes "hush" ∧ Json.parseVerbatim "hush" = .error (.malformed 4) :=
  ⟨takes_iff.2 ⟨by rfl, Mark.isMarked_eq_false (by decide)⟩, by rfl⟩

theorem verified_endless :
    verified "HS256" "hush" (signedToken .hs256 "hush" endless) = .ok endless :=
  verified_signedToken (a := .hs256) hushed_keys.1 hushed_keys.2
    (by
      show (Json.object endless).Legible
      simp [endless, Json.Legible, Json.FieldsLegible]) (by decide)

/-- A token is signed as it should be, but has a null for its expiry: no rule answers.  A text
without dots is challenged, and so is who presents nothing. -/
theorem endless_token_is_not_answered :
    hushed.algorithm = Algorithm.hs256.name ∧ Answerable .hs256 "hush" 0 "x" ∧
      Instant.Representable 0 ∧ endless.Baffle 0 ∧
      (∃ o, Dialogue.Idle (hushed.caller 0 (some "x") : Dialogue Empty Caller) o ∧
        ((∃ caller, o = .ok caller) ∨ ∃ e, o = .error e ∧ e.Challenges)) ∧
      (∃ e, Dialogue.Idle
          (hushed.caller 0 (some (signedToken .hs256 "hush" endless)) : Dialogue Empty Caller)
          (.error e) ∧ Http.Response.ofFailure? e = none) ∧
      ∃ e, Dialogue.Idle (hushed.caller 0 none : Dialogue Empty Caller) (.error e) ∧
        e.Challenges := by
  obtain ⟨presented, nothing⟩ :=
    invalid_tokens_are_challenged (i := hushed) (a := .hs256) Empty rfl 0
  have there : Instant.Representable 0 := ⟨by decide, by decide⟩
  have baffles : endless.Baffle 0 :=
    .inr ⟨fun _ found => (nomatch found), .inr ⟨fun _ found => (nomatch found), .null, rfl, rfl⟩⟩
  have answerable : Answerable .hs256 "hush" 0 "x" := by
    refine ⟨by rfl, ?_, hushed_keys.1.opens hushed_keys.2, there, fun claims read => nomatch read⟩
    have dotless (before after : String) : "x" ≠ before ++ "." ++ after := by
      intro whole
      have dots := congrArg (fun s => s.toList.count '.') whole
      simp [String.toList_append] at dots
    rintro (⟨header, rest, whole, -⟩ | ⟨header, payload, signature, whole, -⟩)
    · exact dotless _ _ whole
    · exact dotless _ _ whole
  obtain ⟨o, idle, -, answered, -⟩ := presented "x"
  obtain ⟨o', idle', -, -, unanswered⟩ := presented (signedToken .hs256 "hush" endless)
  obtain ⟨e, rfl, none_⟩ := (unanswered endless verified_endless there).2 baffles
  exact ⟨rfl, answerable, there, baffles, ⟨o, idle, answered answerable⟩, ⟨e, idle', none_⟩, nothing⟩

/-- **An invalid token that is not challenged**: its expiry is null, so that its claims cannot
be checked and no caller is known. -/
theorem not_every_invalid_token_challenged :
    ¬ ∀ token, ∃ o, Dialogue.Idle (hushed.authenticate 0 token : Dialogue Empty Caller) o ∧
      ((∃ caller, o = .ok caller) ∨ ∃ e, o = .error e ∧ e.Challenges) := by
  intro all
  have held : hushed.claims 0 (signedToken .hs256 "hush" endless) =
      .error (.unforeseen .wrongType) := by
    rw [Issuer.claims, show hushed.algorithm = "HS256" from rfl,
      show hushed.secret = "hush" from rfl, verified_endless]
    rfl
  have ended : Dialogue.Idle
      (hushed.authenticate 0 (signedToken .hs256 "hush" endless) : Dialogue Empty Caller)
      (.error .wrongType) := by
    rw [authenticate, held]
    exact Dialogue.idle_finish _
  obtain ⟨o, idle, answered⟩ := all (signedToken .hs256 "hush" endless)
  obtain ⟨-, rfl⟩ := (ended [] o).1 ((idle [] o).2 ⟨rfl, rfl⟩)
  rcases answered with ⟨caller, same⟩ | ⟨e, same, response, shown, -⟩
  · cases same
  · cases same
    cases shown

end Issuer

end GeoRegistry
