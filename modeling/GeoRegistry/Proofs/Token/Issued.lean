/-
# Proofs.Token.Issued -- tokens that are issued are accepted

What is written on the way out is read on the way in, stage by stage: the token is ASCII
with three segments, its documents are legible and so are read back, the signature is made
again, and the claims hold until the expiry.  So the bearer of a token is the caller it was
issued to.  Only halves of a character that stand side by side in a text of the caller are
read as the character (`Caller.joined`); a caller without them comes back as it is.
-/
import GeoRegistry.Proofs.Dialogue
import GeoRegistry.Proofs.Json.Ascii
import GeoRegistry.Proofs.Json.RoundTrip
import GeoRegistry.Proofs.Text.Base64Url
import GeoRegistry.Proofs.Text.Utf8
import GeoRegistry.Proofs.Token.Segments
import GeoRegistry.Token

namespace GeoRegistry

set_option autoImplicit false

open Text

namespace Token

/-! ## Keys -/

theorem ofName?_name (a : Algorithm) : Algorithm.ofName? a.name = some a := by
  cases a <;> rfl

theorem issuing?_name (a : Algorithm) : Family.issuing? a.name = some (.digest a) := by
  simp [Family.issuing?, ofName?_name]

theorem accepting?_name (a : Algorithm) : Family.accepting? a.name = some (.digest a) := by
  simp [Family.accepting?, issuing?_name]

/-- A secret under which an algorithm signs: its key is the octets of the secret. -/
def Algorithm.Takes (a : Algorithm) (secret : String) : Prop :=
  Key.forDigest a (.text secret) = .ok (.digest a (Utf8.encode secret))

/-- Every secret that has octets and is not marked as something else will do. -/
theorem takes_iff {a : Algorithm} {secret : String} :
    a.Takes secret ↔ unencodable? secret = none ∧ Mark.isMarked secret = false := by
  unfold Algorithm.Takes Key.forDigest Key.octets
  -- the octets are asked for before the marks are
  cases found : unencodable? secret with
  | some fault => simp [found, bind, Except.bind]
  | none => cases marked : Mark.isMarked secret <;> simp [found, marked, bind, Except.bind]

namespace Mark

theorem mem_of_isPart {part cs : List Char} (found : isPart part cs = true) :
    ∀ c ∈ part, c ∈ cs := by
  induction cs with
  | nil =>
      have empty : part = [] := List.isEmpty_iff.1 found
      simp [empty]
  | cons d rest ih =>
      simp only [isPart, Bool.or_eq_true] at found
      rcases found with here | later
      · exact fun c member => (List.isPrefixOf_iff_prefix.1 here).subset member
      · exact fun c member => .tail _ (ih later c member)

/-- There is a hyphen in every mark. -/
theorem isMarked_eq_false {s : String} (free : '-' ∉ s.toList) : isMarked s = false := by
  have apart {part : String} (hyphen : '-' ∈ part.toList) :
      ¬ isPart part.toList s.toList = true := fun found =>
    free (mem_of_isPart found _ hyphen)
  rw [Bool.eq_false_iff]
  intro marked
  simp only [isMarked, isAnnounced, namesKind, namesCertified, Bool.or_eq_true,
    List.any_eq_true, Bool.and_eq_true] at marked
  rcases marked with ⟨what, _, line, member, found⟩ | ⟨kind, member, found⟩ | ⟨⟨ending, _⟩, _⟩
  · refine apart ?_ found
    simp only [lines, List.mem_flatMap, List.mem_map] at member
    obtain ⟨before, _, behind, _, rfl⟩ := member
    simp
  · have hyphens : ∀ kind ∈ kinds, '-' ∈ kind.toList := by decide
    exact apart (hyphens kind member) found
  · have hyphen : '-' ∈ certified.toList := by decide
    have kept := (List.isSuffixOf_iff_suffix.1 ending).subset hyphen
    exact free (List.takeWhile_subset _ kept)

end Mark

/-! ## Segments -/

/-- What is written in segments is ASCII, and has no dot. -/
theorem segment_plain (octets : List UInt8) :
    ∀ c ∈ (Base64Url.encode octets).toList, c.toNat < 0x80 ∧ c ≠ '.' := by
  simpa [Base64Url.encode] using Base64Url.letters_plain octets

theorem dot_not_mem_encode (octets : List UInt8) :
    '.' ∉ (Base64Url.encode octets).toList := fun member =>
  (segment_plain octets _ member).2 rfl

/-- The token of a header, a payload and a signature. -/
def dotted (header payload signature : List UInt8) : String :=
  Base64Url.encode header ++ "." ++ Base64Url.encode payload ++ "." ++ Base64Url.encode signature

theorem octets_dotted (header payload signature : List UInt8) :
    octets (dotted header payload signature) =
      .ok (Utf8.encode (dotted header payload signature)) := by
  have ascii : ∀ c ∈ (dotted header payload signature).toList, c.toNat < 0x80 := by
    intro c member
    simp only [dotted, String.toList_append, List.mem_append] at member
    have point : c ∈ ".".toList → c.toNat < 0x80 := fun here => by
      obtain rfl := List.mem_singleton.1 here
      decide
    rcases member with (((first | dot) | middle) | dot) | last
    · exact (segment_plain _ c first).1
    · exact point dot
    · exact (segment_plain _ c middle).1
    · exact point dot
    · exact (segment_plain _ c last).1
  rw [octets, unencodable?_ascii ascii]

/-! ## Documents -/

theorem readObject_render (reason : Rejection) {fields : List (String × Json)}
    (legible : (Json.object fields).joined.Legible)
    (deep : (Json.object fields).nesting ≤ Json.depthLimit) :
    readObject reason (Utf8.encode ((Json.object fields).render Json.compact)) =
      .ok (Json.joinedFields fields) := by
  rw [readObject, Utf8.decode?_encode, Option.map_some,
    Json.parse_joined Json.compact_sound legible deep]
  rfl

/-- The text of a token that is signed. -/
def signedText (a : Algorithm) (fields : List (String × Json)) : String :=
  segment (header a.name) ++ "." ++ segment (.object fields)

/-- A token for a payload, signed under a secret. -/
def signedToken (a : Algorithm) (secret : String) (fields : List (String × Json)) : String :=
  signedText a fields ++ "." ++
    Base64Url.encode (a.sign (Utf8.encode secret) (Utf8.encode (signedText a fields)))

section Token

variable {a : Algorithm} {secret : String} (takes : a.Takes secret)
  {fields : List (String × Json)}

include takes in
/-- **What is written for a payload.** -/
theorem write_eq : write a.name secret (.object fields) = .ok (signedToken a secret fields) := by
  have key : Key.issuing a.name secret = .ok (.digest a (Utf8.encode secret)) := by
    rw [Key.issuing, issuing?_name]
    exact takes
  rw [write, key]
  rfl

theorem header_seamless : (header a.name).Seamless := by
  cases a <;> rfl

theorem header_legible : (header a.name).joined.Legible := by
  rw [header_seamless, header]
  simp [Json.Legible, Json.FieldsLegible]

theorem header_shallow : (header a.name).nesting ≤ Json.depthLimit := by
  simp [header, Json.nesting, Json.fieldsNesting, Json.depthLimit]

/-- **A token that was signed is taken apart** as it was put together. -/
theorem read_signedToken :
    Signed.read (signedToken a secret fields) = .ok
      { header := [("alg", .text a.name), ("typ", .text "JWT")],
        payload := Utf8.encode ((Json.object fields).render Json.compact),
        text := Utf8.encode (signedText a fields),
        signature := a.sign (Utf8.encode secret) (Utf8.encode (signedText a fields)) } := by
  have encoded : octets (signedToken a secret fields) =
      .ok (Utf8.encode (signedToken a secret fields)) := octets_dotted ..
  have last : atLastDot? (Utf8.encode (signedToken a secret fields)) =
      some (Utf8.encode (signedText a fields), Utf8.encode (Base64Url.encode
        (a.sign (Utf8.encode secret) (Utf8.encode (signedText a fields))))) :=
    atLastDot?_eq_some_iff.2 ⟨encode_dotted .., fun member =>
      dot_not_mem_encode _ (dot_mem_encode_iff.1 member)⟩
  have first : atFirstDot? (Utf8.encode (signedText a fields)) =
      some (Utf8.encode (segment (header a.name)), Utf8.encode (segment (.object fields))) :=
    atFirstDot?_eq_some_iff.2 ⟨encode_dotted .., fun member =>
      dot_not_mem_encode _ (dot_mem_encode_iff.1 member)⟩
  have decoded (v : Json) : Base64Url.decode? (Utf8.encode (segment v)) =
      some (Utf8.encode (v.render Json.compact)) := Base64Url.decode?_encode _
  have read := readObject_render .header (header_legible (a := a)) header_shallow
  rw [Signed.read, encoded]
  simp only [bind, Except.bind, last, first, orReject, decoded, Base64Url.decode?_encode]
  rw [header, read, header_seamless.field]
  rfl

theorem checkAlgorithm_ok {s : Signed} (named : s.header.lookup "alg" = some (.text a.name)) :
    s.checkAlgorithm a.name = .ok () := by
  have some_ : (Cell.ofJson (.text a.name)).isFalsy = false := by cases a <;> decide
  simp [Signed.checkAlgorithm, named, some_]

include takes in
theorem checkSignature_ok {s : Signed} {fault : Json.Fault}
    (plain : Json.parseVerbatim secret = .error fault)
    (signed : s.signature = a.sign (Utf8.encode secret) s.text) :
    s.checkSignature a.name secret = .ok () := by
  have key : Key.make (Family.accepting? a.name) a.name (.text secret) =
      .ok (.digest a (Utf8.encode secret)) := by
    rw [accepting?_name]
    exact takes
  simp [Signed.checkSignature, Key.spelled_of_error plain, Key.anySigns, key, Key.sign, signed,
    bind, Except.bind, Except.toOption, Except.mapError, pure, Except.pure]

include takes in
/-- **A token that was signed verifies**, and gives back its payload with halves joined. -/
theorem verified_signedToken {fault : Json.Fault} (plain : Json.parseVerbatim secret = .error fault)
    (legible : (Json.object fields).joined.Legible)
    (shallow : (Json.object fields).nesting ≤ Json.depthLimit) :
    verified a.name secret (signedToken a secret fields) = .ok (Json.joinedFields fields) := by
  rw [verified, read_signedToken]
  simp only [bind, Except.bind]
  rw [checkAlgorithm_ok (by rfl), checkSignature_ok takes plain (by rfl)]
  exact readObject_render .payload legible shallow

end Token

end Token

/-! ## Times -/

namespace Instant

/-- The moment is in the calendar. -/
def Representable (t : Instant) : Prop :=
  first ≤ t ∧ t ≤ last

theorem representable_iff {t : Instant} :
    t.Representable ↔
      @LE.le Int _ (-62135596800000000) t ∧ @LE.le Int _ t 253402300799999999 :=
  Iff.rfl

theorem shown_eq {t : Instant} (there : t.Representable) : t.shown = .ok t :=
  if_pos there

/-- The calendar ends with the end of a second. -/
theorem representable_of_second_le {t e : Instant} (begun : first ≤ t) (ends : e.Representable)
    (earlier : t.second ≤ e.second) : t.Representable := by
  have := (representable_iff.1 ends).2
  refine representable_iff.2 ⟨begun, ?_⟩
  simp only [second] at earlier
  omega

end Instant

/-- The caller with the halves of characters in its texts joined. -/
def Caller.joined (caller : Caller) : Caller :=
  { caller with
    login := caller.login.map joinedText, email := caller.email.map joinedText,
    name := caller.name.map joinedText }

/-- No text of the caller has the two halves of a character side by side. -/
def Caller.Seamless (caller : Caller) : Prop :=
  ∀ o ∈ [caller.login, caller.email, caller.name], ∀ s ∈ o, Text.Seamless s

theorem Caller.joined_of_seamless {caller : Caller} (seamless : caller.Seamless) :
    caller.joined = caller := by
  have whole {o : Option String} (listed : o ∈ [caller.login, caller.email, caller.name]) :
      o.map joinedText = o := by
    cases o with
    | none => rfl
    | some s => exact congrArg some (joinedText_of_seamless (seamless _ listed s rfl))
  rw [joined, whole (o := caller.login) (by simp), whole (o := caller.email) (by simp),
    whole (o := caller.name) (by simp)]

namespace Issuer

open Token

/-- How long a token lasts for which a lifetime was asked: an empty lifetime is none, and
the issuer's own is in minutes. -/
def span (i : Issuer) (asked : Option Span) : Span :=
  if asked.getD 0 = 0 then Span.ofMinutes i.minutes else asked.getD 0

/-- A span between moments of the calendar can be kept. -/
theorem kept_eq {now : Instant} {s : Span} (begins : now.Representable)
    (ends : (now + s : Instant).Representable) : s.kept = .ok s := by
  obtain ⟨first, last⟩ := Instant.representable_iff.1 begins
  obtain ⟨first', last'⟩ := Instant.representable_iff.1 ends
  -- the calendar has fewer days than a span may have
  have sum : @Eq Int (now + s : Instant) (@HAdd.hAdd Int Int Int _ now s) := rfl
  have short : -4000000 ≤ s.days ∧ s.days ≤ 4000000 := by
    rw [sum] at first' last'
    simp only [Span.days]
    omega
  have word : isShortWord s.days = true := by
    simp only [isShortWord, Bool.and_eq_true, decide_eq_true_eq]
    omega
  have few : ¬ Span.mostDays < s.days.natAbs := by
    simp only [Span.mostDays]
    omega
  rw [Span.kept, word, if_neg (by simp), if_neg few]

/-- **When a token expires**: its lifetime after it was issued. -/
theorem expiry_eq {i : Issuer} {now : Instant} {asked : Option Span} (begins : now.Representable)
    (ends : (now + i.span asked : Instant).Representable) :
    i.expiry now asked = .ok (now + i.span asked) := by
  have kept := kept_eq begins ends
  have zero : Span.kept 0 = .ok 0 := by rfl
  have later : Instant.after now (i.span asked) = .ok (now + i.span asked) :=
    if_neg (not_or.2 ⟨Int.not_lt.2 ends.1, Int.not_lt.2 ends.2⟩)
  have lifetime : i.lifetime asked = .ok (i.span asked) ∧ asked.mapM Span.kept = .ok asked := by
    unfold span at kept ⊢
    cases asked with
    | none => exact ⟨kept, rfl⟩
    | some s =>
        by_cases empty : s = 0
        · subst empty
          exact ⟨kept, by simp [zero, Functor.map, Except.map]⟩
        · simp only [Option.getD_some, empty, if_false] at kept ⊢
          exact ⟨by simp [lifetime, empty], by simp [kept, Functor.map, Except.map]⟩
  simp [expiry, lifetime.1, lifetime.2, Instant.shown_eq begins, later, bind, Except.bind]

/-! ## What a token says -/

/-- What a token says of its bearer, as claims. -/
def said (caller : Caller) (expiry : Instant) : Record :=
  [("sub", .text (toString caller.userId)), ("is_admin", .bool caller.isAdmin),
   ("login", .ofOption .text caller.login), ("email", .ofOption .text caller.email),
   ("name", .ofOption .text caller.name), ("exp", .int expiry.second)]

/-- The fields of a payload. -/
def payloadFields (caller : Caller) (expiry : Instant) : List (String × Json) :=
  match payload caller expiry with
  | .object fields => fields
  | _ => []

section Optional

variable (o : Option String)

@[simp] theorem ofJson_optionalText :
    Cell.ofJson (Cell.ofOption .text o).toJson = .ofOption .text o := by
  cases o <;> rfl

@[simp] theorem optionalText_legible : (Cell.ofOption .text o).toJson.Legible := by
  cases o <;> trivial

@[simp] theorem optionalText_joined :
    (Cell.ofOption .text o).toJson.joined =
      (Cell.ofOption .text (o.map joinedText)).toJson := by
  cases o <;> rfl

@[simp] theorem optionalText_nesting : (Cell.ofOption .text o).toJson.nesting = 0 := by
  cases o <;> rfl

end Optional

variable (caller : Caller) {expiry : Instant}

theorem ofFields_payloadFields :
    Cell.ofFields (payloadFields caller expiry) = said caller expiry := by
  simp [payloadFields, payload, Cell.ofFields, said, Cell.ofJson]

/-- A payload is read as that of the caller with halves joined. -/
theorem joined_payloadFields :
    Json.joinedFields (payloadFields caller expiry) = payloadFields caller.joined expiry := by
  have names : ∀ name ∈ ["sub", "is_admin", "login", "email", "name", "exp"],
      joinedText name = name := by decide
  have subject : joinedText (toString caller.userId) = toString caller.userId :=
    joinedText_of_seamless (seamless_of_encodable (unencodable?_ascii fun c member =>
      Nat.lt_succ_of_le (Nat.le_succ_of_le (visible_toString _ c member).2)))
  simp only [payloadFields, payload, Json.joinedFields, Json.joined, Caller.joined, subject,
    optionalText_joined]
  simp [names]

theorem payload_legible (ends : expiry.Representable) :
    (Json.object (payloadFields caller expiry)).Legible := by
  have digits : (Nat.toDigits 10 expiry.second.natAbs).length ≤ 12 := by
    obtain ⟨first, last⟩ := Instant.representable_iff.1 ends
    rw [Nat.length_toDigits_le_iff (by decide) (by decide)]
    simp only [Instant.second]
    omega
  have short : (Nat.toDigits 10 expiry.second.natAbs).length ≤ maxDigits :=
    Nat.le_trans digits (by decide)
  simp [payloadFields, payload, Json.Legible, Json.FieldsLegible, short]

theorem payload_shallow :
    (Json.object (payloadFields caller expiry)).nesting ≤ Json.depthLimit := by
  simp [payloadFields, payload, Json.nesting, Json.fieldsNesting, Json.depthLimit]

/-- The claims of a token hold until its expiry. -/
theorem check_payload {now : Instant} (there : now.Representable)
    (earlier : now.second ≤ expiry.second) :
    Claims.check (payloadFields caller expiry) now = .ok () := by
  have second : Claims.second now = .ok now.second := by
    rw [Claims.second, Instant.shown_eq there]
    rfl
  simp [Claims.check, Claims.ifPresent, payloadFields, payload, List.lookup_cons, Claims.integer,
    Cell.ofJson, Cell.integer, second, Claims.need, earlier, Claims.isText, bind, Except.bind]

/-- They do not hold any longer. -/
theorem check_payload_expired {now : Instant} (there : now.Representable)
    (later : expiry.second < now.second) :
    Claims.check (payloadFields caller expiry) now = .error (.rejected .expired) := by
  have second : Claims.second now = .ok now.second := by
    rw [Claims.second, Instant.shown_eq there]
    rfl
  have late : ¬ now.second ≤ expiry.second := Int.not_le.2 later
  simp [Claims.check, Claims.ifPresent, payloadFields, payload, List.lookup_cons, Claims.integer,
    Cell.ofJson, Cell.integer, second, Claims.need, late, bind, Except.bind]

/-- A caller is read from its own fields. -/
theorem read_fields (id : Int) (isAdmin : Bool) (login email name : Option String)
    (claims : Record) :
    Caller.read
        [("user_id", .int id), ("is_admin", .bool isAdmin), ("login", .ofOption .text login),
         ("email", .ofOption .text email), ("name", .ofOption .text name),
         ("claims", .record claims)] =
      .accepted ⟨id, isAdmin, login, email, name, claims⟩ := by
  have text {r : Record} {f : String} {o : Option String}
      (found : r.lookup f = some (.ofOption .text o)) :
      Record.optional f Scalar.text r = .accepted o := by
    rw [Record.optional, found]
    cases o <;> rfl
  rw [Caller.read, text (o := login) rfl, text (o := email) rfl, text (o := name) rfl]
  rfl

/-- **The claims of a token describe the caller it was issued to.** -/
theorem bearer_payload (short : (Nat.toDigits 10 caller.userId.natAbs).length ≤ maxDigits) :
    bearer (payloadFields caller expiry) = .ok { caller with claims := said caller expiry } := by
  have subject : (payloadFields caller expiry).lookup "sub" =
      some (.text (toString caller.userId)) := rfl
  have id : (Cell.ofJson (.text (toString caller.userId))).integer = .ok caller.userId := by
    rw [Cell.ofJson, Cell.integer, readInteger_toString short]
    rfl
  have text {f : String} {o : Option String}
      (found : (payloadFields caller expiry).lookup f = some (Cell.ofOption .text o).toJson) :
      ((payloadFields caller expiry).lookup f).elim Cell.null .ofJson = .ofOption .text o := by
    rw [found, Option.elim_some, ofJson_optionalText]
  have admin : ((payloadFields caller expiry).lookup "is_admin").elim Cell.null .ofJson =
      .bool caller.isAdmin := rfl
  unfold bearer
  simp only [subject, id, admin, text (f := "login") (o := caller.login) rfl,
    text (f := "email") (o := caller.email) rfl, text (f := "name") (o := caller.name) rfl,
    ofFields_payloadFields, Cell.isFalsy, Bool.not_not, read_fields]

/-! ## Round trips -/

section RoundTrip

variable {i : Issuer} {a : Algorithm} (keyed : i.algorithm = a.name) (takes : a.Takes i.secret)

include keyed takes in
/-- **What is issued** is the payload of the caller, signed. -/
theorem issue_eq {now : Instant} {asked : Option Span}
    (short : (Nat.toDigits 10 caller.userId.natAbs).length ≤ maxDigits)
    (begins : now.Representable) (ends : (now + i.span asked : Instant).Representable) :
    i.issue now caller asked =
      .ok (signedToken a i.secret (payloadFields caller (now + i.span asked))) := by
  have written : write a.name i.secret (payload caller (now + i.span asked)) =
      .ok (signedToken a i.secret (payloadFields caller (now + i.span asked))) := write_eq takes
  rw [issue, expiry_eq begins ends, keyed]
  simp only [bind, Except.bind]
  rw [if_neg (Nat.not_lt.2 short), written]
  rfl

include takes in
/-- A token that was signed for a payload verifies. -/
theorem verified_payload {fault : Json.Fault} (plain : Json.parseVerbatim i.secret = .error fault)
    (ends : expiry.Representable) :
    verified a.name i.secret (signedToken a i.secret (payloadFields caller expiry)) =
      .ok (payloadFields caller.joined expiry) := by
  have legible : (Json.object (payloadFields caller expiry)).joined.Legible := by
    rw [Json.joined, joined_payloadFields]
    exact payload_legible caller.joined ends
  rw [verified_signedToken takes plain legible (payload_shallow caller), joined_payloadFields]

include keyed takes in
/-- **A signed payload is accepted** until it expires, and its bearer is the caller with halves
joined. -/
theorem authenticate_signed (ε : Type) {fault : Json.Fault}
    (plain : Json.parseVerbatim i.secret = .error fault)
    (short : (Nat.toDigits 10 caller.userId.natAbs).length ≤ maxDigits)
    (ends : expiry.Representable) {now : Instant} (begun : Instant.first ≤ now)
    (earlier : now.second ≤ expiry.second) :
    Dialogue.Idle
      (i.authenticate now (signedToken a i.secret (payloadFields caller expiry)) :
        Dialogue ε Caller)
      (.ok { caller.joined with claims := said caller.joined expiry }) := by
  have there := Instant.representable_of_second_le begun ends earlier
  have held : i.claims now (signedToken a i.secret (payloadFields caller expiry)) =
      .ok (payloadFields caller.joined expiry) := by
    rw [Issuer.claims, keyed,
      verified_payload caller takes plain ends]
    simp only [bind, Except.bind]
    rw [check_payload caller.joined there earlier]
    rfl
  rw [authenticate, held]
  simp only [bearer_payload caller.joined short]
  exact Dialogue.idle_finish _

include keyed takes in
/-- **A signed payload is refused** once it has expired. -/
theorem authenticate_expired (ε : Type) {fault : Json.Fault}
    (plain : Json.parseVerbatim i.secret = .error fault) (ends : expiry.Representable)
    {now : Instant} (there : now.Representable) (later : expiry.second < now.second) :
    Dialogue.Idle
      (i.authenticate now (signedToken a i.secret (payloadFields caller expiry)) :
        Dialogue ε Caller)
      (.error (.unauthorized "Could not validate credentials")) := by
  have lapsed : i.claims now (signedToken a i.secret (payloadFields caller expiry)) =
      .error (.rejected .expired) := by
    rw [Issuer.claims, keyed,
      verified_payload caller takes plain ends]
    simp only [bind, Except.bind]
    rw [check_payload_expired caller.joined there later]
  rw [authenticate, lapsed]
  exact (Dialogue.idle_finish _).note _

include keyed in
/-- **Tokens make the round trip.**  Whoever a token is issued to, and however long it is to
last, up to the end of its last second it is accepted as that of the same caller, and its
claims are what was written; only the halves of a character that stand side by side in a text,
as in no text of whole characters, come back as the character.  The secret has octets, is not
marked as something else than a secret, and is no JSON text. -/
theorem issued_tokens_round_trip {now : Instant} {asked : Option Span} {fault : Json.Fault}
    (encodes : unencodable? i.secret = none) (unmarked : Mark.isMarked i.secret = false)
    (plain : Json.parseVerbatim i.secret = .error fault)
    (short : (Nat.toDigits 10 caller.userId.natAbs).length ≤ maxDigits)
    (begins : now.Representable) (ends : (now + i.span asked : Instant).Representable) :
    ∃ token, i.issue now caller asked = .ok token ∧
      ∀ later : Instant, Instant.first ≤ later →
        later.second ≤ Instant.second (now + i.span asked) →
        ∀ ε : Type,
          (caller.Seamless → Dialogue.Idle (i.authenticate later token : Dialogue ε Caller)
            (.ok { caller with claims := said caller (now + i.span asked) })) ∧
          Dialogue.Idle (i.authenticate later token : Dialogue ε Caller)
            (.ok { caller.joined with claims := said caller.joined (now + i.span asked) }) := by
  have takes : a.Takes i.secret := takes_iff.2 ⟨encodes, unmarked⟩
  refine ⟨_, issue_eq caller keyed takes short begins ends, ?_⟩
  intro later begun earlier ε
  have accepted := authenticate_signed caller keyed takes ε plain short ends begun earlier
  refine ⟨fun seamless => ?_, accepted⟩
  rwa [Caller.joined_of_seamless seamless] at accepted

end RoundTrip

/-- A token of a minute, issued in the first second of 1970, is still good a minute later. -/
theorem minute_token_round_trip :
    ∃ token, Issuer.issue ⟨"hush", "HS384", 1⟩ 999999
        { userId := -12, isAdmin := true, name := some "Ada \"λ\" 𝔸" } none = .ok token ∧
      Dialogue.Idle
        (Issuer.authenticate ⟨"hush", "HS384", 1⟩ 60999999 token : Dialogue Empty Caller)
        (.ok { userId := -12, isAdmin := true, name := some "Ada \"λ\" 𝔸",
               claims := [("sub", .text "-12"), ("is_admin", .bool true), ("login", .null),
                 ("email", .null), ("name", .text "Ada \"λ\" 𝔸"), ("exp", .int 60)] }) := by
  have plain : Json.parseVerbatim "hush" = .error (.malformed 4) := by rfl
  have begins : Instant.Representable 999999 := ⟨by decide, by decide⟩
  have ends : Instant.Representable (999999 + span ⟨"hush", "HS384", 1⟩ none) :=
    ⟨by decide, by decide⟩
  obtain ⟨token, issued, accepted⟩ :=
    issued_tokens_round_trip (i := ⟨"hush", "HS384", 1⟩) (a := .hs384)
      { userId := -12, isAdmin := true, name := some "Ada \"λ\" 𝔸" } rfl
      (by rfl) (Mark.isMarked_eq_false (by decide)) plain (by decide) begins ends
  have seamless : Caller.Seamless
      { userId := -12, isAdmin := true, name := some "Ada \"λ\" 𝔸" } := by
    simp [Caller.Seamless]
    decide
  exact ⟨token, issued, (accepted 60999999 (by decide) (by decide) Empty).1 seamless⟩

end Issuer

end GeoRegistry
