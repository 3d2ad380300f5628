/-
# Proofs.Token.Authentic -- only authentic tokens authenticate

A token is accepted in stages: it is taken apart and its header is read, the header must
name the algorithm, the signature must be good, the payload is read, its claims are
checked, and they must describe a bearer.  Each stage has one lemma about what it is to
pass it (`_eq_ok`), and together they say what a token is whose bearer is known
(`Reading.Vouches`).
-/
import GeoRegistry.Proofs.Outcome
import GeoRegistry.Proofs.Token.Issued

namespace GeoRegistry

set_option autoImplicit false

namespace Token

open Text

theorem orReject_eq_ok {α : Type} {reason : Rejection} {x : Option α} {a : α}
    (made : orReject reason x = .ok a) : x = some a := by
  cases x with
  | none => cases made
  | some a' => exact congrArg _ (Except.ok.inj made)

/-! ## Taking a token apart -/

/-- The document of a segment. -/
def document? (segment : String) : Option Json :=
  ((Base64Url.decode? (Utf8.encode segment)).bind Utf8.decode?).bind fun s => (Json.parse s).toOption

theorem readObject_eq_ok {reason : Rejection} {octets : List UInt8}
    {fields : List (String × Json)} (made : readObject reason octets = .ok fields) :
    ((Utf8.decode? octets).bind fun s => (Json.parse s).toOption) = some (.object fields) := by
  unfold readObject at made
  split at made
  · next read =>
    cases made
    obtain ⟨s, text, parsed⟩ := Option.map_eq_some_iff.1 read
    simp [text, parsed, Except.toOption]
  · cases made
  · cases made

/-- A token with what stands before its first dot, behind its last one and between them,
and the documents of its header and its payload. -/
structure Reading (token : String) where
  header : String
  payload : String
  signature : String
  whole : token = header ++ "." ++ payload ++ "." ++ signature
  header_free : '.' ∉ header.toList
  signature_free : '.' ∉ signature.toList
  fields : List (String × Json)
  header_reads : document? header = some (.object fields)
  claims : Claims
  payload_reads : document? payload = some (.object claims)

namespace Reading

variable {token : String} (r : Reading token)

/-- Everything before the last dot. -/
def text : String :=
  r.header ++ "." ++ r.payload

/-- What the payload says under a name. -/
def claim (name : String) : Cell :=
  (r.claims.lookup name).elim .null .ofJson

/-- The token vouches for a caller: its header names the algorithm, it is signed under the
secret, it has not expired, and its payload describes the caller. -/
structure Vouches (a : Algorithm) (secret : String) (now : Instant) (caller : Caller) : Prop where
  algorithm : r.fields.lookup "alg" = some (.text a.name)
  signed : Base64Url.decode? (Utf8.encode r.signature) =
    some (a.sign (Utf8.encode secret) (Utf8.encode r.text))
  fresh : ∀ v, r.claims.lookup "exp" = some v →
    ∃ expiry, (Cell.ofJson v).integer = .ok expiry ∧ now.second ≤ expiry
  subject : ∃ s, r.claims.lookup "sub" = some (.text s) ∧
    readInteger s.toList = .ok caller.userId
  isAdmin : caller.isAdmin = !(r.claim "is_admin").isFalsy
  login : .ofOption .text caller.login = r.claim "login"
  email : .ofOption .text caller.email = r.claim "email"
  name : .ofOption .text caller.name = r.claim "name"
  claims : caller.claims = Cell.ofFields r.claims

end Reading

/-- The token is one of the caller's: it can be read, and it vouches for them. -/
def Authentic (a : Algorithm) (secret : String) (now : Instant) (token : String)
    (caller : Caller) : Prop :=
  ∃ r : Reading token, r.Vouches a secret now caller

/-! ## Passing the stages -/

section Stages

variable {token : String} {s : Signed}

/-- What a token consists of that can be taken apart. -/
theorem read_eq_ok (made : Signed.read token = .ok s) :
    ∃ header payload signature,
      token = header ++ "." ++ payload ++ "." ++ signature ∧ '.' ∉ header.toList ∧
      '.' ∉ signature.toList ∧ document? header = some (.object s.header) ∧
      Base64Url.decode? (Utf8.encode payload) = some s.payload ∧
      Utf8.encode (header ++ "." ++ payload) = s.text ∧
      Base64Url.decode? (Utf8.encode signature) = some s.signature := by
  obtain ⟨octets, encoded, made⟩ := bind_eq_ok made
  have same : octets = Utf8.encode token := by
    unfold Token.octets at encoded
    split at encoded
    · cases encoded
    · exact (Except.ok.inj encoded).symm
  subst same
  -- first the dots, then what stands in the segments
  obtain ⟨⟨text, signature⟩, last, made⟩ := bind_eq_ok made
  obtain ⟨⟨header, payload⟩, first, made⟩ := bind_eq_ok made
  obtain ⟨headerOctets, headerDecoded, made⟩ := bind_eq_ok made
  obtain ⟨fields, headerRead, made⟩ := bind_eq_ok made
  obtain ⟨payloadOctets, payloadDecoded, made⟩ := bind_eq_ok made
  obtain ⟨signatureOctets, signatureDecoded, made⟩ := bind_eq_ok made
  obtain rfl := Except.ok.inj made
  obtain ⟨before, behind, whole, behindFree, rfl, rfl⟩ := atLastDot?_encode (orReject_eq_ok last)
  obtain ⟨front, middle, rfl, frontFree, rfl, rfl⟩ := atFirstDot?_encode (orReject_eq_ok first)
  refine ⟨front, middle, behind, whole, frontFree, behindFree, ?_, orReject_eq_ok payloadDecoded,
    rfl, orReject_eq_ok signatureDecoded⟩
  rw [document?, orReject_eq_ok headerDecoded]
  exact readObject_eq_ok headerRead

/-- The header of a token with the expected algorithm says so. -/
theorem checkAlgorithm_eq_ok {expected : String} (made : s.checkAlgorithm expected = .ok ()) :
    s.header.lookup "alg" = some (.text expected) := by
  unfold Signed.checkAlgorithm at made
  split at made
  · cases made
  · next v found =>
    split at made
    · cases made
    · split at made
      · next name =>
        split at made
        · next same => rw [found, same]
        · cases made
      · cases made

/-- **A key for a digest that is a text** is the octets of the text. -/
theorem forDigest_text_eq_ok {a : Algorithm} {secret : String} {key : Key}
    (made : Key.forDigest a (.text secret) = .ok key) :
    key = .digest a (Utf8.encode secret) := by
  obtain ⟨octets, encoded, made⟩ := bind_eq_ok made
  have same : octets = Utf8.encode secret := by
    unfold Key.octets at encoded
    split at encoded
    · cases encoded
    · exact (Except.ok.inj encoded).symm
  subst same
  split at made
  · cases made
  · exact (Except.ok.inj made).symm

/-- A token that is signed as expected has the signature of its text under the secret. -/
theorem checkSignature_eq_ok {a : Algorithm} {secret : String} {fault : Json.Fault}
    (plain : Json.parseVerbatim secret = .error fault)
    (made : s.checkSignature a.name secret = .ok ()) :
    s.signature = a.sign (Utf8.encode secret) s.text := by
  obtain ⟨good, found, made⟩ := bind_eq_ok made
  have signs : good = true := by
    cases good with
    | true => rfl
    | false => cases made
  subst signs
  have found := mapError_eq_ok found
  rw [Key.spelled_of_error plain] at found
  obtain ⟨key, keyed, found⟩ := bind_eq_ok (x := Key.make _ _ _) found
  rw [accepting?_name] at keyed
  obtain rfl := forDigest_text_eq_ok keyed
  simp only [Key.sign, Except.toOption, Option.some.injEq, Key.anySigns] at found
  split at found
  · next same => exact same.symm
  · cases found

/-- **What is verified** can be read, and is signed with the algorithm that it names. -/
theorem verified_eq_ok {a : Algorithm} {secret : String} {fault : Json.Fault} {claims : Claims}
    (plain : Json.parseVerbatim secret = .error fault)
    (made : verified a.name secret token = .ok claims) :
    ∃ r : Reading token, r.claims = claims ∧ r.fields.lookup "alg" = some (.text a.name) ∧
      Base64Url.decode? (Utf8.encode r.signature) =
        some (a.sign (Utf8.encode secret) (Utf8.encode r.text)) := by
  obtain ⟨s, read, made⟩ := bind_eq_ok made
  obtain ⟨⟨⟩, named, made⟩ := bind_eq_ok made
  obtain ⟨⟨⟩, signed, made⟩ := bind_eq_ok made
  obtain ⟨header, payload, signature, whole, headerFree, signatureFree, headerReads, decoded,
    text, signatureDecoded⟩ := read_eq_ok read
  have payloadReads : document? payload = some (.object claims) := by
    rw [document?, decoded]
    exact readObject_eq_ok made
  let r : Reading token :=
    { header, payload, signature, whole, header_free := headerFree,
      signature_free := signatureFree, fields := s.header, header_reads := headerReads, claims,
      payload_reads := payloadReads }
  have same : Utf8.encode r.text = s.text := text
  refine ⟨r, rfl, checkAlgorithm_eq_ok named, ?_⟩
  rw [same, ← checkSignature_eq_ok plain signed]
  exact signatureDecoded

theorem second_eq_ok {now : Instant} {n : Int} (made : Claims.second now = .ok n) :
    n = now.second := by
  unfold Claims.second Instant.shown at made
  split at made
  · exact (Except.ok.inj made).symm
  · split at made
    · cases made
    · split at made <;> cases made

theorem integer_eq_ok {unreadable : Rejection} {v : Json} {n : Int}
    (made : Claims.integer unreadable v = .ok n) : (Cell.ofJson v).integer = .ok n := by
  unfold Claims.integer at made
  split at made
  · next read => rw [read, Except.ok.inj made]
  · cases made
  · cases made

/-- Claims that hold have an expiry that is an integer and not over, if they have one, and
a subject that is a text, if they have one. -/
theorem check_eq_ok {claims : Claims} {now : Instant} (made : claims.check now = .ok ()) :
    (∀ v, claims.lookup "exp" = some v →
      ∃ expiry, (Cell.ofJson v).integer = .ok expiry ∧ now.second ≤ expiry) ∧
      ∀ v, claims.lookup "sub" = some v → ∃ s, v = .text s := by
  -- of the seven checks only those of the expiry and of the subject are wanted
  obtain ⟨_, _, made⟩ := bind_eq_ok made
  obtain ⟨_, _, made⟩ := bind_eq_ok made
  obtain ⟨_, expiry, made⟩ := bind_eq_ok made
  obtain ⟨_, _, made⟩ := bind_eq_ok made
  obtain ⟨_, subject, _⟩ := bind_eq_ok made
  constructor
  · intro v found
    simp only [Claims.ifPresent, found] at expiry
    obtain ⟨n, read, expiry⟩ := bind_eq_ok expiry
    obtain ⟨shown, second, expiry⟩ := bind_eq_ok expiry
    have earlier : shown ≤ n := by
      simp only [Claims.need, decide_eq_true_eq] at expiry
      split at expiry
      · assumption
      · cases expiry
    exact ⟨n, integer_eq_ok read, second_eq_ok second ▸ earlier⟩
  · intro v found
    simp only [Claims.ifPresent, found] at subject
    cases v with
    | text s => exact ⟨s, rfl⟩
    | _ => cases subject

end Stages

end Token

/-! ## Bearers -/

open Token

/-- A text that may be left out is null, or the text. -/
theorem optionalText_eq_accepted {fields : Record} {name : String} {cell : Cell}
    {o : Option String} (found : fields.lookup name = some cell)
    (made : Record.optional name Scalar.text fields = .accepted o) :
    .ofOption .text o = cell := by
  unfold Record.optional at made
  rw [found] at made
  cases cell with
  | null =>
      cases made
      rfl
  | text s =>
      cases made
      rfl
  | _ => cases made

open Record in
/-- A caller that is read was read field by field. -/
theorem Caller.read_eq_accepted {r : Record} {caller : Caller}
    (made : Caller.read r = .accepted caller) :
    required "user_id" Scalar.integer r = .accepted caller.userId ∧
      defaulted "is_admin" Scalar.bool false r = .accepted caller.isAdmin ∧
      optional "login" Scalar.text r = .accepted caller.login ∧
      optional "email" Scalar.text r = .accepted caller.email ∧
      optional "name" Scalar.text r = .accepted caller.name ∧
      defaulted "claims" Scalar.record [] r = .accepted caller.claims := by
  obtain ⟨_, _, named, claims, rfl⟩ := Checked.seq_eq_accepted made
  obtain ⟨_, _, mailed, name, rfl⟩ := Checked.seq_eq_accepted named
  obtain ⟨_, _, logged, email, rfl⟩ := Checked.seq_eq_accepted mailed
  obtain ⟨_, _, marked, login, rfl⟩ := Checked.seq_eq_accepted logged
  obtain ⟨_, _, numbered, isAdmin, rfl⟩ := Checked.seq_eq_accepted marked
  obtain ⟨_, userId, rfl⟩ := Checked.map_eq_accepted numbered
  exact ⟨userId, isAdmin, login, email, name, claims⟩

namespace Issuer

/-- **A bearer is who the claims describe.** -/
theorem bearer_eq_ok {claims : Claims} {caller : Caller} (made : bearer claims = .ok caller)
    (subject : ∀ v, claims.lookup "sub" = some v → ∃ s, v = .text s) :
    let claim := fun name => (claims.lookup name).elim Cell.null .ofJson
    (∃ s, claims.lookup "sub" = some (.text s) ∧
        Text.readInteger s.toList = .ok caller.userId) ∧
      (caller.isAdmin = !(claim "is_admin").isFalsy) ∧
      .ofOption .text caller.login = claim "login" ∧
      .ofOption .text caller.email = claim "email" ∧
      .ofOption .text caller.name = claim "name" ∧ caller.claims = Cell.ofFields claims := by
  unfold bearer at made
  simp only at made
  split at made
  · cases made
  · next v found =>
    obtain ⟨s, rfl⟩ := subject v found
    split at made
    · cases made
    · cases made
    · next id read =>
      split at made
      · next accepted =>
        cases made
        obtain ⟨userId, isAdmin, login, email, name, kept⟩ := Caller.read_eq_accepted accepted
        have same : id = caller.userId := Checked.accepted.inj userId
        refine ⟨⟨s, found, same ▸ mapError_eq_ok read⟩, (Checked.accepted.inj isAdmin).symm,
          optionalText_eq_accepted rfl login, optionalText_eq_accepted rfl email,
          optionalText_eq_accepted rfl name, (Checked.accepted.inj kept).symm⟩
      · cases made

section Tokens

variable (ε : Type) {i : Issuer}

/-- A token is worth what its claims describe, or nothing. -/
theorem authenticate_idle (now : Instant) (token : String) :
    ∃ o, Dialogue.Idle (i.authenticate now token : Dialogue ε Caller) o ∧
      ∀ caller, o = .ok caller →
        ∃ claims, i.claims now token = .ok claims ∧ bearer claims = .ok caller := by
  unfold authenticate
  split
  · next claims made =>
    exact ⟨_, Dialogue.idle_finish _, fun caller same => ⟨claims, made, same⟩⟩
  · next e made =>
    exact ⟨_, Dialogue.idle_finish _, fun caller same => nomatch same⟩
  · next reason made =>
    exact ⟨_, (Dialogue.idle_finish _).note _, fun caller same => nomatch same⟩

variable {a : Algorithm} {fault : Json.Fault} (keyed : i.algorithm = a.name)
  (plain : Json.parseVerbatim i.secret = .error fault)

include keyed plain in
/-- A token whose claims hold vouches for the bearer that they describe. -/
theorem authentic_of_claims {now : Instant} {token : String} {claims : Claims} {caller : Caller}
    (held : i.claims now token = .ok claims) (described : bearer claims = .ok caller) :
    Authentic a i.secret now token caller := by
  obtain ⟨claims', made, held⟩ := bind_eq_ok held
  obtain ⟨⟨⟩, checked, held⟩ := bind_eq_ok held
  obtain rfl := Except.ok.inj held
  rw [keyed] at made
  obtain ⟨r, rfl, algorithm, signed⟩ := verified_eq_ok plain made
  obtain ⟨fresh, text⟩ := check_eq_ok checked
  obtain ⟨subject, isAdmin, login, email, name, kept⟩ := bearer_eq_ok described text
  exact ⟨r, algorithm, signed, fresh, subject, isAdmin, login, email, name, kept⟩

include keyed plain in
/-- **Only authentic tokens authenticate.**  A text that is presented as a token is accepted
or refused at once.  Who is accepted is the caller that it vouches for, so that a text that
vouches for no one is refused; and there is no caller without such a text. -/
theorem only_authentic_tokens (now : Instant) :
    (∀ token, ∃ o, Dialogue.Idle (i.authenticate now token : Dialogue ε Caller) o ∧
      (∀ caller, o = .ok caller → Authentic a i.secret now token caller) ∧
      ((∀ caller, ¬ Authentic a i.secret now token caller) → ∃ e, o = .error e)) ∧
    ∀ presented h caller,
      Dialogue.Runs (i.caller now presented : Dialogue ε Caller) h (.ok caller) →
        ∃ token, presented = some token ∧ Authentic a i.secret now token caller := by
  have sound (token : String) :
      ∃ o, Dialogue.Idle (i.authenticate now token : Dialogue ε Caller) o ∧
        ∀ caller, o = .ok caller → Authentic a i.secret now token caller := by
    obtain ⟨o, idle, worth⟩ := authenticate_idle ε (i := i) now token
    refine ⟨o, idle, fun caller same => ?_⟩
    obtain ⟨claims, held, described⟩ := worth caller same
    exact authentic_of_claims keyed plain held described
  constructor
  · intro token
    obtain ⟨o, idle, authentic⟩ := sound token
    refine ⟨o, idle, authentic, fun none_ => ?_⟩
    cases o with
    | error e => exact ⟨e, rfl⟩
    | ok caller => exact absurd (authentic caller rfl) (none_ caller)
  · intro presented h caller ran
    cases presented with
    | none => exact nomatch (Dialogue.runs_finish_iff.1 ran).2
    | some token =>
        obtain ⟨o, idle, authentic⟩ := sound token
        exact ⟨token, rfl, authentic caller ((idle h _).1 ran).2.symm⟩

end Tokens

/-- A token that was issued in 1970 is accepted at that time, and vouches for its bearer; a
text with one dot is refused. -/
theorem signed_token_authentic :
    (∃ bearer : Caller, bearer.userId = 7 ∧ bearer.login = some "ada" ∧
      Dialogue.Idle
        (Issuer.authenticate ⟨"hush", "HS256", 1⟩ 0
          (signedToken .hs256 "hush" (payloadFields { userId := 7, login := some "ada" } 60000000)) :
          Dialogue Empty Caller)
        (.ok bearer) ∧
      Authentic .hs256 "hush" 0
        (signedToken .hs256 "hush" (payloadFields { userId := 7, login := some "ada" } 60000000))
        bearer) ∧
    ∃ e, Dialogue.Idle
      (Issuer.authenticate ⟨"hush", "HS256", 1⟩ 0 "a.b" : Dialogue Empty Caller) (.error e) := by
  have plain : Json.parseVerbatim "hush" = .error (.malformed 4) := by rfl
  have takes : Algorithm.hs256.Takes "hush" :=
    takes_iff.2 ⟨by rfl, Mark.isMarked_eq_false (by decide)⟩
  have ends : Instant.Representable 60000000 := ⟨by decide, by decide⟩
  have worth := only_authentic_tokens Empty (i := ⟨"hush", "HS256", 1⟩) (a := .hs256) rfl plain 0
  constructor
  · have accepted := authenticate_signed (i := ⟨"hush", "HS256", 1⟩) (a := .hs256)
      { userId := 7, login := some "ada" } rfl takes Empty plain (by decide) ends
      (show Instant.first ≤ 0 by decide) (by decide)
    obtain ⟨o, idle, authentic, -⟩ := worth.1
      (signedToken .hs256 "hush" (payloadFields { userId := 7, login := some "ada" } 60000000))
    have outcome := ((accepted [] o).1 ((idle [] o).2 ⟨rfl, rfl⟩)).2
    exact ⟨_, rfl, rfl, accepted, authentic _ outcome⟩
  · obtain ⟨o, idle, -, refused⟩ := worth.1 "a.b"
    have dotless (caller : Caller) : ¬ Authentic .hs256 "hush" 0 "a.b" caller := by
      rintro ⟨r, -⟩
      have dots := congrArg (fun s => s.toList.count '.') r.whole
      simp [String.toList_append] at dots
      omega
    obtain ⟨e, rfl⟩ := refused dotless
    exact ⟨e, idle⟩

end Issuer

end GeoRegistry
