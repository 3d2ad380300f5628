/-
# Validation.Scalar -- readings of single values

Each reading accepts the type itself and the spellings that lose nothing:
numbers without a fraction and numeric text for integers, numbers and numeric
text for floating-point numbers, a few words for booleans, text for identifiers
and timestamps, numbers for timestamps.
-/
import GeoRegistry.Validation.Checked
import GeoRegistry.Text.WholeNumber

namespace GeoRegistry.Scalar

set_option autoImplicit false

open Text

/-- A text that something is read from must have octets. -/
def encodable (s : String) : Except IssueKind String :=
  if (unencodable? s).isSome then .error .textOctets else .ok s

/-! ## Integers -/

/-- Read an integer from text. -/
def integerOfText (s : String) : Except IssueKind Int :=
  match WholeNumber.read s with
  | .ok n => .ok n
  | .error .malformed => .error .integerText
  | .error (.tooLong _) => .error .integerSize

/-- A floating-point number is an integer when it has no fraction and lies
strictly within 64 bits. -/
def integerOfFloat (x : Binary64) : Except IssueKind Int :=
  if !x.isFinite then .error .notFinite
  else
    match x.whole? with
    | some n => if -WholeNumber.wordBound < n ∧ n < WholeNumber.wordBound then .ok n else .error .integerSize
    | none => .error .integerFraction

/-- A decimal is an integer when it has no fraction. -/
def integerOfDecimal (d : Decimal) : Except IssueKind Int :=
  match d.integerPart? with
  | some (n, false) => .ok n
  | some (_, true) => .error .integerFraction
  | none => .error .notFinite

/-- The outcome of a reading of one cell. -/
def settle {α : Type} (cell : Cell) : Except IssueKind α → Checked α
  | .ok a => .accepted a
  | .error kind => .complaint kind cell

def integer (cell : Cell) : Checked Int :=
  settle cell <|
    match cell with
    | .int n => .ok n
    | .bool b => .ok (if b then 1 else 0)
    | .float x => integerOfFloat x
    | .text s => (encodable s).bind integerOfText
    | .decimal d => integerOfDecimal d
    | _ => .error .integerType

/-- An integer not below a bound. -/
def integerFrom (least : Int) (cell : Cell) : Checked Int :=
  match integer cell with
  | .accepted n => if least ≤ n then .accepted n else .complaint (.tooSmall least) cell
  | refused => refused

/-! ## Floating-point numbers -/

/-- The nearest number to an integer, unless there is none within range. -/
def floatOfInt (n : Int) : Except IssueKind Binary64 :=
  let x := Binary64.ofInt n
  if x.isFinite then .ok x else .error .numberType

def floatOfText (s : String) : Except IssueKind Binary64 :=
  match Decimal.ofText? s with
  | some d => .ok d.toBinary64
  | none => .error .numberText

def float (cell : Cell) : Checked Binary64 :=
  settle cell <|
    match cell with
    | .float x => .ok x
    | .int n => floatOfInt n
    | .bool b => .ok (.ofInt (if b then 1 else 0))
    | .decimal d => .ok d.toBinary64
    | .text s => (encodable s).bind floatOfText
    | _ => .error .numberType

/-! ## Booleans -/

def trueWords : List String := ["1", "on", "t", "true", "y", "yes"]

def falseWords : List String := ["0", "off", "f", "false", "n", "no"]

/-- Zero and one are booleans; an integer beyond 64 bits is of another type. -/
def boolOfInt (n : Int) : Except IssueKind Bool :=
  if n = 1 then .ok true
  else if n = 0 then .ok false
  else if WholeNumber.isWord n then .error .boolText
  else .error .boolType

/-- A number without a fraction is read as an integer first. -/
def boolOfFloat (x : Binary64) : Except IssueKind Bool :=
  match integerOfFloat x with
  | .ok n => boolOfInt n
  | .error _ => .error .boolType

def boolOfText (s : String) : Except IssueKind Bool :=
  let word := String.ofList (s.toList.map Char.toLower)
  if trueWords.contains word then .ok true
  else if falseWords.contains word then .ok false
  else .error .boolText

def bool (cell : Cell) : Checked Bool :=
  settle cell <|
    match cell with
    | .bool b => .ok b
    | .int n => boolOfInt n
    | .float x => boolOfFloat x
    | .decimal d => boolOfFloat d.toBinary64
    | .text s => (encodable s).bind boolOfText
    | _ => .error .boolType

/-! ## Text, identifiers and timestamps -/

def text (cell : Cell) : Checked String :=
  settle cell <|
    match cell with
    | .text s => .ok s
    | _ => .error .textType

def uuidOfText (s : String) : Except IssueKind Uuid :=
  match Uuid.ofText? s with
  | some id => .ok id
  | none => .error .uuidText

def uuid (cell : Cell) : Checked Uuid :=
  settle cell <|
    match cell with
    | .uuid id => .ok id
    | .text s => (encodable s).bind uuidOfText
    | _ => .error .uuidType

/-- The outcome of reading a timestamp from something that can spell one. -/
def spelled (t : Option Timestamp) : Except IssueKind Timestamp :=
  match t with
  | some t => .ok t
  | none => .error .timeText

def time (cell : Cell) : Checked Timestamp :=
  settle cell <|
    match cell with
    | .time t => .ok t
    | .text s => (encodable s).bind fun s => spelled (Timestamp.ofText? s)
    | .int n =>
        if (Binary64.ofInt n).isFinite then spelled (Timestamp.ofInteger? n) else .error .timeType
    | .float x => spelled (Timestamp.ofNumber? x)
    | .decimal d => spelled (Timestamp.ofNumber? d.toBinary64)
    | _ => .error .timeType

/-! ## Records, lists and choices -/

def record (cell : Cell) : Checked Record :=
  settle cell <|
    match cell with
    | .record fields => .ok fields
    | _ => .error .recordType

/-- Read every item of a list, each complaint at its index. -/
def itemsFrom {α : Type} (read : Cell → Checked α) : Nat → List Cell → Checked (List α)
  | _, [] => .accepted []
  | n, c :: rest =>
      (· :: ·) <$> (read c).within (.index n) <*> itemsFrom read (n + 1) rest

def list {α : Type} (read : Cell → Checked α) (cell : Cell) : Checked (List α) :=
  match cell with
  | .list items => itemsFrom read 0 items
  | _ => .complaint .listType cell

/-- One of several labelled choices, by its exact label. -/
def choice {α : Type} (choices : List (String × α)) (listing : String) (cell : Cell) : Checked α :=
  settle cell <|
    match cell with
    | .text s => (encodable s).bind fun s =>
        match choices.lookup s with
        | some a => .ok a
        | none => .error (.choice listing)
    | _ => .error (.choice listing)

end GeoRegistry.Scalar
