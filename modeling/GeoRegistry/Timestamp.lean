/-
# Timestamp -- moments on the calendar, with or without an offset

A timestamp is a date of the years 1 to 9999, a time of day to the microsecond,
and optionally an offset from universal time, less than a day.  It is read from
ISO 8601 text or from a number of seconds since 1970; a number beyond twenty
thousand million counts milliseconds.  Documents give offsets in minutes, and
programs exchange them to the microsecond.
-/
import GeoRegistry.Binary64
import GeoRegistry.Decimal

namespace GeoRegistry

set_option autoImplicit false

/-! ## The calendar -/

namespace Calendar

def isLeap (year : Nat) : Bool :=
  year % 4 = 0 && (year % 100 != 0 || year % 400 = 0)

def daysInMonth (year month : Nat) : Nat :=
  if month = 2 then (if isLeap year then 29 else 28)
  else if month = 4 ∨ month = 6 ∨ month = 9 ∨ month = 11 then 30
  else 31

/-- The date that lies a number of days after 1970-01-01.  Years start in March
here, so that the leap day is the last of its year, and are grouped in cycles of
400, which have 146097 days each. -/
def ofDayNumber (days : Int) : Int × Nat × Nat :=
  let z := days + 719468
  let cycle := z.fdiv 146097
  let day := (z - cycle * 146097).toNat
  let year := (day - day / 1460 + day / 36524 - day / 146096) / 365
  let rest := day - (365 * year + year / 4 - year / 100)
  let m := (5 * rest + 2) / 153
  let month := if m < 10 then m + 3 else m - 9
  (year + cycle * 400 + (if month ≤ 2 then 1 else 0), month, rest - (153 * m + 2) / 5 + 1)

end Calendar

/-- The microseconds of a day. -/
def microsPerDay : Nat := 86400000000

/-- The fields of a timestamp name a moment. -/
def IsMoment (year month day hour minute second micro : Nat) (offset : Option Int) : Prop :=
  1 ≤ year ∧ year ≤ 9999 ∧ 1 ≤ month ∧ month ≤ 12 ∧ 1 ≤ day ∧ day ≤ Calendar.daysInMonth year month ∧
    hour < 24 ∧ minute < 60 ∧ second < 60 ∧ micro < 1000000 ∧
    (offset.getD 0).natAbs < microsPerDay

instance (year month day hour minute second micro : Nat) (offset : Option Int) :
    Decidable (IsMoment year month day hour minute second micro offset) := by
  unfold IsMoment; infer_instance

structure Timestamp where
  year : Nat
  month : Nat
  day : Nat
  hour : Nat
  minute : Nat
  second : Nat
  micro : Nat
  /-- Microseconds ahead of universal time. -/
  offset : Option Int
  isMoment : IsMoment year month day hour minute second micro offset
  deriving DecidableEq, Repr

namespace Timestamp

open Text

/-- The timestamp with the given fields, when they name a moment. -/
def make? (year month day hour minute second micro : Nat) (offset : Option Int) :
    Option Timestamp :=
  if h : IsMoment year month day hour minute second micro offset then
    some ⟨year, month, day, hour, minute, second, micro, offset, h⟩
  else none

/-! ## Reading text -/

/-- Read exactly `n` ASCII digits. -/
def fixedDigits? (n : Nat) (cs : List Char) : Option (Nat × List Char) :=
  let ds := cs.take n
  if ds.length = n ∧ ds.all Char.isDigit then
    some (ofDigits (ds.map fun c => c.toNat - 48), cs.drop n)
  else none

/-- Pass one given character. -/
def pass? (c : Char) : List Char → Option (List Char)
  | d :: rest => if d = c then some rest else none
  | [] => none

/-- Read `YYYY-MM-DD`. -/
def date? (cs : List Char) : Option ((Nat × Nat × Nat) × List Char) := do
  let (year, cs) ← fixedDigits? 4 cs
  let (month, cs) ← fixedDigits? 2 (← pass? '-' cs)
  let (day, cs) ← fixedDigits? 2 (← pass? '-' cs)
  return ((year, month, day), cs)

/-- Read the digits of a fraction of a second as microseconds; digits beyond the
sixth are dropped. -/
def fraction? (cs : List Char) : Option (Nat × List Char) :=
  let ds := cs.takeWhile Char.isDigit
  if ds.isEmpty then none
  else
    let six := (ds ++ List.replicate 5 '0').take 6
    some (ofDigits (six.map fun c => c.toNat - 48), cs.drop ds.length)

/-- Read optional seconds with an optional fraction. -/
def seconds? : List Char → Option ((Nat × Nat) × List Char)
  | ':' :: cs => do
      let (second, cs) ← fixedDigits? 2 cs
      match cs with
      | c :: rest =>
          if c = '.' ∨ c = ',' then
            let (micro, cs) ← fraction? rest
            return ((second, micro), cs)
          else return ((second, 0), cs)
      | [] => return ((second, 0), [])
  | cs => some ((0, 0), cs)

/-- Read the hours and minutes of an offset as minutes. -/
def offsetMinutes? (cs : List Char) : Option (Nat × List Char) := do
  let (hours, cs) ← fixedDigits? 2 cs
  let (minutes, cs) ← fixedDigits? 2 ((pass? ':' cs).getD cs)
  if minutes < 60 then return (hours * 60 + minutes, cs) else none

/-- How the magnitude of an offset is read up to the end of the text, in
microseconds. -/
abbrev OffsetGrammar := List Char → Option Nat

/-- Hours and minutes. -/
def wholeMinutes : OffsetGrammar := fun cs => do
  let (minutes, cs) ← offsetMinutes? cs
  if cs.isEmpty then return minutes * 60000000 else none

/-- Hours and minutes, and seconds with a fraction where there are any. -/
def microseconds : OffsetGrammar := fun cs => do
  let (minutes, cs) ← offsetMinutes? cs
  let ((second, micro), cs) ← seconds? cs
  if cs.isEmpty && decide (second < 60) then
    return (minutes * 60 + second) * 1000000 + micro
  else none

/-- Read an optional offset up to the end of the text.  The sign of one that lies
behind is a hyphen or the mathematical minus. -/
def offset? (magnitude : OffsetGrammar) : List Char → Option (Option Int)
  | [] => some none
  | ['Z'] => some (some 0)
  | ['z'] => some (some 0)
  | c :: cs =>
      if c = '+' ∨ c = '-' ∨ c = '\u2212' then (magnitude cs).map (some ∘ signed (c != '+'))
      else none

/-- Read a date, or a date and a time of day with an optional offset. -/
def ofIso? (magnitude : OffsetGrammar) (s : String) : Option Timestamp := do
  let ((year, month, day), cs) ← date? s.toList
  match cs with
  | [] => make? year month day 0 0 0 0 none
  | c :: cs =>
      if c = 'T' ∨ c = 't' ∨ c = '_' ∨ c = ' ' then
        let (hour, cs) ← fixedDigits? 2 cs
        let (minute, cs) ← fixedDigits? 2 (← pass? ':' cs)
        let ((second, micro), cs) ← seconds? cs
        make? year month day hour minute second micro (← offset? magnitude cs)
      else none

/-- Read a timestamp as programs exchange it. -/
def ofExchange? (s : String) : Option Timestamp :=
  ofIso? microseconds s

/-! ## Reading numbers -/

/-- The greatest number that counts seconds; a greater one counts milliseconds. -/
def secondsLimit : Nat := 20000000000

/-- The moment a number of seconds and microseconds after 1970, in universal
time. -/
def ofSeconds? (seconds : Int) (micros : Nat) : Option Timestamp :=
  let seconds := seconds + (micros / 1000000 : Nat)
  let (year, month, day) := Calendar.ofDayNumber (seconds.fdiv 86400)
  let inDay := (seconds.fmod 86400).toNat
  if 1 ≤ year then
    make? year.toNat month day (inDay / 3600) (inDay / 60 % 60) (inDay % 60) (micros % 1000000)
      (some 0)
  else none

/-- The moment a number of milliseconds and microseconds after 1970, in universal
time. -/
def ofMilliseconds? (count : Int) (micros : Nat) : Option Timestamp :=
  ofSeconds? (count.fdiv 1000) ((count.fmod 1000).toNat * 1000 + micros)

/-- The moment an integer stands for. -/
def ofInteger? (n : Int) : Option Timestamp :=
  if n.natAbs ≤ secondsLimit then ofSeconds? n 0 else ofMilliseconds? n 0

/-- The moment a number with a fraction stands for. -/
def ofNumber? (x : Binary64) : Option Timestamp :=
  x.floor?.bind fun n =>
    if x.exceeds secondsLimit then ofMilliseconds? n (x.aboveFloor.parts 1000)
    else ofSeconds? n (x.aboveFloor.parts 1000000)

/-- Read a number of seconds or milliseconds: digits, or a number whose first
character that is no digit is a point. -/
def ofNumeral? (s : String) : Option Timestamp :=
  let (negative, body) := splitSign s.toList
  let whole := body.takeWhile Char.isDigit
  match body.drop whole.length with
  | [] =>
      if whole.isEmpty then none
      else ofInteger? (signed negative (ofDigits (whole.map fun c => c.toNat - 48)))
  | '.' :: _ => (Decimal.unsigned? negative body).bind fun d => ofNumber? d.toBinary64
  | _ => none

/-- Read a timestamp from text. -/
def ofText? (s : String) : Option Timestamp :=
  (ofIso? wholeMinutes s).orElse fun _ => ofNumeral? s

/-! ## Writing -/

/-- The digits of a number, padded with zeros to a width. -/
def padded (width n : Nat) : List Char :=
  let ds := Nat.toDigits 10 n
  List.replicate (width - ds.length) '0' ++ ds

/-- A sign, and hours and minutes of a number of minutes. -/
def offsetDigits (negative : Bool) (minutes : Nat) : List Char :=
  (if negative then '-' else '+') :: padded 2 (minutes / 60) ++ ':' :: padded 2 (minutes % 60)

/-- The text of an offset in minutes.  It is cut to whole seconds first, and
`Z` stands for none of them. -/
def minuteOffset (micros : Int) : List Char :=
  let seconds := micros.fdiv 1000000
  if seconds = 0 then ['Z'] else offsetDigits (seconds < 0) (seconds.natAbs / 60)

/-- The text of an offset to the microsecond; what is zero at its end is left
out. -/
def fineOffset (micros : Int) : List Char :=
  let n := micros.natAbs
  offsetDigits (micros < 0) (n / 60000000) ++
    (if n % 60000000 = 0 then [] else ':' :: padded 2 (n / 1000000 % 60)) ++
    (if n % 1000000 = 0 then [] else '.' :: padded 6 (n % 1000000))

/-- How a timestamp is laid out: what stands before the time of day, and how an
offset is written. -/
structure Layout where
  separator : Char
  offset : Int → List Char

/-- In documents. -/
def isoLayout : Layout := ⟨'T', minuteOffset⟩

/-- Between programs, the offset always in digits. -/
def numericLayout : Layout := ⟨'T', fineOffset⟩

/-- In prose. -/
def proseLayout : Layout := ⟨' ', fineOffset⟩

/-- The text of a timestamp.  Microseconds are shown when there are any. -/
def text (layout : Layout) (t : Timestamp) : String :=
  String.ofList <|
    padded 4 t.year ++ '-' :: padded 2 t.month ++ '-' :: padded 2 t.day ++
      layout.separator :: padded 2 t.hour ++ ':' :: padded 2 t.minute ++ ':' :: padded 2 t.second ++
      (if t.micro = 0 then [] else '.' :: padded 6 t.micro) ++ (t.offset.map layout.offset).getD []

end Timestamp

end GeoRegistry
