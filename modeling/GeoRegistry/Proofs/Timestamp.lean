/-
# Proofs.Timestamp -- a timestamp of a document is read from its text

Every part of the text has its width, so the parts are read one after another: a number in
its digits (`fixedDigits?_padded`), then the date, the time of day and the offset.  In
documents an offset is written in minutes, so one of whole minutes is read back
(`ofText?_text`), and none but those is read there (`ofText?_minutes`).
-/
import GeoRegistry.Proofs.Text.Numeral
import GeoRegistry.Timestamp

namespace GeoRegistry.Timestamp

set_option autoImplicit false

open Text

/-! ## Padded numbers -/

section Padded

variable {width n : Nat}

theorem length_padded (some_ : 0 < width) (fits : n < Nat.pow 10 width) :
    (padded width n).length = width := by
  have short := (Nat.length_toDigits_le_iff (n := n) (by decide) some_).2 fits
  simp only [padded, List.length_append, List.length_replicate]
  omega

theorem isDigit_padded : ∀ c ∈ padded width n, c.isDigit = true := by
  intro c member
  rcases List.mem_append.1 member with zero | digit
  · obtain ⟨-, rfl⟩ := List.mem_replicate.1 zero
    decide
  · exact isDigit_of_written digit

theorem ofDigits_padded : ofDigits ((padded width n).map fun c => c.toNat - 48) = n := by
  have zeros (k : Nat) (ds : List Nat) : ofDigits (List.replicate k 0 ++ ds) = ofDigits ds := by
    induction k with
    | zero => rfl
    | succ k ih => rw [List.replicate_succ, List.cons_append, ← ih]; rfl
  rw [padded, List.map_append, List.map_replicate]
  exact (zeros _ _).trans (ofDigits_toDigits n)

theorem ascii_padded : ∀ c ∈ padded width n, c.toNat < 0x80 := by
  intro c member
  have bounds := digit_bounds (isDigit_padded c member)
  omega

/-- **A number in its digits is read**, whatever follows. -/
theorem fixedDigits?_padded (some_ : 0 < width) (fits : n < Nat.pow 10 width) (rest : List Char) :
    fixedDigits? width (padded width n ++ rest) = some (n, rest) := by
  have length := length_padded some_ fits
  have taken : (padded width n ++ rest).take width = padded width n := List.take_left' length
  have left : (padded width n ++ rest).drop width = rest := List.drop_left' length
  have digits : (padded width n).all Char.isDigit = true :=
    List.all_eq_true.2 isDigit_padded
  simp only [fixedDigits?, taken, left, length, digits, ofDigits_padded, and_self, if_true]

theorem twoDigits?_padded (fits : n < 100) (rest : List Char) :
    fixedDigits? 2 (padded 2 n ++ rest) = some (n, rest) :=
  fixedDigits?_padded (by decide) fits rest

theorem fourDigits?_padded (fits : n < 10000) (rest : List Char) :
    fixedDigits? 4 (padded 4 n ++ rest) = some (n, rest) :=
  fixedDigits?_padded (by decide) fits rest

end Padded

/-- A fraction of a second in six digits is read, where no digit follows. -/
theorem fraction?_padded {micro : Nat} (fits : micro < 1000000) {rest : List Char}
    (stops : Stops Char.isDigit rest) :
    fraction? (padded 6 micro ++ rest) = some (micro, rest) := by
  have length : (padded 6 micro).length = 6 := length_padded (by decide) fits
  have left : (padded 6 micro ++ rest).drop 6 = rest := List.drop_left' length
  have some_ : (padded 6 micro).isEmpty = false := by
    rw [List.isEmpty_eq_false_iff, ← List.length_pos_iff]
    omega
  simp [fraction?, takeWhile_run isDigit_padded stops, some_, length, left, ofDigits_padded]

/-! ## The parts of a timestamp -/

theorem date?_padded {year month day : Nat} (y : year < 10000) (m : month < 100)
    (d : day < 100) (rest : List Char) :
    date? (padded 4 year ++ '-' :: (padded 2 month ++ '-' :: (padded 2 day ++ rest))) =
      some ((year, month, day), rest) := by
  simp [date?, pass?, fourDigits?_padded y, twoDigits?_padded m, twoDigits?_padded d]

/-- A character that seconds go on with. -/
def isSecond (c : Char) : Bool :=
  c.isDigit || c = '.' || c = ','

theorem seconds?_padded {second micro : Nat} (s : second < 100) (fits : micro < 1000000)
    {rest : List Char} (stops : Stops isSecond rest) :
    seconds? (':' :: (padded 2 second ++
      ((if micro = 0 then [] else '.' :: padded 6 micro) ++ rest))) =
      some ((second, micro), rest) := by
  have digit : Stops Char.isDigit rest := by
    intro c first
    have none_ := stops c first
    simp only [isSecond, Bool.or_eq_false_iff] at none_
    exact none_.1.1
  split
  · next zero =>
    subst zero
    cases rest with
    | nil =>
        have read := twoDigits?_padded s []
        rw [List.append_nil] at read
        simp [seconds?, read]
    | cons c cs =>
        have mark : ¬(c = '.' ∨ c = ',') := by
          have none_ := stops_cons.1 stops
          simp only [isSecond, Bool.or_eq_false_iff, decide_eq_false_iff_not] at none_
          exact not_or.2 ⟨none_.1.2, none_.2⟩
        simp [seconds?, twoDigits?_padded s, mark]
  · simp [seconds?, twoDigits?_padded s, fraction?_padded fits digit]

theorem offsetMinutes?_padded {minutes : Nat} (fits : minutes < 6000) :
    offsetMinutes? (padded 2 (minutes / 60) ++ ':' :: padded 2 (minutes % 60)) =
      some (minutes, []) := by
  have hours := twoDigits?_padded (show minutes / 60 < 100 by omega)
    (':' :: padded 2 (minutes % 60))
  have inHour := twoDigits?_padded (show minutes % 60 < 100 by omega) []
  rw [List.append_nil] at inHour
  have whole : minutes / 60 * 60 + minutes % 60 = minutes := Nat.div_add_mod' minutes 60
  simp [offsetMinutes?, pass?, hours, inHour, whole, Nat.mod_lt]

/-! ## Offsets -/

/-- The offset, if there is one, is of whole minutes. -/
def WholeMinutes (t : Timestamp) : Prop :=
  ∀ offset ∈ t.offset, (60000000 : Int) ∣ offset

theorem minuteOffset_minutes (minutes : Int) :
    minuteOffset (60000000 * minutes) =
      if minutes = 0 then ['Z'] else offsetDigits (minutes < 0) minutes.natAbs := by
  have seconds : (60000000 * minutes).fdiv 1000000 = 60 * minutes := by
    rw [Int.fdiv_eq_ediv_of_nonneg _ (by decide)]
    omega
  have size : (60 * minutes).natAbs / 60 = minutes.natAbs := by omega
  simp only [minuteOffset, seconds, size]
  by_cases zero : minutes = 0
  · simp [zero]
  · have sign : decide (60 * minutes < 0) = decide (minutes < 0) := by
      simp only [decide_eq_decide]
      omega
    rw [if_neg (by omega), if_neg zero, sign]

/-- **An offset of whole minutes is read back.** -/
theorem offset?_minuteOffset {offset : Int} (whole : (60000000 : Int) ∣ offset)
    (day : offset.natAbs < microsPerDay) :
    offset? wholeMinutes (minuteOffset offset) = some (some offset) := by
  obtain ⟨minutes, rfl⟩ := whole
  rw [minuteOffset_minutes]
  split
  · next zero => simp [zero, offset?]
  · next other =>
    generalize size : minutes.natAbs = count
    have few : count < 1440 := by
      simp only [microsPerDay] at day
      omega
    have magnitude : wholeMinutes (padded 2 (count / 60) ++ ':' :: padded 2 (count % 60)) =
        some (count * 60000000) := by
      simp [wholeMinutes, offsetMinutes?_padded (show count < 6000 by omega)]
    by_cases negative : minutes < 0
    · have value : -((count : Int) * 60000000) = 60000000 * minutes := by omega
      simp [offset?, offsetDigits, negative, magnitude, signed, value]
    · have value : (count : Int) * 60000000 = 60000000 * minutes := by omega
      simp [offset?, offsetDigits, negative, magnitude, signed, value]

/-- Nothing that an offset begins with belongs to the seconds. -/
theorem minuteOffset_stops (offset : Int) : Stops isSecond (minuteOffset offset) := by
  unfold minuteOffset
  dsimp only
  split
  · simp
    decide
  · rw [offsetDigits, List.cons_append, stops_cons]
    split <;> decide

/-! ## Timestamps -/

theorem daysInMonth_le (year month : Nat) : Calendar.daysInMonth year month ≤ 31 := by
  unfold Calendar.daysInMonth
  split
  · split <;> decide
  · split <;> decide

/-- **The text of a timestamp in a document is read as the timestamp.** -/
theorem ofIso?_text {t : Timestamp} (minutes : t.WholeMinutes) :
    ofIso? wholeMinutes (t.text isoLayout) = some t := by
  obtain ⟨year, month, day, hour, minute, second, micro, offset, moment⟩ := t
  have ⟨_, y, _, m, _, d, h, mi, s, us, o⟩ := moment
  have few := daysInMonth_le year month
  have date := date?_padded (show year < 10000 by omega) (show month < 100 by omega)
    (show day < 100 by omega)
  have hours := twoDigits?_padded (show hour < 100 by omega)
  have minutesOf := twoDigits?_padded (show minute < 100 by omega)
  have behind : Stops isSecond ((offset.map minuteOffset).getD []) := by
    cases offset with
    | none => simp
    | some offset => exact minuteOffset_stops offset
  have seconds := seconds?_padded (show second < 100 by omega) us behind
  have zone : offset? wholeMinutes ((offset.map minuteOffset).getD []) = some offset := by
    cases offset with
    | none => rfl
    | some offset => exact offset?_minuteOffset (minutes offset rfl) o
  have made : make? year month day hour minute second micro offset = some _ := dif_pos moment
  rw [ofIso?, text, String.toList_ofList]
  simp [date, isoLayout, hours, pass?, minutesOf, seconds, zone, made]

theorem ofText?_text {t : Timestamp} (minutes : t.WholeMinutes) :
    ofText? (t.text isoLayout) = some t := by
  rw [ofText?, ofIso?_text minutes]
  rfl

theorem minuteOffset_ascii (offset : Int) : ∀ c ∈ minuteOffset offset, c.toNat < 0x80 := by
  have marks : 'Z'.toNat < 0x80 ∧ '-'.toNat < 0x80 ∧ '+'.toNat < 0x80 ∧ ':'.toNat < 0x80 := by
    decide
  unfold minuteOffset
  dsimp only
  split
  · simp
  · simp only [offsetDigits, List.forall_mem_append, List.forall_mem_cons]
    refine ⟨⟨?_, ascii_padded⟩, marks.2.2.2, ascii_padded⟩
    split
    · exact marks.2.1
    · exact marks.2.2.1

theorem text_ascii (t : Timestamp) : ∀ c ∈ (t.text isoLayout).toList, c.toNat < 0x80 := by
  have marks : '-'.toNat < 0x80 ∧ ':'.toNat < 0x80 ∧ '.'.toNat < 0x80 ∧ 'T'.toNat < 0x80 := by
    decide
  have fraction : ∀ c ∈ if t.micro = 0 then [] else '.' :: padded 6 t.micro, c.toNat < 0x80 := by
    split
    · simp
    · exact List.forall_mem_cons.2 ⟨marks.2.2.1, ascii_padded⟩
  have zone : ∀ c ∈ (t.offset.map isoLayout.offset).getD [], c.toNat < 0x80 := by
    cases t.offset with
    | none => simp
    | some offset => exact minuteOffset_ascii offset
  rw [text, String.toList_ofList]
  simp only [List.forall_mem_append, List.forall_mem_cons]
  exact ⟨⟨⟨⟨⟨⟨⟨ascii_padded, marks.1, ascii_padded⟩, marks.1, ascii_padded⟩, marks.2.2.2,
    ascii_padded⟩, marks.2.1, ascii_padded⟩, marks.2.1, ascii_padded⟩, fraction⟩, zone⟩

/-! ## What is read in documents -/

theorem make?_offset {year month day hour minute second micro : Nat} {offset : Option Int}
    {t : Timestamp} (made : make? year month day hour minute second micro offset = some t) :
    t.offset = offset := by
  unfold make? at made
  split at made
  · cases made
    rfl
  · cases made

theorem offset?_wholeMinutes {cs : List Char} {offset : Option Int}
    (read : offset? wholeMinutes cs = some offset) : ∀ o ∈ offset, (60000000 : Int) ∣ o := by
  have magnitude {cs : List Char} {n : Nat} (read : wholeMinutes cs = some n) :
      60000000 ∣ n := by
    simp only [wholeMinutes, Option.bind_eq_bind, Option.bind_eq_some_iff] at read
    obtain ⟨⟨minutes, rest⟩, -, read⟩ := read
    split at read
    · cases read
      exact Nat.dvd_mul_left _ _
    · cases read
  unfold offset? at read
  split at read
  · cases read
    simp
  · cases read
    simp
  · cases read
    simp
  · split at read
    · obtain ⟨n, taken, rfl⟩ := Option.map_eq_some_iff.1 read
      rintro o ⟨⟩
      obtain ⟨k, rfl⟩ := magnitude taken
      unfold signed
      split <;> omega
    · cases read

theorem ofIso?_minutes {s : String} {t : Timestamp} (read : ofIso? wholeMinutes s = some t) :
    t.WholeMinutes := by
  simp only [ofIso?, Option.bind_eq_bind, Option.bind_eq_some_iff] at read
  obtain ⟨⟨⟨year, month, day⟩, cs⟩, -, read⟩ := read
  split at read
  · rw [WholeMinutes, make?_offset read]
    simp
  · split at read
    · simp only [Option.bind_eq_some_iff] at read
      obtain ⟨_, -, _, -, _, -, _, -, offset, zone, made⟩ := read
      rw [WholeMinutes, make?_offset made]
      exact offset?_wholeMinutes zone
    · cases read

/-- What a number stands for lies in universal time. -/
theorem ofSeconds?_minutes {seconds : Int} {micros : Nat} {t : Timestamp}
    (read : ofSeconds? seconds micros = some t) : t.WholeMinutes := by
  simp only [ofSeconds?] at read
  split at read
  · rw [WholeMinutes, make?_offset read]
    simp
  · cases read

theorem ofInteger?_minutes {n : Int} {t : Timestamp} (read : ofInteger? n = some t) :
    t.WholeMinutes := by
  unfold ofInteger? at read
  split at read
  · exact ofSeconds?_minutes read
  · exact ofSeconds?_minutes read

theorem ofNumber?_minutes {x : Binary64} {t : Timestamp} (read : ofNumber? x = some t) :
    t.WholeMinutes := by
  obtain ⟨n, -, read⟩ := Option.bind_eq_some_iff.1 read
  split at read
  · exact ofSeconds?_minutes read
  · exact ofSeconds?_minutes read

theorem ofNumeral?_minutes {s : String} {t : Timestamp} (read : ofNumeral? s = some t) :
    t.WholeMinutes := by
  simp only [ofNumeral?] at read
  split at read
  · split at read
    · cases read
    · exact ofInteger?_minutes read
  · obtain ⟨d, -, read⟩ := Option.bind_eq_some_iff.1 read
    exact ofNumber?_minutes read
  · cases read

/-- **What is read of the text of a document has an offset of whole minutes, or none.** -/
theorem ofText?_minutes {s : String} {t : Timestamp} (read : ofText? s = some t) :
    t.WholeMinutes := by
  unfold ofText? at read
  cases iso : ofIso? wholeMinutes s with
  | none =>
      rw [iso] at read
      exact ofNumeral?_minutes read
  | some t' =>
      rw [iso] at read
      cases read
      exact ofIso?_minutes iso

end GeoRegistry.Timestamp
