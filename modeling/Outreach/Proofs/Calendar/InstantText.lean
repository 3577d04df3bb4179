import Outreach.Proofs.Calendar.TimestampText

/-!
# Written instants

An instant is written as the date and the time of day of its second, and what is read back has the
same second: the date of a number has that number, and the time of day loses nothing
(`exists_day`, `read_writtenAt`). The leap second is written as second sixty, which is why it has
to follow a second fifty-nine; every instant that is read from a timestamp does (`timed_of_read`).
-/

namespace Outreach

namespace Calendar

/-- A number whose date has a year of four digits is that of a day. -/
theorem exists_day {number : Int}
    (hyear : 0 ≤ (dateOfNumber number).1 ∧ (dateOfNumber number).1 ≤ 9999) :
    ∃ d : Day, dateOfNumber number = (d.year, d.month, d.day) ∧ d.number = number ∧
      0 ≤ d.year ∧ d.year ≤ 9999 := by
  obtain ⟨hdate, hnumber⟩ := numberOfDate_dateOfNumber number
  have hexists : IsDate (dateOfNumber number).1 (dateOfNumber number).2.1
      (dateOfNumber number).2.2 := by
    refine ⟨?_, ?_, hdate.day_pos, hdate.day_le⟩
    · unfold firstYear
      omega
    · unfold lastYear
      omega
  exact ⟨⟨_, _, _, hexists⟩, rfl, hnumber, hyear⟩

theorem Day.dateOfNumber_number (d : Day) : dateOfNumber d.number = (d.year, d.month, d.day) :=
  d.isDate.inYear.dateOfNumber_numberOfDate

namespace Timestamp

variable {d : Day} {seconds : Int} {second nanos : Nat} {fraction zone : List Char}

/-- The seconds since midnight. -/
def clockOf (seconds : Int) : Nat := (seconds % Instant.secondsOfDay).toNat

theorem clockOf_lt (seconds : Int) : clockOf seconds < 86400 := by
  unfold clockOf Instant.secondsOfDay
  omega

/-- The text of a moment in universal time. The second of the minute is given as written, since it
may be a leap second. -/
def writtenAt (seconds : Int) (second : Nat) (fraction zone : List Char) : String :=
  String.ofList (written (dateOfNumber (seconds / Instant.secondsOfDay)).1
    (dateOfNumber (seconds / Instant.secondsOfDay)).2.1
    (dateOfNumber (seconds / Instant.secondsOfDay)).2.2 (clockOf seconds / 3600)
    (clockOf seconds / 60 % 60) second fraction zone)

theorem exists_read_writtenAt
    (hyear : 0 ≤ (dateOfNumber (seconds / Instant.secondsOfDay)).1 ∧
      (dateOfNumber (seconds / Instant.secondsOfDay)).1 ≤ 9999) (hsecond : second ≤ 60)
    (hdecimals : decimals (fraction ++ zone) = .ok (nanos, zone))
    (hoffset : offset zone = .ok (0, [])) :
    ∃ d : Day, d.number = seconds / Instant.secondsOfDay ∧
      read (writtenAt seconds second fraction zone) =
        .ok (instant d (clockOf seconds / 3600) (clockOf seconds / 60 % 60) second nanos 0) := by
  obtain ⟨d, hdate, hnumber, hfour⟩ := exists_day hyear
  have hclock := clockOf_lt seconds
  refine ⟨d, hnumber, ?_⟩
  rw [writtenAt, hdate]
  exact read_written hfour (by omega) (by omega) hsecond hdecimals hoffset

/-- A second that is written as it is. -/
theorem read_writtenAt
    (hyear : 0 ≤ (dateOfNumber (seconds / Instant.secondsOfDay)).1 ∧
      (dateOfNumber (seconds / Instant.secondsOfDay)).1 ≤ 9999)
    (hdecimals : decimals (fraction ++ zone) = .ok (nanos, zone))
    (hoffset : offset zone = .ok (0, [])) :
    read (writtenAt seconds (clockOf seconds % 60) fraction zone) = .ok ⟨seconds, nanos⟩ := by
  have hsecond := Nat.mod_lt (clockOf seconds) (by decide : 60 > 0)
  obtain ⟨d, hday, hread⟩ :=
    exists_read_writtenAt hyear (Nat.le_of_lt hsecond) hdecimals hoffset
  have hseconds : d.number * Instant.secondsOfDay + ↑(clockOf seconds / 3600) * 3600 +
      ↑(clockOf seconds / 60 % 60) * 60 + ↑(clockOf seconds % 60) - 0 = seconds := by
    unfold clockOf Instant.secondsOfDay at *
    omega
  simp only [hread, instant, if_neg (Nat.ne_of_lt hsecond), hseconds]

/-- The leap second after a second fifty-nine. -/
theorem read_writtenAt_leap
    (hyear : 0 ≤ (dateOfNumber (seconds / Instant.secondsOfDay)).1 ∧
      (dateOfNumber (seconds / Instant.secondsOfDay)).1 ≤ 9999) (hlast : seconds % 60 = 59)
    (hdecimals : decimals (fraction ++ zone) = .ok (nanos, zone))
    (hoffset : offset zone = .ok (0, [])) :
    read (writtenAt seconds 60 fraction zone) = .ok ⟨seconds, nanos + Instant.leap⟩ := by
  obtain ⟨d, hday, hread⟩ := exists_read_writtenAt hyear (Nat.le_refl 60) hdecimals hoffset
  have hseconds : d.number * Instant.secondsOfDay + ↑(clockOf seconds / 3600) * 3600 +
      ↑(clockOf seconds / 60 % 60) * 60 + ((59 : Nat) : Int) - 0 = seconds := by
    unfold clockOf Instant.secondsOfDay at *
    omega
  simp only [hread, instant, if_pos, hseconds]

theorem decimals_thousandths {thousandths : Nat} (hlt : thousandths < 1000) :
    decimals ('.' :: (Text.padded 3 thousandths ++ ['Z'])) =
      .ok (thousandths * 1000000, ['Z']) := by
  have hlength : (Text.padded 3 thousandths).length = 3 := Text.length_padded (by decide) hlt
  have hall : (Text.padded 3 thousandths).take 9 = Text.padded 3 thousandths :=
    List.take_of_length_le (by omega)
  rw [decimals_append (Text.padded_ne_nil 3 thousandths)
    (fun c hc => Text.isDigit_of_mem_padded hc) rfl, hall, hlength, Text.ofDigitChars_padded]

end Timestamp

namespace Instant

/-- The year of an instant in universal time. -/
def year (t : Instant) : Int := (dateOfNumber (t.seconds / secondsOfDay)).1

/-- Less than two seconds of nanoseconds, and a leap second only after a second fifty-nine. -/
structure Timed (t : Instant) : Prop where
  nanos_lt : t.nanos < 2 * leap
  leap_last : leap ≤ t.nanos → t.seconds % 60 = 59

/-- Cut off below a thousandth of a second. -/
def truncated (t : Instant) : Instant := ⟨t.seconds, t.nanos / 1000000 * 1000000⟩

theorem timed_of_read {s : String} {t : Instant} (hread : Timestamp.read s = .ok t) : t.Timed := by
  obtain ⟨-, d, hour, minute, second, nanos, zone, _, _, _, _, -, -, -, hdecimals, hoffset, -, -, -,
    -, rfl⟩ := Timestamp.read_eq_ok.mp hread
  have hnanos := Timestamp.decimals_lt hdecimals
  have hzone := Timestamp.offset_minutes hoffset
  unfold Timestamp.instant
  by_cases hleap : second = 60
  · rw [if_pos hleap]
    refine ⟨by dsimp only; omega, fun _ => ?_⟩
    dsimp only
    unfold secondsOfDay
    omega
  · rw [if_neg hleap]
    exact ⟨by dsimp only; omega, fun hle => absurd hnanos (Nat.not_lt.mpr hle)⟩

/-- The seconds of a timestamp, of a year with four digits in its own zone. -/
theorem seconds_bounds {s : String} {t : Instant} (hread : Timestamp.read s = .ok t) :
    -1000000000000 < t.seconds ∧ t.seconds < 1000000000000 := by
  obtain ⟨-, d, hour, minute, second, nanos, zone, _, _, _, _, hdate, -, -, -, -, hhour, hminute,
    hsecond, hzone, rfl⟩ := Timestamp.read_eq_ok.mp hread
  have hnumber := d.isDate.inYear.number_bounds (Timestamp.date_year hdate)
  have hshown : (if second = 60 then (59, nanos + leap) else (second, nanos)).1 ≤ 60 := by
    split <;> omega
  unfold Timestamp.instant
  unfold secondsOfDay at *
  dsimp only
  rw [Day.number]
  omega

/-! ### Reading back -/

/-- The second of the minute as written, sixty for a leap second. -/
def shownSecond (t : Instant) : Nat :=
  Timestamp.clockOf t.seconds % 60 + if leap ≤ t.nanos then 1 else 0

/-- The nanoseconds of the second as written. -/
def shownNanos (t : Instant) : Nat := if leap ≤ t.nanos then t.nanos - leap else t.nanos

theorem text_eq (t : Instant) :
    t.text = Timestamp.writtenAt t.seconds t.shownSecond
      ('.' :: Text.padded 3 (t.shownNanos / 1000000)) ['Z'] := by
  have hshown : (if leap ≤ t.nanos then
      ((t.seconds % secondsOfDay).toNat % 60 + 1, t.nanos - leap)
      else ((t.seconds % secondsOfDay).toNat % 60, t.nanos)) = (t.shownSecond, t.shownNanos) := by
    unfold shownSecond shownNanos
    split <;> rfl
  unfold text
  simp only [hshown, Timestamp.writtenAt, Timestamp.clockOf, Timestamp.written,
    Timestamp.clockText, List.append_assoc, List.cons_append]

theorem leap_le_truncated (t : Instant) : leap ≤ t.truncated.nanos ↔ leap ≤ t.nanos := by
  unfold leap truncated
  dsimp only
  omega

/-- What is cut off is not written anyway. -/
theorem text_truncated (t : Instant) : t.truncated.text = t.text := by
  have hsecond : t.truncated.shownSecond = t.shownSecond := by
    unfold shownSecond
    rw [if_congr (leap_le_truncated t) rfl rfl]
    rfl
  have hnanos : t.truncated.shownNanos / 1000000 = t.shownNanos / 1000000 := by
    unfold shownNanos
    rw [if_congr (leap_le_truncated t) rfl rfl]
    unfold truncated leap
    dsimp only
    split <;> omega
  rw [text_eq, text_eq, hsecond, hnanos]
  rfl

/-- An instant of a year with four digits is read back from its text, up to what is cut off. -/
theorem read_text {t : Instant} (ht : t.Timed) (hyear : 0 ≤ t.year ∧ t.year ≤ 9999) :
    Timestamp.read t.text = .ok t.truncated := by
  have hbillion : leap = 1000000000 := rfl
  have hnanos := ht.nanos_lt
  have hlt : t.shownNanos / 1000000 < 1000 := by
    unfold shownNanos
    split <;> omega
  have hdecimals := Timestamp.decimals_thousandths hlt
  rw [text_eq]
  by_cases hleap : leap ≤ t.nanos
  · have hlast := ht.leap_last hleap
    have hsixty : t.shownSecond = 60 := by
      rw [shownSecond, if_pos hleap, Timestamp.clockOf, secondsOfDay]
      omega
    have hkept : t.shownNanos / 1000000 * 1000000 + leap = t.nanos / 1000000 * 1000000 := by
      rw [shownNanos, if_pos hleap]
      omega
    rw [hsixty, Timestamp.read_writtenAt_leap hyear hlast hdecimals rfl, hkept, truncated]
  · have hsecond : t.shownSecond = Timestamp.clockOf t.seconds % 60 := by
      rw [shownSecond, if_neg hleap, Nat.add_zero]
    have hkept : t.shownNanos = t.nanos := if_neg hleap
    rw [hsecond, Timestamp.read_writtenAt hyear hdecimals rfl, hkept, truncated]

/-! ### Whole seconds -/

/-- The marks of universal time. -/
def utcMarks : List (List Char) := [['Z'], ['+', '0', '0', ':', '0', '0']]

/-- A point and zeros, or nothing. -/
def zeroDecimals : Nat → List Char
  | 0 => []
  | places + 1 => '.' :: List.replicate (places + 1) '0'

/-- A whole second in universal time, with any number of decimals and either mark. -/
def secondText (places : Nat) (zone : List Char) (seconds : Int) : String :=
  Timestamp.writtenAt seconds (Timestamp.clockOf seconds % 60) (zeroDecimals places) zone

variable {zone : List Char}

theorem offset_utc (hzone : zone ∈ utcMarks) : Timestamp.offset zone = .ok (0, []) := by
  revert zone
  decide

theorem decimals_zeros (places : Nat) (hzone : zone ∈ utcMarks) :
    Timestamp.decimals (zeroDecimals places ++ zone) = .ok (0, zone) := by
  cases places with
  | zero =>
    revert zone
    decide
  | succ places =>
    have hdigits : ∀ c ∈ List.replicate (places + 1) '0', c.isDigit = true := fun c hc => by
      rw [List.eq_of_mem_replicate hc]
      rfl
    have hmark : zone.takeWhile Char.isDigit = [] := by
      revert zone
      decide
    rw [zeroDecimals, List.cons_append, Timestamp.decimals_append (by simp) hdigits hmark,
      List.take_replicate, Nat.ofDigitChars_replicate_zero, Nat.mul_zero, Nat.zero_mul]

theorem read_secondText {seconds : Int} (places : Nat) (hzone : zone ∈ utcMarks)
    (hyear : 0 ≤ (Instant.mk seconds 0).year ∧ (Instant.mk seconds 0).year ≤ 9999) :
    Timestamp.read (secondText places zone seconds) = .ok ⟨seconds, 0⟩ :=
  Timestamp.read_writtenAt hyear (decimals_zeros places hzone) (offset_utc hzone)

theorem slash_not_mem_secondText (places : Nat) (hzone : zone ∈ utcMarks) (seconds : Int) :
    '/' ∉ (secondText places zone seconds).toList := by
  have hyear : ∀ year, '/' ∉ yearText year := by
    intro year
    unfold yearText
    split
    · exact Text.not_mem_padded rfl _ _
    · split <;> simp [Text.not_mem_padded]
  have hdecimals : '/' ∉ zeroDecimals places := by
    cases places <;> simp [zeroDecimals, List.mem_replicate]
  have hmark : '/' ∉ zone := by
    revert zone
    decide
  simp [secondText, Timestamp.writtenAt, Timestamp.written, dateText, Timestamp.clockText,
    Text.not_mem_padded, hyear, hdecimals, hmark]

end Instant

end Calendar

end Outreach
