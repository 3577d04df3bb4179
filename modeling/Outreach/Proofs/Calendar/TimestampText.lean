import Outreach.Proofs.Calendar.DayText
import Outreach.Proofs.Fault.Steps

/-!
# Written timestamps

A timestamp is read part after part (`read_eq_ok`). Each part as it is written is read back and
leaves what follows it, so the whole is read back too (`read_written`); decimals and the mark of
universal time are left open there, so the same statement serves for whole seconds and for seconds
with decimals. In the other direction, whatever was read lies within bounds: a year of four digits,
less than a second of decimals, an offset of whole minutes.
-/

namespace Outreach

namespace Calendar

open Steps

namespace Timestamp

variable {count n : Nat}

theorem digits_padded (hcount : 0 < count) (hn : n < 10 ^ count) (rest : List Char) :
    digits count (Text.padded count n ++ rest) = .ok (n, rest) := by
  have hlength := Text.length_padded hcount hn
  have hdigits : (Text.padded count n).all Char.isDigit = true :=
    List.all_eq_true.mpr fun c hc => Text.isDigit_of_mem_padded hc
  simp only [digits, List.take_left' hlength, List.drop_left' hlength, Text.ofDigitChars_padded]
  exact if_pos ⟨hlength, hdigits⟩

theorem mark_cons {accepted : List Char} {c : Char} (hc : c ∈ accepted) (rest : List Char) :
    mark accepted (c :: rest) = .ok rest :=
  if_pos hc

/-- A date of a year with four digits. -/
theorem date_append {d : Day} (hyear : 0 ≤ d.year ∧ d.year ≤ 9999) (rest : List Char) :
    date (dateText d.year d.month d.day ++ rest) = .ok (d, rest) := by
  obtain ⟨-, hmonth⟩ := d.isDate.inYear.month_bounds
  have hday := d.isDate.inYear.day_le_longest
  have hdate : Day.ofDate? d.year d.month d.day = some d :=
    Day.ofDate?_eq_some.mpr ⟨rfl, rfl, rfl⟩
  have hparts : dateText d.year d.month d.day ++ rest =
      Text.padded 4 d.year.toNat ++ '-' :: (Text.padded 2 d.month ++ '-' ::
        (Text.padded 2 d.day ++ rest)) := by
    simp only [dateText, yearText, if_pos hyear, List.append_assoc, List.cons_append]
  unfold date
  rw [hparts]
  refine bind_eq_ok.mpr ⟨_, digits_padded (by decide) (by omega) _, ?_⟩
  refine bind_eq_ok.mpr ⟨_, mark_cons List.mem_cons_self _, ?_⟩
  refine bind_eq_ok.mpr ⟨_, digits_padded (by decide) (by omega) _, ?_⟩
  refine bind_eq_ok.mpr ⟨_, mark_cons List.mem_cons_self _, ?_⟩
  refine bind_eq_ok.mpr ⟨_, digits_padded (by decide) (by omega) _, ?_⟩
  simp only [Int.toNat_of_nonneg hyear.1, hdate]

def clockText (hour minute second : Nat) : List Char :=
  Text.padded 2 hour ++ ':' :: Text.padded 2 minute ++ ':' :: Text.padded 2 second

theorem clock_append {hour minute second : Nat} (hhour : hour < 100) (hminute : minute < 100)
    (hsecond : second < 100) (rest : List Char) :
    clock (clockText hour minute second ++ rest) = .ok ((hour, minute, second), rest) := by
  have hparts : clockText hour minute second ++ rest =
      Text.padded 2 hour ++ ':' :: (Text.padded 2 minute ++ ':' ::
        (Text.padded 2 second ++ rest)) := by
    simp only [clockText, List.append_assoc, List.cons_append]
  unfold clock
  rw [hparts]
  refine bind_eq_ok.mpr ⟨_, digits_padded (by decide) hhour _, ?_⟩
  refine bind_eq_ok.mpr ⟨_, mark_cons List.mem_cons_self _, ?_⟩
  refine bind_eq_ok.mpr ⟨_, digits_padded (by decide) hminute _, ?_⟩
  refine bind_eq_ok.mpr ⟨_, mark_cons List.mem_cons_self _, ?_⟩
  exact bind_eq_ok.mpr ⟨_, digits_padded (by decide) hsecond _, rfl⟩

/-- A point and digits; those beyond the ninth do not count. -/
theorem decimals_append {digits zone : List Char} (hne : digits ≠ [])
    (hdigits : ∀ c ∈ digits, c.isDigit = true) (hzone : zone.takeWhile Char.isDigit = []) :
    decimals ('.' :: (digits ++ zone)) =
      .ok (Nat.ofDigitChars 10 (digits.take 9) 0 * Nat.pow 10 (9 - (digits.take 9).length),
        zone) := by
  have hrun : (digits ++ zone).takeWhile Char.isDigit = digits := by
    rw [List.takeWhile_append_of_pos hdigits, hzone, List.append_nil]
  simp only [decimals, hrun, List.drop_left]
  rw [if_neg (by simp [hne]), if_neg (by simp [hne])]

/-- A text is read as an instant when every part of it is, in order, and nothing is left over. -/
theorem read_eq_ok {s : String} {t : Instant} :
    read s = .ok t ↔
      19 ≤ s.utf8ByteSize ∧ ∃ d hour minute second nanos zone atMark atClock atDecimals atZone,
        date s.toList = .ok (d, atMark) ∧ mark ['T', 't', ' '] atMark = .ok atClock ∧
        clock atClock = .ok ((hour, minute, second), atDecimals) ∧
        decimals atDecimals = .ok (nanos, atZone) ∧ offset atZone = .ok (zone, []) ∧
        hour ≤ 23 ∧ minute ≤ 59 ∧ second ≤ 60 ∧ (zone.natAbs : Int) < Instant.secondsOfDay ∧
        t = instant d hour minute second nanos zone := by
  unfold read
  refine ⟨?_, ?_⟩
  · intro hread
    split at hread
    · cases hread
    · rename_i hsize
      obtain ⟨⟨d, atMark⟩, hdate, hread⟩ := bind_eq_ok.mp hread
      obtain ⟨atClock, hmark, hread⟩ := bind_eq_ok.mp hread
      obtain ⟨⟨⟨hour, minute, second⟩, atDecimals⟩, hclock, hread⟩ := bind_eq_ok.mp hread
      obtain ⟨⟨nanos, atZone⟩, hdecimals, hread⟩ := bind_eq_ok.mp hread
      dsimp only at hread
      split at hread
      · cases hread
      · rename_i htime
        obtain ⟨⟨zone, rest⟩, hoffset, hread⟩ := bind_eq_ok.mp hread
        dsimp only at hread
        split at hread
        · cases hread
        · rename_i hrest
          split at hread
          · cases hread
          · rename_i hzone
            obtain rfl : rest = [] := by simpa using hrest
            exact ⟨Nat.le_of_not_lt hsize, d, hour, minute, second, nanos, zone, _, _, _, _, hdate,
              hmark, hclock, hdecimals, hoffset, by omega, by omega, by omega,
              Int.not_le.mp hzone, (Except.ok.inj hread).symm⟩
  · rintro ⟨hsize, d, hour, minute, second, nanos, zone, atMark, atClock, atDecimals, atZone, hdate,
      hmark, hclock, hdecimals, hoffset, hhour, hminute, hsecond, hzone, rfl⟩
    rw [if_neg (Nat.not_lt.mpr hsize)]
    refine bind_eq_ok.mpr ⟨_, hdate, bind_eq_ok.mpr ⟨_, hmark, bind_eq_ok.mpr ⟨_, hclock, ?_⟩⟩⟩
    refine bind_eq_ok.mpr ⟨_, hdecimals, ?_⟩
    dsimp only
    rw [if_neg (by omega)]
    refine bind_eq_ok.mpr ⟨_, hoffset, ?_⟩
    exact if_neg (Int.not_le.mpr hzone)

/-- A written timestamp; the decimals and the mark of the offset are given as written. -/
def written (year : Int) (month day hour minute second : Nat) (fraction zone : List Char) :
    List Char :=
  dateText year month day ++ 'T' :: (clockText hour minute second ++ (fraction ++ zone))

theorem length_written {d : Day} (hyear : 0 ≤ d.year ∧ d.year ≤ 9999) {hour minute second : Nat}
    (hhour : hour ≤ 23) (hminute : minute ≤ 59) (hsecond : second ≤ 60)
    (fraction zone : List Char) :
    19 ≤ (written d.year d.month d.day hour minute second fraction zone).length := by
  obtain ⟨-, hmonth⟩ := d.isDate.inYear.month_bounds
  have hday := d.isDate.inYear.day_le_longest
  have htwo : ∀ n < 100, (Text.padded 2 n).length = 2 := fun n hn =>
    Text.length_padded (by decide) hn
  have hfour : (Text.padded 4 d.year.toNat).length = 4 :=
    Text.length_padded (by decide) (by omega)
  simp only [written, dateText, yearText, if_pos hyear, clockText, List.length_append,
    List.length_cons]
  rw [htwo hour (by omega), htwo minute (by omega), htwo second (by omega),
    htwo d.month (by omega), htwo d.day (by omega), hfour]
  omega

theorem read_written {d : Day} (hyear : 0 ≤ d.year ∧ d.year ≤ 9999) {hour minute second nanos : Nat}
    (hhour : hour ≤ 23) (hminute : minute ≤ 59) (hsecond : second ≤ 60) {fraction zone : List Char}
    (hdecimals : decimals (fraction ++ zone) = .ok (nanos, zone))
    (hoffset : offset zone = .ok (0, [])) :
    read (String.ofList (written d.year d.month d.day hour minute second fraction zone)) =
      .ok (instant d hour minute second nanos 0) := by
  have hsize := Nat.le_trans (length_written hyear hhour hminute hsecond fraction zone)
    (Text.length_le_utf8Len _)
  rw [read_eq_ok, String.utf8ByteSize_ofList, String.toList_ofList]
  refine ⟨hsize, d, hour, minute, second, nanos, 0, _, _, _, _, date_append hyear _,
    mark_cons List.mem_cons_self _, clock_append (by omega) (by omega) (by omega) _, hdecimals,
    hoffset, hhour, hminute, hsecond, by decide, rfl⟩

/-! ### What is read -/

theorem digits_lt {count n : Nat} {cs rest : List Char} (hread : digits count cs = .ok (n, rest)) :
    n < 10 ^ count := by
  unfold digits at hread
  dsimp only at hread
  split at hread
  · rename_i hrun
    cases hread
    have hlt := Text.ofDigitChars_lt (List.all_eq_true.mp hrun.2)
    rwa [hrun.1] at hlt
  · cases hread

theorem date_year {cs rest : List Char} {d : Day} (hread : date cs = .ok (d, rest)) :
    0 ≤ d.year ∧ d.year ≤ 9999 := by
  obtain ⟨⟨year, atMonth⟩, hyear, hread⟩ := bind_eq_ok.mp hread
  obtain ⟨_, -, hread⟩ := bind_eq_ok.mp hread
  obtain ⟨⟨month, _⟩, -, hread⟩ := bind_eq_ok.mp hread
  obtain ⟨_, -, hread⟩ := bind_eq_ok.mp hread
  obtain ⟨⟨day, _⟩, -, hread⟩ := bind_eq_ok.mp hread
  have hlt := digits_lt hyear
  dsimp only at hread
  split at hread
  · rename_i found hfound
    cases hread
    have := (Day.ofDate?_eq_some.mp hfound).1
    omega
  · cases hread

/-- Up to nine decimals, scaled to nanoseconds, stay below a second. -/
theorem scaled_lt (cs : List Char) :
    Nat.ofDigitChars 10 ((cs.takeWhile Char.isDigit).take 9) 0 *
      Nat.pow 10 (9 - ((cs.takeWhile Char.isDigit).take 9).length) < Instant.leap := by
  generalize hkept : (cs.takeWhile Char.isDigit).take 9 = kept
  have hlength : kept.length ≤ 9 := hkept ▸ List.length_take_le 9 _
  have hdigits : ∀ c ∈ kept, c.isDigit = true := by
    intro c hc
    rw [← hkept] at hc
    exact List.mem_takeWhile_imp (List.mem_of_mem_take hc)
  calc Nat.ofDigitChars 10 kept 0 * 10 ^ (9 - kept.length)
      < 10 ^ kept.length * 10 ^ (9 - kept.length) :=
        Nat.mul_lt_mul_of_pos_right (Text.ofDigitChars_lt hdigits) (Nat.pow_pos (by decide))
    _ = Instant.leap := by
        rw [← Nat.pow_add, Nat.add_sub_cancel' hlength]
        rfl

theorem decimals_lt {cs rest : List Char} {nanos : Nat} (hread : decimals cs = .ok (nanos, rest)) :
    nanos < Instant.leap := by
  unfold decimals at hread
  split at hread
  · rename_i digits
    dsimp only at hread
    split at hread
    · cases hread
    · split at hread
      · cases hread
      · cases hread
        exact scaled_lt digits
  · cases hread
    decide

theorem offset_minutes {cs rest : List Char} {zone : Int} (hread : offset cs = .ok (zone, rest)) :
    zone % 60 = 0 := by
  unfold offset at hread
  split at hread
  · cases hread
  · split at hread
    · cases hread
      rfl
    · split at hread
      · obtain ⟨⟨hours, _⟩, -, hread⟩ := bind_eq_ok.mp hread
        dsimp only at hread
        split at hread
        · cases hread
        · obtain ⟨_, -, hread⟩ := bind_eq_ok.mp hread
          obtain ⟨⟨minutes, _⟩, -, hread⟩ := bind_eq_ok.mp hread
          dsimp only at hread
          split at hread
          · cases hread
          · cases hread
            split <;> omega
      · cases hread

end Timestamp

end Calendar

end Outreach
