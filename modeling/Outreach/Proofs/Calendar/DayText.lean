import Mathlib.Data.List.TakeWhile
import Outreach.Calendar.Timestamp
import Outreach.Proofs.Calendar.Numbering
import Outreach.Proofs.Text.Digits

/-!
# Written days

A written day is read back as itself, in every year of the calendar: the year is a run of digits
that ends at the hyphen, whatever its sign and length, and month and day have two digits each
(`readYear_yearText`, `readPart_padded`). A written day is too short for a timestamp, so it is never
read as one.
-/

namespace Outreach

namespace Calendar

variable {count n : Nat}

theorem digitRun_padded (hcount : 0 < count) (hn : n < 10 ^ count) (rest : List Char) :
    digitRun (some count) (Text.padded count n ++ rest) = some (n, rest) := by
  have htaken : ((Text.padded count n ++ rest).take count).takeWhile Char.isDigit =
      Text.padded count n := by
    rw [List.take_left' (Text.length_padded hcount hn)]
    exact List.takeWhile_eq_self_iff.mpr fun c hc => Text.isDigit_of_mem_padded hc
  simp only [digitRun, htaken, Text.ofDigitChars_padded, List.drop_left]
  exact if_neg (by simpa using Text.padded_ne_nil count n)

/-- A run without a limit ends at the first hyphen. -/
theorem digitRun_none_padded (count n : Nat) (rest : List Char) :
    digitRun none (Text.padded count n ++ '-' :: rest) = some (n, '-' :: rest) := by
  have htaken : (Text.padded count n ++ '-' :: rest).takeWhile Char.isDigit =
      Text.padded count n := by
    rw [List.takeWhile_append_of_pos fun c hc => Text.isDigit_of_mem_padded hc]
    exact List.append_nil _
  simp only [digitRun, htaken, Text.ofDigitChars_padded, List.drop_left]
  exact if_neg (by simpa using Text.padded_ne_nil count n)

theorem readPart_padded (hn : n < 100) (rest : List Char) :
    readPart ('-' :: (Text.padded 2 n ++ rest)) = some (n, rest) := by
  rw [readPart, Text.dropBlanks_padded]
  exact digitRun_padded Nat.two_pos hn rest

/-- Digits without a sign are a year of four digits. -/
theorem readYear_padded (hn : n < 10000) (rest : List Char) :
    readYear (Text.padded 4 n ++ rest) = some ((n : Int), rest) := by
  unfold readYear
  rw [Text.dropBlanks_padded]
  split
  · rename_i heq
    exact absurd heq (Text.padded_append_ne_cons rfl _ _)
  · rename_i heq
    exact absurd heq (Text.padded_append_ne_cons rfl _ _)
  · rw [digitRun_padded (by decide) hn]
    rfl

theorem readYear_yearText (year : Int) (rest : List Char) :
    readYear (yearText year ++ '-' :: rest) = some (year, '-' :: rest) := by
  unfold yearText
  by_cases hshort : 0 ≤ year ∧ year ≤ 9999
  · rw [if_pos hshort, readYear_padded (by omega), Int.toNat_of_nonneg hshort.1]
  · rw [if_neg hshort]
    by_cases hneg : year < 0
    · rw [if_pos hneg]
      show (digitRun none (Text.padded 4 year.natAbs ++ '-' :: rest)).map _ = _
      rw [digitRun_none_padded]
      show some (-(year.natAbs : Int), '-' :: rest) = _
      rw [Int.ofNat_natAbs_of_nonpos (Int.le_of_lt hneg), Int.neg_neg]
    · rw [if_neg hneg]
      show (digitRun none (Text.padded 4 year.natAbs ++ '-' :: rest)).map _ = _
      rw [digitRun_none_padded]
      show some ((year.natAbs : Int), '-' :: rest) = _
      rw [Int.natAbs_of_nonneg (Int.not_lt.mp hneg)]

theorem Day.toList_text (d : Day) :
    d.text.toList =
      yearText d.year ++ '-' :: (Text.padded 2 d.month ++ '-' :: (Text.padded 2 d.day ++ [])) := by
  rw [Day.text, String.toList_ofList, dateText, List.append_assoc, List.cons_append,
    List.append_nil]

theorem Day.ofDate?_eq_some {year : Int} {month day : Nat} {d : Day} :
    Day.ofDate? year month day = some d ↔ d.year = year ∧ d.month = month ∧ d.day = day := by
  unfold Day.ofDate?
  refine ⟨?_, ?_⟩
  · intro hfound
    split at hfound
    · cases hfound
      exact ⟨rfl, rfl, rfl⟩
    · cases hfound
  · rintro ⟨rfl, rfl, rfl⟩
    exact dif_pos d.isDate

/-- Every day is read back from its written form. -/
theorem Day.read_text (d : Day) : Day.read d.text = some d := by
  obtain ⟨-, hmonth⟩ := d.isDate.inYear.month_bounds
  have hday := d.isDate.inYear.day_le_longest
  unfold Day.read
  rw [Day.toList_text, readYear_yearText]
  simp only [Option.bind_eq_bind, Option.bind_some,
    readPart_padded (Nat.lt_of_le_of_lt hmonth (by decide)),
    readPart_padded (Nat.lt_of_le_of_lt hday (by decide))]
  exact Day.ofDate?_eq_some.mpr ⟨rfl, rfl, rfl⟩

/-! ### Sizes -/

theorem utf8Len_yearText_le {year : Int} (hyear : year.natAbs < 10 ^ 6) :
    String.utf8Len (yearText year) ≤ 7 := by
  have hpadded : ∀ n < 10 ^ 6, String.utf8Len (Text.padded 4 n) ≤ 6 := by
    intro n hn
    rw [Text.utf8Len_padded]
    exact Text.length_padded_le (by decide) (by decide) hn
  unfold yearText
  by_cases hshort : 0 ≤ year ∧ year ≤ 9999
  · rw [if_pos hshort]
    exact Nat.le_succ_of_le (hpadded year.toNat (by omega))
  · rw [if_neg hshort, String.utf8Len_cons]
    have hsign : (if year < 0 then '-' else '+').utf8Size = 1 := by split <;> rfl
    have := hpadded year.natAbs hyear
    omega

/-- A written day is never taken for a timestamp. -/
theorem Day.timestamp_read_text (d : Day) : Timestamp.read d.text = .error .tooShort := by
  refine if_pos ?_
  have hyear : d.year.natAbs < 10 ^ 6 := by
    obtain ⟨hfirst, hlast, -, -⟩ := d.isDate
    unfold firstYear at hfirst
    unfold lastYear at hlast
    omega
  obtain ⟨-, hmonth⟩ := d.isDate.inYear.month_bounds
  have hday := d.isDate.inYear.day_le_longest
  have hlength := utf8Len_yearText_le hyear
  rw [← String.ofList_toList (s := d.text), String.utf8ByteSize_ofList, Day.toList_text]
  simp only [String.utf8Len_append, String.utf8Len_cons, String.utf8Len_nil, Text.utf8Len_padded]
  rw [Text.length_padded (by decide) (Nat.lt_of_le_of_lt hmonth (by decide)),
    Text.length_padded (by decide) (Nat.lt_of_le_of_lt hday (by decide))]
  have hhyphen : '-'.utf8Size = 1 := rfl
  omega

end Calendar

end Outreach
