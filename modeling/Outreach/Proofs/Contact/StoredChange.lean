import Outreach.Proofs.Json.Members
import Outreach.Proofs.Selection.LastChange
import Outreach.Proofs.Text.Numerals

/-!
# Stored last changes

A document stores its last change as a text, in the forms of a bound of the last change, or as a
number of milliseconds since the beginning of 1970. Both stand for instants, numbers only for those
in the calendar's years (`Json.ChangedAt`). What is read of the first document of a reply is the
instant that its last change stands for, and nothing when there is no document, no such member or no
such instant (`lastChange?_eq_some_iff`).
-/

namespace Outreach

open Calendar

/-! ### Milliseconds -/

namespace Calendar.Instant

variable {t : Instant} {millis : Int}

/-- The instant that many milliseconds after the beginning of 1970, in a year of the calendar. It is
no leap second. -/
structure IsAtMillis (t : Instant) (millis : Int) : Prop where
  nanos_eq : t.seconds * 1000000000 + t.nanos = millis * 1000000
  nanos_lt : t.nanos < leap
  firstYear_le : firstYear ≤ t.year
  year_le : t.year ≤ lastYear

theorem january_le_iff (t : Instant) (first : Int) :
    numberOfDate first 1 1 ≤ t.seconds / secondsOfDay ↔ first ≤ t.year := by
  obtain ⟨hdate, hnumber⟩ := numberOfDate_dateOfNumber (t.seconds / secondsOfDay)
  rw [year, ← hdate.january_le_iff first, hnumber]

/-- The calendar's years in days. -/
theorem year_bounds_iff (t : Instant) :
    firstYear ≤ t.year ∧ t.year ≤ lastYear ↔
      numberOfDate firstYear 1 1 ≤ t.seconds / secondsOfDay ∧
        t.seconds / secondsOfDay < numberOfDate lastYear 12 31 + 1 := by
  have hnext : numberOfDate lastYear 12 31 + 1 = numberOfDate (lastYear + 1) 1 1 := by decide
  rw [t.january_le_iff, hnext, ← Int.not_le, t.january_le_iff]
  exact and_congr_right fun _ => by omega

theorem ofMillis?_eq_some_iff : ofMillis? millis = some t ↔ t.IsAtMillis millis := by
  refine ⟨?_, ?_⟩
  · intro hread
    rw [ofMillis?] at hread
    split at hread
    · rename_i hrange
      cases hread
      have hyear := (year_bounds_iff ⟨millis / 1000, (millis % 1000).toNat * 1000000⟩).mpr
        ⟨by dsimp only [secondsOfDay]; omega, by dsimp only [secondsOfDay]; omega⟩
      exact ⟨by dsimp only; omega, by dsimp only [leap]; omega, hyear.1, hyear.2⟩
    · cases hread
  · intro hat
    obtain ⟨hleast, hmost⟩ := t.year_bounds_iff.mp ⟨hat.firstYear_le, hat.year_le⟩
    have hnanos := hat.nanos_eq
    have hlt := hat.nanos_lt
    obtain ⟨seconds, nanos⟩ := t
    dsimp only [secondsOfDay, leap] at hleast hmost hnanos hlt
    have hseconds : millis / 1000 = seconds := by omega
    have hrest : (millis % 1000).toNat * 1000000 = nanos := by omega
    rw [ofMillis?, if_pos ⟨by omega, by omega⟩, hseconds, hrest]

/-- The milliseconds of the calendar's years fit a signed word. -/
theorem IsAtMillis.fits (hat : t.IsAtMillis millis) : ∃ n : Int64, millis = n.toInt := by
  obtain ⟨hleast, hmost⟩ := t.year_bounds_iff.mp ⟨hat.firstYear_le, hat.year_le⟩
  have hnanos := hat.nanos_eq
  have hlt := hat.nanos_lt
  have hfirst : -100000000 ≤ numberOfDate firstYear 1 1 := by decide
  have hlast : numberOfDate lastYear 12 31 < 100000000 := by decide
  dsimp only [secondsOfDay, leap] at hleast hmost hlt
  exact ⟨Int64.ofInt millis, (Int64.toInt_ofInt_of_le (by omega) (by omega)).symm⟩

end Calendar.Instant

/-! ### Documents -/

namespace Json

variable {v : Json} {t : Instant}

/-- What is stored stands for an instant: a text as a bound of the last change does, and a whole
number as milliseconds. -/
inductive ChangedAt (t : Instant) : Json → Prop
  | written {s : String} {bound : DateBound} (hread : DateBound.readLastChange s = .ok bound)
      (hstands : bound.StandsFor t) : ChangedAt t (.text s)
  | millis {n : Int} (hat : t.IsAtMillis n) : ChangedAt t (.integer n)

theorem instant?_integer {n : Int} : (integer n).instant? = some t ↔ t.IsAtMillis n := by
  show (Text.fitInt64? n).bind (fun word => Instant.ofMillis? word.toInt) = some t ↔ _
  rw [Option.bind_eq_some_iff]
  refine ⟨?_, ?_⟩
  · intro hread
    obtain ⟨word, hfits, hread⟩ := hread
    rw [Text.fitInt64?_eq_some_iff.mp hfits]
    exact Instant.ofMillis?_eq_some_iff.mp hread
  · intro hat
    obtain ⟨word, rfl⟩ := hat.fits
    exact ⟨word, Text.fitInt64?_eq_some_iff.mpr rfl, Instant.ofMillis?_eq_some_iff.mpr hat⟩

theorem instant?_eq_some_iff : v.instant? = some t ↔ v.ChangedAt t := by
  refine ⟨?_, ?_⟩
  · intro hread
    cases v with
    | text s =>
      obtain ⟨bound, hbound, hstands⟩ := DateBound.instant?_text.mp hread
      exact .written hbound hstands
    | integer n => exact .millis (instant?_integer.mp hread)
    | _ => cases hread
  · intro hchanged
    cases hchanged with
    | written hbound hstands => exact DateBound.instant?_text.mpr ⟨_, hbound, hstands⟩
    | millis hat => exact instant?_integer.mpr hat

end Json

/-- The last change of the first document. -/
def Reply.ChangedAt (reply : Reply) (t : Instant) : Prop :=
  ∃ members others value, reply.hits = .object members :: others ∧
    Named.get? "lastchange" members = some value ∧ value.ChangedAt t

theorem Operations.lastChange?_eq_some_iff {reply : Reply} {t : Instant} :
    lastChange? reply = some t ↔ reply.ChangedAt t := by
  simp only [lastChange?, Option.bind_eq_some_iff, List.head?_eq_some_iff, Json.get?_eq_some_iff,
    Json.instant?_eq_some_iff]
  refine ⟨?_, ?_⟩
  · rintro ⟨value, ⟨_, ⟨others, hhits⟩, members, rfl, hget⟩, hchanged⟩
    exact ⟨members, others, value, hhits, hget, hchanged⟩
  · rintro ⟨members, others, value, hhits, hget, hchanged⟩
    exact ⟨value, ⟨_, ⟨others, hhits⟩, members, rfl, hget⟩, hchanged⟩

end Outreach
