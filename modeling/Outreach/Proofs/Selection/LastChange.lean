import Outreach.Operations
import Outreach.Proofs.Calendar.InstantText

/-!
# The bound of the last change

A bound of the last change is a timestamp or a day, and a written day is too short for a timestamp.
So whatever was read is read again from its own text, days as they are and instants up to a
thousandth of a second (`readLastChange_day`, `readLastChange_instant`). Contacts carry their last
change in the same forms, and both are read alike, a day as its midnight (`instant?_text`).
-/

namespace Outreach

open Calendar

namespace DateBound

variable {s : String} {t : Instant} {d : Day} {bound : DateBound}

theorem readLastChange_eq_instant :
    readLastChange s = .ok (.instant t) ↔ Timestamp.read s = .ok t := by
  unfold readLastChange
  cases Timestamp.read s with
  | ok found => simp
  | error cause => cases Day.read s <;> simp

theorem readLastChange_eq_day :
    readLastChange s = .ok (.day d) ↔
      (∃ cause, Timestamp.read s = .error cause) ∧ Day.read s = some d := by
  unfold readLastChange
  cases Timestamp.read s with
  | ok found => simp
  | error cause => cases Day.read s <;> simp

/-- A bound that was read is an instant or a day. -/
theorem eq_of_readLastChange (hread : readLastChange s = .ok bound) :
    (∃ t, bound = .instant t) ∨ ∃ d, bound = .day d := by
  unfold readLastChange at hread
  split at hread
  · cases hread
    exact .inl ⟨_, rfl⟩
  · split at hread
    · cases hread
      exact .inr ⟨_, rfl⟩
    · cases hread

theorem readLastChange_day (d : Day) : readLastChange (day d).expression = .ok (.day d) :=
  readLastChange_eq_day.mpr ⟨⟨_, d.timestamp_read_text⟩, d.read_text⟩

theorem readLastChange_instant (hread : readLastChange s = .ok (.instant t))
    (hyear : 0 ≤ t.year ∧ t.year ≤ 9999) :
    readLastChange (instant t).expression = .ok (.instant t.truncated) :=
  have htimed := Instant.timed_of_read (readLastChange_eq_instant.mp hread)
  readLastChange_eq_instant.mpr (Instant.read_text htimed hyear)

/-! ### Instants of bounds -/

/-- The instant that a bound stands for; a day stands for its midnight in universal time. -/
def StandsFor : DateBound → Instant → Prop
  | .instant t, u => u = t
  | .day d, u => dateOfNumber (u.seconds / Instant.secondsOfDay) = (d.year, d.month, d.day) ∧
      u.seconds % Instant.secondsOfDay = 0 ∧ u.nanos = 0
  | _, _ => False

theorem standsFor_day : (day d).StandsFor t ↔ t = Instant.ofDay d := by
  have hdate := d.dateOfNumber_number
  obtain ⟨seconds, nanos⟩ := t
  refine ⟨?_, ?_⟩
  · rintro ⟨hday, hmidnight, hnanos⟩
    have hnumber := (numberOfDate_dateOfNumber (seconds / Instant.secondsOfDay)).2
    rw [hday] at hnumber
    have hseconds : seconds = d.number * Instant.secondsOfDay := by
      rw [Day.number, hnumber]
      exact (Int.ediv_mul_cancel (Int.dvd_of_emod_eq_zero hmidnight)).symm
    rw [Instant.ofDay, hseconds, ← hnanos]
  · intro hmidnight
    cases hmidnight
    refine ⟨?_, Int.mul_emod_left _ _, rfl⟩
    rw [Int.mul_ediv_cancel _ (by decide), hdate]

/-- A bound that was read stands for one instant. -/
theorem exists_standsFor (hread : readLastChange s = .ok bound) : ∃ t, bound.StandsFor t := by
  obtain ⟨t, rfl⟩ | ⟨d, rfl⟩ := eq_of_readLastChange hread
  · exact ⟨t, rfl⟩
  · exact ⟨_, standsFor_day.mpr rfl⟩

/-- The last change of a contact is read as the bound in the same text. -/
theorem instant?_text :
    (Json.text s).instant? = some t ↔
      ∃ bound, readLastChange s = .ok bound ∧ bound.StandsFor t := by
  unfold Json.instant? readLastChange
  dsimp only
  cases Timestamp.read s with
  | ok found => simp [StandsFor, eq_comm]
  | error cause =>
    cases Day.read s with
    | some d => simp [standsFor_day, eq_comm]
    | none => simp

/-- What was read once is read again from its own text and then written the same. Instants lose
what lies below a thousandth of a second the first time, leap seconds and offsets included. And a
contact's last change is read exactly when a bound would be, as the instant that the bound stands
for. -/
theorem lastChange_rereadable :
    (∀ d : Day, readLastChange (day d).expression = .ok (.day d)) ∧
    (∀ s t, readLastChange s = .ok (.instant t) → 0 ≤ t.year ∧ t.year ≤ 9999 →
      readLastChange (instant t).expression = .ok (.instant t.truncated)) ∧
    (∀ s bound, readLastChange s = .ok bound →
      (∀ t, bound = .instant t → 0 ≤ t.year ∧ t.year ≤ 9999) →
      ∃ again, readLastChange bound.expression = .ok again ∧
        again.expression = bound.expression) ∧
    (∀ s bound, readLastChange s = .ok bound → ∃ t, bound.StandsFor t) ∧
    ∀ s t, (Json.text s).instant? = some t ↔
      ∃ bound, readLastChange s = .ok bound ∧ bound.StandsFor t := by
  refine ⟨readLastChange_day, fun _ _ => readLastChange_instant, ?_, fun _ _ => exists_standsFor,
    fun _ _ => instant?_text⟩
  intro s bound hread hyear
  obtain ⟨t, rfl⟩ | ⟨d, rfl⟩ := eq_of_readLastChange hread
  · exact ⟨_, readLastChange_instant hread (hyear t rfl), t.text_truncated⟩
  · exact ⟨_, readLastChange_day d, rfl⟩

/-- A leap second in a zone ahead of universal time, with more decimals than are kept. -/
theorem lastChange_rereadable_leap :
    DateBound.readLastChange "2017-01-01T00:59:60.500900+01:00" =
        .ok (.instant ⟨1483228799, 1500900000⟩) ∧
      (DateBound.instant ⟨1483228799, 1500900000⟩).expression = "2016-12-31T23:59:60.500Z" ∧
      DateBound.readLastChange (DateBound.instant ⟨1483228799, 1500900000⟩).expression =
        .ok (.instant ⟨1483228799, 1500000000⟩) := by
  have hread : DateBound.readLastChange "2017-01-01T00:59:60.500900+01:00" =
      .ok (.instant ⟨1483228799, 1500900000⟩) :=
    readLastChange_eq_instant.mpr (by decide +kernel)
  exact ⟨hread, by decide +kernel, lastChange_rereadable.2.1 _ _ hread (by decide)⟩

end DateBound

end Outreach
