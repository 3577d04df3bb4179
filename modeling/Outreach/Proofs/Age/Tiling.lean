import Mathlib.Data.Int.Order.Basic
import Mathlib.Logic.ExistsUnique
import Mathlib.Order.Lattice
import Outreach.Calendar.Day
import Outreach.Filter.AgeBand

/-!
# Age bands over the calendar

Every birth day belongs to a band. The bands of a filter include both of their edges, so the day on
an edge between two bands belongs to both, and every other day to one. The windows that are counted
leave out their last day; they tile the days from the oldest edge up to today, and each of them lies
within its band. All of this comes from the order of the edges alone: two bands that share a day
share an edge, because the older one ends, in years, no later than the younger one begins.
-/

namespace Outreach

variable {δ : Type} [LinearOrder δ]

/-- A reading of relative dates as days, on which more years ago is earlier, and any number of years
ago is before today, as far back as the bands reach. -/
structure DateBound.Resolves (resolve : DateBound → δ) : Prop where
  earlier : ∀ {m n : UInt32}, m < n → n ≤ AgeBand.oldest →
    resolve (.yearsAgo n) < resolve (.yearsAgo m)
  before_today : ∀ {n : UInt32}, 0 < n → n ≤ AgeBand.oldest →
    resolve (.yearsAgo n) < resolve .today

namespace AgeBand

/-- The filter of a band finds a birth day between the two bounds, both included. -/
def Accepts (resolve : DateBound → δ) (band : AgeBand) (day : δ) : Prop :=
  (∀ first ∈ band.birthBounds.1, resolve first ≤ day) ∧
    ∀ last ∈ band.birthBounds.2, day ≤ resolve last

/-- A birth day is counted in a band from the first day of the window up to before its last. -/
def Counts (resolve : DateBound → δ) (band : AgeBand) (day : δ) : Prop :=
  resolve band.birthWindow.1 ≤ day ∧ day < resolve band.birthWindow.2

/-- The edges between neighboring bands, from the youngest on, each between its two bands. -/
def innerEdges : List (AgeBand × UInt32 × AgeBand) :=
  [(.under18, 18, .from18), (.from18, 25, .from25), (.from25, 35, .from35),
    (.from35, 50, .from50), (.from50, 65, .from65)]

/-! ### Ages -/

section Ages

variable {a b band younger older : AgeBand} {m n age : UInt32}

theorem code_injective (h : a.code = b.code) : a = b := by
  revert h
  cases a <;> cases b <;> decide

theorem least_inj (ha : a.least = some n) (hb : b.least = some n) : a = b := by
  cases a <;> cases ha <;> cases b <;> simp [least] at hb ⊢

theorem least_lt_most (hleast : band.least = some m) (hmost : band.most = some n) : m < n := by
  cases band <;> cases hleast <;> cases hmost <;> decide

theorem least_pos (hleast : band.least = some n) : 0 < n := by
  cases band <;> cases hleast <;> decide

theorem least_le_oldest (hleast : band.least = some n) : n ≤ oldest := by
  cases band <;> cases hleast <;> decide

theorem most_le_oldest (hmost : band.most = some n) : n ≤ oldest := by
  cases band <;> cases hmost <;> decide

/-- A younger band ends no later, in years, than an older one begins. -/
theorem most_le_least (h : younger.code < older.code) :
    ∃ m n, younger.most = some m ∧ older.least = some n ∧ m ≤ n := by
  have hages : younger.most.isSome ∧ older.least.isSome ∧
      younger.most.getD 0 ≤ older.least.getD 0 := by
    revert h
    cases younger <;> cases older <;> decide
  obtain ⟨hmost, hleast, hle⟩ := hages
  obtain ⟨m, hm⟩ := Option.isSome_iff_exists.mp hmost
  obtain ⟨n, hn⟩ := Option.isSome_iff_exists.mp hleast
  rw [hm, hn] at hle
  exact ⟨m, n, hm, hn, hle⟩

theorem ages_of_mem_innerEdges (h : (younger, age, older) ∈ innerEdges) :
    younger.most = some age ∧ older.least = some age := by
  revert h
  cases younger <;> cases older <;> simp +contextual [innerEdges, most, least]

theorem mem_innerEdges (hmost : younger.most = some age) (hleast : older.least = some age) :
    (younger, age, older) ∈ innerEdges := by
  cases younger <;> cases hmost <;> cases older <;> simp [innerEdges, least] at hleast ⊢

end Ages

/-! ### Days -/

section Days

variable {resolve : DateBound → δ} {day : δ} {a b band younger older : AgeBand} {age : UInt32}

theorem yearsAgo_le (hresolve : DateBound.Resolves resolve) {m n : UInt32} (hle : m ≤ n)
    (hn : n ≤ oldest) : resolve (.yearsAgo n) ≤ resolve (.yearsAgo m) := by
  rcases UInt32.lt_or_eq_of_le hle with hlt | rfl
  · exact (hresolve.earlier hlt hn).le
  · exact le_rfl

theorem accepts_iff : band.Accepts resolve day ↔
    (∀ age ∈ band.most, resolve (.yearsAgo age) ≤ day) ∧
      ∀ age ∈ band.least, day ≤ resolve (.yearsAgo age) := by
  simp [Accepts, birthBounds]

/-- The band in which a day lies when the day on an edge is left to the younger band. -/
theorem exists_band (resolve : DateBound → δ) (day : δ) :
    ∃ band : AgeBand, (∀ age ∈ band.most, resolve (.yearsAgo age) ≤ day) ∧
      ∀ age ∈ band.least, day < resolve (.yearsAgo age) := by
  rcases le_or_gt (resolve (.yearsAgo 18)) day with h18 | h18
  · exact ⟨.under18, by simpa [most, least] using h18⟩
  rcases le_or_gt (resolve (.yearsAgo 25)) day with h25 | h25
  · exact ⟨.from18, by simpa [most, least] using ⟨h25, h18⟩⟩
  rcases le_or_gt (resolve (.yearsAgo 35)) day with h35 | h35
  · exact ⟨.from25, by simpa [most, least] using ⟨h35, h25⟩⟩
  rcases le_or_gt (resolve (.yearsAgo 50)) day with h50 | h50
  · exact ⟨.from35, by simpa [most, least] using ⟨h50, h35⟩⟩
  rcases le_or_gt (resolve (.yearsAgo 65)) day with h65 | h65
  · exact ⟨.from50, by simpa [most, least] using ⟨h65, h50⟩⟩
  · exact ⟨.from65, by simpa [most, least] using h65⟩

/-- Two bands that accept the same day have an edge between them, and it falls on this day. -/
theorem edge_of_accepts (hresolve : DateBound.Resolves resolve) (hcode : younger.code < older.code)
    (hyounger : younger.Accepts resolve day) (holder : older.Accepts resolve day) :
    ∃ age, (younger, age, older) ∈ innerEdges ∧ day = resolve (.yearsAgo age) := by
  obtain ⟨m, n, hm, hn, hle⟩ := most_le_least hcode
  have hfrom : resolve (.yearsAgo m) ≤ day := (accepts_iff.mp hyounger).1 m hm
  have hto : day ≤ resolve (.yearsAgo n) := (accepts_iff.mp holder).2 n hn
  rcases UInt32.lt_or_eq_of_le hle with hlt | rfl
  · exact absurd (hfrom.trans hto) (hresolve.earlier hlt (least_le_oldest hn)).not_ge
  · exact ⟨m, mem_innerEdges hm hn, le_antisymm hto hfrom⟩

/-- The day on an edge is accepted by the bands on both sides of it, and by no other. -/
theorem accepts_edge_iff (hresolve : DateBound.Resolves resolve)
    (hedge : (younger, age, older) ∈ innerEdges) :
    band.Accepts resolve (resolve (.yearsAgo age)) ↔ band = younger ∨ band = older := by
  obtain ⟨hmost, hleast⟩ := ages_of_mem_innerEdges hedge
  have hyounger : younger.Accepts resolve (resolve (.yearsAgo age)) := by
    rw [accepts_iff, hmost]
    refine ⟨fun _ hage => by rw [Option.some.inj hage], fun n hn => ?_⟩
    exact (hresolve.earlier (least_lt_most hn hmost) (most_le_oldest hmost)).le
  have holder : older.Accepts resolve (resolve (.yearsAgo age)) := by
    rw [accepts_iff, hleast]
    refine ⟨fun n hn => ?_, fun _ hage => by rw [Option.some.inj hage]⟩
    exact (hresolve.earlier (least_lt_most hleast hn) (most_le_oldest hn)).le
  refine ⟨fun hband => ?_, fun hband => ?_⟩
  · rcases Nat.lt_trichotomy band.code younger.code with hcode | hcode | hcode
    · -- the younger band would have both of its edges on this day
      obtain ⟨n, hshared, hday⟩ := edge_of_accepts hresolve hcode hband hyounger
      have hlt := least_lt_most (ages_of_mem_innerEdges hshared).2 hmost
      have hearlier := hresolve.earlier hlt (most_le_oldest hmost)
      exact absurd hday hearlier.ne
    · exact .inl (code_injective hcode)
    · obtain ⟨n, hshared, -⟩ := edge_of_accepts hresolve hcode hyounger hband
      obtain ⟨hmost', hleast'⟩ := ages_of_mem_innerEdges hshared
      have hage : n = age := Option.some.inj (hmost'.symm.trans hmost)
      exact .inr (least_inj (hage ▸ hleast') hleast)
  · rcases hband with rfl | rfl
    · exact hyounger
    · exact holder

/-- A day that is on no edge is accepted by one band. -/
theorem existsUnique_accepts (hresolve : DateBound.Resolves resolve)
    (hoff : ∀ edge ∈ innerEdges, day ≠ resolve (.yearsAgo edge.2.1)) :
    ∃! band : AgeBand, band.Accepts resolve day := by
  obtain ⟨band, hfrom, hto⟩ := exists_band resolve day
  have hband : band.Accepts resolve day :=
    accepts_iff.mpr ⟨hfrom, fun age hage => (hto age hage).le⟩
  refine ⟨band, hband, fun other hother => ?_⟩
  rcases Nat.lt_trichotomy other.code band.code with hcode | hcode | hcode
  · obtain ⟨age, hedge, hday⟩ := edge_of_accepts hresolve hcode hother hband
    exact absurd hday (hoff _ hedge)
  · exact code_injective hcode
  · obtain ⟨age, hedge, hday⟩ := edge_of_accepts hresolve hcode hband hother
    exact absurd hday (hoff _ hedge)

/-! ### Windows -/

theorem Counts.accepts (h : band.Counts resolve day) : band.Accepts resolve day := by
  obtain ⟨hfrom, hto⟩ := h
  rw [accepts_iff]
  refine ⟨fun age hage => ?_, fun age hage => ?_⟩
  · rw [birthWindow, hage] at hfrom
    exact hfrom
  · rw [birthWindow, hage] at hto
    exact hto.le

/-- A window begins no earlier than the oldest edge and ends no later than today. -/
theorem Counts.inRange (hresolve : DateBound.Resolves resolve) (h : band.Counts resolve day) :
    resolve (.yearsAgo oldest) ≤ day ∧ day < resolve .today := by
  obtain ⟨hfrom, hto⟩ := h
  refine ⟨?_, ?_⟩
  · cases hmost : band.most with
    | none => rwa [birthWindow, hmost] at hfrom
    | some age =>
      rw [birthWindow, hmost] at hfrom
      exact (yearsAgo_le hresolve (most_le_oldest hmost) UInt32.le_rfl).trans hfrom
  · cases hleast : band.least with
    | none => rwa [birthWindow, hleast] at hto
    | some age =>
      rw [birthWindow, hleast] at hto
      exact hto.trans (hresolve.before_today (least_pos hleast) (least_le_oldest hleast))

theorem Counts.eq (hresolve : DateBound.Resolves resolve) (ha : a.Counts resolve day)
    (hb : b.Counts resolve day) : a = b := by
  -- a window does not hold the edge on which it ends
  have hnone : ∀ {younger older : AgeBand}, younger.Counts resolve day → older.Counts resolve day →
      ¬ younger.code < older.code := by
    intro younger older hyounger holder hcode
    obtain ⟨age, hedge, hday⟩ := edge_of_accepts hresolve hcode hyounger.accepts holder.accepts
    have hto := holder.2
    rw [birthWindow, (ages_of_mem_innerEdges hedge).2] at hto
    exact hto.ne hday
  have hle := Nat.le_of_not_lt (hnone ha hb)
  have hge := Nat.le_of_not_lt (hnone hb ha)
  exact code_injective (Nat.le_antisymm hge hle)

theorem existsUnique_counts (hresolve : DateBound.Resolves resolve)
    (hfirst : resolve (.yearsAgo oldest) ≤ day) (hlast : day < resolve .today) :
    ∃! band : AgeBand, band.Counts resolve day := by
  obtain ⟨band, hfrom, hto⟩ := exists_band resolve day
  have hband : band.Counts resolve day := by
    refine ⟨?_, ?_⟩
    · cases hmost : band.most with
      | none => rwa [birthWindow, hmost]
      | some age =>
        rw [birthWindow, hmost]
        exact hfrom age hmost
    · cases hleast : band.least with
      | none => rwa [birthWindow, hleast]
      | some age =>
        rw [birthWindow, hleast]
        exact hto age hleast
  exact ⟨band, hband, fun other hother => hother.eq hresolve hband⟩

end Days

/-- The filters of the bands cover all birth days: a day on one of the five inner edges is accepted
by the two bands next to it, and every other day by one band. The windows tile the days from a
hundred and fifty years ago up to before today and hold no other; and a day that is counted in a
band is accepted by the filter of that band. -/
theorem bands_tile_birth_days {resolve : DateBound → δ} (hresolve : DateBound.Resolves resolve)
    (day : δ) :
    (∃ band : AgeBand, band.Accepts resolve day) ∧
      (∀ younger age older, (younger, age, older) ∈ innerEdges → day = resolve (.yearsAgo age) →
        younger ≠ older ∧
          ∀ band : AgeBand, band.Accepts resolve day ↔ band = younger ∨ band = older) ∧
      ((∀ edge ∈ innerEdges, day ≠ resolve (.yearsAgo edge.2.1)) →
        ∃! band : AgeBand, band.Accepts resolve day) ∧
      (resolve (.yearsAgo 150) ≤ day ∧ day < resolve .today →
        ∃! band : AgeBand, band.Counts resolve day) ∧
      (¬ (resolve (.yearsAgo 150) ≤ day ∧ day < resolve .today) →
        ∀ band : AgeBand, ¬ band.Counts resolve day) ∧
      ∀ band : AgeBand, band.Counts resolve day → band.Accepts resolve day := by
  refine ⟨?_, ?_, existsUnique_accepts hresolve, ?_, ?_, fun _ => Counts.accepts⟩
  · obtain ⟨band, hfrom, hto⟩ := exists_band resolve day
    exact ⟨band, accepts_iff.mpr ⟨hfrom, fun age hage => (hto age hage).le⟩⟩
  · rintro younger age older hedge rfl
    refine ⟨?_, fun band => accepts_edge_iff hresolve hedge⟩
    rintro rfl
    obtain ⟨hmost, hleast⟩ := ages_of_mem_innerEdges hedge
    exact absurd (least_lt_most hleast hmost) (UInt32.lt_irrefl age)
  · exact fun hrange => existsUnique_counts hresolve hrange.1 hrange.2
  · exact fun hout band hband => hout (hband.inRange hresolve)

/-- On the fifteenth of June 2024, who is born twenty-five years before to the day is found in the
bands on both sides of twenty-five, and counted once. -/
theorem bands_tile_birth_days_in_june :
    let resolve : DateBound → Int
      | .yearsAgo years => Calendar.numberOfDate (2024 - years.toNat) 6 15
      | _ => Calendar.numberOfDate 2024 6 15
    let birthday := Calendar.numberOfDate 1999 6 15
    DateBound.Resolves resolve ∧
      (∀ band : AgeBand, band.Accepts resolve birthday ↔ band = .from18 ∨ band = .from25) ∧
        ∃! band : AgeBand, band.Counts resolve birthday := by
  intro resolve birthday
  have hresolve : DateBound.Resolves resolve := by
    refine ⟨fun {m n} hlt _ => ?_, fun {n} hpos _ => ?_⟩
    · have hlt' : m.toNat < n.toNat := hlt
      simp only [resolve, Calendar.numberOfDate]
      omega
    · have hpos' : 0 < n.toNat := hpos
      simp only [resolve, Calendar.numberOfDate]
      omega
  obtain ⟨-, hedge, -, hcounted, -⟩ := bands_tile_birth_days hresolve birthday
  refine ⟨hresolve, (hedge .from18 25 .from25 (by decide) rfl).2, hcounted ?_⟩
  decide +kernel

end AgeBand

end Outreach
