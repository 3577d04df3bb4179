import Outreach.Proofs.Pivot.Exact

/-!
# The rows of contacts without a value

Every level is walked to its end under the key of the contacts without a value, whatever outcome
stands there, if any. So below each cell the last row has this key at all inner levels, and a row
that is cut at any level goes on as the last row below the cell of the cut: no row without values is
left out, even when it counts nobody. The step is one level of cells around the rows below them.
-/

namespace Outreach

namespace Pivot

variable {n : Nat} {levels : List Level}

/-- A row of keys and a count. -/
def line (keys : List String) (count : UInt64) : Row := keys ++ [toString count.toNat]

theorem line_cons (key : String) (keys : List String) (count : UInt64) :
    line (key :: keys) count = key :: line keys count := rfl

theorem length_line (keys : List String) (count : UInt64) :
    (line keys count).length = keys.length + 1 := List.length_append

theorem dropLast_line (keys : List String) (count : UInt64) :
    (line keys count).dropLast = keys := List.dropLast_concat

theorem rowCount?_line (keys : List String) (count : UInt64) :
    rowCount? (line keys count) = some count := by
  rw [rowCount?, line, List.getLast?_concat, Option.getD_some,
    Text.readUInt64_toString count.toNat_lt, UInt64.ofNat_toNat]

/-- A table with `n` keys in a row that has every row without values: the last one, which has no
value at all, and for each row those that agree with it up to a level and have none from there. -/
structure KeepsUnavailable (n : Nat) (table : List Row) : Prop where
  ne_nil : table ≠ []
  cells : ∀ row ∈ table, ∃ keys count, keys.length = n ∧ row = line keys count
  last : ∃ count, table.getLast? = some (line (List.replicate n notAvailable) count)
  openings : ∀ row ∈ table, ∀ i < n, ∃ count,
    line (row.take i ++ List.replicate (n - i) notAvailable) count ∈ table

theorem KeepsUnavailable.mem_last {table : List Row} (htable : KeepsUnavailable n table) :
    ∃ count, line (List.replicate n notAvailable) count ∈ table := by
  obtain ⟨count, hlast⟩ := htable.last
  exact ⟨count, List.mem_of_getLast? hlast⟩

theorem keepsUnavailable_singleton (count : UInt64) :
    KeepsUnavailable 0 [[toString count.toNat]] where
  ne_nil := List.cons_ne_nil _ _
  cells _ hrow := ⟨[], count, rfl, List.mem_singleton.mp hrow⟩
  last := ⟨count, rfl⟩
  openings _ _ i hi := absurd hi (Nat.not_lt_zero i)

/-- One more level: the rows below each cell under its key, those of the contacts without a value
at the end. -/
theorem KeepsUnavailable.flatMap {cells : List Cell} {missing : Cell} {below : Cell → List Row}
    (hmissing : missing.key = notAvailable)
    (hbelow : ∀ cell ∈ cells ++ [missing], KeepsUnavailable n (below cell)) :
    KeepsUnavailable (n + 1)
      ((cells ++ [missing]).flatMap fun cell => (below cell).map (cell.key :: ·)) := by
  have hend : missing ∈ cells ++ [missing] := List.mem_append_right _ (List.mem_singleton_self _)
  obtain ⟨total, htotal⟩ := (hbelow missing hend).last
  have hlast : ((cells ++ [missing]).flatMap fun cell =>
      (below cell).map (cell.key :: ·)).getLast? =
        some (line (List.replicate (n + 1) notAvailable) total) := by
    rw [List.flatMap_append, List.flatMap_singleton, List.getLast?_append, List.getLast?_map,
      htotal, Option.map_some, hmissing]
    rfl
  refine ⟨?_, ?_, ⟨total, hlast⟩, ?_⟩
  · intro hnone
    rw [hnone] at hlast
    cases hlast
  · intro row hrow
    obtain ⟨cell, hcell, hrow⟩ := List.mem_flatMap.mp hrow
    obtain ⟨inner, hinner, rfl⟩ := List.mem_map.mp hrow
    obtain ⟨keys, count, hlength, rfl⟩ := (hbelow cell hcell).cells inner hinner
    exact ⟨cell.key :: keys, count, congrArg (· + 1) hlength, rfl⟩
  · intro row hrow i hi
    cases i with
    | zero => exact ⟨total, List.mem_of_getLast? hlast⟩
    | succ i =>
      obtain ⟨cell, hcell, hrow⟩ := List.mem_flatMap.mp hrow
      obtain ⟨inner, hinner, rfl⟩ := List.mem_map.mp hrow
      obtain ⟨count, hopening⟩ :=
        (hbelow cell hcell).openings inner hinner i (Nat.lt_of_succ_lt_succ hi)
      refine ⟨count, List.mem_flatMap.mpr ⟨cell, hcell, ?_⟩⟩
      rw [List.take_succ_cons, List.cons_append, line_cons, Nat.add_sub_add_right]
      exact List.mem_map_of_mem hopening

theorem keepsUnavailable_rowsBelow (levels : List Level) (count : UInt64) (outcomes : Outcomes) :
    KeepsUnavailable levels.length (rowsBelow levels count outcomes) := by
  induction levels generalizing count outcomes with
  | nil => exact keepsUnavailable_singleton count
  | cons level rest ih =>
    exact KeepsUnavailable.flatMap (missingCell_key level outcomes)
      fun cell _ => ih cell.count cell.inner

/-- The rows of any outcomes at all have every row without values, and no sum on the way to them is
more than a word where the buckets of each node sum to one. -/
theorem rows_keep_unavailable (hlevels : levels ≠ []) (outcomes : Outcomes) :
    KeepsUnavailable levels.length (rows levels outcomes) ∧
      (Outcomes.Fit outcomes → rowsExact levels outcomes = some (rows levels outcomes)) := by
  refine ⟨?_, fun hfit => rowsExact_eq hfit levels⟩
  rw [rows_eq_rowsBelow hlevels 0]
  exact keepsUnavailable_rowsBelow levels 0 outcomes

/-- Cities within answers within genders: a gender under the key of none, an answer without its
contacts, a number where a companion should be and buckets where another should. -/
theorem rows_keep_unavailable_misshapen :
    let answers : Outcome := .single 3 [("form", .single 3 [("answer", .buckets
      [⟨.text "yes", none, 2, [("city_missing", .buckets
        [⟨.text "Lyon", none, 4, []⟩, ⟨.text "Nice", none, 1, []⟩])]⟩])])]
    let outcomes : Outcomes := [("gender_missing", .metric none), ("gender", .buckets
      [⟨.text "N/A", none, 7, [("presence", answers)]⟩])]
    let levels : List Level := [.gender, .presence 1, .city]
    let table : List Row := [["N/A", "yes", "N/A", "5"], ["N/A", "N/A", "N/A", "0"],
      ["N/A", "N/A", "N/A", "0"]]
    levels ≠ [] ∧ Outcomes.Fit outcomes ∧ rows levels outcomes = table ∧
      rowsExact levels outcomes = some table ∧ KeepsUnavailable 3 table := by
  intro answers outcomes levels table
  have hlevels : levels ≠ [] := List.cons_ne_nil _ _
  have hfit : Outcomes.Fit outcomes := by
    simp [outcomes, answers, Outcomes.Fit, Outcome.Fits, Bucket.AllFit, Bucket.sum]
  have hrows : rows levels outcomes = table := by decide +kernel
  have hkeeps := rows_keep_unavailable hlevels outcomes
  rw [hrows] at hkeeps
  exact ⟨hlevels, hfit, hrows, hkeeps.2 hfit, hkeeps.1⟩

end Pivot

end Outreach
