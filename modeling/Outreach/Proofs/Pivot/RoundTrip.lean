import Outreach.Proofs.Fault.Steps
import Outreach.Proofs.Pivot.Table

/-!
# Rows folded and flattened again

Folding accepts rows of the right width whose last cells are numbers. The tree that it builds holds
the entries of the rows, so flattening it gives the table of the rows: each tuple of keys once, with
the sum of its counts, and the rows of zero that the missing companions add. On the way down every
entry still has a key where one is taken, so a fold that fails where none is left does not fail.
-/

namespace Outreach

namespace Pivot

variable {levels : List Level} {entries : List Entry} {n : Nat}

/-! ### Accepted rows -/

/-- The count at the end of a row. -/
def rowCount? (row : Row) : Option UInt64 := Text.readUInt64 (row.getLast?.getD "")

/-- The count at the end of a row as a number, zero when it cannot be read. -/
def rowCount (row : Row) : Nat := ((rowCount? row).getD 0).toNat

def entryOf (row : Row) : Entry := ⟨row.dropLast, (rowCount? row).getD 0⟩

theorem ofRow_eq_ok {row : Row} {entry : Entry} :
    Entry.ofRow row = .ok entry ↔ (rowCount? row).isSome ∧ entryOf row = entry := by
  unfold Entry.ofRow entryOf rowCount?
  dsimp only
  cases Text.readUInt64 (row.getLast?.getD "") with
  | none => simp
  | some count => simp

theorem mapM_ofRow_eq_ok {input : List Row} {entries : List Entry} :
    input.mapM Entry.ofRow = .ok entries ↔
      (∀ row ∈ input, (rowCount? row).isSome) ∧ input.map entryOf = entries := by
  simp only [Steps.mapM_eq_ok, ofRow_eq_ok]
  rw [List.forall₂_and_left, ← List.forall₂_eq_eq_eq, List.forall₂_map_left_iff]

theorem foldRows_eq_ok {input : List Row} {tree : Outcomes} :
    foldRows levels input = .ok tree ↔
      (∀ row ∈ input, row.length = levels.length + 1 ∧ (rowCount? row).isSome) ∧
        fold levels (input.map entryOf) = tree := by
  unfold foldRows
  cases hfind : input.find? fun row => decide (row.length ≠ levels.length + 1) with
  | some row =>
    have hwidth := List.find?_some hfind
    refine iff_of_false (by simp) fun haccepted => ?_
    exact (of_decide_eq_true hwidth) (haccepted.1 row (List.mem_of_find?_eq_some hfind)).1
  | none =>
    have hwidth : ∀ row ∈ input, row.length = levels.length + 1 := by
      intro row hrow
      have hnot := List.find?_eq_none.mp hfind row hrow
      simpa using hnot
    simp only [Steps.map_eq_ok, mapM_ofRow_eq_ok, forall_and]
    refine ⟨?_, ?_⟩
    · intro hfold
      obtain ⟨_, ⟨hcounts, rfl⟩, htree⟩ := hfold
      exact ⟨⟨hwidth, hcounts⟩, htree⟩
    · intro hfold
      obtain ⟨⟨_, hcounts⟩, htree⟩ := hfold
      exact ⟨_, ⟨hcounts, rfl⟩, htree⟩

theorem haveWidth_map_entryOf {input : List Row} (hwidth : ∀ row ∈ input, row.length = n + 1) :
    HaveWidth n (input.map entryOf) := by
  intro entry hmem
  obtain ⟨row, hrow, rfl⟩ := List.mem_map.mp hmem
  rw [entryOf, List.length_dropLast, hwidth row hrow, Nat.add_sub_cancel]

theorem sum_map_entryOf (input : List Row) :
    Entry.sum (input.map entryOf) = (input.map rowCount).sum := by
  rw [Entry.sum, List.map_map, List.map_map]
  rfl

theorem entries_of_foldRows {input : List Row} {tree : Outcomes}
    (htree : foldRows levels input = .ok tree) :
    HaveWidth levels.length (input.map entryOf) ∧ fold levels (input.map entryOf) = tree := by
  obtain ⟨haccepted, hfold⟩ := foldRows_eq_ok.mp htree
  exact ⟨haveWidth_map_entryOf fun row hrow => (haccepted row hrow).1, hfold⟩

/-! ### The tree of a fold -/

theorem name_ne_missingName (level : Level) : level.name ≠ level.missingName := by
  intro heq
  have hlength := congrArg String.length heq
  rw [Level.missingName, String.length_append] at hlength
  have hsuffix : "_missing".length = 8 := rfl
  omega

theorem answerBuckets_valueOutcome (form : Int64) (buckets : List Bucket) :
    answerBuckets (valueOutcome (.presence form) buckets) = buckets := rfl

theorem ofAnswer_bucket (form : Int64) (key : String) (count : UInt64) (inner : Outcomes) :
    Cell.ofAnswer (bucket (.presence form) key count inner) = ⟨key, count, inner⟩ := rfl

/-- The buckets of a folded level. -/
def foldedBuckets (level : Level) (rest : List Level) (entries : List Entry) : List Bucket :=
  (leadingKeys entries).map fun key =>
    bucket level key (Entry.total (under key entries)) (fold rest (under key entries))

theorem get?_name_fold (level : Level) (rest : List Level) (entries : List Entry) :
    Named.get? level.name (fold (level :: rest) entries) =
      some (valueOutcome level (foldedBuckets level rest entries)) := if_pos rfl

theorem get?_missingName_fold (level : Level) (rest : List Level) (entries : List Entry) :
    Named.get? level.missingName (fold (level :: rest) entries) =
      some (.single (Entry.total (under notAvailable entries))
        (fold rest (under notAvailable entries))) := by
  rw [fold, Named.get?, if_neg (name_ne_missingName level), Named.get?, if_pos rfl]

/-- The wrapping of an answer is taken off again. -/
theorem valueCells_fold (level : Level) (rest : List Level) (entries : List Entry) :
    valueCells level (fold (level :: rest) entries) =
      (leadingKeys entries).map fun key =>
        ⟨key, Entry.total (under key entries), fold rest (under key entries)⟩ := by
  rw [valueCells, get?_name_fold]
  cases level with
  | presence form =>
    show (answerBuckets (valueOutcome (.presence form) _)).map Cell.ofAnswer = _
    rw [answerBuckets_valueOutcome, foldedBuckets, List.map_map]
    apply List.map_congr_left
    intro key _
    exact ofAnswer_bucket form key _ _
  | _ =>
    show List.map Cell.ofBucket (List.map _ _) = _
    rw [List.map_map]
    rfl

theorem missingCell_fold (level : Level) (rest : List Level) (entries : List Entry) :
    missingCell level (fold (level :: rest) entries) =
      ⟨notAvailable, Entry.total (under notAvailable entries),
        fold rest (under notAvailable entries)⟩ := by
  rw [missingCell, get?_missingName_fold]

theorem holds_fold (levels : List Level) (entries : List Entry) :
    Holds levels entries (Entry.total entries) (fold levels entries) := by
  induction levels generalizing entries with
  | nil => exact rfl
  | cons level rest ih =>
    refine ⟨?_, ?_⟩
    · rw [valueCells_fold, List.map_map]
      exact .of_eq (List.map_id' _)
    · intro cell hcell
      rw [valueCells_fold, missingCell_fold] at hcell
      rcases List.mem_append.mp hcell with hvalue | hmissing
      · obtain ⟨key, _, rfl⟩ := List.mem_map.mp hvalue
        exact ih _
      · rw [List.mem_singleton.mp hmissing]
        exact ih _

/-- Flattening a folded tree gives the table of the entries. -/
theorem rows_fold_perm (hlevels : levels ≠ []) (entries : List Entry) :
    (rows levels (fold levels entries)).Perm
      ((keyTuples levels.length entries).map (rowOf entries)) := by
  apply Holds.rows_perm hlevels
  cases levels with
  | nil => exact absurd rfl hlevels
  | cons level rest => exact holds_fold (level :: rest) entries

/-! ### Access to the keys -/

/-- The first key of an entry and the entry without it; there may be none left to take. -/
def Entry.split? (entry : Entry) : Option (String × Entry) :=
  match entry.keys with
  | head :: keys => some (head, ⟨keys, entry.count⟩)
  | [] => none

/-- The parts behind a key. -/
def behind (key : String) (parts : List (String × Entry)) : List Entry :=
  parts.filterMap fun part => if part.1 = key then some part.2 else none

/-- The fold when taking a key that is not there fails. -/
def foldChecked : List Level → List Entry → Option Outcomes
  | [], _ => some []
  | level :: rest, entries => do
    let parts ← entries.mapM Entry.split?
    let buckets ← (firstOccurrences ((parts.map Prod.fst).filter (· ≠ notAvailable))).mapM
      fun key => do
        let inner ← foldChecked rest (behind key parts)
        return bucket level key (Entry.total (behind key parts)) inner
    let missing ← foldChecked rest (behind notAvailable parts)
    return [(level.name, valueOutcome level buckets),
      (level.missingName, .single (Entry.total (behind notAvailable parts)) missing)]

theorem mapM_split (hwidth : HaveWidth (n + 1) entries) :
    ∃ parts, entries.mapM Entry.split? = some parts ∧
      parts.map Prod.fst = entries.filterMap (fun entry => entry.keys.head?) ∧
        ∀ key, behind key parts = under key entries := by
  induction entries with
  | nil => exact ⟨[], rfl, rfl, fun _ => rfl⟩
  | cons entry later ih =>
    obtain ⟨parts, hparts, hheads, hbehind⟩ := ih hwidth.tail
    obtain ⟨head, known, hentry⟩ := hwidth.exists_cons List.mem_cons_self
    refine ⟨(head, ⟨known, entry.count⟩) :: parts, ?_, ?_, ?_⟩
    · rw [hentry, List.mapM_cons, hparts]
      rfl
    · rw [hentry, List.map_cons, hheads]
      rfl
    · intro key
      rw [hentry, under_cons, ← hbehind key]
      by_cases hkey : head = key
      · simp [behind, hkey]
      · simp [behind, hkey]

theorem foldChecked_eq (hwidth : HaveWidth levels.length entries) :
    foldChecked levels entries = some (fold levels entries) := by
  induction levels generalizing entries with
  | nil => rfl
  | cons level rest ih =>
    obtain ⟨parts, hparts, hheads, hbehind⟩ := mapM_split hwidth
    have hinner (key : String) :
        foldChecked rest (behind key parts) = some (fold rest (under key entries)) := by
      rw [hbehind key]
      exact ih (hwidth.under key)
    have hbuckets : (leadingKeys entries).mapM (fun key => do
        let inner ← foldChecked rest (behind key parts)
        return bucket level key (Entry.total (behind key parts)) inner) =
        some ((leadingKeys entries).map fun key =>
          bucket level key (Entry.total (under key entries)) (fold rest (under key entries))) := by
      rw [← Option.pure_def, ← List.mapM_pure]
      congr 1
      funext key
      rw [hinner, hbehind]
      rfl
    rw [leadingKeys, ← hheads] at hbuckets
    rw [foldChecked, hparts]
    simp only [Option.bind_eq_bind, Option.bind_some] at hbuckets ⊢
    rw [hbuckets, hinner, hbehind, hheads]
    rfl

/-! ### The round trip -/

/-- The output is the table of the input, with `n` keys in a row. -/
structure IsTableOf (n : Nat) (input output : List Row) : Prop where
  nodup_keys : (output.map List.dropLast).Nodup
  /-- The tuples of the input, and their proper openings, the empty one in any case, padded with
  the key of the contacts without a value. -/
  mem_keys : ∀ keys, keys ∈ output.map List.dropLast ↔
    (∃ row ∈ input, row.dropLast = keys) ∨
      ∃ opening, (opening = [] ∨
        ∃ row ∈ input, opening <+: row.dropLast ∧ opening ≠ row.dropLast) ∧
          keys = opening.rightpad n notAvailable
  /-- The last cell is the sum of the counts of the input rows with the same keys. -/
  count : ∀ row ∈ output, row = row.dropLast ++
    [toString ((input.filter fun other => other.dropLast = row.dropLast).map rowCount).sum]

theorem IsTableOf.of_perm {input output output' : List Row} (htable : IsTableOf n input output)
    (hperm : output'.Perm output) : IsTableOf n input output' where
  nodup_keys := (hperm.map _).nodup_iff.mpr htable.nodup_keys
  mem_keys keys := (hperm.map _).mem_iff.trans (htable.mem_keys keys)
  count row hrow := htable.count row (hperm.mem_iff.mp hrow)

theorem map_dropLast_table (n : Nat) (entries : List Entry) :
    ((keyTuples n entries).map (rowOf entries)).map List.dropLast = keyTuples n entries := by
  rw [List.map_map]
  exact (List.map_congr_left fun keys _ => dropLast_rowOf keys).trans (List.map_id' _)

theorem countsOf_map_entryOf (keys : List String) (input : List Row) :
    (countsOf keys (input.map entryOf)).map UInt64.toNat =
      (input.filter fun row => row.dropLast = keys).map rowCount := by
  rw [countsOf, List.filter_map, List.map_map, List.map_map]
  rfl

/-- An opening of a tuple of full width is the whole tuple or a proper one. -/
theorem mem_keyTuples_map_entryOf {input : List Row} {keys : List String}
    (hwidth : HaveWidth n (input.map entryOf)) :
    keys ∈ keyTuples n (input.map entryOf) ↔
      (∃ row ∈ input, row.dropLast = keys) ∨
        ∃ opening, (opening = [] ∨
          ∃ row ∈ input, opening <+: row.dropLast ∧ opening ≠ row.dropLast) ∧
            keys = opening.rightpad n notAvailable := by
  have hfull : ∀ row ∈ input, row.dropLast.rightpad n notAvailable = row.dropLast := by
    intro row hrow
    have hlength : row.dropLast.length = n := hwidth (entryOf row) (List.mem_map_of_mem hrow)
    rw [List.rightpad, hlength, Nat.sub_self, List.replicate_zero, List.append_nil]
  rw [mem_keyTuples hwidth]
  refine ⟨?_, ?_⟩
  · intro hpadded
    obtain ⟨opening, hopening, rfl⟩ := hpadded
    rcases hopening with rfl | ⟨entry, hentry, hopens⟩
    · exact .inr ⟨[], .inl rfl, rfl⟩
    · obtain ⟨row, hrow, rfl⟩ := List.mem_map.mp hentry
      by_cases hwhole : opening = row.dropLast
      · subst hwhole
        exact .inl ⟨row, hrow, (hfull row hrow).symm⟩
      · exact .inr ⟨opening, .inr ⟨row, hrow, hopens, hwhole⟩, rfl⟩
  · intro htuple
    rcases htuple with ⟨row, hrow, rfl⟩ | ⟨opening, hopening, rfl⟩
    · exact ⟨row.dropLast, .inr ⟨entryOf row, List.mem_map_of_mem hrow, List.prefix_refl _⟩,
        (hfull row hrow).symm⟩
    · refine ⟨opening, ?_, rfl⟩
      rcases hopening with rfl | ⟨row, hrow, hopens, _⟩
      · exact .inl rfl
      · exact .inr ⟨entryOf row, List.mem_map_of_mem hrow, hopens⟩

theorem isTableOf_map_entryOf {input : List Row} (hwidth : HaveWidth n (input.map entryOf))
    (hsum : (input.map rowCount).sum < 2 ^ 64) :
    IsTableOf n input
      ((keyTuples n (input.map entryOf)).map (rowOf (input.map entryOf))) where
  nodup_keys := by
    rw [map_dropLast_table]
    exact nodup_keyTuples n _
  mem_keys keys := by
    rw [map_dropLast_table]
    exact mem_keyTuples_map_entryOf hwidth
  count row hrow := by
    obtain ⟨keys, hkeys, rfl⟩ := List.mem_map.mp hrow
    rw [dropLast_rowOf, rowOf, toNat_total_beneath, countsOf_map_entryOf]
    · rwa [length_of_mem_keyTuples hkeys]
    · rwa [sum_map_entryOf]

/-- Rows are folded exactly when each has a cell for every level and a number at its end, and then
every key that the fold takes is there. As long as the counts sum to a word, flattening the tree
gives the table of the rows. -/
theorem rows_of_foldRows (hlevels : levels ≠ []) (input : List Row) :
    ((∃ tree, foldRows levels input = .ok tree) ↔
      ∀ row ∈ input, row.length = levels.length + 1 ∧ (rowCount? row).isSome) ∧
    ∀ tree, foldRows levels input = .ok tree →
      (∃ entries, input.mapM Entry.ofRow = .ok entries ∧ foldChecked levels entries = some tree) ∧
      ((input.map rowCount).sum < 2 ^ 64 →
        IsTableOf levels.length input (rows levels tree)) := by
  refine ⟨?_, ?_⟩
  · simp only [foldRows_eq_ok, exists_and_left, exists_eq', and_true]
  · intro tree htree
    obtain ⟨haccepted, rfl⟩ := foldRows_eq_ok.mp htree
    have hwidth := haveWidth_map_entryOf fun row hrow => (haccepted row hrow).1
    refine ⟨⟨input.map entryOf, ?_, foldChecked_eq hwidth⟩, ?_⟩
    · exact mapM_ofRow_eq_ok.mpr ⟨fun row hrow => (haccepted row hrow).2, rfl⟩
    · intro hsum
      exact (isTableOf_map_entryOf hwidth hsum).of_perm (rows_fold_perm hlevels _)

/-- A level of presence within genders: two rows with the same keys, and one without a gender. -/
theorem rows_of_foldRows_presence :
    let input : List Row := [["F", "yes", "2"], ["N/A", "no", "5"], ["F", "yes", "+3"]]
    let output : List Row := [["F", "yes", "5"], ["F", "N/A", "0"], ["N/A", "no", "5"],
      ["N/A", "N/A", "0"]]
    ∃ tree, foldRows [.gender, .presence 1] input = .ok tree ∧
      rows [.gender, .presence 1] tree = output ∧ IsTableOf 2 input output := by
  intro input output
  let levels : List Level := [.gender, .presence 1]
  have htree : foldRows levels input = .ok (fold levels (input.map entryOf)) := rfl
  have hrows : rows levels (fold levels (input.map entryOf)) = output := by decide +kernel
  refine ⟨_, htree, hrows, ?_⟩
  have hround := @rows_of_foldRows levels (List.cons_ne_nil _ _) input
  rw [← hrows]
  exact (hround.2 _ htree).2 (by decide +kernel)

end Pivot

end Outreach
