import Outreach.Proofs.Pivot.Unavailable

/-!
# Rows that are folded again

The rows below the cells of a level stand block by block under the keys of the cells. Where these
keys are distinct, a fold finds the cells again, in their order, and below each cell the entries of
its block, none of which is empty. The keys of a folded tree are distinct; those of any other tree
are when no two of its rows have the same keys, since each block has a row without further values.
Both ways of folding twice follow level by level.
-/

namespace Outreach

namespace Pivot

variable {level : Level} {levels rest : List Level} {outcomes : Outcomes} {entries : List Entry}
  {key : String} {count : UInt64}

/-! ### Blocks of entries -/

/-- An entry under one more key. -/
def Entry.cons (key : String) (entry : Entry) : Entry := ⟨key :: entry.keys, entry.count⟩

/-- The entries below cells, block by block under the keys of the cells. -/
def inBlocks (cells : List Cell) (below : Cell → List Entry) : List Entry :=
  cells.flatMap fun cell => (below cell).map (Entry.cons cell.key)

section Blocks

variable {cells : List Cell} {cell missing : Cell} {below : Cell → List Entry}

theorem inBlocks_cons : inBlocks (cell :: cells) below =
    (below cell).map (Entry.cons cell.key) ++ inBlocks cells below := List.flatMap_cons

theorem under_append (key : String) (first later : List Entry) :
    under key (first ++ later) = under key first ++ under key later := List.filterMap_append

theorem under_map_cons (key head : String) (entries : List Entry) :
    under key (entries.map (Entry.cons head)) = if head = key then entries else [] := by
  induction entries with
  | nil => simp [under]
  | cons entry others ih =>
    rw [List.map_cons, Entry.cons, under_cons, ih]
    split <;> rfl

theorem under_inBlocks_of_notMem (hkey : key ∉ cells.map Cell.key) :
    under key (inBlocks cells below) = [] := by
  induction cells with
  | nil => rfl
  | cons cell others ih =>
    rw [List.map_cons, List.mem_cons, not_or] at hkey
    rw [inBlocks_cons, under_append, under_map_cons, if_neg (Ne.symm hkey.1), ih hkey.2]
    rfl

theorem under_inBlocks (hnodup : (cells.map Cell.key).Nodup) (hcell : cell ∈ cells) :
    under cell.key (inBlocks cells below) = below cell := by
  induction cells with
  | nil => cases hcell
  | cons first others ih =>
    rw [List.map_cons, List.nodup_cons] at hnodup
    obtain ⟨hfirst, hothers⟩ := hnodup
    rw [inBlocks_cons, under_append, under_map_cons]
    rcases List.mem_cons.mp hcell with rfl | hlater
    · rw [if_pos rfl, under_inBlocks_of_notMem hfirst, List.append_nil]
    · rw [if_neg, ih hothers hlater, List.nil_append]
      intro hsame
      exact hfirst (hsame ▸ List.mem_map_of_mem hlater)

theorem leadingKeys_cons (head : String) (keys : List String) (count : UInt64) :
    leadingKeys (⟨head :: keys, count⟩ :: entries) =
      if head = notAvailable then leadingKeys entries
      else head :: (leadingKeys entries).filter (· ≠ head) := by
  unfold leadingKeys
  split
  · rename_i hmissing
    simp [hmissing]
  · rename_i hvalue
    simp [hvalue, firstOccurrences]

theorem leadingKeys_block_append (hkey : key ≠ notAvailable) {block : List Entry}
    (hblock : block ≠ []) (entries : List Entry) :
    leadingKeys (block.map (Entry.cons key) ++ entries) =
      key :: (leadingKeys entries).filter (· ≠ key) := by
  induction block with
  | nil => exact absurd rfl hblock
  | cons entry others ih =>
    rw [List.map_cons, List.cons_append, Entry.cons, leadingKeys_cons, if_neg hkey]
    by_cases hothers : others = []
    · rw [hothers]
      rfl
    · -- the rest of the block leads with the key again, which is taken out
      rw [ih hothers, List.filter_cons_of_neg (by simp), List.filter_filter]
      simp only [Bool.and_self]

theorem leadingKeys_missing_block (block : List Entry) :
    leadingKeys (block.map (Entry.cons notAvailable)) = [] := by
  induction block with
  | nil => rfl
  | cons entry others ih => rw [List.map_cons, Entry.cons, leadingKeys_cons, if_pos rfl, ih]

/-- The keys lead in the order of their blocks, of which none may be empty. -/
theorem leadingKeys_inBlocks (hmissing : missing.key = notAvailable)
    (hnodup : ((cells ++ [missing]).map Cell.key).Nodup)
    (hbelow : ∀ cell ∈ cells, below cell ≠ []) :
    leadingKeys (inBlocks (cells ++ [missing]) below) = cells.map Cell.key := by
  induction cells with
  | nil =>
    rw [List.nil_append, inBlocks, List.flatMap_singleton, hmissing]
    exact leadingKeys_missing_block _
  | cons first others ih =>
    rw [List.cons_append, List.map_cons, List.nodup_cons] at hnodup
    obtain ⟨hfirst, hothers⟩ := hnodup
    rw [List.map_append, List.mem_append, not_or, List.map_singleton, List.mem_singleton,
      hmissing] at hfirst
    rw [List.cons_append, inBlocks_cons,
      leadingKeys_block_append hfirst.2 (hbelow first List.mem_cons_self),
      ih hothers fun cell hcell => hbelow cell (List.mem_cons_of_mem _ hcell), List.map_cons,
      List.filter_eq_self.mpr]
    intro key hkey
    exact decide_eq_true fun hsame => hfirst.1 (hsame ▸ hkey)

theorem sum_inBlocks (cells : List Cell) (below : Cell → List Entry) :
    Entry.sum (inBlocks cells below) = (cells.map fun cell => Entry.sum (below cell)).sum := by
  induction cells with
  | nil => rfl
  | cons first others ih =>
    have hcounts : ((below first).map (Entry.cons first.key)).map Entry.count =
        (below first).map Entry.count := by
      rw [List.map_map]
      rfl
    rw [inBlocks_cons, List.map_cons, List.sum_cons, ← ih]
    simp only [Entry.sum, List.map_append, List.sum_append, hcounts]

theorem map_keys_inBlocks : (inBlocks cells below).map Entry.keys =
    cells.flatMap fun cell => ((below cell).map Entry.keys).map (cell.key :: ·) := by
  rw [inBlocks, List.map_flatMap]
  congr 1
  funext cell
  rw [List.map_map, List.map_map]
  rfl

/-- Blocks that share a tuple of keys stand under distinct keys where all tuples are distinct. -/
theorem nodup_of_inBlocks (hnodup : ((inBlocks cells below).map Entry.keys).Nodup)
    {shared : List String} (hshared : ∀ cell ∈ cells, shared ∈ (below cell).map Entry.keys) :
    (cells.map Cell.key).Nodup ∧ ∀ cell ∈ cells, ((below cell).map Entry.keys).Nodup := by
  rw [map_keys_inBlocks, List.nodup_flatMap] at hnodup
  obtain ⟨hinside, hapart⟩ := hnodup
  refine ⟨List.pairwise_map.mpr (hapart.imp_of_mem ?_), ?_⟩
  · intro cell other hcell hother hdisjoint hsame
    refine hdisjoint (List.mem_map_of_mem (hshared cell hcell)) ?_
    rw [hsame]
    exact List.mem_map_of_mem (hshared other hother)
  · exact fun cell hcell => (hinside cell hcell).of_map _

end Blocks

/-! ### The entries of a tree -/

/-- The cells of a level, that of the contacts without a value at the end. -/
def cells (level : Level) (outcomes : Outcomes) : List Cell :=
  valueCells level outcomes ++ [missingCell level outcomes]

/-- The rows below a cell as entries. -/
def entriesBelow (levels : List Level) (count : UInt64) (outcomes : Outcomes) : List Entry :=
  (rowsBelow levels count outcomes).map entryOf

theorem entryOf_line (keys : List String) (count : UInt64) :
    entryOf (line keys count) = ⟨keys, count⟩ := by
  rw [entryOf, dropLast_line, rowCount?_line, Option.getD_some]

theorem entriesBelow_nil (count : UInt64) (outcomes : Outcomes) :
    entriesBelow [] count outcomes = [⟨[], count⟩] :=
  congrArg (fun entry => [entry]) (entryOf_line [] count)

theorem entriesBelow_cons (level : Level) (rest : List Level) (count : UInt64)
    (outcomes : Outcomes) : entriesBelow (level :: rest) count outcomes =
      inBlocks (cells level outcomes) fun cell => entriesBelow rest cell.count cell.inner := by
  rw [entriesBelow, rowsBelow, List.map_flatMap]
  apply List.flatMap_congr
  intro cell _
  show ((rowsBelow rest cell.count cell.inner).map (cell.key :: ·)).map entryOf =
    ((rowsBelow rest cell.count cell.inner).map entryOf).map (Entry.cons cell.key)
  rw [List.map_map, List.map_map]
  apply List.map_congr_left
  intro row hrow
  obtain ⟨keys, count, _, rfl⟩ :=
    (keepsUnavailable_rowsBelow rest cell.count cell.inner).cells row hrow
  rw [Function.comp, Function.comp, ← line_cons, entryOf_line, entryOf_line]
  rfl

theorem map_keys_entriesBelow (levels : List Level) (count : UInt64) (outcomes : Outcomes) :
    (entriesBelow levels count outcomes).map Entry.keys =
      (rowsBelow levels count outcomes).map List.dropLast := by
  rw [entriesBelow, List.map_map]
  rfl

theorem foldRows_rowsBelow (levels : List Level) (count : UInt64) (outcomes : Outcomes) :
    foldRows levels (rowsBelow levels count outcomes) =
      .ok (fold levels (entriesBelow levels count outcomes)) := by
  refine foldRows_eq_ok.mpr ⟨fun row hrow => ?_, rfl⟩
  obtain ⟨keys, count, hlength, rfl⟩ :=
    (keepsUnavailable_rowsBelow levels count outcomes).cells row hrow
  rw [length_line, hlength, rowCount?_line]
  exact ⟨rfl, rfl⟩

theorem replicate_mem_entriesBelow (levels : List Level) (count : UInt64) (outcomes : Outcomes) :
    List.replicate levels.length notAvailable ∈
      (entriesBelow levels count outcomes).map Entry.keys := by
  obtain ⟨last, hlast⟩ := (keepsUnavailable_rowsBelow levels count outcomes).mem_last
  refine List.mem_map.mpr ⟨_, List.mem_map_of_mem hlast, ?_⟩
  rw [entryOf_line]

theorem entriesBelow_ne_nil (levels : List Level) (count : UInt64) (outcomes : Outcomes) :
    entriesBelow levels count outcomes ≠ [] := by
  intro hnone
  have hmem := replicate_mem_entriesBelow levels count outcomes
  rw [hnone] at hmem
  cases hmem

section Distinct

variable (hnodup : ((cells level outcomes).map Cell.key).Nodup)

include hnodup

theorem leadingKeys_entriesBelow (rest : List Level) (count : UInt64) :
    leadingKeys (entriesBelow (level :: rest) count outcomes) =
      (valueCells level outcomes).map Cell.key := by
  rw [entriesBelow_cons]
  exact leadingKeys_inBlocks (missingCell_key level outcomes) hnodup
    fun cell _ => entriesBelow_ne_nil rest cell.count cell.inner

theorem under_entriesBelow (rest : List Level) (count : UInt64) {cell : Cell}
    (hcell : cell ∈ cells level outcomes) :
    under cell.key (entriesBelow (level :: rest) count outcomes) =
      entriesBelow rest cell.count cell.inner := by
  rw [entriesBelow_cons]
  exact under_inBlocks hnodup hcell

end Distinct

/-! ### Flattening, folding and flattening -/

theorem cells_fold (level : Level) (rest : List Level) (entries : List Entry) :
    cells level (fold (level :: rest) entries) =
      (leadingKeys entries ++ [notAvailable]).map fun key =>
        ⟨key, Entry.total (under key entries), fold rest (under key entries)⟩ := by
  rw [cells, valueCells_fold, missingCell_fold, List.map_append, List.map_singleton]

theorem rowsBelow_refolded (hnodup : ((entriesBelow levels count outcomes).map Entry.keys).Nodup) :
    rowsBelow levels (Entry.total (entriesBelow levels count outcomes))
        (fold levels (entriesBelow levels count outcomes)) =
      rowsBelow levels count outcomes := by
  induction levels generalizing count outcomes with
  | nil =>
    rw [entriesBelow_nil]
    show [[toString (count + 0).toNat]] = _
    rw [UInt64.add_zero]
    rfl
  | cons level rest ih =>
    -- every block has the row without further values, so two blocks cannot share a key
    have hblocks := hnodup
    rw [entriesBelow_cons] at hblocks
    obtain ⟨hkeys, hinside⟩ := nodup_of_inBlocks hblocks fun cell _ =>
      replicate_mem_entriesBelow rest cell.count cell.inner
    have hleading := leadingKeys_entriesBelow hkeys rest count
    have hcells : cells level (fold (level :: rest) (entriesBelow (level :: rest) count outcomes)) =
        (cells level outcomes).map fun cell =>
          ⟨cell.key, Entry.total (entriesBelow rest cell.count cell.inner),
            fold rest (entriesBelow rest cell.count cell.inner)⟩ := by
      rw [cells_fold, hleading, ← missingCell_key level outcomes, ← List.map_singleton,
        ← List.map_append, List.map_map]
      apply List.map_congr_left
      intro cell hcell
      rw [Function.comp, under_entriesBelow hkeys rest count hcell]
    show (cells level _).flatMap _ = (cells level outcomes).flatMap _
    rw [hcells, List.flatMap_map]
    apply List.flatMap_congr
    intro cell hcell
    rw [ih (hinside cell hcell)]

/-- The rows of any outcomes at all are folded, and where no two of them have the same keys
flattening the tree gives them back in their order. Where the buckets of each node of the outcomes
sum to a word, and the rows do, so does everything that is summed on the way. -/
theorem rows_of_refolded (hlevels : levels ≠ []) (outcomes : Outcomes) :
    ∃ tree, foldRows levels (rows levels outcomes) = .ok tree ∧
      (((rows levels outcomes).map List.dropLast).Nodup →
        rows levels tree = rows levels outcomes) ∧
      (Outcomes.Fit outcomes → ((rows levels outcomes).map rowCount).sum < 2 ^ 64 →
        rowsExact levels outcomes = some (rows levels outcomes) ∧
          SumsExactly levels (rows levels outcomes) tree) := by
  have htree := foldRows_rowsBelow levels 0 outcomes
  rw [← rows_eq_rowsBelow hlevels] at htree
  refine ⟨_, htree, fun hnodup => ?_, fun hfit hsum => ?_⟩
  · rw [rows_eq_rowsBelow hlevels 0, ← map_keys_entriesBelow] at hnodup
    rw [rows_eq_rowsBelow hlevels (Entry.total (entriesBelow levels 0 outcomes)),
      rowsBelow_refolded hnodup, rows_eq_rowsBelow hlevels]
  · exact ⟨rowsExact_eq hfit levels, sumsExactly_of_foldRows htree hsum⟩

/-- The rows of a partial tree: an answer without the group of its contacts, a gender without
anything inside, and companions that are absent or count what their buckets do. -/
theorem rows_of_refolded_partial :
    let answers : Outcome := .single 9 [("form", .single 9 [("answer", .buckets
      [⟨.text "yes", none, 7, [("contacts", .single 4 [])]⟩, ⟨.text "no", none, 2, []⟩])])]
    let outcomes : Outcomes := [("gender_missing", .single 6 [("presence_missing", .buckets
        [⟨.text "a", none, 1, []⟩, ⟨.text "b", none, 3, []⟩])]),
      ("gender", .buckets [⟨.text "M", none, 5, [("presence", answers)]⟩,
        ⟨.integer 2, some "F", 3, []⟩])]
    let levels : List Level := [.gender, .presence 1]
    let table : List Row := [["M", "yes", "4"], ["M", "no", "2"], ["M", "N/A", "0"],
      ["F", "N/A", "0"], ["N/A", "N/A", "4"]]
    levels ≠ [] ∧ rows levels outcomes = table ∧ (table.map List.dropLast).Nodup ∧
      Outcomes.Fit outcomes ∧ (table.map rowCount).sum = 10 ∧
      rowsExact levels outcomes = some table ∧
      ∃ tree, foldRows levels table = .ok tree ∧ rows levels tree = table ∧
        SumsExactly levels table tree := by
  intro answers outcomes levels table
  have hlevels : levels ≠ [] := List.cons_ne_nil _ _
  have hrows : rows levels outcomes = table := by decide +kernel
  have hnodup : (table.map List.dropLast).Nodup := by decide +kernel
  have hfit : Outcomes.Fit outcomes := by
    simp [outcomes, answers, Outcomes.Fit, Outcome.Fits, Bucket.AllFit, Bucket.sum]
  have hcounts : (table.map rowCount).sum = 10 := by decide +kernel
  obtain ⟨tree, htree, hback, hexact⟩ := rows_of_refolded hlevels outcomes
  rw [hrows] at htree hback hexact
  have hsum : (table.map rowCount).sum < 2 ^ 64 := by
    rw [hcounts]
    decide
  obtain ⟨hexactRows, hexactTree⟩ := hexact hfit hsum
  exact ⟨hlevels, hrows, hnodup, hfit, hcounts, hexactRows, tree, htree, hback hnodup, hexactTree⟩

/-! ### Folding, flattening and folding -/

/-- A level of a fold is made of the keys that lead, and of the entries under the keys through their
counts and the levels below. -/
theorem fold_congr {others : List Entry} (hleading : leadingKeys others = leadingKeys entries)
    (hunder : ∀ key ∈ leadingKeys entries ++ [notAvailable],
      Entry.total (under key others) = Entry.total (under key entries) ∧
        fold rest (under key others) = fold rest (under key entries)) :
    fold (level :: rest) others = fold (level :: rest) entries := by
  have hmissing := hunder notAvailable (List.mem_append_right _ (List.mem_singleton_self _))
  have hbuckets : foldedBuckets level rest others = foldedBuckets level rest entries := by
    rw [foldedBuckets, hleading]
    apply List.map_congr_left
    intro key hkey
    obtain ⟨htotal, hfold⟩ := hunder key (List.mem_append_left _ hkey)
    rw [htotal, hfold]
  show [(_, valueOutcome level (foldedBuckets level rest others)), _] = _
  rw [hbuckets, hmissing.1, hmissing.2]
  rfl

theorem sum_entriesBelow_fold (hwidth : HaveWidth levels.length entries)
    (hsum : Entry.sum entries < 2 ^ 64) :
    Entry.sum (entriesBelow levels (Entry.total entries) (fold levels entries)) =
      Entry.sum entries := by
  induction levels generalizing entries with
  | nil =>
    rw [entriesBelow_nil]
    exact Entry.toNat_total hsum
  | cons level rest ih =>
    rw [entriesBelow_cons, sum_inBlocks, cells_fold, List.map_map, ← sum_under hwidth]
    congr 1
    apply List.map_congr_left
    intro key _
    exact ih (hwidth.under key) (sum_under_lt hsum key)

/-- The zero rows of the companions fold back into the companions, and entries with the same keys,
which became one row, count as much as before. -/
theorem fold_refolded (hwidth : HaveWidth levels.length entries)
    (hsum : Entry.sum entries < 2 ^ 64) :
    fold levels (entriesBelow levels (Entry.total entries) (fold levels entries)) =
      fold levels entries := by
  induction levels generalizing entries with
  | nil => rfl
  | cons level rest ih =>
    have hkeys : ((cells level (fold (level :: rest) entries)).map Cell.key).Nodup := by
      rw [cells_fold, List.map_map]
      exact (List.map_id' _).symm ▸ nodup_leadingKeys_append entries
    have hleading := leadingKeys_entriesBelow hkeys rest (Entry.total entries)
    rw [valueCells_fold, List.map_map] at hleading
    refine fold_congr (hleading.trans (List.map_id' _)) fun key hkey => ?_
    have hless := sum_under_lt hsum key
    have hcell : ⟨key, Entry.total (under key entries), fold rest (under key entries)⟩ ∈
        cells level (fold (level :: rest) entries) := by
      rw [cells_fold]
      exact List.mem_map_of_mem hkey
    have hunder := under_entriesBelow hkeys rest (Entry.total entries) hcell
    have hcounts := sum_entriesBelow_fold (hwidth.under key) hless
    rw [hunder]
    refine ⟨?_, ih (hwidth.under key) hless⟩
    rw [← UInt64.toNat_inj, Entry.toNat_total hless, ← hcounts]
    exact Entry.toNat_total (hcounts ▸ hless)

/-- A folded tree is the tree of its own rows. -/
theorem foldRows_refolded {input : List Row} {tree : Outcomes}
    (htree : foldRows levels input = .ok tree) (hsum : (input.map rowCount).sum < 2 ^ 64) :
    foldRows levels (rows levels tree) = .ok tree ∧
      SumsExactly levels (rows levels tree) tree := by
  obtain ⟨hwidth, rfl⟩ := entries_of_foldRows htree
  rw [← sum_map_entryOf] at hsum
  by_cases hlevels : levels = []
  · subst hlevels
    exact ⟨rfl, sumsExactly_of_foldRows rfl (Nat.two_pow_pos 64)⟩
  · have hagain := foldRows_rowsBelow levels (Entry.total (input.map entryOf))
      (fold levels (input.map entryOf))
    have hcounts := sum_entriesBelow_fold hwidth hsum
    rw [fold_refolded hwidth hsum, ← rows_eq_rowsBelow hlevels] at hagain
    rw [entriesBelow, sum_map_entryOf, ← rows_eq_rowsBelow hlevels] at hcounts
    exact ⟨hagain, sumsExactly_of_foldRows hagain (hcounts ▸ hsum)⟩

/-- Cities within answers: rows with the same keys, one of them far apart, and none without a
value in either. -/
theorem foldRows_refolded_presence :
    let input : List Row := [["yes", "Lyon", "2"], ["no", "N/A", "5"], ["yes", "Nice", "1"],
      ["yes", "Lyon", "+3"]]
    ∃ tree, foldRows [.presence 1, .city] input = .ok tree ∧
      (input.map rowCount).sum = 11 ∧
      rows [.presence 1, .city] tree = [["yes", "Lyon", "5"], ["yes", "Nice", "1"],
        ["yes", "N/A", "0"], ["no", "N/A", "5"], ["N/A", "N/A", "0"]] ∧
      foldRows [.presence 1, .city] (rows [.presence 1, .city] tree) = .ok tree ∧
      SumsExactly [.presence 1, .city] (rows [.presence 1, .city] tree) tree := by
  intro input
  have htree : foldRows [.presence 1, .city] input =
      .ok (fold [.presence 1, .city] (input.map entryOf)) := rfl
  have hcounts : (input.map rowCount).sum = 11 := by decide +kernel
  have hagain := foldRows_refolded htree (by rw [hcounts]; decide)
  exact ⟨_, htree, hcounts, by decide +kernel, hagain⟩

end Pivot

end Outreach
