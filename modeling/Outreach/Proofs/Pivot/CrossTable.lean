import Mathlib.Data.List.Perm.Subperm
import Outreach.Proofs.Aggregation.Evaluation
import Outreach.Proofs.Pivot.RoundTrip

/-!
# The table that an engine answers

What an engine answers to the request of a pivot holds the same entries as the tree folded from its
documents, one row with a count of one for each. At every level the buckets are the documents by
their keys and the companion has those without one, so no document is lost or counted twice on the
way down: the entries under a key come from the documents with that key.
-/

namespace Outreach

namespace Pivot

namespace Level

variable {level : Level}

/-- The kind of the buckets of a level that is not one of presence. -/
def kind (level : Level) (interval : Interval) (size : UInt64) : Aggregation.Kind :=
  match level with
  | .date => .dateHistogram level.field interval
  | _ => .terms level.field (some size)

theorem values_eq (hplain : ∀ form, level ≠ .presence form) (interval : Interval) (size : UInt64)
    (inner : Aggregations) :
    level.values interval size inner = ⟨level.kind interval size, inner⟩ := by
  cases level with
  | presence form => exact absurd rfl (hplain form)
  | _ => rfl

theorem missing_eq (hplain : ∀ form, level ≠ .presence form) (inner : Aggregations) :
    level.missing inner = ⟨.missing level.field, inner⟩ := by
  cases level with
  | presence form => exact absurd rfl (hplain form)
  | _ => rfl

end Level

end Pivot

namespace Index

open Pivot

variable {δ ν : Type} (index : Index δ ν) (interval : Interval)

/-- The keys of a document at a level. -/
def levelKeys (level : Level) (d : δ) : List String :=
  (index.values d level.field).map
    (if level = .date then index.dateKey interval else index.termKey)

/-- The key of a document that has at most one at a level. -/
def keyAt (level : Level) (d : δ) : String :=
  ((index.levelKeys interval level d).head?).getD notAvailable

def tuple (levels : List Level) (d : δ) : List String :=
  levels.map fun level => index.keyAt interval level d

def row (levels : List Level) (d : δ) : Row := index.tuple interval levels d ++ ["1"]

def keysAmong (level : Level) (docs : List δ) : List String :=
  firstOccurrences (docs.flatMap (index.levelKeys interval level))

/-- No node below the documents has more distinct keys than the size: neither the outermost level,
nor the inner ones among the documents with the same key, or with none. -/
def WithinSize (size : Nat) : List Level → List δ → Prop
  | [], _ => True
  | level :: rest, docs =>
    (index.keysAmong interval level docs).length ≤ size ∧
      ∀ key, WithinSize size rest (docs.filter fun d => index.keyAt interval level d = key)

/-- A document has at most one key at a level, and not the one that stands for none. -/
def OneKey (level : Level) (d : δ) : Prop :=
  (∀ key ∈ index.levelKeys interval level d, ∀ other ∈ index.levelKeys interval level d,
    key = other) ∧ notAvailable ∉ index.levelKeys interval level d

variable {index interval} {level : Level} {levels rest : List Level} {size : UInt64} {d : δ}
  {docs : List δ} {key : String}

theorem keysOf_kind (level : Level) (size : UInt64) :
    index.keysOf (level.kind interval size) = index.levelKeys interval level := by
  funext d
  cases level <;> rfl

theorem mem_keysAmong :
    key ∈ index.keysAmong interval level docs ↔
      ∃ d ∈ docs, key ∈ index.levelKeys interval level d := by
  rw [keysAmong, mem_firstOccurrences, List.mem_flatMap]

theorem OneKey.mem_iff (hone : index.OneKey interval level d) :
    key ∈ index.levelKeys interval level d ↔
      key ≠ notAvailable ∧ index.keyAt interval level d = key := by
  obtain ⟨hsame, hreserved⟩ := hone
  unfold keyAt
  cases hkeys : index.levelKeys interval level d with
  | nil =>
    refine iff_of_false List.not_mem_nil ?_
    intro hkey
    obtain ⟨hne, heq⟩ := hkey
    exact hne heq.symm
  | cons first others =>
    rw [hkeys] at hsame hreserved
    refine ⟨?_, ?_⟩
    · intro hmem
      refine ⟨?_, hsame first List.mem_cons_self key hmem⟩
      rintro rfl
      exact hreserved hmem
    · intro hkey
      obtain ⟨_, rfl⟩ := hkey
      exact List.mem_cons_self

theorem OneKey.isEmpty_values (hone : index.OneKey interval level d) :
    (index.values d level.field).isEmpty = true ↔
      index.keyAt interval level d = notAvailable := by
  have hempty : (index.values d level.field).isEmpty = true ↔
      index.levelKeys interval level d = [] := by
    rw [levelKeys, List.map_eq_nil_iff, List.isEmpty_iff]
  rw [hempty]
  refine ⟨?_, ?_⟩
  · intro hnone
    rw [keyAt, hnone]
    rfl
  · intro hkey
    cases hkeys : index.levelKeys interval level d with
    | nil => rfl
    | cons first others =>
      have hfirst : first ∈ index.levelKeys interval level d := by
        rw [hkeys]
        exact List.mem_cons_self
      obtain ⟨hne, heq⟩ := hone.mem_iff.mp hfirst
      exact absurd (heq.symm.trans hkey) hne

theorem having_eq (hone : ∀ d ∈ docs, index.OneKey interval level d) (hkey : key ≠ notAvailable) :
    index.having (level.kind interval size) key docs =
      docs.filter fun d => index.keyAt interval level d = key := by
  apply List.filter_congr
  intro d hd
  rw [keysOf_kind, decide_eq_decide, (hone d hd).mem_iff]
  exact and_iff_right hkey

theorem lacking_eq (hone : ∀ d ∈ docs, index.OneKey interval level d) :
    index.lacking level.field docs =
      docs.filter fun d => index.keyAt interval level d = notAvailable := by
  apply List.filter_congr
  intro d hd
  rw [Bool.eq_iff_iff, (hone d hd).isEmpty_values, decide_eq_true_eq]

/-! ### The entries of documents -/

def entries (index : Index δ ν) (interval : Interval) (levels : List Level) (docs : List δ) :
    List Entry :=
  docs.map fun d => ⟨index.tuple interval levels d, 1⟩

theorem map_count_entries (levels : List Level) (docs : List δ) :
    (index.entries interval levels docs).map Entry.count = docs.map fun _ => 1 := by
  rw [entries, List.map_map]
  rfl

theorem under_entries (docs : List δ) (key : String) :
    under key (index.entries interval (level :: rest) docs) =
      index.entries interval rest (docs.filter fun d => index.keyAt interval level d = key) := by
  induction docs with
  | nil => rfl
  | cons d others ih =>
    have hfirst : index.entries interval (level :: rest) (d :: others) =
        ⟨index.keyAt interval level d :: index.tuple interval rest d, 1⟩ ::
          index.entries interval (level :: rest) others := rfl
    rw [hfirst, under_cons, ih]
    by_cases hkey : index.keyAt interval level d = key
    · rw [if_pos hkey, List.filter_cons_of_pos (by simpa using hkey)]
      rfl
    · rw [if_neg hkey, List.filter_cons_of_neg (by simpa using hkey)]

theorem haveWidth_entries (levels : List Level) (docs : List δ) :
    HaveWidth levels.length (index.entries interval levels docs) := by
  intro e hmem
  obtain ⟨d, _, rfl⟩ := List.mem_map.mp hmem
  exact List.length_map _

theorem total_entries (levels : List Level) (docs : List δ) :
    Entry.total (index.entries interval levels docs) = docCount docs := by
  have hones : (docs.map fun _ => 1) = (docs.map fun _ => 1).map UInt64.ofNat := by
    rw [List.map_map]
    rfl
  rw [Entry.total, map_count_entries, hones, sumOf_ofNat, docCount]
  simp

theorem leadingKeys_perm (hone : ∀ d ∈ docs, index.OneKey interval level d) :
    (index.keysAmong interval level docs).Perm
      (leadingKeys (index.entries interval (level :: rest) docs)) := by
  have hnodup : (index.keysAmong interval level docs).Nodup := nodup_firstOccurrences _
  apply (List.perm_ext_iff_of_nodup hnodup (nodup_firstOccurrences _)).mpr
  intro key
  rw [mem_keysAmong, ← leadingKeys, mem_leadingKeys]
  refine ⟨?_, ?_⟩
  · intro hamong
    obtain ⟨d, hd, hkey⟩ := hamong
    obtain ⟨hne, heq⟩ := (hone d hd).mem_iff.mp hkey
    exact ⟨hne, _, List.mem_map_of_mem hd, congrArg some heq⟩
  · intro hlead
    obtain ⟨hne, e, he, hhead⟩ := hlead
    obtain ⟨d, hd, rfl⟩ := List.mem_map.mp he
    exact ⟨d, hd, (hone d hd).mem_iff.mpr ⟨hne, Option.some.inj hhead⟩⟩

/-! ### The answered tree -/

theorem valueCells_of_get? {outcomes : Outcomes} {outcome : Outcome}
    (hplain : ∀ form, level ≠ .presence form)
    (hget : Named.get? level.name outcomes = some outcome) :
    valueCells level outcomes = outcome.bucketList.map Cell.ofBucket := by
  rw [valueCells, hget]
  cases level with
  | presence form => exact absurd rfl (hplain form)
  | _ => rfl

theorem evaluate_kind (inner : Aggregations) :
    index.evaluate ⟨level.kind interval size, inner⟩ docs =
      .buckets ((index.bucketKeys (level.kind interval size) docs).map fun key =>
        let inside := index.having (level.kind interval size) key docs
        ⟨(index.shown (level.kind interval size) key).1,
          (index.shown (level.kind interval size) key).2, docCount inside,
          index.evaluateAll inner inside⟩) := by
  cases level <;> rfl

theorem valueCells_evaluateAll (hplain : ∀ form, level ≠ .presence form) :
    valueCells level (index.evaluateAll (requests (level :: rest) interval size) docs) =
      (index.bucketKeys (level.kind interval size) docs).map fun key =>
        ⟨key, docCount (index.having (level.kind interval size) key docs),
          index.evaluateAll (requests rest interval size)
            (index.having (level.kind interval size) key docs)⟩ := by
  have hget : Named.get? level.name
      (index.evaluateAll (requests (level :: rest) interval size) docs) =
        some (index.evaluate (level.values interval size (requests rest interval size)) docs) :=
    if_pos rfl
  rw [valueCells_of_get? hplain hget, Level.values_eq hplain, evaluate_kind, Outcome.bucketList,
    List.map_map]
  apply List.map_congr_left
  intro key _
  rw [Function.comp, Cell.ofBucket, index.keyText_shown]

theorem missingCell_evaluateAll (hplain : ∀ form, level ≠ .presence form) :
    missingCell level (index.evaluateAll (requests (level :: rest) interval size) docs) =
      ⟨notAvailable, docCount (index.lacking level.field docs),
        index.evaluateAll (requests rest interval size) (index.lacking level.field docs)⟩ := by
  have hget : Named.get? level.missingName
      (index.evaluateAll (requests (level :: rest) interval size) docs) =
        some (index.evaluate (level.missing (requests rest interval size)) docs) := by
    rw [requests, evaluateAll, Named.get?, if_neg (name_ne_missingName level), evaluateAll,
      Named.get?, if_pos rfl]
  rw [missingCell, hget, Level.missing_eq hplain]
  rfl

/-- The size of a level bounds the buckets that the engine gives. -/
theorem bucketKeys_kind_perm
    (hsize : (index.keysAmong interval level docs).length ≤ size.toNat) :
    (index.bucketKeys (level.kind interval size) docs).Perm
      (index.keysAmong interval level docs) := by
  have hdistinct : index.distinctKeys (level.kind interval size) docs =
      index.keysAmong interval level docs := by
    rw [distinctKeys, keysAmong, keysOf_kind]
  rw [← hdistinct] at hsize ⊢
  apply index.bucketKeys_perm
  intro field bound hkind
  have hbound : bound = size := by
    cases level <;> cases hkind <;> rfl
  rwa [hbound]

/-- What the engine answers holds the entries of its documents. -/
theorem holds_evaluateAll (hplain : ∀ form, .presence form ∉ levels)
    (hone : ∀ d ∈ docs, ∀ level ∈ levels, index.OneKey interval level d)
    (hsize : index.WithinSize interval size.toNat levels docs) :
    Holds levels (index.entries interval levels docs) (docCount docs)
      (index.evaluateAll (requests levels interval size) docs) := by
  induction levels generalizing docs with
  | nil => exact (total_entries [] docs).symm
  | cons level rest ih =>
    have hlevel : ∀ form, level ≠ .presence form := by
      rintro form rfl
      exact hplain form List.mem_cons_self
    have hkeys : ∀ d ∈ docs, index.OneKey interval level d :=
      fun d hd => hone d hd level List.mem_cons_self
    have hbuckets := bucketKeys_kind_perm hsize.1
    have hbelow (key : String) :
        Holds rest (under key (index.entries interval (level :: rest) docs))
          (docCount (docs.filter fun d => index.keyAt interval level d = key))
          (index.evaluateAll (requests rest interval size)
            (docs.filter fun d => index.keyAt interval level d = key)) := by
      rw [under_entries]
      apply ih
      · exact fun form hmem => hplain form (List.mem_cons_of_mem _ hmem)
      · exact fun d hd inner hinner =>
          hone d (List.mem_of_mem_filter hd) inner (List.mem_cons_of_mem _ hinner)
      · exact hsize.2 key
    refine ⟨?_, ?_⟩
    · rw [valueCells_evaluateAll hlevel, List.map_map]
      exact (List.Perm.of_eq (List.map_id' _)).trans (hbuckets.trans (leadingKeys_perm hkeys))
    · intro cell hcell
      rw [valueCells_evaluateAll hlevel, missingCell_evaluateAll hlevel] at hcell
      rcases List.mem_append.mp hcell with hvalue | hmissing
      · obtain ⟨key, hkey, rfl⟩ := List.mem_map.mp hvalue
        obtain ⟨d, hd, hown⟩ := mem_keysAmong.mp (hbuckets.mem_iff.mp hkey)
        rw [having_eq hkeys ((hkeys d hd).mem_iff.mp hown).1]
        exact hbelow key
      · rw [List.mem_singleton.mp hmissing, lacking_eq hkeys]
        exact hbelow notAvailable

/-! ### The table of documents -/

theorem sum_countsOf_entries (keys : List String) (docs : List δ) :
    ((countsOf keys (index.entries interval levels docs)).map UInt64.toNat).sum =
      docs.countP fun d => index.tuple interval levels d = keys := by
  have hones : (countsOf keys (index.entries interval levels docs)).map UInt64.toNat =
      (docs.filter fun d => index.tuple interval levels d = keys).map fun _ => 1 := by
    rw [countsOf, entries, List.filter_map, List.map_map, List.map_map]
    rfl
  rw [hones, List.countP_eq_length_filter]
  simp

theorem sum_map_ite_eq_count {β : Type} [DecidableEq β] (y : β) (ys : List β) :
    (ys.map fun other => if y = other then 1 else 0).sum = ys.count y := by
  induction ys with
  | nil => rfl
  | cons other rest ih =>
    rw [List.map_cons, List.sum_cons, ih]
    by_cases heq : y = other
    · rw [if_pos heq, heq, List.count_cons_self, Nat.add_comm]
    · rw [if_neg heq, List.count_cons_of_ne (Ne.symm heq), Nat.zero_add]

/-- Each member is counted at one of the values. -/
theorem sum_countP_eq_length {α β : Type} [DecidableEq β] {f : α → β} {xs : List α} {ys : List β}
    (hnodup : ys.Nodup) (hmem : ∀ x ∈ xs, f x ∈ ys) :
    (ys.map fun y => xs.countP fun x => f x = y).sum = xs.length := by
  induction xs with
  | nil => simp
  | cons x rest ih =>
    have hrest := ih fun other hother => hmem other (List.mem_cons_of_mem _ hother)
    have hone : (ys.map fun y => if f x = y then 1 else 0).sum = 1 := by
      rw [sum_map_ite_eq_count]
      exact List.count_eq_one_of_mem hnodup (hmem x List.mem_cons_self)
    simp only [List.countP_cons, decide_eq_true_eq]
    rw [List.sum_map_add, hrest, hone, List.length_cons]

theorem rowCount_concat (keys : List String) {n : Nat} (hn : n < 2 ^ 64) :
    rowCount (keys ++ [toString n]) = n := by
  rw [rowCount, rowCount?, List.getLast?_concat, Option.getD_some, Text.readUInt64_toString hn,
    Option.getD_some, UInt64.toNat_ofNat_of_lt' hn]

theorem entryOf_row (d : δ) :
    entryOf (index.row interval levels d) = ⟨index.tuple interval levels d, 1⟩ := by
  rw [entryOf, row, List.dropLast_concat, rowCount?, List.getLast?_concat]
  rfl

theorem foldRows_map_row (docs : List δ) :
    foldRows levels (docs.map (index.row interval levels)) =
      .ok (fold levels (index.entries interval levels docs)) := by
  apply foldRows_eq_ok.mpr
  refine ⟨?_, ?_⟩
  · intro cells hcells
    obtain ⟨d, _, rfl⟩ := List.mem_map.mp hcells
    refine ⟨?_, ?_⟩
    · rw [row, List.length_append, tuple, List.length_map]
      rfl
    · rw [rowCount?, row, List.getLast?_concat]
      rfl
  · rw [List.map_map, entries]
    congr 1
    exact List.map_congr_left fun d _ => entryOf_row d

theorem toNat_total_beneath_entries {keys : List String} (hkeys : keys.length = levels.length)
    (hfit : docs.length < 2 ^ 64) :
    (Entry.total (beneath keys (index.entries interval levels docs))).toNat =
      docs.countP fun d => index.tuple interval levels d = keys := by
  rw [toNat_total_beneath, sum_countsOf_entries]
  · rw [hkeys]
    exact haveWidth_entries levels docs
  · have hones : ((docs.map fun _ => 1).map UInt64.toNat).sum = docs.length := by
      rw [List.map_map, show UInt64.toNat ∘ (fun _ : δ => 1) = fun _ => 1 from rfl]
      simp
    rw [Entry.sum, map_count_entries, hones]
    exact hfit

theorem tuple_mem_keyTuples {d : δ} (hd : d ∈ docs) :
    index.tuple interval levels d ∈
      keyTuples levels.length (index.entries interval levels docs) := by
  rw [mem_keyTuples (haveWidth_entries levels docs)]
  refine ⟨_, .inr ⟨_, List.mem_map_of_mem hd, List.prefix_refl _⟩, ?_⟩
  rw [List.rightpad, tuple, List.length_map, Nat.sub_self, List.replicate_zero,
    List.append_nil]

/-- The table that an engine answers counts documents: each tuple of keys stands in one row, with
the number of documents that have it, and every document is in one of the rows. -/
structure Counts (index : Index δ ν) (interval : Interval) (levels : List Level) (docs : List δ)
    (table : List Row) : Prop where
  nodup_keys : (table.map List.dropLast).Nodup
  tuple_mem : ∀ d ∈ docs, index.tuple interval levels d ∈ table.map List.dropLast
  count : ∀ row ∈ table, row = row.dropLast ++
    [toString (docs.countP fun d => index.tuple interval levels d = row.dropLast)]
  sum_counts : (table.map rowCount).sum = docs.length

theorem counts_of_perm {table : List Row} (hfit : docs.length < 2 ^ 64)
    (hperm : table.Perm ((keyTuples levels.length (index.entries interval levels docs)).map
      (rowOf (index.entries interval levels docs)))) :
    index.Counts interval levels docs table := by
  have hkeys := hperm.map List.dropLast
  rw [map_dropLast_table] at hkeys
  have hrow : ∀ keys ∈ keyTuples levels.length (index.entries interval levels docs),
      rowOf (index.entries interval levels docs) keys =
        keys ++ [toString (docs.countP fun d => index.tuple interval levels d = keys)] := by
    intro keys hmem
    rw [rowOf, toNat_total_beneath_entries (length_of_mem_keyTuples hmem) hfit]
  refine ⟨hkeys.nodup_iff.mpr (nodup_keyTuples _ _), ?_, ?_, ?_⟩
  · exact fun d hd => hkeys.mem_iff.mpr (tuple_mem_keyTuples hd)
  · intro cells hcells
    obtain ⟨keys, hmem, rfl⟩ := List.mem_map.mp (hperm.mem_iff.mp hcells)
    rw [dropLast_rowOf]
    exact hrow keys hmem
  · have hcover : ((keyTuples levels.length (index.entries interval levels docs)).map fun keys =>
        docs.countP fun d => index.tuple interval levels d = keys).sum = docs.length :=
      sum_countP_eq_length (nodup_keyTuples _ _) fun d hd => tuple_mem_keyTuples hd
    rw [(hperm.map rowCount).sum_eq, List.map_map, ← hcover]
    congr 1
    apply List.map_congr_left
    intro keys hmem
    rw [Function.comp, hrow keys hmem, rowCount_concat]
    exact lt_of_le_of_lt List.countP_le_length hfit

/-- The answer to the request of a pivot, flattened, has the rows of the tree folded from one row
for each document, and it counts the documents. -/
theorem rows_evaluateAll_perm (hlevels : levels ≠ []) (hplain : ∀ form, .presence form ∉ levels)
    (hone : ∀ d ∈ docs, ∀ level ∈ levels, index.OneKey interval level d)
    (hsize : index.WithinSize interval size.toNat levels docs) :
    (∃ tree, foldRows levels (docs.map (index.row interval levels)) = .ok tree ∧
      (rows levels (index.evaluateAll (requests levels interval size) docs)).Perm
        (rows levels tree)) ∧
      (docs.length < 2 ^ 64 → index.Counts interval levels docs
        (rows levels (index.evaluateAll (requests levels interval size) docs))) := by
  have hanswer : (rows levels (index.evaluateAll (requests levels interval size) docs)).Perm
      ((keyTuples levels.length (index.entries interval levels docs)).map
        (rowOf (index.entries interval levels docs))) := by
    apply Holds.rows_perm hlevels
    have hholds := holds_evaluateAll hplain hone hsize
    cases levels with
    | nil => exact absurd rfl hlevels
    | cons level rest => exact hholds
  refine ⟨?_, ?_⟩
  · exact ⟨_, foldRows_map_row docs, hanswer.trans (rows_fold_perm hlevels _).symm⟩
  · exact fun hfit => counts_of_perm hfit hanswer

/-! ### A small index -/

/-- A size that is no less than the number of documents is never exceeded. -/
theorem withinSize_of_length_le {bound : Nat}
    (hone : ∀ d ∈ docs, ∀ level ∈ levels, index.OneKey interval level d)
    (hlength : docs.length ≤ bound) : index.WithinSize interval bound levels docs := by
  induction levels generalizing docs with
  | nil => exact trivial
  | cons level rest ih =>
    refine ⟨?_, ?_⟩
    · have hnodup : (index.keysAmong interval level docs).Nodup := nodup_firstOccurrences _
      have hsubset : index.keysAmong interval level docs ⊆
          docs.map (index.keyAt interval level) := by
        intro key hkey
        obtain ⟨d, hd, hown⟩ := mem_keysAmong.mp hkey
        rw [← ((hone d hd level List.mem_cons_self).mem_iff.mp hown).2]
        exact List.mem_map_of_mem hd
      have hle := (hnodup.subperm hsubset).length_le
      rw [List.length_map] at hle
      exact hle.trans hlength
    · intro key
      apply ih
      · exact fun d hd inner hinner =>
          hone d (List.mem_of_mem_filter hd) inner (List.mem_cons_of_mem _ hinner)
      · exact (List.length_filter_le _ _).trans hlength

/-- Documents given by their fields and values, with buckets in the reverse order. -/
def ofPairs : Index (List (String × String)) String where
  values d field := (d.filter fun pair => pair.1 = field).map Prod.snd
  termKey value := value
  dateKey _ value := value
  shown _ key := (.text key, none)
  keyText_shown _ _ _ _ := rfl
  arrange _ _ keys := keys.reverse
  arrange_perm _ _ keys := keys.reverse_perm
  otherwise _ _ := .hits 0 []

instance (index : Index δ ν) (interval : Interval) (level : Level) (d : δ) :
    Decidable (index.OneKey interval level d) :=
  inferInstanceAs (Decidable (_ ∧ _))

/-- Gender by city: two contacts alike, one without a city, one without a gender. -/
theorem rows_evaluateAll_perm_ofPairs :
    let docs := [[(Field.gender, "F"), (Field.city, "Lyon")], [(Field.gender, "M")],
      [(Field.city, "Lyon")], [(Field.city, "Lyon"), (Field.gender, "F")]]
    let answer :=
      rows [.gender, .city] (ofPairs.evaluateAll (requests [.gender, .city] .week 1000) docs)
    answer = [["M", "N/A", "1"], ["F", "Lyon", "2"], ["F", "N/A", "0"], ["N/A", "Lyon", "1"],
      ["N/A", "N/A", "0"]] ∧
    (∃ tree, foldRows [.gender, .city] (docs.map (ofPairs.row .week [.gender, .city])) = .ok tree ∧
      answer.Perm (rows [.gender, .city] tree)) ∧
    ofPairs.Counts .week [.gender, .city] docs answer := by
  intro docs answer
  have hone : ∀ d ∈ docs, ∀ level ∈ [Level.gender, .city], ofPairs.OneKey .week level d := by
    decide +kernel
  have hplain : ∀ form, Level.presence form ∉ [Level.gender, .city] := by
    intro form hmem
    simp at hmem
  have hsize : ofPairs.WithinSize .week (1000 : UInt64).toNat [.gender, .city] docs :=
    withinSize_of_length_le hone (by decide)
  have hmain := rows_evaluateAll_perm (List.cons_ne_nil _ _) hplain hone hsize
  exact ⟨by decide +kernel, hmain.1, hmain.2 (by decide)⟩

end Index

end Outreach
