import Outreach.Proofs.Pivot.Entries

/-!
# The table of a list of entries

Which rows a list of entries has, whatever tree of outcomes holds them: a row for each tuple of
keys, and one below every key, padded with the key of the contacts without a value. `Holds` is what
a tree has to be to give these rows, in some order. It asks for the keys of each level and, below
every cell, for the same of the entries under its key; names, wrappings and the order of the buckets
do not matter, so it is common to the trees that are folded and to those that an engine answers.
-/

namespace Outreach

namespace Pivot

variable {entries : List Entry} {levels : List Level} {keys : List String} {n : Nat}

/-- The tuples of keys in the rows of entries with `n` keys each. -/
def keyTuples : Nat → List Entry → List (List String)
  | 0, _ => [[]]
  | n + 1, entries =>
    (leadingKeys entries ++ [notAvailable]).flatMap fun key =>
      (keyTuples n (under key entries)).map (key :: ·)

/-- The row of a tuple of keys. -/
def rowOf (entries : List Entry) (keys : List String) : Row :=
  keys ++ [toString (Entry.total (beneath keys entries)).toNat]

theorem rowOf_cons (key : String) (keys : List String) :
    rowOf entries (key :: keys) = key :: rowOf (under key entries) keys := rfl

theorem dropLast_rowOf (keys : List String) : (rowOf entries keys).dropLast = keys := by
  rw [rowOf, List.dropLast_concat]

/-- Outcomes that hold entries along levels, below a cell with a count. -/
def Holds : List Level → List Entry → UInt64 → Outcomes → Prop
  | [], entries, count, _ => count = Entry.total entries
  | level :: rest, entries, _, outcomes =>
    ((valueCells level outcomes).map Cell.key).Perm (leadingKeys entries) ∧
      ∀ cell ∈ valueCells level outcomes ++ [missingCell level outcomes],
        Holds rest (under cell.key entries) cell.count cell.inner

theorem missingCell_key (level : Level) (outcomes : Outcomes) :
    (missingCell level outcomes).key = notAvailable := by
  unfold missingCell
  split <;> rfl

theorem Holds.rowsBelow_perm {count : UInt64} {outcomes : Outcomes}
    (hholds : Holds levels entries count outcomes) :
    (rowsBelow levels count outcomes).Perm
      ((keyTuples levels.length entries).map (rowOf entries)) := by
  induction levels generalizing entries count outcomes with
  | nil =>
    rw [rowsBelow, show count = Entry.total entries from hholds]
    exact .refl _
  | cons level rest ih =>
    obtain ⟨hkeys, hcells⟩ := hholds
    have hall : ((valueCells level outcomes ++ [missingCell level outcomes]).map Cell.key).Perm
        (leadingKeys entries ++ [notAvailable]) := by
      rw [List.map_append, List.map_singleton, missingCell_key]
      exact hkeys.append_right _
    have hbelow : (rowsBelow (level :: rest) count outcomes).Perm
        ((valueCells level outcomes ++ [missingCell level outcomes]).flatMap fun cell =>
          ((keyTuples rest.length (under cell.key entries)).map
            (rowOf (under cell.key entries))).map (cell.key :: ·)) := by
      apply List.Perm.flatMap_left
      intro cell hcell
      exact (ih (hcells cell hcell)).map _
    refine hbelow.trans ?_
    have hregroup := hall.flatMap_right fun key =>
      ((keyTuples rest.length (under key entries)).map (rowOf (under key entries))).map (key :: ·)
    rw [List.flatMap_map] at hregroup
    refine hregroup.trans (.of_eq ?_)
    rw [List.length_cons, keyTuples, List.map_flatMap]
    congr 1
    funext key
    rw [List.map_map, List.map_map]
    apply List.map_congr_left
    intro keys _
    exact (rowOf_cons key keys).symm

/-- With a level to walk, the count of the whole is in no row. -/
theorem rows_eq_rowsBelow (hlevels : levels ≠ []) (count : UInt64) (outcomes : Outcomes) :
    rows levels outcomes = rowsBelow levels count outcomes := by
  cases levels with
  | nil => exact absurd rfl hlevels
  | cons level rest => rfl

theorem Holds.rows_perm {outcomes : Outcomes} (hlevels : levels ≠ [])
    (hholds : Holds levels entries 0 outcomes) :
    (rows levels outcomes).Perm ((keyTuples levels.length entries).map (rowOf entries)) := by
  rw [rows_eq_rowsBelow hlevels 0]
  exact hholds.rowsBelow_perm

/-! ### The tuples of a table -/

theorem length_of_mem_keyTuples (hmem : keys ∈ keyTuples n entries) : keys.length = n := by
  induction n generalizing keys entries with
  | zero => rw [List.mem_singleton.mp hmem, List.length_nil]
  | succ n ih =>
    obtain ⟨key, _, hkeys⟩ := List.mem_flatMap.mp hmem
    obtain ⟨rest, hrest, rfl⟩ := List.mem_map.mp hkeys
    rw [List.length_cons, ih hrest]

theorem nodup_keyTuples (n : Nat) (entries : List Entry) : (keyTuples n entries).Nodup := by
  induction n generalizing entries with
  | zero => exact List.nodup_singleton _
  | succ n ih =>
    rw [keyTuples, List.nodup_flatMap]
    refine ⟨?_, ?_⟩
    · intro key _
      exact (ih (under key entries)).map fun _ _ heq => (List.cons.inj heq).2
    · refine (nodup_leadingKeys_append entries).imp fun {key other} hne => ?_
      intro keys hkeys hother
      obtain ⟨rest, _, rfl⟩ := List.mem_map.mp hkeys
      obtain ⟨rest', _, heq⟩ := List.mem_map.mp hother
      exact hne (List.cons.inj heq).1.symm

theorem mem_keyTuples_succ {key : String} :
    key :: keys ∈ keyTuples (n + 1) entries ↔
      key ∈ leadingKeys entries ++ [notAvailable] ∧ keys ∈ keyTuples n (under key entries) := by
  rw [keyTuples, List.mem_flatMap]
  refine ⟨?_, ?_⟩
  · intro hcell
    obtain ⟨known, hknown, hmem⟩ := hcell
    obtain ⟨rest, hrest, heq⟩ := List.mem_map.mp hmem
    obtain ⟨rfl, rfl⟩ := List.cons.inj heq
    exact ⟨hknown, hrest⟩
  · intro htuple
    obtain ⟨hkey, hkeys⟩ := htuple
    exact ⟨key, hkey, List.mem_map_of_mem hkeys⟩

/-! ### Openings -/

/-- The keys at the beginning of an entry, up to all of them; no keys at all are an opening even
when there are no entries. -/
def IsOpening (opening : List String) (entries : List Entry) : Prop :=
  opening = [] ∨ ∃ entry ∈ entries, opening <+: entry.keys

theorem isOpening_nil (entries : List Entry) : IsOpening [] entries := .inl rfl

theorem isOpening_cons {key : String} {opening : List String} :
    IsOpening (key :: opening) entries ↔
      (∃ entry ∈ entries, entry.keys.head? = some key) ∧ IsOpening opening (under key entries) := by
  refine ⟨?_, ?_⟩
  · intro hopening
    obtain ⟨entry, hentry, tail, htail⟩ := hopening.resolve_left (List.cons_ne_nil key opening)
    have hbelow : ⟨opening ++ tail, entry.count⟩ ∈ under key entries := by
      rw [mem_under]
      show ⟨key :: opening ++ tail, entry.count⟩ ∈ entries
      rwa [htail]
    refine ⟨⟨entry, hentry, ?_⟩, .inr ⟨_, hbelow, List.prefix_append opening tail⟩⟩
    rw [← htail]
    rfl
  · intro hopening
    obtain ⟨⟨entry, hentry, hhead⟩, hbelow⟩ := hopening
    rcases hbelow with rfl | ⟨below, hunder, hopens⟩
    · obtain ⟨tail, htail⟩ := List.head?_eq_some_iff.mp hhead
      exact .inr ⟨entry, hentry, tail, htail.symm⟩
    · exact .inr ⟨_, mem_under.mp hunder, (List.prefix_cons_inj key).mpr hopens⟩

theorem rightpad_cons (n : Nat) (key : String) (opening : List String) :
    (key :: opening).rightpad (n + 1) notAvailable = key :: opening.rightpad n notAvailable := by
  simp [List.rightpad]

theorem rightpad_nil (n : Nat) :
    ([] : List String).rightpad (n + 1) notAvailable =
      notAvailable :: ([] : List String).rightpad n notAvailable := rfl

/-- The tuples of a table are the openings of its entries, padded to the full number of keys. -/
theorem mem_keyTuples (hwidth : HaveWidth n entries) :
    keys ∈ keyTuples n entries ↔
      ∃ opening, IsOpening opening entries ∧ keys = opening.rightpad n notAvailable := by
  induction n generalizing keys entries with
  | zero =>
    rw [keyTuples, List.mem_singleton]
    refine ⟨?_, ?_⟩
    · intro hnone
      exact ⟨[], isOpening_nil entries, hnone⟩
    · intro hpadded
      obtain ⟨opening, hopening, rfl⟩ := hpadded
      rcases hopening with rfl | ⟨entry, hmem, hopens⟩
      · rfl
      · rw [List.eq_nil_of_length_eq_zero (hwidth entry hmem), List.prefix_nil] at hopens
        rw [hopens]
        rfl
  | succ n ih =>
    refine ⟨?_, ?_⟩
    · intro hmem
      obtain ⟨key, hkey, hkeys⟩ := List.mem_flatMap.mp hmem
      obtain ⟨rest, hrest, rfl⟩ := List.mem_map.mp hkeys
      obtain ⟨opening, hopening, rfl⟩ := (ih (hwidth.under key)).mp hrest
      by_cases hhead : ∃ entry ∈ entries, entry.keys.head? = some key
      · exact ⟨key :: opening, isOpening_cons.mpr ⟨hhead, hopening⟩, (rightpad_cons n key _).symm⟩
      · -- a key that no entry begins with is the padding, with nothing below it
        have hpadding : key = notAvailable := by
          rcases List.mem_append.mp hkey with hlead | hmissing
          · exact absurd (mem_leadingKeys.mp hlead).2 hhead
          · exact List.mem_singleton.mp hmissing
        have hnone : opening = [] := by
          rcases hopening with hnone | ⟨entry, hunder, _⟩
          · exact hnone
          · exact absurd ⟨_, mem_under.mp hunder, rfl⟩ hhead
        rw [hpadding, hnone]
        exact ⟨[], isOpening_nil entries, rightpad_nil n⟩
    · intro hpadded
      obtain ⟨opening, hopening, rfl⟩ := hpadded
      cases opening with
      | nil =>
        rw [rightpad_nil, mem_keyTuples_succ]
        exact ⟨by simp, (ih (hwidth.under _)).mpr ⟨[], isOpening_nil _, rfl⟩⟩
      | cons key opening =>
        obtain ⟨⟨entry, hentry, hhead⟩, hbelow⟩ := isOpening_cons.mp hopening
        rw [rightpad_cons, mem_keyTuples_succ]
        exact ⟨mem_leadingKeys_append hentry hhead,
          (ih (hwidth.under key)).mpr ⟨opening, hbelow, rfl⟩⟩

/-! ### The counts of a table -/

theorem toNat_total_beneath (hwidth : HaveWidth keys.length entries)
    (hsum : Entry.sum entries < 2 ^ 64) :
    (Entry.total (beneath keys entries)).toNat =
      ((countsOf keys entries).map UInt64.toNat).sum := by
  have hle := sum_countsOf_le keys entries
  rw [Entry.total, counts_beneath hwidth, toNat_sumOf (by omega)]

end Pivot

end Outreach
