import Mathlib.Algebra.Order.BigOperators.Group.List
import Mathlib.Algebra.Order.Ring.Nat
import Mathlib.Data.List.Nodup
import Outreach.Pivot.Rows

/-!
# Entries under their keys

A fold goes down one key at a time, to the entries that begin with the key, without it. Going down
a whole tuple leaves the entries that carry it, so the count below the tuple is the sum of theirs.
-/

namespace Outreach

namespace Pivot

variable {key : String} {keys : List String} {entries : List Entry} {entry : Entry} {n : Nat}

theorem mem_under : entry ∈ under key entries ↔ ⟨key :: entry.keys, entry.count⟩ ∈ entries := by
  unfold under
  rw [List.mem_filterMap]
  refine ⟨?_, ?_⟩
  · intro hfound
    obtain ⟨⟨known, count⟩, hmem, hhead⟩ := hfound
    cases known with
    | nil => cases hhead
    | cons head rest =>
      by_cases hkey : head = key
      · simp only [if_pos hkey, Option.some.injEq] at hhead
        subst hkey hhead
        exact hmem
      · simp only [if_neg hkey] at hhead
        cases hhead
  · intro hmem
    exact ⟨_, hmem, if_pos rfl⟩

theorem under_cons (count : UInt64) (head : String) :
    under key (⟨head :: keys, count⟩ :: entries) =
      if head = key then ⟨keys, count⟩ :: under key entries else under key entries := by
  by_cases hkey : head = key
  · simp [under, hkey]
  · simp [under, hkey]

theorem mem_leadingKeys :
    key ∈ leadingKeys entries ↔
      key ≠ notAvailable ∧ ∃ entry ∈ entries, entry.keys.head? = some key := by
  unfold leadingKeys
  rw [mem_firstOccurrences, List.mem_filter, List.mem_filterMap, decide_eq_true_eq]
  exact And.comm

/-- The keys of the cells of one level. -/
theorem nodup_leadingKeys_append (entries : List Entry) :
    (leadingKeys entries ++ [notAvailable]).Nodup := by
  refine List.nodup_append.mpr ⟨nodup_firstOccurrences _, List.nodup_singleton _, ?_⟩
  intro key hlead missing hmissing
  rw [List.mem_singleton.mp hmissing]
  exact (mem_leadingKeys.mp hlead).1

theorem mem_leadingKeys_append (hmem : entry ∈ entries) (hhead : entry.keys.head? = some key) :
    key ∈ leadingKeys entries ++ [notAvailable] := by
  by_cases hmissing : key = notAvailable
  · exact List.mem_append.mpr (.inr (List.mem_singleton.mpr hmissing))
  · exact List.mem_append.mpr (.inl (mem_leadingKeys.mpr ⟨hmissing, entry, hmem, hhead⟩))

/-! ### Widths -/

/-- All entries have the same number of keys. -/
def HaveWidth (n : Nat) (entries : List Entry) : Prop := ∀ entry ∈ entries, entry.keys.length = n

theorem HaveWidth.under (hwidth : HaveWidth (n + 1) entries) (key : String) :
    HaveWidth n (under key entries) := by
  intro entry hmem
  have hlength := hwidth _ (mem_under.mp hmem)
  rw [List.length_cons] at hlength
  omega

theorem HaveWidth.exists_cons (hwidth : HaveWidth (n + 1) entries) (hmem : entry ∈ entries) :
    ∃ head rest, entry = ⟨head :: rest, entry.count⟩ := by
  obtain ⟨known, count⟩ := entry
  cases known with
  | nil => exact absurd (hwidth _ hmem) (Nat.succ_ne_zero n).symm
  | cons head rest => exact ⟨head, rest, rfl⟩

theorem HaveWidth.tail (hwidth : HaveWidth n (entry :: entries)) : HaveWidth n entries :=
  fun other hmem => hwidth other (List.mem_cons_of_mem _ hmem)

/-! ### Tuples of keys -/

/-- The entries that begin with a tuple of keys, without it. -/
def beneath : List String → List Entry → List Entry
  | [], entries => entries
  | key :: keys, entries => beneath keys (under key entries)

/-- The counts of the entries that carry a tuple of keys. -/
def countsOf (keys : List String) (entries : List Entry) : List UInt64 :=
  (entries.filter fun entry => entry.keys = keys).map Entry.count

theorem countsOf_under (hwidth : HaveWidth (n + 1) entries) (key : String) (keys : List String) :
    countsOf keys (under key entries) = countsOf (key :: keys) entries := by
  induction entries with
  | nil => rfl
  | cons entry rest ih =>
    obtain ⟨head, known, hentry⟩ := hwidth.exists_cons List.mem_cons_self
    have hrest := ih hwidth.tail
    unfold countsOf at hrest ⊢
    rw [hentry, under_cons]
    by_cases hkey : head = key
    · by_cases hkeys : known = keys
      · simp [hkey, hkeys, hrest]
      · simp [hkey, hkeys, hrest]
    · simp [hkey, hrest]

theorem counts_beneath (hwidth : HaveWidth keys.length entries) :
    (beneath keys entries).map Entry.count = countsOf keys entries := by
  induction keys generalizing entries with
  | nil =>
    have hall : entries.filter (fun entry => entry.keys = []) = entries := by
      apply List.filter_eq_self.mpr
      intro entry hmem
      exact decide_eq_true (List.eq_nil_of_length_eq_zero (hwidth entry hmem))
    rw [countsOf, hall, beneath]
  | cons key keys ih =>
    rw [beneath, ih (hwidth.under key), countsOf_under hwidth]

/-! ### Sums of words -/

/-- A sum of words that stays below the bound is the sum of the numbers. -/
theorem toNat_sumOf {counts : List UInt64} (hsum : (counts.map UInt64.toNat).sum < 2 ^ 64) :
    (sumOf counts).toNat = (counts.map UInt64.toNat).sum := by
  induction counts with
  | nil => rfl
  | cons count rest ih =>
    rw [List.map_cons, List.sum_cons] at hsum ⊢
    have hrest := ih (by omega)
    rw [sumOf, List.foldr_cons, ← sumOf, UInt64.toNat_add, hrest]
    exact Nat.mod_eq_of_lt hsum

theorem sumOf_ofNat (counts : List Nat) :
    sumOf (counts.map UInt64.ofNat) = UInt64.ofNat counts.sum := by
  induction counts with
  | nil => rfl
  | cons count rest ih =>
    rw [List.map_cons, List.sum_cons, UInt64.ofNat_add, ← ih]
    rfl

/-- The counts of entries added up, as a number. -/
def Entry.sum (entries : List Entry) : Nat := ((entries.map Entry.count).map UInt64.toNat).sum

theorem Entry.sum_cons (entry : Entry) (entries : List Entry) :
    Entry.sum (entry :: entries) = entry.count.toNat + Entry.sum entries := List.sum_cons

theorem Entry.toNat_total (hsum : Entry.sum entries < 2 ^ 64) :
    (Entry.total entries).toNat = Entry.sum entries := toNat_sumOf hsum

theorem sum_countsOf_le (keys : List String) (entries : List Entry) :
    ((countsOf keys entries).map UInt64.toNat).sum ≤ Entry.sum entries := by
  have hsub : (countsOf keys entries).Sublist (entries.map Entry.count) :=
    List.filter_sublist.map Entry.count
  exact (hsub.map UInt64.toNat).sum_le_sum fun count _ => Nat.zero_le count

end Pivot

end Outreach
