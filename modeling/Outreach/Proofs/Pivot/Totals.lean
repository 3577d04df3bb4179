import Outreach.Proofs.Pivot.RoundTrip

/-!
# The counts of a folded tree

A fold divides its entries by their first keys, and the entries under the keys of a level, with the
key of the contacts without a value among them, are all of them again. So the counts under the keys
add up to the count of the whole, at every level, and none of these sums exceeds that of all rows:
as long as the rows sum to a word, the words of the tree are the numbers.
-/

namespace Outreach

/-- The counts of buckets added up, as a number. -/
def Bucket.sum (buckets : List Bucket) : Nat := ((buckets.map Bucket.count).map UInt64.toNat).sum

theorem Bucket.toNat_total {buckets : List Bucket} (hsum : Bucket.sum buckets < 2 ^ 64) :
    (Bucket.total buckets).toNat = Bucket.sum buckets := Pivot.toNat_sumOf hsum

namespace Pivot

variable {levels : List Level} {entries : List Entry} {n : Nat}

/-! ### The division of entries -/

theorem sum_under_cons (key head : String) (keys : List String) (count : UInt64) :
    Entry.sum (under key (⟨head :: keys, count⟩ :: entries)) =
      (if head = key then count.toNat else 0) + Entry.sum (under key entries) := by
  rw [under_cons]
  split
  · rw [Entry.sum_cons]
  · rw [Nat.zero_add]

theorem sum_under_of_nodup (hwidth : HaveWidth (n + 1) entries) {known : List String}
    (hnodup : known.Nodup)
    (hknown : ∀ entry ∈ entries, ∀ key ∈ entry.keys.head?, key ∈ known) :
    (known.map fun key => Entry.sum (under key entries)).sum = Entry.sum entries := by
  induction entries with
  | nil => simp [under, Entry.sum]
  | cons entry others ih =>
    obtain ⟨head, keys, hentry⟩ := hwidth.exists_cons List.mem_cons_self
    have hothers := ih hwidth.tail fun other hother =>
      hknown other (List.mem_cons_of_mem _ hother)
    have hhead : head ∈ known := hknown entry List.mem_cons_self head (by rw [hentry]; rfl)
    -- the first entry counts under its own key alone
    have hone : (known.map fun key => if head = key then entry.count.toNat else 0).sum =
        entry.count.toNat := by
      rw [List.sum_map_eq_nsmul_single head _ fun key hkey _ => if_neg (Ne.symm hkey),
        List.count_eq_one_of_mem hnodup hhead, if_pos rfl, one_nsmul]
    rw [Entry.sum_cons, ← hothers, hentry]
    simp only [sum_under_cons]
    rw [List.sum_map_add, hone]

/-- Each entry is under one of the keys of its level. -/
theorem sum_under (hwidth : HaveWidth (n + 1) entries) :
    ((leadingKeys entries ++ [notAvailable]).map fun key => Entry.sum (under key entries)).sum =
      Entry.sum entries :=
  sum_under_of_nodup hwidth (nodup_leadingKeys_append entries) fun _ hmem _ hkey =>
    mem_leadingKeys_append hmem hkey

theorem sum_leadingKeys_add (hwidth : HaveWidth (n + 1) entries) :
    ((leadingKeys entries).map fun key => Entry.sum (under key entries)).sum +
      Entry.sum (under notAvailable entries) = Entry.sum entries := by
  rw [← sum_under hwidth, List.map_append, List.sum_append, List.map_singleton,
    List.sum_singleton]

theorem sum_under_le (key : String) (entries : List Entry) :
    Entry.sum (under key entries) ≤ Entry.sum entries := by
  induction entries with
  | nil => exact Nat.le_refl _
  | cons entry others ih =>
    obtain ⟨keys, count⟩ := entry
    rw [Entry.sum_cons]
    cases keys with
    | nil => exact Nat.le_add_left_of_le ih
    | cons head keys =>
      rw [sum_under_cons]
      refine Nat.add_le_add ?_ ih
      split
      · exact Nat.le_refl _
      · exact Nat.zero_le _

theorem sum_under_lt (hsum : Entry.sum entries < 2 ^ 64) (key : String) :
    Entry.sum (under key entries) < 2 ^ 64 := lt_of_le_of_lt (sum_under_le key entries) hsum

/-! ### Counts along a tree -/

/-- The value node of a presence level: the node and its form count what the answers do, and each
answer as much as the group of its contacts. -/
def PresenceSumsUp (contactsSumUp : Nat → Outcomes → Prop) (values : Outcome) : Prop :=
  ∃ nested ofForm items,
    values = .single nested
      [(Level.formName, .single ofForm [(Level.answerName, .buckets items)])] ∧
    nested.toNat = Bucket.sum items ∧ ofForm.toNat = Bucket.sum items ∧
    ∀ b ∈ items, ∃ contacts inner, b.sub = [(Level.contactsName, .single contacts inner)] ∧
      b.count = contacts ∧ contactsSumUp contacts.toNat inner

/-- Outcomes in which the values of a level and its companion together count as much as what they
are inside of: the whole, a bucket, the contacts of an answer or a companion. -/
def SumsUp : List Level → Nat → Outcomes → Prop
  | [], _, _ => True
  | level :: rest, whole, outcomes =>
    ∃ values missing inner,
      Named.get? level.name outcomes = some values ∧
      Named.get? level.missingName outcomes = some (.single missing inner) ∧
      values.count.toNat + missing.toNat = whole ∧
      SumsUp rest missing.toNat inner ∧
      match level with
      | .presence _ => PresenceSumsUp (SumsUp rest) values
      | _ => ∃ items, values = .buckets items ∧ values.count.toNat = Bucket.sum items ∧
        ∀ b ∈ items, SumsUp rest b.count.toNat b.sub

theorem bucket_count (level : Level) (key : String) (count : UInt64) (inner : Outcomes) :
    (bucket level key count inner).count = count := by
  cases level <;> rfl

theorem count_valueOutcome (level : Level) (buckets : List Bucket) :
    (valueOutcome level buckets).count = Bucket.total buckets := by
  cases level <;> rfl

/-- The buckets of a level count the entries that have a value there. -/
theorem sum_foldedBuckets (level : Level) (rest : List Level) (hsum : Entry.sum entries < 2 ^ 64) :
    Bucket.sum (foldedBuckets level rest entries) =
      ((leadingKeys entries).map fun key => Entry.sum (under key entries)).sum := by
  rw [Bucket.sum, foldedBuckets, List.map_map, List.map_map]
  congr 1
  apply List.map_congr_left
  intro key _
  rw [Function.comp, Function.comp, bucket_count]
  exact Entry.toNat_total (sum_under_lt hsum key)

theorem sum_foldedBuckets_lt (level : Level) (rest : List Level)
    (hwidth : HaveWidth (n + 1) entries) (hsum : Entry.sum entries < 2 ^ 64) :
    Bucket.sum (foldedBuckets level rest entries) < 2 ^ 64 := by
  have hdivision := sum_leadingKeys_add hwidth
  rw [sum_foldedBuckets level rest hsum]
  omega

theorem sumsUp_fold (hwidth : HaveWidth levels.length entries) (hsum : Entry.sum entries < 2 ^ 64) :
    SumsUp levels (Entry.sum entries) (fold levels entries) := by
  induction levels generalizing entries with
  | nil => trivial
  | cons level rest ih =>
    have hunder (key : String) : (Entry.total (under key entries)).toNat =
        Entry.sum (under key entries) := Entry.toNat_total (sum_under_lt hsum key)
    have hbelow (key : String) : SumsUp rest (Entry.total (under key entries)).toNat
        (fold rest (under key entries)) := by
      rw [hunder key]
      exact ih (hwidth.under key) (sum_under_lt hsum key)
    have hword := Bucket.toNat_total (sum_foldedBuckets_lt level rest hwidth hsum)
    refine ⟨_, _, _, get?_name_fold level rest entries, get?_missingName_fold level rest entries,
      ?_, hbelow notAvailable, ?_⟩
    · rw [count_valueOutcome, hword, sum_foldedBuckets level rest hsum, hunder]
      exact sum_leadingKeys_add hwidth
    · cases level with
      | presence form =>
        -- the nested node and its form are both given the total of the buckets
        refine ⟨_, _, _, rfl, hword, hword, ?_⟩
        intro b hb
        obtain ⟨key, _, rfl⟩ := List.mem_map.mp hb
        exact ⟨_, _, rfl, rfl, hbelow key⟩
      | _ =>
        refine ⟨_, rfl, hword, ?_⟩
        intro b hb
        obtain ⟨key, _, rfl⟩ := List.mem_map.mp hb
        exact hbelow key

/-- In the tree of accepted rows every count is that of the level below, up to the outermost level,
which counts the rows. -/
theorem foldRows_sumsUp {input : List Row} {tree : Outcomes}
    (htree : foldRows levels input = .ok tree) (hsum : (input.map rowCount).sum < 2 ^ 64) :
    SumsUp levels (input.map rowCount).sum tree := by
  obtain ⟨hwidth, rfl⟩ := entries_of_foldRows htree
  rw [← sum_map_entryOf] at hsum ⊢
  exact sumsUp_fold hwidth hsum

/-- Answers to a form within genders and cities within answers, with rows that have no value at one
level, at all of them, or the same keys. -/
theorem foldRows_sumsUp_presence :
    let input : List Row := [["F", "yes", "Lyon", "2"], ["N/A", "no", "Lyon", "5"],
      ["F", "yes", "N/A", "3"], ["F", "yes", "Lyon", "+4"], ["N/A", "N/A", "N/A", "1"]]
    ∃ tree, foldRows [.gender, .presence 1, .city] input = .ok tree ∧
      (input.map rowCount).sum = 15 ∧ SumsUp [.gender, .presence 1, .city] 15 tree := by
  intro input
  have htree : foldRows [.gender, .presence 1, .city] input =
      .ok (fold [.gender, .presence 1, .city] (input.map entryOf)) := rfl
  have hcounts : (input.map rowCount).sum = 15 := by decide +kernel
  have hsums := foldRows_sumsUp htree (by rw [hcounts]; decide)
  rw [hcounts] at hsums
  exact ⟨_, htree, hcounts, hsums⟩

end Pivot

end Outreach
