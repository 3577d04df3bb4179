import Mathlib.Algebra.BigOperators.Ring.Finset
import Outreach.Proofs.Fault.Steps
import Outreach.Proofs.Pivot.Entries
import Outreach.Proofs.Aggregation.Shape
import Outreach.Report.Indicators

/-!
# Ages from two sources

The counts of contacts by age add up whatever categories are stored with them: what a stored
category adds to its band it takes from the contacts of unknown age. Everything rests on one sum,
the stored counts bucket by bucket and code by code, which is the same because no two buckets have
one code. The counts are words; as long as all of them together stay below the bound of signed
words, no combination of them leaves their range.
-/

namespace Outreach

/-! ### Words -/

namespace Word

theorem toInt_toInt64 {count : UInt64} (hcount : count.toNat < 2 ^ 63) :
    count.toInt64.toInt = count.toNat := by
  show count.toBitVec.toInt = count.toBitVec.toNat
  exact BitVec.toInt_eq_toNat_of_lt (by show 2 * count.toNat < 2 ^ 64; omega)

theorem toInt_sub {a b : Int64} (hlow : -(2 ^ 63) ≤ a.toInt - b.toInt)
    (hhigh : a.toInt - b.toInt < 2 ^ 63) : (a - b).toInt = a.toInt - b.toInt := by
  rw [Int64.toInt_sub]
  exact Int.bmod_eq_of_le (by omega) (by omega)

theorem toNat_add {a b : UInt64} (hsum : a.toNat + b.toNat < 2 ^ 64) :
    (a + b).toNat = a.toNat + b.toNat := by
  rw [UInt64.toNat_add]
  exact Nat.mod_eq_of_lt hsum

/-- The signed word of a sum that is taken as a word. -/
theorem toInt_toInt64_add {a b : UInt64} (hsum : a.toNat + b.toNat < 2 ^ 63) :
    (a + b).toInt64.toInt = a.toNat + b.toNat := by
  have hadd : (a + b).toNat = a.toNat + b.toNat := toNat_add (by omega)
  rw [toInt_toInt64 (by omega), hadd, Nat.cast_add]

theorem toInt_toInt64_sub {a b : UInt64} (ha : a.toNat < 2 ^ 63) (hb : b.toNat < 2 ^ 63) :
    (a.toInt64 - b.toInt64).toInt = a.toNat - b.toNat := by
  have hleft := toInt_toInt64 ha
  have hright := toInt_toInt64 hb
  rw [toInt_sub (by omega) (by omega), hleft, hright]

theorem toInt_sub_sub {a b c : UInt64} (ha : a.toNat < 2 ^ 63) (hb : b.toNat < 2 ^ 63)
    (hc : c.toNat ≤ b.toNat) :
    (a.toInt64 - (b.toInt64 - c.toInt64)).toInt = a.toNat - (b.toNat - c.toNat : Int) := by
  have hleft := toInt_toInt64 ha
  have hright : (b.toInt64 - c.toInt64).toInt = b.toNat - c.toNat :=
    toInt_toInt64_sub hb (by omega)
  rw [toInt_sub (by omega) (by omega), hleft, hright]

end Word

namespace Indicators

variable {outcomes : Outcomes} {buckets : List Bucket} {stored : List (Nat × UInt64)}
  {range : AgeBand → Bucket} {code other : Nat} {count : UInt64}

/-- The outcomes of which only the number of documents is used. -/
def countedNames : List String :=
  [genderMissingName, stationMissingName, birthName 0, mailMissingName, phoneMissingName]

/-- They are asked for as groups, so their numbers are read and not added up. -/
theorem single_of_read {n : UInt64} {raw : Json}
    (hread : Aggregations.read (requests n) raw = .ok outcomes) {name : String}
    (hname : name ∈ countedNames) {outcome : Outcome}
    (hget : Named.get? name outcomes = some outcome) :
    ∃ count sub, outcome = .single count sub := by
  have hanswers := Aggregation.answersEach_of_readMembers _ _ _ hread
  obtain ⟨a, node, hmem, hanswer⟩ := hanswers.request_of_get? hget
  have hshape : a.kind.shape = .single := by
    simp only [requests, AgeBand.all, List.map_cons, List.map_nil, List.cons_append,
      List.nil_append, List.mem_cons, List.not_mem_nil, or_false, Prod.mk.injEq] at hmem
    rcases hmem with h | h | h | h | h | h | h | h | h | h | h | h | h | h | h
    all_goals
      obtain ⟨rfl, rfl⟩ := h
      first
        | rfl
        | exact absurd hname (by decide)
  obtain ⟨count, inner, hsingle, -⟩ := hanswer.group hshape
  exact ⟨count, inner, hsingle⟩

/-! ### Stored counts -/

theorem filter_eq_nil (hfresh : code ∉ stored.map Prod.fst) :
    stored.filter (fun entry => entry.1 = code) = [] := by
  rw [List.filter_eq_nil_iff]
  intro entry hmem hcode
  exact hfresh (of_decide_eq_true hcode ▸ List.mem_map_of_mem hmem)

theorem storedCount_eq_zero (hfresh : code ∉ stored.map Prod.fst) :
    storedCount stored code = 0 := by
  rw [storedCount, filter_eq_nil hfresh]
  rfl

theorem storedCount_cons_self (hfresh : code ∉ stored.map Prod.fst) :
    storedCount ((code, count) :: stored) code = count := by
  simp [storedCount, filter_eq_nil hfresh]

theorem storedCount_cons_of_ne (hne : other ≠ code) :
    storedCount ((other, count) :: stored) code = storedCount stored code := by
  simp [storedCount, hne]

/-- When no two entries have one code, adding up entry by entry or code by code is the same. -/
theorem sum_storedCount (hnodup : (stored.map Prod.fst).Nodup)
    (hcodes : ∀ entry ∈ stored, entry.1 ∈ ageCodes) :
    (ageCodes.map fun code => (storedCount stored code).toNat).sum =
      ((stored.map Prod.snd).map UInt64.toNat).sum := by
  induction stored with
  | nil => decide
  | cons entry rest ih =>
    obtain ⟨code, count⟩ := entry
    obtain ⟨hfresh, hnodup⟩ := List.nodup_cons.mp hnodup
    have hcode : code ∈ ageCodes := hcodes _ List.mem_cons_self
    have hrest := ih hnodup fun other hother => hcodes other (List.mem_cons_of_mem _ hother)
    have hothers : (ageCodes.erase code).map
          (fun other => (storedCount ((code, count) :: rest) other).toNat) =
        (ageCodes.erase code).map fun other => (storedCount rest other).toNat := by
      refine List.map_congr_left fun other hother => ?_
      have hne := ((List.nodup_range.mem_erase_iff).mp hother).1
      rw [storedCount_cons_of_ne (Ne.symm hne)]
    rw [List.map_cons, List.map_cons, List.sum_cons, ← hrest, ← List.sum_map_erase _ hcode, hothers,
      storedCount_cons_self hfresh, ← List.sum_map_erase _ hcode, storedCount_eq_zero hfresh]
    simp

/-! ### From buckets to stored counts -/

/-- Each bucket is stored under the code that its key names. -/
abbrev Stores (buckets : List Bucket) (stored : List (Nat × UInt64)) : Prop :=
  List.Forall₂ (fun b entry => ageCode b.keyText = .ok entry.1 ∧ entry.2 = b.count) buckets stored

/-- No two buckets name one code. -/
def Distinct (buckets : List Bucket) : Prop :=
  buckets.Pairwise fun b c => ∀ code, ageCode b.keyText = .ok code → ageCode c.keyText ≠ .ok code

/-- The count of the bucket that names a code, zero if there is none. -/
def categoryCount (buckets : List Bucket) (code : Nat) : Nat :=
  ((buckets.find? fun b => (ageCode b.keyText).toOption = some code).map
    fun b => b.count.toNat).getD 0

theorem storedAges_eq_ok :
    storedAges outcomes = .ok stored ↔ Stores (bucketsOf outcomes categoryName) stored := by
  have hstep : ∀ (b : Bucket) (entry : Nat × UInt64),
      (do return (← ageCode b.keyText, b.count) : Except Fault (Nat × UInt64)) = .ok entry ↔
        ageCode b.keyText = .ok entry.1 ∧ entry.2 = b.count := by
    rintro b ⟨code, count⟩
    rw [Steps.map_eq_ok]
    simp [eq_comm]
  rw [storedAges, Steps.mapM_eq_ok]
  simp only [hstep]

theorem toOption_eq_some {key : String} :
    (ageCode key).toOption = some code ↔ ageCode key = .ok code := by
  cases ageCode key <;> simp [Except.toOption]

theorem mem_ageCodes {key : String} (hcode : ageCode key = .ok code) : code ∈ ageCodes := by
  unfold ageCode at hcode
  split at hcode
  · rename_i hfind
    cases hcode
    obtain ⟨x, -, hfind⟩ := Option.bind_eq_some_iff.mp hfind
    exact List.mem_of_find?_eq_some hfind
  · cases hcode

theorem Stores.exists_bucket (hstores : Stores buckets stored) {entry : Nat × UInt64}
    (hmem : entry ∈ stored) : ∃ b ∈ buckets, ageCode b.keyText = .ok entry.1 := by
  obtain ⟨b, hb, hcode, -⟩ := exists_of_forall₂ hstores hmem
  exact ⟨b, hb, hcode⟩

theorem Stores.nodup (hstores : Stores buckets stored) (hdistinct : Distinct buckets) :
    (stored.map Prod.fst).Nodup := by
  induction hstores with
  | nil => exact List.nodup_nil
  | cons hfirst hrest ih =>
    obtain ⟨hothers, hdistinct⟩ := List.pairwise_cons.mp hdistinct
    refine List.nodup_cons.mpr ⟨?_, ih hdistinct⟩
    intro hmem
    obtain ⟨entry, hentry, hsame⟩ := List.mem_map.mp hmem
    obtain ⟨b, hb, hcode⟩ := Stores.exists_bucket hrest hentry
    exact hothers b hb _ hfirst.1 (hsame ▸ hcode)

theorem Stores.toNat_storedCount (hstores : Stores buckets stored) (hdistinct : Distinct buckets)
    (code : Nat) : (storedCount stored code).toNat = categoryCount buckets code := by
  induction hstores with
  | nil => rfl
  | @cons b entry buckets rest hfirst hrest ih =>
    obtain ⟨other, count⟩ := entry
    obtain ⟨hcode, rfl⟩ := hfirst
    have hfresh := (List.nodup_cons.mp (Stores.nodup (.cons ⟨hcode, rfl⟩ hrest) hdistinct)).1
    by_cases hother : other = code
    · subst hother
      rw [storedCount_cons_self hfresh]
      simp [categoryCount, hcode, Except.toOption]
    · rw [storedCount_cons_of_ne hother, ih (List.pairwise_cons.mp hdistinct).2]
      simp [categoryCount, hcode, Except.toOption, hother]

theorem Stores.sum_counts (hstores : Stores buckets stored) :
    (stored.map Prod.snd).map UInt64.toNat = buckets.map fun b => b.count.toNat := by
  induction hstores with
  | nil => rfl
  | cons hfirst _ ih =>
    rw [List.map_cons, List.map_cons, List.map_cons, ih, hfirst.2]

/-! ### Adding up -/

/-- The number of contacts without a birth date. -/
def withoutBirthdate (outcomes : Outcomes) : UInt64 := countOf outcomes (birthName 0)

/-- The buckets of the stored categories. -/
def categories (outcomes : Outcomes) : List Bucket := bucketsOf outcomes categoryName

/-- The sum of all stored counts. -/
abbrev storedSum (stored : List (Nat × UInt64)) : UInt64 := sumOf (stored.map Prod.snd)

/-- Outcomes whose ages add up: one bucket in the window of each band, a code of its own for each
stored category, and counts that fit into a signed word together. -/
structure AddUp (outcomes : Outcomes) (range : AgeBand → Bucket) : Prop where
  window : ∀ band, bucketsOf outcomes (birthName band.code) = [range band]
  coded : ∀ b ∈ categories outcomes, ∃ code, ageCode b.keyText = .ok code
  distinct : Distinct (categories outcomes)
  bounded : (withoutBirthdate outcomes).toNat +
    ((categories outcomes).map fun b => b.count.toNat).sum +
      (AgeBand.all.map fun band => (range band).count.toNat).sum ≤ 2 ^ 63 - 1

/-- Every word that is computed on the way to the ages is the number that it stands for. -/
structure NoOverflow (outcomes : Outcomes) (range : AgeBand → Bucket)
    (stored : List (Nat × UInt64)) : Prop where
  /-- The stored counts are added up one after the other. -/
  running : ∀ k, (storedSum (stored.take k)).toNat =
    (((stored.take k).map Prod.snd).map UInt64.toNat).sum
  /-- The count of the unknown is part of the sum that it is taken away from. -/
  below : storedCount stored 0 ≤ storedSum stored
  signed : ∀ count ∈ [withoutBirthdate outcomes, storedSum stored, storedCount stored 0],
    count.toInt64.toInt = count.toNat
  known : ((storedSum stored).toInt64 - (storedCount stored 0).toInt64).toInt =
    (storedSum stored).toNat - (storedCount stored 0).toNat
  unknown : ((withoutBirthdate outcomes).toInt64 -
      ((storedSum stored).toInt64 - (storedCount stored 0).toInt64)).toInt =
    (withoutBirthdate outcomes).toNat -
      ((storedSum stored).toNat - (storedCount stored 0).toNat : Int)
  banded : ∀ band, ((range band).count + storedCount stored band.code).toNat =
    (range band).count.toNat + (storedCount stored band.code).toNat
  signedBanded : ∀ band, ((range band).count + storedCount stored band.code).toInt64.toInt =
    (range band).count.toNat + (storedCount stored band.code).toNat
  /-- The other counts are those of groups and no sums. -/
  counted : ∀ name ∈ countedNames, ∀ outcome, Named.get? name outcomes = some outcome →
    ∃ count sub, outcome = .single count sub

/-- The stored counts of the unknown and of the bands are all there are. -/
theorem Stores.sum_eq (hstores : Stores buckets stored) (hdistinct : Distinct buckets) :
    (storedCount stored 0).toNat +
        (AgeBand.all.map fun band => (storedCount stored band.code).toNat).sum =
      ((stored.map Prod.snd).map UInt64.toNat).sum := by
  have hcodes : ∀ entry ∈ stored, entry.1 ∈ ageCodes := by
    intro entry hmem
    obtain ⟨b, -, hcode⟩ := hstores.exists_bucket hmem
    exact mem_ageCodes hcode
  have hall : ageCodes = 0 :: AgeBand.all.map AgeBand.code := by decide
  rw [← sum_storedCount (hstores.nodup hdistinct) hcodes, hall, List.map_cons, List.sum_cons,
    List.map_map]
  rfl

/-- Only a bucket whose key names no code keeps the stored counts from being read. -/
theorem exists_storedAges
    (hcoded : ∀ b ∈ categories outcomes, ∃ code, ageCode b.keyText = .ok code) :
    ∃ stored, storedAges outcomes = .ok stored ∧ Stores (categories outcomes) stored := by
  have hok : ∀ b ∈ categories outcomes, ∃ entry,
      (do return (← ageCode b.keyText, b.count) : Except Fault (Nat × UInt64)) = .ok entry := by
    intro b hb
    obtain ⟨code, hcode⟩ := hcoded b hb
    exact ⟨_, Steps.map_eq_ok.mpr ⟨code, hcode, rfl⟩⟩
  obtain ⟨stored, hstored⟩ := Steps.exists_mapM_eq_ok.mpr hok
  exact ⟨stored, hstored, storedAges_eq_ok.mp hstored⟩

theorem AddUp.exists_stored (h : AddUp outcomes range) :
    ∃ stored, storedAges outcomes = .ok stored ∧ Stores (categories outcomes) stored :=
  exists_storedAges h.coded

theorem le_sum_bands (count : AgeBand → Nat) (band : AgeBand) :
    count band ≤ (AgeBand.all.map count).sum :=
  List.single_le_sum (fun _ _ => Nat.zero_le _) _ (List.mem_map_of_mem (AgeBand.mem_all band))

theorem AddUp.sum_le (h : AddUp outcomes range) (hstores : Stores (categories outcomes) stored) :
    (withoutBirthdate outcomes).toNat + ((stored.map Prod.snd).map UInt64.toNat).sum +
      (AgeBand.all.map fun band => (range band).count.toNat).sum ≤ 2 ^ 63 - 1 := by
  rw [hstores.sum_counts]
  exact h.bounded

theorem AddUp.toNat_storedSum_take (h : AddUp outcomes range)
    (hstores : Stores (categories outcomes) stored) (k : Nat) :
    (storedSum (stored.take k)).toNat =
      (((stored.take k).map Prod.snd).map UInt64.toNat).sum := by
  have hbound := h.sum_le hstores
  have htake := (((stored.take_sublist k).map Prod.snd).map UInt64.toNat).sum_le_sum
    fun _ _ => Nat.zero_le _
  exact Pivot.toNat_sumOf (by omega)

theorem AddUp.band_lt (h : AddUp outcomes range) (hstores : Stores (categories outcomes) stored)
    (band : AgeBand) :
    (range band).count.toNat + (storedCount stored band.code).toNat < 2 ^ 63 := by
  have hbound := h.sum_le hstores
  have hsplit := hstores.sum_eq h.distinct
  have hrange := le_sum_bands (fun band => (range band).count.toNat) band
  have hcount := le_sum_bands (fun band => (storedCount stored band.code).toNat) band
  omega

/-- Below the bound no word wraps around. -/
theorem AddUp.noOverflow (h : AddUp outcomes range)
    (hstores : Stores (categories outcomes) stored)
    (hcounted : ∀ name ∈ countedNames, ∀ outcome, Named.get? name outcomes = some outcome →
      ∃ count sub, outcome = .single count sub) : NoOverflow outcomes range stored := by
  have hbound := h.sum_le hstores
  have hsplit := hstores.sum_eq h.distinct
  have hsum := h.toNat_storedSum_take hstores stored.length
  rw [List.take_length] at hsum
  have hadd : ∀ band, ((range band).count + storedCount stored band.code).toNat =
      (range band).count.toNat + (storedCount stored band.code).toNat :=
    fun band => Word.toNat_add ((h.band_lt hstores band).trans (by decide))
  have hknown : ((storedSum stored).toInt64 - (storedCount stored 0).toInt64).toInt =
      (storedSum stored).toNat - (storedCount stored 0).toNat :=
    Word.toInt_toInt64_sub (by omega) (by omega)
  refine ⟨h.toNat_storedSum_take hstores, ?_, ?_, hknown, ?_, hadd, ?_, hcounted⟩
  · rw [UInt64.le_iff_toNat_le]
    omega
  · intro count hmem
    simp only [List.mem_cons, List.not_mem_nil, or_false] at hmem
    rcases hmem with rfl | rfl | rfl
    all_goals exact Word.toInt_toInt64 (by omega)
  · exact Word.toInt_sub_sub (by omega) (by omega) (by omega)
  · exact fun band => Word.toInt_toInt64_add (h.band_lt hstores band)

theorem ageEntries_of_stored (hstored : storedAges outcomes = .ok stored) :
    ageEntries outcomes = .ok (
      ⟨AgeBand.unknownCode, (withoutBirthdate outcomes).toInt64 -
        ((storedSum stored).toInt64 - (storedCount stored 0).toInt64)⟩ ::
      AgeBand.all.flatMap fun band => (bucketsOf outcomes (birthName band.code)).map fun b =>
        ⟨band.codeText, (b.count + storedCount stored band.code).toInt64⟩) := by
  rw [ageEntries, hstored]
  rfl

theorem AddUp.ageEntries_eq (h : AddUp outcomes range)
    (hstored : storedAges outcomes = .ok stored) :
    ageEntries outcomes = .ok (
      ⟨AgeBand.unknownCode, (withoutBirthdate outcomes).toInt64 -
        ((storedSum stored).toInt64 - (storedCount stored 0).toInt64)⟩ ::
      AgeBand.all.map fun band =>
        ⟨band.codeText, ((range band).count + storedCount stored band.code).toInt64⟩) := by
  rw [ageEntries_of_stored hstored]
  simp only [h.window, List.map_cons, List.map_nil, ← List.map_eq_flatMap]

theorem sum_toInt (count : AgeBand → Nat) :
    (((AgeBand.all.map count).sum : Nat) : Int) =
      (AgeBand.all.map fun band => (count band : Int)).sum := by
  rw [Nat.cast_list_sum, List.map_map]
  rfl

/-- The ages are counted without overflow, and the stored categories move contacts between the ages
without adding any: the counts add up to the contacts without a birth date and those in the windows
of the bands. -/
theorem ages_conserve_contacts {n : UInt64} {raw : Json}
    (hread : Aggregations.read (requests n) raw = .ok outcomes) (h : AddUp outcomes range)
    (total : UInt64) :
    ∃ found entries stored, blocks total outcomes = .ok found ∧
      found.filter (fun block => block.name = "agecategory") = [⟨"agecategory", entries⟩] ∧
      entries.map Entry.key = ["0", "1", "2", "3", "4", "5", "6"] ∧
      entries.map (fun e => e.count.toInt) =
        (let category (band : AgeBand) : Int := categoryCount (categories outcomes) band.code
        ((withoutBirthdate outcomes).toNat - (AgeBand.all.map category).sum) ::
          AgeBand.all.map fun band => (range band).count.toNat + category band) ∧
      (entries.map fun e => e.count.toInt).sum = (withoutBirthdate outcomes).toNat +
        (AgeBand.all.map fun band => ((range band).count.toNat : Int)).sum ∧
      storedAges outcomes = .ok stored ∧ NoOverflow outcomes range stored := by
  obtain ⟨stored, hstored, hstores⟩ := h.exists_stored
  have hentries := h.ageEntries_eq hstored
  have hexact := h.noOverflow hstores fun name hname outcome hget => single_of_read hread hname hget
  have hcount : ∀ band : AgeBand, (storedCount stored band.code).toNat =
      categoryCount (categories outcomes) band.code :=
    fun band => hstores.toNat_storedCount h.distinct band.code
  have hcounts : ((withoutBirthdate outcomes).toNat : Int) -
      ((storedSum stored).toNat - (storedCount stored 0).toNat : Int) =
      (withoutBirthdate outcomes).toNat -
        (AgeBand.all.map fun band =>
          (categoryCount (categories outcomes) band.code : Int)).sum := by
    have hsplit := hstores.sum_eq h.distinct
    have hsum := h.toNat_storedSum_take hstores stored.length
    rw [List.take_length] at hsum
    simp only [hcount] at hsplit
    rw [← sum_toInt]
    omega
  refine ⟨_, _, stored, Steps.map_eq_ok.mpr ⟨_, hentries, rfl⟩, rfl, rfl, ?_, ?_, hstored, hexact⟩
  · rw [List.map_cons, List.map_map, hexact.unknown, hcounts]
    simp only [Function.comp_def, hexact.signedBanded, hcount]
  · rw [List.map_cons, List.map_map, List.sum_cons, hexact.unknown, hcounts]
    simp only [Function.comp_def, hexact.signedBanded, hcount, List.sum_map_add]
    omega

/-- Stored categories in other spellings and in no order, one more than there are contacts without a
birth date among them. -/
theorem ages_conserve_contacts_spellings :
    let group (count : Int) : Json := .object [("doc_count", .integer count)]
    let window (count : Int) : Json := .object [("buckets", .list [group count])]
    let category (key : Json) (count : Int) : Json :=
      .object [("key", key), ("doc_count", .integer count)]
    let raw : Json := .object [
      ("agecategory_aggreg", .object [("buckets", .list [category (.text "3.0") 4,
        category (.integer 0) 2, category (.text "1") 5])]),
      ("0_aggreg", group 8), ("1_aggreg", window 10), ("2_aggreg", window 20),
      ("3_aggreg", window 30), ("4_aggreg", window 40), ("5_aggreg", window 50),
      ("6_aggreg", window 60)]
    ∃ outcomes found entries, Aggregations.read (requests 500) raw = .ok outcomes ∧
      blocks 210 outcomes = .ok found ∧
      found.filter (fun block => block.name = "agecategory") = [⟨"agecategory", entries⟩] ∧
      entries.map (fun e => e.count.toInt) = [-1, 15, 20, 34, 40, 50, 60] := by
  intro group window category raw
  let first : Bucket := ⟨.text "3.0", none, 4, []⟩
  let second : Bucket := ⟨.integer 0, none, 2, []⟩
  let third : Bucket := ⟨.text "1", none, 5, []⟩
  let range : AgeBand → Bucket := fun band => ⟨.null, none, 10 * band.code.toUInt64, []⟩
  obtain ⟨outcomes, hread, hwindow, hcategories, hmissing⟩ : ∃ outcomes,
      Aggregations.read (requests 500) raw = .ok outcomes ∧
        (∀ band, bucketsOf outcomes (birthName band.code) = [range band]) ∧
          categories outcomes = [first, second, third] ∧ withoutBirthdate outcomes = 8 := by
    refine ⟨_, rfl, ?_, rfl, rfl⟩
    intro band
    cases band <;> rfl
  have hfirst : ageCode first.keyText = .ok 3 := toOption_eq_some.mp (by decide +kernel)
  have hsecond : ageCode second.keyText = .ok 0 := toOption_eq_some.mp (by decide +kernel)
  have hthird : ageCode third.keyText = .ok 1 := toOption_eq_some.mp (by decide +kernel)
  have haddUp : AddUp outcomes range := by
    refine ⟨hwindow, ?_, ?_, ?_⟩
    · simp [hcategories, hfirst, hsecond, hthird]
    · simp [hcategories, Distinct, hfirst, hsecond, hthird]
    · rw [hcategories, hmissing]
      decide
  obtain ⟨found, entries, -, hblocks, hfound, -, hcounts, -⟩ :=
    ages_conserve_contacts hread haddUp 210
  refine ⟨outcomes, found, entries, hread, hblocks, hfound, ?_⟩
  have hcategory : ∀ band : AgeBand, categoryCount [first, second, third] band.code =
      if band = .under18 then 5 else if band = .from25 then 4 else 0 := by
    intro band
    cases band <;>
      simp [categoryCount, hfirst, hsecond, hthird, Except.toOption, AgeBand.code, first, third]
  rw [hcounts, hmissing, hcategories]
  simp only [hcategory]
  rfl

end Indicators

end Outreach
