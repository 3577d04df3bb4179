import Outreach.Proofs.Report.Ages
import Outreach.Proofs.Report.Facets
import Outreach.Proofs.Selection.Reading

/-!
# Ages when categories share a code

Two stored categories may spell one code in two ways. The sum of the stored counts has both of their
counts, while the code keeps the last one alone; the counts before it are overwritten. So a band
counts too few by what was overwritten under its code, the unknown are too few by what was
overwritten under theirs, and the ages do not depend on the order of the categories as long as
nothing is overwritten.
-/

namespace Outreach

namespace Indicators

variable {outcomes others : Outcomes} {b : Bucket} {buckets : List Bucket}
  {stored : List (Nat × UInt64)} {code : Nat} {band : AgeBand}

/-- The counts of the buckets that name a code, in their order. -/
def countsFor (buckets : List Bucket) (code : Nat) : List Nat :=
  (buckets.filter fun b => (ageCode b.keyText).toOption = some code).map fun b => b.count.toNat

def categoryTotal (buckets : List Bucket) (code : Nat) : Nat := (countsFor buckets code).sum

/-- What is lost of a code's counts: all but the last. -/
def overwritten (buckets : List Bucket) (code : Nat) : Nat := (countsFor buckets code).dropLast.sum

/-- Outcomes whose stored categories all name a code, maybe one code several times, and whose counts
of ages fit into a signed word together. -/
structure Counted (outcomes : Outcomes) : Prop where
  coded : ∀ b ∈ categories outcomes, ∃ code, ageCode b.keyText = .ok code
  bounded : (withoutBirthdate outcomes).toNat +
    ((categories outcomes).map fun b => b.count.toNat).sum +
      ((AgeBand.all.flatMap fun band => bucketsOf outcomes (birthName band.code)).map
        fun b => b.count.toNat).sum ≤ 2 ^ 63 - 1

/-! ### Counts for a code -/

theorem countsFor_cons_self (hcode : ageCode b.keyText = .ok code) :
    countsFor (b :: buckets) code = b.count.toNat :: countsFor buckets code := by
  rw [countsFor, List.filter_cons, if_pos (decide_eq_true (toOption_eq_some.mpr hcode)),
    List.map_cons, countsFor]

theorem countsFor_cons_of_ne (hcode : ageCode b.keyText = .ok code) {other : Nat}
    (hne : other ≠ code) : countsFor (b :: buckets) other = countsFor buckets other := by
  have hother : ¬(ageCode b.keyText).toOption = some other := by
    rw [toOption_eq_some, hcode]
    exact fun h => hne (Except.ok.inj h).symm
  rw [countsFor, List.filter_cons_of_neg (by rw [decide_eq_true_eq]; exact hother), countsFor]

theorem categoryTotal_cons (hcode : ageCode b.keyText = .ok code) (other : Nat) :
    categoryTotal (b :: buckets) other =
      (if other = code then b.count.toNat else 0) + categoryTotal buckets other := by
  by_cases hother : other = code
  · subst hother
    rw [if_pos rfl, categoryTotal, countsFor_cons_self hcode, List.sum_cons, categoryTotal]
  · rw [if_neg hother, categoryTotal, countsFor_cons_of_ne hcode hother, Nat.zero_add,
      categoryTotal]

/-- A count goes to one code. -/
theorem sum_ite_code (hcode : code ∈ ageCodes) (count : Nat) :
    (ageCodes.map fun other => if other = code then count else 0).sum = count := by
  show ∑ other ∈ Finset.range 7, (if other = code then count else 0) = count
  rw [Finset.sum_ite_eq', if_pos (Finset.mem_range.mpr (List.mem_range.mp hcode))]

/-- Code by code the counts are those of all buckets, however many of them share a code. -/
theorem sum_categoryTotal (hcoded : ∀ b ∈ buckets, ∃ code, ageCode b.keyText = .ok code) :
    (ageCodes.map (categoryTotal buckets)).sum = (buckets.map fun b => b.count.toNat).sum := by
  induction buckets with
  | nil => decide
  | cons b rest ih =>
    obtain ⟨⟨code, hcode⟩, hcoded⟩ := List.forall_mem_cons.mp hcoded
    have hsplit : categoryTotal (b :: rest) = fun other =>
        (if other = code then b.count.toNat else 0) + categoryTotal rest other :=
      funext (categoryTotal_cons hcode)
    rw [hsplit, List.sum_map_add, sum_ite_code (mem_ageCodes hcode), ih hcoded, List.map_cons,
      List.sum_cons]

theorem sum_bands_add (hcoded : ∀ b ∈ buckets, ∃ code, ageCode b.keyText = .ok code) :
    categoryTotal buckets 0 + (AgeBand.all.map fun band => categoryTotal buckets band.code).sum =
      (buckets.map fun b => b.count.toNat).sum := by
  have hall : ageCodes = 0 :: AgeBand.all.map AgeBand.code := by decide
  rw [← sum_categoryTotal hcoded, hall, List.map_cons, List.sum_cons, List.map_map]
  rfl

theorem categoryTotal_perm {again : List Bucket} (hperm : again.Perm buckets) (code : Nat) :
    categoryTotal again code = categoryTotal buckets code :=
  ((hperm.filter _).map _).sum_eq

/-! ### The count that is kept -/

theorem Stores.countsFor_eq (hstores : Stores buckets stored) (code : Nat) :
    countsFor buckets code =
      (stored.filter fun entry => entry.1 = code).map fun entry => entry.2.toNat := by
  induction hstores with
  | nil => rfl
  | @cons b entry buckets rest hfirst _ ih =>
    obtain ⟨other, count⟩ := entry
    obtain ⟨hcode, rfl⟩ := hfirst
    by_cases hother : other = code
    · subst hother
      rw [countsFor_cons_self hcode, ih, List.filter_cons, if_pos (decide_eq_true rfl),
        List.map_cons]
    · rw [countsFor_cons_of_ne hcode (Ne.symm hother), ih, List.filter_cons_of_neg (by simpa)]

theorem last_add_dropLast_sum (counts : List Nat) :
    counts.getLast?.getD 0 + counts.dropLast.sum = counts.sum := by
  cases hlast : counts.getLast? with
  | none => simp [List.getLast?_eq_none_iff.mp hlast]
  | some last =>
    have hsplit : counts.dropLast ++ [last] = counts := List.dropLast_append_getLast? last hlast
    rw [Option.getD_some, ← hsplit, List.dropLast_concat, List.sum_append, List.sum_singleton,
      Nat.add_comm]

/-- Of the counts for a code, one is kept and the others are overwritten. -/
theorem Stores.storedCount_add_overwritten (hstores : Stores buckets stored) (code : Nat) :
    (storedCount stored code).toNat + overwritten buckets code = categoryTotal buckets code := by
  have hkept : (storedCount stored code).toNat = (countsFor buckets code).getLast?.getD 0 := by
    rw [hstores.countsFor_eq, List.getLast?_map, storedCount]
    cases (stored.filter fun entry => entry.1 = code).getLast? <;> rfl
  rw [hkept, overwritten, categoryTotal, last_add_dropLast_sum]

theorem Distinct.overwritten_eq_zero (h : Distinct buckets) (code : Nat) :
    overwritten buckets code = 0 := by
  induction buckets with
  | nil => rfl
  | cons b rest ih =>
    obtain ⟨hfirst, hrest⟩ := List.pairwise_cons.mp h
    by_cases hcode : ageCode b.keyText = .ok code
    · have hnone : countsFor rest code = [] := by
        rw [countsFor, List.map_eq_nil_iff, List.filter_eq_nil_iff]
        intro c hc hsame
        exact hfirst c hc code hcode (toOption_eq_some.mp (of_decide_eq_true hsame))
      rw [overwritten, countsFor_cons_self hcode, hnone]
      rfl
    · rw [overwritten, countsFor, List.filter_cons_of_neg]
      · exact ih hrest
      · rw [decide_eq_true_eq, toOption_eq_some]
        exact hcode

/-! ### The entries of the ages -/

theorem key_of_mem_banded {e : Entry}
    (he : e ∈ (bucketsOf outcomes (birthName band.code)).map fun b =>
      (⟨band.codeText, (b.count + storedCount stored band.code).toInt64⟩ : Entry)) :
    e.key = band.codeText := by
  obtain ⟨b, -, rfl⟩ := List.mem_map.mp he
  rfl

/-- Entries that are listed band by band under the codes of the bands, found under one code. -/
theorem filter_banded {banded : AgeBand → List Entry}
    (hkeys : ∀ band, ∀ e ∈ banded band, e.key = band.codeText) (band : AgeBand) :
    (AgeBand.all.flatMap banded).filter (fun e => e.key = band.codeText) = banded band := by
  have hone : ∀ other, (banded other).filter (fun e => e.key = band.codeText) =
      if other = band then banded band else [] := by
    intro other
    by_cases hother : other = band
    · subst hother
      rw [if_pos rfl, List.filter_eq_self]
      exact fun e he => decide_eq_true (hkeys other e he)
    · rw [if_neg hother, List.filter_eq_nil_iff]
      intro e he hkey
      have hcode := (hkeys other e he).symm.trans (of_decide_eq_true hkey)
      exact hother (AgeBand.codeText_injective hcode)
  rw [List.filter_flatMap]
  simp only [hone]
  cases band <;> simp [AgeBand.all]

theorem unknown_of_ageEntries {entries : List Entry} (hentries : ageEntries outcomes = .ok entries)
    (hstored : storedAges outcomes = .ok stored) :
    entries.filter (fun e => e.key = AgeBand.unknownCode) =
      [⟨AgeBand.unknownCode, (withoutBirthdate outcomes).toInt64 -
        ((storedSum stored).toInt64 - (storedCount stored 0).toInt64)⟩] := by
  cases (ageEntries_of_stored hstored).symm.trans hentries
  rw [List.filter_cons, if_pos (decide_eq_true rfl), List.filter_eq_nil_iff.mpr]
  intro e he hkey
  obtain ⟨band, -, he⟩ := List.mem_flatMap.mp he
  exact band.codeText_ne_unknownCode ((key_of_mem_banded he).symm.trans (of_decide_eq_true hkey))

theorem band_of_ageEntries {entries : List Entry} (hentries : ageEntries outcomes = .ok entries)
    (hstored : storedAges outcomes = .ok stored) (band : AgeBand) :
    entries.filter (fun e => e.key = band.codeText) =
      (bucketsOf outcomes (birthName band.code)).map fun b =>
        ⟨band.codeText, (b.count + storedCount stored band.code).toInt64⟩ := by
  cases (ageEntries_of_stored hstored).symm.trans hentries
  have hunknown : ¬AgeBand.unknownCode = band.codeText := band.codeText_ne_unknownCode.symm
  rw [List.filter_cons, if_neg (by rwa [decide_eq_true_eq]),
    filter_banded (fun band e he => key_of_mem_banded he)]

/-! ### Within the bound -/

theorem code_mem_ageCodes (band : AgeBand) : band.code ∈ ageCodes := by
  cases band <;> decide

theorem Counted.window_le (h : Counted outcomes)
    (hb : b ∈ bucketsOf outcomes (birthName band.code)) :
    b.count.toNat + ((categories outcomes).map fun b => b.count.toNat).sum +
      (withoutBirthdate outcomes).toNat ≤ 2 ^ 63 - 1 := by
  have hmem : b ∈ AgeBand.all.flatMap fun band => bucketsOf outcomes (birthName band.code) :=
    List.mem_flatMap.mpr ⟨band, AgeBand.mem_all band, hb⟩
  have hle := List.single_le_sum (fun _ _ => Nat.zero_le _) _
    (List.mem_map_of_mem (f := fun b : Bucket => b.count.toNat) hmem)
  have hbound := h.bounded
  omega

theorem categoryTotal_le (hcoded : ∀ b ∈ buckets, ∃ code, ageCode b.keyText = .ok code)
    (hcode : code ∈ ageCodes) :
    categoryTotal buckets code ≤ (buckets.map fun b => b.count.toNat).sum := by
  rw [← sum_categoryTotal hcoded]
  exact List.single_le_sum (fun _ _ => Nat.zero_le _) _ (List.mem_map_of_mem hcode)

theorem Stores.toNat_storedSum (hstores : Stores buckets stored)
    (hsum : (buckets.map fun b => b.count.toNat).sum < 2 ^ 64) :
    (storedSum stored).toNat = (buckets.map fun b => b.count.toNat).sum := by
  rw [← hstores.sum_counts] at hsum ⊢
  exact Pivot.toNat_sumOf hsum

/-- The unknown are those without a birth date, less all stored counts of bands and less what is
overwritten under the code of the unknown. -/
theorem Counted.toInt_unknown (h : Counted outcomes)
    (hstores : Stores (categories outcomes) stored) :
    ((withoutBirthdate outcomes).toInt64 -
        ((storedSum stored).toInt64 - (storedCount stored 0).toInt64)).toInt =
      (withoutBirthdate outcomes).toNat -
        ((AgeBand.all.map fun band => categoryTotal (categories outcomes) band.code).sum : Nat) -
          overwritten (categories outcomes) 0 := by
  have hbound := h.bounded
  have hsum := hstores.toNat_storedSum (by omega)
  have hsplit := sum_bands_add h.coded
  have hkept := hstores.storedCount_add_overwritten 0
  rw [Word.toInt_sub_sub (by omega) (by omega) (by omega)]
  omega

/-- A band has its own count and the counts stored for it, without those that are overwritten. -/
theorem Counted.toInt_band (h : Counted outcomes) (hstores : Stores (categories outcomes) stored)
    (hb : b ∈ bucketsOf outcomes (birthName band.code)) :
    (b.count + storedCount stored band.code).toInt64.toInt =
      b.count.toNat + categoryTotal (categories outcomes) band.code -
        overwritten (categories outcomes) band.code := by
  have hwindow := h.window_le hb
  have htotal := categoryTotal_le h.coded (code_mem_ageCodes band)
  have hkept := hstores.storedCount_add_overwritten band.code
  rw [Word.toInt_toInt64_add (by omega)]
  omega

/-! ### Categories in another order -/

/-- Where nothing is overwritten, the kept count is the total, which has no order. -/
theorem Stores.storedCount_eq_of_perm {again : List Bucket} {storedAgain : List (Nat × UInt64)}
    (hstores : Stores buckets stored) (hagain : Stores again storedAgain)
    (hperm : again.Perm buckets) (hkept : overwritten buckets code = 0)
    (hkeptAgain : overwritten again code = 0) :
    storedCount storedAgain code = storedCount stored code := by
  have hcount := hstores.storedCount_add_overwritten code
  have hcountAgain := hagain.storedCount_add_overwritten code
  rw [categoryTotal_perm hperm] at hcountAgain
  exact UInt64.toNat_inj.mp (by omega)

theorem Stores.storedSum_eq_of_perm {again : List Bucket} {storedAgain : List (Nat × UInt64)}
    (hstores : Stores buckets stored) (hagain : Stores again storedAgain)
    (hperm : again.Perm buckets)
    (hsum : (buckets.map fun b => b.count.toNat).sum < 2 ^ 64) :
    storedSum storedAgain = storedSum stored := by
  have hsame := (hperm.map fun b => b.count.toNat).sum_eq
  have hagainSum := hagain.toNat_storedSum (by omega)
  exact UInt64.toNat_inj.mp (by rw [hagainSum, hstores.toNat_storedSum hsum, hsame])

/-- The same contacts by birth date, and the same stored categories in some order. -/
structure Reordered (outcomes others : Outcomes) : Prop where
  alike : ∀ code ∈ ageCodes, Alike outcomes others (birthName code)
  perm : (categories others).Perm (categories outcomes)

theorem Counted.ageEntries_eq_of_reordered (h : Counted outcomes) (hsame : Reordered outcomes others)
    (hkept : ∀ code ∈ ageCodes, overwritten (categories outcomes) code = 0 ∧
      overwritten (categories others) code = 0) : ageEntries others = ageEntries outcomes := by
  obtain ⟨stored, hstored, hstores⟩ := exists_storedAges h.coded
  obtain ⟨storedAgain, hstoredAgain, hagain⟩ :=
    exists_storedAges fun b hb => h.coded b (hsame.perm.mem_iff.mp hb)
  have hbound := h.bounded
  have hsum := hstores.storedSum_eq_of_perm hagain hsame.perm (by omega)
  have hcount : ∀ code ∈ ageCodes, storedCount storedAgain code = storedCount stored code :=
    fun code hcode =>
      hstores.storedCount_eq_of_perm hagain hsame.perm (hkept code hcode).1 (hkept code hcode).2
  have hmissing : withoutBirthdate others = withoutBirthdate outcomes :=
    (hsame.alike 0 (by decide)).count.symm
  have hwindow : ∀ band : AgeBand,
      bucketsOf others (birthName band.code) = bucketsOf outcomes (birthName band.code) :=
    fun band => (hsame.alike _ (code_mem_ageCodes band)).buckets.symm
  rw [ageEntries_of_stored hstored, ageEntries_of_stored hstoredAgain, hsum, hmissing,
    hcount 0 (by decide)]
  simp only [hwindow, hcount _ (code_mem_ageCodes _)]

/-- A shared code costs the ages every count for it but the last. The ages are the totals of the
stored counts less what is overwritten; where that is nothing, as it is when no code is shared, the
order of the categories does not matter. -/
theorem ages_of_shared_codes (h : Counted outcomes) (total : UInt64) :
    let category (code : Nat) : Int := categoryTotal (categories outcomes) code
    let lost (code : Nat) : Int := overwritten (categories outcomes) code
    ∃ report entries, blocks total outcomes = .ok report ∧
      blockOf "agecategory" report = some ⟨"agecategory", entries⟩ ∧
      (∃ e, entries.filter (fun e => e.key = "0") = [e] ∧
        e.count.toInt = (withoutBirthdate outcomes).toNat -
          (AgeBand.all.map fun band => category band.code).sum - lost 0) ∧
      (∀ (band : AgeBand) b, bucketsOf outcomes (birthName band.code) = [b] →
        ∃ e, entries.filter (fun e => e.key = band.codeText) = [e] ∧
          e.count.toInt = b.count.toNat + category band.code - lost band.code) ∧
      (Distinct (categories outcomes) → ∀ code, lost code = 0) ∧
      ∀ others another, Reordered outcomes others →
        (∀ code ∈ ageCodes, overwritten (categories outcomes) code = 0 ∧
          overwritten (categories others) code = 0) →
        ∃ second, blocks another others = .ok second ∧
          blockOf "agecategory" second = blockOf "agecategory" report := by
  intro category lost
  obtain ⟨stored, hstored, hstores⟩ := exists_storedAges h.coded
  obtain ⟨entries, hentries⟩ : ∃ entries, ageEntries outcomes = .ok entries :=
    ⟨_, ageEntries_of_stored hstored⟩
  refine ⟨_, entries, Steps.map_eq_ok.mpr ⟨_, hentries, rfl⟩, rfl, ?_, ?_, ?_, ?_⟩
  · refine ⟨_, unknown_of_ageEntries hentries hstored, ?_⟩
    rw [h.toInt_unknown hstores, sum_toInt]
  · intro band b hb
    have hband := band_of_ageEntries hentries hstored band
    rw [hb] at hband
    exact ⟨_, hband, h.toInt_band hstores (hb ▸ List.mem_singleton_self b)⟩
  · intro hdistinct code
    exact Nat.cast_eq_zero.mpr (hdistinct.overwritten_eq_zero code)
  · intro others another hsame hkept
    have hagain := (h.ageEntries_eq_of_reordered hsame hkept).trans hentries
    exact ⟨_, Steps.map_eq_ok.mpr ⟨_, hagain, rfl⟩, rfl⟩

/-- Two spellings of one code and two of the unknown; and again a code twice, with nothing to lose
in either order. -/
theorem ages_of_shared_codes_spellings :
    let category (key : String) (count : UInt64) : Bucket := ⟨.text key, none, count, []⟩
    let outcomes (buckets : List Bucket) : Outcomes :=
      [(categoryName, .buckets buckets), (birthName 0, .single 20 []),
        (birthName 3, .buckets [⟨.null, none, 10, []⟩])]
    let lossy := outcomes [category "3" 4, category "0" 1, category "3.0" 2, category "0.0" 5]
    let kept := outcomes [category "3" 0, category "3.0" 6, category "1" 2]
    let moved := outcomes [category "1" 2, category "3" 0, category "3.0" 6]
    (∃ report entries, blocks 100 lossy = .ok report ∧
      blockOf "agecategory" report = some ⟨"agecategory", entries⟩ ∧
      (entries.filter fun e => e.key = "0").map (fun e => e.count.toInt) = [13] ∧
      (entries.filter fun e => e.key = "3").map (fun e => e.count.toInt) = [12]) ∧
    ∃ report second, blocks 100 kept = .ok report ∧ blocks 90 moved = .ok second ∧
      blockOf "agecategory" second = blockOf "agecategory" report := by
  intro category outcomes lossy kept moved
  have hzero : ageCode "0" = .ok 0 := toOption_eq_some.mp (by decide +kernel)
  have hzeroPoint : ageCode "0.0" = .ok 0 := toOption_eq_some.mp (by decide +kernel)
  have hone : ageCode "1" = .ok 1 := toOption_eq_some.mp (by decide +kernel)
  have hthree : ageCode "3" = .ok 3 := toOption_eq_some.mp (by decide +kernel)
  have hthreePoint : ageCode "3.0" = .ok 3 := toOption_eq_some.mp (by decide +kernel)
  have hlossy : Counted lossy := by
    refine ⟨?_, by decide⟩
    change ∀ b ∈ [category "3" 4, category "0" 1, category "3.0" 2, category "0.0" 5], _
    simp only [List.forall_mem_cons]
    exact ⟨⟨3, hthree⟩, ⟨0, hzero⟩, ⟨3, hthreePoint⟩, ⟨0, hzeroPoint⟩, nofun⟩
  have hkept : Counted kept := by
    refine ⟨?_, by decide⟩
    change ∀ b ∈ [category "3" 0, category "3.0" 6, category "1" 2], _
    simp only [List.forall_mem_cons]
    exact ⟨⟨3, hthree⟩, ⟨3, hthreePoint⟩, ⟨1, hone⟩, nofun⟩
  refine ⟨?_, ?_⟩
  · obtain ⟨report, entries, hreport, hblock, ⟨unknown, hunknown, hcount⟩, hbands, -, -⟩ :=
      ages_of_shared_codes hlossy 100
    obtain ⟨band, hband, hbandCount⟩ := hbands .from25 ⟨.null, none, 10, []⟩ rfl
    refine ⟨report, entries, hreport, hblock, ?_, ?_⟩
    · rw [hunknown, List.map_singleton, hcount]
      decide +kernel
    · have hthreeText : AgeBand.from25.codeText = "3" := rfl
      rw [hthreeText] at hband
      rw [hband, List.map_singleton, hbandCount]
      decide +kernel
  · obtain ⟨report, -, hreport, -, -, -, -, hreordered⟩ := ages_of_shared_codes hkept 100
    have hnames : ∀ code ∈ ageCodes, categoryName ≠ birthName code := by decide
    have hsame : Reordered kept moved := by
      refine ⟨fun code hcode => .of_get? ?_, ?_⟩
      · simp only [kept, moved, outcomes, Named.get?, if_neg (hnames code hcode)]
      · exact (List.perm_append_singleton (category "1" 2) [category "3" 0, category "3.0" 6]).symm
    obtain ⟨second, hsecond, hblock⟩ := hreordered moved 90 hsame (by decide +kernel)
    exact ⟨report, second, hreport, hsecond, hblock⟩

/-- A text and a number that spell one code: of four and two contacts stored under it only those of
the bucket that comes last are counted. -/
theorem shared_code_loses_count :
    let group (count : Int) : Json := .object [("doc_count", .integer count)]
    let category (key : Json) (count : Int) : Json :=
      .object [("key", key), ("doc_count", .integer count)]
    let raw (stored : List Json) : Json := .object [
      ("agecategory_aggreg", .object [("buckets", .list stored)]), ("0_aggreg", group 20),
      ("3_aggreg", .object [("buckets", .list [group 10])])]
    let four := category (.text "3") 4
    let two := category (.integer 3) 2
    ∃ outcomes others report second,
      Aggregations.read (requests 500) (raw [four, two]) = .ok outcomes ∧
      Aggregations.read (requests 500) (raw [two, four]) = .ok others ∧
      Counted outcomes ∧ (categories others).Perm (categories outcomes) ∧
      blocks 100 outcomes = .ok report ∧ blocks 100 others = .ok second ∧
      10 + categoryTotal (categories outcomes) 3 = 16 ∧
      blockOf "agecategory" report = some ⟨"agecategory", [⟨"0", 14⟩, ⟨"3", 12⟩]⟩ ∧
      blockOf "agecategory" second = some ⟨"agecategory", [⟨"0", 14⟩, ⟨"3", 14⟩]⟩ := by
  intro group category raw four two
  let text : Bucket := ⟨.text "3", none, 4, []⟩
  let number : Bucket := ⟨.integer 3, none, 2, []⟩
  let outcomes (buckets : List Bucket) : Outcomes :=
    [(categoryName, .buckets buckets), (birthName 0, .single 20 []),
      (birthName 3, .buckets [⟨.null, none, 10, []⟩])]
  have htext : ageCode text.keyText = .ok 3 := toOption_eq_some.mp (by decide +kernel)
  have hnumber : ageCode number.keyText = .ok 3 := toOption_eq_some.mp (by decide +kernel)
  have hcounted : Counted (outcomes [text, number]) := by
    refine ⟨?_, by decide⟩
    change ∀ b ∈ [text, number], _
    simp only [List.forall_mem_cons]
    exact ⟨⟨3, htext⟩, ⟨3, hnumber⟩, nofun⟩
  have hstored : storedAges (outcomes [text, number]) = .ok [(3, 4), (3, 2)] :=
    storedAges_eq_ok.mpr (.cons ⟨htext, rfl⟩ (.cons ⟨hnumber, rfl⟩ .nil))
  have hswapped : storedAges (outcomes [number, text]) = .ok [(3, 2), (3, 4)] :=
    storedAges_eq_ok.mpr (.cons ⟨hnumber, rfl⟩ (.cons ⟨htext, rfl⟩ .nil))
  refine ⟨outcomes [text, number], outcomes [number, text], _, _, rfl, rfl, hcounted,
    .swap _ _ [], Steps.map_eq_ok.mpr ⟨_, ageEntries_of_stored hstored, rfl⟩,
    Steps.map_eq_ok.mpr ⟨_, ageEntries_of_stored hswapped, rfl⟩, ?_, ?_, ?_⟩
  · decide +kernel
  · decide
  · decide

end Indicators

end Outreach
