import Outreach.Proofs.Fault.Steps
import Outreach.Proofs.Json.Members
import Outreach.Report.Indicators

/-!
# Indicators as facets of their own

Each block of indicators is made from outcomes of its own, which are seen only through their buckets
and their numbers of documents. So whatever is alike in these two gives the same block: an outcome
that is absent and one that is empty, and two replies that differ elsewhere.
-/

namespace Outreach

/-- Without buckets and without documents. -/
def Outcome.IsEmpty (outcome : Outcome) : Prop := outcome.bucketList = [] ∧ outcome.count = 0

namespace Indicators

variable {outcomes others : Outcomes} {name : String} {n : UInt64}

/-! ### What a block is made from -/

/-- The outcomes of which the ages are made: the stored categories, the contacts without a birth
date, and the windows of the bands. -/
def ageSources : List String :=
  categoryName :: birthName 0 :: AgeBand.all.map fun band => birthName band.code

/-- The blocks in their order, each with the outcomes that it is made from. The total is given. -/
def sources : List (String × List String) :=
  [("total", []), ("gender", [genderName, genderMissingName]),
    ("pollingstation", [stationName, stationMissingName]), ("agecategory", ageSources),
    ("lastchange", [lastChangeName]), ("mail_missing", [mailMissingName]),
    ("phone_missing", [phoneMissingName])]

theorem requested_of_mem_sources :
    ∀ source ∈ sources, ∀ name ∈ source.2, name ∈ Named.names (requests n) := by
  change ∀ source ∈ sources, ∀ name ∈ source.2, name ∈ Named.names (requests 0)
  decide

/-- The block of a name in a report. -/
def blockOf (name : String) (report : List Block) : Option Block :=
  report.find? fun block => block.name = name

/-! ### Alike outcomes -/

/-- The same buckets and the same number of documents under a name. -/
structure Alike (outcomes others : Outcomes) (name : String) : Prop where
  buckets : bucketsOf outcomes name = bucketsOf others name
  count : countOf outcomes name = countOf others name

theorem Alike.of_get? (hget : Named.get? name outcomes = Named.get? name others) :
    Alike outcomes others name where
  buckets := by rw [bucketsOf, bucketsOf, hget]
  count := by rw [countOf, countOf, hget]

theorem Alike.of_isEmpty {outcome : Outcome} (habsent : Named.get? name outcomes = none)
    (hget : Named.get? name others = some outcome) (hempty : outcome.IsEmpty) :
    Alike outcomes others name where
  buckets := by
    rw [bucketsOf, bucketsOf, habsent, hget]
    exact hempty.1.symm
  count := by
    rw [countOf, countOf, habsent, hget]
    exact hempty.2.symm

theorem storedAges_congr (h : Alike outcomes others categoryName) :
    storedAges outcomes = storedAges others := by
  rw [storedAges, storedAges, h.buckets]

theorem ageEntries_congr (h : ∀ name ∈ ageSources, Alike outcomes others name) :
    ageEntries outcomes = ageEntries others := by
  have hcategory := h categoryName List.mem_cons_self
  have hmissing := h (birthName 0) (List.mem_cons_of_mem _ List.mem_cons_self)
  have hwindow : ∀ band : AgeBand,
      bucketsOf outcomes (birthName band.code) = bucketsOf others (birthName band.code) := by
    intro band
    have hmem : birthName band.code ∈ AgeBand.all.map fun band => birthName band.code :=
      List.mem_map_of_mem (AgeBand.mem_all band)
    exact (h _ (List.mem_cons_of_mem _ (List.mem_cons_of_mem _ hmem))).buckets
  rw [ageEntries, ageEntries, storedAges_congr hcategory, hmissing.count]
  simp only [hwindow]

theorem blocks_congr (h : ∀ source ∈ sources, ∀ name ∈ source.2, Alike outcomes others name)
    (total : UInt64) : blocks total outcomes = blocks total others := by
  simp only [sources, List.forall_mem_cons] at h
  obtain ⟨-, ⟨hgender, hnoGender, -⟩, ⟨hstation, hnoStation, -⟩, hages, ⟨hchange, -⟩, ⟨hmail, -⟩,
    ⟨hphone, -⟩, -⟩ := h
  rw [blocks, blocks, ageEntries_congr hages]
  simp only [hgender.buckets, hnoGender.count, hstation.buckets, hnoStation.count, hchange.buckets,
    hmail.count, hphone.count]

/-! ### Absent and empty outcomes -/

/-- The same outcomes of the requests, with absent ones added as empty. Nothing is said of outcomes
under other names, nor of the order. -/
structure Completes (n : UInt64) (outcomes others : Outcomes) : Prop where
  kept : ∀ entry ∈ outcomes, entry.1 ∈ Named.names (requests n) → entry ∈ others
  added : ∀ entry ∈ others, entry.1 ∈ Named.names (requests n) →
    entry.1 ∉ Named.names outcomes → entry.2.IsEmpty

theorem Completes.alike (h : Completes n outcomes others) (hnodup : (Named.names others).Nodup)
    (hname : name ∈ Named.names (requests n)) : Alike outcomes others name := by
  cases hget : Named.get? name outcomes with
  | some outcome =>
    have hkept := h.kept _ (Named.mem_of_get? hget) hname
    refine .of_get? ?_
    rw [hget, Named.get?_of_mem hnodup hkept]
  | none =>
    cases hother : Named.get? name others with
    | none => exact .of_get? (hget.trans hother.symm)
    | some outcome =>
      have habsent := (Named.get?_eq_none_iff name outcomes).mp hget
      exact .of_isEmpty hget hother (h.added _ (Named.mem_of_get? hother) hname habsent)

/-- Absent outcomes are read as empty, and each block is made from its own outcomes alone. -/
theorem facets_independent :
    (∀ (n total : UInt64) (outcomes others : Outcomes), (Named.names others).Nodup →
      Completes n outcomes others → blocks total others = blocks total outcomes) ∧
    ∀ (total another : UInt64) (outcomes others : Outcomes) (report second : List Block),
      blocks total outcomes = .ok report → blocks another others = .ok second →
        (∀ found ∈ [report, second], found.map Block.name = ["total", "gender", "pollingstation",
          "agecategory", "lastchange", "mail_missing", "phone_missing"]) ∧
        ∀ source ∈ sources, (source.1 = "total" → total = another) →
          (∀ name ∈ source.2, Named.get? name outcomes = Named.get? name others) →
            blockOf source.1 report = blockOf source.1 second := by
  refine ⟨?_, ?_⟩
  · intro n total outcomes others hnodup hcompletes
    refine (blocks_congr (fun source hsource name hname => ?_) total).symm
    exact hcompletes.alike hnodup (requested_of_mem_sources source hsource name hname)
  · intro total another outcomes others report second hreport hsecond
    obtain ⟨ages, hages, rfl⟩ := Steps.map_eq_ok.mp hreport
    obtain ⟨otherAges, hotherAges, rfl⟩ := Steps.map_eq_ok.mp hsecond
    refine ⟨by simp, ?_⟩
    intro source hsource htotal hsame
    have halike : ∀ name ∈ source.2, Alike outcomes others name :=
      fun name hname => .of_get? (hsame name hname)
    simp only [sources, List.mem_cons, List.not_mem_nil, or_false] at hsource
    rcases hsource with rfl | rfl | rfl | rfl | rfl | rfl | rfl
    · simp [blockOf, htotal rfl]
    · have hbuckets := halike genderName List.mem_cons_self
      have hmissing := halike genderMissingName (List.mem_cons_of_mem _ List.mem_cons_self)
      simp [blockOf, hbuckets.buckets, hmissing.count]
    · have hbuckets := halike stationName List.mem_cons_self
      have hmissing := halike stationMissingName (List.mem_cons_of_mem _ List.mem_cons_self)
      simp [blockOf, hbuckets.buckets, hmissing.count]
    · have hsameAges : ages = otherAges :=
        Except.ok.inj (hages.symm.trans ((ageEntries_congr halike).trans hotherAges))
      simp [blockOf, hsameAges]
    · have hbuckets := halike lastChangeName List.mem_cons_self
      simp [blockOf, hbuckets.buckets]
    · have hmissing := halike mailMissingName List.mem_cons_self
      simp [blockOf, hmissing.count]
    · have hmissing := halike phoneMissingName List.mem_cons_self
      simp [blockOf, hmissing.count]

/-- Outcomes in another order, with empty ones and with one that was not asked for; and a reply that
agrees in nothing but the genders. -/
theorem facets_independent_reordered :
    let women : Outcome := .buckets [⟨.text "F", none, 4, []⟩]
    let window : Outcome := .buckets [⟨.null, none, 7, []⟩]
    let outcomes : Outcomes :=
      [("gender_aggreg", women), ("unasked", .metric none), ("1_aggreg", window)]
    let others : Outcomes := [("1_aggreg", window), ("mail_missing_aggreg", .single 0 []),
      ("agecategory_aggreg", .buckets []), ("noise", .hits 3 []), ("gender_aggreg", women)]
    let elsewhere : Outcomes := [("phone_missing_aggreg", .single 9 []), ("gender_aggreg", women)]
    Completes 500 outcomes others ∧ blocks 10 others = blocks 10 outcomes ∧
      ∃ report second, blocks 10 outcomes = .ok report ∧ blocks 20 elsewhere = .ok second ∧
        blockOf "phone_missing" report ≠ blockOf "phone_missing" second ∧
        blockOf "gender" report = blockOf "gender" second := by
  intro women window outcomes others elsewhere
  have hcompletes : Completes 500 outcomes others := by
    refine ⟨?_, ?_⟩
    · simp only [outcomes, List.forall_mem_cons]
      exact ⟨fun _ => by simp [others], fun hname => absurd hname (by decide),
        fun _ => by simp [others], nofun⟩
    · simp only [others, List.forall_mem_cons]
      exact ⟨fun _ habsent => absurd (by decide) habsent, fun _ _ => ⟨rfl, rfl⟩,
        fun _ _ => ⟨rfl, rfl⟩, fun hname => absurd hname (by decide),
        fun _ habsent => absurd (by decide) habsent, nofun⟩
  have hnodup : (Named.names others).Nodup := by decide
  refine ⟨hcompletes, facets_independent.1 500 10 outcomes others hnodup hcompletes, ?_⟩
  refine ⟨_, _, rfl, rfl, by decide, ?_⟩
  refine (facets_independent.2 10 20 outcomes elsewhere _ _ rfl rfl).2
    ("gender", [genderName, genderMissingName]) (by decide) (by decide) ?_
  intro name hname
  simp only [List.mem_cons, List.not_mem_nil, or_false] at hname
  rcases hname with rfl | rfl <;> rfl

end Indicators

end Outreach
