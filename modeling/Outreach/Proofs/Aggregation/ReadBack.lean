import Mathlib.Data.List.Nodup
import Outreach.Aggregation.Reading
import Outreach.Proofs.Fault.Steps

/-!
# Reading what an engine writes

The outcomes of an engine as it writes them, and that reading them back along the tree of requests
gives the same outcomes. Inner outcomes stand in one object with the members of their group, so
they are found again only under names that the group does not use itself. The induction follows the
requests: below a request every member is looked up by name, in whatever company it stands, and
only the order of the outcomes is a matter of the whole list.
-/

namespace Outreach

/-! ### Names -/

namespace Named

variable {α : Type} {name : String} {value : α} {entries : Named α} {known : List String}

/-- Looking up names in turn gives back the entries under them, when these come in that order. -/
theorem filterMap_get? (hsub : (names entries).Sublist known) (hnodup : known.Nodup) :
    (known.filterMap fun name => (get? name entries).map fun value => (name, value)) = entries := by
  induction known generalizing entries with
  | nil =>
    have hnone : entries = [] := List.map_eq_nil_iff.mp (List.sublist_nil.mp hsub)
    rw [hnone]
    rfl
  | cons first rest ih =>
    obtain ⟨hfirst, hrest⟩ := List.nodup_cons.mp hnodup
    rcases List.sublist_cons_iff.mp hsub with hlater | ⟨others, hnames, hothers⟩
    · have habsent : get? first entries = none :=
        (get?_eq_none_iff first entries).mpr fun hmem => hfirst (hlater.subset hmem)
      rw [List.filterMap_cons_none (by rw [habsent]; rfl)]
      exact ih hlater hrest
    · cases entries with
      | nil => cases hnames
      | cons entry remaining =>
        obtain ⟨name, value⟩ := entry
        obtain ⟨rfl, rfl⟩ := List.cons.inj hnames
        -- The first name does not come again, so its entry is in no one's way.
        have hskip : ∀ other ∈ rest, get? other ((name, value) :: remaining) =
            get? other remaining := by
          intro other hother
          rw [get?, if_neg]
          rintro rfl
          exact hfirst hother
        rw [List.filterMap_cons_some (by rw [get?, if_pos rfl]; rfl)]
        refine congrArg ((name, value) :: ·) (Eq.trans ?_ (ih hothers hrest))
        apply List.filterMap_congr
        intro other hother
        rw [hskip other hother]

end Named

theorem Text.toString_injective : Function.Injective (toString : Nat → String) := by
  intro m n heq
  have hdigits : Nat.toDigits 10 m = Nat.toDigits 10 n := String.ofList_injective heq
  have hread := congrArg Text.natural? hdigits
  rw [Text.natural?_toDigits, Text.natural?_toDigits] at hread
  exact Option.some.inj hread

/-! ### How outcomes are written -/

/-- The choices of an engine in writing outcomes. -/
structure Layout where
  /-- The names of the buckets, where they are written as an object of named buckets and not as a
  list. -/
  names : List Bucket → Option (List String)
  length_names : ∀ buckets keys, names buckets = some keys → keys.length = buckets.length
  nodup_names : ∀ buckets keys, names buckets = some keys → keys.Nodup
  /-- Whether the total of hits is written as an object. -/
  wrapsTotal : UInt64 → List Json → Bool

namespace Layout

/-- Buckets as a list and totals as numbers. -/
def plain : Layout where
  names _ := none
  length_names _ _ h := nomatch h
  nodup_names _ _ h := nomatch h
  wrapsTotal _ _ := false

/-- Buckets under their positions and totals as objects. -/
def numbered : Layout where
  names buckets := some ((List.range buckets.length).map toString)
  length_names buckets keys h := by
    cases h
    rw [List.length_map, List.length_range]
  nodup_names buckets keys h := by
    cases h
    exact List.nodup_range.map Text.toString_injective
  wrapsTotal _ _ := true

variable (layout : Layout)

def total (n : UInt64) (documents : List Json) : Json :=
  if layout.wrapsTotal n documents then .only "value" (.ofUInt64 n) else .ofUInt64 n

/-- The written buckets, in a list or under their names. -/
def gathered (items : List Bucket) (raws : List Json) : Json :=
  match layout.names items with
  | some names => .object (names.zip raws)
  | none => .list raws

mutual

def write : Outcome → Json
  | .buckets items => .only "buckets" (layout.gathered items (writeBuckets items))
  | .single count sub => .object (("doc_count", .ofUInt64 count) :: writeMembers sub)
  | .hits n documents =>
    .only "hits" (.object [("total", layout.total n documents),
      ("hits", .list (documents.map (.only "_source")))])
  | .metric value => .only "value" ((value.map Json.ofFloat).getD .null)

def writeBucket : Bucket → Json
  | ⟨key, label, count, sub⟩ =>
    .object ((("key", key) :: label.toList.map fun s => ("key_as_string", .text s)) ++
      ("doc_count", .ofUInt64 count) :: writeMembers sub)

def writeBuckets : List Bucket → List Json
  | [] => []
  | b :: rest => writeBucket b :: writeBuckets rest

def writeMembers : List (String × Outcome) → List (String × Json)
  | [] => []
  | (name, outcome) :: rest => (name, write outcome) :: writeMembers rest

end

def writeAll (outcomes : Outcomes) : Json := .object (layout.writeMembers outcomes)

end Layout

/-! ### Outcomes that answer requests -/

inductive Outcome.Shape
  | buckets
  | single
  | hits
  | metric
  deriving DecidableEq

def Outcome.shape : Outcome → Shape
  | .buckets _ => .buckets
  | .single _ _ => .single
  | .hits _ _ => .hits
  | .metric _ => .metric

namespace Aggregation

def Kind.shape : Kind → Outcome.Shape
  | .terms _ _ | .dateHistogram _ _ | .dateRange _ _ | .geohashGrid _ _ => .buckets
  | .topHits _ _ _ => .hits
  | .average _ => .metric
  | .missing _ | .nested _ | .reverseNested | .filter _ => .single

/-- What a bucket says of itself in the object that also holds its inner outcomes. -/
def bucketMembers : List String := ["key", "key_as_string", "doc_count"]

mutual

/-- Inner names are distinct and none of them is a member of a bucket, at every depth. -/
def WellNamed : Aggregation → Prop
  | ⟨_, sub⟩ =>
    (Named.names sub).Nodup ∧ (∀ name ∈ Named.names sub, name ∉ bucketMembers) ∧
      AllWellNamed sub

def AllWellNamed : List (String × Aggregation) → Prop
  | [] => True
  | (_, a) :: rest => a.WellNamed ∧ AllWellNamed rest

end

mutual

/-- An outcome as the request implies it: of the shape of its kind, a number finite or absent, and
inside each group some of the inner requests answered, in their order. -/
def Admits : Aggregation → Outcome → Prop
  | ⟨kind, sub⟩, outcome =>
    outcome.shape = kind.shape ∧
      match outcome with
      | .buckets items =>
        ∀ b ∈ items, (Named.names b.sub).Sublist (Named.names sub) ∧ AdmitsEach sub b.sub
      | .single _ inner => (Named.names inner).Sublist (Named.names sub) ∧ AdmitsEach sub inner
      | .hits _ _ => True
      | .metric value => ∀ x ∈ value, x.isFinite = true

def AdmitsEach : List (String × Aggregation) → Outcomes → Prop
  | [], _ => True
  | (name, a) :: rest, outcomes =>
    (∀ outcome ∈ Named.get? name outcomes, a.Admits outcome) ∧ AdmitsEach rest outcomes

end

end Aggregation

/-- Some of the requests answered, in their order. -/
def Aggregations.AdmitsAll (requests : Aggregations) (outcomes : Outcomes) : Prop :=
  (Named.names outcomes).Sublist (Named.names requests) ∧ Aggregation.AdmitsEach requests outcomes

/-! ### Reading them back -/

namespace Layout

variable (layout : Layout)

theorem writeBuckets_eq (items : List Bucket) :
    layout.writeBuckets items = items.map layout.writeBucket := by
  induction items with
  | nil => rfl
  | cons b rest ih => rw [writeBuckets, ih, List.map_cons]

theorem get?_writeMembers (name : String) (outcomes : Outcomes) :
    Named.get? name (layout.writeMembers outcomes) =
      (Named.get? name outcomes).map layout.write := by
  induction outcomes with
  | nil => rfl
  | cons entry rest ih =>
    obtain ⟨other, outcome⟩ := entry
    by_cases hother : other = name
    · simp [writeMembers, Named.get?, hother]
    · simp [writeMembers, Named.get?, hother, ih]

theorem totalHits_total (n : UInt64) (documents : List Json) :
    Aggregation.totalHits (layout.total n documents) = n := by
  unfold total
  split
  · show ((some (Json.ofUInt64 n)).bind Json.uint64?).getD 0 = n
    rw [Option.bind_some, Json.uint64?_ofUInt64, Option.getD_some]
  · rw [Aggregation.totalHits, Json.uint64?_ofUInt64]

/-- Whether in a list or under names, the buckets come back in their order. -/
theorem rawBuckets_gathered (name : String) (items : List Bucket) (raws : List Json)
    (hlength : raws.length = items.length) :
    Aggregation.rawBuckets name (.only "buckets" (layout.gathered items raws)) = .ok raws := by
  unfold gathered
  split
  · rename_i keys hkeys
    have hlengths : raws.length = keys.length := by
      rw [layout.length_names items keys hkeys, hlength]
    have hzip : (keys.zip raws).map Prod.snd = raws := List.map_snd_zip (Nat.le_of_eq hlengths)
    exact congrArg Except.ok hzip
  · rfl

theorem readHits_write (name : String) (n : UInt64) (documents : List Json) :
    Aggregation.readHits name (layout.write (.hits n documents)) = .ok (.hits n documents) := by
  have htotal := layout.totalHits_total n documents
  have hdocuments : (documents.map (Json.only "_source")).map Aggregation.hitDocument =
      documents := by
    rw [List.map_map]
    exact List.map_id' documents
  show Except.ok (Outcome.hits (Aggregation.totalHits (layout.total n documents))
    ((documents.map (Json.only "_source")).map Aggregation.hitDocument)) = _
  rw [htotal, hdocuments]

theorem readMetric_write {value : Option Float} (hfinite : ∀ x ∈ value, x.isFinite = true) :
    Aggregation.readMetric (layout.write (.metric value)) = .metric value := by
  cases value with
  | none => rfl
  | some x =>
    show Outcome.metric ((Json.ofFloat x).float?) = _
    rw [Json.ofFloat, if_pos (hfinite x rfl)]
    rfl

theorem get?_write_single {name : String} (count : UInt64) (sub : Outcomes)
    (hname : name ∉ Aggregation.bucketMembers) :
    (layout.write (.single count sub)).get? name = (Named.get? name sub).map layout.write := by
  have hcount : "doc_count" ≠ name := by
    rintro rfl
    exact hname (by decide)
  rw [← layout.get?_writeMembers]
  exact if_neg hcount

theorem docCount_write_single (count : UInt64) (sub : Outcomes) :
    Aggregation.docCount (layout.write (.single count sub)) = count := by
  show ((some (Json.ofUInt64 count)).bind Json.uint64?).getD 0 = count
  rw [Option.bind_some, Json.uint64?_ofUInt64, Option.getD_some]

/-- The object of a bucket holds its inner outcomes under every name that it does not use itself. -/
theorem get?_writeBucket {name : String} (b : Bucket) (hname : name ∉ Aggregation.bucketMembers) :
    (layout.writeBucket b).get? name = (Named.get? name b.sub).map layout.write := by
  obtain ⟨key, label, count, sub⟩ := b
  simp only [Aggregation.bucketMembers, List.mem_cons, List.not_mem_nil, or_false, not_or] at hname
  obtain ⟨hkey, hlabel, hcount⟩ := hname
  rw [← layout.get?_writeMembers]
  cases label <;>
    simp [writeBucket, Json.get?, Named.get?, Ne.symm hkey, Ne.symm hlabel, Ne.symm hcount]

/-- The label is found when there is one, and nothing inside the bucket is taken for it. -/
theorem label_writeBucket (b : Bucket)
    (hnames : ∀ name ∈ Named.names b.sub, name ∉ Aggregation.bucketMembers) :
    ((layout.writeBucket b).get? "key_as_string").bind Json.text? = b.label := by
  obtain ⟨key, label, count, sub⟩ := b
  cases label with
  | some s => rfl
  | none =>
    have habsent : Named.get? "key_as_string" sub = none := by
      rw [Named.get?_eq_none_iff]
      intro hmem
      exact hnames _ hmem (by decide)
    show (Named.get? "key_as_string" (layout.writeMembers sub)).bind Json.text? = none
    rw [layout.get?_writeMembers, habsent]
    rfl

theorem docCount_writeBucket (b : Bucket) :
    Aggregation.docCount (layout.writeBucket b) = b.count := by
  obtain ⟨key, label, count, sub⟩ := b
  have hcount : (layout.writeBucket ⟨key, label, count, sub⟩).get? "doc_count" =
      some (.ofUInt64 count) := by
    cases label <;> rfl
  rw [Aggregation.docCount, hcount, Option.bind_some, Json.uint64?_ofUInt64, Option.getD_some]

theorem readBucket_write (name : String) {inner : Json → Except Fault Outcomes} (b : Bucket)
    (hnames : ∀ name ∈ Named.names b.sub, name ∉ Aggregation.bucketMembers)
    (hinner : inner (layout.writeBucket b) = .ok b.sub) :
    Aggregation.readBucket name inner (layout.writeBucket b) = .ok b := by
  have hkey : ((layout.writeBucket b).get? "key").getD .null = b.key := by
    cases b
    rfl
  have hobject : (layout.writeBucket b).isObject = true := by
    cases b
    rfl
  rw [Aggregation.readBucket, if_pos hobject, Steps.map_eq_ok]
  refine ⟨b.sub, hinner, ?_⟩
  rw [hkey, layout.label_writeBucket b hnames, layout.docCount_writeBucket]
  cases b
  rfl

end Layout

namespace Aggregation

/-! ### One request at a time -/

section Requests

variable {kind : Kind} {sub : List (String × Aggregation)} {name : String} {node : Json}

theorem read_of_buckets (hshape : kind.shape = .buckets) :
    read ⟨kind, sub⟩ name node = do
      let raws ← rawBuckets name node
      return .buckets (← raws.mapM (readBucket name (readMembers sub))) := by
  cases kind <;> first | rfl | cases hshape

theorem read_of_single (hshape : kind.shape = .single) :
    read ⟨kind, sub⟩ name node = do
      return .single (docCount node) (← readMembers sub node) := by
  cases kind <;> first | rfl | cases hshape

theorem read_of_hits (hshape : kind.shape = .hits) :
    read ⟨kind, sub⟩ name node = readHits name node := by
  cases kind <;> first | rfl | cases hshape

theorem read_of_metric (hshape : kind.shape = .metric) :
    read ⟨kind, sub⟩ name node = .ok (readMetric node) := by
  cases kind <;> first | rfl | cases hshape

end Requests

/-! ### The whole tree -/

variable (layout : Layout)

mutual

theorem read_write (a : Aggregation) (name : String) (outcome : Outcome) (hnamed : a.WellNamed)
    (hadmits : a.Admits outcome) : a.read name (layout.write outcome) = .ok outcome := by
  match a with
  | ⟨kind, sub⟩ =>
    obtain ⟨hnodup, hreserved, hnamed⟩ := hnamed
    obtain ⟨hshape, hinside⟩ := hadmits
    cases outcome with
    | hits total documents =>
      rw [read_of_hits hshape.symm]
      exact layout.readHits_write name total documents
    | metric value =>
      rw [read_of_metric hshape.symm]
      exact congrArg Except.ok (layout.readMetric_write hinside)
    | single count inner =>
      obtain ⟨hsub, hadmits⟩ := hinside
      have hinner : readMembers sub (layout.write (.single count inner)) = .ok inner := by
        rw [readMembers_write sub inner _ hnamed hadmits, Named.filterMap_get? hsub hnodup]
        intro name hname
        exact layout.get?_write_single count inner (hreserved name hname)
      rw [read_of_single hshape.symm, Steps.map_eq_ok]
      refine ⟨inner, hinner, ?_⟩
      rw [layout.docCount_write_single]
    | buckets items =>
      have hitems : items.map layout.writeBucket = layout.writeBuckets items :=
        (layout.writeBuckets_eq items).symm
      have hbuckets : (layout.writeBuckets items).mapM (readBucket name (readMembers sub)) =
          .ok items := by
        rw [layout.writeBuckets_eq, Steps.mapM_eq_ok, List.forall₂_map_left_iff,
          List.forall₂_same]
        intro b hb
        obtain ⟨hsub, hadmits⟩ := hinside b hb
        apply layout.readBucket_write
        · intro name hname
          exact hreserved name (hsub.subset hname)
        · rw [readMembers_write sub b.sub _ hnamed hadmits, Named.filterMap_get? hsub hnodup]
          intro name hname
          exact layout.get?_writeBucket b (hreserved name hname)
      rw [read_of_buckets hshape.symm, Steps.bind_eq_ok]
      refine ⟨_, layout.rawBuckets_gathered name items _ ?_, Steps.map_eq_ok.mpr ⟨_, hbuckets, rfl⟩⟩
      rw [layout.writeBuckets_eq, List.length_map]

/-- What is read of an object under the names of the requests, in their order, whatever else the
object holds. -/
theorem readMembers_write (requests : List (String × Aggregation)) (outcomes : Outcomes)
    (raw : Json) (hnamed : AllWellNamed requests) (hadmits : AdmitsEach requests outcomes)
    (hget : ∀ name ∈ Named.names requests,
      raw.get? name = (Named.get? name outcomes).map layout.write) :
    readMembers requests raw =
      .ok ((Named.names requests).filterMap fun name =>
        (Named.get? name outcomes).map fun outcome => (name, outcome)) := by
  match requests with
  | [] => rfl
  | (name, a) :: rest =>
    obtain ⟨hfirst, hrest⟩ := hnamed
    obtain ⟨hfirstAdmits, hadmits⟩ := hadmits
    have hlater := readMembers_write rest outcomes raw hrest hadmits fun other hother =>
      hget other (List.mem_cons_of_mem _ hother)
    have hname := hget name List.mem_cons_self
    rw [Named.names, List.map_cons]
    -- A request without an outcome leaves no trace in the object, and reading passes over it.
    cases houtcome : Named.get? name outcomes with
    | none =>
      rw [houtcome] at hname
      rw [readMembers, hname, List.filterMap_cons_none (by rw [houtcome]; rfl)]
      exact hlater
    | some outcome =>
      rw [houtcome] at hname
      rw [readMembers, hname, List.filterMap_cons_some (by rw [houtcome]; rfl)]
      have hread := read_write a name outcome hfirst (hfirstAdmits outcome houtcome)
      refine Steps.bind_eq_ok.mpr ⟨outcome, hread, ?_⟩
      exact Steps.map_eq_ok.mpr ⟨_, hlater, rfl⟩

end

end Aggregation

/-- Reading undoes writing: whatever an engine answers to some of the requests, and however it lays
out buckets and totals, its outcomes are read as they are. -/
theorem Aggregations.read_writeAll (layout : Layout) {requests : Aggregations} {outcomes : Outcomes}
    (hnodup : (Named.names requests).Nodup) (hnamed : Aggregation.AllWellNamed requests)
    (hadmits : Aggregations.AdmitsAll requests outcomes) :
    Aggregations.read requests (layout.writeAll outcomes) = .ok outcomes := by
  obtain ⟨hsub, hadmits⟩ := hadmits
  have hread := Aggregation.readMembers_write layout requests outcomes (layout.writeAll outcomes)
    hnamed hadmits fun name _ => layout.get?_writeMembers name outcomes
  rw [Aggregations.read, hread, Named.filterMap_get? hsub hnodup]

/-- Groups and documents inside buckets with and without labels, with requests left out at every
level, in both layouts. -/
theorem Aggregations.read_writeAll_layouts :
    let requests : Aggregations :=
      [("station", .leaf (.terms "address.PollingStation" none)),
        ("change", ⟨.dateHistogram "lastchange" .day,
          [("no_mail", ⟨.missing "mail", [("cells", .leaf (.geohashGrid "address.location" 5))]⟩),
            ("mean", .leaf (.average "address.latitude")),
            ("first", .leaf (.topHits 2 [] []))]⟩)]
    let outcomes : Outcomes :=
      [("change", .buckets
        [⟨.integer 1456704000000, some "2016-02-29", 4,
            [("no_mail", .single 1 [("cells", .buckets [⟨.text "spc00", none, 1, []⟩])]),
              ("first", .hits 4 [.only "id" (.integer 1), .null])]⟩,
          ⟨.null, none, 0, [("mean", .metric none)]⟩])]
    Aggregations.AdmitsAll requests outcomes ∧
      Aggregations.read requests (Layout.plain.writeAll outcomes) = .ok outcomes ∧
        Aggregations.read requests (Layout.numbered.writeAll outcomes) = .ok outcomes := by
  intro requests outcomes
  have hnodup : (Named.names requests).Nodup := by decide
  have hnamed : Aggregation.AllWellNamed requests := by
    simp [requests, Aggregation.AllWellNamed, Aggregation.WellNamed, Aggregation.leaf, Named.names,
      Aggregation.bucketMembers]
  have hadmits : Aggregations.AdmitsAll requests outcomes := by
    simp [requests, outcomes, Aggregations.AdmitsAll, Aggregation.AdmitsEach, Aggregation.Admits,
      Aggregation.leaf, Named.names, Named.get?, Outcome.shape, Aggregation.Kind.shape]
  exact ⟨hadmits, read_writeAll .plain hnodup hnamed hadmits,
    read_writeAll .numbered hnodup hnamed hadmits⟩

end Outreach
