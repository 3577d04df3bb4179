import Outreach.Proofs.Aggregation.Shape

/-!
# Malformed replies

A reply is read along the requests, and of what the reader comes upon only three things can be
malformed: the buckets of a node, one of these buckets, and the list of the hits. `visitsWithin`
lists what it comes upon in the order of reading, `Reached` says where that is in the reply, and
reading fails at the first visit that is malformed. Both readers are unfolded once, in
`read_eq_error`; everything else is a matter of lists.
-/

namespace Outreach

open Steps

def Json.isList : Json → Bool
  | .list _ => true
  | _ => false

namespace Aggregation

/-- Something that the reader of a reply comes upon. -/
inductive Visit
  /-- What the reply holds for a request. -/
  | node (name : String) (kind : Kind) (found : Json)
  /-- One of the buckets that it holds for a request. -/
  | bucket (name : String) (found : Json)

namespace Visit

/-- The name of the request. -/
def name : Visit → String
  | .node name _ _ => name
  | .bucket name _ => name

def Malformed : Visit → Prop
  | .node _ kind found =>
    (kind.shape = .buckets ∧ ∃ groups, found.get? "buckets" = some groups ∧
      groups.isList = false ∧ groups.isObject = false) ∨
    (kind.shape = .hits ∧ ∃ hits documents, found.get? "hits" = some hits ∧
      hits.get? "hits" = some documents ∧ documents.isList = false)
  | .bucket _ found => found.isObject = false

/-- What is reported of a visit that is malformed. -/
def cause : Visit → ReplyFault
  | .node name kind _ => if kind.shape = .hits then .aggregationHits name else .buckets name
  | .bucket name _ => .bucket name

def complaint : Visit → String
  | .node _ kind _ =>
    if kind.shape = .hits then "`hits.hits` is not a list" else "`buckets` is not a list"
  | .bucket _ _ => "bucket is not an object"

theorem detail_cause (v : Visit) :
    (Fault.reply v.cause).detail = "aggregation '" ++ v.name ++ "': " ++ v.complaint := by
  rw [String.append_assoc]
  cases v with
  | node name kind found =>
    rw [cause, complaint]
    split <;> rfl
  | bucket name found => rfl

/-- The step in which a visit is looked at. -/
def check : Visit → Except Fault Unit
  | .node name kind found =>
    match kind.shape with
    | .buckets => discard (rawBuckets name found)
    | .hits => discard (readHits name found)
    | .single | .metric => .ok ()
  | .bucket name found => if found.isObject then .ok () else .error (.reply (.bucket name))

theorem checks_rawBuckets {name : String} {kind : Kind} {found : Json}
    (hshape : kind.shape = .buckets) :
    Checks (rawBuckets name found) (¬ (node name kind found).Malformed)
      fun fault => fault = .reply (node name kind found).cause := by
  have hcause : (node name kind found).cause = .buckets name := by
    rw [cause, if_neg (by rw [hshape]; decide)]
  refine .of_fails (fun _ => ⟨_, rfl⟩) fun fault => ?_
  rw [hcause, not_not, Malformed, hshape]
  unfold rawBuckets
  cases hget : found.get? "buckets" with
  | none => simp
  | some groups => cases groups <;> simp [Json.isList, Json.isObject, @eq_comm _ fault]

theorem checks_readHits {name : String} {kind : Kind} {found : Json}
    (hshape : kind.shape = .hits) :
    Checks (readHits name found) (¬ (node name kind found).Malformed)
      fun fault => fault = .reply (node name kind found).cause := by
  have hcause : (node name kind found).cause = .aggregationHits name := by
    rw [cause, if_pos hshape]
  refine .of_fails (fun _ => ⟨_, rfl⟩) fun fault => ?_
  rw [hcause, not_not, Malformed, hshape]
  unfold readHits
  cases found.get? "hits" with
  | none => simp [Json.get?]
  | some hits =>
    cases hlist : hits.get? "hits" with
    | none => simp [hlist]
    | some documents => cases documents <;> simp [hlist, Json.isList, @eq_comm _ fault]

/-- Looking at a visit tells whether it is malformed, and reports it when it is. -/
theorem checks_check (v : Visit) :
    Checks v.check (¬ v.Malformed) fun fault => fault = .reply v.cause := by
  cases v with
  | node name kind found =>
    rw [check]
    cases hshape : kind.shape with
    | buckets => exact (checks_rawBuckets hshape).discard
    | hits => exact (checks_readHits hshape).discard
    | single | metric =>
      have hsound : ¬ (node name kind found).Malformed := by simp [Malformed, hshape]
      exact ⟨by simp [hsound], by simp [hsound]⟩
  | bucket name found =>
    refine .of_fails (fun _ => ⟨_, rfl⟩) fun fault => ?_
    unfold check
    by_cases hobject : found.isObject = true
    · simp [Malformed, hobject]
    · simp [Malformed, cause, hobject, @eq_comm _ fault]

end Visit

/-! ### What is come upon -/

mutual

/-- What is come upon for a request: the node, then its buckets in order, each before what is
requested inside it, or what is requested inside a group. Nothing is requested of hits and numbers,
whatever requests they hold. -/
def visits : Aggregation → String → Json → List Visit
  | ⟨kind, sub⟩, name, found =>
    .node name kind found :: match kind.shape with
      | .buckets => found.groups.flatMap fun group => .bucket name group :: visitsWithin sub group
      | .single => visitsWithin sub found
      | .hits | .metric => []

/-- What is come upon for each request that the object has a member for, in their order. -/
def visitsWithin : List (String × Aggregation) → Json → List Visit
  | [], _ => []
  | (name, a) :: rest, raw =>
    match raw.get? name with
    | none => visitsWithin rest raw
    | some found => a.visits name found ++ visitsWithin rest raw

end

/-- What can be come upon through requested names alone. -/
inductive Reached : List (String × Aggregation) → Json → Visit → Prop
  | node {requests raw name a found} : (name, a) ∈ requests → raw.get? name = some found →
      Reached requests raw (.node name a.kind found)
  | bucket {requests raw name a found group} : (name, a) ∈ requests →
      raw.get? name = some found → a.kind.shape = .buckets → group ∈ found.groups →
      Reached requests raw (.bucket name group)
  | inBucket {requests raw name a found group v} : (name, a) ∈ requests →
      raw.get? name = some found → a.kind.shape = .buckets → group ∈ found.groups →
      Reached a.sub group v → Reached requests raw v
  | inGroup {requests raw name a found v} : (name, a) ∈ requests →
      raw.get? name = some found → a.kind.shape = .single → Reached a.sub found v →
      Reached requests raw v

section Visits

variable {requests : List (String × Aggregation)} {raw : Json} {v : Visit}

theorem mem_visits_iff {a : Aggregation} {name : String} {found : Json} :
    v ∈ a.visits name found ↔ v = .node name a.kind found ∨
      (a.kind.shape = .buckets ∧ ∃ group ∈ found.groups,
        v = .bucket name group ∨ v ∈ visitsWithin a.sub group) ∨
      (a.kind.shape = .single ∧ v ∈ visitsWithin a.sub found) := by
  obtain ⟨kind, sub⟩ := a
  rw [visits, List.mem_cons]
  refine or_congr_right ?_
  cases kind.shape <;> simp

theorem mem_visitsWithin_cons {name : String} {a : Aggregation} :
    v ∈ visitsWithin ((name, a) :: requests) raw ↔
      (∃ found, raw.get? name = some found ∧ v ∈ a.visits name found) ∨
        v ∈ visitsWithin requests raw := by
  rw [visitsWithin]
  cases raw.get? name <;> simp

theorem mem_visitsWithin_iff :
    v ∈ visitsWithin requests raw ↔
      ∃ name a found, (name, a) ∈ requests ∧ raw.get? name = some found ∧
        v ∈ a.visits name found := by
  induction requests with
  | nil => simp [visitsWithin]
  | cons request rest ih =>
    obtain ⟨name, a⟩ := request
    rw [mem_visitsWithin_cons, ih]
    simp only [List.mem_cons, Prod.mk.injEq]
    refine ⟨?_, ?_⟩
    · rintro (⟨found, hget, hv⟩ | ⟨other, b, found, hmem, hget, hv⟩)
      · exact ⟨name, a, found, .inl ⟨rfl, rfl⟩, hget, hv⟩
      · exact ⟨other, b, found, .inr hmem, hget, hv⟩
    · rintro ⟨other, b, found, ⟨rfl, rfl⟩ | hmem, hget, hv⟩
      · exact .inl ⟨found, hget, hv⟩
      · exact .inr ⟨other, b, found, hmem, hget, hv⟩

theorem Reached.mem_visitsWithin (h : Reached requests raw v) : v ∈ visitsWithin requests raw := by
  have hrequest : ∀ {requests raw name a found v}, (name, a) ∈ requests →
      Json.get? name raw = some found → v ∈ a.visits name found → v ∈ visitsWithin requests raw :=
    fun hmem hget hv => mem_visitsWithin_iff.mpr ⟨_, _, _, hmem, hget, hv⟩
  induction h with
  | node hmem hget => exact hrequest hmem hget (mem_visits_iff.mpr (.inl rfl))
  | bucket hmem hget hshape hgroup =>
    exact hrequest hmem hget (mem_visits_iff.mpr (.inr (.inl ⟨hshape, _, hgroup, .inl rfl⟩)))
  | inBucket hmem hget hshape hgroup _ ih =>
    exact hrequest hmem hget (mem_visits_iff.mpr (.inr (.inl ⟨hshape, _, hgroup, .inr ih⟩)))
  | inGroup hmem hget hshape _ ih =>
    exact hrequest hmem hget (mem_visits_iff.mpr (.inr (.inr ⟨hshape, ih⟩)))

end Visits

mutual

theorem reached_of_mem_visits (a : Aggregation) (name : String) (found : Json) (v : Visit)
    (hv : v ∈ a.visits name found) (requests : List (String × Aggregation)) (raw : Json)
    (hmem : (name, a) ∈ requests) (hget : raw.get? name = some found) :
    Reached requests raw v := by
  match a with
  | ⟨kind, sub⟩ =>
    rcases mem_visits_iff.mp hv with rfl | ⟨hshape, group, hgroup, rfl | hinside⟩ |
      ⟨hshape, hinside⟩
    · exact .node hmem hget
    · exact .bucket hmem hget hshape hgroup
    · exact .inBucket hmem hget hshape hgroup
        (reached_of_mem_visitsWithin sub group v hinside sub fun _ => id)
    · exact .inGroup hmem hget hshape
        (reached_of_mem_visitsWithin sub found v hinside sub fun _ => id)

theorem reached_of_mem_visitsWithin (last : List (String × Aggregation)) (raw : Json) (v : Visit)
    (hv : v ∈ visitsWithin last raw) (requests : List (String × Aggregation))
    (hsub : ∀ request ∈ last, request ∈ requests) : Reached requests raw v := by
  match last with
  | [] => cases hv
  | (name, a) :: rest =>
    rcases mem_visitsWithin_cons.mp hv with ⟨found, hget, hinside⟩ | hrest
    · exact reached_of_mem_visits a name found v hinside requests raw
        (hsub _ List.mem_cons_self) hget
    · exact reached_of_mem_visitsWithin rest raw v hrest requests
        fun request hmem => hsub request (List.mem_cons_of_mem _ hmem)

end

theorem mem_visitsWithin_iff_reached {requests : List (String × Aggregation)} {raw : Json}
    {v : Visit} : v ∈ visitsWithin requests raw ↔ Reached requests raw v :=
  ⟨fun hv => reached_of_mem_visitsWithin requests raw v hv requests fun _ => id,
    Reached.mem_visitsWithin⟩

/-! ### Reading is looking at what is come upon -/

theorem readBucket_eq_error {name : String} {inner : Json → Except Fault Outcomes} {raw : Json}
    {fault : Fault} :
    readBucket name inner raw = .error fault ↔
      (Visit.bucket name raw).check = .error fault ∨
        (∃ u, (Visit.bucket name raw).check = .ok u) ∧ inner raw = .error fault := by
  rw [readBucket, Visit.check]
  by_cases hobject : raw.isObject = true
  · rw [if_pos hobject, if_pos hobject, map_eq_error]
    simp
  · rw [if_neg hobject, if_neg hobject]
    simp

mutual

theorem read_eq_error (a : Aggregation) (name : String) (found : Json) (fault : Fault) :
    a.read name found = .error fault ↔ (a.visits name found).mapM Visit.check = .error fault := by
  match a with
  | ⟨kind, sub⟩ =>
    rw [visits, List.mapM_cons, Visit.check, bind_eq_error_of_forall fun _ => map_eq_error]
    cases hshape : kind.shape with
    | buckets =>
      have hgroup : ∀ group fault, readBucket name (readMembers sub) group = .error fault ↔
          (Visit.bucket name group :: visitsWithin sub group).mapM Visit.check = .error fault := by
        intro group fault
        rw [readBucket_eq_error, readMembers_eq_error sub group fault, List.mapM_cons]
        exact (bind_eq_error_of_forall fun _ => map_eq_error).symm
      rw [read_of_buckets hshape, bind_eq_error]
      simp only [discard_eq_error, discard_eq_ok, exists_const]
      rw [← exists_and_right]
      -- Once the buckets can be told apart, both sides go through the same ones.
      refine or_congr_right (exists_congr fun raws => and_congr_right fun hraws => ?_)
      rw [map_eq_error, groups_of_rawBuckets hraws, mapM_flatMap_eq_error]
      exact mapM_eq_error_congr hgroup
    | single =>
      rw [read_of_single hshape, map_eq_error, readMembers_eq_error sub found fault]
      simp
    | hits =>
      rw [read_of_hits hshape, discard_eq_error]
      simp [pure, Except.pure]
    | metric =>
      rw [read_of_metric hshape]
      simp [pure, Except.pure]

theorem readMembers_eq_error (requests : List (String × Aggregation)) (raw : Json)
    (fault : Fault) :
    readMembers requests raw = .error fault ↔
      (visitsWithin requests raw).mapM Visit.check = .error fault := by
  match requests with
  | [] => simp [readMembers, visitsWithin, pure, Except.pure]
  | (name, a) :: rest =>
    rw [readMembers, visitsWithin]
    cases raw.get? name with
    | none => exact readMembers_eq_error rest raw fault
    | some found =>
      have hread := read_eq_error a name found
      rw [mapM_append_eq_error, ← hread fault, ← exists_ok_congr hread,
        ← readMembers_eq_error rest raw fault]
      exact bind_eq_error_of_forall fun _ => map_eq_error

end

/-! ### What is never come upon -/

mutual

/-- A request without those that it holds inside hits and numbers, at any depth. -/
def pruned : Aggregation → Aggregation
  | ⟨kind, sub⟩ =>
    ⟨kind, match kind.shape with
      | .buckets | .single => prunedAll sub
      | .hits | .metric => []⟩

def prunedAll : List (String × Aggregation) → List (String × Aggregation)
  | [] => []
  | (name, a) :: rest => (name, a.pruned) :: prunedAll rest

end

/-- The outcomes depend on nothing but what is read for each request. -/
theorem readMembers_congr {requests : List (String × Aggregation)} {raw other : Json}
    (hsame : ∀ request ∈ requests, (other.get? request.1).map (request.2.read request.1) =
      (raw.get? request.1).map (request.2.read request.1)) :
    readMembers requests other = readMembers requests raw := by
  induction requests with
  | nil => rfl
  | cons request rest ih =>
    obtain ⟨name, a⟩ := request
    obtain ⟨hfirst, hrest⟩ := List.forall_mem_cons.mp hsame
    rw [readMembers, readMembers, ih hrest]
    cases hraw : raw.get? name with
    | none =>
      rw [hraw, Option.map_none, Option.map_eq_none_iff] at hfirst
      rw [hfirst]
    | some found =>
      rw [hraw, Option.map_some, Option.map_eq_some_iff] at hfirst
      obtain ⟨changed, hother, hread⟩ := hfirst
      rw [hother]
      dsimp only
      rw [hread]

mutual

theorem read_pruned (a : Aggregation) : a.pruned.read = a.read := by
  funext name found
  match a with
  | ⟨kind, sub⟩ =>
    rw [pruned]
    cases hshape : kind.shape with
    | buckets => rw [read_of_buckets hshape, read_of_buckets hshape, readMembers_pruned sub]
    | single => rw [read_of_single hshape, read_of_single hshape, readMembers_pruned sub]
    | hits => rw [read_of_hits hshape, read_of_hits hshape]
    | metric => rw [read_of_metric hshape, read_of_metric hshape]

theorem readMembers_pruned (requests : List (String × Aggregation)) :
    readMembers (prunedAll requests) = readMembers requests := by
  funext raw
  match requests with
  | [] => rfl
  | (name, a) :: rest =>
    rw [prunedAll, readMembers, readMembers, read_pruned a, readMembers_pruned rest]

end

end Aggregation

open Aggregation

/-- Reading fails exactly when something malformed is reached through requested names, and then with
the first such thing in the order of reading, as a fault of the engine that has no status and names
the aggregation. What is requested inside hits and numbers makes no difference, nor does a member
that was not requested. -/
theorem Aggregations.fails_at_first_malformed (requests : Aggregations) (raw : Json) :
    ((∃ fault, requests.read raw = .error fault) ↔ ∃ v, Reached requests raw v ∧ v.Malformed) ∧
    (∀ v, v ∈ visitsWithin requests raw ↔ Reached requests raw v) ∧
    (∀ fault, requests.read raw = .error fault ↔
      ∃ before v after, visitsWithin requests raw = before ++ v :: after ∧
        (∀ u ∈ before, ¬ u.Malformed) ∧ v.Malformed ∧ fault = .reply v.cause ∧
          fault.kind = .engine ∧ fault.engineStatus? = none ∧
            fault.message =
              "Search engine error: " ++ ("aggregation '" ++ v.name ++ "': " ++ v.complaint)) ∧
    Aggregations.read (prunedAll requests) raw = requests.read raw ∧
    ∀ other : Json, (∀ name ∈ Named.names requests, other.get? name = raw.get? name) →
      requests.read other = requests.read raw := by
  have herror : ∀ fault, requests.read raw = .error fault ↔
      (visitsWithin requests raw).mapM Visit.check = .error fault :=
    readMembers_eq_error requests raw
  have hsound : ∀ v : Visit, (∃ u, v.check = .ok u) ↔ ¬ v.Malformed :=
    fun v => v.checks_check.succeeds
  refine ⟨?_, fun v => mem_visitsWithin_iff_reached, ?_, ?_, ?_⟩
  · have hfails : (∃ fault, requests.read raw = .error fault) ↔
        ¬ ∃ outcomes, requests.read raw = .ok outcomes := by
      cases requests.read raw <;> simp
    rw [hfails, exists_ok_congr herror, exists_mapM_eq_ok]
    simp only [hsound, mem_visitsWithin_iff_reached, not_forall, not_not, exists_prop]
  · intro fault
    rw [herror, mapM_eq_error, FirstFault]
    refine exists_congr fun before => exists_congr fun v => exists_congr fun after => ?_
    refine and_congr_right fun _ => ?_
    simp only [hsound, v.checks_check.fails, not_not]
    refine and_congr_right fun _ => and_congr_right fun _ => ?_
    refine iff_self_and.mpr ?_
    rintro rfl
    exact ⟨rfl, rfl, congrArg ("Search engine error: " ++ ·) v.detail_cause⟩
  · exact congrFun (readMembers_pruned requests) raw
  · intro other hsame
    refine readMembers_congr fun request hmem => ?_
    rw [hsame request.1 (List.mem_map_of_mem hmem)]

/-- Inside the first bucket comes before the second bucket. -/
example :
    let newest : Aggregation := .leaf (.topHits 1 [] [])
    let requests : Aggregations := [("gender", ⟨.terms "gender" none, [("newest", newest)]⟩)]
    let women : Json := .only "newest" (.only "hits" (.only "hits" (.bool true)))
    requests.read (.only "gender" (.only "buckets" (.list [women, .null]))) =
      .error (.reply (.aggregationHits "newest")) := rfl

end Outreach
