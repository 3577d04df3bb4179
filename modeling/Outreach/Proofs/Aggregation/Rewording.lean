import Mathlib.Logic.Relation
import Outreach.Proofs.Aggregation.Malformed

/-!
# Replies in other words

The members of an object have no order that matters, and an engine may say more than was asked for.
A reply is reworded by putting the members of one object in another order, or by adding a member
under a name that means nothing there. What means something depends on where the object stands:
`Site` tells the places of a reply apart, with the names that are known at each. A look-up finds the
same before and after, or something that is itself reworded, and the reader does nothing but look
names up.
-/

namespace Outreach

namespace Aggregation

/-! ### The places of a reply -/

/-- What a value in a reply is to its reader. -/
inductive Site
  /-- The object that holds the outcomes of requests under their names. -/
  | outcomes (requests : List (String × Aggregation))
  /-- What is held for a request. -/
  | node (a : Aggregation)
  /-- The list of the buckets of a request, or the object that holds them under keys. -/
  | buckets (sub : List (String × Aggregation))
  /-- One of them. -/
  | bucket (sub : List (String × Aggregation))

namespace Site

/-- The requests whose outcomes are found there. -/
def requests : Site → List (String × Aggregation)
  | .outcomes requests => requests
  | .node a => a.sub
  | .buckets sub | .bucket sub => sub

/-- Whether members are told apart by their names; buckets come in an order of their own. -/
def IsRecord : Site → Prop
  | .buckets _ => False
  | _ => True

/-- The names under which something is looked up. -/
def known : Site → List String
  | .outcomes requests => Named.names requests
  | .node a =>
    match a.kind.shape with
    | .buckets => ["buckets"]
    | .single => "doc_count" :: Named.names a.sub
    | .hits => ["hits"]
    | .metric => ["value"]
  | .buckets _ => []
  | .bucket sub => bucketMembers ++ Named.names sub

/-- What is found under a name. The key of a bucket is taken as it stands, even where a request has
the same name. -/
inductive Holds : Site → String → Site → Prop
  | outcome {requests name a} : (name, a) ∈ requests → Holds (.outcomes requests) name (.node a)
  | buckets {a : Aggregation} {name} : a.kind.shape = .buckets → name = "buckets" →
      Holds (.node a) name (.buckets a.sub)
  | inGroup {a : Aggregation} {name b} : a.kind.shape = .single → (name, b) ∈ a.sub →
      Holds (.node a) name (.node b)
  | inBucket {sub name b} : name ≠ "key" → (name, b) ∈ sub → Holds (.bucket sub) name (.node b)

end Site

/-- One object of a reply put in other words: its members in another order, or a further member
under a name that is not known there. -/
inductive Rewords : Site → Json → Json → Prop
  | reordered {site members others} : site.IsRecord → (Named.names members).Nodup →
      members.Perm others → Rewords site (.object members) (.object others)
  | inserted {site before after name value} : site.IsRecord → name ∉ site.known →
      Rewords site (.object (before ++ after)) (.object (before ++ (name, value) :: after))
  | member {site name inner members found changed} : site.Holds name inner →
      Named.get? name members = some found → Rewords inner found changed →
      Rewords site (.object members) (.object (Named.insert name changed members))
  | listed {sub before group changed after} : Rewords (.bucket sub) group changed →
      Rewords (.buckets sub) (.list (before ++ group :: after)) (.list (before ++ changed :: after))
  | keyed {sub before key group changed after} : Rewords (.bucket sub) group changed →
      Rewords (.buckets sub) (.object (before ++ (key, group) :: after))
        (.object (before ++ (key, changed) :: after))

mutual

/-- No name is requested twice in one place, at any depth. -/
def Distinct : Aggregation → Prop
  | ⟨_, sub⟩ => (Named.names sub).Nodup ∧ EachDistinct sub

def EachDistinct : List (String × Aggregation) → Prop
  | [] => True
  | (_, a) :: rest => a.Distinct ∧ EachDistinct rest

end

def Site.Distinct (site : Site) : Prop :=
  (Named.names site.requests).Nodup ∧ EachDistinct site.requests

theorem EachDistinct.of_mem {requests : List (String × Aggregation)} {name : String}
    {a : Aggregation} (h : EachDistinct requests) (hmem : (name, a) ∈ requests) :
    (Site.node a).Distinct := by
  induction requests with
  | nil => cases hmem
  | cons request rest ih =>
    obtain ⟨other, b⟩ := request
    obtain ⟨hfirst, hrest⟩ := h
    rcases List.mem_cons.mp hmem with heq | hmem
    · cases heq
      cases a
      exact hfirst
    · exact ih hrest hmem

theorem Site.Holds.distinct {site inner : Site} {name : String} (h : site.Holds name inner)
    (hdistinct : site.Distinct) : inner.Distinct := by
  cases h with
  | outcome hmem => exact hdistinct.2.of_mem hmem
  | buckets _ _ => exact hdistinct
  | inGroup _ hmem => exact hdistinct.2.of_mem hmem
  | inBucket _ hmem => exact hdistinct.2.of_mem hmem

theorem Site.Holds.isRecord {site inner : Site} {name : String} (h : site.Holds name inner) :
    site.IsRecord := by
  cases h <;> trivial

/-! ### What the reader makes of a place -/

/-- The buckets of a request, read from what stands under `buckets`. -/
def readGroups (sub : List (String × Aggregation)) (name : String) (groups : Json) :
    Except Fault (List Bucket) :=
  rawBuckets name (.only "buckets" groups) >>= List.mapM (readBucket name (readMembers sub))

/-- Two values of which the reader makes the same. -/
def Site.Same : Site → Json → Json → Prop
  | .outcomes requests, v, w => readMembers requests w = readMembers requests v
  | .node a, v, w => ∀ name, a.read name w = a.read name v
  | .buckets sub, v, w => ∀ name, readGroups sub name w = readGroups sub name v
  | .bucket sub, v, w =>
    ∀ name, readBucket name (readMembers sub) w = readBucket name (readMembers sub) v

/-- Two objects in which a look-up under a known name finds the same, or two values of which the
reader makes the same, neither of them a number or a text. -/
structure Agree (site : Site) (v w : Json) : Prop where
  object : v.isObject = true ∧ w.isObject = true
  members : ∀ name ∈ site.known, w.get? name = v.get? name ∨
    ∃ inner found changed, site.Holds name inner ∧ v.get? name = some found ∧
      w.get? name = some changed ∧ inner.Same found changed ∧
        changed.uint64? = found.uint64? ∧ changed.text? = found.text?

section Agree

variable {site : Site} {v w : Json} {name : String}

theorem Agree.get?_eq (h : Agree site v w) (hknown : name ∈ site.known)
    (hheld : ∀ inner, ¬ site.Holds name inner) : w.get? name = v.get? name := by
  rcases h.members name hknown with heq | ⟨inner, found, changed, hholds, -⟩
  · exact heq
  · exact absurd hholds (hheld inner)

theorem Agree.uint64?_eq (h : Agree site v w) (hknown : name ∈ site.known) :
    (w.get? name).bind Json.uint64? = (v.get? name).bind Json.uint64? := by
  rcases h.members name hknown with heq | ⟨inner, found, changed, -, hv, hw, -, hsame, -⟩
  · rw [heq]
  · rw [hv, hw]
    exact hsame

theorem Agree.text?_eq (h : Agree site v w) (hknown : name ∈ site.known) :
    (w.get? name).bind Json.text? = (v.get? name).bind Json.text? := by
  rcases h.members name hknown with heq | ⟨inner, found, changed, -, hv, hw, -, -, hsame⟩
  · rw [heq]
  · rw [hv, hw]
    exact hsame

theorem Agree.docCount_eq (h : Agree site v w) (hknown : "doc_count" ∈ site.known) :
    docCount w = docCount v := by
  rw [docCount, docCount, h.uint64?_eq hknown]

/-- Outcomes under names that are requested only once are made from what is found under each. -/
theorem readMembers_of_lookups {requests : List (String × Aggregation)}
    (hnodup : (Named.names requests).Nodup)
    (hfound : ∀ request ∈ requests, w.get? request.1 = v.get? request.1 ∨
      ∃ b found changed, (request.1, b) ∈ requests ∧ v.get? request.1 = some found ∧
        w.get? request.1 = some changed ∧ (Site.node b).Same found changed) :
    readMembers requests w = readMembers requests v := by
  refine readMembers_congr fun request hmem => ?_
  rcases hfound request hmem with heq | ⟨b, found, changed, hb, hv, hw, hsame⟩
  · rw [heq]
  · have hrequest : b = request.2 := Option.some.inj
      ((Named.get?_of_mem hnodup hb).symm.trans (Named.get?_of_mem hnodup hmem))
    rw [hv, hw, Option.map_some, Option.map_some, ← hrequest, hsame]

theorem rawBuckets_congr (heq : w.get? "buckets" = v.get? "buckets") :
    rawBuckets name w = rawBuckets name v := by
  rw [rawBuckets, rawBuckets, heq]

theorem read_of_groups {kind : Kind} {sub : List (String × Aggregation)} {groups : Json}
    (hshape : kind.shape = .buckets) (hget : v.get? "buckets" = some groups) :
    read ⟨kind, sub⟩ name v = do return .buckets (← readGroups sub name groups) := by
  have hraw : rawBuckets name (.only "buckets" groups) = rawBuckets name v :=
    rawBuckets_congr hget.symm
  rw [read_of_buckets hshape, readGroups, hraw]
  cases rawBuckets name v <;> rfl

theorem Agree.same_outcomes {requests : List (String × Aggregation)}
    (h : Agree (.outcomes requests) v w) (hdistinct : (Site.outcomes requests).Distinct) :
    (Site.outcomes requests).Same v w := by
  refine readMembers_of_lookups hdistinct.1 fun request hmem => ?_
  refine (h.members request.1 (List.mem_map_of_mem hmem)).imp_right ?_
  rintro ⟨_, found, changed, ⟨hb⟩, hv, hw, hsame, -⟩
  exact ⟨_, found, changed, hb, hv, hw, hsame⟩

theorem Agree.same_bucket {sub : List (String × Aggregation)} (h : Agree (.bucket sub) v w)
    (hdistinct : (Site.bucket sub).Distinct) : (Site.bucket sub).Same v w := by
  intro name
  have hkey : w.get? "key" = v.get? "key" :=
    h.get?_eq (by simp [Site.known, bucketMembers]) fun _ hholds => by
      cases hholds with
      | inBucket hne _ => exact hne rfl
  have hlabel : (w.get? "key_as_string").bind Json.text? =
      (v.get? "key_as_string").bind Json.text? :=
    h.text?_eq (by simp [Site.known, bucketMembers])
  have hcount : docCount w = docCount v := h.docCount_eq (by simp [Site.known, bucketMembers])
  have hinner : readMembers sub w = readMembers sub v := by
    refine readMembers_of_lookups hdistinct.1 fun request hmem => ?_
    have hknown := List.mem_append_right bucketMembers (List.mem_map_of_mem (f := Prod.fst) hmem)
    refine (h.members request.1 hknown).imp_right ?_
    rintro ⟨_, found, changed, hholds, hv, hw, hsame, -⟩
    cases hholds with
    | inBucket _ hb => exact ⟨_, found, changed, hb, hv, hw, hsame⟩
  rw [readBucket, readBucket, if_pos h.object.1, if_pos h.object.2, hkey, hlabel, hcount, hinner]

theorem Agree.same_node {a : Aggregation} (h : Agree (.node a) v w)
    (hdistinct : (Site.node a).Distinct) : (Site.node a).Same v w := by
  intro name
  obtain ⟨kind, sub⟩ := a
  cases hshape : kind.shape with
  | buckets =>
    rcases h.members "buckets" (by simp [Site.known, hshape]) with
      heq | ⟨inner, found, changed, hholds, hv, hw, hsame, -⟩
    · rw [read_of_buckets hshape, read_of_buckets hshape, rawBuckets_congr heq]
    · cases hholds with
      | buckets _ _ => rw [read_of_groups hshape hv, read_of_groups hshape hw, hsame name]
      | inGroup hsingle _ => cases hshape.symm.trans hsingle
  | single =>
    have hcount : docCount w = docCount v := h.docCount_eq (by simp [Site.known, hshape])
    have hinner : readMembers sub w = readMembers sub v := by
      refine readMembers_of_lookups hdistinct.1 fun request hmem => ?_
      have hknown : request.1 ∈ (Site.node ⟨kind, sub⟩).known := by
        simp only [Site.known, hshape]
        exact List.mem_cons_of_mem _ (List.mem_map_of_mem hmem)
      refine (h.members request.1 hknown).imp_right ?_
      rintro ⟨_, found, changed, hholds, hv, hw, hsame, -⟩
      cases hholds with
      | buckets hbuckets _ => cases hshape.symm.trans hbuckets
      | inGroup _ hb => exact ⟨_, found, changed, hb, hv, hw, hsame⟩
    rw [read_of_single hshape, read_of_single hshape, hcount, hinner]
  | hits =>
    have hhits : w.get? "hits" = v.get? "hits" := by
      refine h.get?_eq (by simp [Site.known, hshape]) fun inner hholds => ?_
      cases hholds with
      | buckets hbuckets _ => cases hshape.symm.trans hbuckets
      | inGroup hsingle _ => cases hshape.symm.trans hsingle
    rw [read_of_hits hshape, read_of_hits hshape, readHits, readHits, hhits]
  | metric =>
    have hvalue : w.get? "value" = v.get? "value" := by
      refine h.get?_eq (by simp [Site.known, hshape]) fun inner hholds => ?_
      cases hholds with
      | buckets hbuckets _ => cases hshape.symm.trans hbuckets
      | inGroup hsingle _ => cases hshape.symm.trans hsingle
    rw [read_of_metric hshape, read_of_metric hshape, readMetric, readMetric, hvalue]

/-- The reader looks names up, and does nothing else with an object. -/
theorem Agree.same (h : Agree site v w) (hrecord : site.IsRecord) (hdistinct : site.Distinct) :
    site.Same v w := by
  cases site with
  | outcomes requests => exact h.same_outcomes hdistinct
  | node a => exact h.same_node hdistinct
  | buckets sub => cases hrecord
  | bucket sub => exact h.same_bucket hdistinct

end Agree

/-! ### Rewording -/

section Rewords

variable {site : Site} {v w : Json}

/-- Neither side is a number or a text. -/
theorem Rewords.scalar_eq (h : Rewords site v w) :
    w.uint64? = v.uint64? ∧ w.text? = v.text? := by
  cases h <;> exact ⟨rfl, rfl⟩

theorem agree_of_perm {members others : List (String × Json)}
    (hnodup : (Named.names members).Nodup) (hperm : members.Perm others) :
    Agree site (.object members) (.object others) where
  object := ⟨rfl, rfl⟩
  members _ _ := .inl (Named.get?_perm hnodup hperm)

theorem agree_of_inserted {before after : List (String × Json)} {name : String} {value : Json}
    (hname : name ∉ site.known) :
    Agree site (.object (before ++ after)) (.object (before ++ (name, value) :: after)) where
  object := ⟨rfl, rfl⟩
  members _ hknown := .inl (Named.get?_append_cons fun heq => hname (heq ▸ hknown))

theorem agree_of_member {members : List (String × Json)} {name : String} {inner : Site}
    {found changed : Json} (hholds : site.Holds name inner)
    (hget : Named.get? name members = some found) (hrewords : Rewords inner found changed)
    (hsame : inner.Same found changed) :
    Agree site (.object members) (.object (Named.insert name changed members)) where
  object := ⟨rfl, rfl⟩
  members known _ := by
    have hafter := Named.get?_insert name known changed members
    by_cases hknown : name = known
    · subst hknown
      rw [if_pos rfl] at hafter
      exact .inr ⟨inner, found, changed, hholds, hget, hafter, hsame, hrewords.scalar_eq⟩
    · rw [if_neg hknown] at hafter
      exact .inl hafter

theorem mapM_replaced {α β ε : Type} {f : α → Except ε β} {x y : α} (before after : List α)
    (hsame : f y = f x) : (before ++ y :: after).mapM f = (before ++ x :: after).mapM f := by
  rw [List.mapM_append, List.mapM_append, List.mapM_cons, List.mapM_cons, hsame]

/-- One rewording changes nothing in what the reader makes of a place. -/
theorem Rewords.same (h : Rewords site v w) (hdistinct : site.Distinct) : site.Same v w := by
  induction h with
  | reordered hrecord hnodup hperm => exact (agree_of_perm hnodup hperm).same hrecord hdistinct
  | inserted hrecord hname => exact (agree_of_inserted hname).same hrecord hdistinct
  | member hholds hget hinner ih =>
    have hsame := ih (hholds.distinct hdistinct)
    exact (agree_of_member hholds hget hinner hsame).same hholds.isRecord hdistinct
  | @listed sub before group changed after _ ih =>
    intro name
    exact mapM_replaced before after (ih hdistinct name)
  | @keyed sub before key group changed after _ ih =>
    intro name
    show ((before ++ (key, changed) :: after).map Prod.snd).mapM _ =
      ((before ++ (key, group) :: after).map Prod.snd).mapM _
    rw [List.map_append, List.map_append, List.map_cons, List.map_cons]
    exact mapM_replaced _ _ (ih hdistinct name)

end Rewords

end Aggregation

open Aggregation

/-- However often and wherever a reply is put in other words, reading it gives the same outcomes or
the same fault. -/
theorem Aggregations.read_of_reworded {requests : Aggregations} {raw other : Json}
    (hdistinct : (Site.outcomes requests).Distinct)
    (hreworded : Relation.ReflTransGen (Rewords (.outcomes requests)) raw other) :
    requests.read other = requests.read raw := by
  induction hreworded with
  | refl => rfl
  | tail _ hstep ih => exact Eq.trans (hstep.same hdistinct) ih

/-- A reply that says how long it took, how many are in no bucket, and of the first bucket the last
thing first; and its second bucket is none. -/
theorem Aggregations.read_of_reworded_bucket :
    let gender : Aggregation := ⟨.terms "gender" none, [("young", .leaf (.missing "birthdate"))]⟩
    let requests : Aggregations := [("gender", gender)]
    let women : List (String × Json) := [("key", .text "F"), ("doc_count", .integer 3),
      ("young", .only "doc_count" (.integer 1))]
    let raw : Json := .only "gender" (.only "buckets" (.list [.object women, .null]))
    let other : Json := .object [("took", .integer 12), ("gender", .object
      [("others", .integer 0), ("buckets", .list [.object women.reverse, .null])])]
    (Site.outcomes requests).Distinct ∧
      Relation.ReflTransGen (Rewords (.outcomes requests)) raw other ∧
      requests.read other = requests.read raw ∧
      requests.read raw = .error (.reply (.bucket "gender")) := by
  intro gender requests women raw other
  have hdistinct : (Site.outcomes requests).Distinct := by
    simp [Site.Distinct, Site.requests, requests, gender, EachDistinct, Distinct, leaf, Named.names]
  have hgender : (Site.outcomes requests).Holds "gender" (.node gender) :=
    .outcome List.mem_cons_self
  have hbuckets : (Site.node gender).Holds "buckets" (.buckets gender.sub) := .buckets rfl rfl
  have hreworded : Relation.ReflTransGen (Rewords (.outcomes requests)) raw other := by
    have htook := @Rewords.inserted (.outcomes requests) []
      [("gender", .only "buckets" (.list [.object women, .null]))] "took" (.integer 12) trivial
      (by decide)
    have hothers := @Rewords.inserted (.node gender) []
      [("buckets", .list [.object women, .null])] "others" (.integer 0) trivial (by decide)
    have hwomen : Rewords (.bucket gender.sub) (.object women) (.object women.reverse) :=
      .reordered trivial (by decide) women.reverse_perm.symm
    have hlist := @Rewords.listed gender.sub [] _ _ [.null] hwomen
    exact ((Relation.ReflTransGen.single htook).tail (.member hgender rfl hothers)).tail
      (.member hgender rfl (.member hbuckets rfl hlist))
  exact ⟨hdistinct, hreworded, read_of_reworded hdistinct hreworded, rfl⟩

end Outreach
