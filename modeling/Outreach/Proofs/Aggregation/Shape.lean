import Outreach.Proofs.Aggregation.ReadBack
import Outreach.Proofs.Json.Members

/-!
# The shape of read outcomes

Reading follows the tree of requests, and so do the outcomes, whatever the engine answered: below
every group stand the outcomes of those requests that the group holds a member for, in the order of
the requests, each in the shape that the kind of its request implies. Only the reader itself is
unfolded for this, one step for a request and one for a list of them.
-/

namespace Outreach

theorem exists_of_forall₂ {α β : Type} {R : α → β → Prop} {xs : List α} {ys : List β}
    (h : List.Forall₂ R xs ys) {y : β} (hy : y ∈ ys) : ∃ x ∈ xs, R x y := by
  induction h with
  | nil => cases hy
  | cons hfirst _ ih =>
    rcases List.mem_cons.mp hy with rfl | hy
    · exact ⟨_, List.mem_cons_self, hfirst⟩
    · obtain ⟨x, hx, hrel⟩ := ih hy
      exact ⟨x, List.mem_cons_of_mem _ hx, hrel⟩

/-- The groups that a node holds, in a list or under names of their own. -/
def Json.groups (node : Json) : List Json :=
  match node.get? "buckets" with
  | some (.list items) => items
  | some (.object members) => members.map Prod.snd
  | _ => []

namespace Aggregation

mutual

/-- An outcome that answers a request from a node: in the shape of the request, and with the inner
requests answered from every group of the node. -/
def Answers : Aggregation → Json → Outcome → Prop
  | ⟨kind, sub⟩, node, outcome =>
    outcome.shape = kind.shape ∧
      match outcome with
      | .buckets items => List.Forall₂ (fun raw b => AnswersEach sub raw b.sub) node.groups items
      | .single _ inner => AnswersEach sub node inner
      | .hits _ _ | .metric _ => True

/-- The outcomes of those requests for which the object has a member, in their order, and nothing
else. -/
def AnswersEach : List (String × Aggregation) → Json → Outcomes → Prop
  | [], _, outcomes => outcomes = []
  | (name, a) :: rest, raw, outcomes =>
    match raw.get? name with
    | none => AnswersEach rest raw outcomes
    | some node => ∃ outcome later, outcomes = (name, outcome) :: later ∧
        a.Answers node outcome ∧ AnswersEach rest raw later

end

theorem groups_of_rawBuckets {name : String} {node : Json} {raws : List Json}
    (hraws : rawBuckets name node = .ok raws) : node.groups = raws := by
  unfold rawBuckets at hraws
  unfold Json.groups
  split at hraws
  · rename_i habsent
    rw [habsent]
    exact Except.ok.inj hraws
  · rename_i hlist
    rw [hlist]
    exact Except.ok.inj hraws
  · rename_i hobject
    rw [hobject]
    exact Except.ok.inj hraws
  · cases hraws

theorem sub_of_readBucket {name : String} {inner : Json → Except Fault Outcomes} {raw : Json}
    {b : Bucket} (hread : readBucket name inner raw = .ok b) : inner raw = .ok b.sub := by
  unfold readBucket at hread
  split at hread
  · obtain ⟨sub, hsub, rfl⟩ := Steps.map_eq_ok.mp hread
    exact hsub
  · cases hread

theorem shape_of_readHits {name : String} {node : Json} {outcome : Outcome}
    (hread : readHits name node = .ok outcome) :
    ∃ total documents, outcome = .hits total documents := by
  unfold readHits at hread
  dsimp only at hread
  split at hread
  · exact ⟨_, _, (Except.ok.inj hread).symm⟩
  · exact ⟨_, _, (Except.ok.inj hread).symm⟩
  · cases hread

mutual

theorem answers_of_read (a : Aggregation) (name : String) (node : Json) (outcome : Outcome)
    (hread : a.read name node = .ok outcome) : a.Answers node outcome := by
  match a with
  | ⟨kind, sub⟩ =>
    cases hshape : kind.shape with
    | buckets =>
      rw [read_of_buckets hshape] at hread
      obtain ⟨raws, hraws, hread⟩ := Steps.bind_eq_ok.mp hread
      obtain ⟨items, hitems, rfl⟩ := Steps.map_eq_ok.mp hread
      refine ⟨hshape.symm, ?_⟩
      rw [groups_of_rawBuckets hraws]
      refine (Steps.mapM_eq_ok.mp hitems).imp ?_
      intro raw b hb
      exact answersEach_of_readMembers sub raw b.sub (sub_of_readBucket hb)
    | single =>
      rw [read_of_single hshape] at hread
      obtain ⟨inner, hinner, rfl⟩ := Steps.map_eq_ok.mp hread
      exact ⟨hshape.symm, answersEach_of_readMembers sub node inner hinner⟩
    | hits =>
      rw [read_of_hits hshape] at hread
      obtain ⟨total, documents, rfl⟩ := shape_of_readHits hread
      exact ⟨hshape.symm, trivial⟩
    | metric =>
      rw [read_of_metric hshape] at hread
      cases hread
      exact ⟨hshape.symm, trivial⟩

theorem answersEach_of_readMembers (requests : List (String × Aggregation)) (raw : Json)
    (outcomes : Outcomes) (hread : readMembers requests raw = .ok outcomes) :
    AnswersEach requests raw outcomes := by
  match requests with
  | [] => exact (Except.ok.inj hread).symm
  | (name, a) :: rest =>
    rw [readMembers] at hread
    rw [AnswersEach]
    cases hget : raw.get? name with
    | none =>
      rw [hget] at hread
      exact answersEach_of_readMembers rest raw outcomes hread
    | some node =>
      rw [hget] at hread
      obtain ⟨outcome, hfirst, hread⟩ := Steps.bind_eq_ok.mp hread
      obtain ⟨later, hlater, rfl⟩ := Steps.map_eq_ok.mp hread
      exact ⟨outcome, later, rfl, answers_of_read a name node outcome hfirst,
        answersEach_of_readMembers rest raw later hlater⟩

end

section Answers

variable {requests : List (String × Aggregation)} {raw : Json} {outcomes : Outcomes}

theorem AnswersEach.names_eq (h : AnswersEach requests raw outcomes) :
    Named.names outcomes =
      (Named.names requests).filter fun name => (raw.get? name).isSome := by
  induction requests generalizing outcomes with
  | nil =>
    rw [AnswersEach] at h
    rw [h]
    rfl
  | cons request rest ih =>
    obtain ⟨name, a⟩ := request
    rw [AnswersEach] at h
    rw [Named.names, Named.names, List.map_cons, List.filter_cons]
    split at h
    · rename_i hget
      rw [hget]
      exact ih h
    · rename_i node hget
      obtain ⟨outcome, later, rfl, -, hlater⟩ := h
      rw [hget]
      exact congrArg (name :: ·) (ih hlater)

/-- What is found among the outcomes answers a request of that name. -/
theorem AnswersEach.request_of_get? (h : AnswersEach requests raw outcomes) {name : String}
    {outcome : Outcome} (hget : Named.get? name outcomes = some outcome) :
    ∃ a node, (name, a) ∈ requests ∧ a.Answers node outcome := by
  induction requests generalizing outcomes with
  | nil =>
    rw [AnswersEach] at h
    rw [h] at hget
    cases hget
  | cons request rest ih =>
    obtain ⟨known, a⟩ := request
    have hrest : ∀ later, AnswersEach rest raw later → Named.get? name later = some outcome →
        ∃ b node, (name, b) ∈ (known, a) :: rest ∧ b.Answers node outcome := by
      intro later hlater hfound
      obtain ⟨b, node, hmem, hanswers⟩ := ih hlater hfound
      exact ⟨b, node, List.mem_cons_of_mem _ hmem, hanswers⟩
    rw [AnswersEach] at h
    split at h
    · exact hrest _ h hget
    · rename_i node hnode
      obtain ⟨first, later, rfl, hfirst, hlater⟩ := h
      by_cases hknown : known = name
      · subst hknown
        rw [Named.get?, if_pos rfl] at hget
        cases hget
        exact ⟨a, node, List.mem_cons_self, hfirst⟩
      · rw [Named.get?, if_neg hknown] at hget
        exact hrest _ hlater hget

theorem AnswersEach.of_singleton {name : String} {a : Aggregation} {outcome : Outcome}
    (h : AnswersEach [(name, a)] raw outcomes)
    (hget : Named.get? name outcomes = some outcome) : ∃ node, a.Answers node outcome := by
  obtain ⟨b, node, hmem, hanswers⟩ := h.request_of_get? hget
  rw [List.mem_singleton, Prod.mk.injEq] at hmem
  exact ⟨node, hmem.2 ▸ hanswers⟩

theorem AnswersEach.eq_nil_of_get? {name : String} {a : Aggregation}
    (h : AnswersEach [(name, a)] raw outcomes) (hget : Named.get? name outcomes = none) :
    outcomes = [] := by
  have hsub : Named.names outcomes ⊆ [name] := by
    rw [h.names_eq]
    exact (List.filter_sublist).subset
  have habsent := (Named.get?_eq_none_iff name outcomes).mp hget
  rw [List.eq_nil_iff_forall_not_mem]
  intro entry hentry
  have hname := List.mem_map_of_mem (f := Prod.fst) hentry
  exact habsent (List.mem_singleton.mp (hsub hname) ▸ hname)

variable {a : Aggregation} {node : Json} {outcome : Outcome}

theorem Answers.group (h : a.Answers node outcome) (hshape : a.kind.shape = .single) :
    ∃ count inner, outcome = .single count inner ∧ AnswersEach a.sub node inner := by
  obtain ⟨kind, sub⟩ := a
  obtain ⟨hsame, hinside⟩ := h
  rw [hshape] at hsame
  cases outcome with
  | single count inner => exact ⟨count, inner, rfl, hinside⟩
  | _ => cases hsame

theorem Answers.buckets (h : a.Answers node outcome) (hshape : a.kind.shape = .buckets) :
    ∃ items, outcome = .buckets items ∧ ∀ b ∈ items, ∃ raw, AnswersEach a.sub raw b.sub := by
  obtain ⟨kind, sub⟩ := a
  obtain ⟨hsame, hinside⟩ := h
  rw [hshape] at hsame
  cases outcome with
  | buckets items =>
    refine ⟨items, rfl, fun b hb => ?_⟩
    obtain ⟨raw, -, hraw⟩ := exists_of_forall₂ hinside hb
    exact ⟨raw, hraw⟩
  | _ => cases hsame

end Answers

end Aggregation

end Outreach
