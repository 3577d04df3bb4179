import Outreach.Proofs.Engine.Calls
import Outreach.Proofs.Operations.Operation
import Outreach.Proofs.Query.Matching
import Outreach.Proofs.Selection.Reading

/-!
# Searches stay within the group

Every search for contacts is confined to the group of its request, whichever operation asks and
whatever the engine has answered before: the clause of the group is among those that must match.
The operations come to their queries in three ways, from a selection, from a selection and a
polygon, and clause by clause, and each of them keeps the clause. A request without a group fails
before anything is asked.
-/

namespace Outreach

/-- A search of the contacts that must match a group. -/
def SearchBody.ConfinedTo (body : SearchBody) (s : Settings) (group : String) : Prop :=
  body.index = s.contactsIndex ∧
    ∃ clauses, body.query = .compound clauses ∧ groupClause group ∈ clauses.must

/-! ### The queries -/

theorem Compound.must_confine (c : Compound) (field : String) (corners : List Place) :
    (c.confine field corners).must = c.must := by
  unfold Compound.confine
  split <;> rfl

theorem Selection.groupClause_mem_compile (s : Selection) (text : String) :
    groupClause s.group ∈ (s.compile text).must := by
  simp [Selection.compile, Selection.mustClauses]

theorem AddressLookup.group_of_read {tokens : Tokens} {lookup : AddressLookup}
    (hread : AddressLookup.read tokens = .ok lookup) :
    tokens.textAt Tokens.groupAt ≠ "" ∧ lookup.group = tokens.textAt Tokens.groupAt := by
  obtain ⟨group, hgroup, rfl⟩ := Steps.map_eq_ok.mp hread
  exact Tokens.group_eq_ok.mp hgroup

theorem NearbyLookup.group_of_read {tokens : Tokens} {lookup : NearbyLookup}
    (hread : NearbyLookup.read tokens = .ok lookup) :
    tokens.textAt Tokens.groupAt ≠ "" ∧ lookup.group = tokens.textAt Tokens.groupAt := by
  obtain ⟨radius, _, hrest⟩ := Steps.bind_eq_ok.mp hread
  obtain ⟨group, hgroup, rfl⟩ := Steps.map_eq_ok.mp hrest
  exact Tokens.group_eq_ok.mp hgroup

namespace Operations

variable {s : Settings} {r : SearchRequest} {selection : Selection}

theorem groupClause_mem_nearbyQuery (origin : Place) (lookup : NearbyLookup) :
    groupClause lookup.group ∈ (nearbyQuery origin lookup).must := by
  unfold nearbyQuery
  cases lookup.radius with
  | none => simp [Compound.addMust]
  | some radius => simp [Compound.addMust]

theorem group_of_read (hread : Selection.read r.fields = .ok selection) :
    selection.group = r.fields.textAt Tokens.groupAt :=
  (Selection.read_eq_ok.mp hread).group

/-- A body that asks for the confined query of a selection. -/
theorem confinedTo_of_confined {body : SearchBody}
    (hread : Selection.read r.fields = .ok selection) (hindex : body.index = s.contactsIndex)
    (hquery : body.query = confined r selection) :
    body.ConfinedTo s (r.fields.textAt Tokens.groupAt) := by
  refine ⟨hindex, _, hquery, ?_⟩
  rw [Compound.must_confine, ← group_of_read hread]
  exact selection.groupClause_mem_compile r.query

theorem confinedTo_searchBody (hread : Selection.read r.fields = .ok selection) :
    (searchBody s r selection).ConfinedTo s (r.fields.textAt Tokens.groupAt) := by
  have hmust := selection.groupClause_mem_compile r.query
  rw [group_of_read hread] at hmust
  by_cases hscope : selection.scope = .address
  · rw [searchBody, if_pos hscope]
    exact ⟨rfl, _, rfl, hmust⟩
  · rw [searchBody, if_neg hscope]
    exact ⟨rfl, _, rfl, hmust⟩

/-! ### The operations -/

theorem everyCall_search : (search s r).EveryCall
    (SearchBody.ConfinedTo · s (r.fields.textAt Tokens.groupAt)) := by
  apply Exchange.everyCall_lift_bind
  intro selection hread
  apply Exchange.everyCall_search_bind (confinedTo_searchBody hread)
  intro reply
  apply Exchange.everyCall_lift_bind
  intro contacts _
  cases reply.outcomes with
  | none => exact trivial
  | some outcomes =>
    by_cases hscope : selection.scope = .address
    · simp only [if_pos hscope]
      apply Exchange.everyCall_lift_bind
      intro groups _
      exact Exchange.everyCall_pure _
    · simp only [if_neg hscope]
      exact trivial

theorem everyCall_indicators : (indicators s r).EveryCall
    (SearchBody.ConfinedTo · s (r.fields.textAt Tokens.groupAt)) := by
  apply Exchange.everyCall_lift_bind
  intro selection hread
  apply Exchange.everyCall_search_bind (confinedTo_of_confined hread rfl rfl)
  intro reply
  cases reply.outcomes <;> exact trivial

theorem everyCall_clusters (precision : UInt8) : (clusters s r precision).EveryCall
    (SearchBody.ConfinedTo · s (r.fields.textAt Tokens.groupAt)) := by
  apply Exchange.everyCall_lift_bind
  intro selection hread
  apply Exchange.everyCall_search_bind (confinedTo_of_confined hread rfl rfl)
  intro reply
  exact Exchange.everyCall_pure _

theorem everyCall_addresses : (addresses s r).EveryCall
    (SearchBody.ConfinedTo · s (r.fields.textAt Tokens.groupAt)) := by
  apply Exchange.everyCall_lift_bind
  intro lookup hread
  rw [← (AddressLookup.group_of_read hread).2]
  apply Exchange.everyCall_search_bind
  · exact ⟨rfl, _, rfl, by simp [Compound.addMust]⟩
  · intro reply
    cases reply.outcomes <;> exact trivial

theorem everyCall_nearby : (nearby s r).EveryCall
    (SearchBody.ConfinedTo · s (r.fields.textAt Tokens.groupAt)) := by
  apply Exchange.everyCall_lift_bind
  intro place _
  apply Exchange.everyCall_lift_bind
  intro lookup hread
  rw [← (NearbyLookup.group_of_read hread).2]
  apply Exchange.everyCall_search_bind
  · exact ⟨rfl, _, rfl, groupClause_mem_nearbyQuery place lookup⟩
  · intro reply
    cases reply.outcomes <;> exact trivial

theorem everyCall_listing : (listing s r).EveryCall
    (SearchBody.ConfinedTo · s (r.fields.textAt Tokens.groupAt)) := by
  apply Exchange.everyCall_lift_bind
  intro selection hread
  rw [← group_of_read hread]
  apply Exchange.everyCall_search_bind
  · exact ⟨rfl, _, rfl, by simp [Compound.addMust]⟩
  · intro reply
    exact Exchange.everyCall_lift _

/-- The calls that find the interval of the dates ask the query of the pivot itself. -/
theorem everyCall_pivotInterval (levels : List Pivot.Level)
    (hread : Selection.read r.fields = .ok selection) :
    (pivotInterval s (confined r selection) levels).EveryCall
      (SearchBody.ConfinedTo · s (r.fields.textAt Tokens.groupAt)) := by
  by_cases hdate : .date ∈ levels
  · rw [pivotInterval, if_pos hdate]
    apply Exchange.everyCall_search_bind (confinedTo_of_confined hread rfl rfl)
    intro oldest
    apply Exchange.everyCall_search_bind (confinedTo_of_confined hread rfl rfl)
    intro newest
    exact Exchange.everyCall_pure _
  · rw [pivotInterval, if_neg hdate]
    exact Exchange.everyCall_pure _

theorem everyCall_pivot (names : List String) : (pivot s r names).EveryCall
    (SearchBody.ConfinedTo · s (r.fields.textAt Tokens.groupAt)) := by
  apply Exchange.everyCall_lift_bind
  intro levels _
  apply Exchange.everyCall_lift_bind
  intro selection hread
  apply Exchange.everyCall_bind (everyCall_pivotInterval levels hread)
  intro interval
  apply Exchange.everyCall_search_bind (confinedTo_of_confined hread rfl rfl)
  intro reply
  exact Exchange.everyCall_pure _

/-! ### Requests without a group -/

theorem failsAtOnce_read (hgroup : r.fields.textAt Tokens.groupAt = "") {α : Type}
    (next : Selection → Exchange α) :
    (Exchange.lift (Selection.read r.fields) >>= next).FailsAtOnce := by
  apply Exchange.failsAtOnce_lift_bind
  intro selection hread
  exact absurd hgroup (Selection.read_eq_ok.mp hread).group_ne

theorem failsAtOnce_addresses (hgroup : r.fields.textAt Tokens.groupAt = "") :
    (addresses s r).FailsAtOnce := by
  apply Exchange.failsAtOnce_lift_bind
  intro lookup hread
  exact absurd hgroup (AddressLookup.group_of_read hread).1

/-- The place and the radius are read first, and either may be what fails. -/
theorem failsAtOnce_nearby (hgroup : r.fields.textAt Tokens.groupAt = "") :
    (nearby s r).FailsAtOnce := by
  apply Exchange.failsAtOnce_lift_bind
  intro place _
  apply Exchange.failsAtOnce_lift_bind
  intro lookup hread
  exact absurd hgroup (NearbyLookup.group_of_read hread).1

theorem failsAtOnce_pivot (hgroup : r.fields.textAt Tokens.groupAt = "") (names : List String) :
    (pivot s r names).FailsAtOnce := by
  apply Exchange.failsAtOnce_lift_bind
  intro levels _
  exact failsAtOnce_read hgroup _

end Operations

/-! ### Every operation -/

namespace Operation

open Operations

variable {σ : Type} (s : Settings) (r : SearchRequest) (o : Operation)

theorem everyCall (hcontacts : o ≠ .identifiersWithin) :
    (o.exchange s r).EveryCall (SearchBody.ConfinedTo · s (r.fields.textAt Tokens.groupAt)) := by
  cases o with
  | search => exact everyCall_search
  | indicators => exact everyCall_indicators
  | clusters precision => exact everyCall_clusters precision
  | addresses => exact everyCall_addresses
  | nearby => exact everyCall_nearby
  | identifiersWithin => exact absurd rfl hcontacts
  | listing => exact everyCall_listing
  | pivot levels => exact everyCall_pivot levels

theorem failsAtOnce (hcontacts : o ≠ .identifiersWithin)
    (hgroup : r.fields.textAt Tokens.groupAt = "") : (o.exchange s r).FailsAtOnce := by
  cases o with
  | search => exact failsAtOnce_read hgroup _
  | indicators => exact failsAtOnce_read hgroup _
  | clusters precision => exact failsAtOnce_read hgroup _
  | addresses => exact failsAtOnce_addresses hgroup
  | nearby => exact failsAtOnce_nearby hgroup
  | identifiersWithin => exact absurd rfl hcontacts
  | listing => exact failsAtOnce_read hgroup _
  | pivot levels => exact failsAtOnce_pivot hgroup levels

/-- Whatever the engine answers, every call about contacts goes to their index and must match the
group of the request, so that it finds no document outside the group. Without a group there is no
call. -/
theorem calls_confined (hcontacts : o ≠ .identifiersWithin) (engine : Exchange.Engine σ)
    (state : σ) :
    let group : Query := .term Field.group (.text (r.fields.textAt Tokens.groupAt))
    let transcript := (o.exchange s r).run engine state
    (∀ body ∈ transcript.calls,
      body.index = s.contactsIndex ∧
        (∃ clauses, body.query = .compound clauses ∧ group ∈ clauses.must) ∧
          ∀ d : Document, d.satisfies body.query = true → d.truth group = true) ∧
      (r.fields.textAt Tokens.groupAt = "" →
        transcript.calls = [] ∧ ∃ fault, transcript.result = .error fault) := by
  intro group transcript
  refine ⟨?_, ?_⟩
  · intro body hbody
    obtain ⟨hindex, clauses, hquery, hmust⟩ :=
      (o.everyCall s r hcontacts).calls engine state body hbody
    refine ⟨hindex, ⟨clauses, hquery, hmust⟩, ?_⟩
    intro d hsat
    rw [hquery] at hsat
    exact d.satisfies_of_mem_must hmust hsat
  · intro hgroup
    exact (o.failsAtOnce s r hcontacts hgroup).run engine state

/-- A pivot by date within a polygon, against an engine that numbers its answers: all three calls
carry the group. -/
theorem pivot_calls_confined :
    let r : SearchRequest := ⟨"dupont", ["42", "name"], [⟨45.0, 4.0⟩, ⟨46.0, 4.0⟩, ⟨46.0, 5.0⟩], ""⟩
    let engine : Exchange.Engine UInt64 := fun n _ => (.ok ⟨n, [], some []⟩, n + 1)
    let transcript := ((pivot ["date", "city"]).exchange {} r).run engine 0
    transcript.calls.length = 3 ∧
      ∀ body ∈ transcript.calls, ∃ clauses,
        body.query = .compound clauses ∧ .term Field.group (.text "42") ∈ clauses.must := by
  intro r engine transcript
  refine ⟨rfl, ?_⟩
  intro body hbody
  have hconfined := (pivot ["date", "city"]).calls_confined {} r (by decide) engine 0
  exact (hconfined.1 body hbody).2.1

end Operation

end Outreach
