import Outreach.Proofs.Engine.Corpus
import Outreach.Proofs.Operations.Stages

/-!
# Searches within an area

The polygon of a request restricts a page of contacts, the indicators, the clusters and a pivot to
an area of addresses. The summaries have it in their query, so that no document outside the area is
found or counted. The search has it in the filter after the query, which is enough for a page of
hits. By address, however, the result is read from the aggregations, and these are made before that
filter: the groups of a search by address are those of a request without a polygon.
-/

namespace Outreach

/-- Neither the hits of a search nor its aggregations come from a document that does not satisfy the
query. -/
structure SearchBody.StaysWithin (body : SearchBody) (q : Query) : Prop where
  found : ∀ d : Document, d.isFound body = true → d.satisfies q = true
  counted : ∀ d : Document, d.isCounted body = true → d.satisfies q = true

/-! ### The bodies -/

theorem Document.satisfies_of_confine {d : Document} {c : Compound} {field : String}
    {corners : List Place} (hcorners : corners ≠ [])
    (hsat : d.satisfies (.compound (c.confine field corners)) = true) :
    d.satisfies (polygonClause field corners) = true := by
  rw [Compound.confine, if_neg (by simpa using hcorners), satisfies_compound, meets_iff] at hsat
  exact hsat.2.1 _ (List.mem_append_right _ List.mem_cons_self)

namespace Operations

variable {s : Settings} {r : SearchRequest} {selection : Selection}

theorem staysWithin_of_confined {body : SearchBody} (hpolygon : r.polygon ≠ [])
    (hquery : body.query = confined r selection) :
    body.StaysWithin (polygonClause Field.location r.polygon) := by
  have hsat : ∀ d : Document, d.satisfies body.query = true →
      d.satisfies (polygonClause Field.location r.polygon) = true := by
    intro d hd
    rw [hquery] at hd
    exact Document.satisfies_of_confine hpolygon hd
  exact ⟨fun d hfound => hsat d (Document.satisfies_of_isFound hfound),
    fun d hcounted => hsat d (Document.satisfies_of_isCounted hcounted)⟩

theorem postFilter_searchBody (hpolygon : r.polygon ≠ []) :
    (searchBody s r selection).postFilter = some (polygonClause Field.location r.polygon) := by
  have hcorners : ¬ r.polygon.isEmpty = true := by simpa using hpolygon
  by_cases hscope : selection.scope = .address
  · rw [searchBody, if_pos hscope]
    exact if_neg hcorners
  · rw [searchBody, if_neg hscope]
    exact if_neg hcorners

theorem staysWithin_searchBody (hpolygon : r.polygon ≠ []) (hscope : selection.scope ≠ .address) :
    (searchBody s r selection).StaysWithin (polygonClause Field.location r.polygon) := by
  refine ⟨fun d => Document.satisfies_of_postFilter (postFilter_searchBody hpolygon), ?_⟩
  intro d hcounted
  have hnone : (searchBody s r selection).aggregations = [] := by
    rw [searchBody, if_neg hscope]
  rw [Document.isCounted_of_nil hnone] at hcounted
  cases hcounted

/-- By address the polygon has no part in what is counted. -/
theorem isCounted_searchBody (hscope : selection.scope = .address) (d : Document) :
    d.isCounted (searchBody s r selection) =
      d.satisfies (.compound (selection.compile r.query)) := by
  rw [searchBody, if_pos hscope]
  rfl

end Operations

/-! ### The operations -/

namespace Operation

open Operations

variable {s : Settings} {r : SearchRequest} {o : Operation}

/-- The operations that a polygon restricts to an area of addresses. -/
def TakesArea : Operation → Prop
  | .search | .indicators | .clusters _ | .pivot _ => True
  | .addresses | .nearby | .identifiersWithin | .listing => False

theorem everyCall_staysWithin (hpolygon : r.polygon ≠ []) (harea : o.TakesArea)
    (haddress : ¬ (o = .search ∧ r.ByAddress)) :
    (o.exchange s r).EveryCall
      (SearchBody.StaysWithin · (polygonClause Field.location r.polygon)) := by
  apply everyCall_of_plan
  intro plan hplan
  cases o with
  | search =>
    obtain ⟨selection, hread, rfl⟩ := Steps.map_eq_ok.mp hplan
    have hscope : selection.scope ≠ .address :=
      fun hscope => haddress ⟨rfl, (byAddress_iff hread).mp hscope⟩
    exact ⟨fun _ => staysWithin_searchBody hpolygon hscope, nofun⟩
  | indicators =>
    obtain ⟨selection, _, rfl⟩ := Steps.map_eq_ok.mp hplan
    exact ⟨fun _ => staysWithin_of_confined hpolygon rfl, nofun⟩
  | clusters precision =>
    obtain ⟨selection, _, rfl⟩ := Steps.map_eq_ok.mp hplan
    exact ⟨fun _ => staysWithin_of_confined hpolygon rfl, nofun⟩
  | pivot names =>
    obtain ⟨levels, _, hplan⟩ := Steps.bind_eq_ok.mp hplan
    obtain ⟨selection, _, rfl⟩ := Steps.map_eq_ok.mp hplan
    refine ⟨fun _ => staysWithin_of_confined hpolygon rfl, ?_⟩
    intro query hquery oldest
    obtain ⟨-, hquery⟩ := Option.ite_none_right_eq_some.mp hquery
    exact staysWithin_of_confined hpolygon (Option.some.inj hquery).symm
  | addresses => cases harea
  | nearby => cases harea
  | identifiersWithin => cases harea
  | listing => cases harea

/-- A search makes its call with the body of its selection. -/
theorem everyCall_search_eq : (search.exchange s r).EveryCall fun body =>
    ∃ selection, Selection.read r.fields = .ok selection ∧ body = searchBody s r selection := by
  apply everyCall_of_plan
  intro plan hplan
  obtain ⟨selection, hread, rfl⟩ := Steps.map_eq_ok.mp hplan
  exact ⟨fun _ => ⟨selection, hread, rfl⟩, nofun⟩

/-- Whatever the engine answers, no document outside the area is a hit, and but for a search by
address none is counted in an aggregation either, the lookups before a pivot included. What a search
by address counts is what its selection asks for, inside the area or not. -/
theorem calls_within_area {σ : Type} (s : Settings) (r : SearchRequest) (o : Operation)
    (engine : Exchange.Engine σ) (state : σ) (hpolygon : r.polygon ≠ []) (harea : o.TakesArea) :
    let area := polygonClause Field.location r.polygon
    let calls := ((o.exchange s r).run engine state).calls
    (∀ body ∈ calls, ∀ d : Document, d.isFound body = true → d.satisfies area = true) ∧
      (¬ (o = .search ∧ r.ByAddress) →
        ∀ body ∈ calls, ∀ d : Document, d.isCounted body = true → d.satisfies area = true) ∧
      (o = .search → r.ByAddress → ∀ body ∈ calls, ∃ selection,
        Selection.read r.fields = .ok selection ∧ ∀ d : Document,
          d.isCounted body = d.satisfies (.compound (selection.compile r.query))) := by
  intro area calls
  refine ⟨?_, ?_, ?_⟩
  · intro body hbody
    -- By address too the hits are filtered; it is only the aggregations that are not.
    by_cases haddress : o = .search ∧ r.ByAddress
    · obtain ⟨rfl, -⟩ := haddress
      obtain ⟨selection, -, rfl⟩ := everyCall_search_eq.calls engine state body hbody
      exact fun d => Document.satisfies_of_postFilter (postFilter_searchBody hpolygon)
    · exact ((everyCall_staysWithin hpolygon harea haddress).calls engine state body hbody).found
  · intro haddress body hbody
    exact ((everyCall_staysWithin hpolygon harea haddress).calls engine state body hbody).counted
  · rintro rfl haddress body hbody
    obtain ⟨selection, hread, rfl⟩ := everyCall_search_eq.calls engine state body hbody
    exact ⟨selection, hread, isCounted_searchBody ((byAddress_iff hread).mpr haddress)⟩

/-- A pivot by dates in an area: all three calls stay within it. -/
theorem pivot_calls_within_area :
    let r : SearchRequest := ⟨"dupont", ["42", "name"], [⟨45.0, 4.0⟩, ⟨46.0, 4.0⟩, ⟨46.0, 5.0⟩], ""⟩
    let engine : Exchange.Engine UInt64 := fun n _ => (.ok ⟨n, [], some []⟩, n + 1)
    let calls := (((pivot ["date", "city"]).exchange {} r).run engine 0).calls
    calls.length = 3 ∧
      ∀ body ∈ calls, body.StaysWithin (polygonClause Field.location r.polygon) := by
  intro r engine calls
  refine ⟨rfl, ?_⟩
  intro body hbody
  obtain ⟨hfound, hcounted, -⟩ := calls_within_area {} r (pivot ["date", "city"]) engine 0
    (List.cons_ne_nil _ _) trivial
  exact ⟨hfound body hbody, hcounted (fun haddress => by cases haddress.1) body hbody⟩

/-! ### Over a list of documents -/

variable {δ : Type} {corpus : Corpus δ} {docs : List δ}

/-- But for a search by address, the documents outside the area make no difference at all. -/
theorem run_inside_area (hpolygon : r.polygon ≠ []) (harea : o.TakesArea)
    (haddress : ¬ (o = .search ∧ r.ByAddress)) :
    let area := polygonClause Field.location r.polygon
    (o.exchange s r).run (corpus.engine (corpus.inside area docs)) () =
      (o.exchange s r).run (corpus.engine docs) () := by
  apply (everyCall_staysWithin hpolygon harea haddress).run_congr
  intro state body hwithin
  rw [Corpus.engine, Corpus.engine, Corpus.answer_inside docs hwithin.found hwithin.counted]

/-- Whatever an engine makes of the body of a search, the groups are read from its reply. -/
theorem result_search {reply : SearchBody → Reply} {page : ContactsPage}
    (hpage : ((search.exchange s r).run (fun state body => (.ok (reply body), state)) ()).result =
      .ok page) :
    ∃ selection, Selection.read r.fields = .ok selection ∧
      pageGroups r (reply (searchBody s r selection)) = .ok page.groups := by
  rw [exchange_eq] at hpage
  cases hplan : search.plan s r with
  | error fault =>
    rw [hplan] at hpage
    cases hpage
  | ok plan =>
    rw [hplan] at hpage
    obtain ⟨selection, hread, rfl⟩ := Steps.map_eq_ok.mp hplan
    refine ⟨selection, hread, ?_⟩
    have hpage : pageOf r (reply (searchBody s r selection)) = .ok page := hpage
    obtain ⟨contacts, _, hpage⟩ := Steps.bind_eq_ok.mp hpage
    obtain ⟨groups, hgroups, rfl⟩ := Steps.map_eq_ok.mp hpage
    exact hgroups

/-- A search by address returns the groups of the same search without a polygon. -/
theorem groups_ignore_area (haddress : r.ByAddress) {page everywhere : ContactsPage}
    (hpage : ((search.exchange s r).run (corpus.engine docs) ()).result = .ok page)
    (heverywhere :
      ((search.exchange s { r with polygon := [] }).run (corpus.engine docs) ()).result =
        .ok everywhere) :
    page.groups = everywhere.groups := by
  obtain ⟨selection, hread, hgroups⟩ := result_search hpage
  obtain ⟨other, hother, hall⟩ := result_search heverywhere
  cases hread.symm.trans hother
  have hscope : selection.scope = .address := (byAddress_iff hread).mpr haddress
  have houtcomes : (corpus.answer docs (searchBody s r selection)).outcomes =
      (corpus.answer docs (searchBody s { r with polygon := [] } selection)).outcomes := by
    rw [searchBody, searchBody, if_pos hscope, if_pos hscope]
    rfl
  have haddressed : ({ r with polygon := [] } : SearchRequest).ByAddress := haddress
  rw [pageGroups, if_pos haddress, groupsOf, houtcomes] at hgroups
  rw [pageGroups, if_pos haddressed, groupsOf] at hall
  exact Except.ok.inj (hgroups.symm.trans hall)

/-- A contact outside the polygon of a search by address: it is counted and returned in a group,
though there is nothing inside the area to return. -/
theorem search_by_address_leaves_area :
    let corners : List Place := [⟨43.0, 1.0⟩, ⟨44.0, 1.0⟩, ⟨43.5, 2.0⟩]
    let r : SearchRequest := ⟨"", ["42", "address", "5"], corners, ""⟩
    let area := polygonClause Field.location r.polygon
    let outside : Document := .ofValues (fun _ _ => true) fun _ => false
    let corpus : Corpus Document :=
      { document := id
        hits := fun _ _ => []
        outcomes := fun _ docs => [(AddressGroup.groupsName, .buckets (docs.map fun _ =>
          let contacts : Outcome := .hits 1 [.only "id" (.integer 7)]
          ⟨.text "48.85", none, 1, [(AddressGroup.contactsName, contacts)]⟩))] }
    let transcript (docs : List Document) := (search.exchange {} r).run (corpus.engine docs) ()
    outside.satisfies area = false ∧
      (∃ body ∈ (transcript [outside]).calls, outside.isCounted body = true) ∧
      ∃ page empty, (transcript [outside]).result = .ok page ∧
        page.groups.map AddressGroup.latitude = ["48.85"] ∧
        (transcript (corpus.inside area [outside])).result = .ok empty ∧ empty.groups = [] := by
  intro corners r area outside corpus transcript
  exact ⟨rfl, ⟨_, List.mem_cons_self, rfl⟩, _, _, rfl, rfl, rfl, rfl⟩

end Operation

end Outreach
