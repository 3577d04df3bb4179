import Outreach.Proofs.Contact.Identifiers
import Outreach.Proofs.Operations.CallSequence

/-!
# The results of an operation

What comes of the replies of an engine that answers every call. Only two things can go wrong then: a
document that has to be returned is no contact, or a bucket of stored ages is of no known age. Both
fail the whole operation, with the first such document or bucket. What the engine left out is never
a fault, and on success every document has its contact, and every fact that names a contact its
identifier.
-/

namespace Outreach

open Operations

/-! ### What a reply has to be read for -/

namespace Reply

variable (reply : Reply)

/-- The outcome that the engine gave under a name, if any. -/
def outcome? (name : String) : Option Outcome := reply.outcomes.bind (Named.get? name)

/-- The buckets of the address groups, each with the outcome of its contacts; a bucket without one
is passed over. -/
def groups : List (Bucket × Outcome) :=
  ((reply.outcome? AddressGroup.groupsName).elim [] Outcome.bucketList).filterMap fun b =>
    (Named.get? AddressGroup.contactsName b.sub).map fun hits => (b, hits)

def groupedDocuments : List Json := reply.groups.flatMap fun group => group.2.documents

def nearestDocuments : List Json := (reply.outcome? Nearest.name).elim [] Outcome.documents

/-- The keys of the buckets of stored age categories. -/
def ageKeys : List String :=
  ((reply.outcome? Indicators.categoryName).elim [] Outcome.bucketList).map Bucket.keyText

end Reply

/-- Every document is read as the contact in its place. -/
def AreContacts (documents : List Json) (contacts : List Contact) : Prop :=
  List.Forall₂ (fun document contact => Contact.ofJson document = .ok contact) documents contacts

/-- Every bucket has its group, with all its contacts. -/
def AreGroups (buckets : List (Bucket × Outcome)) (groups : List AddressGroup) : Prop :=
  List.Forall₂ (fun (bucket : Bucket × Outcome) (group : AddressGroup) =>
    group.latitude = bucket.1.keyText ∧ group.count = bucket.1.count ∧
      AreContacts bucket.2.documents group.contacts) buckets groups

/-- Every fact about a contact gives its identifier, in its place; the others are passed over. -/
inductive AreIdentifiers : List Json → List Int64 → Prop
  | nil : AreIdentifiers [] []
  | named {fact : Json} {n : Int64} {facts : List Json} {identifiers : List Int64} :
    fact.IsFactOf n → AreIdentifiers facts identifiers →
      AreIdentifiers (fact :: facts) (n :: identifiers)
  | passed {fact : Json} {facts : List Json} {identifiers : List Int64} :
    (∀ n, ¬ fact.IsFactOf n) → AreIdentifiers facts identifiers →
      AreIdentifiers (fact :: facts) identifiers

/-- A key that reads as a number equal to one of the codes from zero to six. -/
def Indicators.NamesAge (key : String) : Prop :=
  ∃ x, Decimal.read key = some x ∧ ∃ code < 7, (x == Float.ofNat code) = true

namespace Operation

variable (r : SearchRequest)

/-- The documents that an operation has to return as contacts, in the order in which they are
read. -/
def documents : Operation → Reply → List Json
  | .search, reply => reply.hits ++ if r.ByAddress then reply.groupedDocuments else []
  | .listing, reply => reply.hits
  | .addresses, reply => reply.groupedDocuments
  | .nearby, reply => reply.nearestDocuments
  | .indicators, _ | .clusters _, _ | .identifiersWithin, _ | .pivot _, _ => []

/-- The keys that an operation has to read as ages. -/
def ageKeys : Operation → Reply → List String
  | .indicators, reply => reply.ageKeys
  | _, _ => []

/-- The first document that is no contact, or the first key that names no age. -/
def Fails (o : Operation) (reply : Reply) (fault : Fault) : Prop :=
  (∃ cause, Steps.FirstFault Contact.ofJson (o.documents r reply) cause ∧ fault = .shape cause) ∨
    ∃ before key after, o.ageKeys reply = before ++ key :: after ∧
      (∀ earlier ∈ before, Indicators.NamesAge earlier) ∧ ¬ Indicators.NamesAge key ∧
      fault = .unsupported (.ageBucket key)

/-- Every document of a reply that an operation has to return is returned, in its place. -/
def Returns : (o : Operation) → Reply → o.Result → Prop
  | .search, reply, page =>
    page.total = reply.total ∧ AreContacts reply.hits page.contacts ∧
      AreGroups (if r.ByAddress then reply.groups else []) page.groups
  | .listing, reply, contacts => AreContacts reply.hits contacts
  | .addresses, reply, groups => AreGroups reply.groups groups
  | .nearby, reply, contacts => AreContacts reply.nearestDocuments contacts
  | .identifiersWithin, reply, identifiers => AreIdentifiers reply.hits identifiers
  | .indicators, _, _ | .clusters _, _, _ | .pivot _, _, _ => True

end Operation

/-! ### Contacts -/

theorem contactsOf_eq_mapM (documents : List Json) :
    contactsOf documents = documents.mapM fun document =>
      (Contact.ofJson document).mapError Fault.shape :=
  Steps.mapError_mapM

theorem contactsOf_eq_ok {documents : List Json} {contacts : List Contact} :
    contactsOf documents = .ok contacts ↔ AreContacts documents contacts := by
  rw [contactsOf, Steps.mapError_eq_ok, Contact.ofHits, Steps.mapM_eq_ok, AreContacts]

theorem contactsOf_eq_error {documents : List Json} {fault : Fault} :
    contactsOf documents = .error fault ↔
      ∃ cause, Steps.FirstFault Contact.ofJson documents cause ∧ fault = .shape cause := by
  simp only [contactsOf, Steps.mapError_eq_error, Contact.ofHits, Steps.mapM_eq_error]

/-! ### Identifiers -/

theorem areIdentifiers_iff {facts : List Json} {identifiers : List Int64} :
    AreIdentifiers facts identifiers ↔ identifiers = facts.filterMap factContact? := by
  refine ⟨?_, ?_⟩
  · intro hidentifiers
    induction hidentifiers with
    | nil => rfl
    | named hfact _ ih => rw [List.filterMap_cons_some (factContact?_eq_some_iff.mpr hfact), ih]
    | passed hnone _ ih =>
      have habsent : factContact? _ = none :=
        Option.eq_none_iff_forall_ne_some.mpr fun n => mt factContact?_eq_some_iff.mp (hnone n)
      rw [List.filterMap_cons_none habsent, ih]
  · rintro rfl
    induction facts with
    | nil => exact .nil
    | cons fact facts ih =>
      cases hread : factContact? fact with
      | some n =>
        rw [List.filterMap_cons_some hread]
        exact .named (factContact?_eq_some_iff.mp hread) ih
      | none =>
        rw [List.filterMap_cons_none hread]
        refine .passed (fun n hfact => ?_) ih
        cases hread.symm.trans (factContact?_eq_some_iff.mpr hfact)

/-! ### Address groups -/

theorem groupsOf_eq_mapM (reply : Reply) :
    groupsOf reply = reply.groups.mapM fun group => AddressGroup.ofBucket group.1 group.2 := by
  unfold groupsOf Reply.groups Reply.outcome?
  cases reply.outcomes with
  | none => rfl
  | some outcomes =>
    show AddressGroup.ofOutcomes outcomes = _
    unfold AddressGroup.ofOutcomes
    cases hget : Named.get? AddressGroup.groupsName outcomes with
    | none => simp [hget]
    | some outcome => simp [hget]

theorem ofBucket_eq_ok {group : Bucket × Outcome} {value : AddressGroup} :
    AddressGroup.ofBucket group.1 group.2 = .ok value ↔
      value.latitude = group.1.keyText ∧ value.count = group.1.count ∧
        AreContacts group.2.documents value.contacts := by
  have hcontacts : ∀ contacts, group.2.contacts = .ok contacts ↔
      AreContacts group.2.documents contacts := fun _ => contactsOf_eq_ok
  rw [AddressGroup.ofBucket, Steps.map_eq_ok]
  simp only [hcontacts]
  constructor
  · rintro ⟨contacts, hread, rfl⟩
    exact ⟨rfl, rfl, hread⟩
  · rintro ⟨hlatitude, hcount, hread⟩
    refine ⟨value.contacts, hread, ?_⟩
    rw [← hlatitude, ← hcount]

theorem groupsOf_eq_ok {reply : Reply} {groups : List AddressGroup} :
    groupsOf reply = .ok groups ↔ AreGroups reply.groups groups := by
  rw [groupsOf_eq_mapM, Steps.mapM_eq_ok, AreGroups]
  simp only [ofBucket_eq_ok]

/-- Group by group or over all documents at once, the first document that is no contact is the
same. -/
theorem groupsOf_eq_error {reply : Reply} {fault : Fault} :
    groupsOf reply = .error fault ↔ contactsOf reply.groupedDocuments = .error fault := by
  rw [groupsOf_eq_mapM, contactsOf_eq_mapM, Reply.groupedDocuments, Steps.mapM_flatMap_eq_error]
  simp only [← contactsOf_eq_mapM]
  exact Steps.mapM_map_eq_error

/-! ### Pages -/

theorem returns_of_pageOf {r : SearchRequest} {reply : Reply} {page : ContactsPage}
    (hpage : pageOf r reply = .ok page) : Operation.Returns r .search reply page := by
  obtain ⟨contacts, hcontacts, hpage⟩ := Steps.bind_eq_ok.mp hpage
  obtain ⟨groups, hgroups, rfl⟩ := Steps.map_eq_ok.mp hpage
  refine ⟨rfl, contactsOf_eq_ok.mp hcontacts, ?_⟩
  rw [pageGroups] at hgroups
  by_cases haddress : r.ByAddress
  · rw [if_pos haddress] at hgroups ⊢
    exact groupsOf_eq_ok.mp hgroups
  · rw [if_neg haddress] at hgroups ⊢
    cases hgroups
    exact .nil

theorem pageOf_eq_error {r : SearchRequest} {reply : Reply} {fault : Fault} :
    pageOf r reply = .error fault ↔
      contactsOf (Operation.documents r .search reply) = .error fault := by
  -- The groups are read after the hits, as the part of the documents that comes after them.
  have hgroups : pageGroups r reply = .error fault ↔
      contactsOf (if r.ByAddress then reply.groupedDocuments else []) = .error fault := by
    rw [pageGroups]
    by_cases haddress : r.ByAddress
    · rw [if_pos haddress, if_pos haddress, groupsOf_eq_error]
    · rw [if_neg haddress, if_neg haddress, contactsOf_eq_mapM]
      simp [pure, Except.pure]
  rw [pageOf, Steps.bind_eq_error, Operation.documents, contactsOf_eq_mapM (_ ++ _),
    Steps.mapM_append_eq_error, ← contactsOf_eq_mapM, ← contactsOf_eq_mapM, ← hgroups,
    ← exists_and_right]
  exact or_congr_right (exists_congr fun contacts => and_congr_right fun _ => Steps.map_eq_error)

/-! ### Ages -/

namespace Indicators

theorem ageCode_eq_ok {key : String} : (∃ code, ageCode key = .ok code) ↔ NamesAge key := by
  unfold ageCode NamesAge
  cases Decimal.read key with
  | none => simp
  | some x =>
    simp only [Option.bind_some, Option.some.injEq, exists_eq_left']
    cases hfind : ageCodes.find? fun code => x == Float.ofNat code with
    | none =>
      have hnone := List.find?_eq_none.mp hfind
      refine iff_of_false (by simp) ?_
      rintro ⟨code, hcode, heq⟩
      exact hnone code (List.mem_range.mpr hcode) heq
    | some code =>
      have hcode : code < 7 := List.mem_range.mp (List.mem_of_find?_eq_some hfind)
      have heq : (x == Float.ofNat code) = true := by simpa using List.find?_some hfind
      exact iff_of_true ⟨code, rfl⟩ ⟨code, hcode, heq⟩

theorem ageCode_eq_error {key : String} {fault : Fault} :
    ageCode key = .error fault ↔ ¬ NamesAge key ∧ fault = .unsupported (.ageBucket key) := by
  rw [← ageCode_eq_ok, ageCode]
  split <;> simp [eq_comm]

/-- Nothing but a key of the stored ages can fail. -/
theorem blocks_eq_error {total : UInt64} {outcomes : Outcomes} {fault : Fault} :
    blocks total outcomes = .error fault ↔
      Steps.FirstFault ageCode ((bucketsOf outcomes categoryName).map Bucket.keyText) fault := by
  rw [blocks, Steps.map_eq_error, ageEntries, Steps.map_eq_error, storedAges,
    ← Steps.mapM_eq_error, List.mapM_map]
  exact Steps.mapM_map_eq_error

theorem firstFault_ageCode {keys : List String} {fault : Fault} :
    Steps.FirstFault ageCode keys fault ↔
      ∃ before key after, keys = before ++ key :: after ∧ (∀ earlier ∈ before, NamesAge earlier) ∧
        ¬ NamesAge key ∧ fault = .unsupported (.ageBucket key) := by
  simp only [Steps.FirstFault, ageCode_eq_ok, ageCode_eq_error]

end Indicators

/-! ### The last reply -/

/-- When every call is answered with a reply, the result is read from the last one. -/
theorem Operations.Plan.result_of_replied {plan : Plan} {s : Settings} {β σ : Type}
    {finish : Reply → Except Fault β} {engine : Exchange.Engine σ} {state : σ}
    (hreplied : Exchange.Replied engine ((plan.carryOut s finish).run engine state).calls state) :
    ∃ reply,
      (Exchange.answers engine ((plan.carryOut s finish).run engine state).calls state).getLast? =
        some (.ok reply) ∧
      ((plan.carryOut s finish).run engine state).result = finish reply := by
  cases hspan : plan.span with
  | none =>
    rw [carryOut_of_span_eq_none hspan] at hreplied ⊢
    obtain ⟨reply, after, hanswers, -, hresult⟩ := hreplied.run_search_bind
    exact ⟨reply, by rw [hanswers]; rfl, hresult⟩
  | some query =>
    rw [carryOut_of_span_eq_some hspan] at hreplied ⊢
    obtain ⟨oldest, state₁, hanswers, hreplied₁, hresult⟩ := hreplied.run_search_bind
    obtain ⟨newest, state₂, hanswers₁, hreplied₂, hresult₁⟩ := hreplied₁.run_search_bind
    obtain ⟨reply, state₃, hanswers₂, -, hresult₂⟩ := hreplied₂.run_search_bind
    refine ⟨reply, ?_, hresult.trans (hresult₁.trans hresult₂)⟩
    rw [hanswers, hanswers₁, hanswers₂]
    rfl

/-! ### Every operation -/

namespace Operation

variable {s : Settings} {r : SearchRequest} {o : Operation} {reply : Reply}

/-- Without documents to return and keys to read nothing fails. -/
theorem not_fails {fault : Fault} (hdocuments : o.documents r reply = [])
    (hkeys : o.ageKeys reply = []) : ¬ o.Fails r reply fault := by
  rintro (⟨cause, hfirst, -⟩ | ⟨before, key, after, hsplit, -⟩)
  · rw [hdocuments] at hfirst
    exact Steps.not_firstFault_nil hfirst
  · rw [hkeys] at hsplit
    exact List.append_ne_nil_of_right_ne_nil before (List.cons_ne_nil key after) hsplit.symm

theorem exists_conclude_pivot {names : List String} (hcheck : check s r (.pivot names) = .ok ())
    (reply : Reply) : ∃ table, conclude s r (.pivot names) reply = .ok table := by
  obtain ⟨levels, hlevels, _⟩ := Steps.bind_eq_ok.mp hcheck
  rw [conclude, hlevels]
  exact ⟨_, rfl⟩

theorem conclude_nearby : conclude s r .nearby reply = contactsOf reply.nearestDocuments := by
  simp only [conclude, Reply.nearestDocuments, Reply.outcome?]
  cases reply.outcomes with
  | none => rfl
  | some outcomes =>
    show Nearest.ofOutcomes outcomes = contactsOf ((Named.get? Nearest.name outcomes).elim [] _)
    unfold Nearest.ofOutcomes
    cases Named.get? Nearest.name outcomes <;> rfl

theorem conclude_indicators_eq_error {fault : Fault} :
    conclude s r .indicators reply = .error fault ↔
      Steps.FirstFault Indicators.ageCode reply.ageKeys fault := by
  simp only [conclude, Reply.ageKeys, Reply.outcome?]
  cases reply.outcomes with
  | none => exact iff_of_false (fun hfault => by cases hfault) Steps.not_firstFault_nil
  | some outcomes =>
    show Indicators.blocks reply.total outcomes = .error fault ↔ _
    rw [Indicators.blocks_eq_error, Indicators.bucketsOf, Option.bind_some]
    cases Named.get? Indicators.categoryName outcomes <;> rfl

/-- What is made of a reply fails with the first thing in it that cannot be read, and with nothing
else. -/
theorem conclude_eq_error (hcheck : o.check s r = .ok ()) {fault : Fault} :
    o.conclude s r reply = .error fault ↔ o.Fails r reply fault := by
  -- Without keys to read, an operation fails just as reading its documents does.
  have hdocuments : o.ageKeys reply = [] →
      (o.Fails r reply fault ↔ contactsOf (o.documents r reply) = .error fault) := by
    intro hkeys
    rw [contactsOf_eq_error, Fails, hkeys]
    simp
  cases o with
  | search => exact pageOf_eq_error.trans (hdocuments rfl).symm
  | listing => exact (hdocuments rfl).symm
  | addresses => exact groupsOf_eq_error.trans (hdocuments rfl).symm
  | nearby =>
    rw [conclude_nearby]
    exact (hdocuments rfl).symm
  | indicators =>
    rw [conclude_indicators_eq_error, Indicators.firstFault_ageCode, Fails]
    exact (or_iff_right fun ⟨_, hfirst, _⟩ => Steps.not_firstFault_nil hfirst).symm
  | clusters precision => exact iff_of_false (fun hfault => by cases hfault) (not_fails rfl rfl)
  | identifiersWithin => exact iff_of_false (fun hfault => by cases hfault) (not_fails rfl rfl)
  | pivot names =>
    obtain ⟨table, htable⟩ := exists_conclude_pivot hcheck reply
    rw [htable]
    exact iff_of_false (fun hfault => by cases hfault) (not_fails rfl rfl)

theorem returns_of_conclude {value : o.Result} (hvalue : o.conclude s r reply = .ok value) :
    o.Returns r reply value := by
  cases o with
  | search => exact returns_of_pageOf hvalue
  | listing => exact contactsOf_eq_ok.mp hvalue
  | addresses => exact groupsOf_eq_ok.mp hvalue
  | nearby =>
    rw [conclude_nearby] at hvalue
    exact contactsOf_eq_ok.mp hvalue
  | identifiersWithin =>
    cases hvalue
    exact areIdentifiers_iff.mpr rfl
  | _ => trivial

/-- What can still fail once a request has passed its checks and every call is answered with a
reply, and what is returned otherwise. Both depend on the last reply alone. A pivot, the clusters
and the identifiers within a polygon never fail; the indicators fail with the first bucket of stored
ages of no known age, and the others with the first document that is no contact. That an aggregation
is missing is never a fault. -/
theorem result_of_replies {σ : Type} (s : Settings) (r : SearchRequest) (o : Operation)
    (engine : Exchange.Engine σ) (state : σ) (hcheck : o.check s r = .ok ())
    (hreplied : Exchange.Replied engine ((o.exchange s r).run engine state).calls state) :
    let transcript := (o.exchange s r).run engine state
    ∃ reply, (Exchange.answers engine transcript.calls state).getLast? = some (.ok reply) ∧
      (∀ fault, transcript.result = .error fault ↔ o.Fails r reply fault) ∧
      (∀ value, transcript.result = .ok value → o.Returns r reply value) ∧
      (o = .identifiersWithin ∨ (∃ precision, o = .clusters precision) ∨
          (∃ names, o = .pivot names) → ∃ value, transcript.result = .ok value) ∧
      ∀ name, transcript.result ≠ .error (.missingAggregation name) := by
  intro transcript
  obtain ⟨plan, -, hexchange⟩ := exchange_of_check_ok hcheck
  rw [hexchange] at hreplied
  obtain ⟨reply, hlast, hresult⟩ := Plan.result_of_replied hreplied
  rw [← hexchange] at hlast hresult
  have hfails : ∀ fault, transcript.result = .error fault ↔ o.Fails r reply fault := by
    intro fault
    rw [← conclude_eq_error hcheck, ← hresult]
  refine ⟨reply, hlast, hfails, ?_, ?_, ?_⟩
  · intro value hvalue
    exact returns_of_conclude (hresult.symm.trans hvalue)
  · intro hnever
    cases hvalue : transcript.result with
    | ok value => exact ⟨value, rfl⟩
    | error fault =>
      have hfault := (hfails fault).mp hvalue
      rcases hnever with rfl | ⟨precision, rfl⟩ | ⟨names, rfl⟩
      · exact absurd hfault (not_fails rfl rfl)
      · exact absurd hfault (not_fails rfl rfl)
      · exact absurd hfault (not_fails rfl rfl)
  · intro name hmissing
    rcases (hfails _).mp hmissing with ⟨cause, -, hcause⟩ | ⟨before, key, after, -, -, -, hcause⟩
    · cases hcause
    · cases hcause

/-- A search by address with a contact among the hits and a group whose second document is none; and
facts in a polygon of which two are about a contact, by a number and by a text, and two are not, by
a float and without the member. -/
theorem result_of_prepared_replies :
    let byAddress : SearchRequest := ⟨"", ["42", "address", "5"], [], ""⟩
    let person : Json := .only "surname" (.text "dupont")
    let groups : Outcomes := [(AddressGroup.groupsName, .buckets [⟨.text "43.5", none, 2,
      [(AddressGroup.contactsName, .hits 2 [person, .text "dupont"])]⟩])]
    let polygon : SearchRequest := ⟨"", [], [⟨43, 1⟩, ⟨44, 1⟩, ⟨43.5, 2⟩], ""⟩
    let facts : List Json := [.only "contact_id" (.text " +7 "), .only "contact_id" (.float 3),
      person, .only "contact_id" (.integer 12)]
    ((Operation.search.exchange {} byAddress).run Exchange.scripted
        [.ok ⟨3, [person], some groups⟩]).result =
          .error (.shape (.wrong (.text "dupont") .contact)) ∧
      ((Operation.identifiersWithin.exchange {} polygon).run Exchange.scripted
        [.ok ⟨4, facts, none⟩]).result = .ok [7, 12] := by
  intro byAddress person groups polygon facts
  refine ⟨?_, ?_⟩
  · have hcheck : Operation.search.check {} byAddress = .ok () := rfl
    obtain ⟨reply, hlast, hfails, -⟩ := result_of_replies {} byAddress .search Exchange.scripted
      [.ok ⟨3, [person], some groups⟩] hcheck
      (fun answer hanswer => ⟨_, List.mem_singleton.mp hanswer⟩)
    cases hlast
    refine (hfails _).mpr (.inl ⟨_, ⟨[person, person], .text "dupont", [], ?_, ?_, rfl⟩, rfl⟩)
    · rfl
    · intro earlier hearlier
      have hperson : earlier = person := by simpa using hearlier
      rw [hperson]
      exact ⟨_, rfl⟩
  · have hcheck : Operation.identifiersWithin.check {} polygon = .ok () := rfl
    obtain ⟨reply, hlast, -, hreturns, hnever, -⟩ := result_of_replies {} polygon
      .identifiersWithin Exchange.scripted [.ok ⟨4, facts, none⟩] hcheck
      (fun answer hanswer => ⟨_, List.mem_singleton.mp hanswer⟩)
    cases hlast
    obtain ⟨identifiers, hresult⟩ := hnever (.inl rfl)
    have hidentifiers : identifiers = [7, 12] :=
      (areIdentifiers_iff.mp (hreturns _ hresult)).trans (by decide +kernel)
    rw [hresult, hidentifiers]

end Operation

end Outreach
