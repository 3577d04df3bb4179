import Outreach.Engine.Body
import Outreach.Proofs.Query.Injectivity

/-!
# Searches from their documents

A search is known from the document that is sent for it, up to its index. The parts of a search are
members of their own names, and aggregations stand in the order in which they were asked for, each
one under its name with the name of its kind in front of what is inside it.
-/

namespace Outreach

/-! ### Dates and sort keys -/

/-- A date counted back from the day of the evaluation. -/
def DateBound.Relative : DateBound → Prop
  | .today | .yearsAgo _ => True
  | .day _ | .instant _ => False

namespace DateBound

theorem today_ne_yearsAgo (years : UInt32) :
    expression .today ≠ expression (.yearsAgo years) := by
  intro heq
  have hchars := congrArg String.toList heq
  simp [expression] at hchars

theorem yearsAgo_expression_injective :
    Function.Injective fun years => expression (.yearsAgo years) := by
  intro m n heq
  have hdigits : toString m.toNat = toString n.toNat :=
    (String.append_right_inj "now-").mp ((String.append_left_inj "y/d").mp heq)
  exact UInt32.toNat_inj.mp (Text.toString_injective hdigits)

theorem expression_inj {a b : DateBound} (ha : a.Relative) (hb : b.Relative)
    (heq : a.expression = b.expression) : a = b := by
  cases a with
  | today =>
    cases b with
    | today => rfl
    | yearsAgo years => exact absurd heq (today_ne_yearsAgo years)
    | day d => exact hb.elim
    | instant t => exact hb.elim
  | yearsAgo years =>
    cases b with
    | today => exact absurd heq.symm (today_ne_yearsAgo years)
    | yearsAgo others => rw [yearsAgo_expression_injective heq]
    | day d => exact hb.elim
    | instant t => exact hb.elim
  | day d => exact ha.elim
  | instant t => exact ha.elim

end DateBound

theorem Interval.name_injective : Function.Injective Interval.name := by
  intro a b heq
  cases a <;> cases b <;> first | rfl | exact absurd heq (by decide)

/-- A field and not the distance from a place. -/
def SortKey.Plain : SortKey → Prop
  | .field _ _ => True
  | .distance _ _ => False

theorem SortKey.toJson_inj {a b : SortKey} (ha : a.Plain) (hb : b.Plain)
    (heq : a.toJson = b.toJson) : a = b := by
  cases a with
  | distance field origin => exact ha.elim
  | field name ascending =>
    cases b with
    | distance field origin => exact hb.elim
    | field other descending =>
      simp only [toJson, Json.only_inj, Json.text.injEq, true_and] at heq
      obtain ⟨rfl, horder⟩ := heq
      cases ascending <;> cases descending <;> simp_all

/-- Written or left out, a list of sort keys is known from its member. -/
theorem SortKey.eq_of_written {keys others : List SortKey} (hkeys : ∀ key ∈ keys, key.Plain)
    (hothers : ∀ key ∈ others, key.Plain)
    (heq : (if keys.isEmpty then none else some (Json.list (keys.map toJson))) =
      if others.isEmpty then none else some (Json.list (others.map toJson))) : keys = others :=
  Named.eq_of_unlessEmpty (f := fun keys : List SortKey => Json.list (keys.map toJson)) (fun h =>
    eq_of_map_eq (fun a ha b hb => toJson_inj (hkeys a ha) (hothers b hb)) (Json.list.inj h)) heq

/-! ### Aggregations -/

namespace Aggregation

/-- Without places, with relative dates, and filtering by plain queries. -/
def Kind.Plain : Kind → Prop
  | .dateRange _ windows => ∀ window ∈ windows, window.1.Relative ∧ window.2.Relative
  | .filter query => query.Plain
  | .topHits _ sort _ => ∀ key ∈ sort, key.Plain
  | _ => True

mutual

def Plain : Aggregation → Prop
  | ⟨kind, sub⟩ => kind.Plain ∧ AllPlain sub

def AllPlain : List (String × Aggregation) → Prop
  | [] => True
  | (_, a) :: rest => a.Plain ∧ AllPlain rest

end

theorem windowJson_inj {v w : DateBound × DateBound} (hv : v.1.Relative ∧ v.2.Relative)
    (hw : w.1.Relative ∧ w.2.Relative) (heq : windowJson v = windowJson w) : v = w := by
  simp only [windowJson, Json.object.injEq, List.cons.injEq, Prod.mk.injEq, Json.text.injEq,
    true_and, and_true] at heq
  exact Prod.ext (DateBound.expression_inj hv.1 hw.1 heq.1)
    (DateBound.expression_inj hv.2 hw.2 heq.2)

theorem includesJson_injective : Function.Injective includesJson := by
  intro xs ys heq
  exact Json.ofTexts_injective (Json.only_inj.mp heq).2

theorem Kind.toMember_inj {k l : Kind} (hk : k.Plain) (hl : l.Plain)
    (heq : k.toMember = l.toMember) : k = l := by
  have hname := congrArg Prod.fst heq
  have hbody := congrArg Prod.snd heq
  cases k with
  | terms field size =>
    cases l with
    | terms field' size' =>
      simp only [toMember, Json.object.injEq, List.cons.injEq, Prod.mk.injEq, Json.text.injEq,
        true_and] at hbody
      obtain ⟨rfl, hsize⟩ := hbody
      have hpart := congrArg (Named.get? "size") hsize
      rw [Named.get?_optional, Named.get?_optional, if_pos rfl, if_pos rfl] at hpart
      rw [Option.map_injective Json.ofUInt64_injective hpart]
    | _ => simp [toMember] at hname
  | dateHistogram field interval =>
    cases l with
    | dateHistogram field' interval' =>
      simp only [toMember, Json.object.injEq, List.cons.injEq, Prod.mk.injEq, Json.text.injEq,
        true_and, and_true] at hbody
      rw [hbody.1, Interval.name_injective hbody.2]
    | _ => simp [toMember] at hname
  | dateRange field windows =>
    cases l with
    | dateRange field' windows' =>
      simp only [toMember, Json.object.injEq, List.cons.injEq, Prod.mk.injEq, Json.text.injEq,
        Json.list.injEq, true_and, and_true] at hbody
      have hwindows : windows = windows' :=
        eq_of_map_eq (fun v hv w hw => windowJson_inj (hk v hv) (hl w hw)) hbody.2
      rw [hbody.1, hwindows]
    | _ => simp [toMember] at hname
  | missing field =>
    cases l with
    | missing field' => rw [Json.text.inj (Json.only_inj.mp hbody).2]
    | _ => simp [toMember] at hname
  | nested path =>
    cases l with
    | nested path' => rw [Json.text.inj (Json.only_inj.mp hbody).2]
    | _ => simp [toMember] at hname
  | reverseNested =>
    cases l with
    | reverseNested => rfl
    | _ => simp [toMember] at hname
  | filter query =>
    cases l with
    | filter query' => rw [Query.toJson_inj query query' hk hl hbody]
    | _ => simp [toMember] at hname
  | topHits size sort source =>
    cases l with
    | topHits size' sort' source' =>
      simp only [toMember, List.cons_append, Json.object.injEq, List.cons.injEq, Prod.mk.injEq,
        true_and] at hbody
      obtain ⟨hsize, hrest⟩ := hbody
      have hpart := fun name => congrArg (Named.get? name) hrest
      simp only [Named.get?_append, Named.get?_unless] at hpart
      have hsort : sort = sort' := SortKey.eq_of_written hk hl (by simpa using hpart "sort")
      have hsource : source = source' :=
        Named.eq_of_unlessEmpty (fun h => includesJson_injective h)
          (by simpa using hpart "_source")
      rw [Json.ofUInt64_injective hsize, hsort, hsource]
    | _ => simp [toMember] at hname
  | geohashGrid field precision =>
    cases l with
    | geohashGrid field' precision' =>
      simp only [toMember, Json.object.injEq, List.cons.injEq, Prod.mk.injEq, Json.text.injEq,
        Json.integer.injEq, true_and, and_true] at hbody
      rw [hbody.1, UInt8.toNat_inj.mp (Int.ofNat.inj hbody.2)]
    | _ => simp [toMember] at hname
  | average field =>
    cases l with
    | average field' => rw [Json.text.inj (Json.only_inj.mp hbody).2]
    | _ => simp [toMember] at hname

mutual

theorem toJson_inj (a b : Aggregation) (ha : a.Plain) (hb : b.Plain)
    (heq : a.toJson = b.toJson) : a = b := by
  match a, b with
  | ⟨kind, sub⟩, ⟨kind', sub'⟩ =>
    rw [toJson, toJson, Json.object.injEq, List.cons.injEq] at heq
    have hpart := congrArg (Named.get? innerName) heq.2
    rw [Named.get?_unless, Named.get?_unless, if_pos rfl, if_pos rfl] at hpart
    have hsub : sub = sub' :=
      Named.eq_of_unlessEmpty (f := fun sub => Json.object (toMembers sub))
        (fun h => toMembers_inj sub sub' ha.2 hb.2 (Json.object.inj h)) hpart
    rw [Kind.toMember_inj ha.1 hb.1 heq.1, hsub]

theorem toMembers_inj (requests others : List (String × Aggregation)) (hr : AllPlain requests)
    (ho : AllPlain others) (heq : toMembers requests = toMembers others) : requests = others := by
  match requests, others with
  | [], [] => rfl
  | [], _ :: _ => cases heq
  | _ :: _, [] => cases heq
  | (name, a) :: rest, (other, b) :: others =>
    simp only [toMembers, List.cons.injEq, Prod.mk.injEq] at heq
    obtain ⟨⟨rfl, hfirst⟩, hrest⟩ := heq
    rw [toJson_inj a b hr.1 ho.1 hfirst, toMembers_inj rest others hr.2 ho.2 hrest]

end

end Aggregation

/-! ### Searches -/

namespace SearchBody

/-- Without places, with texts and whole numbers for operands, and with relative dates. -/
structure Plain (body : SearchBody) : Prop where
  query : body.query.Plain
  postFilter : ∀ query ∈ body.postFilter, query.Plain
  aggregations : Aggregation.AllPlain body.aggregations
  sort : ∀ key ∈ body.sort, key.Plain

theorem toJson_inj {body other : SearchBody} (hbody : body.Plain) (hother : other.Plain)
    (hindex : body.index = other.index) (heq : body.toJson = other.toJson) : body = other := by
  have hpart := fun name => congrArg (Named.get? name) (Json.object.inj heq)
  simp only [Named.get?_append, Named.get?_unless, Named.get?_optional, Aggregation.innerName]
    at hpart
  have hquery : body.query = other.query := by
    refine Query.toJson_inj _ _ hbody.query hother.query ?_
    simpa [Named.get?] using hpart "query"
  have hpostFilter : body.postFilter = other.postFilter := by
    refine eq_of_optional_eq (fun q hq r hr =>
      Query.toJson_inj q r (hbody.postFilter q hq) (hother.postFilter r hr)) ?_
    simpa [Named.get?] using hpart "post_filter"
  have haggregations : body.aggregations = other.aggregations := by
    refine Named.eq_of_unlessEmpty (f := Aggregations.toJson) (fun h =>
      Aggregation.toMembers_inj _ _ hbody.aggregations hother.aggregations (Json.object.inj h)) ?_
    simpa [Named.get?] using hpart "aggs"
  have hsize : body.size = other.size := by
    refine Json.ofUInt64_injective ?_
    simpa [Named.get?] using hpart "size"
  have hoffset : body.offset = other.offset := by
    refine Json.ofUInt64_injective ?_
    simpa [Named.get?] using hpart "from"
  have hsort : body.sort = other.sort := by
    refine SortKey.eq_of_written hbody.sort hother.sort ?_
    simpa [Named.get?] using hpart "sort"
  have hsource : body.source = other.source := by
    refine Named.eq_of_unlessEmpty (f := Aggregation.includesJson)
      (fun h => Aggregation.includesJson_injective h) ?_
    simpa [Named.get?] using hpart "_source"
  cases body
  cases other
  simp_all only

/-- Searches of one index that are sent as one document are one search, with the same aggregations
in the same order at every depth, and queries that render alike are one query. -/
theorem known_from_document :
    (∀ body other : SearchBody, body.Plain → other.Plain → body.index = other.index →
      (body.toJson = other.toJson ↔ body = other)) ∧
    ∀ q r : Query, q.Plain → r.Plain → (q.toJson = r.toJson ↔ q = r) := by
  refine ⟨?_, ?_⟩
  · intro body other hbody hother hindex
    exact ⟨toJson_inj hbody hother hindex, congrArg toJson⟩
  · intro q r hq hr
    exact ⟨Query.toJson_inj q r hq hr, congrArg Query.toJson⟩

/-- A missing field and the exclusion of an empty value are told apart, in the query and in the
filter of an aggregation. -/
theorem known_from_document_missing :
    let searching (query : Query) : SearchBody :=
      { index := "contacts"
        query := .compound (Compound.empty.addMust query)
        aggregations := [("lost", ⟨.filter query,
          [("windows", .leaf (.dateRange "birthdate" [(.yearsAgo 25, .yearsAgo 18)])),
            ("first", .leaf (.topHits 3 [.field "surname" true] ["id"]))]⟩)] }
    let missing : Query := .missing "mail"
    let excluded : Query := .compound (Compound.empty.addMustNot (.term "mail" (.text "")))
    (searching missing).Plain ∧ (searching excluded).Plain ∧ missing.toJson ≠ excluded.toJson ∧
      (searching missing).toJson ≠ (searching excluded).toJson := by
  intro searching missing excluded
  have hplain : ∀ query : Query, query.Plain → (searching query).Plain := by
    intro query hquery
    refine ⟨?_, ?_, ?_, ?_⟩
    · simpa [searching, Query.Plain, Compound.Plain, Query.AllPlain, Compound.addMust,
        Compound.empty] using hquery
    · simp [searching]
    · simpa [searching, Aggregation.AllPlain, Aggregation.Plain, Aggregation.leaf,
        Aggregation.Kind.Plain, DateBound.Relative, SortKey.Plain] using hquery
    · simp [searching]
  have hmissing : missing.Plain := trivial
  have hexcluded : excluded.Plain := by
    simp [excluded, Query.Plain, Compound.Plain, Query.AllPlain, Compound.addMustNot,
      Compound.empty, Operand.Literal]
  refine ⟨hplain _ hmissing, hplain _ hexcluded, ?_, ?_⟩
  · rw [ne_eq, known_from_document.2 _ _ hmissing hexcluded]
    simp [missing, excluded]
  · rw [ne_eq, known_from_document.1 _ _ (hplain _ hmissing) (hplain _ hexcluded) rfl]
    simp [searching, missing, excluded, Compound.addMust]

end SearchBody

end Outreach
