import Outreach.Proofs.Aggregation.ReadBack
import Outreach.Proofs.Json.Members
import Outreach.Query.Rendering

/-!
# Queries from their documents

A query is known from the document that it renders to. The name at the top tells the kind apart,
but for one pair: that a field is missing is written as a compound query that excludes something,
and what it excludes is no query. Below the top every part is found again by its name, and a part
that is left out by the absence of its name. Dates and places are set aside: a date is written as a
text, and the coordinates of a place are rounded and need not be numbers.
-/

namespace Outreach

/-! ### Parts of a document -/

/-- Lists are the same when their members render alike and no two different ones of them do. -/
theorem eq_of_map_eq {α β : Type} {f : α → β} {xs ys : List α}
    (hinj : ∀ x ∈ xs, ∀ y ∈ ys, f x = f y → x = y) (heq : xs.map f = ys.map f) : xs = ys := by
  induction xs generalizing ys with
  | nil => exact (List.map_eq_nil_iff.mp heq.symm).symm
  | cons x rest ih =>
    cases ys with
    | nil => cases heq
    | cons y others =>
      obtain ⟨hfirst, hrest⟩ := List.cons.inj heq
      have hsame := hinj x List.mem_cons_self y List.mem_cons_self hfirst
      have hothers := ih (fun a ha b hb =>
        hinj a (List.mem_cons_of_mem _ ha) b (List.mem_cons_of_mem _ hb)) hrest
      rw [hsame, hothers]

theorem eq_of_optional_eq {α β : Type} {f : α → β} {a b : Option α}
    (hinj : ∀ x ∈ a, ∀ y ∈ b, f x = f y → x = y) (heq : a.map f = b.map f) : a = b := by
  cases a with
  | none => exact (Option.map_eq_none_iff.mp heq.symm).symm
  | some x =>
    cases b with
    | none => cases heq
    | some y => rw [hinj x rfl y rfl (Option.some.inj heq)]

namespace Named

variable {α β : Type} {name other : String}

/-- A member that stands for something optional. -/
theorem get?_optional (f : β → α) (value : Option β) :
    get? name (value.toList.map fun x => (other, f x)) =
      if other = name then value.map f else none := by
  cases value <;> simp [get?]

/-- A member that is left out on a condition. -/
theorem get?_unless (left : Bool) (value : α) :
    get? name (if left then [] else [(other, value)]) =
      if other = name then (if left then none else some value) else none := by
  cases left <;> simp [get?]

/-- Left out or not, a list is known from its member. -/
theorem eq_of_unlessEmpty {f : List β → α} {xs ys : List β} (hinj : f xs = f ys → xs = ys)
    (heq : (if xs.isEmpty then none else some (f xs)) =
      if ys.isEmpty then none else some (f ys)) : xs = ys := by
  cases xs with
  | nil =>
    cases ys with
    | nil => rfl
    | cons y others => cases heq
  | cons x rest =>
    cases ys with
    | nil => cases heq
    | cons y others => exact hinj (Option.some.inj heq)

end Named

namespace Json

theorem only_inj {name other : String} {value known : Json} :
    only name value = only other known ↔ name = other ∧ value = known := by
  simp [only]

theorem ofTexts_injective : Function.Injective ofTexts := by
  intro xs ys heq
  exact List.map_injective_iff.mpr (fun _ _ => Json.text.inj) (Json.list.inj heq)

theorem ofUInt64_injective : Function.Injective ofUInt64 := by
  intro m n heq
  have hread := congrArg uint64? heq
  rw [uint64?_ofUInt64, uint64?_ofUInt64] at hread
  exact Option.some.inj hread

theorem ofInt64_injective : Function.Injective ofInt64 := by
  intro m n heq
  have hread := congrArg int64? heq
  rw [int64?_ofInt64, int64?_ofInt64] at hread
  exact Option.some.inj hread

end Json

/-! ### Operands -/

/-- Texts and whole numbers. -/
def Operand.Literal : Operand → Prop
  | .date _ => False
  | _ => True

theorem Operand.toJson_inj {a b : Operand} (ha : a.Literal) (hb : b.Literal)
    (heq : a.toJson = b.toJson) : a = b := by
  cases a with
  | text s =>
    cases b with
    | text t => rw [Json.text.inj heq]
    | integer n => cases heq
    | date bound => exact hb.elim
  | integer n =>
    cases b with
    | text t => cases heq
    | integer m => rw [Json.ofInt64_injective heq]
    | date bound => exact hb.elim
  | date bound => exact ha.elim

/-! ### Queries -/

mutual

/-- Without places, and with texts and whole numbers for operands. -/
def Query.Plain : Query → Prop
  | .matchAll | .words _ _ | .missing _ => True
  | .term _ value => value.Literal
  | .terms _ values => ∀ value ∈ values, value.Literal
  | .range _ least most => (∀ bound ∈ least, bound.Literal) ∧ ∀ bound ∈ most, bound.Literal
  | .nested _ query => query.Plain
  | .within _ _ | .near _ _ _ => False
  | .compound clauses => clauses.Plain

def Compound.Plain : Compound → Prop
  | ⟨must, should, mustNot, filter, _⟩ =>
    Query.AllPlain must ∧ Query.AllPlain should ∧ Query.AllPlain mustNot ∧ Query.AllPlain filter

def Query.AllPlain : List Query → Prop
  | [] => True
  | query :: rest => query.Plain ∧ Query.AllPlain rest

end

namespace Query

/-- The name at the top of the document of a query. -/
def heading : Query → String
  | .matchAll => "match_all"
  | .words _ _ => "multi_match"
  | .term _ _ => "term"
  | .terms _ _ => "terms"
  | .range _ _ _ => "range"
  | .nested _ _ => "nested"
  | .within _ _ => "geo_polygon"
  | .near _ _ _ => "geo_distance"
  | .missing _ | .compound _ => "bool"

theorem toJson_eq_only (q : Query) : ∃ body, q.toJson = .only q.heading body := by
  cases q with
  | compound clauses =>
    obtain ⟨must, should, mustNot, filter, threshold⟩ := clauses
    exact ⟨_, rfl⟩
  | _ => exact ⟨_, rfl⟩

theorem heading_eq {q r : Query} (heq : q.toJson = r.toJson) : q.heading = r.heading := by
  obtain ⟨body, hq⟩ := q.toJson_eq_only
  obtain ⟨other, hr⟩ := r.toJson_eq_only
  rw [hq, hr, Json.only_inj] at heq
  exact heq.1

/-- The negated part of a missing field is no query. -/
theorem toJson_ne_existsJson (q : Query) (field : String) : q.toJson ≠ existsJson field := by
  intro heq
  obtain ⟨body, hq⟩ := q.toJson_eq_only
  rw [hq, existsJson, Json.only_inj] at heq
  cases q <;> simp [heading] at heq

theorem toJsons_eq_map (queries : List Query) : toJsons queries = queries.map toJson := by
  induction queries with
  | nil => rfl
  | cons query rest ih => rw [toJsons, ih, List.map_cons]

theorem get?_occurrence (name other : String) (clauses : List Json) :
    Named.get? name (occurrence other clauses) =
      if other = name then (if clauses.isEmpty then none else some (.list clauses)) else none :=
  Named.get?_unless clauses.isEmpty (Json.list clauses)

theorem threshold_injective : Function.Injective fun n : UInt32 => Json.integer n.toNat := by
  intro m n heq
  exact UInt32.toNat_inj.mp (Int.ofNat.inj (Json.integer.inj heq))

end Query

open Query

/-- The clauses of a compound query and its threshold each have a name of their own. -/
theorem Compound.parts_eq {c d : Compound} (heq : c.toJson = d.toJson) :
    toJsons c.must = toJsons d.must ∧ toJsons c.should = toJsons d.should ∧
      toJsons c.mustNot = toJsons d.mustNot ∧ toJsons c.filter = toJsons d.filter ∧
        c.threshold = d.threshold := by
  obtain ⟨must, should, mustNot, filter, threshold⟩ := c
  obtain ⟨must', should', mustNot', filter', threshold'⟩ := d
  rw [Compound.toJson, Compound.toJson, Json.only_inj, Json.object.injEq] at heq
  have hpart := fun name => congrArg (Named.get? name) heq.2
  simp only [Named.get?_append, get?_occurrence, Named.get?_optional] at hpart
  refine ⟨Named.eq_of_unlessEmpty Json.list.inj ?_, Named.eq_of_unlessEmpty Json.list.inj ?_,
    Named.eq_of_unlessEmpty Json.list.inj ?_, Named.eq_of_unlessEmpty Json.list.inj ?_, ?_⟩
  · simpa using hpart "must"
  · simpa using hpart "should"
  · simpa using hpart "must_not"
  · simpa using hpart "filter"
  · refine Option.map_injective threshold_injective ?_
    simpa using hpart "minimum_should_match"

/-- A compound query does not render as a missing field, whatever it holds. -/
theorem Compound.toJson_ne_missing (c : Compound) (field : String) :
    c.toJson ≠ (Query.missing field).toJson := by
  intro heq
  obtain ⟨must, should, mustNot, filter, threshold⟩ := c
  rw [Compound.toJson, Query.toJson, Json.only_inj, Json.only, Json.object.injEq] at heq
  have hpart := congrArg (Named.get? "must_not") heq.2
  simp only [Named.get?_append, get?_occurrence, Named.get?_optional] at hpart
  have hnegated : toJsons mustNot = [existsJson field] := by
    refine Named.eq_of_unlessEmpty Json.list.inj ?_
    simpa [Named.get?] using hpart
  rw [toJsons_eq_map, List.map_eq_singleton_iff] at hnegated
  obtain ⟨query, -, hquery⟩ := hnegated
  exact query.toJson_ne_existsJson field hquery

mutual

theorem Query.toJson_inj (q r : Query) (hq : q.Plain) (hr : r.Plain) (heq : q.toJson = r.toJson) :
    q = r := by
  have hheading := Query.heading_eq heq
  match q with
  | .matchAll =>
    cases r with
    | matchAll => rfl
    | _ => simp [heading] at hheading
  | .words text fields =>
    cases r with
    | words text' fields' =>
      rw [Query.toJson, Query.toJson, Json.only_inj, Json.object.injEq] at heq
      have hpart := fun name => congrArg (Named.get? name) heq.2
      simp only [Named.get?_append, Named.get?_unless] at hpart
      have htext : text = text' := by simpa [Named.get?] using hpart "query"
      have hfields : fields = fields' :=
        Named.eq_of_unlessEmpty (fun h => Json.ofTexts_injective h)
          (by simpa [Named.get?] using hpart "fields")
      rw [htext, hfields]
    | _ => simp [heading] at hheading
  | .term field value =>
    cases r with
    | term field' value' =>
      rw [Query.toJson, Query.toJson, Json.only_inj, Json.only_inj] at heq
      obtain ⟨-, rfl, hvalue⟩ := heq
      rw [Operand.toJson_inj hq hr hvalue]
    | _ => simp [heading] at hheading
  | .terms field values =>
    cases r with
    | terms field' values' =>
      rw [Query.toJson, Query.toJson, Json.only_inj, Json.only_inj, Json.list.injEq] at heq
      obtain ⟨-, rfl, hvalues⟩ := heq
      rw [eq_of_map_eq (fun a ha b hb => Operand.toJson_inj (hq a ha) (hr b hb)) hvalues]
    | _ => simp [heading] at hheading
  | .range field least most =>
    cases r with
    | range field' least' most' =>
      rw [Query.toJson, Query.toJson, Json.only_inj, Json.only_inj, Json.object.injEq] at heq
      obtain ⟨-, rfl, hbounds⟩ := heq
      have hpart := fun name => congrArg (Named.get? name) hbounds
      simp only [Named.get?_append, boundMember, Named.get?_optional] at hpart
      have hleast : least = least' :=
        eq_of_optional_eq (fun a ha b hb => Operand.toJson_inj (hq.1 a ha) (hr.1 b hb))
          (by simpa using hpart "gte")
      have hmost : most = most' :=
        eq_of_optional_eq (fun a ha b hb => Operand.toJson_inj (hq.2 a ha) (hr.2 b hb))
          (by simpa using hpart "lte")
      rw [hleast, hmost]
    | _ => simp [heading] at hheading
  | .missing field =>
    cases r with
    | missing field' =>
      simp only [Query.toJson, existsJson, Json.only_inj, Json.list.injEq, List.cons.injEq,
        Json.text.injEq, true_and, and_true] at heq
      rw [heq]
    | compound d => exact absurd heq.symm (d.toJson_ne_missing field)
    | _ => simp [heading] at hheading
  | .nested path query =>
    cases r with
    | nested path' query' =>
      rw [Query.toJson, Query.toJson, Json.only_inj, Json.object.injEq] at heq
      simp only [List.cons.injEq, Prod.mk.injEq, Json.text.injEq, true_and, and_true] at heq
      rw [heq.1, Query.toJson_inj query query' hq hr heq.2]
    | _ => simp [heading] at hheading
  | .within _ _ => exact hq.elim
  | .near _ _ _ => exact hq.elim
  | .compound c =>
    cases r with
    | missing field => exact absurd heq (c.toJson_ne_missing field)
    | compound d => rw [Compound.toJson_inj c d hq hr heq]
    | _ => simp [heading] at hheading

theorem Compound.toJson_inj (c d : Compound) (hc : c.Plain) (hd : d.Plain)
    (heq : c.toJson = d.toJson) : c = d := by
  obtain ⟨hmust, hshould, hmustNot, hfilter, hthreshold⟩ := Compound.parts_eq heq
  match c, d with
  | ⟨must, should, mustNot, filter, threshold⟩, ⟨must', should', mustNot', filter', threshold'⟩ =>
    obtain ⟨hc1, hc2, hc3, hc4⟩ := hc
    obtain ⟨hd1, hd2, hd3, hd4⟩ := hd
    rw [Compound.mk.injEq]
    exact ⟨Query.toJsons_inj must must' hc1 hd1 hmust,
      Query.toJsons_inj should should' hc2 hd2 hshould,
      Query.toJsons_inj mustNot mustNot' hc3 hd3 hmustNot,
      Query.toJsons_inj filter filter' hc4 hd4 hfilter, hthreshold⟩

theorem Query.toJsons_inj (qs rs : List Query) (hqs : AllPlain qs) (hrs : AllPlain rs)
    (heq : toJsons qs = toJsons rs) : qs = rs := by
  match qs, rs with
  | [], [] => rfl
  | [], _ :: _ => cases heq
  | _ :: _, [] => cases heq
  | q :: qs, r :: rs =>
    obtain ⟨hfirst, hrest⟩ := List.cons.inj heq
    rw [Query.toJson_inj q r hqs.1 hrs.1 hfirst, Query.toJsons_inj qs rs hqs.2 hrs.2 hrest]

end

end Outreach
