import Outreach.Proofs.Fault.Steps
import Outreach.SearchRequest

/-!
# The forms of a search request

A request is an object or a list of its members in their order, and so is each corner of its
polygon. Both forms of a request are one fold over named members: a list names its items by their
positions, so a list that ends early is an object without the last members (`ofJson_list_of_short`),
and a member of no known name changes nothing (`foldlM_known`). What is written of a request is read
back, whichever form it and each of its corners has.
-/

namespace Outreach

open Steps

namespace Json

/-- Members that a reader passes over may be left out. -/
theorem foldlM_known {σ : Type} {step : σ → String × Json → Except ShapeFault σ}
    {known : List String}
    (hunknown : ∀ s member, member.1 ∉ known → step s member = .ok s)
    (members : List (String × Json)) (first : σ) :
    (members.filter fun member => member.1 ∈ known).foldlM step first =
      members.foldlM step first := by
  rw [List.foldlM_filter]
  congr
  funext s member
  by_cases hknown : member.1 ∈ known
  · simp [hknown]
  · rw [if_neg (by simpa using hknown), hunknown s member hknown]
    rfl

theorem readNumber_ofFloat {x : Float} (hfinite : x.isFinite = true) :
    (ofFloat x).readNumber = .ok x := by
  rw [ofFloat, if_pos hfinite]
  rfl

theorem readList_ofTexts (texts : List String) :
    (ofTexts texts).readList readText = .ok texts := by
  show (texts.map text).mapM readText = .ok texts
  rw [mapM_eq_ok, List.forall₂_map_left_iff, List.forall₂_same]
  exact fun _ _ => rfl

end Json

/-! ### Places -/

namespace Place

def memberNames : List String := ["lat", "lng"]

/-- Both coordinates are numbers; one that is not cannot be written. -/
structure Finite (p : Place) : Prop where
  lat : p.lat.isFinite = true
  lng : p.lng.isFinite = true

/-- The two forms of a place. -/
inductive FormOf : Json → Place → Prop
  | object (p : Place) : FormOf p.toJson p
  | pair (p : Place) : FormOf (.list [.ofFloat p.lat, .ofFloat p.lng]) p

theorem ofJson_of_formOf {v : Json} {p : Place} (hform : FormOf v p) (hfinite : p.Finite) :
    ofJson v = .ok p := by
  have hlat := Json.readNumber_ofFloat hfinite.lat
  have hlng := Json.readNumber_ofFloat hfinite.lng
  cases hform with
  | object =>
    have hfirst : readMember (none, none) ("lat", .ofFloat p.lat) = .ok (some p.lat, none) := by
      rw [readMember, if_pos rfl]
      exact map_eq_ok.mpr ⟨_, hlat, rfl⟩
    have hsecond : readMember (some p.lat, none) ("lng", .ofFloat p.lng) =
        .ok (some p.lat, some p.lng) := by
      rw [readMember, if_neg (show "lng" ≠ "lat" by decide), if_pos rfl]
      exact map_eq_ok.mpr ⟨_, hlng, rfl⟩
    exact bind_eq_ok.mpr ⟨_, bind_eq_ok.mpr ⟨_, hfirst, bind_eq_ok.mpr ⟨_, hsecond, rfl⟩⟩, rfl⟩
  | pair =>
    rw [ofJson, hlat, hlng]
    rfl

theorem mapM_ofJson {points : List Json} {places : List Place}
    (hforms : List.Forall₂ FormOf points places) (hfinite : ∀ p ∈ places, p.Finite) :
    points.mapM ofJson = .ok places := by
  rw [mapM_eq_ok]
  induction hforms with
  | nil => exact .nil
  | cons hform _ ih =>
    obtain ⟨hfirst, hothers⟩ := List.forall_mem_cons.mp hfinite
    exact .cons (ofJson_of_formOf hform hfirst) (ih hothers)

theorem ofJson_known (members : List (String × Json)) :
    ofJson (.object (members.filter fun member => member.1 ∈ memberNames)) =
      ofJson (.object members) := by
  have hunknown : ∀ known member, member.1 ∉ memberNames →
      readMember known member = .ok known := by
    intro known member hmember
    simp only [memberNames, List.mem_cons, List.not_mem_nil, or_false, not_or] at hmember
    rw [readMember, if_neg hmember.1, if_neg hmember.2]
  rw [ofJson, ofJson, Json.foldlM_known hunknown]

end Place

/-! ### Requests -/

namespace SearchRequest

theorem readMember_of_notMem (r : SearchRequest) (member : String × Json)
    (hunknown : member.1 ∉ memberNames) : readMember r member = .ok r := by
  obtain ⟨name, value⟩ := member
  simp only [memberNames, List.mem_cons, List.not_mem_nil, or_false, not_or] at hunknown
  simp only [readMember]
  split <;> simp_all

theorem ofJson_object (members : List (String × Json)) :
    ofJson (.object members) = members.foldlM readMember {} := rfl

theorem ofJson_known (members : List (String × Json)) :
    ofJson (.object (members.filter fun member => member.1 ∈ memberNames)) =
      ofJson (.object members) := by
  rw [ofJson_object, ofJson_object, Json.foldlM_known readMember_of_notMem]

theorem ofJson_list (items : List Json) :
    ofJson (.list items) = ofJson (.object (memberNames.zip items)) >>= fun r =>
      if memberNames.length < items.length then .error (.tooLong items.length) else .ok r := rfl

/-- A list is the object of its items under the names of their positions. -/
theorem ofJson_list_of_short {items : List Json} (hshort : items.length ≤ memberNames.length) :
    ofJson (.list items) = ofJson (.object (memberNames.zip items)) := by
  rw [ofJson_list]
  simp only [if_neg (Nat.not_lt.mpr hshort)]
  exact bind_pure (ofJson (.object (memberNames.zip items)))

/-- A list that is too long is read up to its fourth item before it is rejected. -/
theorem ofJson_list_of_long {items : List Json} (hlong : memberNames.length < items.length) :
    ofJson (.list items) = ofJson (.list (items.take memberNames.length)) >>= fun _ =>
      .error (.tooLong items.length) := by
  have hnames : memberNames.zip items = memberNames.zip (items.take memberNames.length) := by
    rw [List.zip_eq_zip_take_min, Nat.min_eq_left (Nat.le_of_lt hlong), List.take_length]
  rw [ofJson_list_of_short (List.length_take_le _ items), ofJson_list, hnames]
  simp only [if_pos hlong]

/-- The items of the list form, given those of the polygon. -/
def items (r : SearchRequest) (points : List Json) : List Json :=
  [.text r.query, .ofTexts r.fields, .list points, .text r.filter]

/-- The request that has the first members of another and is empty in the others. -/
def leading (r : SearchRequest) (count : Nat) : SearchRequest where
  query := if 0 < count then r.query else ""
  fields := if 1 < count then r.fields else []
  polygon := if 2 < count then r.polygon else []
  filter := if 3 < count then r.filter else ""

variable {r : SearchRequest} {points : List Json}

theorem toJson_eq (r : SearchRequest) :
    r.toJson = .object (memberNames.zip (r.items (r.polygon.map Place.toJson))) := rfl

theorem zip_items_take (r : SearchRequest) (points : List Json) (count : Nat) :
    (memberNames.zip (r.items points)).take count =
      memberNames.zip ((r.items points).take count) := by
  match count with
  | 0 | 1 | 2 | 3 => rfl
  | count + 4 => simp [memberNames, items]

/-- Each member sets its own field, so reading may stop after any of them. -/
theorem ofJson_leading (hpoints : points.mapM Place.ofJson = .ok r.polygon) (count : Nat) :
    ofJson (.object ((memberNames.zip (r.items points)).take count)) = .ok (r.leading count) := by
  have hquery : [("query", Json.text r.query)].foldlM readMember {} =
      .ok { query := r.query } := rfl
  have hfields : [("fields", Json.ofTexts r.fields)].foldlM readMember { query := r.query } =
      .ok { query := r.query, fields := r.fields } :=
    bind_eq_ok.mpr ⟨_, map_eq_ok.mpr ⟨_, Json.readList_ofTexts r.fields, rfl⟩, rfl⟩
  have hpolygon : [("polygon", Json.list points)].foldlM readMember
        { query := r.query, fields := r.fields } =
      .ok { query := r.query, fields := r.fields, polygon := r.polygon } :=
    bind_eq_ok.mpr ⟨_, map_eq_ok.mpr ⟨_, hpoints, rfl⟩, rfl⟩
  have hfilter : [("filter", Json.text r.filter)].foldlM readMember
        { query := r.query, fields := r.fields, polygon := r.polygon } = .ok r := rfl
  match count with
  | 0 => rfl
  | 1 => exact hquery
  | 2 => exact foldlM_append_eq_ok hquery hfields
  | 3 => exact foldlM_append_eq_ok (foldlM_append_eq_ok hquery hfields) hpolygon
  | count + 4 =>
    have hall : (memberNames.zip (r.items points)).take (count + 4) =
        memberNames.zip (r.items points) := List.take_of_length_le (by simp [memberNames, items])
    have hleading : r.leading (count + 4) = r := by simp [leading]
    rw [hall, hleading]
    exact foldlM_append_eq_ok
      (foldlM_append_eq_ok (foldlM_append_eq_ok hquery hfields) hpolygon) hfilter

/-- What is written of a request is read back, as an object or as a list and with the corners in
either of their forms. A list that ends early and an object without the last members are both read
as the request that is empty in them. A list with more items than a request has members is rejected,
and members of other names, of a request or of a corner, change nothing. -/
theorem read_in_either_form :
    (∀ (r : SearchRequest) (points : List Json), (∀ p ∈ r.polygon, p.Finite) →
      List.Forall₂ Place.FormOf points r.polygon →
        ofJson r.toJson = .ok r ∧ ofJson (.list (r.items points)) = .ok r ∧
          ∀ count, ofJson (.list ((r.items points).take count)) = .ok (r.leading count) ∧
            ofJson (.object ((memberNames.zip (r.items points)).take count)) =
              .ok (r.leading count)) ∧
      (∀ (items : List Json) (r : SearchRequest), 4 < items.length →
        ofJson (.list (items.take 4)) = .ok r →
          ofJson (.list items) = .error (.tooLong items.length)) ∧
      (∀ members, ofJson (.object (members.filter fun member => member.1 ∈ memberNames)) =
        ofJson (.object members)) ∧
      ∀ members,
        Place.ofJson (.object (members.filter fun member => member.1 ∈ Place.memberNames)) =
          Place.ofJson (.object members) := by
  refine ⟨?_, ?_, ofJson_known, Place.ofJson_known⟩
  · intro r points hfinite hforms
    have hobject := ofJson_leading (Place.mapM_ofJson hforms hfinite)
    have hlist : ∀ count, ofJson (.list ((r.items points).take count)) = .ok (r.leading count) := by
      intro count
      rw [ofJson_list_of_short (List.length_take_le' count _), ← zip_items_take]
      exact hobject count
    have hwritten : List.Forall₂ Place.FormOf (r.polygon.map Place.toJson) r.polygon := by
      rw [List.forall₂_map_left_iff, List.forall₂_same]
      exact fun p _ => .object p
    have hread : ofJson r.toJson = .ok r := by
      rw [toJson_eq]
      exact ofJson_leading (Place.mapM_ofJson hwritten hfinite) 4
    exact ⟨hread, hlist 4, fun count => ⟨hlist count, hobject count⟩⟩
  · intro items r hlong hread
    rw [ofJson_list_of_long hlong]
    show (ofJson (.list (items.take 4)) >>= fun _ => _) = _
    rw [hread]
    rfl

/-- A request with one corner of each form, one of them at a negative zero, whole, cut after its
polygon, and with an item too many. -/
theorem read_in_either_form_mixed :
    let r : SearchRequest :=
      { query := "Σ", fields := ["42", ""], polygon := [⟨43.5, -0.0⟩, ⟨-1e-7, 2⟩]
        filter := "done" }
    let points : List Json := [.list [.ofFloat 43.5, .ofFloat (-0.0)], Place.toJson ⟨-1e-7, 2⟩]
    ofJson r.toJson = .ok r ∧ ofJson (.list (r.items points)) = .ok r ∧
      ofJson (.list ((r.items points).take 3)) = .ok { r with filter := "" } ∧
      ofJson (.list (r.items points ++ [.null])) = .error (.tooLong 5) := by
  intro r points
  have hfirst : (⟨43.5, -0.0⟩ : Place).Finite := ⟨by decide +kernel, by decide +kernel⟩
  have hsecond : (⟨-1e-7, 2⟩ : Place).Finite := ⟨by decide +kernel, by decide +kernel⟩
  have hfinite : ∀ p ∈ r.polygon, p.Finite :=
    List.forall_mem_cons.mpr ⟨hfirst, List.forall_mem_singleton.mpr hsecond⟩
  have hforms : List.Forall₂ Place.FormOf points r.polygon :=
    .cons (.pair ⟨43.5, -0.0⟩) (.cons (.object ⟨-1e-7, 2⟩) .nil)
  obtain ⟨hwritten, hlist, hcut⟩ := read_in_either_form.1 r points hfinite hforms
  exact ⟨hwritten, hlist, (hcut 3).1, read_in_either_form.2.1 _ r (by decide) hlist⟩

end SearchRequest

end Outreach
