import Mathlib.Data.List.Nodup
import Outreach.Json

/-!
# Members of objects

An object of a document holds no name twice, at any depth. New names are then appended in their
order, and the members of an object that a reader does not know by name are a part of the object
like any other: `others` tells them apart.
-/

namespace Outreach

/-! ### Entries under new names -/

namespace Named

variable {α : Type} {name : String} {value : α} {entries more : Named α}

theorem insert_of_notMem (hnew : name ∉ names entries) :
    insert name value entries = entries ++ [(name, value)] := by
  induction entries with
  | nil => rfl
  | cons entry rest ih =>
    obtain ⟨other, old⟩ := entry
    simp only [names, List.map_cons, List.mem_cons, not_or] at hnew
    rw [insert, if_neg (Ne.symm hnew.1), ih hnew.2, List.cons_append]

theorem extend_eq_append (hnodup : (names more).Nodup)
    (hnew : ∀ name ∈ names more, name ∉ names entries) : extend entries more = entries ++ more := by
  induction more generalizing entries with
  | nil => exact (List.append_nil entries).symm
  | cons entry rest ih =>
    obtain ⟨name, value⟩ := entry
    obtain ⟨hname, hrest⟩ := List.nodup_cons.mp hnodup
    have hinsert : insert name value entries = entries ++ [(name, value)] :=
      insert_of_notMem (hnew name List.mem_cons_self)
    have hlater : ∀ other ∈ names rest, other ∉ names (entries ++ [(name, value)]) := by
      intro other hother
      rw [names, List.map_append, List.mem_append, not_or]
      refine ⟨hnew other (List.mem_cons_of_mem _ hother), ?_⟩
      rw [List.map_singleton, List.mem_singleton]
      rintro rfl
      exact hname hother
    show extend (insert name value entries) rest = _
    rw [hinsert, ih hrest hlater, List.append_assoc, List.singleton_append]

theorem mem_names_append :
    name ∈ names (entries ++ more) ↔ name ∈ names entries ∨ name ∈ names more := by
  rw [names, List.map_append, List.mem_append]
  rfl

theorem mem_of_mem_names_zip {all : List String} {values : List α}
    (hmem : name ∈ names (all.zip values)) : name ∈ all := by
  obtain ⟨entry, hentry, rfl⟩ := List.mem_map.mp hmem
  exact (List.of_mem_zip hentry).1

theorem get?_append : get? name (entries ++ more) = (get? name entries).or (get? name more) := by
  induction entries with
  | nil => rfl
  | cons entry rest ih =>
    obtain ⟨other, value⟩ := entry
    by_cases hother : other = name
    · simp [get?, hother]
    · simp [get?, hother, ih]

theorem mem_of_get? (hget : get? name entries = some value) : (name, value) ∈ entries := by
  induction entries with
  | nil => cases hget
  | cons entry rest ih =>
    obtain ⟨other, old⟩ := entry
    by_cases hother : other = name
    · rw [get?, if_pos hother] at hget
      cases hget
      rw [hother]
      exact List.mem_cons_self
    · rw [get?, if_neg hother] at hget
      exact List.mem_cons_of_mem _ (ih hget)

theorem get?_of_mem (hnodup : (names entries).Nodup) (hmem : (name, value) ∈ entries) :
    get? name entries = some value := by
  induction entries with
  | nil => cases hmem
  | cons entry rest ih =>
    obtain ⟨other, old⟩ := entry
    obtain ⟨hfresh, hrest⟩ := List.nodup_cons.mp hnodup
    rcases List.mem_cons.mp hmem with heq | hmem
    · cases heq
      exact if_pos rfl
    · have hother : other ≠ name := by
        rintro rfl
        exact hfresh (List.mem_map.mpr ⟨_, hmem, rfl⟩)
      rw [get?, if_neg hother, ih hrest hmem]

/-- Where names are distinct, the order of the entries is nothing to a look-up. -/
theorem get?_perm (hnodup : (names entries).Nodup) (hperm : entries.Perm more) :
    get? name more = get? name entries := by
  have hnames : (names entries).Perm (names more) := hperm.map Prod.fst
  cases hget : get? name entries with
  | none =>
    rw [get?_eq_none_iff] at hget ⊢
    exact fun hmem => hget (hnames.mem_iff.mpr hmem)
  | some value =>
    exact get?_of_mem (hnames.nodup_iff.mp hnodup) (hperm.subset (mem_of_get? hget))

/-- An entry put in somewhere is found under its own name alone. -/
theorem get?_append_cons {other : String} (hother : other ≠ name) :
    get? name (entries ++ (other, value) :: more) = get? name (entries ++ more) := by
  rw [get?_append, get?_append, get?, if_neg hother]

end Named

namespace Json

/-- Only an object has a member under a name. -/
theorem get?_eq_some_iff {v value : Json} {name : String} :
    v.get? name = some value ↔
      ∃ members, v = .object members ∧ Named.get? name members = some value := by
  refine ⟨?_, ?_⟩
  · intro hget
    cases v with
    | object members => exact ⟨members, rfl, hget⟩
    | _ => cases hget
  · rintro ⟨members, rfl, hget⟩
    exact hget

/-! ### Distinct names -/

mutual

/-- No object holds a name twice. -/
def wellFormed : Json → Bool
  | .list items => allWellFormed items
  | .object members => decide (Named.names members).Nodup && membersWellFormed members
  | _ => true

def allWellFormed : List Json → Bool
  | [] => true
  | item :: rest => item.wellFormed && allWellFormed rest

def membersWellFormed : List (String × Json) → Bool
  | [] => true
  | (_, value) :: rest => value.wellFormed && membersWellFormed rest

end

theorem membersWellFormed_iff {members : List (String × Json)} :
    membersWellFormed members = true ↔ ∀ member ∈ members, member.2.wellFormed = true := by
  induction members with
  | nil => simp [membersWellFormed]
  | cons member rest ih => simp [membersWellFormed, ih]

theorem wellFormed_object {members : List (String × Json)} :
    (object members).wellFormed = true ↔
      (Named.names members).Nodup ∧ ∀ member ∈ members, member.2.wellFormed = true := by
  rw [wellFormed, Bool.and_eq_true, decide_eq_true_eq, membersWellFormed_iff]

theorem wellFormed_of_get? {v value : Json} {name : String} (hv : v.wellFormed = true)
    (hget : v.get? name = some value) : value.wellFormed = true := by
  obtain ⟨members, rfl, hget⟩ := get?_eq_some_iff.mp hget
  exact (wellFormed_object.mp hv).2 _ (Named.mem_of_get? hget)

/-! ### Members under other names -/

/-- The members of an object whose names are not among the known ones, in their order. -/
def others (known : List String) : Json → List (String × Json)
  | .object members => members.filter fun member => member.1 ∉ known
  | _ => []

theorem unknown_of_mem_others {v : Json} {known : List String} {member : String × Json}
    (hmem : member ∈ v.others known) : member.1 ∉ known := by
  cases v with
  | object members => simpa using (List.mem_filter.mp hmem).2
  | _ => cases hmem

theorem nodup_others {v : Json} {known : List String} (hformed : v.wellFormed = true) :
    (Named.names (v.others known)).Nodup := by
  cases v with
  | object members =>
    exact (wellFormed_object.mp hformed).1.sublist (List.filter_sublist.map Prod.fst)
  | _ => exact List.nodup_nil

/-- Known members in front of unknown ones do not hide them. -/
theorem others_append {known : List String} {members more : List (String × Json)}
    (hmembers : ∀ member ∈ members, member.1 ∈ known)
    (hmore : ∀ member ∈ more, member.1 ∉ known) :
    (object (members ++ more)).others known = more := by
  have hnone : members.filter (fun member => member.1 ∉ known) = [] := by
    rw [List.filter_eq_nil_iff]
    intro member hmem
    simpa using hmembers member hmem
  have hall : more.filter (fun member => member.1 ∉ known) = more := by
    rw [List.filter_eq_self]
    intro member hmem
    simpa using hmore member hmem
  rw [others, List.filter_append, hnone, hall, List.nil_append]

/-- Unknown members are added behind the known ones as they stand. -/
theorem extend_eq_append {known : List String} {members more : List (String × Json)}
    (hmembers : ∀ member ∈ members, member.1 ∈ known) (hnodup : (Named.names more).Nodup)
    (hmore : ∀ member ∈ more, member.1 ∉ known) : Named.extend members more = members ++ more := by
  apply Named.extend_eq_append hnodup
  intro name hname hmember
  obtain ⟨further, hfurther, rfl⟩ := List.mem_map.mp hname
  obtain ⟨member, hmem, heq⟩ := List.mem_map.mp hmember
  exact hmore further hfurther (heq ▸ hmembers member hmem)

end Json

end Outreach
