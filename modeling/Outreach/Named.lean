/-!
# Values under names

A list of values under names, in the order in which the names first came up. Inserting under a name
that is taken replaces the value and moves nothing; a new name goes to the end.
-/

namespace Outreach

abbrev Named (α : Type) := List (String × α)

namespace Named

variable {α β : Type}

def get? (name : String) : Named α → Option α
  | [] => none
  | (other, value) :: rest => if other = name then some value else get? name rest

def insert (name : String) (value : α) : Named α → Named α
  | [] => [(name, value)]
  | (other, old) :: rest =>
    if other = name then (other, value) :: rest else (other, old) :: insert name value rest

def extend (entries : Named α) (more : Named α) : Named α :=
  more.foldl (fun known entry => insert entry.1 entry.2 known) entries

def ofList (entries : List (String × α)) : Named α := extend [] entries

def names (entries : Named α) : List String := entries.map Prod.fst

theorem get?_insert (name other : String) (value : α) (entries : Named α) :
    get? other (insert name value entries) =
      if name = other then some value else get? other entries := by
  induction entries with
  | nil => simp [insert, get?]
  | cons entry rest ih =>
    obtain ⟨known, old⟩ := entry
    by_cases hknown : known = name
    · subst hknown
      by_cases hother : known = other <;> simp [insert, get?, hother]
    · by_cases hother : known = other
      · subst hother
        simp [insert, get?, hknown, Ne.symm hknown]
      · simp [insert, get?, hknown, hother, ih]

theorem names_insert (name : String) (value : α) (entries : Named α) :
    names (insert name value entries) =
      if name ∈ names entries then names entries else names entries ++ [name] := by
  induction entries with
  | nil => simp [insert, names]
  | cons entry rest ih =>
    obtain ⟨known, old⟩ := entry
    by_cases hknown : known = name
    · subst hknown
      simp [insert, names]
    · simp only [names] at ih
      simp only [insert, hknown, if_false, names, List.map_cons, List.mem_cons, Ne.symm hknown,
        false_or, ih]
      by_cases hmem : name ∈ rest.map Prod.fst <;> simp [hmem]

theorem get?_eq_none_iff (name : String) (entries : Named α) :
    get? name entries = none ↔ name ∉ names entries := by
  induction entries with
  | nil => simp [get?, names]
  | cons entry rest ih =>
    obtain ⟨known, old⟩ := entry
    by_cases hknown : known = name
    · simp [get?, names, hknown]
    · simpa [get?, names, hknown, Ne.symm hknown] using ih

end Named

/-- The distinct members of a list, each where it first occurs. -/
def firstOccurrences {α : Type} [DecidableEq α] : List α → List α
  | [] => []
  | x :: rest => x :: (firstOccurrences rest).filter (· ≠ x)

theorem mem_firstOccurrences {α : Type} [DecidableEq α] (x : α) (xs : List α) :
    x ∈ firstOccurrences xs ↔ x ∈ xs := by
  induction xs with
  | nil => simp [firstOccurrences]
  | cons y rest ih =>
    by_cases hxy : x = y
    · simp [firstOccurrences, hxy]
    · simp [firstOccurrences, hxy, ih]

theorem nodup_firstOccurrences {α : Type} [DecidableEq α] (xs : List α) :
    (firstOccurrences xs).Nodup := by
  induction xs with
  | nil => simp [firstOccurrences]
  | cons y rest ih =>
    rw [firstOccurrences, List.nodup_cons]
    exact ⟨by simp, ih.filter _⟩

end Outreach
