import Outreach.Json.Reader
import Outreach.Proofs.Json.Members

/-!
# What is read is well formed

Of a repeated name the reader keeps one member, so no object that is read holds a name twice, at any
depth. The three readers of values, items and members hand this on to each other along the fuel.
-/

namespace Outreach

namespace Named

variable {α : Type} {name : String} {value : α} {entries more : Named α}

theorem nodup_insert (hnodup : (names entries).Nodup) :
    (names (insert name value entries)).Nodup := by
  rw [names_insert]
  split
  · exact hnodup
  · rename_i hnew
    refine List.nodup_append.mpr ⟨hnodup, List.nodup_singleton name, ?_⟩
    intro other hother known hknown
    rw [List.mem_singleton.mp hknown]
    exact fun hsame => hnew (hsame ▸ hother)

theorem mem_insert {entry : String × α} (hmem : entry ∈ insert name value entries) :
    entry.2 = value ∨ entry ∈ entries := by
  induction entries with
  | nil => exact .inl (congrArg Prod.snd (List.mem_singleton.mp hmem))
  | cons first rest ih =>
    obtain ⟨known, old⟩ := first
    rw [insert] at hmem
    split at hmem
    · rcases List.mem_cons.mp hmem with rfl | hmem
      · exact .inl rfl
      · exact .inr (List.mem_cons_of_mem _ hmem)
    · rcases List.mem_cons.mp hmem with rfl | hmem
      · exact .inr List.mem_cons_self
      · exact (ih hmem).imp id (List.mem_cons_of_mem _)

theorem nodup_extend (hnodup : (names entries).Nodup) : (names (extend entries more)).Nodup := by
  induction more generalizing entries with
  | nil => exact hnodup
  | cons entry rest ih => exact ih (nodup_insert hnodup)

theorem mem_extend {entry : String × α} (hmem : entry ∈ extend entries more) :
    entry ∈ entries ∨ ∃ added ∈ more, entry.2 = added.2 := by
  induction more generalizing entries with
  | nil => exact .inl hmem
  | cons first rest ih =>
    rcases ih hmem with hinsert | ⟨added, hadded, hvalue⟩
    · exact (mem_insert hinsert).symm.imp id fun hvalue => ⟨first, List.mem_cons_self, hvalue⟩
    · exact .inr ⟨added, List.mem_cons_of_mem _ hadded, hvalue⟩

end Named

namespace Json

theorem allWellFormed_iff {items : List Json} :
    allWellFormed items = true ↔ ∀ item ∈ items, item.wellFormed = true := by
  induction items with
  | nil => simp [allWellFormed]
  | cons item rest ih => simp [allWellFormed, ih]

theorem wellFormed_ofMembers {members : List (String × Json)}
    (hmembers : ∀ member ∈ members, member.2.wellFormed = true) :
    (ofMembers members).wellFormed = true := by
  refine wellFormed_object.mpr ⟨Named.nodup_extend List.nodup_nil, ?_⟩
  intro member hmem
  rcases Named.mem_extend hmem with hnil | ⟨added, hadded, hvalue⟩
  · cases hnil
  · rw [hvalue]
    exact hmembers added hadded

namespace Reader

variable {fuel : Nat} {cs rest : List Char} {v : Json}

/-- The value that is read, if there is one, is well formed. -/
def ReadsWellFormed (reading : Option (Json × List Char)) : Prop :=
  ∀ v rest, reading = some (v, rest) → v.wellFormed = true

theorem readsWellFormed_some (hv : v.wellFormed = true) : ReadsWellFormed (some (v, rest)) := by
  rintro _ _ ⟨⟩
  exact hv

theorem readsWellFormed_none : ReadsWellFormed none := by
  rintro _ _ ⟨⟩

/-- A value without parts is well formed. -/
theorem readsWellFormed_map {α : Type} {reading : Option α} {f : α → Json × List Char}
    (hf : ∀ a, (f a).1.wellFormed = true) : ReadsWellFormed (reading.map f) := by
  intro v rest hread
  obtain ⟨a, -, ha⟩ := Option.map_eq_some_iff.mp hread
  have hv := hf a
  rw [ha] at hv
  exact hv

theorem wellFormed_of_float? {negative : Bool} {whole fraction : List Char} {exponent : Int}
    (hread : float? negative whole fraction exponent = some v) : v.wellFormed = true := by
  obtain ⟨x, -, rfl⟩ := Option.map_eq_some_iff.mp hread
  rfl

theorem wellFormed_of_whole? {negative : Bool} {digits : List Char}
    (hread : whole? negative digits = some v) : v.wellFormed = true := by
  unfold whole? at hread
  dsimp only at hread
  split at hread
  · split at hread
    · cases hread
      rfl
    · exact wellFormed_of_float? hread
  · split at hread
    · cases hread
      rfl
    · exact wellFormed_of_float? hread

theorem readsWellFormed_number? (negative : Bool) (cs : List Char) :
    ReadsWellFormed (number? negative cs) := by
  intro v rest hread
  unfold number? at hread
  dsimp only at hread
  split at hread
  · cases hread
  · obtain ⟨⟨fraction, rest₁⟩, -, hread⟩ := Option.bind_eq_some_iff.mp hread
    obtain ⟨⟨exponent, rest₂⟩, -, hread⟩ := Option.bind_eq_some_iff.mp hread
    obtain ⟨value, hvalue, hread⟩ := Option.bind_eq_some_iff.mp hread
    cases hread
    unfold ofParts? at hvalue
    split at hvalue
    · exact wellFormed_of_whole? hvalue
    · exact wellFormed_of_float? hvalue

/-- What the three readers hand on to each other: with the items and the members read so far well
formed, the value in the end is. -/
structure ReadsAllWellFormed (fuel : Nat) : Prop where
  value : ∀ cs, ReadsWellFormed (value? fuel cs)
  items : ∀ seen cs, (∀ item ∈ seen, item.wellFormed = true) → ReadsWellFormed (items? fuel seen cs)
  members : ∀ seen cs, (∀ member ∈ seen, member.2.wellFormed = true) →
    ReadsWellFormed (members? fuel seen cs)

theorem ReadsAllWellFormed.value_succ (h : ReadsAllWellFormed fuel) (cs : List Char) :
    ReadsWellFormed (value? (fuel + 1) cs) := by
  rw [value?]
  split
  · exact readsWellFormed_map fun _ => rfl
  · exact readsWellFormed_map fun _ => rfl
  · exact readsWellFormed_map fun _ => rfl
  · exact readsWellFormed_map fun _ => rfl
  · exact readsWellFormed_number? true _
  · split
    · exact readsWellFormed_some rfl
    · exact h.items [] _ (by simp)
  · split
    · exact readsWellFormed_some (by decide)
    · exact h.members [] _ (by simp)
  · exact readsWellFormed_number? false _

theorem ReadsAllWellFormed.items_succ (h : ReadsAllWellFormed fuel) (seen : List Json)
    (cs : List Char) (hseen : ∀ item ∈ seen, item.wellFormed = true) :
    ReadsWellFormed (items? (fuel + 1) seen cs) := by
  rw [items?]
  cases hread : value? fuel cs with
  | none => exact readsWellFormed_none
  | some first =>
    obtain ⟨item, rest⟩ := first
    have hall : ∀ other ∈ item :: seen, other.wellFormed = true :=
      List.forall_mem_cons.mpr ⟨h.value cs item rest hread, hseen⟩
    dsimp only
    split
    · exact h.items _ _ hall
    · refine readsWellFormed_some ?_
      rw [wellFormed, allWellFormed_iff]
      exact fun other hother => hall other (List.mem_reverse.mp hother)
    · exact readsWellFormed_none

theorem ReadsAllWellFormed.members_succ (h : ReadsAllWellFormed fuel) (seen : List (String × Json))
    (cs : List Char) (hseen : ∀ member ∈ seen, member.2.wellFormed = true) :
    ReadsWellFormed (members? (fuel + 1) seen cs) := by
  rw [members?]
  split
  · rename_i afterQuote _
    cases hname : textBody? fuel [] afterQuote with
    | none => exact readsWellFormed_none
    | some named =>
      obtain ⟨name, afterName⟩ := named
      dsimp only
      split
      · rename_i afterColon _
        cases hread : value? fuel afterColon with
        | none => exact readsWellFormed_none
        | some first =>
          obtain ⟨value, rest⟩ := first
          have hall : ∀ other ∈ (name, value) :: seen, other.2.wellFormed = true :=
            List.forall_mem_cons.mpr ⟨h.value afterColon value rest hread, hseen⟩
          dsimp only
          split
          · exact h.members _ _ hall
          · refine readsWellFormed_some (wellFormed_ofMembers ?_)
            exact fun other hother => hall other (List.mem_reverse.mp hother)
          · exact readsWellFormed_none
      · exact readsWellFormed_none
  · exact readsWellFormed_none

theorem readsAllWellFormed (fuel : Nat) : ReadsAllWellFormed fuel := by
  induction fuel with
  | zero =>
    refine ⟨fun cs => ?_, fun seen cs _ => ?_, fun seen cs _ => ?_⟩
    · exact readsWellFormed_none
    · exact readsWellFormed_none
    · exact readsWellFormed_none
  | succ fuel ih => exact ⟨ih.value_succ, ih.items_succ, ih.members_succ⟩

end Reader

/-- No value that is read from a text holds a name twice in one object. -/
theorem wellFormed_of_read? {s : String} {v : Json} (hread : read? s = some v) :
    v.wellFormed = true := by
  unfold read? at hread
  dsimp only at hread
  split at hread
  · rename_i value rest hvalue
    split at hread
    · cases hread
      exact (Reader.readsAllWellFormed _).value _ _ _ hvalue
    · cases hread
  · cases hread

end Json

end Outreach
