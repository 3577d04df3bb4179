/-!
# Pieces of a separated text

A text is cut at every occurrence of a separator. There is always one piece more than there are
separators, so the empty text has one empty piece.
-/

namespace Outreach

namespace Text

/-- The pieces between the occurrences of `sep`, in order. -/
def cut (sep : Char) : List Char → List (List Char)
  | [] => [[]]
  | c :: rest =>
    if c = sep then [] :: cut sep rest
    else match cut sep rest with
      | [] => [[c]]
      | piece :: others => (c :: piece) :: others

def pieces (sep : Char) (s : String) : List String := (cut sep s.toList).map String.ofList

theorem cut_ne_nil (sep : Char) (cs : List Char) : cut sep cs ≠ [] := by
  cases cs with
  | nil => simp [cut]
  | cons c rest =>
    simp only [cut]
    split
    · simp
    · split <;> simp

theorem cut_cons_of_ne {sep c : Char} (hne : c ≠ sep) (cs : List Char) :
    ∃ piece others, cut sep cs = piece :: others ∧ cut sep (c :: cs) = (c :: piece) :: others := by
  cases hcut : cut sep cs with
  | nil => exact absurd hcut (cut_ne_nil sep cs)
  | cons piece others => exact ⟨piece, others, rfl, by simp [cut, hne, hcut]⟩

/-- Cutting counts the separators: one piece more than there are. -/
theorem length_cut (sep : Char) (cs : List Char) : (cut sep cs).length = cs.count sep + 1 := by
  induction cs with
  | nil => rfl
  | cons c rest ih =>
    by_cases hsep : c = sep
    · subst hsep
      simp [cut, ih]
    · obtain ⟨piece, others, hrest, hall⟩ := cut_cons_of_ne hsep rest
      rw [hall, List.count_cons_of_ne (by simpa using hsep), ← ih, hrest]
      rfl

theorem length_pieces (sep : Char) (s : String) :
    (pieces sep s).length = s.toList.count sep + 1 := by
  simp [pieces, length_cut]

end Text

end Outreach
