import Outreach.Text.Pieces

/-!
# Joining and cutting

Cutting a text at a separator undoes joining pieces by it, as long as no piece holds the separator
itself, which no piece of a cut does. Cutting a text that is put together at a separator cuts its
two sides apart.
-/

namespace Outreach

namespace Text

theorem cut_eq_splitOn (sep : Char) (cs : List Char) : cut sep cs = cs.splitOn sep := by
  induction cs with
  | nil => rfl
  | cons c rest ih =>
    rw [List.splitOn_cons_eq_if_modifyHead, cut, ih]
    by_cases hsep : c = sep
    · rw [if_pos hsep, if_pos (beq_iff_eq.mpr hsep)]
    · rw [if_neg hsep, if_neg (mt beq_iff_eq.mp hsep)]
      cases hrest : rest.splitOn sep with
      | nil => exact absurd hrest (List.splitOn_ne_nil sep rest)
      | cons piece others => rfl

theorem not_mem_of_mem_cut {sep : Char} {piece cs : List Char} (hpiece : piece ∈ cut sep cs) :
    sep ∉ piece := by
  induction cs generalizing piece with
  | nil => simp_all [cut]
  | cons c rest ih =>
    by_cases hsep : c = sep
    · rw [cut, if_pos hsep] at hpiece
      rcases List.mem_cons.mp hpiece with rfl | hrest
      · exact List.not_mem_nil
      · exact ih hrest
    · obtain ⟨first, others, hrest, hall⟩ := cut_cons_of_ne hsep rest
      rw [hall] at hpiece
      rcases List.mem_cons.mp hpiece with rfl | hother
      · have hfirst : sep ∉ first := ih (hrest ▸ List.mem_cons_self)
        exact List.not_mem_cons_of_ne_of_not_mem (Ne.symm hsep) hfirst
      · exact ih (hrest ▸ List.mem_cons_of_mem _ hother)

theorem cut_append_separator (sep : Char) (xs ys : List Char) :
    cut sep (xs ++ sep :: ys) = cut sep xs ++ cut sep ys := by
  induction xs with
  | nil => simp [cut]
  | cons c rest ih =>
    by_cases hsep : c = sep
    · simp [cut, hsep, ih]
    · obtain ⟨piece, others, hrest, hall⟩ := cut_cons_of_ne hsep rest
      rw [List.cons_append, cut, if_neg hsep, ih, hall, hrest]
      rfl

theorem pieces_append_separator (sep : Char) (a b : String) :
    pieces sep (a ++ String.singleton sep ++ b) = pieces sep a ++ pieces sep b := by
  rw [pieces, String.toList_append, String.toList_append, String.toList_singleton,
    List.append_assoc, List.singleton_append, cut_append_separator, List.map_append]
  rfl

theorem pieces_intercalate {sep : Char} {parts : List String} (hne : parts ≠ [])
    (hfree : ∀ part ∈ parts, sep ∉ part.toList) :
    pieces sep ((String.singleton sep).intercalate parts) = parts := by
  rw [pieces, cut_eq_splitOn, String.toList_intercalate, String.toList_singleton,
    List.splitOn_intercalate sep (by simpa using hfree) (by simpa using hne), List.map_map]
  exact (List.map_congr_left fun part _ => String.ofList_toList).trans (List.map_id parts)

/-- A text without a piece that says anything is made of separators alone. -/
theorem filter_pieces_eq_nil (sep : Char) (s : String) :
    (pieces sep s).filter (fun piece => !piece.isEmpty) = [] ↔ ∀ c ∈ s.toList, c = sep := by
  have hcut : ∀ cs, (∀ piece ∈ cut sep cs, piece = []) ↔ ∀ c ∈ cs, c = sep := by
    intro cs
    induction cs with
    | nil => simp [cut]
    | cons c rest ih =>
      rw [List.forall_mem_cons]
      by_cases hsep : c = sep
      · simp [cut, hsep, ih]
      · obtain ⟨piece, others, -, hall⟩ := cut_cons_of_ne hsep rest
        simp [hall, hsep]
  rw [List.filter_eq_nil_iff, ← hcut]
  simp [pieces]

end Text

end Outreach
