import Outreach.Filter.Form
import Outreach.Proofs.Text.Pieces
import Outreach.Text.Casing

/-!
# Lower-cased words

Lower-casing looks at the neighbours of a capital sigma, as far as the case-ignorable characters
reach. A space is neither cased nor case-ignorable, so no look reaches beyond one
(`opensCased_append_space`), and no character but a space is lower-cased to one
(`lowerOne_ne_space`). A text is therefore lower-cased word by word, and the words of the
lower-cased text are the lower-cased words.
-/

namespace Outreach

namespace Text

/-! ### Context -/

theorem isCased_space : isCased ' ' = false := by decide

theorem isCaseIgnorable_space : isCaseIgnorable ' ' = false := by decide +kernel

theorem opensCased_append_space (cs rest : List Char) :
    opensCased (cs ++ ' ' :: rest) = opensCased cs := by
  induction cs with
  | nil => simp [opensCased, isCaseIgnorable_space, isCased_space]
  | cons c cs ih =>
    by_cases hignorable : isCaseIgnorable c = true
    · simpa [opensCased, hignorable] using ih
    · simp [opensCased, hignorable]

theorem lowerAfter_past_space (before left cs : List Char) :
    lowerAfter (before ++ ' ' :: left) cs = lowerAfter before cs := by
  induction cs generalizing before with
  | nil => rfl
  | cons c rest ih =>
    rw [lowerAfter, lowerAfter, ← List.cons_append, ih, lowerBetween, lowerBetween,
      opensCased_append_space]

/-! ### Spaces -/

theorem lowerBetween_space (before after : List Char) :
    lowerBetween before ' ' after = [' '] := by
  have hone : lowerOne ' ' = ' ' := by decide
  rw [lowerBetween, if_neg (by decide), if_neg (by decide), hone]

/-- Every lower-case form in the table lies above the space. -/
theorem space_lt_lowered : ∀ range ∈ lowerRanges, 32 < (range.first : Int) + range.shift := by
  decide +kernel

theorem ofNat_ne_space {n : Nat} (hn : 32 < n) : Char.ofNat n ≠ ' ' := by
  intro heq
  by_cases hvalid : n.isValidChar
  · have hcode : (Char.ofNat n).toNat = n := by
      rw [Char.ofNat, dif_pos hvalid]
      rfl
    rw [heq] at hcode
    exact absurd hcode (Nat.ne_of_lt hn)
  · rw [Char.ofNat, dif_neg hvalid] at heq
    cases heq

theorem lowerOne_ne_space {c : Char} (hc : c ≠ ' ') : lowerOne c ≠ ' ' := by
  unfold lowerOne
  split
  · rename_i range hfind
    have hfirst : range.first ≤ c.toNat := by
      have hcontains := List.find?_some hfind
      simp only [CaseRange.contains, Bool.and_eq_true, decide_eq_true_eq] at hcontains
      exact hcontains.1.1
    have habove := space_lt_lowered range (List.mem_of_find?_eq_some hfind)
    exact ofNat_ne_space (by omega)
  · exact hc

theorem space_not_mem_lowerBetween {c : Char} (hc : c ≠ ' ') (before after : List Char) :
    ' ' ∉ lowerBetween before c after := by
  unfold lowerBetween
  split
  · split <;> decide
  · split
    · decide
    · simpa using Ne.symm (lowerOne_ne_space hc)

theorem space_not_mem_lowerAfter {cs : List Char} (hcs : ' ' ∉ cs) (before : List Char) :
    ' ' ∉ lowerAfter before cs := by
  induction cs generalizing before with
  | nil => exact List.not_mem_nil
  | cons c rest ih =>
    obtain ⟨hc, hrest⟩ := not_or.mp (mt List.mem_cons.mpr hcs)
    rw [lowerAfter, List.mem_append, not_or]
    exact ⟨space_not_mem_lowerBetween (Ne.symm hc) before rest, ih hrest _⟩

theorem lowerAfter_eq_nil_iff {before cs : List Char} : lowerAfter before cs = [] ↔ cs = [] := by
  cases cs with
  | nil => simp [lowerAfter]
  | cons c rest =>
    have hchar : lowerBetween before c rest ≠ [] := by
      unfold lowerBetween
      repeat' split
      all_goals exact List.cons_ne_nil _ _
    simp [lowerAfter, hchar]

/-! ### Word by word -/

theorem lowerAfter_append_space (before xs ys : List Char) :
    lowerAfter before (xs ++ ' ' :: ys) = lowerAfter before xs ++ ' ' :: lowerAfter [] ys := by
  induction xs generalizing before with
  | nil =>
    rw [List.nil_append, lowerAfter, lowerAfter, lowerBetween_space]
    exact congrArg _ (lowerAfter_past_space [] before ys)
  | cons c rest ih =>
    rw [List.cons_append, lowerAfter, ih, lowerAfter, List.append_assoc, lowerBetween,
      lowerBetween, opensCased_append_space]

theorem lowerAfter_intercalate (parts : List (List Char)) :
    lowerAfter [] ([' '].intercalate parts) = [' '].intercalate (parts.map (lowerAfter [])) := by
  induction parts with
  | nil => rfl
  | cons part others ih =>
    cases others with
    | nil => simp
    | cons next more =>
      rw [List.intercalate_cons_cons, List.append_assoc, List.singleton_append,
        lowerAfter_append_space, ih]
      simp

/-- The pieces of a lower-cased text between spaces are the lower-cased pieces of the text. -/
theorem pieces_lower (s : String) : pieces ' ' (lower s) = (pieces ' ' s).map lower := by
  have hfree : ∀ piece ∈ (cut ' ' s.toList).map (lowerAfter []), ' ' ∉ piece := by
    intro lowered hlowered
    obtain ⟨piece, hpiece, rfl⟩ := List.mem_map.mp hlowered
    exact space_not_mem_lowerAfter (not_mem_of_mem_cut hpiece) []
  have hcut : cut ' ' (lowerAfter [] s.toList) = (cut ' ' s.toList).map (lowerAfter []) := by
    calc cut ' ' (lowerAfter [] s.toList)
        = (lowerAfter [] ([' '].intercalate (s.toList.splitOn ' '))).splitOn ' ' := by
          rw [List.intercalate_splitOn, cut_eq_splitOn]
      _ = ([' '].intercalate ((cut ' ' s.toList).map (lowerAfter []))).splitOn ' ' := by
          rw [lowerAfter_intercalate, cut_eq_splitOn]
      _ = (cut ' ' s.toList).map (lowerAfter []) :=
          List.splitOn_intercalate ' ' hfree (by simpa using cut_ne_nil ' ' s.toList)
  rw [pieces, lower, String.toList_ofList, hcut, pieces, List.map_map, List.map_map]
  exact List.map_congr_left fun piece _ => by simp [lower]

theorem isEmpty_lower (s : String) : (lower s).isEmpty = s.isEmpty := by
  rw [Bool.eq_iff_iff, String.isEmpty_iff, String.isEmpty_iff, lower, String.ofList_eq_empty_iff,
    lowerAfter_eq_nil_iff, String.toList_eq_nil_iff]

end Text

open Text

theorem textTerms_eq_filter (s : String) :
    textTerms s = (pieces ' ' (lower s)).filter fun word => !word.isEmpty := by
  rw [textTerms, pieces_lower, List.filter_map]
  refine congrArg _ (List.filter_congr fun word _ => ?_)
  rw [Function.comp_apply, isEmpty_lower]

theorem textTerms_append (a b : String) :
    textTerms (a ++ " " ++ b) = textTerms a ++ textTerms b := by
  have hpieces : pieces ' ' (a ++ " " ++ b) = pieces ' ' a ++ pieces ' ' b :=
    pieces_append_separator ' ' a b
  rw [textTerms, hpieces, List.filter_append, List.map_append]
  rfl

/-- The words of a text are the pieces that say something of the lower-cased text between spaces,
whatever is looked at for a final sigma. Two texts with a space between them have the words of the
one and then of the other, and a word is never empty and holds no space. -/
theorem words_of_lowered_text (s a b : String) :
    textTerms s = (pieces ' ' (lower s)).filter (fun word => !word.isEmpty) ∧
      textTerms (a ++ " " ++ b) = textTerms a ++ textTerms b ∧
      ∀ word ∈ textTerms s, word ≠ "" ∧ ' ' ∉ word.toList := by
  refine ⟨textTerms_eq_filter s, textTerms_append a b, ?_⟩
  intro word hword
  rw [textTerms_eq_filter, List.mem_filter] at hword
  obtain ⟨hpiece, hnonempty⟩ := hword
  obtain ⟨piece, hcut, rfl⟩ := List.mem_map.mp hpiece
  refine ⟨by simpa using hnonempty, ?_⟩
  rw [String.toList_ofList]
  exact not_mem_of_mem_cut hcut

/-- A sigma at the end of a word is final whether or not another word follows. -/
example : textTerms " ΟΔΟΣ  ΣΟΦΟΣ" = ["οδος", "σοφος"] := by decide +kernel

end Outreach
