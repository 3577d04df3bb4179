import Mathlib.Data.String.Basic
import Outreach.Text.Blank
import Outreach.Text.Numeral

/-!
# Digits

Digits padded to a width are digits only, fill the width when the number fits it, and keep its value
(`length_padded`, `isDigit_of_mem_padded`, `ofDigitChars_padded`). Integers of sixty-four bits are
read back from their decimal form.
-/

namespace Outreach

namespace Text

variable {width n : Nat}

theorem isDigit_of_mem_padded {c : Char} (hc : c ∈ padded width n) : c.isDigit = true := by
  rcases List.mem_append.mp hc with hzero | hdigit
  · rw [List.eq_of_mem_replicate hzero]
    rfl
  · exact Nat.isDigit_of_mem_toDigits (by decide) (by decide) hdigit

theorem not_mem_padded {c : Char} (hc : c.isDigit = false) (width n : Nat) : c ∉ padded width n :=
  fun hmem => absurd (isDigit_of_mem_padded hmem) (by simp [hc])

theorem length_padded_le {most : Nat} (hwidth : width ≤ most) (hmost : 0 < most)
    (hn : n < 10 ^ most) : (padded width n).length ≤ most := by
  have hfits := (Nat.length_toDigits_le_iff (by decide) hmost).mpr hn
  rw [padded, List.length_append, List.length_replicate]
  omega

theorem length_padded (hwidth : 0 < width) (hn : n < 10 ^ width) :
    (padded width n).length = width := by
  refine Nat.le_antisymm (length_padded_le (Nat.le_refl width) hwidth hn) ?_
  rw [padded, List.length_append, List.length_replicate]
  omega

theorem ofDigitChars_padded (width n : Nat) : Nat.ofDigitChars 10 (padded width n) 0 = n := by
  rw [padded, Nat.ofDigitChars_append, Nat.ofDigitChars_replicate_zero, Nat.mul_zero,
    Nat.ofDigitChars_ten_toDigits]

theorem padded_ne_nil (width n : Nat) : padded width n ≠ [] :=
  List.append_ne_nil_of_right_ne_nil _ Nat.toDigits_ne_nil

theorem isDigit_bounds {c : Char} (hc : c.isDigit = true) : 48 ≤ c.toNat ∧ c.toNat ≤ 57 := by
  simpa [Char.isDigit, UInt32.le_iff_toNat_le] using hc

theorem ofDigitChars_lt {cs : List Char} (hdigits : ∀ c ∈ cs, c.isDigit = true) :
    Nat.ofDigitChars 10 cs 0 < 10 ^ cs.length := by
  induction cs with
  | nil => exact Nat.zero_lt_one
  | cons c rest ih =>
    obtain ⟨hc, hrest⟩ := List.forall_mem_cons.mp hdigits
    obtain ⟨hleast, hmost⟩ := isDigit_bounds hc
    rw [Nat.ofDigitChars_cons, Nat.ofDigitChars_eq_ofDigitChars_zero, List.length_cons,
      Nat.mul_zero, Nat.zero_add]
    calc 10 ^ rest.length * (c.toNat - 48) + Nat.ofDigitChars 10 rest 0
        < 10 ^ rest.length * (c.toNat - 48) + 10 ^ rest.length := Nat.add_lt_add_left (ih hrest) _
      _ = 10 ^ rest.length * (c.toNat - 48 + 1) := (Nat.mul_succ _ _).symm
      _ ≤ 10 ^ rest.length * 10 := Nat.mul_le_mul_left _ (by omega)

/-- No digit is a blank. -/
theorem isBlank_of_isDigit {c : Char} (hc : c.isDigit = true) : isBlank c = false := by
  obtain ⟨hleast, hmost⟩ := isDigit_bounds hc
  simp only [isBlank, Bool.or_eq_false_iff, Bool.and_eq_false_iff, decide_eq_false_iff_not,
    beq_eq_false_iff_ne]
  omega

/-- Padded digits begin with a digit. -/
theorem exists_padded_eq_cons (count n : Nat) :
    ∃ c digits, padded count n = c :: digits ∧ c.isDigit = true := by
  obtain ⟨c, digits, hpadded⟩ := List.exists_cons_of_ne_nil (padded_ne_nil count n)
  exact ⟨c, digits, hpadded, isDigit_of_mem_padded (hpadded ▸ List.mem_cons_self)⟩

theorem dropBlanks_padded (count n : Nat) (rest : List Char) :
    dropBlanks (padded count n ++ rest) = padded count n ++ rest := by
  obtain ⟨c, digits, hpadded, hc⟩ := exists_padded_eq_cons count n
  rw [hpadded]
  exact List.dropWhile_cons_of_neg (by simp [isBlank_of_isDigit hc])

theorem padded_append_ne_cons {sign : Char} (hsign : sign.isDigit = false)
    (rest other : List Char) : padded count n ++ rest ≠ sign :: other := by
  obtain ⟨c, digits, hpadded, hc⟩ := exists_padded_eq_cons count n
  rw [hpadded]
  intro heq
  rw [(List.cons.inj heq).1, hsign] at hc
  exact Bool.false_ne_true hc

/-! ### Sizes -/

theorem utf8Len_of_isDigit {cs : List Char} (hdigits : ∀ c ∈ cs, c.isDigit = true) :
    String.utf8Len cs = cs.length := by
  induction cs with
  | nil => rfl
  | cons c rest ih =>
    obtain ⟨hc, hrest⟩ := List.forall_mem_cons.mp hdigits
    have hsize : c.utf8Size = 1 :=
      Char.utf8Size_eq_one_iff.mpr (UInt32.le_iff_toNat_le.mpr
        (Nat.le_trans (isDigit_bounds hc).2 (by decide)))
    rw [String.utf8Len_cons, ih hrest, hsize, List.length_cons]

theorem utf8Len_padded (width n : Nat) :
    String.utf8Len (padded width n) = (padded width n).length :=
  utf8Len_of_isDigit fun _ hc => isDigit_of_mem_padded hc

theorem length_le_utf8Len (cs : List Char) : cs.length ≤ String.utf8Len cs := by
  induction cs with
  | nil => exact Nat.le_refl 0
  | cons c rest ih => exact Nat.add_le_add ih c.utf8Size_pos

/-! ### Integers -/

theorem signed?_of_isDigit {cs : List Char} (hdigits : ∀ c ∈ cs, c.isDigit = true) :
    signed? cs = (natural? cs).map Int.ofNat := by
  unfold signed?
  split
  · exact absurd (hdigits '+' List.mem_cons_self) (by decide)
  · exact absurd (hdigits '-' List.mem_cons_self) (by decide)
  · rfl

theorem signed?_repr (n : Int) : signed? n.repr.toList = some n := by
  rw [Int.repr_eq_if]
  split
  · rename_i hn
    rw [Nat.toList_repr, signed?_of_isDigit fun c hc =>
      Nat.isDigit_of_mem_toDigits (by decide) (by decide) hc, natural?_toDigits]
    exact congrArg some (Int.toNat_of_nonneg hn)
  · rename_i hn
    rw [String.toList_append, Nat.toList_repr]
    show (natural? (Nat.toDigits 10 (-n).toNat)).map (fun n => -Int.ofNat n) = some n
    rw [natural?_toDigits, Option.map_some]
    refine congrArg some ?_
    show -((-n).toNat : Int) = n
    omega

/-- An integer is written with digits and perhaps a hyphen. -/
theorem not_mem_repr {c : Char} (hc : c.isDigit = false) (hhyphen : c ≠ '-') (n : Int) :
    c ∉ n.repr.toList := by
  have hdigits : ∀ n : Nat, c ∉ Nat.toDigits 10 n := fun n hmem =>
    absurd (Nat.isDigit_of_mem_toDigits (by decide) (by decide) hmem) (by simp [hc])
  rw [Int.repr_eq_if]
  split
  · rw [Nat.toList_repr]
    exact hdigits n.toNat
  · rw [String.toList_append, Nat.toList_repr]
    simp [hhyphen, hdigits]

theorem readInt64_toString (n : Int64) : readInt64 (toString n.toInt) = some n := by
  rw [readInt64, Int.toString_eq_repr, signed?_repr]
  have hrange : Int64.minValue.toInt ≤ n.toInt ∧ n.toInt ≤ Int64.maxValue.toInt :=
    ⟨n.minValue_le_toInt, n.toInt_le⟩
  show fitInt64? n.toInt = some n
  rw [fitInt64?, if_pos hrange, Int64.ofInt_toInt]

end Text

end Outreach
