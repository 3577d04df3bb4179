import Mathlib.Data.List.Induction
import Mathlib.Data.List.TakeWhile
import Outreach.Proofs.Text.Digits

/-!
# Spelled integers

The decimal spellings of an integer are its digits behind any number of zeros and, perhaps, a sign.
They are exactly what is read as a numeral (`signed?_eq_some_iff`), and between blanks exactly what
is read of a text once it is trimmed (`signed?_trimBlanks_eq_some_iff`). An integer that does not
fit a signed word is spelled like any other and not read.
-/

namespace Outreach

namespace Text

/-! ### Digits behind zeros -/

theorem digitChar_of_isDigit {c : Char} (hc : c.isDigit = true) :
    (c.toNat - 48).digitChar = c := by
  obtain ⟨hleast, hmost⟩ := isDigit_bounds hc
  rw [← Char.toNat_inj, Nat.toNat_digitChar_of_lt_ten (by omega)]
  omega

/-- A run of digits is the digits of its value behind zeros. The induction is on the last digit,
which is where the digits of a number grow. -/
theorem exists_zeros {cs : List Char} (hne : cs ≠ []) (hdigits : ∀ c ∈ cs, c.isDigit = true) :
    ∃ zeros, cs = List.replicate zeros '0' ++ Nat.toDigits 10 (Nat.ofDigitChars 10 cs 0) := by
  induction cs using List.reverseRecOn with
  | nil => exact absurd rfl hne
  | append_singleton front c ih =>
    have hc : c.isDigit = true := hdigits c (by simp)
    have hfront : ∀ d ∈ front, d.isDigit = true := fun d hd => hdigits d (by simp [hd])
    have hlt : c.toNat - 48 < 10 := by
      have hmost := (isDigit_bounds hc).2
      omega
    have hlast : Nat.toDigits 10 (c.toNat - 48) = [c] := by
      rw [Nat.toDigits_of_lt_base hlt, digitChar_of_isDigit hc]
    have hvalue : Nat.ofDigitChars 10 (front ++ [c]) 0 =
        10 * Nat.ofDigitChars 10 front 0 + (c.toNat - 48) := by
      rw [Nat.ofDigitChars_append, Nat.ofDigitChars_cons, Nat.ofDigitChars_nil]
      rfl
    rw [hvalue]
    by_cases hempty : front = []
    · subst hempty
      exact ⟨0, by rw [Nat.ofDigitChars_nil, Nat.mul_zero, Nat.zero_add, hlast]; rfl⟩
    · obtain ⟨zeros, heq⟩ := ih hempty hfront
      by_cases hzero : Nat.ofDigitChars 10 front 0 = 0
      · refine ⟨zeros + 1, ?_⟩
        rw [hzero] at heq ⊢
        rw [Nat.mul_zero, Nat.zero_add, hlast, List.replicate_succ']
        exact congrArg (· ++ [c]) heq
      · refine ⟨zeros, ?_⟩
        rw [← Nat.toDigits_append_toDigits (by decide) (Nat.pos_of_ne_zero hzero) hlt, hlast,
          ← List.append_assoc, ← heq]

theorem natural?_eq_some_iff {cs : List Char} {n : Nat} :
    natural? cs = some n ↔ ∃ width, cs = padded width n := by
  refine ⟨?_, ?_⟩
  · intro hread
    unfold natural? at hread
    split at hread
    · cases hread
    · rename_i hrun
      simp only [Bool.or_eq_true, List.isEmpty_iff, Bool.not_eq_true', not_or,
        Bool.not_eq_false, List.all_eq_true] at hrun
      obtain ⟨zeros, heq⟩ := exists_zeros hrun.1 hrun.2
      rw [Option.some.inj hread] at heq
      refine ⟨zeros + (Nat.toDigits 10 n).length, ?_⟩
      rw [padded, Nat.add_sub_cancel]
      exact heq
  · rintro ⟨width, rfl⟩
    have hall : (padded width n).all Char.isDigit = true :=
      List.all_eq_true.mpr fun c hc => isDigit_of_mem_padded hc
    simp [natural?, hall, padded_ne_nil, ofDigitChars_padded]

/-! ### Signs -/

/-- A decimal spelling of an integer: its digits behind zeros and perhaps a sign. Zero has either
sign. -/
inductive Spells : Int → List Char → Prop
  | digits (width n : Nat) : Spells n (padded width n)
  | plus (width n : Nat) : Spells n ('+' :: padded width n)
  | minus (width n : Nat) : Spells (-n) ('-' :: padded width n)

theorem signed?_eq_some_iff {cs : List Char} {m : Int} : signed? cs = some m ↔ Spells m cs := by
  refine ⟨?_, ?_⟩
  · intro hread
    unfold signed? at hread
    split at hread
    all_goals
      obtain ⟨n, hn, rfl⟩ := Option.map_eq_some_iff.mp hread
      obtain ⟨width, rfl⟩ := natural?_eq_some_iff.mp hn
    · exact .plus width n
    · exact .minus width n
    · exact .digits width n
  · intro hspells
    have hnatural : ∀ width n, natural? (padded width n) = some n := fun width n =>
      natural?_eq_some_iff.mpr ⟨width, rfl⟩
    cases hspells with
    | digits width n =>
      rw [signed?_of_isDigit fun c hc => isDigit_of_mem_padded hc, hnatural]
      rfl
    | plus width n =>
      show (natural? (padded width n)).map Int.ofNat = some (n : Int)
      rw [hnatural]
      rfl
    | minus width n =>
      show (natural? (padded width n)).map (fun n => -Int.ofNat n) = some (-(n : Int))
      rw [hnatural]
      rfl

theorem isBlank_of_spells {m : Int} {cs : List Char} (hspells : Spells m cs) :
    ∀ c ∈ cs, isBlank c = false := by
  have hdigits : ∀ width n, ∀ c ∈ padded width n, isBlank c = false := fun _ _ c hc =>
    isBlank_of_isDigit (isDigit_of_mem_padded hc)
  cases hspells with
  | digits width n => exact hdigits width n
  | plus width n => exact List.forall_mem_cons.mpr ⟨by decide, hdigits width n⟩
  | minus width n => exact List.forall_mem_cons.mpr ⟨by decide, hdigits width n⟩

/-! ### Words -/

theorem fitInt64?_eq_some_iff {m : Int} {n : Int64} : fitInt64? m = some n ↔ m = n.toInt := by
  refine ⟨?_, ?_⟩
  · intro hfits
    unfold fitInt64? at hfits
    split at hfits
    · rename_i hrange
      have hleast : -2 ^ 63 ≤ m := hrange.1
      have hmost : m ≤ 2 ^ 63 - 1 := hrange.2
      rw [← Option.some.inj hfits, Int64.toInt_ofInt_of_le hleast (by omega)]
    · cases hfits
  · rintro rfl
    rw [fitInt64?, if_pos ⟨n.minValue_le_toInt, n.toInt_le⟩, Int64.ofInt_toInt]

theorem fitInt64?_eq_none {m : Int}
    (hrange : m < Int64.minValue.toInt ∨ Int64.maxValue.toInt < m) : fitInt64? m = none := by
  refine if_neg fun hfits => ?_
  rcases hrange with hbelow | habove
  · exact absurd hfits.1 (Int.not_le.mpr hbelow)
  · exact absurd hfits.2 (Int.not_le.mpr habove)

/-! ### Blanks around -/

theorem dropBlanks_append {before cs rest : List Char} (hbefore : ∀ c ∈ before, isBlank c = true)
    (hne : cs ≠ []) (hcs : ∀ c ∈ cs, isBlank c = false) :
    dropBlanks (before ++ cs ++ rest) = cs ++ rest := by
  obtain ⟨c, others, rfl⟩ := List.exists_cons_of_ne_nil hne
  rw [dropBlanks, List.append_assoc, List.dropWhile_append_of_pos hbefore]
  exact List.dropWhile_cons_of_neg (by simp [hcs c List.mem_cons_self])

theorem trimBlanks_append {before cs after : List Char} (hbefore : ∀ c ∈ before, isBlank c = true)
    (hne : cs ≠ []) (hcs : ∀ c ∈ cs, isBlank c = false) (hafter : ∀ c ∈ after, isBlank c = true) :
    trimBlanks (before ++ cs ++ after) = cs := by
  have hback : dropBlanks (after.reverse ++ cs.reverse ++ []) = cs.reverse ++ [] :=
    dropBlanks_append (by simpa using hafter) (by simpa using hne) (by simpa using hcs)
  rw [trimBlanks, dropBlanks_append hbefore hne hcs, List.reverse_append,
    ← List.append_nil (after.reverse ++ cs.reverse), hback, List.append_nil, List.reverse_reverse]

/-- Trimming takes nothing but blanks from either end. -/
theorem exists_blanks_around (cs : List Char) :
    ∃ before after, cs = before ++ trimBlanks cs ++ after ∧
      (∀ c ∈ before, isBlank c = true) ∧ ∀ c ∈ after, isBlank c = true := by
  have hfront : cs = cs.takeWhile isBlank ++ dropBlanks cs := List.takeWhile_append_dropWhile.symm
  have hback : dropBlanks cs =
      trimBlanks cs ++ ((dropBlanks cs).reverse.takeWhile isBlank).reverse := by
    have hsplit : (dropBlanks cs).reverse.takeWhile isBlank ++ dropBlanks (dropBlanks cs).reverse =
        (dropBlanks cs).reverse := List.takeWhile_append_dropWhile
    rw [trimBlanks, ← List.reverse_append, hsplit, List.reverse_reverse]
  refine ⟨cs.takeWhile isBlank, ((dropBlanks cs).reverse.takeWhile isBlank).reverse, ?_, ?_, ?_⟩
  · rw [List.append_assoc, ← hback]
    exact hfront
  · exact fun c hc => List.mem_takeWhile_imp hc
  · exact fun c hc => List.mem_takeWhile_imp (List.mem_reverse.mp hc)

/-- Trimmed texts are read as the integers that they spell between blanks. -/
theorem signed?_trimBlanks_eq_some_iff {cs : List Char} {m : Int} :
    signed? (trimBlanks cs) = some m ↔
      ∃ before spelling after, cs = before ++ spelling ++ after ∧
        (∀ c ∈ before, isBlank c = true) ∧ Spells m spelling ∧ ∀ c ∈ after, isBlank c = true := by
  refine ⟨?_, ?_⟩
  · intro hread
    obtain ⟨before, after, hsplit, hbefore, hafter⟩ := exists_blanks_around cs
    exact ⟨before, _, after, hsplit, hbefore, signed?_eq_some_iff.mp hread, hafter⟩
  · rintro ⟨before, spelling, after, rfl, hbefore, hspells, hafter⟩
    have hread := signed?_eq_some_iff.mpr hspells
    have hne : spelling ≠ [] := by
      rintro rfl
      cases hread
    rw [trimBlanks_append hbefore hne (isBlank_of_spells hspells) hafter, hread]

end Text

end Outreach
