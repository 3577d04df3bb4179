import Outreach.Proofs.Pivot.Shape
import Outreach.Proofs.Pivot.Totals

/-!
# Sums that are words

Rows and trees are also made of sums: a companion that is no group counts what its buckets do, and a
folded node what the entries below it do. Here the same rows and the same tree are made with sums
that are given up as soon as they are no words. Nothing is given up as long as the buckets of each
node sum to a word, and the rows that are folded do.
-/

namespace Outreach

/-- The sum of counts, if it is a word. -/
def exactSum? (counts : List UInt64) : Option UInt64 :=
  Text.fitUInt64? (counts.map UInt64.toNat).sum

theorem exactSum?_eq_some_iff {counts : List UInt64} {word : UInt64} :
    exactSum? counts = some word ↔ word.toNat = (counts.map UInt64.toNat).sum := by
  unfold exactSum? Text.fitUInt64?
  split
  · rename_i hfits
    rw [Option.some.injEq, ← UInt64.toNat_inj, UInt64.toNat_ofNat_of_lt' hfits, eq_comm]
  · rename_i hexceeds
    refine iff_of_false (by simp) fun hword => hexceeds ?_
    rw [← hword]
    exact word.toNat_lt

theorem exactSum?_eq {counts : List UInt64} (hsum : (counts.map UInt64.toNat).sum < 2 ^ 64) :
    exactSum? counts = some (sumOf counts) := exactSum?_eq_some_iff.mpr (Pivot.toNat_sumOf hsum)

/-! ### Trees whose buckets sum to words -/

mutual

/-- The buckets of the outcome sum to a word, and so do those of every outcome inside. -/
def Outcome.Fits : Outcome → Prop
  | .buckets items => Bucket.sum items < 2 ^ 64 ∧ Bucket.AllFit items
  | .single _ sub => Outcomes.Fit sub
  | .hits _ _ => True
  | .metric _ => True

def Bucket.AllFit : List Bucket → Prop
  | [] => True
  | ⟨_, _, _, sub⟩ :: rest => Outcomes.Fit sub ∧ Bucket.AllFit rest

def Outcomes.Fit : List (String × Outcome) → Prop
  | [] => True
  | (_, outcome) :: rest => outcome.Fits ∧ Outcomes.Fit rest

end

theorem Bucket.AllFit.of_mem {items : List Bucket} (hfit : Bucket.AllFit items) {b : Bucket}
    (hb : b ∈ items) : Outcomes.Fit b.sub := by
  induction items with
  | nil => cases hb
  | cons first others ih =>
    obtain ⟨key, label, count, sub⟩ := first
    obtain ⟨hfirst, hothers⟩ := hfit
    rcases List.mem_cons.mp hb with rfl | hlater
    · exact hfirst
    · exact ih hothers hlater

theorem Bucket.allFit_of_forall {items : List Bucket} (h : ∀ b ∈ items, Outcomes.Fit b.sub) :
    Bucket.AllFit items := by
  induction items with
  | nil => trivial
  | cons first others ih =>
    obtain ⟨key, label, count, sub⟩ := first
    exact ⟨h _ List.mem_cons_self, ih fun b hb => h b (List.mem_cons_of_mem _ hb)⟩

theorem Outcomes.Fit.of_get? {outcomes : Outcomes} (hfit : Outcomes.Fit outcomes) {name : String}
    {outcome : Outcome} (hget : Named.get? name outcomes = some outcome) : outcome.Fits := by
  induction outcomes with
  | nil => cases hget
  | cons entry others ih =>
    obtain ⟨known, first⟩ := entry
    obtain ⟨hfirst, hothers⟩ := hfit
    rw [Named.get?] at hget
    split at hget
    · exact Option.some.inj hget ▸ hfirst
    · exact ih hothers hget

theorem Outcome.Fits.allFit_bucketList {outcome : Outcome} (hfit : outcome.Fits) :
    Bucket.AllFit outcome.bucketList := by
  cases outcome with
  | buckets items => exact hfit.2
  | _ => trivial

theorem Outcome.Fits.of_inner? {outcome : Outcome} (hfit : outcome.Fits) {inner : Outcomes}
    (hinner : outcome.inner? = some inner) : Outcomes.Fit inner := by
  cases outcome with
  | single count sub => exact Option.some.inj hinner ▸ hfit
  | _ => cases hinner

namespace Pivot

variable {level : Level} {levels rest : List Level} {outcomes : Outcomes} {entries : List Entry}
  {cell : Cell}

theorem allFit_answerBuckets {outcome : Outcome} (hfit : outcome.Fits) :
    Bucket.AllFit (answerBuckets outcome) := by
  unfold answerBuckets
  simp only [Option.bind_eq_bind]
  cases hnested : outcome.inner? with
  | none => trivial
  | some nested =>
    rw [Option.bind_some]
    cases hform : Named.get? Level.formName nested with
    | none => trivial
    | some form =>
      rw [Option.bind_some]
      cases hinner : form.inner? with
      | none => trivial
      | some ofForm =>
        rw [Option.bind_some]
        cases hanswers : Named.get? Level.answerName ofForm with
        | none => trivial
        | some answers =>
          have hform := (hfit.of_inner? hnested).of_get? hform
          exact ((hform.of_inner? hinner).of_get? hanswers).allFit_bucketList

theorem fit_ofAnswer {b : Bucket} (hfit : Outcomes.Fit b.sub) :
    Outcomes.Fit (Cell.ofAnswer b).inner := by
  unfold Cell.ofAnswer
  split
  · rename_i hget
    exact hfit.of_get? hget
  · exact hfit

theorem fit_of_mem_valueCells (hfit : Outcomes.Fit outcomes)
    (hcell : cell ∈ valueCells level outcomes) : Outcomes.Fit cell.inner := by
  unfold valueCells at hcell
  cases hget : Named.get? level.name outcomes with
  | none =>
    rw [hget] at hcell
    cases hcell
  | some outcome =>
    rw [hget] at hcell
    have houtcome := hfit.of_get? hget
    cases level with
    | presence form =>
      obtain ⟨b, hb, rfl⟩ := List.mem_map.mp hcell
      exact fit_ofAnswer ((allFit_answerBuckets houtcome).of_mem hb)
    | _ =>
      obtain ⟨b, hb, rfl⟩ := List.mem_map.mp hcell
      exact houtcome.allFit_bucketList.of_mem hb

theorem fit_missingCell (hfit : Outcomes.Fit outcomes) (level : Level) :
    Outcomes.Fit (missingCell level outcomes).inner := by
  unfold missingCell
  split
  · rename_i hget
    exact hfit.of_get? hget
  · trivial
  · trivial

/-! ### Rows -/

def missingCellExact (level : Level) (outcomes : Outcomes) : Option Cell :=
  match Named.get? level.missingName outcomes with
  | some (.buckets items) =>
    (exactSum? (items.map Bucket.count)).map fun count => ⟨notAvailable, count, []⟩
  | _ => some (missingCell level outcomes)

/-- The rows below a cell, if every sum that is come upon is a word. -/
def rowsBelowExact : List Level → UInt64 → Outcomes → Option (List Row)
  | [], count, _ => some [[toString count.toNat]]
  | level :: rest, _, outcomes => do
    let missing ← missingCellExact level outcomes
    let below ← (valueCells level outcomes ++ [missing]).mapM fun cell => do
      return (← rowsBelowExact rest cell.count cell.inner).map (cell.key :: ·)
    return below.flatten

def rowsExact (levels : List Level) (outcomes : Outcomes) : Option (List Row) :=
  if levels.isEmpty then some [] else rowsBelowExact levels 0 outcomes

theorem missingCellExact_eq (hfit : Outcomes.Fit outcomes) (level : Level) :
    missingCellExact level outcomes = some (missingCell level outcomes) := by
  unfold missingCellExact
  split
  · rename_i items hget
    rw [exactSum?_eq (hfit.of_get? hget).1, missingCell, hget]
    rfl
  · rfl

theorem rowsBelowExact_eq (hfit : Outcomes.Fit outcomes) (count : UInt64) :
    rowsBelowExact levels count outcomes = some (rowsBelow levels count outcomes) := by
  induction levels generalizing outcomes count with
  | nil => rfl
  | cons level rest ih =>
    have hinside : ∀ cell ∈ valueCells level outcomes ++ [missingCell level outcomes],
        Outcomes.Fit cell.inner := by
      intro cell hcell
      rcases List.mem_append.mp hcell with hvalue | hmissing
      · exact fit_of_mem_valueCells hfit hvalue
      · rw [List.mem_singleton.mp hmissing]
        exact fit_missingCell hfit level
    have hbelow : (valueCells level outcomes ++ [missingCell level outcomes]).mapM (fun cell => do
          return (← rowsBelowExact rest cell.count cell.inner).map (cell.key :: ·)) =
        some ((valueCells level outcomes ++ [missingCell level outcomes]).map fun cell =>
          (rowsBelow rest cell.count cell.inner).map (cell.key :: ·)) := by
      refine mapM_eq_some fun cell hcell => ?_
      rw [ih (hinside cell hcell) cell.count]
      rfl
    rw [rowsBelow, List.flatMap_def]
    exact Option.bind_eq_some_iff.mpr ⟨_, missingCellExact_eq hfit level,
      Option.bind_eq_some_iff.mpr ⟨_, hbelow, rfl⟩⟩

/-- No sum on the way to the rows is given up. -/
theorem rowsExact_eq (hfit : Outcomes.Fit outcomes) (levels : List Level) :
    rowsExact levels outcomes = some (rows levels outcomes) := by
  unfold rowsExact rows
  split
  · rfl
  · exact rowsBelowExact_eq hfit 0

/-! ### Trees -/

def valueOutcomeExact (level : Level) (buckets : List Bucket) : Option Outcome :=
  match level with
  | .presence _ => (exactSum? (buckets.map Bucket.count)).map fun count =>
    .single count [(Level.formName, .single count [(Level.answerName, .buckets buckets)])]
  | _ => some (.buckets buckets)

/-- The fold, if every sum in it is a word. -/
def foldExact : List Level → List Entry → Option Outcomes
  | [], _ => some []
  | level :: rest, entries => do
    let buckets ← (leadingKeys entries).mapM fun key => do
      let count ← exactSum? ((under key entries).map Entry.count)
      return bucket level key count (← foldExact rest (under key entries))
    let values ← valueOutcomeExact level buckets
    let missing ← exactSum? ((under notAvailable entries).map Entry.count)
    return [(level.name, values),
      (level.missingName, .single missing (← foldExact rest (under notAvailable entries)))]

theorem valueOutcomeExact_eq {buckets : List Bucket} (hsum : Bucket.sum buckets < 2 ^ 64)
    (level : Level) : valueOutcomeExact level buckets = some (valueOutcome level buckets) := by
  cases level with
  | presence form =>
    rw [valueOutcomeExact, exactSum?_eq hsum]
    rfl
  | _ => rfl

/-- No sum in the fold is given up, as each is of some of the entries. -/
theorem foldExact_eq (hwidth : HaveWidth levels.length entries)
    (hsum : Entry.sum entries < 2 ^ 64) :
    foldExact levels entries = some (fold levels entries) := by
  induction levels generalizing entries with
  | nil => rfl
  | cons level rest ih =>
    have hcount (key : String) : exactSum? ((under key entries).map Entry.count) =
        some (Entry.total (under key entries)) := exactSum?_eq (sum_under_lt hsum key)
    have hinner (key : String) : foldExact rest (under key entries) =
        some (fold rest (under key entries)) := ih (hwidth.under key) (sum_under_lt hsum key)
    have hbuckets : (leadingKeys entries).mapM (fun key => do
        let count ← exactSum? ((under key entries).map Entry.count)
        return bucket level key count (← foldExact rest (under key entries))) =
        some (foldedBuckets level rest entries) := by
      refine mapM_eq_some fun key _ => ?_
      rw [hcount, hinner]
      rfl
    have hfits := sum_foldedBuckets_lt level rest hwidth hsum
    rw [foldExact, hbuckets]
    simp only [Option.bind_eq_bind, Option.bind_some]
    rw [valueOutcomeExact_eq hfits level, hcount, hinner]
    rfl

theorem fits_valueOutcome {buckets : List Bucket} (hsum : Bucket.sum buckets < 2 ^ 64)
    (hfit : Bucket.AllFit buckets) (level : Level) : (valueOutcome level buckets).Fits := by
  cases level with
  | presence form => exact ⟨⟨⟨hsum, hfit⟩, trivial⟩, trivial⟩
  | _ => exact ⟨hsum, hfit⟩

theorem fit_bucket {inner : Outcomes} (hfit : Outcomes.Fit inner) (level : Level) (key : String)
    (count : UInt64) : Outcomes.Fit (bucket level key count inner).sub := by
  cases level with
  | presence form => exact ⟨hfit, trivial⟩
  | _ => exact hfit

theorem fit_fold (hwidth : HaveWidth levels.length entries) (hsum : Entry.sum entries < 2 ^ 64) :
    Outcomes.Fit (fold levels entries) := by
  induction levels generalizing entries with
  | nil => trivial
  | cons level rest ih =>
    have hinner (key : String) : Outcomes.Fit (fold rest (under key entries)) :=
      ih (hwidth.under key) (sum_under_lt hsum key)
    have hfits := sum_foldedBuckets_lt level rest hwidth hsum
    refine ⟨fits_valueOutcome hfits (Bucket.allFit_of_forall ?_) level, hinner notAvailable,
      trivial⟩
    intro b hb
    obtain ⟨key, _, rfl⟩ := List.mem_map.mp hb
    exact fit_bucket (hinner key) level key _

/-- Every sum in the fold of rows to a tree is a word, and so is every sum on the way from the tree
to its rows. -/
structure SumsExactly (levels : List Level) (input : List Row) (tree : Outcomes) : Prop where
  fold_exact : ∃ entries, input.mapM Entry.ofRow = .ok entries ∧
    foldExact levels entries = some tree
  rows_exact : rowsExact levels tree = some (rows levels tree)

theorem sumsExactly_of_foldRows {input : List Row} {tree : Outcomes}
    (htree : foldRows levels input = .ok tree) (hsum : (input.map rowCount).sum < 2 ^ 64) :
    SumsExactly levels input tree := by
  have haccepted := (foldRows_eq_ok.mp htree).1
  have hentries := mapM_ofRow_eq_ok.mpr ⟨fun row hrow => (haccepted row hrow).2, rfl⟩
  obtain ⟨hwidth, rfl⟩ := entries_of_foldRows htree
  rw [← sum_map_entryOf] at hsum
  exact ⟨⟨_, hentries, foldExact_eq hwidth hsum⟩, rowsExact_eq (fit_fold hwidth hsum) levels⟩

end Pivot

end Outreach
