import Outreach.Proofs.Aggregation.Shape
import Outreach.Proofs.Pivot.RoundTrip

/-!
# Pivot outcomes are read in their shape

The requests of a pivot, the outcomes that are read for them and the rows made of the outcomes are
three trees with one plan: at each level a node for the values and a companion for the contacts
without one. The rows are made of outcomes of any shape, an unexpected one counting as nothing; a
stricter reading, which gives up at the first unexpected shape, gives the same rows for everything
that was read along the requests. Both hang on the shape of read outcomes, level by level.
-/

namespace Outreach

/-! ### A strict reading -/

namespace Outcome

def buckets? : Outcome → Option (List Bucket)
  | .buckets items => some items
  | _ => none

def group? : Outcome → Option (UInt64 × Outcomes)
  | .single count sub => some (count, sub)
  | _ => none

/-- Reads the outcome under a name; only its absence has a value of its own. -/
def readAt {β : Type} (read : Outcome → Option β) (absent : β) (name : String)
    (outcomes : Outcomes) : Option β :=
  match Named.get? name outcomes with
  | none => some absent
  | some outcome => read outcome

end Outcome

namespace Pivot

open Outcome

def Cell.ofAnswer? (b : Bucket) : Option Cell :=
  readAt (fun contacts => contacts.group?.map fun group => ⟨b.keyText, group.1, group.2⟩)
    (.ofBucket b) Level.contactsName b.sub

def answerBuckets? (outcome : Outcome) : Option (List Bucket) := do
  let nested ← outcome.group?
  readAt (fun form => do
    let ofForm ← form.group?
    readAt buckets? [] Level.answerName ofForm.2) [] Level.formName nested.2

def valueCells? (level : Level) (outcomes : Outcomes) : Option (List Cell) :=
  readAt (fun outcome =>
    match level with
    | .presence _ => do (← answerBuckets? outcome).mapM Cell.ofAnswer?
    | _ => outcome.buckets?.map (List.map Cell.ofBucket)) [] level.name outcomes

def missingCell? (level : Level) (outcomes : Outcomes) : Option Cell :=
  readAt (fun outcome => outcome.group?.map fun group => ⟨notAvailable, group.1, group.2⟩)
    ⟨notAvailable, 0, []⟩ level.missingName outcomes

/-- The rows below a cell, if no outcome of another shape than its place in the pivot requires is
come upon. -/
def rowsBelow? : List Level → UInt64 → Outcomes → Option (List Row)
  | [], count, _ => some [[toString count.toNat]]
  | level :: rest, _, outcomes => do
    let values ← valueCells? level outcomes
    let missing ← missingCell? level outcomes
    let below ← (values ++ [missing]).mapM fun cell => do
      return (← rowsBelow? rest cell.count cell.inner).map (cell.key :: ·)
    return below.flatten

def rows? (levels : List Level) (outcomes : Outcomes) : Option (List Row) :=
  if levels.isEmpty then some [] else rowsBelow? levels 0 outcomes

/-! ### Outcomes in shape -/

/-- The value node of a presence level: a group whose form is a group whose answers are buckets, of
which each holds a group of contacts, or nothing at all. -/
def PresenceInShape (contactsInShape : Outcomes → Prop) (outcome : Outcome) : Prop :=
  ∃ count nested, outcome = .single count nested ∧
    ∀ form ∈ Named.get? Level.formName nested, ∃ count ofForm, form = .single count ofForm ∧
      ∀ answers ∈ Named.get? Level.answerName ofForm, ∃ items, answers = .buckets items ∧
        ∀ b ∈ items,
          (Named.get? Level.contactsName b.sub = none → b.sub = []) ∧
          ∀ contacts ∈ Named.get? Level.contactsName b.sub,
            ∃ count inner, contacts = .single count inner ∧ contactsInShape inner

/-- At every level that the rows are made of, what is there has the shape in which it is read. -/
def InShape : List Level → Outcomes → Prop
  | [], _ => True
  | level :: rest, outcomes =>
    (∀ outcome ∈ Named.get? level.missingName outcomes,
      ∃ count inner, outcome = .single count inner ∧ InShape rest inner) ∧
    ∀ outcome ∈ Named.get? level.name outcomes,
      match level with
      | .presence _ => PresenceInShape (InShape rest) outcome
      | _ => ∃ items, outcome = .buckets items ∧ ∀ b ∈ items, InShape rest b.sub

variable {level : Level} {levels rest : List Level} {outcomes : Outcomes}

theorem inShape_nil (levels : List Level) : InShape levels [] := by
  cases levels with
  | nil => trivial
  | cons level rest => exact ⟨nofun, nofun⟩

/-! ### What is read along the requests -/

section Requests

variable {interval : Interval} {size : UInt64} {raw : Json}

theorem answers_missing (h : Aggregation.AnswersEach (requests (level :: rest) interval size) raw
      outcomes) {outcome : Outcome} (hget : Named.get? level.missingName outcomes = some outcome) :
    ∃ node, (level.missing (requests rest interval size)).Answers node outcome := by
  obtain ⟨a, node, hmem, hanswers⟩ := h.request_of_get? hget
  simp only [requests, List.mem_cons, Prod.mk.injEq, List.not_mem_nil, or_false,
    (name_ne_missingName level).symm, false_and, true_and, false_or] at hmem
  exact ⟨node, hmem ▸ hanswers⟩

theorem answers_values (h : Aggregation.AnswersEach (requests (level :: rest) interval size) raw
      outcomes) {outcome : Outcome} (hget : Named.get? level.name outcomes = some outcome) :
    ∃ node, (level.values interval size (requests rest interval size)).Answers node outcome := by
  obtain ⟨a, node, hmem, hanswers⟩ := h.request_of_get? hget
  simp only [requests, List.mem_cons, Prod.mk.injEq, List.not_mem_nil, or_false,
    name_ne_missingName level, false_and, true_and, or_false] at hmem
  exact ⟨node, hmem ▸ hanswers⟩

theorem presenceInShape_of_answers {form : Int64} {inner : Aggregations} {node : Json}
    {outcome : Outcome} {contactsInShape : Outcomes → Prop}
    (hinner : ∀ raw outcomes, Aggregation.AnswersEach inner raw outcomes → contactsInShape outcomes)
    (h : ((Level.presence form).values interval size inner).Answers node outcome) :
    PresenceInShape contactsInShape outcome := by
  obtain ⟨count, nested, rfl, hnested⟩ := h.group rfl
  refine ⟨count, nested, rfl, fun formOutcome hform => ?_⟩
  obtain ⟨_, hform⟩ := hnested.of_singleton hform
  obtain ⟨count, ofForm, rfl, hofForm⟩ := hform.group rfl
  refine ⟨count, ofForm, rfl, fun answers hanswers => ?_⟩
  obtain ⟨_, hanswers⟩ := hofForm.of_singleton hanswers
  obtain ⟨items, rfl, hitems⟩ := hanswers.buckets rfl
  refine ⟨items, rfl, fun b hb => ?_⟩
  obtain ⟨_, hb⟩ := hitems b hb
  refine ⟨hb.eq_nil_of_get?, fun contacts hcontacts => ?_⟩
  obtain ⟨_, hcontacts⟩ := hb.of_singleton hcontacts
  obtain ⟨count, outcomes, rfl, houtcomes⟩ := hcontacts.group rfl
  exact ⟨count, outcomes, rfl, hinner _ _ houtcomes⟩

/-- What is read along the requests of a pivot is in shape, level by level. -/
theorem inShape_of_answers
    (h : Aggregation.AnswersEach (requests levels interval size) raw outcomes) :
    InShape levels outcomes := by
  induction levels generalizing raw outcomes with
  | nil => trivial
  | cons level rest ih =>
    refine ⟨?_, ?_⟩
    · intro outcome hget
      obtain ⟨node, hanswers⟩ := answers_missing h hget
      have hshape : (level.missing (requests rest interval size)).kind.shape = .single := by
        cases level <;> rfl
      have hsub : (level.missing (requests rest interval size)).sub =
          requests rest interval size := by
        cases level <;> rfl
      obtain ⟨count, inner, rfl, hinner⟩ := hanswers.group hshape
      exact ⟨count, inner, rfl, ih (hsub ▸ hinner)⟩
    · intro outcome hget
      obtain ⟨node, hanswers⟩ := answers_values h hget
      cases level with
      | presence form => exact presenceInShape_of_answers (fun _ _ hinner => ih hinner) hanswers
      | _ =>
        obtain ⟨items, rfl, hitems⟩ := hanswers.buckets rfl
        refine ⟨items, rfl, fun b hb => ?_⟩
        obtain ⟨_, hb⟩ := hitems b hb
        exact ih hb

end Requests

/-! ### What the rows are made of -/

theorem mapM_eq_some {α β : Type} {f : α → Option β} {g : α → β} {xs : List α}
    (h : ∀ x ∈ xs, f x = some (g x)) : xs.mapM f = some (xs.map g) := by
  induction xs with
  | nil => rfl
  | cons x rest ih =>
    rw [List.mapM_cons, h x List.mem_cons_self, ih fun y hy => h y (List.mem_cons_of_mem _ hy)]
    rfl

/-- An answer in shape is read strictly, and so is what is inside it. -/
theorem ofAnswer?_eq {b : Bucket} {contactsInShape : Outcomes → Prop} (hnil : contactsInShape [])
    (habsent : Named.get? Level.contactsName b.sub = none → b.sub = [])
    (hcontacts : ∀ contacts ∈ Named.get? Level.contactsName b.sub,
      ∃ count inner, contacts = .single count inner ∧ contactsInShape inner) :
    Cell.ofAnswer? b = some (Cell.ofAnswer b) ∧ contactsInShape (Cell.ofAnswer b).inner := by
  unfold Cell.ofAnswer? Cell.ofAnswer readAt
  cases hget : Named.get? Level.contactsName b.sub with
  | none =>
    refine ⟨rfl, ?_⟩
    show contactsInShape b.sub
    rw [habsent hget]
    exact hnil
  | some contacts =>
    obtain ⟨count, inner, rfl, hinner⟩ := hcontacts contacts hget
    exact ⟨rfl, hinner⟩

theorem answerBuckets?_eq {outcome : Outcome} {contactsInShape : Outcomes → Prop}
    (h : PresenceInShape contactsInShape outcome) :
    answerBuckets? outcome = some (answerBuckets outcome) ∧
      ∀ b ∈ answerBuckets outcome,
        (Named.get? Level.contactsName b.sub = none → b.sub = []) ∧
        ∀ contacts ∈ Named.get? Level.contactsName b.sub,
          ∃ count inner, contacts = .single count inner ∧ contactsInShape inner := by
  obtain ⟨count, nested, rfl, hnested⟩ := h
  simp only [answerBuckets?, answerBuckets, readAt, group?, inner?, Option.bind_eq_bind,
    Option.bind_some]
  cases hform : Named.get? Level.formName nested with
  | none => exact ⟨rfl, List.forall_mem_nil _⟩
  | some form =>
    obtain ⟨count, ofForm, rfl, hofForm⟩ := hnested form hform
    simp only [Option.bind_some]
    cases hanswers : Named.get? Level.answerName ofForm with
    | none => exact ⟨rfl, List.forall_mem_nil _⟩
    | some answers =>
      obtain ⟨items, rfl, hitems⟩ := hofForm answers hanswers
      exact ⟨rfl, hitems⟩

theorem valueCells?_eq (h : InShape (level :: rest) outcomes) :
    valueCells? level outcomes = some (valueCells level outcomes) ∧
      ∀ cell ∈ valueCells level outcomes, InShape rest cell.inner := by
  unfold valueCells? valueCells readAt
  cases hget : Named.get? level.name outcomes with
  | none => exact ⟨rfl, List.forall_mem_nil _⟩
  | some outcome =>
    have hvalue := h.2 outcome hget
    cases level with
    | presence form =>
      obtain ⟨hbuckets, hinside⟩ := answerBuckets?_eq hvalue
      have hcells : ∀ b ∈ answerBuckets outcome, Cell.ofAnswer? b = some (Cell.ofAnswer b) ∧
          InShape rest (Cell.ofAnswer b).inner :=
        fun b hb => ofAnswer?_eq (inShape_nil rest) (hinside b hb).1 (hinside b hb).2
      refine ⟨?_, ?_⟩
      · show (answerBuckets? outcome).bind _ = _
        rw [hbuckets, Option.bind_some]
        exact mapM_eq_some fun b hb => (hcells b hb).1
      · intro cell hcell
        obtain ⟨b, hb, rfl⟩ := List.mem_map.mp hcell
        exact (hcells b hb).2
    | _ =>
      obtain ⟨items, rfl, hitems⟩ := hvalue
      refine ⟨rfl, ?_⟩
      intro cell hcell
      obtain ⟨b, hb, rfl⟩ := List.mem_map.mp hcell
      exact hitems b hb

theorem missingCell?_eq (h : InShape (level :: rest) outcomes) :
    missingCell? level outcomes = some (missingCell level outcomes) ∧
      InShape rest (missingCell level outcomes).inner := by
  unfold missingCell? missingCell readAt
  cases hget : Named.get? level.missingName outcomes with
  | none => exact ⟨rfl, inShape_nil rest⟩
  | some outcome =>
    obtain ⟨count, inner, rfl, hinner⟩ := h.1 outcome hget
    exact ⟨rfl, hinner⟩

/-- On outcomes in shape the strict reading gives the rows. -/
theorem rowsBelow?_eq (h : InShape levels outcomes) (count : UInt64) :
    rowsBelow? levels count outcomes = some (rowsBelow levels count outcomes) := by
  induction levels generalizing outcomes count with
  | nil => rfl
  | cons level rest ih =>
    obtain ⟨hvalues, hvaluesInside⟩ := valueCells?_eq h
    obtain ⟨hmissing, hmissingInside⟩ := missingCell?_eq h
    have hinside : ∀ cell ∈ valueCells level outcomes ++ [missingCell level outcomes],
        InShape rest cell.inner := by
      intro cell hcell
      rcases List.mem_append.mp hcell with hcell | hcell
      · exact hvaluesInside cell hcell
      · rw [List.mem_singleton.mp hcell]
        exact hmissingInside
    have hbelow : (valueCells level outcomes ++ [missingCell level outcomes]).mapM (fun cell => do
          return (← rowsBelow? rest cell.count cell.inner).map (cell.key :: ·)) =
        some ((valueCells level outcomes ++ [missingCell level outcomes]).map fun cell =>
          (rowsBelow rest cell.count cell.inner).map (cell.key :: ·)) := by
      refine mapM_eq_some fun cell hcell => ?_
      rw [ih (hinside cell hcell) cell.count]
      rfl
    rw [rowsBelow, List.flatMap_def]
    exact Option.bind_eq_some_iff.mpr ⟨_, hvalues, Option.bind_eq_some_iff.mpr ⟨_, hmissing,
      Option.bind_eq_some_iff.mpr ⟨_, hbelow, rfl⟩⟩⟩

theorem rows?_eq (h : InShape levels outcomes) :
    rows? levels outcomes = some (rows levels outcomes) := by
  unfold rows? rows
  split
  · rfl
  · exact rowsBelow?_eq h 0

/-- Whatever the engine answered, what is read of it answers the requests, and what is read along
the requests of a pivot is in shape at every level, so that its rows are those of the strict
reading. -/
theorem read_in_shape :
    (∀ (requests : Aggregations) (raw : Json) (outcomes : Outcomes),
      Aggregations.read requests raw = .ok outcomes →
        Named.names outcomes =
            (Named.names requests).filter (fun name => (raw.get? name).isSome) ∧
          Aggregation.AnswersEach requests raw outcomes) ∧
    ∀ (levels : List Level) (interval : Interval) (size : UInt64) (raw : Json)
      (outcomes : Outcomes), Aggregations.read (requests levels interval size) raw = .ok outcomes →
        InShape levels outcomes ∧ rows? levels outcomes = some (rows levels outcomes) := by
  have hanswers : ∀ requests raw outcomes, Aggregations.read requests raw = .ok outcomes →
      Aggregation.AnswersEach requests raw outcomes := Aggregation.answersEach_of_readMembers
  refine ⟨?_, ?_⟩
  · intro requests raw outcomes hread
    have h := hanswers requests raw outcomes hread
    exact ⟨h.names_eq, h⟩
  · intro levels interval size raw outcomes hread
    have h := inShape_of_answers (hanswers _ raw outcomes hread)
    exact ⟨h, rows?_eq h⟩

/-- Answers under names of their own, one of them without its contacts, no companion where one was
asked for, and one that says nothing of its count. -/
theorem read_in_shape_presence :
    let bucket (key : String) (members : List (String × Json)) : Json :=
      .object (("key", .text key) :: members)
    let women : Json := .object [("buckets", .list [bucket "F" [("doc_count", .integer 3)]])]
    let answers : Json := .object [
      ("1", bucket "yes" [("doc_count", .integer 7), ("contacts", .object [("doc_count", .integer 4),
        ("gender", women)])]),
      ("2", bucket "no" [("doc_count", .integer 2), ("gender", women)])]
    let raw : Json := .object [("presence_missing", .only "gender_missing" .null),
      ("unasked", .null),
      ("presence", .only "form" (.only "answer" (.only "buckets" answers)))]
    ∃ outcomes, Aggregations.read (requests [.presence 12, .gender] .week 10) raw = .ok outcomes ∧
      Named.names outcomes = ["presence", "presence_missing"] ∧
      rows? [.presence 12, .gender] outcomes = some [["yes", "F", "3"], ["yes", "N/A", "0"],
        ["no", "N/A", "0"], ["N/A", "N/A", "0"]] := by
  intro bucket women answers raw
  refine ⟨_, rfl, ?_, ?_⟩
  · rw [(read_in_shape.1 (requests [.presence 12, .gender] .week 10) raw _ rfl).1]
    rfl
  · rw [(read_in_shape.2 [.presence 12, .gender] .week 10 raw _ rfl).2]
    decide +kernel

end Pivot

end Outreach
