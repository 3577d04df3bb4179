import Outreach.Proofs.Contact.StoredChange
import Outreach.Proofs.Operations.Stages

/-!
# The calls of an operation

What an operation asks of the engine and when. A request that does not pass the checks is refused
before the first call. All others lead to one call, but for a pivot by dates, which has to look up
the span of its dates before it can ask for the pivot: the interval of the pivot is that of the last
changes which the two answers hold. A call that fails is the last one, and its fault is that of the
operation.
-/

namespace Outreach

/-! ### Levels of dates -/

namespace Pivot

theorem Level.read_eq_date {form : Int64} {name : String} :
    Level.read form name = .ok .date ↔ name = "date" := by
  refine ⟨?_, ?_⟩
  · intro hread
    unfold Level.read at hread
    split at hread
    · rename_i level hfind
      cases hread
      have hname := List.find?_some hfind
      exact (of_decide_eq_true hname).symm
    · split at hread
      · split at hread <;> cases hread
      · cases hread
  · rintro rfl
    rfl

end Pivot

namespace Operations

variable {s : Settings} {r : SearchRequest}

theorem readLevels_eq_ok {form : Int64} {names : List String} {levels : List Pivot.Level} :
    readLevels form names = .ok levels ↔
      names.mapM (Pivot.Level.read form) = .ok levels ∧ levels ≠ [] := by
  rw [readLevels, Steps.bind_eq_ok]
  refine ⟨?_, ?_⟩
  · intro hread
    obtain ⟨read, hnames, hread⟩ := hread
    by_cases hempty : read.isEmpty = true
    · rw [if_pos hempty] at hread
      cases hread
    · rw [if_neg hempty] at hread
      cases hread
      exact ⟨hnames, by simpa using hempty⟩
  · intro hread
    obtain ⟨hnames, hne⟩ := hread
    exact ⟨levels, hnames, if_neg (by simpa using hne)⟩

theorem date_mem_of_readLevels {form : Int64} {names : List String} {levels : List Pivot.Level}
    (hread : readLevels form names = .ok levels) : .date ∈ levels ↔ "date" ∈ names := by
  rw [Steps.mem_of_mapM_eq_ok (readLevels_eq_ok.mp hread).1]
  simp only [Pivot.Level.read_eq_date, exists_eq_right]

/-! ### Carrying out a plan -/

namespace Plan

variable {plan : Plan} {β σ : Type} {finish : Reply → Except Fault β}
  {engine : Exchange.Engine σ} {state : σ}

theorem stopsAtFault_ask (s : Settings) (plan : Plan) : (plan.ask s).StopsAtFault := by
  refine Exchange.stopsAtFault_bind ?_ fun interval => Exchange.stopsAtFault_search _
  unfold Plan.interval
  cases plan.span with
  | none => exact Exchange.stopsAtFault_lift _
  | some query =>
    apply Exchange.stopsAtFault_bind (Exchange.stopsAtFault_search _)
    intro oldest
    apply Exchange.stopsAtFault_bind (Exchange.stopsAtFault_search _)
    intro newest
    exact Exchange.stopsAtFault_lift _

theorem stopsAtFault_carryOut (s : Settings) (plan : Plan) (finish : Reply → Except Fault β) :
    (plan.carryOut s finish).StopsAtFault :=
  Exchange.stopsAtFault_bind (stopsAtFault_ask s plan) fun _ => Exchange.stopsAtFault_lift _

theorem carryOut_of_span_eq_none (hspan : plan.span = none) :
    plan.carryOut s finish =
      Exchange.search (plan.main .week) >>= fun reply => Exchange.lift (finish reply) := by
  rw [carryOut, ask, interval, hspan]
  rfl

theorem carryOut_of_span_eq_some {query : Query} (hspan : plan.span = some query) :
    plan.carryOut s finish =
      Exchange.search (edgeBody s query true) >>= fun oldest =>
        Exchange.search (edgeBody s query false) >>= fun newest =>
          Exchange.search
            (plan.main (Interval.spanning (lastChange? oldest) (lastChange? newest))) >>=
              fun reply => Exchange.lift (finish reply) := by
  rw [carryOut, ask, interval, hspan]
  simp only [Exchange.bind_assoc]
  rfl

/-- Without a span to look up the main search is the only one, whether it fails or not. -/
theorem calls_of_span_eq_none (hspan : plan.span = none) :
    ((plan.carryOut s finish).run engine state).calls = [plan.main .week] := by
  rw [carryOut_of_span_eq_none hspan]
  rcases Exchange.run_search_bind engine state (plan.main .week)
    fun reply => Exchange.lift (finish reply) with ⟨_, _, hcalls, _⟩ | ⟨_, _, _, hcalls, _⟩
  · exact hcalls
  · exact hcalls

/-- With a span to look up there are up to three searches: the next one is made when the one before
has been answered, and the last one takes its interval from the two answers. -/
theorem calls_of_span_eq_some {query : Query} (hspan : plan.span = some query) :
    let calls := ((plan.carryOut s finish).run engine state).calls
    let answers := Exchange.answers engine calls state
    (∃ fault, answers = [.error fault] ∧ calls = [edgeBody s query true]) ∨
      (∃ first fault, answers = [.ok first, .error fault] ∧
        calls = [edgeBody s query true, edgeBody s query false]) ∨
      ∃ first second last, answers = [.ok first, .ok second, last] ∧
        calls = [edgeBody s query true, edgeBody s query false,
          plan.main (Interval.spanning (lastChange? first) (lastChange? second))] := by
  rw [carryOut_of_span_eq_some hspan]
  rcases Exchange.run_search_bind engine state (edgeBody s query true) _ with
    ⟨fault, hanswers, hcalls, -⟩ | ⟨first, state₁, hanswers, hcalls, -⟩
  · exact .inl ⟨fault, hanswers, hcalls⟩
  rcases Exchange.run_search_bind engine state₁ (edgeBody s query false) _ with
    ⟨fault, hanswers₁, hcalls₁, -⟩ | ⟨second, state₂, hanswers₁, hcalls₁, -⟩
  · rw [hanswers₁] at hanswers
    rw [hcalls₁] at hcalls
    exact .inr (.inl ⟨first, fault, hanswers, hcalls⟩)
  rw [hanswers₁] at hanswers
  rw [hcalls₁] at hcalls
  rcases Exchange.run_search_bind engine state₂
    (plan.main (Interval.spanning (lastChange? first) (lastChange? second))) _ with
    ⟨fault, hanswers₂, hcalls₂, -⟩ | ⟨last, state₃, hanswers₂, hcalls₂, -⟩
  · rw [hanswers₂] at hanswers
    rw [hcalls₂] at hcalls
    exact .inr (.inr ⟨first, second, .error fault, hanswers, hcalls⟩)
  · rw [hanswers₂] at hanswers
    rw [hcalls₂] at hcalls
    exact .inr (.inr ⟨first, second, .ok last, hanswers, hcalls⟩)

end Plan

end Operations

/-! ### Every operation -/

namespace Operation

open Operations

variable {σ : Type} {s : Settings} {r : SearchRequest} {o : Operation} {plan : Plan}

/-- A pivot with a level of dates. -/
def ByDates : Operation → Prop
  | .pivot names => "date" ∈ names
  | _ => False

theorem span_of_not_byDates (hdates : ¬ o.ByDates) (hplan : o.plan s r = .ok plan) :
    plan.span = none := by
  cases o with
  | identifiersWithin =>
    simp only [Operation.plan] at hplan
    split at hplan <;> cases hplan
    rfl
  | nearby =>
    obtain ⟨place, _, hplan⟩ := Steps.bind_eq_ok.mp hplan
    obtain ⟨lookup, _, rfl⟩ := Steps.map_eq_ok.mp hplan
    rfl
  | pivot names =>
    obtain ⟨levels, hlevels, hplan⟩ := Steps.bind_eq_ok.mp hplan
    obtain ⟨selection, _, rfl⟩ := Steps.map_eq_ok.mp hplan
    exact if_neg (mt (date_mem_of_readLevels hlevels).mp hdates)
  | _ =>
    obtain ⟨read, _, rfl⟩ := Steps.map_eq_ok.mp hplan
    rfl

theorem stopsAtFault (o : Operation) : (o.exchange s r).StopsAtFault := by
  rw [exchange_eq]
  exact Exchange.stopsAtFault_bind (Exchange.stopsAtFault_lift _) fun plan =>
    plan.stopsAtFault_carryOut s (o.conclude s r)

/-- What is asked, when, and what comes of a failure, for every operation and whatever the engine
answers. A request that fails a check is answered with the fault of the check, and nothing is asked.
Any other leads to one search, but a pivot by dates first looks up the oldest and then the newest
last change of its query. The interval of its dates is the one for the span between the last changes
of the first documents of the two answers, either of which may be missing. A search that fails is
the last one, and the operation fails with its fault. -/
theorem calls_of_exchange (s : Settings) (r : SearchRequest) (o : Operation)
    (engine : Exchange.Engine σ) (state : σ) :
    let transcript := (o.exchange s r).run engine state
    let answers := Exchange.answers engine transcript.calls state
    (∀ fault, o.check s r = .error fault → transcript = ⟨[], .error fault, state⟩) ∧
      (o.check s r = .ok () → ¬ o.ByDates → transcript.calls.length = 1) ∧
      (∀ names, o = .pivot names → "date" ∈ names → o.check s r = .ok () →
        ∃ levels query, readLevels s.presenceForm names = .ok levels ∧
          let lookup (ascending : Bool) : SearchBody :=
            { index := s.contactsIndex, query := query, size := 1,
              sort := [.field "lastchange" ascending], source := ["lastchange"] }
          let main (interval : Interval) : SearchBody :=
            { index := s.contactsIndex, query := query, size := 0,
              aggregations := Pivot.requests levels interval pivotSize }
          (∃ fault, answers = [.error fault] ∧ transcript.calls = [lookup true]) ∨
            (∃ first fault, answers = [.ok first, .error fault] ∧
              transcript.calls = [lookup true, lookup false]) ∨
            ∃ first second last oldest newest, answers = [.ok first, .ok second, last] ∧
              (∀ t, oldest = some t ↔ first.ChangedAt t) ∧
              (∀ t, newest = some t ↔ second.ChangedAt t) ∧
              transcript.calls =
                [lookup true, lookup false, main (Interval.spanning oldest newest)]) ∧
      ∀ before fault later, answers = before ++ .error fault :: later →
        later = [] ∧ transcript.result = .error fault := by
  intro transcript answers
  refine ⟨?_, ?_, ?_, ?_⟩
  · intro fault hcheck
    simp only [transcript, exchange_of_check_error hcheck, Exchange.run]
  · intro hcheck hdates
    obtain ⟨plan, hplan, hexchange⟩ := exchange_of_check_ok hcheck
    simp only [transcript, hexchange]
    rw [Plan.calls_of_span_eq_none (span_of_not_byDates hdates hplan)]
    rfl
  · rintro names rfl hdates hcheck
    obtain ⟨plan, hplan, hexchange⟩ := exchange_of_check_ok hcheck
    obtain ⟨levels, hlevels, hplan⟩ := Steps.bind_eq_ok.mp hplan
    obtain ⟨selection, _, rfl⟩ := Steps.map_eq_ok.mp hplan
    refine ⟨levels, confined r selection, hlevels, ?_⟩
    have hspan : (pivotPlan s r levels selection).span = some (confined r selection) :=
      if_pos ((date_mem_of_readLevels hlevels).mpr hdates)
    simp only [answers, transcript, hexchange]
    rcases Plan.calls_of_span_eq_some hspan with hfirst | hsecond |
      ⟨first, second, last, hanswers, hcalls⟩
    · exact .inl hfirst
    · exact .inr (.inl hsecond)
    · exact .inr (.inr ⟨first, second, last, lastChange? first, lastChange? second, hanswers,
        fun _ => lastChange?_eq_some_iff, fun _ => lastChange?_eq_some_iff, hcalls⟩)
  · intro before fault later hanswers
    exact o.stopsAtFault.run hanswers

/-- A pivot by dates: between a day and a number of milliseconds thirty days later it asks for days,
without a newest last change for weeks, and when the second lookup fails for nothing. -/
theorem pivot_by_dates_calls :
    let r : SearchRequest := ⟨"dupont", ["42", "name"], [], ""⟩
    let o : Operation := .pivot ["gender", "date"]
    let oldest : Reply := ⟨9, [.only "lastchange" (.text "2016-03-01")], none⟩
    let newest : Reply := ⟨9, [.only "lastchange" (.integer 1459382400500)], none⟩
    let failure : Fault := .engine (some 404) "no such index"
    let run (second : Except Fault Reply) :=
      (o.exchange {} r).run Exchange.scripted [.ok oldest, second, .ok ⟨9, [], some []⟩]
    let main (query : Query) (interval : Interval) : SearchBody :=
      { index := "contacts", query := query, size := 0,
        aggregations := Pivot.requests [.gender, .date] interval 1000 }
    o.check {} r = .ok () ∧
      (∃ query, (run (.ok newest)).calls =
        [edgeBody {} query true, edgeBody {} query false, main query .day]) ∧
      (∃ query, (run (.ok ⟨0, [], none⟩)).calls =
        [edgeBody {} query true, edgeBody {} query false, main query .week]) ∧
      (∃ query, (run (.error failure)).calls = [edgeBody {} query true, edgeBody {} query false]) ∧
      (run (.error failure)).result = .error failure := by
  intro r o oldest newest failure run main
  have hcheck : o.check {} r = .ok () := rfl
  have hruns := fun second => calls_of_exchange {} r o Exchange.scripted
    [.ok oldest, second, .ok ⟨9, [], some []⟩]
  have hday : lastChange? oldest = some ⟨1456790400, 0⟩ := by decide +kernel
  have hmain : ∀ second : Reply, ∃ query, (run (.ok second)).calls =
      [edgeBody {} query true, edgeBody {} query false,
        main query (Interval.spanning (some ⟨1456790400, 0⟩) (lastChange? second))] := by
    intro second
    have hanswers : Exchange.answers Exchange.scripted (run (.ok second)).calls
        [.ok oldest, .ok second, .ok ⟨9, [], some []⟩] =
          [.ok oldest, .ok second, .ok ⟨9, [], some []⟩] := rfl
    obtain ⟨levels, query, hlevels, hcases⟩ :=
      (hruns (.ok second)).2.2.1 ["gender", "date"] rfl (by decide) hcheck
    cases hlevels
    rcases hcases with ⟨fault, hone, -⟩ | ⟨first, fault, htwo, -⟩ |
      ⟨first, newer, last, start, stop, hthree, hstart, hstop, hcalls⟩
    · cases hanswers.symm.trans hone
    · cases hanswers.symm.trans htwo
    · cases hanswers.symm.trans hthree
      have hfirst : start = some ⟨1456790400, 0⟩ :=
        (hstart _).mpr (lastChange?_eq_some_iff.mp hday)
      have hsecond : stop = lastChange? second :=
        Option.ext fun t => (hstop t).trans lastChange?_eq_some_iff.symm
      rw [hfirst, hsecond] at hcalls
      exact ⟨query, hcalls⟩
  have hfailed : Exchange.answers Exchange.scripted (run (.error failure)).calls
      [.ok oldest, .error failure, .ok ⟨9, [], some []⟩] = [.ok oldest, .error failure] := rfl
  refine ⟨hcheck, ?_, hmain ⟨0, [], none⟩, ?_,
    ((hruns (.error failure)).2.2.2 [.ok oldest] failure [] hfailed).2⟩
  · have hinterval : Interval.spanning (some ⟨1456790400, 0⟩) (lastChange? newest) = .day := by
      decide +kernel
    rw [← hinterval]
    exact hmain newest
  · obtain ⟨levels, query, -, hcases⟩ :=
      (hruns (.error failure)).2.2.1 ["gender", "date"] rfl (by decide) hcheck
    rcases hcases with ⟨fault, hone, -⟩ | ⟨first, fault, -, hcalls⟩ |
      ⟨first, second, last, start, stop, hthree, -⟩
    · cases hfailed.symm.trans hone
    · exact ⟨query, hcalls⟩
    · cases hfailed.symm.trans hthree

end Operation

end Outreach
