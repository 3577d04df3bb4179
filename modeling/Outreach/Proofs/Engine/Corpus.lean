import Outreach.Proofs.Engine.Calls
import Outreach.Proofs.Query.Matching

/-!
# An engine over documents

Which documents a search finds and which it counts. The hits and their number come from the
documents that satisfy the query and the filter after it; the aggregations are made before that
filter, from all documents that satisfy the query. An engine over a list of documents that keeps to
this rule cannot tell the list from the part of it that a search finds or counts.
-/

namespace Outreach

namespace Document

variable (d : Document)

/-- The document satisfies the query of a search and the filter on its hits. -/
def isFound (body : SearchBody) : Bool :=
  d.satisfies body.query && body.postFilter.all d.satisfies

/-- The document is among those that the aggregations of a search are made from. -/
def isCounted (body : SearchBody) : Bool :=
  !body.aggregations.isEmpty && d.satisfies body.query

variable {d} {body : SearchBody} {q : Query}

theorem satisfies_of_isFound (hfound : d.isFound body = true) :
    d.satisfies body.query = true :=
  (Bool.and_eq_true_iff.mp hfound).1

theorem satisfies_of_postFilter (hfilter : body.postFilter = some q)
    (hfound : d.isFound body = true) : d.satisfies q = true := by
  have hafter := (Bool.and_eq_true_iff.mp hfound).2
  rwa [hfilter] at hafter

theorem satisfies_of_isCounted (hcounted : d.isCounted body = true) :
    d.satisfies body.query = true :=
  (Bool.and_eq_true_iff.mp hcounted).2

theorem isCounted_of_nil (hnone : body.aggregations = []) : d.isCounted body = false := by
  rw [isCounted, hnone]
  rfl

end Document

/-- What an engine makes of the documents that it selects. How it ranks and shows the hits and how
it aggregates is its own affair. -/
structure Corpus (δ : Type) where
  document : δ → Document
  hits : SearchBody → List δ → List Json
  outcomes : Aggregations → List δ → Outcomes

namespace Corpus

variable {δ : Type} (corpus : Corpus δ)

def found (docs : List δ) (body : SearchBody) : List δ :=
  docs.filter fun x => (corpus.document x).isFound body

def counted (docs : List δ) (body : SearchBody) : List δ :=
  docs.filter fun x => (corpus.document x).isCounted body

def answer (docs : List δ) (body : SearchBody) : Reply where
  total := UInt64.ofNat (corpus.found docs body).length
  hits := corpus.hits body (corpus.found docs body)
  outcomes :=
    if body.aggregations.isEmpty then none
    else some (corpus.outcomes body.aggregations (corpus.counted docs body))

/-- The engine that answers every search from the same documents. -/
def engine (docs : List δ) : Exchange.Engine Unit :=
  fun state body => (.ok (corpus.answer docs body), state)

/-- The documents that satisfy a query. -/
def inside (q : Query) (docs : List δ) : List δ :=
  docs.filter fun x => (corpus.document x).satisfies q

variable {corpus}

theorem answer_inside {q : Query} {body : SearchBody} (docs : List δ)
    (hfound : ∀ d : Document, d.isFound body = true → d.satisfies q = true)
    (hcounted : ∀ d : Document, d.isCounted body = true → d.satisfies q = true) :
    corpus.answer (corpus.inside q docs) body = corpus.answer docs body := by
  have hfound : corpus.found (corpus.inside q docs) body = corpus.found docs body := by
    rw [found, inside, List.filter_filter, found]
    refine List.filter_congr fun x _ => ?_
    rw [Bool.and_eq_left_iff_imp]
    exact hfound (corpus.document x)
  have hcounted : corpus.counted (corpus.inside q docs) body = corpus.counted docs body := by
    rw [counted, inside, List.filter_filter, counted]
    refine List.filter_congr fun x _ => ?_
    rw [Bool.and_eq_left_iff_imp]
    exact hcounted (corpus.document x)
  rw [answer, hfound, hcounted, answer]

end Corpus

end Outreach
