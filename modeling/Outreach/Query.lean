import Outreach.Place
import Outreach.Query.Bound

/-!
# Queries

The query tree of the search engine. A compound query holds clauses that must match, should match,
must not match, and clauses that filter, with an optional threshold on how many of the optional ones
match.
-/

namespace Outreach

mutual

inductive Query where
  | matchAll
  /-- All words of a text, across the fields or across the engine's default fields when none are
  given. -/
  | words (text : String) (fields : List String)
  | term (field : String) (value : Operand)
  | terms (field : String) (values : List Operand)
  /-- Both ends are inclusive; an absent end is open. -/
  | range (field : String) (least most : Option Operand)
  | missing (field : String)
  /-- Documents with one sub-document under the path that matches. -/
  | nested (path : String) (query : Query)
  | within (field : String) (corners : List Place)
  | near (field : String) (center : Place) (metres : Float)
  | compound (clauses : Compound)

structure Compound where
  must : List Query
  should : List Query
  mustNot : List Query
  filter : List Query
  threshold : Option UInt32

end

namespace Compound

def empty : Compound := ⟨[], [], [], [], none⟩

def addMust (c : Compound) (q : Query) : Compound := { c with must := c.must ++ [q] }

def addShould (c : Compound) (q : Query) : Compound := { c with should := c.should ++ [q] }

def addMustNot (c : Compound) (q : Query) : Compound := { c with mustNot := c.mustNot ++ [q] }

def addFilter (c : Compound) (q : Query) : Compound := { c with filter := c.filter ++ [q] }

def withThreshold (c : Compound) (n : UInt32) : Compound := { c with threshold := some n }

/-- A compound query without clauses; the threshold does not count. -/
def isEmpty (c : Compound) : Bool :=
  c.must.isEmpty && c.should.isEmpty && c.mustNot.isEmpty && c.filter.isEmpty

end Compound

inductive SortKey
  | field (name : String) (ascending : Bool)
  /-- Nearest to the origin first. -/
  | distance (field : String) (origin : Place)
  deriving DecidableEq

end Outreach
