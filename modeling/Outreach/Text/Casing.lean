import Outreach.Text.Casing.Table

/-!
# Lower case

Lower-casing of whole texts. Each character is mapped on its own, except for capital sigma, which
becomes a final sigma at the end of a word: when a cased character stands before it and none stands
after it, case-ignorable characters being looked through on both sides. Capital I with a dot above
becomes two characters.
-/

namespace Outreach

namespace Text

/-- Whether a character lies in one of the inclusive ranges of code points. -/
def inRanges (ranges : List (Nat × Nat)) (c : Char) : Bool :=
  ranges.any fun range => range.1 ≤ c.toNat && c.toNat ≤ range.2

def isCased (c : Char) : Bool := inRanges casedRanges c

def isCaseIgnorable (c : Char) : Bool := inRanges caseIgnorableRanges c

def CaseRange.contains (range : CaseRange) (c : Char) : Bool :=
  range.first ≤ c.toNat && c.toNat ≤ range.last && (c.toNat - range.first) % range.step == 0

/-- The lower-case form of a character that has one of a single character; other characters are
their own. -/
def lowerOne (c : Char) : Char :=
  match lowerRanges.find? (·.contains c) with
  | some range => Char.ofNat (c.toNat + range.shift).toNat
  | none => c

/-- Whether the first character that is not case-ignorable is cased. -/
def opensCased (cs : List Char) : Bool :=
  match cs.dropWhile isCaseIgnorable with
  | [] => false
  | c :: _ => isCased c

/-- The lower-case form of one character between the text `before` it, nearest first, and the text
`after` it. -/
def lowerBetween (before : List Char) (c : Char) (after : List Char) : List Char :=
  if c = 'Σ' then [if opensCased before && !opensCased after then 'ς' else 'σ']
  else if c = 'İ' then ['i', Char.ofNat 0x0307]
  else [lowerOne c]

/-- Lower-cases a text that follows `before`, given nearest first. -/
def lowerAfter (before : List Char) : List Char → List Char
  | [] => []
  | c :: rest => lowerBetween before c rest ++ lowerAfter (c :: before) rest

def lower (s : String) : String := String.ofList (lowerAfter [] s.toList)

end Text

end Outreach
