/-!
# Blank characters

The Unicode property White_Space and the trimming of text by it. Zero-width characters such as
U+200B and U+FEFF are not blank.
-/

namespace Outreach

namespace Text

/-- The twenty-five characters of the property White_Space. -/
def isBlank (c : Char) : Bool :=
  let n := c.toNat
  (9 ≤ n && n ≤ 13) || n == 0x20 || n == 0x85 || n == 0xA0 || n == 0x1680 ||
    (0x2000 ≤ n && n ≤ 0x200A) || n == 0x2028 || n == 0x2029 || n == 0x202F ||
    n == 0x205F || n == 0x3000

def dropBlanks (cs : List Char) : List Char := cs.dropWhile isBlank

def trimBlanks (cs : List Char) : List Char := (dropBlanks (dropBlanks cs).reverse).reverse

def trim (s : String) : String := String.ofList (trimBlanks s.toList)

def allBlank (s : String) : Bool := s.toList.all isBlank

end Text

end Outreach
