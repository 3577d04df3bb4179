import Outreach.Text.Casing
import Outreach.Text.Quoted.Table

/-!
# Quoted text

The form in which messages show a text or a row of texts: between double quotes, with the quote, the
backslash and the usual control characters escaped by a letter and everything else that has no
visible form of its own escaped by code point. The single quote stays as it is.
-/

namespace Outreach

namespace Text

/-- Printable ASCII is tested first; the tables agree with it. -/
def isShown (c : Char) : Bool :=
  (0x20 ≤ c.toNat && c.toNat ≤ 0x7E) || (!inRanges formlessRanges c && !inRanges extendingRanges c)

def quoteChar (c : Char) : List Char :=
  if c = '"' then ['\\', '"']
  else if c = '\\' then ['\\', '\\']
  else if c = '\n' then ['\\', 'n']
  else if c = '\r' then ['\\', 'r']
  else if c = '\t' then ['\\', 't']
  else if c.toNat = 0 then ['\\', '0']
  else if isShown c then [c]
  else ['\\', 'u', '\x7b'] ++ Nat.toDigits 16 c.toNat ++ ['\x7d']

def quote (s : String) : String := String.ofList ('"' :: s.toList.flatMap quoteChar ++ ['"'])

def quoteList (texts : List String) : String := "[" ++ ", ".intercalate (texts.map quote) ++ "]"

end Text

end Outreach
