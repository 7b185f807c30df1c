/-
**Blanks and words.**

A blank is a character with the Unicode property White_Space. The words of a text are its maximal
runs of characters that are no blanks (`words`).
-/

namespace FlightRoute.Text

/-- The ranges of code points with the property White_Space. -/
def blankRanges : List (Nat × Nat) :=
  [(0x0009, 0x000d), (0x0020, 0x0020), (0x0085, 0x0085), (0x00a0, 0x00a0), (0x1680, 0x1680),
    (0x2000, 0x200a), (0x2028, 0x2029), (0x202f, 0x202f), (0x205f, 0x205f), (0x3000, 0x3000)]

/-- Whether the character separates words. -/
def isBlank (c : Char) : Bool :=
  blankRanges.any fun range => range.1 ≤ c.toNat && c.toNat ≤ range.2

/-- The words of a list of characters. -/
def wordRuns (characters : List Char) : List (List Char) :=
  (characters.splitOnP isBlank).filter fun run => !run.isEmpty

/-- The words of a text. -/
def words (text : String) : List String := (wordRuns text.toList).map String.ofList

end FlightRoute.Text
