/-!
# Blanks, fields and lines

The characters that separate fields are those with the Unicode property White_Space. Lines end at
a line feed.

## Main definitions

* `isBlank`: the Unicode property White_Space.
* `trim`: a text without the blanks at its ends.
* `fields`: the longest runs of other characters.
* `splitFrom`: the pieces of a sequence between marks.
* `splitLines`: the pieces between line feeds; a last empty piece is no line.
-/

namespace TrialFarm.Text

/-- The characters with the Unicode property White_Space. -/
def isBlank (c : Char) : Bool :=
  let n := c.toNat
  (9 ≤ n && n ≤ 13) || n = 32 || n = 0x85 || n = 0xA0 || n = 0x1680 || (0x2000 ≤ n && n ≤ 0x200A)
    || n = 0x2028 || n = 0x2029 || n = 0x202F || n = 0x205F || n = 0x3000

/-- Drops the blanks at the end of a text. -/
def trimEnd (cs : List Char) : List Char :=
  (cs.reverse.dropWhile isBlank).reverse

/-- Drops the blanks at both ends of a text. -/
def trim (cs : List Char) : List Char :=
  trimEnd (cs.dropWhile isBlank)

/-- Cuts a sequence at every element that `isMark` accepts; the marks themselves are left out.
`piece` holds the elements since the last mark, in reverse. A last piece that is empty is
dropped. -/
def splitFrom {α : Type} (isMark : α → Bool) : List α → List α → List (List α)
  | piece, [] => if piece.isEmpty then [] else [piece.reverse]
  | piece, a :: as =>
    if isMark a then piece.reverse :: splitFrom isMark [] as
    else splitFrom isMark (a :: piece) as

/-- The longest runs of non-blank characters, in order. -/
def fields (cs : List Char) : List (List Char) :=
  (splitFrom isBlank [] cs).filter (fun piece => !piece.isEmpty)

/-- The lines of a text. -/
def splitLines (cs : List Char) : List (List Char) :=
  splitFrom (· == '\n') [] cs

end TrialFarm.Text
