/-
# Blanks

The blank characters of the character standard, and what is made of them: a text without the blanks
at its ends, the words of a text, and the parts between separators.  All of them recurse on
`List Char`, so that facts about them are inductions over the characters.
-/

namespace Placard.Text

/-- The characters with the property *White_Space*. -/
def isBlank (c : Char) : Bool :=
  let n := c.toNat
  (9 ≤ n && n ≤ 13) || n == 0x20 || n == 0x85 || n == 0xA0 || n == 0x1680 ||
    (0x2000 ≤ n && n ≤ 0x200A) || n == 0x2028 || n == 0x2029 || n == 0x202F || n == 0x205F ||
    n == 0x3000

/-- The characters without the blanks before the first and after the last other one. -/
def trimList (cs : List Char) : List Char :=
  ((cs.dropWhile isBlank).reverse.dropWhile isBlank).reverse

def trim (s : String) : String := String.ofList (trimList s.toList)

/-- The words of a text given the letters of the word in hand, last one first. -/
def wordsFrom : List Char → List Char → List (List Char)
  | word, [] => if word.isEmpty then [] else [word.reverse]
  | word, c :: cs =>
    if isBlank c then
      if word.isEmpty then wordsFrom [] cs else word.reverse :: wordsFrom [] cs
    else wordsFrom (c :: word) cs

/-- The maximal runs of characters that are not blank, in order. -/
def wordList (cs : List Char) : List (List Char) := wordsFrom [] cs

def words (s : String) : List String := (wordList s.toList).map String.ofList

/-- The parts of a list between the places where `p` holds, given the part in hand, last one
first. -/
def splitFrom (p : Char → Bool) : List Char → List Char → List (List Char)
  | part, [] => [part.reverse]
  | part, c :: cs => if p c then part.reverse :: splitFrom p [] cs else splitFrom p (c :: part) cs

/-- The parts of a list between the places where `p` holds; there is always one more part than
places. -/
def splitList (p : Char → Bool) (cs : List Char) : List (List Char) := splitFrom p [] cs

/-- The parts of a text between the characters `sep`. -/
def splitAt (sep : Char) (s : String) : List String :=
  (splitList (· == sep) s.toList).map String.ofList

/-- The text without the characters `c` at its start. -/
def trimStart (c : Char) (s : String) : String := String.ofList (s.toList.dropWhile (· == c))

/-- The text without the characters `c` at its end. -/
def trimEnd (c : Char) (s : String) : String :=
  String.ofList (s.toList.reverse.dropWhile (· == c)).reverse

end Placard.Text
