/-
White space in script text.

`isBlank` is the Unicode property White_Space: 25 characters, so an ideographic space (U+3000) is blank and a zero-width
space (U+200B) is not. Lines, names and player commands are trimmed (`trim`) and cut into words (`words`) at exactly
these characters.
-/
namespace VisualNovel.Text

/-- the characters with the Unicode property White_Space -/
def isBlank (c : Char) : Bool :=
  let n := c.toNat
  (0x09 ≤ n && n ≤ 0x0d) || n == 0x20 || n == 0x85 || n == 0xa0 || n == 0x1680 || (0x2000 ≤ n && n ≤ 0x200a) ||
    n == 0x2028 || n == 0x2029 || n == 0x202f || n == 0x205f || n == 0x3000

/-- the text without its leading blanks -/
def trimStart (cs : List Char) : List Char := cs.dropWhile isBlank

/-- the text without its trailing blanks -/
def trimEnd (cs : List Char) : List Char := (cs.reverse.dropWhile isBlank).reverse

/-- the text without leading and trailing blanks -/
def trim (cs : List Char) : List Char := trimEnd (trimStart cs)

/-- the maximal runs without blanks; `run` is the run being read, last character first -/
def wordsFrom (run : List Char) : List Char → List (List Char)
  | [] => if run.isEmpty then [] else [run.reverse]
  | c :: cs =>
    if isBlank c then
      if run.isEmpty then wordsFrom [] cs else run.reverse :: wordsFrom [] cs
    else wordsFrom (c :: run) cs

/-- the maximal runs without blanks, in order -/
def words (cs : List Char) : List (List Char) := wordsFrom [] cs

end VisualNovel.Text
