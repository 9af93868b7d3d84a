/-!
# Blank characters

Three sets of blank characters are in use. `isBlank` is the widest: every separator of Unicode and
the controls that separate lines, fields, groups, records and units. `isHtmlSpace` holds the five
characters that HTML calls space. `isSpaceOrTab` holds the two that indent a line of Markdown.

Trimming and splitting are defined on lists of characters.
-/

namespace SafeMarkdown.Text

/-- A blank in the widest sense. -/
def isBlank (c : Char) : Bool :=
  let n := c.toNat
  (9 ≤ n && n ≤ 13) || (28 ≤ n && n ≤ 32) || n == 0x85 || n == 0xA0 || n == 0x1680 ||
    (0x2000 ≤ n && n ≤ 0x200A) || n == 0x2028 || n == 0x2029 || n == 0x202F || n == 0x205F ||
    n == 0x3000

/-- The space characters of HTML: tab, line feed, form feed, carriage return and space. -/
def isHtmlSpace (c : Char) : Bool :=
  c == ' ' || c == '\n' || c == '\t' || c == '\x0c' || c == '\r'

/-- The characters that indent a line. -/
def isSpaceOrTab (c : Char) : Bool :=
  c == ' ' || c == '\t'

/-- Drops the longest tail of characters that satisfy `p`. -/
def dropTailWhile (p : Char → Bool) (s : List Char) : List Char :=
  (s.reverse.dropWhile p).reverse

/-- Drops the characters that satisfy `p` at both ends. -/
def trimBy (p : Char → Bool) (s : List Char) : List Char :=
  dropTailWhile p (s.dropWhile p)

/-- Drops the blanks at both ends. -/
def trim (s : List Char) : List Char :=
  trimBy isBlank s

/-- Drops the blanks at the end. -/
def trimRight (s : List Char) : List Char :=
  dropTailWhile isBlank s

/-- The first maximal run of characters that are not blank, if there is one. -/
def firstWord? (s : List Char) : Option (List Char) :=
  match (s.dropWhile isBlank).takeWhile (fun c ↦ !isBlank c) with
  | [] => none
  | w => some w

/-- Replaces each maximal run of blanks by one space. -/
def collapseBlanks : List Char → List Char
  | [] => []
  | c :: r =>
    if isBlank c then
      match r with
      | d :: _ => if isBlank d then collapseBlanks r else ' ' :: collapseBlanks r
      | [] => [' ']
    else c :: collapseBlanks r

end SafeMarkdown.Text
