/-!
# Reading a document text

A `Cursor` is the text that is left together with the position it starts at. Line breaks are the
usual ones and the three of Unicode; a carriage return and a line feed together are one break.
-/

namespace DemoBuild.Yaml

/-- A position in the text. -/
structure Mark where
  /-- Octets before it. -/
  index : Nat
  /-- Lines before it. -/
  line : Nat
  /-- Characters before it on its line. -/
  column : Nat
  deriving DecidableEq, Repr

namespace Mark

/-- The start of the text. -/
def zero : Mark :=
  ⟨0, 0, 0⟩

/-- The position after a character of the same line. -/
def after (m : Mark) (c : Char) : Mark :=
  { m with index := m.index + c.utf8Size, column := m.column + 1 }

/-- The position after a line break of so many octets. -/
def newline (m : Mark) (octets : Nat) : Mark :=
  ⟨m.index + octets, m.line + 1, 0⟩

end Mark

/-- The text that is left and the position it starts at. -/
structure Cursor where
  /-- The text that is left. -/
  rest : List Char
  /-- The position it starts at. -/
  mark : Mark

/-- `c` breaks a line. -/
def isBreak (c : Char) : Bool :=
  c == '\n' || c == '\r' || c.toNat == 0x85 || c.toNat == 0x2028 || c.toNat == 0x2029

/-- A line break as part of a scalar: the separators of Unicode stay, all others are line feeds. -/
def breakText (c : Char) : Char :=
  if c.toNat == 0x2028 || c.toNat == 0x2029 then c else '\n'

/-- `c` separates words of a line. -/
def isSpace (c : Char) : Bool :=
  c == ' ' || c == '\t'

/-- The text starts with a space, a tab or a line break, or is at its end. -/
def atGap : List Char → Bool
  | [] => true
  | c :: _ => isSpace c || isBreak c

/-- The text is at its end or starts with a line break. -/
def atLineEnd : List Char → Bool
  | [] => true
  | c :: _ => isBreak c

/-- The text starts with `---` or `...` as a word. -/
def atDocumentMarker (rest : List Char) : Bool :=
  match rest with
  | '-' :: '-' :: '-' :: rest => atGap rest
  | '.' :: '.' :: '.' :: rest => atGap rest
  | _ => false

/-- `c` may be part of an anchor or of the handle of a tag. -/
def isNameChar (c : Char) : Bool :=
  c.isAlphanum || c == '_' || c == '-'

/-- `c` may occur in a document at all. -/
def isAllowed (c : Char) : Bool :=
  let n := c.toNat
  n == 0x09 || n == 0x0a || n == 0x0d || (0x20 ≤ n && n ≤ 0x7e) || n == 0x85
    || (0xa0 ≤ n && n ≤ 0xd7ff) || (0xe000 ≤ n && n ≤ 0xfffd) || 0x10000 ≤ n

/-- A text is taken in parts of at most so many octets. -/
def partLimit : Nat := 16384

/-- The number of characters before the part in which a character that may not occur is met; there
is none if all of them may. `octets` and `count` tell the size of the part so far. -/
def readableCount : List Char → (octets count before : Nat) → Option Nat
  | [], _, _, _ => none
  | c :: rest, octets, count, before =>
    let starts := partLimit < octets + c.utf8Size
    let before := if starts then before + count else before
    if !isAllowed c then some before
    else if starts then readableCount rest c.utf8Size 1 before
    else readableCount rest (octets + c.utf8Size) (count + 1) before

namespace Cursor

/-- Passes over characters of the same line. -/
def advance (c : Cursor) (count : Nat) : Cursor :=
  ⟨c.rest.drop count, (c.rest.take count).foldl Mark.after c.mark⟩

/-- Takes the characters up to the first one that `p` does not hold of. -/
def takeWhile (c : Cursor) (p : Char → Bool) : List Char × Cursor :=
  let taken := c.rest.takeWhile p
  (taken, c.advance taken.length)

/-- Passes over spaces and tabs. -/
def skipSpaces (c : Cursor) : Cursor :=
  (c.takeWhile isSpace).2

/-- Passes over a comment, if there is one. -/
def skipComment (c : Cursor) : Cursor :=
  match c.rest with
  | '#' :: _ => (c.takeWhile (!isBreak ·)).2
  | _ => c

/-- Passes over a line break, if there is one. -/
def skipBreak (c : Cursor) : Cursor :=
  match c.rest with
  | '\r' :: '\n' :: rest => ⟨rest, c.mark.newline 2⟩
  | b :: rest => if isBreak b then ⟨rest, c.mark.newline b.utf8Size⟩ else c
  | [] => c

/-- Passes over spaces and a comment; a line break or the end of the text must follow. -/
def finishLine? (c : Cursor) : Option Cursor :=
  let c := c.skipSpaces.skipComment
  if atLineEnd c.rest then some c.skipBreak else none

end Cursor

end DemoBuild.Yaml
