import DemoBuild.Yaml.Cursor

/-!
# Scalars of a document text

A scalar is plain, quoted in one of two ways, or a block of lines. Lines of plain and quoted
scalars are folded: a single line break becomes a space, further breaks stay, and the spaces around
them go. Each reader passes over the text once, character by character.
-/

namespace DemoBuild.Yaml

/-- Spaces and line breaks inside a scalar that have been read but not yet added to it. -/
structure Gap where
  /-- Spaces and tabs before the first line break, last one first. -/
  spaces : List Char := []
  /-- A line has ended. -/
  broken : Bool := false
  /-- The first line break, unless it was escaped. -/
  first : Option Char := none
  /-- Line breaks after the first one, last one first. -/
  further : List Char := []

namespace Gap

/-- Reads a space or tab. -/
def space (g : Gap) (c : Char) : Gap :=
  if g.broken then g else { g with spaces := c :: g.spaces }

/-- Reads a line break. -/
def lineBreak (g : Gap) (c : Char) : Gap :=
  if g.broken then { g with further := c :: g.further }
  else { spaces := [], broken := true, first := some c, further := [] }

/-- What the gap adds to the scalar, in reverse. -/
def fold (g : Gap) : List Char :=
  if g.broken then
    match g.first with
    | some '\n' => if g.further = [] then [' '] else g.further
    | some c => g.further ++ [c]
    | none => g.further
  else g.spaces

end Gap

/-- A scalar that was read. -/
structure ScalarText where
  /-- Its text. -/
  text : List Char
  /-- Where the reader stands now. -/
  cursor : Cursor
  /-- The reader has passed over a line break after the scalar. -/
  pastBreak : Bool

/-! ## Plain scalars -/

/-- Where plain scalars end. -/
structure PlainContext where
  /-- Brackets or braces are open. -/
  inFlow : Bool
  /-- The least column of a further line. -/
  indent : Int

/-- What is known of a scalar that is being read. -/
structure PartialScalar where
  /-- The text so far, in reverse. -/
  text : List Char := []
  /-- The gap after it, if there is one. -/
  gap : Option Gap := none

namespace PartialScalar

/-- Reads a space or tab. -/
def space (s : PartialScalar) (c : Char) : PartialScalar :=
  { s with gap := some ((s.gap.getD {}).space c) }

/-- Reads a line break. -/
def lineBreak (s : PartialScalar) (c : Char) : PartialScalar :=
  { s with gap := some ((s.gap.getD {}).lineBreak c) }

/-- Adds the gap to the text. -/
def fill (s : PartialScalar) : PartialScalar :=
  { text := (s.gap.map Gap.fold).getD [] ++ s.text, gap := none }

/-- Adds the gap and a character to the text. -/
def push (s : PartialScalar) (c : Char) : PartialScalar :=
  { text := c :: s.fill.text, gap := none }

/-- The gap after the text holds a line break. -/
def pastBreak (s : PartialScalar) : Bool :=
  (s.gap.map Gap.broken).getD false

end PartialScalar

/-- `c` delimits the items of bracketed collections. -/
def isFlowMark (c : Char) : Bool :=
  c == ',' || c == '[' || c == ']' || c == '\x7b' || c == '\x7d'

/-- After a gap, the scalar does not go on with `c`. -/
def PlainContext.stopsAfterGap (context : PlainContext) (c : Char) (rest : List Char)
    (column : Nat) : Bool :=
  (!context.inFlow && (column : Int) < context.indent)
    || (column == 0 && atDocumentMarker (c :: rest)) || c == '#'

/-- A colon in front of a delimiter is refused inside brackets. -/
def PlainContext.refuses (context : PlainContext) (c : Char) (rest : List Char) : Bool :=
  context.inFlow && c == ':' && rest.head?.any fun next => isFlowMark next || next == '?'

/-- The scalar ends before `c`. -/
def PlainContext.stopsAt (context : PlainContext) (c : Char) (rest : List Char) : Bool :=
  (c == ':' && atGap rest) || (context.inFlow && isFlowMark c)

/-- Reads a plain scalar; `none` if it is malformed. -/
def readPlain (context : PlainContext) : List Char → Mark → PartialScalar → Option ScalarText
  | '\r' :: '\n' :: rest, m, s => readPlain context rest (m.newline 2) (s.lineBreak '\n')
  | c :: rest, m, s =>
    if isBreak c then readPlain context rest (m.newline c.utf8Size) (s.lineBreak (breakText c))
    else if isSpace c then
      if c == '\t' && s.pastBreak && (m.column : Int) < context.indent then none
      else readPlain context rest (m.after c) (s.space c)
    else if s.gap.isSome && context.stopsAfterGap c rest m.column then
      some ⟨s.text.reverse, ⟨c :: rest, m⟩, s.pastBreak⟩
    else if context.refuses c rest then none
    else if context.stopsAt c rest then some ⟨s.text.reverse, ⟨c :: rest, m⟩, s.pastBreak⟩
    else readPlain context rest (m.after c) (s.push c)
  | [], m, s => some ⟨s.text.reverse, ⟨[], m⟩, s.pastBreak⟩

/-! ## Quoted scalars -/

/-- What the next character of a quoted scalar is. -/
inductive QuotedMode where
  /-- Part of the text. -/
  | plain
  /-- A quote that stands for itself, after a first one. -/
  | secondQuote
  /-- The name of an escape. -/
  | escape
  /-- One of so many hexadecimal digits, after digits of a value. -/
  | hex (left value : Nat)

/-- What follows from one character of a quoted scalar. -/
inductive QuotedStep where
  /-- The scalar is malformed. -/
  | refuse
  /-- It ends with this character. -/
  | close
  /-- It goes on. -/
  | go (mode : QuotedMode) (s : PartialScalar)

/-- The characters that escapes of one character stand for. -/
def escapes : List (Char × Nat) :=
  [('0', 0x00), ('a', 0x07), ('b', 0x08), ('t', 0x09), ('\t', 0x09), ('n', 0x0a), ('v', 0x0b),
    ('f', 0x0c), ('r', 0x0d), ('e', 0x1b), (' ', 0x20), ('"', 0x22), ('/', 0x2f), ('\\', 0x5c),
    ('N', 0x85), ('_', 0xa0), ('L', 0x2028), ('P', 0x2029)]

/-- The number of digits of the escapes that give a code point. -/
def codeEscapes : List (Char × Nat) :=
  [('x', 2), ('u', 4), ('U', 8)]

/-- The value of a hexadecimal digit. -/
def hexValue? (c : Char) : Option Nat :=
  if c.isDigit then some (c.toNat - '0'.toNat)
  else if 'a' ≤ c && c ≤ 'f' then some (c.toNat - 'a'.toNat + 10)
  else if 'A' ≤ c && c ≤ 'F' then some (c.toNat - 'A'.toNat + 10)
  else none

/-- Reads the name of an escape. -/
def readEscape (s : PartialScalar) (c : Char) : QuotedStep :=
  match escapes.lookup c with
  | some code => .go .plain (s.push (Char.ofNat code))
  | none =>
    match codeEscapes.lookup c with
    | some digits => .go (.hex digits 0) s
    | none => .refuse

/-- Reads a digit of a code point, which must be that of a character. -/
def readHex (s : PartialScalar) (left value : Nat) (c : Char) : QuotedStep :=
  match hexValue? c with
  | none => .refuse
  | some digit =>
    let value := value * 16 + digit
    if 1 < left then .go (.hex (left - 1) value) s
    else if h : value.isValidChar then .go .plain (s.push (Char.ofNatAux value h))
    else .refuse

/-- Reads one character that is no line break. -/
def readQuotedChar (quote : Char) (mode : QuotedMode) (s : PartialScalar) (c : Char)
    (rest : List Char) (column : Nat) : QuotedStep :=
  match mode with
  | .hex left value => readHex s left value c
  | .escape => readEscape s c
  | .secondQuote => .go .plain (s.push c)
  | .plain =>
    if isSpace c then .go .plain (s.space c)
    else if column == 0 && atDocumentMarker (c :: rest) then .refuse
    else if c == quote then
      if quote == '\'' && rest.head? == some '\'' then .go .secondQuote s else .close
    else if quote == '"' && c == '\\' then .go .escape s.fill
    else .go .plain (s.push c)

/-- Reads one line break. An escaped one leaves no trace. -/
def readQuotedBreak (mode : QuotedMode) (s : PartialScalar) (c : Char) : QuotedStep :=
  match mode with
  | .plain => .go .plain (s.lineBreak c)
  | .escape => .go .plain { s.fill with gap := some { broken := true } }
  | _ => .refuse

/-- Reads a quoted scalar after its opening quote; `none` if it is malformed. -/
def readQuoted (quote : Char) :
    List Char → Mark → QuotedMode → PartialScalar → Option ScalarText
  | '\r' :: '\n' :: rest, m, mode, s =>
    match readQuotedBreak mode s '\n' with
    | .go mode s => readQuoted quote rest (m.newline 2) mode s
    | _ => none
  | c :: rest, m, mode, s =>
    if isBreak c then
      match readQuotedBreak mode s (breakText c) with
      | .go mode s => readQuoted quote rest (m.newline c.utf8Size) mode s
      | _ => none
    else
      match readQuotedChar quote mode s c rest m.column with
      | .refuse => none
      | .close => some ⟨s.fill.text.reverse, ⟨rest, m.after c⟩, false⟩
      | .go mode s => readQuoted quote rest (m.after c) mode s
  | [], _, _, _ => none

/-! ## Block scalars -/

/-- What happens to the line breaks at the end of a block. -/
inductive Chomping where
  /-- All of them go. -/
  | strip
  /-- The first one stays. -/
  | clip
  /-- All of them stay. -/
  | keep
  deriving DecidableEq

/-- How the lines of a block make a scalar. -/
structure BlockStyle where
  /-- Lines are folded. -/
  folded : Bool
  /-- What happens at the end. -/
  chomping : Chomping
  /-- The least column of the first line, if the block does not give its indentation. -/
  least : Nat

/-- What is known of a block that is being read. -/
structure PartialBlock where
  /-- The column of the lines; zero as long as it is not known. -/
  indent : Nat
  /-- The greatest column that was reached while it was not known. -/
  reached : Nat := 0
  /-- The reader is inside a line, past its indentation. -/
  inLine : Bool := false
  /-- The text so far, in reverse. -/
  text : List Char := []
  /-- The break at the end of the line before. -/
  lineEnd : Option Char := none
  /-- Breaks of empty lines after it, last one first. -/
  empty : List Char := []
  /-- The line before starts with a space. -/
  spaced : Bool := false

namespace PartialBlock

/-- Reads a line break. -/
def lineBreak (b : PartialBlock) (c : Char) (column : Nat) : PartialBlock :=
  if b.inLine then { b with inLine := false, lineEnd := some c }
  else { b with empty := c :: b.empty, reached := max b.reached column }

/-- The indentation is not complete at this column. -/
def indenting (b : PartialBlock) (column : Nat) : Bool :=
  b.indent == 0 || column < b.indent

/-- The column of the lines, now that the first of them starts at `column`. -/
def settle (b : PartialBlock) (style : BlockStyle) (column : Nat) : Nat :=
  if b.indent = 0 then max (max b.reached column) style.least else b.indent

/-- Starts a line with the character `c`. -/
def startLine (b : PartialBlock) (style : BlockStyle) (indent : Nat) (c : Char) : PartialBlock :=
  let folds := style.folded && b.lineEnd == some '\n' && !b.spaced && !isSpace c
  let joint :=
    if folds then if b.empty = [] then [' '] else b.empty
    else b.empty ++ b.lineEnd.toList
  { indent := indent, inLine := true, text := c :: (joint ++ b.text), spaced := isSpace c }

/-- The scalar, when the block ends. -/
def finish (b : PartialBlock) (style : BlockStyle) : List Char :=
  let text :=
    match style.chomping with
    | .strip => b.text
    | .clip => b.lineEnd.toList ++ b.text
    | .keep => b.empty ++ b.lineEnd.toList ++ b.text
  text.reverse

end PartialBlock

/-- Reads the lines of a block; `none` if they are malformed. -/
def readBlock (style : BlockStyle) : List Char → Mark → PartialBlock → Option ScalarText
  | '\r' :: '\n' :: rest, m, b => readBlock style rest (m.newline 2) (b.lineBreak '\n' m.column)
  | c :: rest, m, b =>
    if isBreak c then
      readBlock style rest (m.newline c.utf8Size) (b.lineBreak (breakText c) m.column)
    else if b.inLine then readBlock style rest (m.after c) { b with text := c :: b.text }
    else if b.indenting m.column && c == ' ' then readBlock style rest (m.after c) b
    else if b.indenting m.column && c == '\t' then none
    else
      let indent := b.settle style m.column
      if m.column = indent then
        readBlock style rest (m.after c) (b.startLine style indent c)
      else some ⟨b.finish style, ⟨c :: rest, m⟩, true⟩
  | [], m, b => some ⟨b.finish style, ⟨[], m⟩, true⟩

/-- Reads the signs after the mark of a block: its chomping and its indentation, in either order. -/
def readBlockSigns (c : Cursor) : Option (Chomping × Option Nat × Cursor) :=
  let chomping? : Char → Option Chomping
    | '+' => some .keep
    | '-' => some .strip
    | _ => none
  let digit (d : Char) : Option Nat := if d.isDigit then some (d.toNat - '0'.toNat) else none
  match c.rest with
  | [] => some (.clip, none, c)
  | a :: rest =>
    match chomping? a, digit a with
    | some chomping, _ =>
      match rest.head?.bind digit with
      | some 0 => none
      | some n => some (chomping, some n, c.advance 2)
      | none => some (chomping, none, c.advance 1)
    | none, some 0 => none
    | none, some n =>
      match rest.head?.bind chomping? with
      | some chomping => some (chomping, some n, c.advance 2)
      | none => some (.clip, some n, c.advance 1)
    | none, none => some (.clip, none, c)

/-- Reads a block after its mark, inside a collection at column `indent`. -/
def readBlockScalar (folded : Bool) (indent : Int) (c : Cursor) : Option ScalarText := do
  let (chomping, increment?, c) ← readBlockSigns c
  let c ← c.finishLine?
  let given :=
    match increment? with
    | some increment => (max indent 0).toNat + increment
    | none => 0
  readBlock ⟨folded, chomping, max (indent + 1) 1 |>.toNat⟩ c.rest c.mark { indent := given }

end DemoBuild.Yaml
