import DemoBuild.Yaml.Token.Name
import DemoBuild.Yaml.Token.Scalar

/-!
# Scanning a document text

`scan` cuts a text into tokens. Two things cannot be decided at once. Indentation opens and closes
block collections. And a node may turn out to be a key only when the colon after it is met: such a
node is remembered as a `PendingKey` and the token for a key is put in front of it later.
-/

namespace DemoBuild.Yaml

/-- A node that is a key if a colon follows it. -/
structure PendingKey where
  /-- It must be a key: it starts a line of a block mapping. -/
  required : Bool
  /-- The number of tokens in front of it. -/
  position : Nat
  /-- Where it starts. -/
  mark : Mark

/-- The state of a scan. -/
structure Scanner where
  /-- The text that is left. -/
  cursor : Cursor
  /-- The tokens so far, last one first. -/
  tokens : List Token := []
  /-- Their number. -/
  count : Nat := 0
  /-- The node that may be a key, inside the innermost brackets. -/
  pending : Option PendingKey := none
  /-- The nodes that may be keys around the open brackets, innermost first. -/
  outerPending : List (Option PendingKey) := []
  /-- The column of the innermost block collection. -/
  indent : Int := -1
  /-- The columns of the block collections around it, innermost first. -/
  outerIndents : List Int := []
  /-- A key may start here. -/
  keyAllowed : Bool := true
  /-- The end of the text was reached. -/
  finished : Bool := false
  /-- The text goes on behind what is left of it, but cannot be read there. -/
  truncated : Bool := false

namespace Scanner

/-- Brackets or braces are open. -/
def inFlow (s : Scanner) : Bool :=
  !s.outerPending.isEmpty

/-- Appends a token. -/
def emit (s : Scanner) (t : Token) : Scanner :=
  { s with tokens := t :: s.tokens, count := s.count + 1 }

/-- Puts a token where `position` tokens are in front of it. -/
def emitAt (s : Scanner) (position : Nat) (t : Token) : Scanner :=
  let later := s.count - position
  { s with tokens := s.tokens.take later ++ t :: s.tokens.drop later, count := s.count + 1 }

/-- Passes over characters of the same line. -/
def advance (s : Scanner) (count : Nat) : Scanner :=
  { s with cursor := s.cursor.advance count }

/-- Appends the token for a mark of so many characters. -/
def emitMark (s : Scanner) (count : Nat) (t : Token) : Scanner :=
  (s.advance count).emit t

/-! ## Between tokens -/

/-- Passes over spaces, comments and line breaks. Where no brackets are open, a key may start after
a line break, and a tab is no space where a key may start. -/
def skipGap (inFlow : Bool) : List Char → Mark → (keyAllowed inComment : Bool) → Bool × Cursor
  | '\r' :: '\n' :: rest, m, keyAllowed, _ =>
    skipGap inFlow rest (m.newline 2) (keyAllowed || !inFlow) false
  | c :: rest, m, keyAllowed, inComment =>
    if isBreak c then skipGap inFlow rest (m.newline c.utf8Size) (keyAllowed || !inFlow) false
    else if inComment || c == ' ' || (c == '\t' && (inFlow || !keyAllowed))
        || (c.toNat == 0xfeff && m.column == 0) then
      skipGap inFlow rest (m.after c) keyAllowed inComment
    else if c == '#' then skipGap inFlow rest (m.after c) keyAllowed true
    else (keyAllowed, ⟨c :: rest, m⟩)
  | [], m, keyAllowed, _ => (keyAllowed, ⟨[], m⟩)

/-- Goes to the next token. -/
def skipToToken (s : Scanner) : Scanner :=
  let (keyAllowed, cursor) := skipGap s.inFlow s.cursor.rest s.cursor.mark s.keyAllowed false
  { s with cursor, keyAllowed }

/-! ## Keys -/

/-- The farthest a colon may be from the start of its key, in octets. -/
def keyReach : Nat := 1024

/-- Forgets a node that cannot be a key any more; fails if it must be one. -/
def dropIfStale (m : Mark) : Option PendingKey → Option (Option PendingKey)
  | none => some none
  | some key =>
    if key.mark.line < m.line || key.mark.index + keyReach < m.index then
      if key.required then none else some none
    else some (some key)

/-- Forgets the nodes that cannot be keys any more; fails if one must be a key. -/
def dropStale (s : Scanner) : Option Scanner := do
  let pending ← dropIfStale s.cursor.mark s.pending
  let outerPending ← s.outerPending.mapM (dropIfStale s.cursor.mark)
  return { s with pending, outerPending }

/-- Forgets the node that may be a key; fails if it must be one. -/
def dropPending (s : Scanner) : Option Scanner :=
  if s.pending.any PendingKey.required then none else some { s with pending := none }

/-- Remembers that the next token may start a key. -/
def notePending (s : Scanner) : Option Scanner :=
  if s.keyAllowed then do
    let s ← s.dropPending
    let required := !s.inFlow && s.indent == s.cursor.mark.column
    return { s with pending := some ⟨required, s.count, s.cursor.mark⟩ }
  else some s

/-! ## Indentation -/

/-- Opens a block collection if `column` is to the right of the current one. -/
def openBlock (s : Scanner) (column : Nat) (position : Nat) (t : Token) : Scanner :=
  if !s.inFlow && s.indent < column then
    { s.emitAt position t with indent := column, outerIndents := s.indent :: s.outerIndents }
  else s

/-- Closes the block collections to the right of `column`, given the columns around. -/
def closeTo (column : Int) (s : Scanner) : List Int → Scanner
  | [] => s
  | around :: outer =>
    if column < s.indent then
      closeTo column { s.emit .blockEnd with indent := around, outerIndents := outer } outer
    else s

/-- Closes the block collections to the right of `column`. -/
def closeBlocks (s : Scanner) (column : Int) : Scanner :=
  if s.inFlow then s else closeTo column s s.outerIndents

/-! ## Single tokens -/

/-- The end of the text. -/
def scanEnd (s : Scanner) : Option Scanner := do
  let s ← (s.closeBlocks (-1)).dropPending
  return { s.emit .textEnd with keyAllowed := false, finished := true }

/-- A directive. -/
def scanDirective (s : Scanner) : Option Scanner := do
  let s ← (s.closeBlocks (-1)).dropPending
  let (token, cursor) ← readDirective (s.cursor.advance 1)
  return { s.emit token with cursor, keyAllowed := false }

/-- The mark at the start or the end of a document. -/
def scanDocumentMarker (s : Scanner) (t : Token) : Option Scanner := do
  let s ← (s.closeBlocks (-1)).dropPending
  return { s.emitMark 3 t with keyAllowed := false }

/-- An opening bracket or brace. -/
def scanOpening (s : Scanner) (t : Token) : Option Scanner := do
  let s ← s.notePending
  let s := { s with pending := none, outerPending := s.pending :: s.outerPending }
  return { s.emitMark 1 t with keyAllowed := true }

/-- A closing bracket or brace. -/
def scanClosing (s : Scanner) (t : Token) : Option Scanner := do
  let s ← s.dropPending
  let s :=
    match s.outerPending with
    | [] => s
    | pending :: outer => { s with pending := pending, outerPending := outer }
  return { s.emitMark 1 t with keyAllowed := false }

/-- A comma. -/
def scanComma (s : Scanner) : Option Scanner := do
  let s ← s.dropPending
  return { s.emitMark 1 .flowEntry with keyAllowed := true }

/-- A dash in front of an item. -/
def scanDash (s : Scanner) : Option Scanner := do
  if !s.inFlow && !s.keyAllowed then none
  let s ← (s.openBlock s.cursor.mark.column s.count .blockSequenceStart).dropPending
  return { s.emitMark 1 .blockEntry with keyAllowed := true }

/-- A question mark in front of a key. -/
def scanQuestion (s : Scanner) : Option Scanner := do
  if !s.inFlow && !s.keyAllowed then none
  let s ← (s.openBlock s.cursor.mark.column s.count .blockMappingStart).dropPending
  return { s.emitMark 1 .key with keyAllowed := !s.inFlow }

/-- A colon in front of a value. -/
def scanColon (s : Scanner) : Option Scanner := do
  match s.pending with
  | some key =>
    let s := s.emitAt key.position .key
    let s := s.openBlock key.mark.column key.position .blockMappingStart
    return { s.emitMark 1 .value with pending := none, keyAllowed := false }
  | none =>
    if !s.inFlow && !s.keyAllowed then none
    let s := s.openBlock s.cursor.mark.column s.count .blockMappingStart
    return { s.emitMark 1 .value with keyAllowed := !s.inFlow }

/-- An alias or an anchor. -/
def scanAnchor (s : Scanner) (make : String → Token) : Option Scanner := do
  let s ← s.notePending
  let (name, cursor) ← readAnchor (s.cursor.advance 1)
  return { s.emit (make name) with cursor, keyAllowed := false }

/-- A tag. -/
def scanTag (s : Scanner) : Option Scanner := do
  let s ← s.notePending
  let (token, cursor) ← readTag s.inFlow s.cursor
  return { s.emit token with cursor, keyAllowed := false }

/-- Appends the token for a scalar that was read. -/
def emitScalar (s : Scanner) (scalar : ScalarText) (plain keyAllowed : Bool) : Scanner :=
  { s.emit (.scalar (String.ofList scalar.text) plain) with cursor := scalar.cursor, keyAllowed }

/-- A block scalar. -/
def scanBlockScalar (s : Scanner) (folded : Bool) : Option Scanner := do
  let s ← s.dropPending
  let scalar ← readBlockScalar folded s.indent (s.cursor.advance 1)
  return s.emitScalar scalar false true

/-- A quoted scalar. -/
def scanQuoted (s : Scanner) (quote : Char) : Option Scanner := do
  let s ← s.notePending
  let inner := s.cursor.advance 1
  let scalar ← readQuoted quote inner.rest inner.mark .plain {}
  return s.emitScalar scalar false false

/-- A plain scalar. A key may start after a line break at its end. -/
def scanPlain (s : Scanner) : Option Scanner := do
  let s ← s.notePending
  let scalar ← readPlain ⟨s.inFlow, s.indent + 1⟩ s.cursor.rest s.cursor.mark {}
  return s.emitScalar scalar true scalar.pastBreak

/-- `c` cannot start a plain scalar. -/
def isIndicator (c : Char) : Bool :=
  isFlowMark c ||
    ['-', '?', ':', '#', '&', '*', '!', '|', '>', '\'', '"', '%', '@', '\x60'].contains c

/-- A plain scalar starts with `c`. Dashes, question marks and colons start one where they cannot be
marks. -/
def startsPlain (inFlow : Bool) (c : Char) (rest : List Char) : Bool :=
  !(isSpace c || isBreak c || isIndicator c)
    || (c == '-' && !(rest.head?.any isSpace))
    || (!inFlow && (c == '?' || c == ':') && !atGap rest)

/-- The token at the cursor. -/
def scanToken (s : Scanner) : Option Scanner :=
  let inFlow := s.inFlow
  let atColumn := s.cursor.mark.column
  match s.cursor.rest with
  | [] => s.scanEnd
  | c :: rest =>
    if atColumn == 0 && c == '%' then s.scanDirective
    else if atColumn == 0 && atDocumentMarker (c :: rest) then
      s.scanDocumentMarker (if c == '-' then .documentStart else .documentEnd)
    else if c == '[' then s.scanOpening .flowSequenceStart
    else if c == '\x7b' then s.scanOpening .flowMappingStart
    else if c == ']' then s.scanClosing .flowSequenceEnd
    else if c == '\x7d' then s.scanClosing .flowMappingEnd
    else if c == ',' then s.scanComma
    else if c == '-' && atGap rest then s.scanDash
    else if c == '?' && (inFlow || atGap rest) then s.scanQuestion
    else if c == ':' && (inFlow || atGap rest) then s.scanColon
    else if c == '*' then s.scanAnchor .alias
    else if c == '&' then s.scanAnchor .anchor
    else if c == '!' then s.scanTag
    else if c == '|' && !inFlow then s.scanBlockScalar false
    else if c == '>' && !inFlow then s.scanBlockScalar true
    else if c == '\'' || c == '"' then s.scanQuoted c
    else if startsPlain inFlow c rest then s.scanPlain
    else none

/-- So many characters must be there to tell what a token is, unless the text ends. -/
def lookahead : Nat := 4

/-- A token that needs so many characters cannot be told, because the text cannot be read there. -/
def lacks (s : Scanner) (count : Nat) : Bool :=
  s.truncated && (s.cursor.rest.drop (count - 1)).isEmpty

/-- Goes to the next token and scans it. -/
def step (s : Scanner) : Option Scanner := do
  let s ← s.skipToToken.dropStale
  if s.lacks lookahead then none
  let s ← (s.closeBlocks s.cursor.mark.column).scanToken
  if s.lacks 1 then none
  s.dropStale

/-- The tokens that are certain when the scan fails: those in front of the first node that could
still have become a key. -/
def certain (s : Scanner) : List Token :=
  let keys := (s.pending :: s.outerPending).filterMap id
  let sure := keys.foldl (fun n key => min n key.position) s.count
  s.tokens.reverse.take sure

/-- Scans up to so many tokens. -/
def run : Nat → Scanner → List Token
  | 0, s => s.certain
  | steps + 1, s =>
    match s.step with
    | none => s.certain
    | some s => if s.finished then s.tokens.reverse else run steps s

end Scanner

/-- The tokens of a text. If the text is malformed, they end without `textEnd`. Every step but the
last one passes over a character. -/
def scan (text : List Char) : List Token :=
  let readable? := readableCount text 0 0 0
  let text := text.take (readable?.getD text.length)
  Scanner.run (text.length + 1) { cursor := ⟨text, .zero⟩, truncated := readable?.isSome }

end DemoBuild.Yaml
