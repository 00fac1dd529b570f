/-!
# String literals

A text becomes adjacent C string literals, one on each line. Each holds at most `chunkSize`
characters of the text; quotes, backslashes, tabs and the ends of lines are escaped.
-/

namespace DemoBuild.StringLiteral

/-- The most characters of a text that one literal holds. -/
def chunkSize : Nat := 64

/-- A character as it is written in a literal. -/
def escapeChar (c : Char) : List Char :=
  if c = '\\' then ['\\', '\\']
  else if c = '\n' then ['\\', 'n']
  else if c = '\r' then ['\\', 'r']
  else if c = '\t' then ['\\', 't']
  else if c = '"' then ['\\', '"']
  else [c]

/-- A text as it is written in a literal. -/
def escape (text : List Char) : List Char :=
  text.flatMap escapeChar

/-- One literal. -/
def quote (text : List Char) : List Char :=
  '"' :: escape text ++ ['"']

/-- Cuts a list into pieces of `size` elements; the last one may be shorter. -/
def chunks {α : Type} (size : Nat) (l : List α) : List (List α) :=
  if _h : l = [] ∨ size = 0 then []
  else l.take size :: chunks size (l.drop size)
  termination_by l.length
  decreasing_by
    simp only [not_or] at _h
    have := List.length_pos_iff.2 _h.1
    simp only [List.length_drop]
    omega

/-- The literals of a text; the empty text has one. -/
def lines (text : List Char) : List (List Char) :=
  if text = [] then [quote []] else (chunks chunkSize text).map quote

/-- A text escaped as for a literal. -/
def escapeText (text : String) : String :=
  String.ofList (escape text.toList)

/-- The literals of a text, one on each line. -/
def render (text : String) : String :=
  String.ofList (['\n'].intercalate (lines text.toList))

end DemoBuild.StringLiteral
