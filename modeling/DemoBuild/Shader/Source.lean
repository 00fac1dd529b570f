/-!
# Sectioned source text

Assembled shader code consists of sections. A marker line stands between two sections, and a section
may have a title in a comment.
-/

namespace DemoBuild

/-- Source text that is being put together, line by line; a line may itself hold line breaks. -/
structure Source where
  /-- The lines. -/
  lines : List String
  deriving DecidableEq, Repr

namespace Source

/-- The line between two sections. -/
def separator : String :=
  "#pragma separator"

/-- No text. -/
def empty : Source :=
  ⟨[]⟩

/-- Appends text without a section of its own. -/
def raw (s : Source) (text : String) : Source :=
  ⟨s.lines ++ [text]⟩

/-- The lines of a section, after a separator unless it is the first. -/
def sectionLines (first : Bool) (title : Option String) (body : String) : List String :=
  (if first then [] else ["", separator]) ++ (title.map ("// " ++ ·)).toList ++ ["", body]

/-- Appends a section. -/
def append (s : Source) (title : Option String) (body : String) : Source :=
  ⟨s.lines ++ sectionLines s.lines.isEmpty title body⟩

/-- Nothing has been appended. -/
def isEmpty (s : Source) : Bool :=
  s.lines.isEmpty

/-- The text. -/
def render (s : Source) : String :=
  "\n".intercalate s.lines

end Source

end DemoBuild
