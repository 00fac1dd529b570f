import DemoBuild.Number.Text
import DemoBuild.Text.Uppercase
import DemoBuild.Text.Word

/-!
# OpenGL bindings

The constants and function types that a demo uses are copied from a vendored header. Functions get a
slot in a table of pointers that is filled while the demo starts; a function that the header does
not declare keeps its slot, which stays empty.
-/

namespace DemoBuild

/-! ## Mining a header -/

namespace HeaderLine

/-- The part of a text that the start of a line has to be, and the length of it. -/
abbrev Start :=
  List Char → Option Nat

/-- The first line of a header that starts as asked and goes on for at least one character, without
carriage returns at its end. `atStart` says that the text starts a line. -/
def find? (start : Start) (atStart : Bool) : List Char → Option (List Char)
  | [] => none
  | c :: text =>
    let found :=
      if atStart then
        (start (c :: text)).bind fun length =>
          let rest := ((c :: text).drop length).takeWhile (· ≠ '\n')
          if rest = [] then none else some ((c :: text).take length ++ rest)
      else none
    match found with
    | some line => some (line.reverse.dropWhile (· = '\r')).reverse
    | none => find? start (c = '\n') text

/-- The line starts with exactly this text. -/
def exactly (text : List Char) : Start := fun line =>
  if text.isPrefixOf line then some text.length else none

/-- `c` may stand in the type that a function gives back. -/
def isTypeChar (c : Char) : Bool :=
  Text.isWord c || c == ' ' || c == '*'

/-- The line defines a constant. -/
def constant (name : String) : Start :=
  exactly ("#define " ++ name ++ " ").toList

/-- The line defines the type of pointers to a function. -/
def functionType (typeName : String) : Start := fun line =>
  let keyword := "typedef ".toList
  let pointer := ("(GLAPIENTRY * " ++ typeName ++ ")").toList
  if keyword.isPrefixOf line then
    let result := (line.drop keyword.length).takeWhile isTypeChar
    let before := keyword.length + result.length
    if result ≠ [] && pointer.isPrefixOf (line.drop before) then some (before + pointer.length)
    else none
  else none

end HeaderLine

/-- The line of a header that starts as asked. -/
def headerLine? (header : String) (start : HeaderLine.Start) : Option String :=
  (HeaderLine.find? start true header.toList).map String.ofList

/-- The name of the type of pointers to a function. -/
def pointerType (function : String) : String :=
  "PFN" ++ Text.upperAscii function ++ "PROC"

/-! ## Bindings -/

/-- The kinds of symbols that can be asked for. -/
inductive SymbolKind where
  /-- A constant. -/
  | constant
  /-- A function. -/
  | function
  deriving DecidableEq, Repr

/-- The name of the kind. -/
def SymbolKind.name : SymbolKind → String
  | .constant => "constant"
  | .function => "function"

/-- A search for symbols: the line that is copied for a symbol, if there is one. -/
abbrev SymbolSearch :=
  SymbolKind → String → Option String

/-- The symbols that cannot be searched for, each with the reason: a pattern that is too large is
refused before the search begins. -/
abbrev Refusals :=
  SymbolKind → String → Option String

/-- The search that is made for symbols that are not refused only. -/
def SymbolSearch.except (search : SymbolSearch) (refusals : Refusals) : SymbolSearch :=
  fun kind name => if (refusals kind name).isSome then none else search kind name

/-- A symbol that the header does not declare. -/
structure MissingSymbol where
  /-- Its kind. -/
  kind : SymbolKind
  /-- Its name. -/
  name : String
  deriving DecidableEq, Repr

/-- The warning about a symbol that is missing. -/
def MissingSymbol.message (m : MissingSymbol) : String :=
  "OpenGL " ++ m.kind.name ++ " " ++ m.name ++ " does not seem to exist."

/-- The functions by slot; the slot of a function that is missing is empty. -/
structure BindingTable where
  /-- The slots. -/
  slots : List (Option String)
  deriving DecidableEq, Repr

namespace BindingTable

/-- The number of slots. -/
def size (t : BindingTable) : Nat :=
  t.slots.length

/-- The function in a slot. -/
def slot? (t : BindingTable) (index : Nat) : Option String :=
  (t.slots[index]?).join

/-- The first slot of a function. -/
def indexOf? (t : BindingTable) (name : String) : Option Nat :=
  t.slots.findIdx? (· == some name)

/-- The entry of a slot in the array of names. -/
def initializer : Option String → String
  | some name => "\"" ++ name ++ "\""
  | none => "0"

/-- The entries of the array of names. -/
def initializers (t : BindingTable) : List String :=
  t.slots.map initializer

end BindingTable

/-- The bindings for requested symbols. -/
structure Bindings where
  /-- The text of the generated header. -/
  text : String
  /-- The slots. -/
  table : BindingTable
  /-- The symbols that are missing: constants, then functions. -/
  missing : List MissingSymbol
  deriving DecidableEq, Repr

namespace Bindings

/-- The lines at the start of the generated header. -/
def preamble : List String :=
  ["#pragma once", "", "#include <GL/gl.h>", "", "#define GLAPIENTRY __stdcall",
    "typedef char GLchar;", "typedef ptrdiff_t GLintptr;", "typedef ptrdiff_t GLsizeiptr;",
    "typedef void (APIENTRY * GLDEBUGPROC)(GLenum source, GLenum type, GLuint id, " ++
      "GLenum severity, GLsizei length,const GLchar * message,const void * userParam);",
    ""]

/-- The line that defines a constant. -/
def constantLine? (header name : String) : Option String :=
  headerLine? header (HeaderLine.constant name)

/-- The line that defines the type of pointers to a function. -/
def typeLine? (header name : String) : Option String :=
  headerLine? header (HeaderLine.functionType (pointerType name))

/-- The line that makes the name of a function stand for its slot. -/
def slotLine (name : String) (index : Nat) : String :=
  "#define " ++ name ++ " ((" ++ pointerType name ++ ")glExtFunctions[" ++
    Number.natText index ++ "])"

/-- The search of a header. -/
def searchOf (header : String) : SymbolSearch
  | .constant, name => constantLine? header name
  | .function, name => typeLine? header name

/-- The slot of a function. -/
def slotOf (search : SymbolSearch) (name : String) : Option String :=
  (search .function name).map fun _ => name

/-- The lines for the function of a slot. -/
def functionLines (search : SymbolSearch) (function : String × Nat) : List String :=
  match search .function function.1 with
  | some line => [line, slotLine function.1 function.2]
  | none => []

/-- The lines at the end of the generated header. -/
def tableLines (t : BindingTable) : List String :=
  ["#define GL_EXT_FUNCTION_COUNT " ++ Number.natText t.size,
    "static const char *glExtFunctionNames[GL_EXT_FUNCTION_COUNT] = \x7b ",
    ",\n".intercalate t.initializers, " \x7d;",
    "static void *glExtFunctions[GL_EXT_FUNCTION_COUNT];", ""]

/-- Takes the requested symbols from what a search finds. -/
def ofSearch (search : SymbolSearch) (constants functions : List String) : Bindings :=
  let table : BindingTable := ⟨functions.map (slotOf search)⟩
  let lines := preamble ++ constants.filterMap (search .constant) ++
    functions.zipIdx.flatMap (functionLines search) ++ tableLines table
  { text := "\n".intercalate lines
    table
    missing :=
      (constants.filter fun name => (search .constant name).isNone).map (⟨.constant, ·⟩) ++
        (functions.filter fun name => (search .function name).isNone).map (⟨.function, ·⟩) }

/-- Takes the requested symbols from a header. -/
def ofHeader (header : String) (constants functions : List String) : Bindings :=
  ofSearch (searchOf header) constants functions

end Bindings

end DemoBuild
