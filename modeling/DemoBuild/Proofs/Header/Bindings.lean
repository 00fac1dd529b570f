import DemoBuild.Header.Bindings
import DemoBuild.Proofs.Text.Lines
import Mathlib.Data.List.DropRight

/-!
# Bindings and the header they are taken from

How a line of the vendored header has to look is said here without the search that finds it: it
stands at the start of the header or behind a line break, begins as the definition of a constant or
of a function type begins, goes on for at least one character, and ends at a line break or with the
header. The search finds the line that starts furthest to the left. What is generated from the lines
it finds keeps one slot for every requested function: the copied line, the line that makes the name
stand for its slot and the entry in the array of names all speak of the same position, whatever is
missing in between.

## Main definitions

* `HeaderLine.Stands` and `HeaderLine.First`: a line of the asked shape, and the first one;
* `Bindings.DefinesConstant` and `Bindings.DeclaresFunction`: what a header has for a name;
* `Bindings.FunctionBlock`: the lines for the function of a slot.

## Main results

* `HeaderLine.find?_eq_some_iff` and `HeaderLine.find?_eq_none_iff`: what the search finds;
* `Bindings.typeLine?_eq_some_iff`: which line is copied for a function;
* `Bindings.ofHeader_aligned`: slots, names, copied lines and warnings agree at every position, and
  further requests do not move earlier ones.
-/

namespace DemoBuild

namespace HeaderLine

/-! ## Lines of a header -/

/-- How a line may begin. -/
abbrev Shape :=
  List Char → Prop

/-- The beginning of the line that defines a constant. -/
def ConstantHead (name : String) : Shape := fun head =>
  head = ("#define " ++ name ++ " ").toList

/-- The beginning of the line that defines a type of pointers to a function: the type that the
function gives back is not empty. -/
def FunctionTypeHead (typeName : String) : Shape := fun head =>
  ∃ result, result ≠ [] ∧ (∀ c ∈ result, isTypeChar c = true) ∧
    head = "typedef ".toList ++ result ++ ("(GLAPIENTRY * " ++ typeName ++ ")").toList

/-- The line begins as asked and goes on for at least one character, without a line break. -/
def Shaped (shape : Shape) (line : List Char) : Prop :=
  ∃ head rest, shape head ∧ rest ≠ [] ∧ '\n' ∉ rest ∧ line = head ++ rest

/-- A line starts behind this text; `atStart` says that the text itself starts a line. -/
def StartsLine (atStart : Bool) (before : List Char) : Prop :=
  before = [] ∧ atStart = true ∨ before.getLast? = some '\n'

/-- A line ends in front of this text. -/
def EndsLine (after : List Char) : Prop :=
  after = [] ∨ after.head? = some '\n'

/-- A line of the asked shape stands in a text. -/
structure Stands (shape : Shape) (atStart : Bool) (text before line after : List Char) : Prop where
  /-- The cut loses nothing. -/
  split : text = before ++ line ++ after
  /-- It starts where lines start. -/
  starts : StartsLine atStart before
  /-- It has the shape. -/
  shaped : Shaped shape line
  /-- It ends where lines end. -/
  ends : EndsLine after

/-- The first line of the asked shape stands in a text. -/
structure First (shape : Shape) (atStart : Bool) (text before line after : List Char) : Prop
    extends Stands shape atStart text before line after where
  /-- No line of the shape starts further to the left. -/
  leftmost : ∀ {before' line' after'}, Stands shape atStart text before' line' after' →
    before.length ≤ before'.length

/-- A line without the carriage returns at its end. -/
def trimmed (line : List Char) : List Char :=
  line.rdropWhile (· = '\r')

variable {shape : Shape} {start : Start}

/-- One character further on, a line starts behind the text if one starts behind its rest. -/
theorem startsLine_cons {atStart : Bool} {c : Char} {before : List Char} :
    StartsLine atStart (c :: before) ↔ StartsLine (c = '\n') before := by
  cases before <;> simp [StartsLine]

/-- One character further on, the same lines stand in the text. -/
theorem stands_cons {atStart : Bool} {c : Char} {text before line after : List Char} :
    Stands shape atStart (c :: text) (c :: before) line after ↔
      Stands shape (c = '\n') text before line after := by
  constructor
  · rintro ⟨hsplit, hstarts, hshaped, hends⟩
    exact ⟨by simpa using hsplit, startsLine_cons.mp hstarts, hshaped, hends⟩
  · rintro ⟨rfl, hstarts, hshaped, hends⟩
    exact ⟨rfl, startsLine_cons.mpr hstarts, hshaped, hends⟩

/-- A line of some shape is not empty. -/
theorem Shaped.ne_nil {line : List Char} (h : Shaped shape line) : line ≠ [] := by
  obtain ⟨head, rest, -, hrest, -, rfl⟩ := h
  simp [hrest]

/-! ## The line at the start of a text -/

/-- The start of a text is recognised if it is what the shape asks for. -/
def Recognizes (start : Start) (shape : Shape) : Prop :=
  ∀ text n, start text = some n ↔ ∃ head rest, shape head ∧ head.length = n ∧ text = head ++ rest

/-- The line that a text starts with. -/
def atStart? (start : Start) (text : List Char) : Option (List Char) :=
  (start text).bind fun length =>
    let rest := (text.drop length).takeWhile (· ≠ '\n')
    if rest = [] then none else some (text.take length ++ rest)

/-- The search looks at one position and goes on behind it. -/
theorem find?_cons (start : Start) (atStart : Bool) (c : Char) (text : List Char) :
    find? start atStart (c :: text) =
      match (if atStart then atStart? start (c :: text) else none) with
      | some line => some (trimmed line)
      | none => find? start (c = '\n') text := by
  rw [find?]
  rfl

/-- Up to the next line break, a text is the part in front of one. -/
theorem takeWhile_append_of_endsLine {rest after : List Char} (hrest : '\n' ∉ rest)
    (hends : EndsLine after) : (rest ++ after).takeWhile (· ≠ '\n') = rest := by
  have hall : ∀ c ∈ rest, decide (c ≠ '\n') = true := by
    intro c hc
    rw [decide_eq_true_eq]
    rintro rfl
    exact hrest hc
  refine Text.takeWhile_append hall fun c hc => ?_
  rcases hends with rfl | hends
  · simp at hc
  · obtain rfl : '\n' = c := by simpa [hends] using hc
    simp

/-- The line that a text starts with has the shape and ends where lines end. -/
theorem atStart?_eq_some_iff (h : Recognizes start shape) {text line : List Char} :
    atStart? start text = some line ↔
      Shaped shape line ∧ ∃ after, EndsLine after ∧ text = line ++ after := by
  constructor
  · intro hread
    obtain ⟨length, hlength, hline⟩ := Option.bind_eq_some_iff.mp hread
    obtain ⟨head, tail, hhead, rfl, rfl⟩ := (h text length).mp hlength
    obtain ⟨rest, after, rfl, hrest, hfree, hends⟩ :=
      Text.exists_takeWhile_append (· ≠ '\n') tail
    simp only [List.drop_left, List.take_left, hrest] at hline
    split at hline
    · simp at hline
    · next hne =>
      obtain rfl := Option.some.inj hline
      refine ⟨⟨head, rest, hhead, hne, fun hmem => by simpa using hfree _ hmem, rfl⟩, after, ?_,
        (List.append_assoc ..).symm⟩
      rcases after with _ | ⟨c, after⟩
      · exact .inl rfl
      · exact .inr (by simpa using hends c rfl)
  · rintro ⟨⟨head, rest, hhead, hrest, hfree, rfl⟩, after, hends, rfl⟩
    have hstart : start (head ++ rest ++ after) = some head.length :=
      (h _ _).mpr ⟨head, rest ++ after, hhead, rfl, List.append_assoc ..⟩
    rw [atStart?, hstart, Option.bind_some, List.append_assoc, List.drop_left, List.take_left,
      takeWhile_append_of_endsLine hfree hends, if_neg hrest]

/-! ## The first line -/

/-- The search finds the first line of the shape, or there is none. -/
theorem find?_spec (h : Recognizes start shape) (atStart : Bool) (text : List Char) :
    match find? start atStart text with
    | some found => ∃ before line after,
        First shape atStart text before line after ∧ found = trimmed line
    | none => ∀ before line after, ¬ Stands shape atStart text before line after := by
  induction text generalizing atStart with
  | nil =>
    rintro before line after ⟨hsplit, -, hshaped, -⟩
    have hnil : before = [] ∧ line = [] ∧ after = [] := by simpa [eq_comm] using hsplit
    exact hshaped.ne_nil hnil.2.1
  | cons c text ih =>
    rw [find?_cons]
    cases hread : (if atStart then atStart? start (c :: text) else none) with
    | some line =>
      obtain ⟨hstart, hline⟩ : atStart = true ∧ atStart? start (c :: text) = some line := by
        simpa using hread
      obtain ⟨hshaped, after, hends, hsplit⟩ := (atStart?_eq_some_iff h).mp hline
      exact ⟨[], line, after, ⟨⟨hsplit, .inl ⟨rfl, hstart⟩, hshaped, hends⟩, by simp⟩, rfl⟩
    | none =>
      -- No line of the shape starts the text, so all of them start behind `c`.
      have hbehind : ∀ {before line after}, Stands shape atStart (c :: text) before line after →
          ∃ before', before = c :: before' ∧ Stands shape (c = '\n') text before' line after := by
        intro before line after hstands
        cases before with
        | nil =>
          have hstart : atStart = true := by simpa [StartsLine] using hstands.starts
          have hline : atStart? start (c :: text) = some line :=
            (atStart?_eq_some_iff h).mpr ⟨hstands.shaped, after, hstands.ends, hstands.split⟩
          simp [hstart, hline] at hread
        | cons b before =>
          obtain rfl : c = b := by simpa using congrArg List.head? hstands.split
          exact ⟨before, rfl, stands_cons.mp hstands⟩
      have hrest := ih (c = '\n')
      change match find? start (c = '\n') text with
        | some found => _
        | none => _
      split at hrest
      · obtain ⟨before, line, after, hfirst, hfound⟩ := hrest
        refine ⟨c :: before, line, after, ⟨stands_cons.mpr hfirst.toStands, ?_⟩, hfound⟩
        intro before' line' after' hstands
        obtain ⟨before', rfl, hrest⟩ := hbehind hstands
        simpa using hfirst.leftmost hrest
      · intro before line after hstands
        obtain ⟨before', -, hstands⟩ := hbehind hstands
        exact hrest before' line after hstands

/-- A text has at most one first line of a shape that is recognised. -/
theorem First.unique (h : Recognizes start shape) {atStart : Bool}
    {text before line after before' line' after' : List Char}
    (hfirst : First shape atStart text before line after)
    (hfirst' : First shape atStart text before' line' after') :
    before = before' ∧ line = line' ∧ after = after' := by
  have hlength : before.length = before'.length :=
    Nat.le_antisymm (hfirst.leftmost hfirst'.toStands) (hfirst'.leftmost hfirst.toStands)
  have hsplit : before ++ (line ++ after) = before' ++ (line' ++ after') := by
    rw [← List.append_assoc, ← List.append_assoc, ← hfirst.split, ← hfirst'.split]
  obtain ⟨rfl, hrest⟩ := List.append_inj hsplit hlength
  have hline : some line = some line' := by
    rw [← (atStart?_eq_some_iff h).mpr ⟨hfirst.shaped, after, hfirst.ends, rfl⟩,
      ← (atStart?_eq_some_iff h).mpr ⟨hfirst'.shaped, after', hfirst'.ends, rfl⟩, hrest]
  obtain rfl := Option.some.inj hline
  exact ⟨rfl, rfl, List.append_cancel_left hrest⟩

/-- The search gives back the first line of the shape, trimmed. -/
theorem find?_eq_some_iff (h : Recognizes start shape) {atStart : Bool} {text found : List Char} :
    find? start atStart text = some found ↔
      ∃ before line after, First shape atStart text before line after ∧ found = trimmed line := by
  have hspec := find?_spec h atStart text
  constructor
  · intro hfound
    rwa [hfound] at hspec
  · rintro ⟨before, line, after, hfirst, rfl⟩
    split at hspec
    · next found heq =>
      obtain ⟨before', line', after', hfirst', rfl⟩ := hspec
      rw [heq, (hfirst.unique h hfirst').2.1]
    · exact absurd hfirst.toStands (hspec before line after)

/-- The search finds nothing in a text without a line of the shape only. -/
theorem find?_eq_none_iff (h : Recognizes start shape) {atStart : Bool} {text : List Char} :
    find? start atStart text = none ↔
      ¬ ∃ before line after, Stands shape atStart text before line after := by
  have hspec := find?_spec h atStart text
  split at hspec
  · next found heq =>
    obtain ⟨before, line, after, hfirst, -⟩ := hspec
    simp only [heq, reduceCtorEq, false_iff, not_not]
    exact ⟨before, line, after, hfirst.toStands⟩
  · next heq =>
    simp only [heq, true_iff]
    rintro ⟨before, line, after, hstands⟩
    exact hspec before line after hstands

/-! ## The two shapes -/

/-- The beginning of the definition of a constant is recognised. -/
theorem recognizes_constant (name : String) : Recognizes (constant name) (ConstantHead name) := by
  intro text n
  constructor
  · intro hread
    rw [constant, exactly] at hread
    split at hread
    case isFalse => simp at hread
    next hprefix =>
    obtain ⟨rest, rfl⟩ := List.isPrefixOf_iff_prefix.mp hprefix
    exact ⟨_, rest, rfl, Option.some.inj hread, rfl⟩
  · rintro ⟨head, rest, rfl, rfl, rfl⟩
    rw [constant, exactly, if_pos (List.isPrefixOf_iff_prefix.mpr (List.prefix_append _ _))]

/-- The name of a function type stands behind a bracket, which no result type holds. -/
theorem takeWhile_isTypeChar {result pointer : List Char}
    (hresult : ∀ c ∈ result, isTypeChar c = true) (hpointer : pointer.head? = some '(')
    (rest : List Char) : (result ++ (pointer ++ rest)).takeWhile isTypeChar = result := by
  refine Text.takeWhile_append hresult fun c hc => ?_
  have hbracket : c = '(' := by simpa [List.head?_append, hpointer, eq_comm] using hc
  rw [hbracket]
  decide

/-- The beginning of the definition of a function type is recognised. -/
theorem recognizes_functionType (typeName : String) :
    Recognizes (functionType typeName) (FunctionTypeHead typeName) := by
  intro text n
  have hbracket : ("(GLAPIENTRY * " ++ typeName ++ ")").toList.head? = some '(' := by simp
  simp only [functionType, FunctionTypeHead]
  generalize "typedef ".toList = keyword
  generalize ("(GLAPIENTRY * " ++ typeName ++ ")").toList = pointer at hbracket
  constructor
  · intro hread
    split at hread
    case isFalse => simp at hread
    next hkeyword =>
    obtain ⟨rest, rfl⟩ := List.isPrefixOf_iff_prefix.mp hkeyword
    obtain ⟨result, tail, rfl, htake, hresult, -⟩ := Text.exists_takeWhile_append isTypeChar rest
    simp only [List.drop_left, ← List.drop_drop, htake] at hread
    split at hread
    case isFalse => simp at hread
    next hpointer =>
    rw [Bool.and_eq_true, decide_eq_true_eq, List.isPrefixOf_iff_prefix] at hpointer
    obtain ⟨hne, rest, rfl⟩ := hpointer
    refine ⟨_, rest, ⟨result, hne, hresult, rfl⟩, ?_, by simp⟩
    rw [← Option.some.inj hread, List.length_append, List.length_append]
  · rintro ⟨head, rest, ⟨result, hne, hresult, rfl⟩, rfl, rfl⟩
    simp only [List.append_assoc, List.drop_left, ← List.drop_drop,
      takeWhile_isTypeChar hresult hbracket]
    rw [if_pos (List.isPrefixOf_iff_prefix.mpr (List.prefix_append _ _)), if_pos]
    · simp [Nat.add_assoc]
    · simp [hne]

end HeaderLine

/-! ## What a header has for a name -/

namespace Bindings

open HeaderLine

/-- A line of the shape stands in the header. -/
def Has (header : String) (shape : Shape) : Prop :=
  ∃ before line after, Stands shape true header.toList before line after

/-- The first line of the shape, without carriage returns at its end. -/
def Copies (header : String) (shape : Shape) (line : String) : Prop :=
  ∃ before found after, First shape true header.toList before found after ∧
    line = String.ofList (trimmed found)

/-- The header defines the constant. -/
def DefinesConstant (header name : String) : Prop :=
  Has header (ConstantHead name)

/-- The header defines the type of pointers to the function. -/
def DeclaresFunction (header name : String) : Prop :=
  Has header (FunctionTypeHead (pointerType name))

section

variable {header name : String} {shape : Shape} {start : Start}

/-- The line that is copied from a header is the first one of the shape. -/
theorem headerLine?_eq_some_iff (h : Recognizes start shape) {line : String} :
    headerLine? header start = some line ↔ Copies header shape line := by
  rw [headerLine?, Option.map_eq_some_iff]
  constructor
  · rintro ⟨found, hfound, rfl⟩
    obtain ⟨before, line, after, hfirst, rfl⟩ := (find?_eq_some_iff h).mp hfound
    exact ⟨before, line, after, hfirst, rfl⟩
  · rintro ⟨before, found, after, hfirst, rfl⟩
    exact ⟨_, (find?_eq_some_iff h).mpr ⟨before, found, after, hfirst, rfl⟩, rfl⟩

/-- A line is copied from a header that has one of the shape. -/
theorem isSome_headerLine?_iff (h : Recognizes start shape) :
    (headerLine? header start).isSome = true ↔ Has header shape := by
  rw [headerLine?, Option.isSome_map, Option.isSome_iff_ne_none, Ne, find?_eq_none_iff h, not_not]
  rfl

/-- The line that is copied for a constant. -/
theorem constantLine?_eq_some_iff {line : String} :
    constantLine? header name = some line ↔ Copies header (ConstantHead name) line :=
  headerLine?_eq_some_iff (recognizes_constant name)

/-- The line that is copied for a function. -/
theorem typeLine?_eq_some_iff {line : String} :
    typeLine? header name = some line ↔ Copies header (FunctionTypeHead (pointerType name)) line :=
  headerLine?_eq_some_iff (recognizes_functionType (pointerType name))

/-- A line is copied for the constants that the header defines. -/
theorem isSome_constantLine?_iff :
    (constantLine? header name).isSome = true ↔ DefinesConstant header name :=
  isSome_headerLine?_iff (recognizes_constant name)

/-- A line is copied for the functions that the header declares. -/
theorem isSome_typeLine?_iff :
    (typeLine? header name).isSome = true ↔ DeclaresFunction header name :=
  isSome_headerLine?_iff (recognizes_functionType (pointerType name))

instance : Decidable (DefinesConstant header name) :=
  decidable_of_iff _ isSome_constantLine?_iff

instance : Decidable (DeclaresFunction header name) :=
  decidable_of_iff _ isSome_typeLine?_iff

end

/-! ## One slot for every function -/

/-- The lines for the function of a slot: what is copied from the header and, directly behind it,
the line that makes the name stand for the slot. There are none if the header does not declare the
function. -/
def FunctionBlock (header function : String) (index : Nat) (block : List String) : Prop :=
  if DeclaresFunction header function then
    ∃ line, Copies header (FunctionTypeHead (pointerType function)) line ∧
      block = [line, "#define " ++ function ++ " ((" ++ pointerType function ++
        ")glExtFunctions[" ++ Number.natText index ++ "])"]
  else block = []

/-- Slots, names, copied lines and warnings agree at every position. -/
structure Aligned (header : String) (constants functions : List String) (b : Bindings) :
    Prop where
  /-- There are as many slots as requested functions. -/
  size : b.table.size = functions.length
  /-- A slot holds the function that was requested there if the header declares it, and is empty
  otherwise. -/
  slot : ∀ (i : Nat) (name : String), b.table.slot? i = some name ↔
    functions[i]? = some name ∧ DeclaresFunction header name
  /-- There are as many entries in the array of names as requested functions. -/
  names : b.table.initializers.length = functions.length
  /-- An entry of the array is the quoted name or zero accordingly. -/
  entry : ∀ (i : Nat) (name : String), functions[i]? = some name → b.table.initializers[i]? =
    some (if DeclaresFunction header name then "\"" ++ name ++ "\"" else "0")
  /-- Behind the copied constants, the text has one block for every slot, then the number of slots
  and the array of names. -/
  text : ∃ (copied : List String) (blocks : List (List String)),
    List.Forall₂ (fun name line => Copies header (ConstantHead name) line)
      (constants.filter (DefinesConstant header ·)) copied ∧
    blocks.length = functions.length ∧
    (∀ (i : Nat) (name : String), functions[i]? = some name →
      ∃ block, blocks[i]? = some block ∧ FunctionBlock header name i block) ∧
    b.text = "\n".intercalate (preamble ++ copied ++ blocks.flatten ++
      ["#define GL_EXT_FUNCTION_COUNT " ++ Number.natText functions.length,
        "static const char *glExtFunctionNames[GL_EXT_FUNCTION_COUNT] = \x7b ",
        ",\n".intercalate b.table.initializers, " \x7d;",
        "static void *glExtFunctions[GL_EXT_FUNCTION_COUNT];", ""])
  /-- What is missing is what the header does not have, constants first, in the order of the
  requests. -/
  missing : b.missing =
    (constants.filter (¬ DefinesConstant header ·)).map (⟨.constant, ·⟩) ++
      (functions.filter (¬ DeclaresFunction header ·)).map (⟨.function, ·⟩)

/-! ### From any search -/

section

variable {search search' : SymbolSearch} {constants functions : List String}

/-- A slot holds the function that is requested at its position, if there is a line for it. -/
theorem slot?_ofSearch_eq_some_iff {i : Nat} {name : String} :
    (ofSearch search constants functions).table.slot? i = some name ↔
      functions[i]? = some name ∧ (search .function name).isSome = true := by
  have hslots : (ofSearch search constants functions).table.slots =
      functions.map (slotOf search) := rfl
  rw [BindingTable.slot?, hslots, List.getElem?_map]
  cases functions[i]? with
  | none => simp
  | some f =>
    rw [Option.map_some, Option.join_some, slotOf, Option.some.injEq]
    constructor
    · intro hslot
      obtain ⟨line, hline, rfl⟩ := Option.map_eq_some_iff.mp hslot
      exact ⟨rfl, by rw [hline, Option.isSome_some]⟩
    · rintro ⟨rfl, hsome⟩
      obtain ⟨line, hline⟩ := Option.isSome_iff_exists.mp hsome
      rw [hline, Option.map_some]

/-- What is missing is what there is no line for. -/
theorem mem_missing_ofSearch_iff {m : MissingSymbol} :
    m ∈ (ofSearch search constants functions).missing ↔
      search m.kind m.name = none ∧
        match m.kind with
        | .constant => m.name ∈ constants
        | .function => m.name ∈ functions := by
  obtain ⟨kind, name⟩ := m
  cases kind <;> simp [ofSearch, and_comm]

/-- What is taken depends on the lines for the requested symbols only. -/
theorem ofSearch_congr
    (hconstant : ∀ name ∈ constants, search' .constant name = search .constant name)
    (hfunction : ∀ name ∈ functions, search' .function name = search .function name) :
    ofSearch search' constants functions = ofSearch search constants functions := by
  have hslots : functions.map (slotOf search') = functions.map (slotOf search) :=
    List.map_congr_left fun name hname => by rw [slotOf, slotOf, hfunction name hname]
  have hcopied : constants.filterMap (search' .constant) = constants.filterMap (search .constant) :=
    List.filterMap_congr hconstant
  have hblocks : functions.zipIdx.flatMap (functionLines search') =
      functions.zipIdx.flatMap (functionLines search) :=
    List.flatMap_congr fun function h => by
      rw [functionLines, functionLines, hfunction _ (List.fst_mem_of_mem_zipIdx h)]
  have hconstants : (constants.filter fun name => (search' .constant name).isNone) =
      constants.filter fun name => (search .constant name).isNone :=
    List.filter_congr fun name hname => by rw [hconstant name hname]
  have hfunctions : (functions.filter fun name => (search' .function name).isNone) =
      functions.filter fun name => (search .function name).isNone :=
    List.filter_congr fun name hname => by rw [hfunction name hname]
  simp only [ofSearch, hslots, hcopied, hblocks, hconstants, hfunctions]

end

/-! ### From a header -/

variable {header : String} {constants functions : List String}

@[simp]
theorem searchOf_constant (header : String) : searchOf header .constant = constantLine? header :=
  rfl

@[simp]
theorem searchOf_function (header : String) : searchOf header .function = typeLine? header :=
  rfl

/-- The slot of a function holds its name if the header declares it. -/
theorem slotOf_eq_ite (header name : String) :
    slotOf (searchOf header) name = if DeclaresFunction header name then some name else none := by
  split
  · next h =>
    obtain ⟨line, hline⟩ := Option.isSome_iff_exists.mp (isSome_typeLine?_iff.mpr h)
    rw [slotOf, searchOf_function, hline, Option.map_some]
  · next h =>
    rw [slotOf, searchOf_function, Option.map_eq_none_iff, ← Option.not_isSome_iff_eq_none,
      isSome_typeLine?_iff]
    exact h

/-- The slots of the table are those of the functions. -/
@[simp]
theorem slots_ofHeader (header : String) (constants functions : List String) :
    (ofHeader header constants functions).table.slots = functions.map (slotOf (searchOf header)) :=
  rfl

/-- A slot of the table. -/
theorem slot?_ofHeader_eq_some_iff {i : Nat} {name : String} :
    (ofHeader header constants functions).table.slot? i = some name ↔
      functions[i]? = some name ∧ DeclaresFunction header name := by
  rw [ofHeader, slot?_ofSearch_eq_some_iff, searchOf_function, isSome_typeLine?_iff]

/-- An entry of the array of names. -/
theorem initializers_ofHeader {i : Nat} {name : String} (h : functions[i]? = some name) :
    (ofHeader header constants functions).table.initializers[i]? =
      some (if DeclaresFunction header name then "\"" ++ name ++ "\"" else "0") := by
  rw [BindingTable.initializers, slots_ofHeader, List.getElem?_map, List.getElem?_map, h,
    Option.map_some, Option.map_some, slotOf_eq_ite]
  split <;> rfl

/-- The lines for the function of a slot. -/
theorem functionBlock_functionLines (header name : String) (i : Nat) :
    FunctionBlock header name i (functionLines (searchOf header) (name, i)) := by
  rw [FunctionBlock]
  split
  · next h =>
    obtain ⟨line, hline⟩ := Option.isSome_iff_exists.mp (isSome_typeLine?_iff.mpr h)
    refine ⟨line, typeLine?_eq_some_iff.mp hline, ?_⟩
    rw [functionLines, searchOf_function, hline]
    rfl
  · next h =>
    rw [← isSome_typeLine?_iff, Option.not_isSome_iff_eq_none] at h
    rw [functionLines, searchOf_function, h]

/-- A line is copied for every constant that the header defines, in order. -/
theorem forall₂_constantLine? (header : String) (constants : List String) :
    List.Forall₂ (fun name line => Copies header (ConstantHead name) line)
      (constants.filter (DefinesConstant header ·))
      (constants.filterMap (constantLine? header)) := by
  induction constants with
  | nil => exact .nil
  | cons name constants ih =>
    by_cases h : DefinesConstant header name
    · obtain ⟨line, hline⟩ := Option.isSome_iff_exists.mp (isSome_constantLine?_iff.mpr h)
      rw [List.filter_cons_of_pos (by simpa using h), List.filterMap_cons_some hline]
      exact .cons (constantLine?_eq_some_iff.mp hline) ih
    · have hline := h
      rw [← isSome_constantLine?_iff, Option.not_isSome_iff_eq_none] at hline
      rw [List.filter_cons_of_neg (by simpa using h), List.filterMap_cons_none hline]
      exact ih

/-- The text of the bindings by blocks. -/
theorem text_ofHeader (header : String) (constants functions : List String) :
    (ofHeader header constants functions).text = "\n".intercalate (preamble ++
      constants.filterMap (constantLine? header) ++
      (functions.zipIdx.map (functionLines (searchOf header))).flatten ++
      tableLines (ofHeader header constants functions).table) := by
  rw [ofHeader, ofSearch, searchOf_constant, List.flatMap_def]

/-- What is missing is what the header does not have. -/
theorem missing_ofHeader (header : String) (constants functions : List String) :
    (ofHeader header constants functions).missing =
      (constants.filter (¬ DefinesConstant header ·)).map (⟨.constant, ·⟩) ++
        (functions.filter (¬ DeclaresFunction header ·)).map (⟨.function, ·⟩) := by
  have hconstant (name : String) :
      (constantLine? header name).isNone = decide (¬ DefinesConstant header name) := by
    rw [Bool.eq_iff_iff]
    simp [← isSome_constantLine?_iff]
  have hfunction (name : String) :
      (typeLine? header name).isNone = decide (¬ DeclaresFunction header name) := by
    rw [Bool.eq_iff_iff]
    simp [← isSome_typeLine?_iff]
  simp only [ofHeader, ofSearch, searchOf_constant, searchOf_function, hconstant, hfunction]

/-- For every header and all requests, slots, names, copied lines and warnings agree at every
position; further requests get slots behind the earlier ones, which stay where they are. -/
theorem ofHeader_aligned (header : String) (constants functions : List String) :
    Aligned header constants functions (ofHeader header constants functions) ∧
      ∀ more, (ofHeader header constants (functions ++ more)).table.slots =
          (ofHeader header constants functions).table.slots ++
            (ofHeader header constants more).table.slots ∧
        ∀ i < functions.length, (ofHeader header constants (functions ++ more)).table.slot? i =
          (ofHeader header constants functions).table.slot? i := by
  refine ⟨⟨?_, fun i name => slot?_ofHeader_eq_some_iff, ?_, fun i name => initializers_ofHeader,
    ?_, missing_ofHeader ..⟩, fun more => ⟨?_, fun i hi => ?_⟩⟩
  · simp [BindingTable.size]
  · simp [BindingTable.initializers]
  · refine ⟨_, functions.zipIdx.map (functionLines (searchOf header)),
      forall₂_constantLine? header constants, by simp,
      fun i name hname => ⟨functionLines (searchOf header) (name, i), ?_,
        functionBlock_functionLines header name i⟩, ?_⟩
    · simp [hname]
    · rw [text_ofHeader, tableLines]
      simp [BindingTable.size]
  · simp
  · have hslots : i < (functions.map (slotOf (searchOf header))).length := by simpa using hi
    simp only [BindingTable.slot?, slots_ofHeader, List.map_append,
      List.getElem?_append_left hslots]

/-- A function that is missing keeps its slot. -/
example :
    (ofHeader ("typedef void (GLAPIENTRY * PFNAPROC) (void);\n" ++
      "typedef void (GLAPIENTRY * PFNCPROC) (int x);\n") [] ["a", "b", "c"]).table.initializers =
        ["\"a\"", "0", "\"c\""] := by
  decide +kernel

end Bindings

end DemoBuild
