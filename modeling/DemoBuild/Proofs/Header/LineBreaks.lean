import DemoBuild.Proofs.Header.Mining
import DemoBuild.Proofs.Number.Text

/-!
# Bindings and the line breaks of their header

A header may end its lines with line breaks alone or with a carriage return in front of each. The
search for a definition is a search through the lines of the header, one after the other. With
carriage returns, a line has the asked shape if it had it before, and also if it is a beginning with
nothing behind it: the carriage return is then what it goes on for. Both headers give the same
bindings if and only if no line of this kind is found in front of the definitions of the requests.

## Main definitions

* `Text.withReturns`: a text with a carriage return in front of every line break;
* `HeaderLine.BareFirst`: a beginning with nothing behind it comes before all lines of the shape.

## Main results

* `Text.lines_withReturns`: the lines of such a text;
* `HeaderLine.find?_eq_find?_lines`: the search goes through the lines;
* `headerLine?_withReturns_eq_iff`: when the same line is copied from both headers;
* `Bindings.ofHeader_withReturns_eq_iff`: when both headers give the same bindings.
-/

namespace DemoBuild

/-! ## Carriage returns -/

namespace Text

/-- The text with a carriage return in front of every line break. -/
def withReturns (text : String) : String :=
  String.ofList (text.toList.flatMap fun c => if c = '\n' then ['\r', '\n'] else [c])

/-- Neither line breaks nor carriage returns stand in a text. -/
def Unbroken (text : List Char) : Prop :=
  '\n' ∉ text ∧ '\r' ∉ text

instance (text : List Char) : Decidable (Unbroken text) :=
  inferInstanceAs (Decidable (_ ∧ _))

/-- The lines with a carriage return at the end of each that a line break ends: the last one stays
as it is. -/
def returned : List (List Char) → List (List Char)
  | [] => []
  | [line] => [line]
  | line :: next :: lines => (line ++ ['\r']) :: returned (next :: lines)

@[simp]
theorem unbroken_append {a b : List Char} : Unbroken (a ++ b) ↔ Unbroken a ∧ Unbroken b := by
  simp only [Unbroken, List.mem_append, not_or]
  tauto

/-- No line break gets into the lines. -/
theorem newline_not_mem_of_mem_returned {lines : List (List Char)}
    (hlines : ∀ line ∈ lines, '\n' ∉ line) {line : List Char} (hline : line ∈ returned lines) :
    '\n' ∉ line := by
  induction lines using returned.induct with
  | case1 => simp [returned] at hline
  | case2 only => exact hlines line (by simpa [returned] using hline)
  | case3 first next lines ih =>
    rw [returned, List.mem_cons] at hline
    rcases hline with rfl | hrest
    · simp [hlines first List.mem_cons_self]
    · exact ih (fun l hl => hlines l (List.mem_cons_of_mem _ hl)) hrest

/-- Carriage returns in front of the line breaks of a text stand at the ends of its lines. -/
theorem flatMap_intercalate_newline {lines : List (List Char)}
    (hlines : ∀ line ∈ lines, '\n' ∉ line) :
    (['\n'].intercalate lines).flatMap (fun c => if c = '\n' then ['\r', '\n'] else [c]) =
      ['\n'].intercalate (returned lines) := by
  -- Inside of a line nothing is put in.
  have hkeep {line : List Char} (hline : '\n' ∉ line) :
      line.flatMap (fun c => if c = '\n' then ['\r', '\n'] else [c]) = line := by
    rw [List.flatMap_congr fun c hc => if_neg (ne_of_mem_of_not_mem hc hline),
      List.flatMap_singleton']
  induction lines using returned.induct with
  | case1 => simp [returned]
  | case2 line => simpa [returned] using hkeep (hlines line List.mem_cons_self)
  | case3 line next lines ih =>
    have hrest := ih fun l hl => hlines l (List.mem_cons_of_mem _ hl)
    -- Lines follow on both sides, so both texts are cut behind the first one.
    obtain ⟨first, others, hcons⟩ : ∃ first others, returned (next :: lines) = first :: others := by
      cases lines <;> simp [returned]
    rw [returned, hcons, List.intercalate_cons_cons, List.intercalate_cons_cons, ← hcons,
      List.flatMap_append, List.flatMap_append, hkeep (hlines line List.mem_cons_self), hrest]
    simp

/-- The lines of a text with carriage returns in front of its line breaks. -/
theorem lines_withReturns (text : String) : lines (withReturns text) = returned (lines text) := by
  have hfree : ∀ line ∈ lines text, '\n' ∉ line := fun _ => not_mem_of_mem_splitOn
  have hne : returned (lines text) ≠ [] := by
    have hlines : lines text ≠ [] := List.splitOn_ne_nil '\n' text.toList
    match lines text, hlines with
    | [_], _ => simp [returned]
    | _ :: _ :: _, _ => simp [returned]
  rw [withReturns, ← intercalate_lines text, flatMap_intercalate_newline hfree, lines,
    String.toList_ofList,
    List.splitOn_intercalate '\n' (fun _ => newline_not_mem_of_mem_returned hfree) hne]

end Text

/-! ## The search goes through the lines -/

namespace HeaderLine

variable {shape : Shape} {start : Start} {line after : List Char}

/-- The beginnings of a shape stand on one line. -/
def OnOneLine (shape : Shape) : Prop :=
  ∀ head, shape head → Text.Unbroken head

/-- A line of such a shape is one line. -/
theorem Shaped.newline_not_mem (hshape : OnOneLine shape) (h : Shaped shape line) :
    '\n' ∉ line := by
  obtain ⟨head, rest, hhead, -, hfree, rfl⟩ := h
  rw [List.mem_append, not_or]
  exact ⟨(hshape head hhead).1, hfree⟩

/-- Where a line starts, the search looks at this line and goes on behind its first character. -/
theorem find?_true (start : Start) (text : List Char) :
    find? start true text =
      match atStart? start text with
      | some line => some (trimmed line)
      | none => find? start false text := by
  cases text with
  | nil =>
    have hnone : atStart? start [] = none := by
      cases hstart : start [] <;> simp [atStart?, hstart]
    rw [hnone]
    rfl
  | cons c text =>
    rw [find?_cons, find?_cons, if_pos rfl]
    rfl

/-- Inside of a line, the search goes on behind it. -/
theorem find?_false_append (start : Start) (hline : '\n' ∉ line) (after : List Char) :
    find? start false (line ++ after) = find? start false after := by
  induction line with
  | nil => rfl
  | cons c line ih =>
    rw [List.mem_cons, not_or] at hline
    simp [find?_cons, Ne.symm hline.1, ih hline.2]

section

variable [DecidablePred (Shaped shape)]

/-- What the search finds where a line starts is this whole line. -/
theorem atStart?_append (h : Recognizes start shape) (hshape : OnOneLine shape)
    (hline : '\n' ∉ line) (hafter : EndsLine after) :
    atStart? start (line ++ after) = if Shaped shape line then some line else none := by
  split
  · next hshaped => exact (atStart?_eq_some_iff h).mpr ⟨hshaped, after, hafter, rfl⟩
  · next hshaped =>
    rw [Option.eq_none_iff_forall_ne_some]
    intro found hfound
    obtain ⟨hfoundShaped, after', hafter', hsplit⟩ := (atStart?_eq_some_iff h).mp hfound
    -- Both lines are the text up to its first line break.
    obtain rfl : line = found := by
      rw [← takeWhile_append_of_endsLine hline hafter, hsplit,
        takeWhile_append_of_endsLine (hfoundShaped.newline_not_mem hshape) hafter']
    exact hshaped hfoundShaped

/-- The search takes the first line of a text, or goes on behind it. -/
theorem find?_line (h : Recognizes start shape) (hshape : OnOneLine shape) (hline : '\n' ∉ line)
    (hafter : EndsLine after) :
    find? start true (line ++ after) =
      if Shaped shape line then some (trimmed line) else find? start false after := by
  rw [find?_true, atStart?_append h hshape hline hafter]
  by_cases hshaped : Shaped shape line
  · simp [hshaped]
  · simp [hshaped, find?_false_append start hline]

/-- The search goes through joined lines one after the other. -/
theorem find?_intercalate (h : Recognizes start shape) (hshape : OnOneLine shape)
    {lines : List (List Char)} (hlines : ∀ line ∈ lines, '\n' ∉ line) :
    find? start true (['\n'].intercalate lines) =
      (lines.find? (Shaped shape ·)).map trimmed := by
  induction lines with
  | nil => rfl
  | cons line lines ih =>
    have hline := hlines line List.mem_cons_self
    have hrest := ih fun l hl => hlines l (List.mem_cons_of_mem _ hl)
    -- What follows the line is nothing, or a line break, behind which the other lines are searched.
    have hcut : ∃ after, EndsLine after ∧ ['\n'].intercalate (line :: lines) = line ++ after ∧
        find? start false after = (lines.find? (Shaped shape ·)).map trimmed := by
      cases lines with
      | nil => exact ⟨[], .inl rfl, by simp, rfl⟩
      | cons next lines =>
        refine ⟨'\n' :: ['\n'].intercalate (next :: lines), .inr rfl, ?_, ?_⟩
        · simp [List.intercalate_cons_cons]
        · rw [find?_cons, ← hrest]
          simp
    obtain ⟨after, hafter, hsplit, hfind⟩ := hcut
    rw [hsplit, find?_line h hshape hline hafter, hfind, List.find?_cons]
    by_cases hshaped : Shaped shape line <;> simp [hshaped]

/-- The search gives back the first line of a text that has the shape, trimmed. -/
theorem find?_eq_find?_lines (h : Recognizes start shape) (hshape : OnOneLine shape)
    (text : String) :
    find? start true text.toList = ((Text.lines text).find? (Shaped shape ·)).map trimmed := by
  rw [← Text.intercalate_lines text]
  exact find?_intercalate h hshape fun _ => Text.not_mem_of_mem_splitOn

end

/-! ## Lines with and without carriage returns -/

/-- In front of all lines of the shape, there is a beginning with nothing but a line break behind
it. -/
def BareFirst (shape : Shape) (lines : List (List Char)) : Prop :=
  ∃ front line back, lines = front ++ line :: back ∧ back ≠ [] ∧ shape line ∧
    ∀ l ∈ front, ¬ Shaped shape l

theorem not_bareFirst_nil : ¬ BareFirst shape [] := by
  rintro ⟨front, line, back, hsplit, -⟩
  simp at hsplit

theorem bareFirst_cons {lines : List (List Char)} :
    BareFirst shape (line :: lines) ↔
      shape line ∧ lines ≠ [] ∨ ¬ Shaped shape line ∧ BareFirst shape lines := by
  constructor
  · rintro ⟨front, bare, back, hsplit, hback, hbare, hfront⟩
    cases front with
    | nil =>
      obtain ⟨rfl, rfl⟩ := List.cons.inj hsplit
      exact .inl ⟨hbare, hback⟩
    | cons first front =>
      obtain ⟨rfl, rfl⟩ := List.cons.inj hsplit
      exact .inr ⟨hfront _ List.mem_cons_self, front, bare, back, rfl, hback, hbare,
        fun l hl => hfront l (List.mem_cons_of_mem _ hl)⟩
  · rintro (⟨hbare, hback⟩ | ⟨hshaped, front, bare, back, rfl, hback, hbare, hfront⟩)
    · exact ⟨[], line, lines, rfl, hback, hbare, by simp⟩
    · exact ⟨line :: front, bare, back, rfl, hback, hbare,
        List.forall_mem_cons.mpr ⟨hshaped, hfront⟩⟩

/-- A beginning with nothing behind it is no line of the shape. -/
theorem Recognizes.not_shaped (h : Recognizes start shape) (hline : shape line) :
    ¬ Shaped shape line := by
  rintro ⟨head, rest, hhead, hrest, -, rfl⟩
  have hshort : start (head ++ rest) = some head.length := (h _ _).mpr ⟨head, rest, hhead, rfl, rfl⟩
  have hlong : start (head ++ rest) = some (head ++ rest).length :=
    (h _ _).mpr ⟨head ++ rest, [], hline, rfl, (List.append_nil _).symm⟩
  rw [hshort, Option.some.injEq, List.length_append] at hlong
  exact hrest (List.length_eq_zero_iff.mp (by omega))

/-- With a carriage return behind it, a line has the shape if it has it without, or if it is a
beginning. -/
theorem shaped_append_return :
    Shaped shape (line ++ ['\r']) ↔ shape line ∨ Shaped shape line := by
  constructor
  · rintro ⟨head, rest, hhead, hrest, hfree, hsplit⟩
    -- The carriage return is the last character behind the beginning.
    obtain ⟨front, last, rfl⟩ := (List.eq_nil_or_concat' rest).resolve_left hrest
    rw [← List.append_assoc] at hsplit
    obtain ⟨rfl, -⟩ := List.append_inj' hsplit rfl
    rcases front with _ | ⟨c, front⟩
    · exact .inl (by simpa using hhead)
    · exact .inr ⟨head, _, hhead, List.cons_ne_nil _ _,
        fun hmem => hfree (List.mem_append_left _ hmem), rfl⟩
  · rintro (hhead | ⟨head, rest, hhead, hrest, hfree, rfl⟩)
    · exact ⟨line, ['\r'], hhead, List.cons_ne_nil _ _, by decide, rfl⟩
    · exact ⟨head, rest ++ ['\r'], hhead, by simp, by simp [hfree], List.append_assoc ..⟩

/-- A line without carriage returns is left as it is. -/
theorem trimmed_eq_self (hline : '\r' ∉ line) : trimmed line = line := by
  rw [trimmed, List.rdropWhile_eq_self_iff]
  intro hne hlast
  rw [decide_eq_true_eq] at hlast
  exact hline (hlast ▸ List.getLast_mem hne)

/-- The carriage return is what is left out. -/
theorem trimmed_append_return (hline : '\r' ∉ line) : trimmed (line ++ ['\r']) = line := by
  rw [trimmed, List.rdropWhile_concat_pos _ _ _ (by decide)]
  exact trimmed_eq_self hline

/-- The first line of the shape is the same with and without carriage returns, unless a beginning
with nothing behind it comes first. -/
theorem find?_returned_eq_iff [DecidablePred (Shaped shape)] (h : Recognizes start shape)
    {lines : List (List Char)} (hlines : ∀ line ∈ lines, '\r' ∉ line) :
    ((Text.returned lines).find? (Shaped shape ·)).map trimmed =
        (lines.find? (Shaped shape ·)).map trimmed ↔ ¬ BareFirst shape lines := by
  induction lines using Text.returned.induct with
  | case1 => simp [Text.returned, not_bareFirst_nil]
  | case2 line => simp [Text.returned, bareFirst_cons, not_bareFirst_nil]
  | case3 line next lines ih =>
    have hline := hlines line List.mem_cons_self
    have hrest : ∀ l ∈ next :: lines, '\r' ∉ l :=
      fun l hl => hlines l (List.mem_cons_of_mem _ hl)
    rw [Text.returned, List.find?_cons, List.find?_cons, bareFirst_cons]
    by_cases hbare : shape line
    · -- The line is found with the carriage return only: what is found without it has the shape.
      have hnot := h.not_shaped hbare
      have hnever : (((next :: lines).find? (Shaped shape ·)).map trimmed) ≠ some line := by
        intro hfind
        obtain ⟨found, hfound, htrimmed⟩ := Option.map_eq_some_iff.mp hfind
        rw [trimmed_eq_self (hrest found (List.mem_of_find?_eq_some hfound))] at htrimmed
        exact hnot (htrimmed ▸ by simpa using List.find?_some hfound)
      simpa [shaped_append_return, hbare, hnot, trimmed_append_return hline] using hnever.symm
    · by_cases hshaped : Shaped shape line
      · simp [shaped_append_return, hbare, hshaped, trimmed_append_return hline,
          trimmed_eq_self hline]
      · simpa [shaped_append_return, hbare, hshaped] using ih hrest

/-! ## The two shapes stand on one line -/

/-- The name of the type of pointers to a function is free of line breaks and carriage returns if
the name of the function is. -/
theorem unbroken_pointerType {function : String} (h : Text.Unbroken function.toList) :
    Text.Unbroken (pointerType function).toList := by
  have hkeep {b : Char} (hb : b < 'A') (hmem : b ∉ function.toList) :
      b ∉ (Text.upperAscii function).toList := by
    rw [Text.upperAscii, String.toList_ofList, List.mem_map]
    rintro ⟨c, hc, hcb⟩
    exact hmem (Text.eq_of_toUpper_eq (.inl hb) hcb ▸ hc)
  simp only [pointerType, String.toList_append, Text.unbroken_append]
  exact ⟨⟨by decide, hkeep (by decide) h.1, hkeep (by decide) h.2⟩, by decide⟩

/-- The definition of a constant begins on one line. -/
theorem onOneLine_constantHead {name : String} (h : Text.Unbroken name.toList) :
    OnOneLine (ConstantHead name) := by
  rintro head rfl
  simp only [String.toList_append, Text.unbroken_append]
  exact ⟨⟨by decide, h⟩, by decide⟩

/-- The definition of a function type begins on one line. -/
theorem onOneLine_functionTypeHead {typeName : String} (h : Text.Unbroken typeName.toList) :
    OnOneLine (FunctionTypeHead typeName) := by
  rintro head ⟨result, -, hresult, rfl⟩
  have hfree : Text.Unbroken result :=
    ⟨fun hmem => absurd (hresult _ hmem) (by decide),
      fun hmem => absurd (hresult _ hmem) (by decide)⟩
  simp only [String.toList_append, Text.unbroken_append]
  exact ⟨⟨by decide, hfree⟩, ⟨by decide, h⟩, by decide⟩

end HeaderLine

open HeaderLine

/-- The same line is copied from a header with and without carriage returns, unless a beginning with
nothing behind it comes first. -/
theorem headerLine?_withReturns_eq_iff {start : Start} {shape : Shape} (h : Recognizes start shape)
    (hshape : OnOneLine shape) {header : String} (hheader : '\r' ∉ header.toList) :
    headerLine? (Text.withReturns header) start = headerLine? header start ↔
      ¬ BareFirst shape (Text.lines header) := by
  classical
  have hlines : ∀ line ∈ Text.lines header, '\r' ∉ line := fun line hline hmem =>
    hheader (Text.intercalate_lines header ▸ Text.mem_intercalate_of_mem hline hmem)
  rw [← find?_returned_eq_iff h hlines, ← Text.lines_withReturns,
    ← find?_eq_find?_lines h hshape, ← find?_eq_find?_lines h hshape, headerLine?, headerLine?]
  exact (Option.map_injective fun _ _ => String.ofList_injective).eq_iff

/-- What is copied from a header is one line. -/
theorem newline_not_mem_of_headerLine? {start : Start} {shape : Shape} (h : Recognizes start shape)
    (hshape : OnOneLine shape) {header line : String}
    (hline : headerLine? header start = some line) : '\n' ∉ line.toList := by
  obtain ⟨found, hfound, rfl⟩ := Option.map_eq_some_iff.mp hline
  obtain ⟨before, line, after, hfirst, rfl⟩ := (find?_eq_some_iff h).mp hfound
  rw [String.toList_ofList]
  exact fun hmem => hfirst.shaped.newline_not_mem hshape ((List.rdropWhile_prefix _ _).mem hmem)

/-! ## What the bindings depend on -/

namespace Bindings

/-- Lists of the same lengths that are joined one after the other are the same lists if the joined
lists are. -/
theorem flatMap_append_inj {α β : Type} {f g : α → List β} {l : List α} {rest rest' : List β}
    (hlength : ∀ a ∈ l, (f a).length = (g a).length)
    (h : l.flatMap f ++ rest = l.flatMap g ++ rest') : (∀ a ∈ l, f a = g a) ∧ rest = rest' := by
  induction l with
  | nil => exact ⟨by simp, h⟩
  | cons a l ih =>
    rw [List.flatMap_cons, List.flatMap_cons, List.append_assoc, List.append_assoc] at h
    obtain ⟨hfirst, hothers⟩ := List.append_inj h (hlength a List.mem_cons_self)
    obtain ⟨hall, hrest⟩ := ih (fun b hb => hlength b (List.mem_cons_of_mem _ hb)) hothers
    exact ⟨List.forall_mem_cons.mpr ⟨hfirst, hall⟩, hrest⟩

variable {header header' : String} {constants functions : List String}

/-- The lines for the requested symbols. -/
def requestLines (header : String) (constants functions : List String) : List String :=
  constants.flatMap (fun name => (constantLine? header name).toList) ++
    functions.zipIdx.flatMap (functionLines (searchOf header))

/-- The text of the bindings has the lines for the requests between lines that depend on the slots
only. -/
theorem text_ofHeader_eq_intercalate (header : String) (constants functions : List String) :
    (ofHeader header constants functions).text = "\n".intercalate (preamble ++
      (requestLines header constants functions ++
        tableLines (ofHeader header constants functions).table)) := by
  simp only [ofHeader, ofSearch, searchOf_constant, requestLines,
    List.filterMap_eq_flatMap_toList, List.append_assoc]

theorem newline_not_mem_slotLine {function : String} (h : Text.Unbroken function.toList)
    (index : Nat) : '\n' ∉ (slotLine function index).toList := by
  have hpointer := (unbroken_pointerType h).1
  have hindex := Number.newline_not_mem_natText index
  unfold slotLine
  simp only [String.toList_append, List.mem_append, not_or]
  exact ⟨⟨⟨⟨⟨⟨by decide, h.1⟩, by decide⟩, hpointer⟩, by decide⟩, hindex⟩, by decide⟩

/-- Each of the lines for the requests is one line. -/
theorem newline_not_mem_of_mem_requestLines
    (hconstants : ∀ name ∈ constants, Text.Unbroken name.toList)
    (hfunctions : ∀ name ∈ functions, Text.Unbroken name.toList) {line : String}
    (hline : line ∈ requestLines header constants functions) : '\n' ∉ line.toList := by
  rw [requestLines, List.mem_append, List.mem_flatMap, List.mem_flatMap] at hline
  rcases hline with ⟨name, hname, hline⟩ | ⟨⟨name, index⟩, hname, hline⟩
  · exact newline_not_mem_of_headerLine? (recognizes_constant name)
      (onOneLine_constantHead (hconstants name hname)) (Option.mem_toList.mp hline)
  · have hfree := hfunctions name (List.fst_mem_of_mem_zipIdx hname)
    cases htype : typeLine? header name with
    | none => simp [functionLines, htype] at hline
    | some copied =>
      simp only [functionLines, searchOf_function, htype, List.mem_cons, List.not_mem_nil,
        or_false] at hline
      rcases hline with rfl | rfl
      · exact newline_not_mem_of_headerLine? (recognizes_functionType _)
          (onOneLine_functionTypeHead (unbroken_pointerType hfree)) htype
      · exact newline_not_mem_slotLine hfree index

/-- Texts with the same slots have the same lines for the requests. -/
theorem requestLines_eq_of_text_eq
    (hconstants : ∀ name ∈ constants, Text.Unbroken name.toList)
    (hfunctions : ∀ name ∈ functions, Text.Unbroken name.toList)
    (htable : (ofHeader header' constants functions).table =
      (ofHeader header constants functions).table)
    (htext : (ofHeader header' constants functions).text =
      (ofHeader header constants functions).text) :
    requestLines header' constants functions = requestLines header constants functions := by
  have hone (header : String) : (requestLines header constants functions).flatMap Text.lines =
      (requestLines header constants functions).map String.toList := by
    rw [List.flatMap_congr fun line hline => Text.lines_of_not_mem
      (newline_not_mem_of_mem_requestLines hconstants hfunctions hline), List.map_eq_flatMap]
  have hne (lines : List String) : preamble ++ lines ≠ [] := List.cons_ne_nil _ _
  -- The lines of both texts start with those of the preamble and end with those of the slots.
  have hlines := congrArg Text.lines htext
  rw [text_ofHeader_eq_intercalate, text_ofHeader_eq_intercalate, htable,
    Text.lines_intercalate (hne _), Text.lines_intercalate (hne _)] at hlines
  simp only [List.flatMap_append, List.append_cancel_left_eq, List.append_cancel_right_eq, hone]
    at hlines
  exact List.map_injective_iff.mpr (fun _ _ => String.toList_injective) hlines

/-- There are two lines for a function that the header declares. -/
theorem length_functionLines (header : String) (function : String × Nat) :
    (functionLines (searchOf header) function).length =
      if (typeLine? header function.1).isSome then 2 else 0 := by
  rw [functionLines, searchOf_function]
  cases typeLine? header function.1 <;> rfl

/-- The first line for a function is the one that is copied. -/
theorem head?_functionLines (header : String) (function : String × Nat) :
    (functionLines (searchOf header) function).head? = typeLine? header function.1 := by
  rw [functionLines, searchOf_function]
  cases typeLine? header function.1 <;> rfl

/-- Two headers give the same bindings if and only if the same lines are copied from them for the
requests. -/
theorem ofHeader_eq_iff (hconstants : ∀ name ∈ constants, Text.Unbroken name.toList)
    (hfunctions : ∀ name ∈ functions, Text.Unbroken name.toList) :
    ofHeader header' constants functions = ofHeader header constants functions ↔
      (∀ name ∈ constants, constantLine? header' name = constantLine? header name) ∧
        ∀ name ∈ functions, typeLine? header' name = typeLine? header name := by
  refine ⟨fun heq => ?_, fun ⟨hconstant, hfunction⟩ => ofSearch_congr hconstant hfunction⟩
  have hmissing (m : MissingSymbol) : m ∈ (ofHeader header' constants functions).missing ↔
      m ∈ (ofHeader header constants functions).missing := by rw [heq]
  -- The same requests are missing, so each request has as many lines in both texts.
  have hconstant : ∀ name ∈ constants,
      (constantLine? header' name).toList.length = (constantLine? header name).toList.length := by
    intro name hname
    have hnone := hmissing ⟨.constant, name⟩
    simp only [mem_missing_ofHeader_iff, hname, true_and, ← Option.isSome_eq_isSome] at hnone
    rw [Option.length_toList, Option.length_toList, hnone]
  have hfunction : ∀ function ∈ functions.zipIdx,
      (functionLines (searchOf header') function).length =
        (functionLines (searchOf header) function).length := by
    rintro ⟨name, index⟩ hname
    have hnone := hmissing ⟨.function, name⟩
    simp only [mem_missing_ofHeader_iff, List.fst_mem_of_mem_zipIdx hname, true_and,
      ← Option.isSome_eq_isSome] at hnone
    rw [length_functionLines, length_functionLines, hnone]
  -- Hence the lines of the texts agree request by request.
  obtain ⟨hcopied, hjoined⟩ := flatMap_append_inj hconstant
    (requestLines_eq_of_text_eq hconstants hfunctions (congrArg table heq) (congrArg text heq))
  have hblocks : ∀ function ∈ functions.zipIdx,
      functionLines (searchOf header') function = functionLines (searchOf header) function :=
    (flatMap_append_inj hfunction (congrArg (· ++ ([] : List String)) hjoined)).1
  refine ⟨fun name hname => ?_, fun name hname => ?_⟩
  · simpa using congrArg List.head? (hcopied name hname)
  · obtain ⟨index, hindex⟩ := List.mem_iff_getElem?.mp hname
    have hblock := hblocks (name, index) (List.mem_zipIdx_iff_getElem?.mpr hindex)
    simpa only [head?_functionLines] using congrArg List.head? hblock

/-- For every header without carriage returns and all requests whose names are free of line breaks
and carriage returns, the header and the same header with a carriage return in front of every line
break give the same text, the same slots and the same warnings if and only if, for no request, there
is a beginning of its definition with nothing but a line break behind it in front of all lines that
define it. -/
theorem ofHeader_withReturns_eq_iff (hheader : '\r' ∉ header.toList)
    (hconstants : ∀ name ∈ constants, Text.Unbroken name.toList)
    (hfunctions : ∀ name ∈ functions, Text.Unbroken name.toList) :
    ofHeader (Text.withReturns header) constants functions =
        ofHeader header constants functions ↔
      (∀ name ∈ constants, ¬ BareFirst (ConstantHead name) (Text.lines header)) ∧
        ∀ name ∈ functions,
          ¬ BareFirst (FunctionTypeHead (pointerType name)) (Text.lines header) := by
  rw [ofHeader_eq_iff hconstants hfunctions]
  refine and_congr (forall₂_congr fun name hname => ?_) (forall₂_congr fun name hname => ?_)
  · exact headerLine?_withReturns_eq_iff (recognizes_constant name)
      (onOneLine_constantHead (hconstants name hname)) hheader
  · exact headerLine?_withReturns_eq_iff (recognizes_functionType _)
      (onOneLine_functionTypeHead (unbroken_pointerType (hfunctions name hname))) hheader

/-- A constant and the type of a function, on lines that end with line breaks alone. -/
def definitions : String :=
  "#define GL_A 1\ntypedef void (GLAPIENTRY * PFNFPROC) (void);\n"

/-- With carriage returns, the same lines are copied: no beginning without anything behind it stands
in front of them. -/
theorem ofHeader_withReturns_definitions :
    ofHeader (Text.withReturns definitions) ["GL_A", "GL_B"] ["f"] =
        ofHeader definitions ["GL_A", "GL_B"] ["f"] ∧
      (∀ name ∈ ["GL_A", "GL_B"],
        ¬ BareFirst (ConstantHead name) (Text.lines definitions)) ∧
      ∀ name ∈ ["f"],
        ¬ BareFirst (FunctionTypeHead (pointerType name)) (Text.lines definitions) := by
  have hheader : '\r' ∉ definitions.toList := by simp [definitions]
  have hconstants : ∀ name ∈ ["GL_A", "GL_B"], Text.Unbroken name.toList := by decide
  have hfunctions : ∀ name ∈ ["f"], Text.Unbroken name.toList := by decide
  have heq : ofHeader (Text.withReturns definitions) ["GL_A", "GL_B"] ["f"] =
      ofHeader definitions ["GL_A", "GL_B"] ["f"] :=
    ofSearch_congr (by decide +kernel) (by decide +kernel)
  exact ⟨heq, (ofHeader_withReturns_eq_iff hheader hconstants hfunctions).mp heq⟩

/-- A definition with nothing behind the space. -/
def bareDefinition : String :=
  "#define GL_X \n"

/-- The constant is missing; with a carriage return, its line is copied. -/
theorem ofHeader_withReturns_bareDefinition :
    '\r' ∉ bareDefinition.toList ∧ Text.Unbroken "GL_X".toList ∧
    Text.withReturns bareDefinition = "#define GL_X \r\n" ∧
    (ofHeader bareDefinition ["GL_X"] []).missing = [⟨.constant, "GL_X"⟩] ∧
    (ofHeader (Text.withReturns bareDefinition) ["GL_X"] []).missing = [] ∧
    constantLine? (Text.withReturns bareDefinition) "GL_X" = some "#define GL_X " ∧
    ofHeader (Text.withReturns bareDefinition) ["GL_X"] [] ≠
      ofHeader bareDefinition ["GL_X"] [] := by
  have hmissing : (ofHeader bareDefinition ["GL_X"] []).missing = [⟨.constant, "GL_X"⟩] := by
    decide +kernel
  have hcopied : (ofHeader (Text.withReturns bareDefinition) ["GL_X"] []).missing = [] := by
    decide +kernel
  refine ⟨by decide, by decide, by decide, hmissing, hcopied, by decide +kernel, fun heq => ?_⟩
  rw [heq, hmissing] at hcopied
  exact List.cons_ne_nil _ _ hcopied

end Bindings

end DemoBuild
