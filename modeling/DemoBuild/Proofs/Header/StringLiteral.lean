import DemoBuild.Header.StringLiteral
import DemoBuild.Proofs.Text.Lines

/-!
# Reading string literals

A reader of string literals that accepts nothing but what C does on a single line: a raw quote
closes the literal, a backslash starts one of five escapes, and line breaks and tabs do not stand
for themselves. Reading is the inverse of writing, so what is written can neither end early nor run
into what follows.

## Main definitions

* `StringLiteral.IsBody` and `StringLiteral.IsLiteral`: the grammar of a literal;
* `StringLiteral.read?`: reads one literal;
* `StringLiteral.readAdjacent?`: reads adjacent literals as one text.

## Main results

* `StringLiteral.read?_eq_some_iff`: a literal is read from what is written for its text only;
* `StringLiteral.chunks_eq_map_range`: where the pieces of a list start and end;
* `StringLiteral.readAdjacent?_render`: the literals of a text are read as the text;
* `StringLiteral.lines_render_spec`: the lines of the literals of a text.
-/

namespace DemoBuild.StringLiteral

/-! ## Escapes -/

/-- The characters that do not stand for themselves. -/
def special : List Char :=
  ['\\', '\n', '\r', '\t', '"']

/-- The characters that form an escape with a backslash in front. -/
def letters : List Char :=
  ['\\', 'n', 'r', 't', '"']

/-- The character that an escape stands for. -/
def unescape? (c : Char) : Option Char :=
  if c = '\\' then some '\\'
  else if c = 'n' then some '\n'
  else if c = 'r' then some '\r'
  else if c = 't' then some '\t'
  else if c = '"' then some '"'
  else none

/-- A character that stands for itself is written as it is. -/
theorem escapeChar_of_not_mem {c : Char} (hc : c ∉ special) : escapeChar c = [c] := by
  simp only [special, List.mem_cons, List.not_mem_nil, or_false, not_or] at hc
  simp [escapeChar, hc]

/-- A character that does not stand for itself is written as an escape that stands for it. -/
theorem escapeChar_of_mem {c : Char} (hc : c ∈ special) :
    ∃ d ∈ letters, escapeChar c = ['\\', d] ∧ unescape? d = some c := by
  simp only [special, List.mem_cons, List.not_mem_nil, or_false] at hc
  rcases hc with rfl | rfl | rfl | rfl | rfl
  · exact ⟨'\\', by decide, rfl, rfl⟩
  · exact ⟨'n', by decide, rfl, rfl⟩
  · exact ⟨'r', by decide, rfl, rfl⟩
  · exact ⟨'t', by decide, rfl, rfl⟩
  · exact ⟨'"', by decide, rfl, rfl⟩

/-- An escape stands for a character for which it is written. -/
theorem escapeChar_of_unescape? {c d : Char} (h : unescape? c = some d) :
    escapeChar d = ['\\', c] := by
  have hletter : c ∈ letters := by
    refine Decidable.byContradiction fun hc => ?_
    simp only [letters, List.mem_cons, List.not_mem_nil, or_false, not_or] at hc
    simp [unescape?, hc] at h
  simp only [letters, List.mem_cons, List.not_mem_nil, or_false] at hletter
  rcases hletter with rfl | rfl | rfl | rfl | rfl
  all_goals
    obtain rfl := Option.some.inj h
    rfl

/-- What is written for a text, character by character. -/
theorem escape_cons (c : Char) (text : List Char) :
    escape (c :: text) = escapeChar c ++ escape text :=
  List.flatMap_cons

/-! ## Grammar -/

/-- What may stand between the quotes of a literal: characters that stand for themselves, and
escapes. -/
inductive IsBody : List Char → Prop
  /-- Nothing. -/
  | nil : IsBody []
  /-- A character that stands for itself. -/
  | plain {c : Char} {body : List Char} (hc : c ∉ special) (hbody : IsBody body) :
      IsBody (c :: body)
  /-- An escape. -/
  | escaped {c : Char} {body : List Char} (hc : c ∈ letters) (hbody : IsBody body) :
      IsBody ('\\' :: c :: body)

/-- The text is one literal and nothing else. -/
def IsLiteral (text : List Char) : Prop :=
  ∃ body, IsBody body ∧ text = '"' :: body ++ ['"']

/-- What is written for a text may stand between quotes. -/
theorem isBody_escape (text : List Char) : IsBody (escape text) := by
  induction text with
  | nil => exact .nil
  | cons c text ih =>
    rw [escape_cons]
    by_cases hc : c ∈ special
    · obtain ⟨d, hd, hchar, -⟩ := escapeChar_of_mem hc
      rw [hchar]
      exact .escaped hd ih
    · rw [escapeChar_of_not_mem hc]
      exact .plain hc ih

/-- What is written for a text is one literal. -/
theorem isLiteral_quote (text : List Char) : IsLiteral (quote text) :=
  ⟨escape text, isBody_escape text, rfl⟩

/-- What stands between quotes is on one line. -/
theorem IsBody.newline_not_mem {body : List Char} (hbody : IsBody body) : '\n' ∉ body := by
  induction hbody with
  | nil => exact List.not_mem_nil
  | plain hc _ ih =>
    rw [List.mem_cons]
    rintro (rfl | h)
    · exact hc (by decide)
    · exact ih h
  | escaped hc _ ih =>
    rw [List.mem_cons, List.mem_cons]
    rintro (h | rfl | h)
    · exact absurd h (by decide)
    · exact absurd hc (by decide)
    · exact ih h

/-- A literal is on one line. -/
theorem newline_not_mem_quote (text : List Char) : '\n' ∉ quote text := by
  have hbody := (isBody_escape text).newline_not_mem
  simp [quote, hbody]

/-! ## Reading one literal -/

/-- Reads what a literal holds, and what follows its closing quote, from behind its opening
quote. -/
def readBody? : List Char → Option (List Char × List Char)
  | [] => none
  | '"' :: rest => some ([], rest)
  | '\\' :: c :: text =>
    (unescape? c).bind fun c => (readBody? text).map fun (body, rest) => (c :: body, rest)
  | c :: text =>
    if c ∈ special then none
    else (readBody? text).map fun (body, rest) => (c :: body, rest)

/-- Reads the literal that a text starts with: what it holds, and what follows it. -/
def read? (text : List Char) : Option (List Char × List Char) :=
  if text.head? = some '"' then readBody? text.tail else none

/-- A character is read from what is written for it. -/
theorem readBody?_escapeChar (c : Char) (text : List Char) :
    readBody? (escapeChar c ++ text) =
      (readBody? text).map fun (body, rest) => (c :: body, rest) := by
  by_cases hc : c ∈ special
  · obtain ⟨d, -, hchar, hd⟩ := escapeChar_of_mem hc
    -- the backslash takes the second character with it, even if that is a quote
    rw [hchar, List.cons_append, List.singleton_append, readBody?, hd]
    rfl
  · have hquote : c ≠ '"' := fun h => hc (h ▸ by decide)
    have hbackslash : c ≠ '\\' := fun h => hc (h ▸ by decide)
    rw [escapeChar_of_not_mem hc, List.singleton_append, readBody?, if_neg hc]
    · exact hquote
    · exact fun _ _ h => absurd h hbackslash

/-- A text is read from what is written for it. -/
theorem readBody?_escape (text rest : List Char) :
    readBody? (escape text ++ '"' :: rest) = some (text, rest) := by
  induction text with
  | nil => rfl
  | cons c text ih =>
    rw [escape_cons, List.append_assoc, readBody?_escapeChar, ih]
    rfl

/-- A text is only read from what is written for it. -/
theorem eq_of_readBody? {text body rest : List Char} (h : readBody? text = some (body, rest)) :
    text = escape body ++ '"' :: rest := by
  fun_induction readBody? text generalizing body with
  | case1 => cases h
  -- the closing quote
  | case2 rest' =>
    obtain ⟨rfl, rfl⟩ := Prod.mk.inj (Option.some.inj h)
    rfl
  -- an escape
  | case3 c text ih =>
    obtain ⟨d, hd, h⟩ := Option.bind_eq_some_iff.mp h
    obtain ⟨⟨body', rest'⟩, hread, h⟩ := Option.map_eq_some_iff.mp h
    obtain ⟨rfl, rfl⟩ := Prod.mk.inj h
    rw [escape_cons, escapeChar_of_unescape? hd, ih hread]
    rfl
  | case4 => cases h
  -- a character that stands for itself
  | case5 c text _ _ hc ih =>
    obtain ⟨⟨body', rest'⟩, hread, h⟩ := Option.map_eq_some_iff.mp h
    obtain ⟨rfl, rfl⟩ := Prod.mk.inj h
    rw [escape_cons, escapeChar_of_not_mem hc, ih hread]
    rfl

/-- Reading a literal is the inverse of writing one. -/
theorem read?_eq_some_iff {text body rest : List Char} :
    read? text = some (body, rest) ↔ text = quote body ++ rest := by
  constructor
  · intro h
    rw [read?] at h
    split at h
    · next hhead =>
      obtain ⟨text, rfl⟩ := List.head?_eq_some_iff.mp hhead
      rw [List.tail_cons] at h
      simp [quote, eq_of_readBody? h]
    · cases h
  · rintro rfl
    have hbody := readBody?_escape body rest
    simpa [read?, quote] using hbody

/-- A literal is read from what is written for its text. -/
theorem read?_quote (text rest : List Char) : read? (quote text ++ rest) = some (text, rest) :=
  read?_eq_some_iff.mpr rfl

/-- What follows a literal is shorter than the whole. -/
theorem length_lt_of_read? {text body rest : List Char} (h : read? text = some (body, rest)) :
    rest.length < text.length := by
  rw [read?_eq_some_iff.mp h, quote]
  simp only [List.length_append, List.length_cons]
  omega

/-! ## Reading adjacent literals -/

/-- Reads the literals that a text starts with as one text; blanks may stand in front of each. The
rest starts with what is neither blank nor a literal. -/
def readAdjacent? (text : List Char) : Option (List Char × List Char) :=
  match h : read? (text.dropWhile Text.isBlank) with
  | some (body, rest) =>
    have : rest.length < text.length :=
      Nat.lt_of_lt_of_le (length_lt_of_read? h) (List.dropWhile_suffix _).length_le
    (readAdjacent? rest).map fun (more, rest) => (body ++ more, rest)
  | none =>
    if (text.dropWhile Text.isBlank).head? = some '"' then none
    else some ([], text.dropWhile Text.isBlank)
  termination_by text.length

/-- What the first literal decides. -/
theorem readAdjacent?_eq (text : List Char) :
    readAdjacent? text =
      match read? (text.dropWhile Text.isBlank) with
      | some (body, rest) => (readAdjacent? rest).map fun (more, rest) => (body ++ more, rest)
      | none =>
        if (text.dropWhile Text.isBlank).head? = some '"' then none
        else some ([], text.dropWhile Text.isBlank) := by
  rw [readAdjacent?]
  split
  · next h => simp only [h]
  · next h => simp only [h]

/-- A literal is read in front of what the rest is read as. -/
theorem readAdjacent?_quote (text rest : List Char) :
    readAdjacent? (quote text ++ rest) =
      (readAdjacent? rest).map fun (more, rest) => (text ++ more, rest) := by
  have hstart : (quote text ++ rest).dropWhile Text.isBlank = quote text ++ rest :=
    List.dropWhile_cons_of_neg (by decide)
  rw [readAdjacent?_eq, hstart, read?_quote]

/-- A line break does not separate literals. -/
theorem readAdjacent?_newline (rest : List Char) :
    readAdjacent? ('\n' :: rest) = readAdjacent? rest := by
  have hblank : ('\n' :: rest).dropWhile Text.isBlank = rest.dropWhile Text.isBlank :=
    List.dropWhile_cons_of_pos (by decide)
  rw [readAdjacent?_eq, hblank, ← readAdjacent?_eq]

/-- What is neither blank nor a literal ends the literals. -/
theorem readAdjacent?_cons {c : Char} (hblank : Text.isBlank c = false) (hquote : c ≠ '"')
    (rest : List Char) : readAdjacent? (c :: rest) = some ([], c :: rest) := by
  have hstart : (c :: rest).dropWhile Text.isBlank = c :: rest :=
    List.dropWhile_cons_of_neg (by rw [hblank]; decide)
  have hread : read? (c :: rest) = none := by simp [read?, hquote]
  rw [readAdjacent?_eq, hstart, hread]
  simp [hquote]

/-- Literals on lines of their own are read as what they hold together. -/
theorem readAdjacent?_intercalate (pieces : List (List Char)) (rest : List Char) :
    readAdjacent? (['\n'].intercalate (pieces.map quote) ++ rest) =
      (readAdjacent? rest).map fun (more, rest) => (pieces.flatten ++ more, rest) := by
  induction pieces with
  | nil => simp
  | cons piece pieces ih =>
    cases pieces with
    | nil => simp [readAdjacent?_quote]
    | cons next pieces =>
      rw [List.map_cons, List.map_cons, List.intercalate_cons_cons, ← List.map_cons,
        List.append_assoc, List.append_assoc, readAdjacent?_quote, List.singleton_append,
        readAdjacent?_newline, ih, Option.map_map]
      simp [Function.comp_def]

/-! ## The pieces of a text -/

/-- The number of pieces grows with each piece that is cut off. -/
theorem pieceCount_of_ne_nil {α : Type} {size : Nat} (hsize : 0 < size) {l : List α}
    (hl : l ≠ []) :
    (l.length + size - 1) / size = ((l.drop size).length + size - 1) / size + 1 := by
  have hlength := List.length_pos_iff.mpr hl
  rw [List.length_drop, ← Nat.add_div_right _ hsize]
  -- a short list has one piece and leaves nothing, where subtraction is cut off at zero
  by_cases h : size ≤ l.length
  · congr 1
    omega
  · rw [Nat.div_eq_of_lt_le (k := 1) (by omega) (by omega),
      Nat.div_eq_of_lt_le (k := 1) (by omega) (by omega)]

/-- The pieces of a list start at the multiples of their size. -/
theorem chunks_eq_map_range {α : Type} {size : Nat} (hsize : 0 < size) (l : List α) :
    chunks size l = (List.range ((l.length + size - 1) / size)).map fun k =>
      (l.drop (size * k)).take size := by
  fun_induction chunks size l with
  | case1 l h =>
    obtain rfl : l = [] := h.resolve_right (by omega)
    rw [List.length_nil, Nat.div_eq_of_lt (by omega)]
    rfl
  | case2 l h ih =>
    rw [ih, pieceCount_of_ne_nil hsize (fun hl => h (.inl hl)), List.range_succ_eq_map,
      List.map_cons, List.map_map]
    simp [Function.comp_def, Nat.mul_succ, Nat.add_comm]

/-- The pieces of a list make up the list. -/
theorem flatten_chunks {α : Type} {size : Nat} (hsize : 0 < size) (l : List α) :
    (chunks size l).flatten = l := by
  fun_induction chunks size l with
  | case1 l h => exact (h.resolve_right (by omega)).symm
  | case2 l _ ih => rw [List.flatten_cons, ih, List.take_append_drop]

/-- The pieces of a text that its literals hold; the empty text has one. -/
def pieces (text : List Char) : List (List Char) :=
  if text = [] then [[]] else chunks chunkSize text

/-- Each literal holds one piece. -/
theorem lines_eq_map_pieces (text : List Char) : lines text = (pieces text).map quote := by
  rw [lines, pieces]
  split <;> rfl

/-- The pieces of a text make up the text. -/
theorem flatten_pieces (text : List Char) : (pieces text).flatten = text := by
  rw [pieces]
  split
  · next h => simp [h]
  · exact flatten_chunks (by decide) text

/-- The pieces of a text start at the multiples of their size. -/
theorem pieces_eq_map_range (text : List Char) :
    pieces text = (List.range (max 1 ((text.length + 63) / 64))).map fun k =>
      (text.drop (64 * k)).take 64 := by
  rw [pieces]
  split
  · next h => simp [h]
  · next h =>
    have hlength := List.length_pos_iff.mpr h
    rw [chunks_eq_map_range (by decide), Nat.max_eq_right (by omega)]
    rfl

/-- A text has a piece. -/
theorem pieces_ne_nil (text : List Char) : pieces text ≠ [] := by
  rw [pieces_eq_map_range, Ne, List.map_eq_nil_iff, List.range_eq_nil]
  omega

/-! ## The literals of a text -/

/-- The literals of a text are read as the text, up to what ends them. -/
theorem readAdjacent?_render (text : String) (rest : List Char) :
    readAdjacent? ((render text).toList ++ rest) =
      (readAdjacent? rest).map fun (more, rest) => (text.toList ++ more, rest) := by
  rw [render, String.toList_ofList, lines_eq_map_pieces, readAdjacent?_intercalate, flatten_pieces]

/-- The lines of the literals of a text are the literals. -/
theorem lines_render (text : String) :
    Text.lines (render text) = (pieces text.toList).map quote := by
  have hlines : (pieces text.toList).map quote ≠ [] := by
    rw [Ne, List.map_eq_nil_iff]
    exact pieces_ne_nil _
  rw [Text.lines, render, String.toList_ofList, lines_eq_map_pieces,
    List.splitOn_intercalate _ _ hlines]
  intro line hline
  obtain ⟨piece, -, rfl⟩ := List.mem_map.mp hline
  exact newline_not_mem_quote piece

/-- The literals of a text are read as the text and end at the character that follows them. -/
theorem readAdjacent?_render_cons (text : String) {c : Char} (hc : c ∈ [';', ','])
    (rest : List Char) :
    readAdjacent? ((render text).toList ++ c :: rest) = some (text.toList, c :: rest) := by
  have hends : Text.isBlank c = false ∧ c ≠ '"' := by
    simp only [List.mem_cons, List.not_mem_nil, or_false] at hc
    rcases hc with rfl | rfl <;> decide
  rw [readAdjacent?_render, readAdjacent?_cons hends.1 hends.2]
  simp

/-- The literals of a text: there is one line for each sixty-four characters, at least one. Each
line is one literal, from which its characters of the text are read and nothing is left over; only
the last one may hold fewer. The lines together are read as the text, up to the semicolon or comma
that follows them. -/
theorem lines_render_spec (text : String) :
    (Text.lines (render text)).length = max 1 ((text.toList.length + 63) / 64) ∧
      (∀ (k : Nat) (line : List Char), (Text.lines (render text))[k]? = some line →
        IsLiteral line ∧
          read? line = some ((text.toList.drop (64 * k)).take 64, []) ∧
          (((text.toList.drop (64 * k)).take 64).length = 64 ∨
            k + 1 = (Text.lines (render text)).length)) ∧
      readAdjacent? (render text).toList = some (text.toList, []) ∧
      ∀ c ∈ [';', ','], ∀ rest : List Char,
        readAdjacent? ((render text).toList ++ c :: rest) = some (text.toList, c :: rest) := by
  have hlength : (Text.lines (render text)).length = max 1 ((text.toList.length + 63) / 64) := by
    rw [lines_render, pieces_eq_map_range, List.length_map, List.length_map, List.length_range]
  refine ⟨hlength, fun k line hline => ?_, ?_, fun c hc rest =>
    readAdjacent?_render_cons text hc rest⟩
  · have hk := (List.getElem?_eq_some_iff.mp hline).1
    rw [hlength] at hk ⊢
    rw [lines_render, pieces_eq_map_range, List.map_map, List.getElem?_map,
      List.getElem?_range hk] at hline
    obtain rfl := Option.some.inj hline
    refine ⟨isLiteral_quote _, read?_eq_some_iff.mpr (List.append_nil _).symm, ?_⟩
    rw [List.length_take, List.length_drop]
    omega
  · have hread := readAdjacent?_render text []
    have hnil : readAdjacent? [] = some ([], []) := by
      rw [readAdjacent?_eq]
      rfl
    simpa [hnil] using hread

end DemoBuild.StringLiteral
