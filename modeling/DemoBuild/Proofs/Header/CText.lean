import DemoBuild.Proofs.Header.StringLiteral

/-!
# Reading definitions of texts

A reader for the part of C in which the code of a shader is embedded. The text is read line by line:
a line that starts with `#` is a directive, every other line consists of words, string literals and
marks. What the directives leave must be definitions of texts and of tables of texts, each ended by
a semicolon; the entries of a table are ended by commas. Anything else is refused.

## Main definitions

* `CText.lex?`: the tokens of a line;
* `CText.directives` and `CText.tokens?`: the directives and the tokens of a text;
* `CText.definitions?`: the definitions in a text;
* `CText.Reads`: the directives and the tokens of lines.

## Main results

* `CText.definition?_tokens`: a definition is read from its tokens;
* `CText.definitions?_of_tokens?`: definitions are read from their tokens one after the other;
* `CText.Reads.append` and `CText.reads_literals`: how lines are read together.
-/

namespace DemoBuild.CText

open StringLiteral

/-! ## Tokens -/

/-- A token. -/
inductive Token where
  /-- A keyword or a name. -/
  | word (name : List Char)
  /-- A string literal, given by what it stands for. -/
  | literal (text : List Char)
  /-- Any other character that is no white space. -/
  | mark (c : Char)
  deriving DecidableEq, Repr

/-- `c` may occur in a word. -/
def isWordChar (c : Char) : Bool :=
  c.isAlphanum || c == '_'

/-- The tokens of a line; none if a literal is not closed or holds what it may not. -/
def lex? : List Char → Option (List Token)
  | [] => some []
  | c :: line =>
    if c.isWhitespace then lex? line
    else if isWordChar c then
      have : (line.dropWhile isWordChar).length ≤ line.length :=
        (List.dropWhile_suffix _).length_le
      (lex? (line.dropWhile isWordChar)).map (.word (c :: line.takeWhile isWordChar) :: ·)
    else if c = '"' then
      match h : read? (c :: line) with
      | some (text, rest) =>
        have : rest.length ≤ line.length := Nat.le_of_lt_succ (length_lt_of_read? h)
        (lex? rest).map (.literal text :: ·)
      | none => none
    else (lex? line).map (.mark c :: ·)
  termination_by line => line.length

/-- No character of a word is white space. -/
theorem isWhitespace_eq_false_of_isWordChar {c : Char} (hc : isWordChar c = true) :
    c.isWhitespace = false := by
  by_cases h : c.isWhitespace = true
  · simp only [Char.isWhitespace, Bool.or_eq_true, decide_eq_true_eq] at h
    rcases h with ((rfl | rfl) | rfl) | rfl <;> exact absurd hc (by decide)
  · exact Bool.eq_false_iff.mpr h

/-- The end of a line. -/
@[simp]
theorem lex?_nil : lex? [] = some [] := by
  rw [lex?]

/-- White space is passed over. -/
theorem lex?_space (line : List Char) : lex? (' ' :: line) = lex? line := by
  rw [lex?, if_pos (by decide)]

/-- A word ends where no character of a word follows. -/
theorem lex?_word {name : List Char} (hname : name ≠ [])
    (hword : name.all isWordChar = true) {d : Char} (hd : isWordChar d = false)
    (line : List Char) : lex? (name ++ d :: line) = (lex? (d :: line)).map (.word name :: ·) := by
  obtain ⟨c, name, rfl⟩ := List.exists_cons_of_ne_nil hname
  obtain ⟨hc, hrest⟩ := List.forall_mem_cons.mp (List.all_eq_true.mp hword)
  have hend : ¬isWordChar d = true := by simp [hd]
  rw [List.cons_append, lex?, if_neg (by simp [isWhitespace_eq_false_of_isWordChar hc]), if_pos hc,
    List.takeWhile_append_of_pos hrest, List.dropWhile_append_of_pos hrest,
    List.takeWhile_cons_of_neg hend, List.dropWhile_cons_of_neg hend, List.append_nil]

/-- A word and the space behind it. -/
theorem lex?_word_space {name : List Char} (hname : name ≠ [])
    (hword : name.all isWordChar = true) (line : List Char) :
    lex? (name ++ ' ' :: line) = (lex? line).map (.word name :: ·) := by
  rw [lex?_word hname hword (by decide), lex?_space]

/-- A literal is one token. -/
theorem lex?_quote (text line : List Char) :
    lex? (quote text ++ line) = (lex? line).map (.literal text :: ·) := by
  have hread : read? ('"' :: (escape text ++ ['"'] ++ line)) = some (text, line) :=
    read?_quote text line
  rw [quote, List.cons_append, List.cons_append, lex?, if_neg (by decide), if_neg (by decide),
    if_pos rfl]
  split
  · next h =>
    rw [hread] at h
    obtain ⟨rfl, rfl⟩ := Prod.mk.inj (Option.some.inj h)
    rfl
  · next h =>
    rw [hread] at h
    cases h

/-- Any other character is a token of its own. -/
theorem lex?_mark {c : Char} (hspace : c.isWhitespace = false) (hword : isWordChar c = false)
    (hquote : c ≠ '"') (line : List Char) :
    lex? (c :: line) = (lex? line).map (.mark c :: ·) := by
  rw [lex?, if_neg (by simp [hspace]), if_neg (by simp [hword]), if_neg hquote]

/-! ## Definitions -/

/-- A definition. -/
inductive Definition where
  /-- A text. -/
  | text (name value : String)
  /-- A table of texts; an entry may be missing. -/
  | table (name : String) (entries : List (Option String))
  deriving DecidableEq, Repr

/-- The name that is defined. -/
def Definition.name : Definition → String
  | .text name _ => name
  | .table name _ => name

/-- What every definition starts with. -/
def keywords : List Token :=
  [.word "static".toList, .word "const".toList, .word "char".toList, .mark '*']

/-- The word for an entry that is missing. -/
def missing : List Token :=
  [.word "nullptr".toList]

/-- The parts of a list that are ended by a mark; none if anything follows the last mark. -/
def ended? (mark : Token) (tokens : List Token) : Option (List (List Token)) :=
  let parts := tokens.splitOn mark
  if parts.getLast? = some [] then some parts.dropLast else none

/-- The text that adjacent literals stand for; none if there is no literal or anything else. -/
def adjacent? : List Token → Option (List Char)
  | [.literal text] => some text
  | .literal text :: tokens => (adjacent? tokens).map (text ++ ·)
  | _ => none

/-- An entry of a table. -/
def entry? (tokens : List Token) : Option (Option String) :=
  if tokens = missing then some none
  else (adjacent? tokens).map fun text => some (String.ofList text)

/-- The definition that tokens form, without the semicolon. -/
def definition? (tokens : List Token) : Option Definition :=
  if keywords.isPrefixOf tokens then
    match tokens.drop keywords.length with
    | .word name :: .mark '=' :: value =>
      (adjacent? value).map fun text => .text (String.ofList name) (String.ofList text)
    | .word name :: .mark '[' :: .mark ']' :: .mark '=' :: .mark '{' :: body =>
      if body.getLast? = some (.mark '}') then
        ((ended? (.mark ',') body.dropLast).bind (·.mapM entry?)).map
          (.table (String.ofList name) ·)
      else none
    | _ => none
  else none

/-! ## The tokens of definitions -/

/-- The literals of a text. -/
def literals (text : String) : List Token :=
  (pieces text.toList).map .literal

/-- The tokens of an entry of a table. -/
def entryTokens : Option String → List Token
  | some text => literals text
  | none => missing

/-- The tokens of a definition. -/
def Definition.tokens : Definition → List Token
  | .text name value => keywords ++ .word name.toList :: .mark '=' :: literals value
  | .table name entries =>
    keywords ++ [.word name.toList, .mark '[', .mark ']', .mark '=', .mark '{'] ++
      entries.flatMap (fun entry => entryTokens entry ++ [.mark ',']) ++ [.mark '}']

/-- Parts without a mark are read from the parts with the mark behind each of them. -/
theorem ended?_flatMap {α : Type} {mark : Token} {parts : List α} {tokens : α → List Token}
    (hparts : ∀ p ∈ parts, mark ∉ tokens p) :
    ended? mark (parts.flatMap fun p => tokens p ++ [mark]) = some (parts.map tokens) := by
  have hsplit : (parts.flatMap fun p => tokens p ++ [mark]).splitOn mark =
      parts.map tokens ++ [[]] := by
    induction parts with
    | nil => rfl
    | cons p parts ih =>
      obtain ⟨hp, hrest⟩ := List.forall_mem_cons.mp hparts
      -- the first cut is the mark behind the first part
      rw [List.flatMap_cons, List.append_assoc, List.singleton_append,
        List.splitOn_append_cons_self, List.splitOn_eq_singleton hp, ih hrest]
      rfl
  simp [ended?, hsplit]

/-- Literals stand for what they hold together. -/
theorem adjacent?_map_literal {texts : List (List Char)} (htexts : texts ≠ []) :
    adjacent? (texts.map .literal) = some texts.flatten := by
  induction texts with
  | nil => exact absurd rfl htexts
  | cons text texts ih =>
    cases texts with
    | nil => simp [adjacent?]
    | cons next texts =>
      have hrest := ih (List.cons_ne_nil _ _)
      rw [List.map_cons] at hrest
      rw [List.map_cons, List.map_cons, adjacent?, hrest]
      · simp
      · exact fun h => List.cons_ne_nil _ _ h

/-- The literals of a text stand for the text. -/
theorem adjacent?_literals (text : String) : adjacent? (literals text) = some text.toList := by
  rw [literals, adjacent?_map_literal (pieces_ne_nil _), flatten_pieces]

/-- A literal is neither a word nor a mark. -/
theorem exists_literal_of_mem_literals {text : String} {token : Token}
    (h : token ∈ literals text) : ∃ piece, token = .literal piece := by
  obtain ⟨piece, -, rfl⟩ := List.mem_map.mp h
  exact ⟨piece, rfl⟩

/-- There is no mark among literals. -/
theorem mark_not_mem_literals (c : Char) (text : String) : .mark c ∉ literals text := by
  intro h
  obtain ⟨piece, h⟩ := exists_literal_of_mem_literals h
  cases h

/-- There is no mark in an entry. -/
theorem mark_not_mem_entryTokens (c : Char) (entry : Option String) :
    .mark c ∉ entryTokens entry := by
  cases entry with
  | none => simp [entryTokens, missing]
  | some text => exact mark_not_mem_literals c text

/-- An entry is read from its tokens. -/
theorem entry?_entryTokens (entry : Option String) : entry? (entryTokens entry) = some entry := by
  cases entry with
  | none => rfl
  | some text =>
    have hliterals : literals text ≠ missing := by
      intro h
      have hword : Token.word "nullptr".toList ∈ literals text := h ▸ List.mem_singleton_self _
      obtain ⟨piece, h⟩ := exists_literal_of_mem_literals hword
      cases h
    rw [entryTokens, entry?, if_neg hliterals, adjacent?_literals]
    simp

/-- What is read one by one is read together. -/
theorem mapM_map_eq_some {α β : Type} {f : α → β} {g : β → Option α}
    (h : ∀ x, g (f x) = some x) (xs : List α) : (xs.map f).mapM g = some xs := by
  induction xs with
  | nil => rfl
  | cons x xs ih =>
    rw [List.map_cons, List.mapM_cons, h, ih]
    rfl

/-- A definition is read from its tokens. -/
theorem definition?_tokens (d : Definition) : definition? d.tokens = some d := by
  cases d with
  | text name value =>
    have htext := adjacent?_literals value
    simp [definition?, Definition.tokens, keywords, htext]
  | table name entries =>
    have hended : ended? (.mark ',')
        (entries.flatMap fun entry => entryTokens entry ++ [.mark ',']) =
          some (entries.map entryTokens) :=
      ended?_flatMap fun entry _ => mark_not_mem_entryTokens ',' entry
    have hentries := mapM_map_eq_some entry?_entryTokens entries
    simp [definition?, Definition.tokens, keywords, hended, hentries]

/-- A definition has no semicolon. -/
theorem semicolon_not_mem_tokens (d : Definition) : .mark ';' ∉ d.tokens := by
  cases d with
  | text name value =>
    have hvalue := mark_not_mem_literals ';' value
    simp [Definition.tokens, keywords, hvalue]
  | table name entries =>
    have hentries (entry : Option String) := mark_not_mem_entryTokens ';' entry
    simp [Definition.tokens, keywords, hentries]

/-! ## Lines -/

/-- The line is a directive. -/
def isDirective (line : List Char) : Bool :=
  line.head? == some '#'

/-- The directives in a text. -/
def directives (text : String) : List (List Char) :=
  (Text.lines text).filter isDirective

/-- The tokens of a text without its directives. -/
def tokens? (text : String) : Option (List Token) :=
  (((Text.lines text).filter fun line => !isDirective line).mapM lex?).map List.flatten

/-- The definitions in a text; none if the text holds anything else. -/
def definitions? (text : String) : Option (List Definition) :=
  (tokens? text).bind fun tokens => (ended? (.mark ';') tokens).bind (·.mapM definition?)

/-- Definitions are read from their tokens. -/
theorem definitions?_of_tokens? {text : String} {ds : List Definition}
    (htokens : tokens? text = some (ds.flatMap fun d => d.tokens ++ [.mark ';'])) :
    definitions? text = some ds := by
  have hended : ended? (.mark ';') (ds.flatMap fun d => d.tokens ++ [.mark ';']) =
      some (ds.map Definition.tokens) :=
    ended?_flatMap fun d _ => semicolon_not_mem_tokens d
  rw [definitions?, htokens, Option.bind_some, hended, Option.bind_some]
  exact mapM_map_eq_some definition?_tokens ds

/-- The directives and the tokens of lines. -/
structure Reads (lines : List (List Char)) (directives : List (List Char)) (tokens : List Token) :
    Prop where
  /-- The lines that are directives. -/
  directives_eq : lines.filter isDirective = directives
  /-- The tokens of the other lines. -/
  tokens_eq : ((lines.filter fun line => !isDirective line).mapM lex?).map List.flatten =
    some tokens

namespace Reads

variable {lines lines' ds ds' : List (List Char)} {tokens tokens' : List Token}

/-- No lines. -/
theorem nil : Reads [] [] [] :=
  ⟨rfl, rfl⟩

/-- Lines are read one after the other. -/
theorem append (h : Reads lines ds tokens) (h' : Reads lines' ds' tokens') :
    Reads (lines ++ lines') (ds ++ ds') (tokens ++ tokens') := by
  refine ⟨by rw [List.filter_append, h.directives_eq, h'.directives_eq], ?_⟩
  obtain ⟨parts, hparts, rfl⟩ := Option.map_eq_some_iff.mp h.tokens_eq
  obtain ⟨parts', hparts', rfl⟩ := Option.map_eq_some_iff.mp h'.tokens_eq
  rw [List.filter_append, List.mapM_append, hparts, hparts']
  exact congrArg some List.flatten_append

/-- A directive. -/
theorem directive {line : List Char} (hline : isDirective line = true) : Reads [line] [line] [] :=
  ⟨by simp [hline], by simp [hline]⟩

/-- A line that is no directive. -/
theorem line {line : List Char} (hline : isDirective line = false)
    (htokens : lex? line = some tokens) : Reads [line] [] tokens :=
  ⟨by simp [hline], by simp [hline, htokens]⟩

/-- Groups of lines are read one after the other. -/
theorem flatMap {α : Type} {xs : List α} {lines ds : α → List (List Char)}
    {tokens : α → List Token} (h : ∀ x ∈ xs, Reads (lines x) (ds x) (tokens x)) :
    Reads (xs.flatMap lines) (xs.flatMap ds) (xs.flatMap tokens) := by
  induction xs with
  | nil => exact nil
  | cons x xs ih =>
    obtain ⟨hx, hrest⟩ := List.forall_mem_cons.mp h
    exact hx.append (ih hrest)

/-- The lines of a text decide how it is read. -/
theorem of_intercalate {texts : List String} (htexts : texts ≠ [])
    (h : Reads (texts.flatMap Text.lines) ds tokens) :
    directives ("\n".intercalate texts) = ds ∧ tokens? ("\n".intercalate texts) = some tokens := by
  rw [CText.directives, tokens?, Text.lines_intercalate htexts]
  exact ⟨h.directives_eq, h.tokens_eq⟩

end Reads

/-- Literals on lines of their own, with something in front of the first and behind the last. -/
theorem reads_intercalate_quote {before after : List Char} {first last : List Token}
    (hbefore : '\n' ∉ before) (hdirective : before.head? ≠ some '#')
    (hfirst : ∀ text line, lex? (before ++ (quote text ++ line)) =
      (lex? line).map fun tokens => first ++ .literal text :: tokens)
    (hafter : '\n' ∉ after) (hlast : lex? after = some last) {texts : List (List Char)}
    (htexts : texts ≠ []) :
    Reads ((before ++ ['\n'].intercalate (texts.map quote) ++ after).splitOn '\n') []
      (first ++ texts.map .literal ++ last) := by
  have hstart (before line : List Char) (text : List Char) (h : before.head? ≠ some '#') :
      isDirective (before ++ (quote text ++ line)) = false := by
    cases before with
    | nil => rfl
    | cons c before => simpa [isDirective] using h
  induction texts generalizing before first with
  | nil => exact absurd rfl htexts
  | cons text texts ih =>
    have hquote := newline_not_mem_quote text
    cases texts with
    | nil =>
      have hline : '\n' ∉ before ++ (quote text ++ after) := by simp [hbefore, hquote, hafter]
      have htokens : lex? (before ++ (quote text ++ after)) =
          some (first ++ .literal text :: last) := by rw [hfirst, hlast, Option.map_some]
      have hreads := Reads.line (hstart before after text hdirective) htokens
      simpa [List.splitOn_eq_singleton hline] using hreads
    | cons next texts =>
      -- the first line ends behind its literal; the others have nothing in front
      have hline : '\n' ∉ before ++ (quote text ++ []) := by simp [hbefore, hquote]
      have htokens : lex? (before ++ (quote text ++ [])) = some (first ++ [.literal text]) := by
        rw [hfirst, lex?_nil, Option.map_some]
      have hreads := Reads.line (hstart before [] text hdirective) htokens
      have hrest := @ih [] [] List.not_mem_nil (by simp) (fun text line => lex?_quote text line)
        (List.cons_ne_nil _ _)
      have hall := hreads.append hrest
      rw [← List.splitOn_eq_singleton hline, ← List.splitOn_append_cons_self] at hall
      simpa [List.intercalate_cons_cons] using hall

/-- The literals of a text, with something in front of the first and behind the last. -/
theorem reads_render {before after : String} {first last : List Token} (text : String)
    (hbefore : '\n' ∉ before.toList) (hdirective : before.toList.head? ≠ some '#')
    (hfirst : ∀ text line, lex? (before.toList ++ (quote text ++ line)) =
      (lex? line).map fun tokens => first ++ .literal text :: tokens)
    (hafter : '\n' ∉ after.toList) (hlast : lex? after.toList = some last) :
    Reads (Text.lines (before ++ render text ++ after)) [] (first ++ literals text ++ last) := by
  have hreads := reads_intercalate_quote hbefore hdirective hfirst hafter hlast
    (pieces_ne_nil text.toList)
  rw [← lines_eq_map_pieces] at hreads
  simpa [Text.lines, render, literals] using hreads

end DemoBuild.CText
