import DemoBuild.Proofs.Text.Lines

/-!
# Logical lines

A line of C that ends with a backslash goes on in the next one: backslashes in front of line breaks
are removed, together with the line breaks. What remains between line breaks are the logical lines
of a text.

## Main definitions

* `Text.spliced`: a text without the line breaks that stand behind backslashes;
* `Text.logicalLines`: the lines that remain;
* `Text.Whole`: a line that is a logical line.

## Main results

* `Text.splice_append`: texts are spliced one by one, unless they meet in a line break behind a
  backslash;
* `Text.logicalLines_append_newline`: a line break between two texts separates logical lines;
* `Text.logicalLines_ended_append`: lines that do not go on are logical lines;
* `Text.logicalLines_continued_append`: lines that go on are put together;
* `Text.logicalLines_intercalate_blank`: behind an empty line begins a logical line.
-/

namespace DemoBuild.Text

/-! ## Splicing -/

/-- The text without the line breaks that stand behind backslashes, and without the backslashes. -/
def splice : List Char → List Char
  | '\\' :: '\n' :: text => splice text
  | c :: text => c :: splice text
  | [] => []

@[simp]
theorem splice_continued (text : List Char) : splice ('\\' :: '\n' :: text) = splice text := rfl

/-- A character is kept, unless it is a backslash in front of a line break. -/
theorem splice_cons {c : Char} {text : List Char} (h : c = '\\' → text.head? ≠ some '\n') :
    splice (c :: text) = c :: splice text := by
  rw [splice]
  rintro rest rfl rfl
  exact h rfl rfl

/-- Two texts are spliced one by one, unless the first one ends with a backslash and the second one
begins with a line break. -/
theorem splice_append {a b : List Char} (h : a.getLast? = some '\\' → b.head? ≠ some '\n') :
    splice (a ++ b) = splice a ++ splice b := by
  fun_induction splice a with
  | case1 text ih =>
    refine ih fun hlast => h ?_
    rw [List.getLast?_cons_cons, List.getLast?_cons, hlast]
    rfl
  | case2 c text hkept ih =>
    -- The character is kept on both sides: what follows it is not the line break of a backslash.
    have hnext : c = '\\' → (text ++ b).head? ≠ some '\n' := by
      rintro rfl
      cases text with
      | nil => exact h rfl
      | cons d text => exact fun hd => hkept text rfl (by simpa using hd)
    have hrest : splice (text ++ b) = splice text ++ splice b := by
      refine ih fun hlast => h ?_
      rw [List.getLast?_cons, hlast]
      rfl
    rw [List.cons_append, splice_cons hnext, hrest, List.cons_append]
  | case3 => rfl

/-- A text on one line is kept. -/
theorem splice_eq_self {text : List Char} (h : '\n' ∉ text) : splice text = text := by
  induction text with
  | nil => rfl
  | cons c text ih =>
    obtain ⟨-, hrest⟩ : '\n' ≠ c ∧ '\n' ∉ text := by simpa using h
    rw [splice_cons fun _ hhead => hrest (List.mem_of_mem_head? hhead), ih hrest]

/-- The text without the line breaks that stand behind backslashes, and without the backslashes. -/
def spliced (text : String) : String :=
  String.ofList (splice text.toList)

/-- The logical lines of a text. -/
def logicalLines (text : String) : List String :=
  (lines (spliced text)).map String.ofList

/-- The line is free of line breaks and does not go on in the next one. -/
def Whole (line : String) : Prop :=
  '\n' ∉ line.toList ∧ line.toList.getLast? ≠ some '\\'

instance (line : String) : Decidable (Whole line) :=
  inferInstanceAs (Decidable (_ ∧ _))

/-- A line is whole if its end is, and there is no line break before. -/
theorem Whole.append {a b : String} (hb : Whole b) (hne : b ≠ "") (ha : '\n' ∉ a.toList) :
    Whole (a ++ b) := by
  have hlist : b.toList ≠ [] := by simpa using hne
  constructor
  · simp [ha, hb.1]
  · rw [String.toList_append, List.getLast?_append_of_ne_nil _ hlist]
    exact hb.2

/-- A line on its own is kept. -/
theorem spliced_eq_self {line : String} (h : '\n' ∉ line.toList) : spliced line = line := by
  rw [spliced, splice_eq_self h, String.ofList_toList]

/-- Lines without line breaks are put together, each with the next one, if each ends with a
backslash. -/
theorem spliced_continued_append {lines : List String} (hlines : ∀ line ∈ lines, '\n' ∉ line.toList)
    (rest : String) :
    spliced (ended (lines.map (· ++ "\\")) ++ rest) = String.join lines ++ spliced rest := by
  induction lines with
  | nil => simp [ended]
  | cons line lines ih =>
    obtain ⟨hline, hrest⟩ := List.forall_mem_cons.mp hlines
    -- The backslash behind the line is taken away, and so is the line break.
    have hsplice (text : List Char) : splice (line.toList ++ '\\' :: '\n' :: text) =
        line.toList ++ splice text := by
      rw [splice_append fun _ => by simp, splice_continued, splice_eq_self hline]
    have hjoined := ih hrest
    simp only [spliced, ← String.toList_inj, String.toList_append, String.toList_ofList]
      at hjoined ⊢
    rw [List.map_cons, ended, List.map_cons, String.join_cons, String.join_cons, ← ended]
    simp only [String.toList_append, List.append_assoc]
    rw [← hjoined]
    exact hsplice _

/-! ## Logical lines -/

/-- A line break between two texts separates their logical lines, unless the first text ends with a
backslash. -/
theorem logicalLines_append_newline {a : String} (ha : a.toList.getLast? ≠ some '\\') (b : String) :
    logicalLines (a ++ "\n" ++ b) = logicalLines a ++ logicalLines b := by
  have hspliced : spliced (a ++ "\n" ++ b) = spliced a ++ "\n" ++ spliced b := by
    -- The line break is kept, as nothing in front of it belongs to it.
    have hbreak : splice ('\n' :: b.toList) = '\n' :: splice b.toList := splice_cons nofun
    simp only [spliced, ← String.toList_inj, String.toList_append, String.toList_ofList,
      List.append_assoc]
    rw [splice_append fun h => absurd h ha]
    exact congrArg _ hbreak
  rw [logicalLines, hspliced, lines_append_newline, List.map_append]
  rfl

/-- A text on one line is one logical line. -/
theorem logicalLines_of_not_mem {line : String} (h : '\n' ∉ line.toList) :
    logicalLines line = [line] := by
  rw [logicalLines, spliced_eq_self h, lines_of_not_mem h, List.map_singleton, String.ofList_toList]

/-- Whole lines are logical lines. -/
theorem logicalLines_ended_append {lines : List String} (hlines : ∀ line ∈ lines, Whole line)
    (rest : String) : logicalLines (ended lines ++ rest) = lines ++ logicalLines rest := by
  induction lines with
  | nil => simp [ended]
  | cons line lines ih =>
    obtain ⟨⟨hfree, hend⟩, hrest⟩ := List.forall_mem_cons.mp hlines
    have hended : ended (line :: lines) ++ rest = line ++ "\n" ++ (ended lines ++ rest) := by
      rw [ended, List.map_cons, String.join_cons, String.append_assoc, ended]
    rw [hended, logicalLines_append_newline hend, logicalLines_of_not_mem hfree, ih hrest,
      List.cons_append, List.nil_append, List.cons_append]

/-- Lines that go on are one logical line with the line behind them. -/
theorem logicalLines_continued_append {lines : List String}
    (hlines : ∀ line ∈ lines, '\n' ∉ line.toList) {last : String} (hlast : '\n' ∉ last.toList) :
    logicalLines (ended (lines.map (· ++ "\\")) ++ last) = [String.join lines ++ last] := by
  have hfree : '\n' ∉ (String.join lines ++ last).toList := by
    rw [String.toList_append, String.toList_join, List.mem_append, List.mem_flatMap]
    rintro (⟨line, hline, hmem⟩ | hmem)
    · exact hlines line hline hmem
    · exact hlast hmem
  rw [logicalLines, spliced_continued_append hlines, spliced_eq_self hlast, lines_of_not_mem hfree,
    List.map_singleton, String.ofList_toList]

/-- A backslash on the last line of a definition takes in the empty line behind it. -/
example : logicalLines "#define A \\\nb \\\n" = ["#define A b "] := by decide +kernel

/-- Behind an empty line begins a logical line. -/
theorem logicalLines_intercalate_blank (lines : List String) {rest : List String}
    (hrest : rest ≠ []) :
    logicalLines ("\n".intercalate (lines ++ [""] ++ rest)) =
      logicalLines ("\n".intercalate (lines ++ [""])) ++ logicalLines ("\n".intercalate rest) := by
  rw [String.intercalate_append_of_ne_nil (by simp) hrest]
  refine logicalLines_append_newline ?_ _
  rw [← ended_append_eq_intercalate, String.append_empty]
  -- the text is empty, or it ends with the line break of its last line
  rcases List.eq_nil_or_concat lines with rfl | ⟨lines, last, rfl⟩
  · decide
  · simp [ended]

end DemoBuild.Text
