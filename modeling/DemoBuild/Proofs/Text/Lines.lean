import DemoBuild.Text.Blank
import Mathlib.Data.List.DropRight
import Mathlib.Data.List.TakeWhile

/-!
# Cutting text

Facts about `List.splitOn` on which the segments of paths and the lines of generated text rest, the
longest start of a text with a property, and the lines of a text.

## Main definitions

* `Text.lines`: the lines of a text; the last one is empty if the text ends with a line break;
* `Text.ended`: the text of lines each of which ends with a line break;
* `Text.HasLines`: some lines stand in a text one after the other.

## Main results

* `Text.not_mem_of_mem_splitOn`: what stands between the cuts does not hold the character;
* `Text.splitOn_intercalate_eq_flatMap`: a joined list is cut into what its elements are cut into;
* `Text.exists_takeWhile_append`, `Text.takeWhile_append` and `Text.rtakeWhile_append`: a text is
  cut where a property ends, or where it begins;
* `Text.intercalate_lines` and `Text.lines_intercalate`: a text is its lines, joined, and the lines
  of joined texts are the lines of the texts;
* `Text.HasLines.newline_append` and `Text.HasLines.append_newline`: the lines of a text stand in
  longer ones.
-/

namespace DemoBuild.Text

variable {α : Type} [BEq α] [LawfulBEq α]

/-- What stands between two cuts is free of the character at which the text is cut. -/
theorem not_mem_of_mem_splitOn {a : α} {text piece : List α} (hpiece : piece ∈ text.splitOn a) :
    a ∉ piece := by
  induction text generalizing piece with
  | nil =>
    rw [List.splitOn_nil, List.mem_singleton] at hpiece
    simp [hpiece]
  | cons c text ih =>
    rw [List.splitOn_cons_eq_if_modifyHead] at hpiece
    split at hpiece
    · rcases List.mem_cons.mp hpiece with rfl | hrest
      · simp
      · exact ih hrest
    · next hc =>
      -- The first piece grows by `c`, which is not the character; the others stay.
      cases hcut : text.splitOn a with
      | nil => exact absurd hcut (List.splitOn_ne_nil a text)
      | cons first others =>
        rw [hcut, List.modifyHead_cons] at hpiece
        rcases List.mem_cons.mp hpiece with rfl | hother
        · have hfirst : a ∉ first := ih (hcut ▸ List.mem_cons_self)
          have hne : a ≠ c := fun h => hc (beq_iff_eq.mpr h.symm)
          simp [hne, hfirst]
        · exact ih (hcut ▸ List.mem_cons_of_mem _ hother)

/-- A joined list is cut into the pieces of its elements. -/
theorem splitOn_intercalate_eq_flatMap (a : α) {parts : List (List α)} (hparts : parts ≠ []) :
    ([a].intercalate parts).splitOn a = parts.flatMap (·.splitOn a) := by
  induction parts with
  | nil => exact absurd rfl hparts
  | cons part parts ih =>
    cases parts with
    | nil => simp
    | cons next parts =>
      rw [List.intercalate_cons_cons, List.append_assoc, List.singleton_append,
        List.splitOn_append_cons_self, ih (List.cons_ne_nil _ _), ← List.flatMap_cons]

/-- What is joined keeps its elements. -/
theorem mem_intercalate_of_mem {α : Type} {separator part : List α} {parts : List (List α)}
    (hpart : part ∈ parts) {a : α} (ha : a ∈ part) : a ∈ separator.intercalate parts := by
  induction parts with
  | nil => simp at hpart
  | cons first parts ih =>
    rcases parts with _ | ⟨next, parts⟩
    · obtain rfl := List.mem_singleton.mp hpart
      simpa using ha
    · rw [List.intercalate_cons_cons, List.mem_append, List.mem_append]
      rcases List.mem_cons.mp hpart with rfl | hrest
      · exact .inl (.inl ha)
      · exact .inr (ih hrest)

/-- A list is the longest start with a property and what follows it. -/
theorem exists_takeWhile_append {α : Type} (p : α → Bool) (l : List α) :
    ∃ start rest, l = start ++ rest ∧ l.takeWhile p = start ∧ (∀ a ∈ start, p a = true) ∧
      ∀ a ∈ rest.head?, p a = false := by
  refine ⟨l.takeWhile p, l.dropWhile p, List.takeWhile_append_dropWhile.symm, rfl,
    fun a ha => List.mem_takeWhile_imp ha, fun a ha => ?_⟩
  have hhead := List.head?_dropWhile_not p l
  rw [Option.mem_def.mp ha] at hhead
  exact hhead

/-- The longest start with a property is found where it ends. -/
theorem takeWhile_append {α : Type} {p : α → Bool} {start rest : List α}
    (hstart : ∀ a ∈ start, p a = true) (hrest : ∀ a ∈ rest.head?, p a = false) :
    (start ++ rest).takeWhile p = start := by
  rw [List.takeWhile_append_of_pos hstart]
  cases rest with
  | nil => simp
  | cons a rest => simp [hrest a rfl]

/-- What follows the longest start with a property begins where it ends. -/
theorem dropWhile_append {α : Type} {p : α → Bool} {start rest : List α}
    (hstart : ∀ a ∈ start, p a = true) (hrest : ∀ a ∈ rest.head?, p a = false) :
    (start ++ rest).dropWhile p = rest := by
  rw [List.dropWhile_append_of_pos hstart]
  cases rest with
  | nil => simp
  | cons a rest => simp [hrest a rfl]

/-- The longest end with a property is found where it begins. -/
theorem rtakeWhile_append {α : Type} {p : α → Bool} {front last : List α}
    (hlast : ∀ a ∈ last, p a = true) (hfront : ∀ a ∈ front.getLast?, p a = false) :
    (front ++ last).rtakeWhile p = last := by
  rw [List.rtakeWhile, List.reverse_append, takeWhile_append (by simpa using hlast) (by simpa),
    List.reverse_reverse]

/-- What stands in front of the longest end with a property. -/
theorem rdropWhile_append {α : Type} {p : α → Bool} {front last : List α}
    (hlast : ∀ a ∈ last, p a = true) (hfront : ∀ a ∈ front.getLast?, p a = false) :
    (front ++ last).rdropWhile p = front := by
  rw [List.rdropWhile, List.reverse_append, dropWhile_append (by simpa using hlast) (by simpa),
    List.reverse_reverse]

/-- In front of the longest end with a property stands nothing, or something without it. -/
theorem getLast?_rdropWhile {α : Type} (p : α → Bool) (l : List α) :
    ∀ a ∈ (l.rdropWhile p).getLast?, p a = false := by
  intro a ha
  have hne : l.rdropWhile p ≠ [] := by
    intro hnil
    simp [hnil] at ha
  rw [List.getLast?_eq_some_getLast hne, Option.mem_some_iff] at ha
  simpa [ha] using List.rdropWhile_last_not p l hne

/-! ## Lines -/

/-- The lines of a text. -/
def lines (text : String) : List (List Char) :=
  text.toList.splitOn '\n'

/-- A text is its lines, joined. -/
theorem intercalate_lines (text : String) : ['\n'].intercalate (lines text) = text.toList :=
  List.intercalate_splitOn '\n'

/-- A text without line breaks is one line. -/
theorem lines_of_not_mem {text : String} (h : '\n' ∉ text.toList) : lines text = [text.toList] :=
  List.splitOn_eq_singleton h

/-- A line break separates lines. -/
theorem lines_append_newline (a b : String) : lines (a ++ "\n" ++ b) = lines a ++ lines b := by
  rw [lines, lines, lines, ← List.splitOn_append_cons_self]
  simp

/-- Joined texts have the lines of the texts. -/
theorem lines_intercalate {texts : List String} (htexts : texts ≠ []) :
    lines ("\n".intercalate texts) = texts.flatMap lines := by
  have hparts : texts.map String.toList ≠ [] := by simpa using htexts
  rw [lines, String.toList_intercalate]
  change List.splitOn '\n' (['\n'].intercalate (texts.map String.toList)) = _
  rw [splitOn_intercalate_eq_flatMap '\n' hparts, List.flatMap_map]
  rfl

/-- The lines stand in the text, one after the other and each of them on its own. -/
def HasLines (text : String) (lines : List String) : Prop :=
  ∃ before after, text = "\n".intercalate (before ++ lines ++ after)

/-- Lines that follow each other among those in a text stand in it as well. -/
theorem HasLines.of_infix {text : String} {lines part : List String} (h : HasLines text lines)
    (hpart : part <:+: lines) : HasLines text part := by
  obtain ⟨before, after, rfl⟩ := h
  obtain ⟨first, last, rfl⟩ := hpart
  exact ⟨before ++ first, last ++ after, by simp only [List.append_assoc]⟩

theorem hasLines_nil (text : String) : HasLines text [] :=
  ⟨[text], [], by simp⟩

/-- The lines of a text stand in it behind others as well. -/
theorem HasLines.newline_append {text : String} {lines : List String} (h : HasLines text lines)
    (front : String) : HasLines (front ++ "\n" ++ text) lines := by
  by_cases hnil : lines = []
  · rw [hnil]
    exact hasLines_nil _
  · obtain ⟨before, after, rfl⟩ := h
    refine ⟨front :: before, after, ?_⟩
    rw [List.cons_append, List.cons_append, String.intercalate_cons_of_ne_nil (by simp [hnil])]

/-- The lines of a text stand in it in front of others as well. -/
theorem HasLines.append_newline {text : String} {lines : List String} (h : HasLines text lines)
    (rest : String) : HasLines (text ++ "\n" ++ rest) lines := by
  by_cases hnil : lines = []
  · rw [hnil]
    exact hasLines_nil _
  · obtain ⟨before, after, rfl⟩ := h
    refine ⟨before, after ++ [rest], ?_⟩
    have hne : before ++ lines ++ after ≠ [] := by simp [hnil]
    rw [← List.append_assoc, String.intercalate_append_of_ne_nil hne (by simp),
      String.intercalate_singleton]

/-! ## Lines with line breaks -/

/-- The lines, each followed by a line break. -/
def ended (lines : List String) : String :=
  String.join (lines.map (· ++ "\n"))

theorem ended_append (lines lines' : List String) :
    ended (lines ++ lines') = ended lines ++ ended lines' := by
  rw [ended, List.map_append, String.join_append, ended, ended]

/-- Lines that end with line breaks stand in front of what follows them. -/
theorem ended_append_eq_intercalate (lines : List String) (rest : String) :
    ended lines ++ rest = "\n".intercalate (lines ++ [rest]) := by
  induction lines with
  | nil => simp [ended]
  | cons line lines ih =>
    rw [List.cons_append, String.intercalate_cons_of_ne_nil (by simp), ← ih, ended, List.map_cons,
      String.join_cons, String.append_assoc, ended]

theorem hasLines_ended_append (lines : List String) (rest : String) :
    HasLines (ended lines ++ rest) lines :=
  ⟨[], [rest], by rw [ended_append_eq_intercalate, List.nil_append]⟩

end DemoBuild.Text
