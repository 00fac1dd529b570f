import DemoBuild.Include.Directive
import DemoBuild.Proofs.Text.Lines

/-!
# The first directive of a text

How a directive is written is said here without the search that finds it: `#include`, any white
space, and a target between quotes that holds no quote, or between angle brackets that holds no
closing one. The search then finds the directive that starts furthest to the left, and no other
directive starts there.

## Main definitions

* `Directive.Written`: the directive is spelled as directives are;
* `Directive.Free`: no directive stands anywhere in a text;
* `Directive.First`: a directive stands in a text, and none starts further to the left.

## Main results

* `Directive.atStart?_eq_some_iff`: the directive that a text starts with;
* `Directive.free_of_splitFirst` and `Directive.first_of_splitFirst`: what the search finds;
* `Directive.First.unique`: a text has at most one first directive.
-/

namespace DemoBuild.Directive

/-- The target stands between quotes or angle brackets and does not hold the closing one. -/
inductive Delimited (target : List Char) : List Char → Prop
  | quotes : '"' ∉ target → Delimited target ('"' :: target ++ ['"'])
  | brackets : '>' ∉ target → Delimited target ('<' :: target ++ ['>'])

/-- The directive is `#include`, white space, and a delimited target. -/
def Written (d : Directive) : Prop :=
  ∃ blanks delimited, (∀ c ∈ blanks, Text.isBlank c = true) ∧ Delimited d.target delimited ∧
    d.text = keyword ++ blanks ++ delimited

/-- No directive stands anywhere in the text. -/
def Free (text : List Char) : Prop :=
  ∀ before d after, Written d → text ≠ before ++ d.text ++ after

/-- The text is cut at a directive, and no directive starts further to the left. -/
structure First (text before : List Char) (d : Directive) (after : List Char) : Prop where
  /-- The cut loses nothing. -/
  split : text = before ++ d.text ++ after
  /-- What is cut out is a directive. -/
  written : Written d
  /-- No directive starts further to the left. -/
  leftmost : ∀ {before' d' after'}, Written d' → text = before' ++ d'.text ++ after' →
    before.length ≤ before'.length

/-! ## At the start of a text -/

/-- The two pairs of marks. -/
theorem closing?_eq_some_iff {opening closing : Char} :
    closing? opening = some closing ↔
      opening = '"' ∧ closing = '"' ∨ opening = '<' ∧ closing = '>' := by
  unfold closing?
  split <;> simp_all [eq_comm]

/-- A delimited target starts with the mark that opens it and ends with the one that closes it. -/
theorem delimited_iff {target written : List Char} :
    Delimited target written ↔
      ∃ opening closing, closing? opening = some closing ∧ closing ∉ target ∧
        written = opening :: target ++ [closing] := by
  constructor
  · rintro (h | h)
    · exact ⟨'"', '"', rfl, h, rfl⟩
    · exact ⟨'<', '>', rfl, h, rfl⟩
  · rintro ⟨opening, closing, hclosing, hmem, rfl⟩
    rcases closing?_eq_some_iff.mp hclosing with ⟨rfl, rfl⟩ | ⟨rfl, rfl⟩
    · exact .quotes hmem
    · exact .brackets hmem

/-- A mark that opens a target is not white space. -/
theorem isBlank_eq_false_of_closing? {opening closing : Char}
    (h : closing? opening = some closing) :
    Text.isBlank opening = false := by
  rcases closing?_eq_some_iff.mp h with ⟨rfl, -⟩ | ⟨rfl, -⟩ <;> decide

/-- What is read at the start of a text stands there and is spelled as directives are. -/
theorem written_of_atStart? {text : List Char} {d : Directive} (h : atStart? text = some d) :
    Written d ∧ d.text <+: text := by
  refine ⟨?_, text_prefix_of_atStart? h⟩
  rw [atStart?] at h
  split at h
  case isFalse => simp at h
  next hkeyword =>
  obtain ⟨rest, rfl⟩ := List.isPrefixOf_iff_prefix.mp hkeyword
  rw [List.drop_left] at h
  obtain ⟨blanks, tail, rfl, hblanks, hall, -⟩ := Text.exists_takeWhile_append Text.isBlank rest
  simp only [hblanks, List.drop_left] at h
  split at h
  case h_1 => simp at h
  next opening inner =>
  split at h
  case h_1 => simp at h
  next closing hclosing =>
  obtain ⟨target, tail, rfl, htarget, hfree, hhead⟩ :=
    Text.exists_takeWhile_append (· ≠ closing) inner
  rw [htarget] at h
  split at h
  case isFalse => simp at h
  next hlength =>
  obtain rfl := Option.some.inj h
  -- The target does not end the text, so the mark that closes it follows.
  cases tail with
  | nil => simp at hlength
  | cons c tail =>
    have hc : c = closing := by simpa using hhead c rfl
    subst hc
    refine ⟨blanks, opening :: target ++ [c], hall,
      delimited_iff.mpr ⟨opening, c, hclosing, fun hmem => by simpa using hfree c hmem, rfl⟩, ?_⟩
    have hwhole : keyword ++ (blanks ++ opening :: (target ++ c :: tail)) =
        keyword ++ blanks ++ (opening :: target ++ [c]) ++ tail := by simp
    rw [hwhole, List.take_left']
    simp
    omega

/-- A directive that is spelled as directives are is read where it stands. -/
theorem atStart?_append {d : Directive} (hd : Written d) (rest : List Char) :
    atStart? (d.text ++ rest) = some d := by
  obtain ⟨blanks, delimited, hblanks, hdelimited, htext⟩ := hd
  obtain ⟨opening, closing, hclosing, hmem, rfl⟩ := delimited_iff.mp hdelimited
  have hopening := isBlank_eq_false_of_closing? hclosing
  have hwhole : d.text ++ rest =
      keyword ++ (blanks ++ opening :: (d.target ++ closing :: rest)) := by simp [htext]
  have hblanks' : (blanks ++ opening :: (d.target ++ closing :: rest)).takeWhile Text.isBlank =
      blanks := Text.takeWhile_append hblanks (by simpa using hopening)
  have hinside : ∀ c ∈ d.target, decide (c ≠ closing) = true := by
    intro c hc
    rw [decide_eq_true_eq]
    rintro rfl
    exact hmem hc
  have htarget : (d.target ++ closing :: rest).takeWhile (· ≠ closing) = d.target :=
    Text.takeWhile_append hinside (by simp)
  have htake : (d.text ++ rest).take (keyword.length + blanks.length + d.target.length + 2) =
      d.text := by
    rw [List.take_left']
    simp [htext]
    omega
  rw [hwhole] at htake ⊢
  rw [atStart?, if_pos (List.isPrefixOf_iff_prefix.mpr (List.prefix_append _ _))]
  simp only [List.drop_left, hblanks', hclosing, htarget, htake]
  simp

/-- The directive that a text starts with. -/
theorem atStart?_eq_some_iff {text : List Char} {d : Directive} :
    atStart? text = some d ↔ Written d ∧ d.text <+: text := by
  constructor
  · exact written_of_atStart?
  · rintro ⟨hd, rest, rfl⟩
    exact atStart?_append hd rest

/-! ## Anywhere in a text -/

/-- A directive stands where it is read, and is read where it stands. -/
theorem exists_split_iff {text : List Char} {i : Nat} {d : Directive} :
    atStart? (text.drop i) = some d ∧ i ≤ text.length ↔
      ∃ before after, Written d ∧ before.length = i ∧ text = before ++ d.text ++ after := by
  constructor
  · rintro ⟨hread, hi⟩
    obtain ⟨hd, after, hafter⟩ := atStart?_eq_some_iff.mp hread
    refine ⟨text.take i, after, hd, List.length_take_of_le hi, ?_⟩
    rw [List.append_assoc, hafter, List.take_append_drop]
  · rintro ⟨before, after, hd, rfl, rfl⟩
    rw [List.append_assoc, List.drop_left]
    exact ⟨atStart?_append hd after, by simp⟩

/-- What the search finds, and that there is nothing further to the left. -/
theorem atStart?_of_splitFirst (passed text : List Char) :
    match splitFirst passed text with
    | (_, none) => ∀ i, atStart? (text.drop i) = none
    | (before, some (d, after)) =>
      ∃ skipped, before = passed.reverse ++ skipped ∧ text = skipped ++ d.text ++ after ∧
        Written d ∧ ∀ i < skipped.length, atStart? (text.drop i) = none := by
  induction text generalizing passed with
  | nil =>
    intro i
    rw [List.drop_nil]
    rfl
  | cons c text ih =>
    cases hread : atStart? (c :: text) with
    | some d =>
      obtain ⟨hd, after, hafter⟩ := atStart?_eq_some_iff.mp hread
      simp only [splitFirst, hread]
      refine ⟨[], by simp, ?_, hd, by simp⟩
      rw [← hafter]
      simp
    | none =>
      -- The search goes on behind `c`, where positions count one less.
      have hrest := ih (c :: passed)
      simp only [splitFirst, hread]
      split at hrest
      · rintro (_ | i)
        · exact hread
        · exact hrest i
      · obtain ⟨skipped, hbefore, hsplit, hd, hnone⟩ := hrest
        refine ⟨c :: skipped, by simp [hbefore], by simp [hsplit], hd, ?_⟩
        rintro (_ | i) hi
        · exact hread
        · exact hnone i (by simpa using hi)

/-- The search finds nothing in a text without directives only. -/
theorem free_of_splitFirst {text before : List Char}
    (h : splitFirst [] text = (before, none)) : Free text := by
  have hnone := atStart?_of_splitFirst [] text
  rw [h] at hnone
  intro before d after hd hsplit
  have hread := (exists_split_iff.mpr ⟨before, after, hd, rfl, hsplit⟩).1
  rw [hnone] at hread
  simp at hread

/-- The search finds the first directive. -/
theorem first_of_splitFirst {text before after : List Char} {d : Directive}
    (h : splitFirst [] text = (before, some (d, after))) : First text before d after := by
  have hfound := atStart?_of_splitFirst [] text
  rw [h] at hfound
  obtain ⟨skipped, hbefore, hsplit, hd, hnone⟩ := hfound
  obtain rfl : before = skipped := by simpa using hbefore
  refine ⟨hsplit, hd, fun {before' d' after'} hd' hsplit' => ?_⟩
  by_contra hlt
  have hread := (exists_split_iff.mpr ⟨before', after', hd', rfl, hsplit'⟩).1
  rw [hnone _ (by omega)] at hread
  simp at hread

/-- A text with a first directive is not free of directives. -/
theorem First.not_free {text before after : List Char} {d : Directive}
    (h : First text before d after) : ¬ Free text :=
  fun hfree => hfree before d after h.written h.split

/-- A text has at most one first directive. -/
theorem First.unique {text before after before' after' : List Char} {d d' : Directive}
    (h : First text before d after) (h' : First text before' d' after') :
    before = before' ∧ d = d' ∧ after = after' := by
  have hlength : before.length = before'.length :=
    Nat.le_antisymm (h.leftmost h'.written h'.split) (h'.leftmost h.written h.split)
  have hsplit : before ++ (d.text ++ after) = before' ++ (d'.text ++ after') := by
    rw [← List.append_assoc, ← List.append_assoc, ← h.split, ← h'.split]
  obtain ⟨rfl, hrest⟩ := List.append_inj hsplit hlength
  have hd : some d = some d' := by
    rw [← atStart?_append h.written after, ← atStart?_append h'.written after', hrest]
  obtain rfl := Option.some.inj hd
  exact ⟨rfl, rfl, List.append_cancel_left hrest⟩

end DemoBuild.Directive
